import ScriptShell.Script.Lending
import Mathlib.Algebra.Ring.Nat
/-!
What those get to whom a script is lent. However it is lent, they get its lines in order, each of
them once and under its own number, and after the last line nothing more. A statement that is read
from the script is one of them.
-/
namespace ScriptShell.ScriptReader

/-- The answers of a script that has handed out so many lines already, with these lines still to
come: each line with its number, in order, and then none, as often as it is asked. -/
def answersFrom (delivered : Nat) (lines : List String) (times : Nat) : List Answer :=
  ((lines.zipIdx (delivered + 1)).take times).map (fun numbered => ⟨some numbered.1, numbered.2⟩) ++
    List.replicate (times - lines.length) ⟨none, delivered + lines.length⟩

section
variable {delivered times : Nat} {lines : List String}

theorem answersFrom_nil :
    answersFrom delivered [] times = List.replicate times ⟨none, delivered⟩ := by
  simp [answersFrom]

theorem answersFrom_cons (line : String) :
    answersFrom delivered (line :: lines) (times + 1) =
      ⟨some line, delivered + 1⟩ :: answersFrom (delivered + 1) lines times := by
  have hLast : delivered + (lines.length + 1) = delivered + 1 + lines.length := by omega
  simp [answersFrom, List.zipIdx_cons, hLast]

/-- Of all that is answered, the lines are the first of those there are. -/
theorem lines_answersFrom :
    (answersFrom delivered lines times).filterMap Answer.line = lines.take times := by
  induction lines generalizing delivered times with
  | nil => simp [answersFrom_nil]
  | cons line rest ih =>
      cases times with
      | zero => simp [answersFrom]
      | succ times => simp [answersFrom_cons, ih]

end

section
variable (r : ScriptReader)

/-- To ask once more is to ask for the next line first. -/
theorem ask_succ {answer : Option String} {asked : ScriptReader} (h : r.next = (answer, asked))
    (times : Nat) :
    r.ask (times + 1) =
      (⟨answer, asked.delivered⟩ :: (asked.ask times).1, (asked.ask times).2) := by
  rw [ask, h]
  rfl

/-- Someone who asks gets the lines that remain, and the script goes on behind them. The induction
is on how often it is asked. -/
theorem ask_eq (times : Nat) :
    (r.ask times).1 = answersFrom r.delivered r.remaining times ∧
      (r.ask times).2.path = r.path ∧ (r.ask times).2.lines = r.lines ∧
      (r.ask times).2.delivered = min (r.delivered + times) r.lines.length := by
  induction times generalizing r with
  | zero =>
      have hBound := r.delivered_le
      refine ⟨by simp [ask, answersFrom], rfl, rfl, ?_⟩
      change r.delivered = min r.delivered r.lines.length
      omega
  | succ times ih =>
      cases hNext : r.next with
      | mk answer asked =>
          obtain ⟨hAnswers, hPath, hLines, hDelivered⟩ := ih asked
          rw [r.ask_succ hNext]
          cases answer with
          | none =>
              -- The script stays as it is, so it answers the same from now on.
              obtain ⟨hNone, rfl⟩ := next_eq_none hNext
              have hEnd : asked.lines.length ≤ asked.delivered := List.drop_eq_nil_iff.mp hNone
              refine ⟨?_, hPath, hLines, hDelivered.trans (by omega)⟩
              rw [hAnswers, hNone, answersFrom_nil, answersFrom_nil, List.replicate_succ]
          | some line =>
              obtain ⟨hMore, hSamePath, hSameLines, hOne⟩ := next_eq_some hNext
              refine ⟨?_, hPath.trans hSamePath, hLines.trans hSameLines, ?_⟩
              · rw [hAnswers, hMore, answersFrom_cons, hOne]
              · rw [hDelivered, hOne, hSameLines]
                omega

/-- Two who ask one after the other get what one gets who asks as often as both. -/
theorem ask_add (first second : Nat) :
    r.ask (first + second) =
      ((r.ask first).1 ++ ((r.ask first).2.ask second).1, ((r.ask first).2.ask second).2) := by
  induction first generalizing r with
  | zero => simp [ask]
  | succ first ih =>
      rw [Nat.succ_add]
      simp only [ask, ih, List.cons_append]

/-- Those who ask one after another get what one gets who asks as often as all of them. -/
theorem useAll_lend (times : List Nat) : r.useAll (times.map .lend) = r.ask times.sum := by
  induction times generalizing r with
  | nil => rfl
  | cons first rest ih =>
      rw [List.sum_cons, ask_add]
      simp only [List.map_cons, useAll, use, ih]

theorem path_use (u : Use) : (r.use u).2.path = r.path := by
  cases u with
  | fill lines => rfl
  | lend times => exact (r.ask_eq times).2.1

theorem path_useAll (uses : List Use) : (r.useAll uses).2.path = r.path := by
  induction uses generalizing r with
  | nil => rfl
  | cons first rest ih => exact (ih (r.use first).2).trans (r.path_use first)

/-- What is left of a script when a statement was read from it is what someone leaves who asks for
as many lines as the statement took. -/
theorem readStatement_eq_ask (text : String) :
    (r.readStatement text).2 =
      (r.ask (ScriptShell.readStatement text r.remaining).taken).2 := by
  obtain ⟨_, hPath, hLines, hDelivered⟩ := r.readTokens_eq text
  obtain ⟨_, hSamePath, hSameLines, hSame⟩ :=
    r.ask_eq (ScriptShell.readStatement text r.remaining).taken
  have hBound := (r.readTokens text).2.delivered_le
  rw [hLines, hDelivered] at hBound
  have hTaken : (ScriptShell.readStatement text r.remaining).taken =
      (ScriptShell.readTokens text r.remaining).taken := rfl
  rw [hTaken, Nat.min_eq_left hBound] at hSame
  exact eq_of_fields (hPath.trans hSamePath.symm) (hLines.trans hSameLines.symm)
    (hDelivered.trans hSame.symm)

end

/-- A script hands out each of its lines once and in order, to whomever it is lent, and after the
last line nothing more: all who get it one after another get together what one of them would get.
The number of the next line goes from 1 up to one past the last line and stays there, the number of
the last line handed out is how many there were, and the script and its lines stay the same. When
it is given other lines, whatever was done before, all this starts over for them. A statement that
is read from it is no more than someone who asks for lines. -/
theorem hands_out_each_once (r : ScriptReader) (before : List Use) (lines : List String)
    (times : List Nat) :
    let used := (r.useAll before).2.useAll (.fill lines :: times.map .lend)
    used.1 = answersFrom 0 lines times.sum ∧
      used.2.nextNumber = min times.sum lines.length + 1 ∧
      used.2.lastNumber = (used.1.filterMap Answer.line).length ∧
      used.2.path = r.path ∧ used.2.name = r.name ∧ used.2.lines = lines ∧
      ∀ text, (used.2.readStatement text).2 =
        (used.2.ask (ScriptShell.readStatement text used.2.remaining).taken).2 := by
  intro used
  let filled := (r.useAll before).2.withLines lines
  have hUsed : used = filled.ask times.sum := filled.useAll_lend times
  obtain ⟨hAnswers, hPath, hLines, hDelivered⟩ := filled.ask_eq times.sum
  have hSamePath : used.2.path = r.path := by
    rw [hUsed, hPath]
    exact r.path_useAll before
  rw [← hUsed] at hAnswers hLines hDelivered
  have hInOrder : used.1 = answersFrom 0 lines times.sum := hAnswers
  have hCount : used.2.delivered = min times.sum lines.length := by
    rw [hDelivered]
    exact congrArg (min · lines.length) (Nat.zero_add _)
  refine ⟨hInOrder, congrArg (· + 1) hCount, ?_, hSamePath, ?_, hLines, used.2.readStatement_eq_ask⟩
  · rw [hInOrder, lines_answersFrom, List.length_take]
    exact hCount
  · rw [name, name, hSamePath]

example : ((unread "/a").useAll [.fill ["x\n", "y\n"], .lend 1, .lend 0, .lend 3]).1 =
    [⟨some "x\n", 1⟩, ⟨some "y\n", 2⟩, ⟨none, 2⟩, ⟨none, 2⟩] := rfl

end ScriptShell.ScriptReader
