import ScriptShell.Proofs.Script.Chunks
import ScriptShell.Proofs.Statement.Completion
/-!
Lines that end with a carriage return and a newline. Outside quotes a carriage return is a blank,
and after a backslash it belongs to the newline, so a statement that has its newlines in such places
only is read in the same way whether carriage returns stand before them or not.
-/
namespace ScriptShell

namespace Text

/-- A carriage return before every newline. -/
def returned (cs : List Char) : List Char :=
  cs.flatMap fun c => if c = '\n' then ['\r', '\n'] else [c]

/-- The text with a carriage return before every newline. -/
def withReturns (text : String) : String :=
  String.ofList (returned text.toList)

theorem returned_newline (cs : List Char) :
    returned ('\n' :: cs) = '\r' :: '\n' :: returned cs := rfl

theorem returned_cons {c : Char} (h : c ≠ '\n') (cs : List Char) :
    returned (c :: cs) = c :: returned cs := by
  rw [returned, List.flatMap_cons, if_neg h]
  rfl

theorem toList_withReturns (text : String) : (withReturns text).toList = returned text.toList := by
  rw [withReturns, String.toList_ofList]

theorem withReturns_append (text more : String) :
    withReturns (text ++ more) = withReturns text ++ withReturns more := by
  rw [← String.toList_inj, String.toList_append]
  simp only [toList_withReturns, String.toList_append, returned, List.flatMap_append]

theorem splitAfter_returned (cs : List Char) :
    splitAfter (· == '\n') (returned cs) = (splitAfter (· == '\n') cs).map returned := by
  induction cs with
  | nil => rfl
  | cons c cs ih =>
      by_cases hNewline : c = '\n'
      · subst hNewline
        have hReturn : splitAfter (· == '\n') ('\r' :: '\n' :: returned cs) =
            ['\r', '\n'] :: splitAfter (· == '\n') (returned cs) := rfl
        rw [returned_newline, hReturn, ih]
        rfl
      · have hOther : (c == '\n') = false := by simpa using hNewline
        rw [returned_cons hNewline, splitAfter, splitAfter, hOther, ih]
        cases splitAfter (· == '\n') cs with
        | nil => exact congrArg (fun piece => [piece]) (returned_cons hNewline []).symm
        | cons piece more => simp [returned_cons hNewline]

/-- The lines stay the same lines. -/
theorem lines_withReturns (text : String) :
    lines (withReturns text) = (lines text).map withReturns := by
  rw [lines, lines, toList_withReturns, splitAfter_returned, List.map_map, List.map_map]
  refine List.map_congr_left fun piece _ => ?_
  simp [withReturns]

end Text

open Text

/-- Whether a newline that is read here does no more than to end a line: it stands outside quotes,
or right after a backslash, which it makes a line continuation. One after a backslash and a carriage
return is not counted among these; a text without carriage returns holds none. -/
def Mode.endsLine : Mode → Bool
  | .plain | .continued | .escape | .doubleEscape | .comment => true
  | .dollar quoted | .name quoted _ => !quoted
  | .escapeReturn | .doubleEscapeReturn | .single | .double | .braced _ _ => false

namespace Scan
variable {s : Scan} {cs : List Char}

/-- Whether the newlines of a text that is scanned from here do no more than to end lines. -/
def keepsLines (s : Scan) : List Char → Bool
  | [] => true
  | c :: cs =>
    (c != '\n' || s.mode.endsLine) &&
      match s.step c with
      | .ok t => t.keepsLines cs
      | .error _ => true

theorem keepsLines_of_append {more : List Char} (h : s.keepsLines (cs ++ more) = true) :
    s.keepsLines cs = true := by
  induction cs generalizing s with
  | nil => rfl
  | cons c cs ih =>
      rw [List.cons_append, keepsLines, Bool.and_eq_true] at h
      rw [keepsLines, Bool.and_eq_true]
      refine ⟨h.1, ?_⟩
      cases hStep : s.step c with
      | error fault => rfl
      | ok t =>
          rw [hStep] at h
          exact ih h.2

theorem step_outside_return (s : Scan) : (s.outside '\r').step '\n' = .ok (s.outside '\n') := by
  obtain ⟨_, _, draft⟩ := s
  cases draft <;> rfl

/-- A carriage return before a newline is lost with it. -/
theorem step_return (h : s.mode.endsLine = true) : s.advance ['\r', '\n'] = s.step '\n' := by
  rw [advance_cons]
  obtain ⟨mode, tokens, draft⟩ := s
  cases mode with
  | plain => exact (advance_singleton ..).trans (step_outside_return _)
  | continued => exact (advance_singleton ..).trans (step_outside_return _)
  | escape | doubleEscape | comment => rfl
  | dollar quoted =>
      cases quoted with
      | true => cases h
      | false => exact (advance_singleton ..).trans (step_outside_return _)
  | name quoted read =>
      cases quoted with
      | true => cases h
      | false => exact (advance_singleton ..).trans (step_outside_return _)
  | escapeReturn | doubleEscapeReturn | single | double | braced => cases h

theorem advance_returned (h : s.keepsLines cs = true) : s.advance (returned cs) = s.advance cs := by
  induction cs generalizing s with
  | nil => rfl
  | cons c cs ih =>
      rw [keepsLines, Bool.and_eq_true] at h
      have hRest : (s.step c).bind (·.advance (returned cs)) = (s.step c).bind (·.advance cs) := by
        cases hStep : s.step c with
        | error fault => rfl
        | ok t =>
            rw [hStep] at h
            exact ih h.2
      rw [advance_cons, ← hRest]
      by_cases hNewline : c = '\n'
      · subst hNewline
        have hMode : s.mode.endsLine = true := by simpa using h.1
        change s.advance (['\r', '\n'] ++ returned cs) = _
        rw [advance_append, step_return hMode]
      · rw [returned_cons hNewline, advance_cons]

end Scan

/-- Whether the newlines of a text do no more than to end lines, as far as the text is read. -/
def KeepsLines (text : String) : Prop :=
  Scan.start.keepsLines text.toList = true

instance (text : String) : Decidable (KeepsLines text) :=
  inferInstanceAs (Decidable (_ = _))

theorem tokens_withReturns {text : String} (h : KeepsLines text) :
    tokens (withReturns text) = tokens text := by
  rw [tokens, tokens, toList_withReturns, tokensOf, tokensOf, Scan.advance_returned h]

example : KeepsLines "a \"b\\\nc\" # it's\nd\n" ∧ ¬KeepsLines "'a\nb'\n" := by decide +kernel

/-- The text of a statement, with the further lines that it takes. -/
def statementText (text : String) (more : List String) : String :=
  joinLines text (more.take (readTokens text more).taken)

/-- Whether the statement that starts on the first of some lines keeps its lines. -/
def NextKeepsLines : List String → Prop
  | [] => True
  | text :: more => KeepsLines (statementText text more)

/-- Whether the statements that some lines are cut into keep their lines, the first ones of them. -/
def allKeepLines : (count : Nat) → (lines : List String) → Bool
  | 0, _ => true
  | _ + 1, [] => true
  | count + 1, text :: more =>
    decide (KeepsLines (statementText text more)) &&
      allKeepLines count (more.drop (readTokens text more).taken)

theorem nextKeepsLines_of_all {count : Nat} {lines : List String} (hCount : lines.length ≤ count)
    (h : allKeepLines count lines = true) : NextKeepsLines lines := by
  cases lines with
  | nil => trivial
  | cons text more =>
      cases count with
      | zero => cases hCount
      | succ count =>
          rw [allKeepLines, Bool.and_eq_true] at h
          have hKeeps : KeepsLines (statementText text more) := of_decide_eq_true h.1
          exact hKeeps

theorem keepsLines_of_statementText {text : String} {more : List String}
    (h : KeepsLines (statementText text more)) : KeepsLines text := by
  obtain ⟨rest, hRest⟩ := exists_joinLines text (more.take (readTokens text more).taken)
  rw [statementText, hRest, KeepsLines, String.toList_append] at h
  exact Scan.keepsLines_of_append h

theorem getLast?_withReturns {text : String} (h : text.toList.getLast? = some '\n') :
    (withReturns text).toList.getLast? = some '\n' := by
  obtain ⟨before, hText⟩ := List.getLast?_eq_some_iff.mp h
  rw [toList_withReturns, hText, returned, List.flatMap_append]
  exact List.getLast?_append.trans rfl

theorem joinLine_withReturns {text line : String} {rest : List String}
    (hEnded : Ended (text :: line :: rest)) :
    joinLine (withReturns text) (withReturns line) = withReturns (joinLine text line) := by
  have hLast := getLast?_withReturns (hEnded.1 (List.cons_ne_nil _ _))
  rw [hEnded.join.1, withReturns_append, joinLine, if_pos hLast]

/-- A statement that keeps its lines is read in the same way from lines that end with carriage
returns, and takes as many of them. -/
theorem readTokens_withReturns {text : String} {more : List String} (hEnded : Ended (text :: more))
    (h : KeepsLines (statementText text more)) :
    readTokens (withReturns text) (more.map withReturns) = readTokens text more := by
  have hText := tokens_withReturns (keepsLines_of_statementText h)
  induction more generalizing text with
  | nil => simp only [List.map_nil, readTokens, hText]
  | cons line more ih =>
      cases hTokens : tokens text with
      | ok ts => rw [readTokens_of_ok hTokens, readTokens_of_ok (hText.trans hTokens)]
      | error fault =>
          cases hIncomplete : fault.isIncomplete with
          | false =>
              rw [readTokens_of_complete hTokens hIncomplete,
                readTokens_of_complete (hText.trans hTokens) hIncomplete]
          | true =>
              obtain ⟨hJoin, hNext⟩ := hEnded.join
              rw [statementText, readTokens_cons_of_incomplete hTokens hIncomplete] at h
              change KeepsLines (statementText (joinLine text line) more) at h
              have hRest := ih (hJoin ▸ hNext) h
                (tokens_withReturns (keepsLines_of_statementText h))
              rw [List.map_cons, readTokens_cons_of_incomplete (hText.trans hTokens) hIncomplete,
                readTokens_cons_of_incomplete hTokens hIncomplete, joinLine_withReturns hEnded,
                hRest]

end ScriptShell
