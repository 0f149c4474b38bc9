import ScriptShell.FileTree.Walk
import ScriptShell.Script.Running
import ScriptShell.Text.Basic
/-!
A script that is being read: its lines and how many of them have been handed out. The whole file is
read before its first line is handed out, so a file that is not text runs nothing. Whoever needs a
line takes the next one, be it for a new statement or for one that is still incomplete, so that no
line is handed out twice.
-/
namespace ScriptShell

/-- The lines of the script that a path names, each with its newline. -/
def scriptLines (files : FileTree) (path : String) : Except ScriptFailure (List String) :=
  match files.read path with
  | .error error => .error (.unreadable path error)
  | .ok bytes =>
    match Text.Utf8.decode bytes with
    | .error fault => .error (.notText path fault)
    | .ok text => .ok (Text.lines text)

structure ScriptReader where
  /-- The spelling by which the script is known. -/
  path : String
  lines : List String := []
  /-- How many of the lines have been handed out. -/
  delivered : Nat := 0
  delivered_le : delivered ≤ lines.length := by simp

namespace ScriptReader

theorem eq_of_fields {r other : ScriptReader} (path : r.path = other.path)
    (lines : r.lines = other.lines) (delivered : r.delivered = other.delivered) : r = other := by
  obtain ⟨_, _, _, _⟩ := r
  obtain ⟨_, _, _, _⟩ := other
  cases path
  cases lines
  cases delivered
  rfl

/-- A script of which no lines are known yet. -/
def unread (path : String) : ScriptReader :=
  { path }

@[simp]
theorem path_unread (path : String) : (unread path).path = path := rfl

/-- The name under which the script is shown: the last name of its path, or the path itself if it
has none. -/
def name (r : ScriptReader) : String :=
  (Path.fileName? r.path).getD r.path

/-- The number of the next line, from 1 on; after the last line it points one past it. -/
def nextNumber (r : ScriptReader) : Nat :=
  r.delivered + 1

/-- The same script with other lines, none of them handed out. -/
def withLines (r : ScriptReader) (lines : List String) : ScriptReader :=
  { path := r.path, lines }

/-- Hands out the next line, if there is one. -/
def next (r : ScriptReader) : Option String × ScriptReader :=
  if h : r.delivered < r.lines.length then
    (some r.lines[r.delivered], { r with delivered := r.delivered + 1, delivered_le := h })
  else (none, r)

def remaining (r : ScriptReader) : List String :=
  r.lines.drop r.delivered

/-- What is handed out is the first of the remaining lines, and the rest of them remain. -/
theorem next_eq_some {r after : ScriptReader} {line : String} (h : r.next = (some line, after)) :
    r.remaining = line :: after.remaining ∧ after.path = r.path ∧ after.lines = r.lines ∧
      after.delivered = r.delivered + 1 := by
  unfold next at h
  split at h
  · next hMore =>
      cases h
      exact ⟨List.drop_eq_getElem_cons hMore, rfl, rfl, rfl⟩
  · cases h

theorem next_eq_none {r after : ScriptReader} (h : r.next = (none, after)) :
    r.remaining = [] ∧ after = r := by
  unfold next at h
  split at h
  · cases h
  · next hNone =>
      cases h
      exact ⟨List.drop_of_length_le (by omega), rfl⟩

/-- Reads the tokens of a statement that starts with `text`. As long as it is incomplete the script
hands out the next line. -/
def readTokens (r : ScriptReader) (text : String) : Except Fault (List Token) × ScriptReader :=
  match tokens text with
  | .ok tokens => (.ok tokens, r)
  | .error fault =>
    if fault.isIncomplete then
      match _h : r.next with
      | (none, r) => (.error (.endOfInput fault), r)
      | (some line, r) => r.readTokens (joinLine text line)
    else (.error (.text fault), r)
termination_by r.remaining.length
decreasing_by simp [(next_eq_some _h).1]

/-- A statement is read from a script as from the list of the lines that remain, and what it took is
handed out. -/
theorem readTokens_eq (r : ScriptReader) (text : String) :
    (r.readTokens text).1 = (ScriptShell.readTokens text r.remaining).result ∧
      (r.readTokens text).2.path = r.path ∧ (r.readTokens text).2.lines = r.lines ∧
      (r.readTokens text).2.delivered =
        r.delivered + (ScriptShell.readTokens text r.remaining).taken := by
  fun_induction readTokens r text with
  | case1 r text ts hTokens =>
      rw [readTokens_of_ok hTokens]
      exact ⟨rfl, rfl, rfl, rfl⟩
  | case2 r text fault hFault hIncomplete after h =>
      obtain ⟨hNone, rfl⟩ := next_eq_none h
      rw [hNone, readTokens_nil_of_incomplete hFault hIncomplete]
      exact ⟨rfl, rfl, rfl, rfl⟩
  | case3 r text fault hFault hIncomplete line after h ih =>
      obtain ⟨hMore, hPath, hLines, hDelivered⟩ := next_eq_some h
      rw [hMore, readTokens_cons_of_incomplete hFault hIncomplete]
      refine ⟨ih.1, ih.2.1.trans hPath, ih.2.2.1.trans hLines, ?_⟩
      rw [ih.2.2.2, hDelivered]
      exact Nat.add_right_comm ..
  | case4 r text fault hFault hComplete =>
      rw [readTokens_of_complete hFault (by simpa using hComplete)]
      exact ⟨rfl, rfl, rfl, rfl⟩

/-- Reads the commands of a statement that starts with `text`. -/
def readStatement (r : ScriptReader) (text : String) :
    Except Fault (List Command) × ScriptReader :=
  let (result, r) := r.readTokens text
  (result.bind commandsOf, r)

theorem length_remaining_readStatement_le (r : ScriptReader) (text : String) :
    (r.readStatement text).2.remaining.length ≤ r.remaining.length := by
  obtain ⟨_, _, hLines, hDelivered⟩ := r.readTokens_eq text
  change (r.readTokens text).2.remaining.length ≤ _
  rw [remaining, remaining, hLines, hDelivered, List.length_drop, List.length_drop]
  omega

end ScriptReader

end ScriptShell
