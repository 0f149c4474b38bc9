import ScriptShell.Proofs.Statement.Substitution
import ScriptShell.Proofs.Statement.Terminators
/-!
Which faults a further line can cure. An open quote and an open escape are cured by one line, which
closes the quote or ends the escape wherever the text broke off. Any other fault stays, whatever
lines follow: the newline that joins the next line to a substitution that is still open becomes part
of its name, and no name has a newline in it.
-/
namespace ScriptShell

namespace Scan
variable {s t : Scan} {c : Char} {fault : TokenFault}

/-- Whether a substitution is open with a newline in its name. -/
def Spoilt (s : Scan) : Prop :=
  ∃ quoted read, s.mode = .braced quoted read ∧ '\n' ∈ read

theorem not_isName_of_newline {name : List Char} (h : '\n' ∈ name) : isName name = false := by
  cases hName : isName name with
  | false => rfl
  | true =>
      have hChar := isNameChar_of_mem hName _ h
      revert hChar
      decide

theorem Spoilt.finish (h : s.Spoilt) : s.finish = .error .openSubstitution := by
  obtain ⟨quoted, read, hMode, _⟩ := h
  unfold Scan.finish
  rw [hMode]

/-- No character mends the name. A closing brace ends the scan with a fault. -/
theorem Spoilt.step (h : s.Spoilt) (hStep : s.step c = .ok t) : t.Spoilt := by
  obtain ⟨mode, tokens, draft⟩ := s
  obtain ⟨quoted, read, hMode, hNewline⟩ := h
  change mode = _ at hMode
  subst hMode
  unfold Scan.step at hStep
  dsimp only at hStep
  split at hStep
  · rw [if_neg (by simp [not_isName_of_newline (List.mem_reverse.mpr hNewline)])] at hStep
    cases hStep
  · cases hStep
    exact ⟨quoted, c :: read, rfl, List.mem_cons_of_mem _ hNewline⟩

theorem Spoilt.advance (h : s.Spoilt) {cs : List Char} (hAdvance : s.advance cs = .ok t) :
    t.Spoilt := by
  induction cs generalizing s with
  | nil =>
      cases hAdvance
      exact h
  | cons c cs ih =>
      rw [advance_cons] at hAdvance
      cases hStep : s.step c with
      | error fault => rw [hStep] at hAdvance; cases hAdvance
      | ok middle =>
          rw [hStep] at hAdvance
          exact ih (h.step hStep) hAdvance

theorem Spoilt.run (h : s.Spoilt) (cs : List Char) :
    ∃ fault, s.run cs = .error fault ∧ fault.isIncomplete = false := by
  unfold Scan.run
  cases hAdvance : s.advance cs with
  | error fault => exact ⟨fault, rfl, isIncomplete_advance hAdvance⟩
  | ok t => exact ⟨.openSubstitution, (h.advance hAdvance).finish, rfl⟩

/-- What is open at the end of a text and is no quote or escape is a substitution. -/
theorem mode_of_finish (hFinish : s.finish = .error fault)
    (hCureless : fault.isIncomplete = false) :
    ∃ quoted read, s.mode = .braced quoted read := by
  obtain ⟨mode, tokens, draft⟩ := s
  cases mode with
  | braced quoted read => exact ⟨quoted, read, rfl⟩
  | dollar quoted =>
      cases quoted with
      | false => cases hFinish
      | true =>
          cases hFinish
          cases hCureless
  | name quoted read =>
      cases quoted with
      | false => cases hFinish
      | true =>
          cases hFinish
          cases hCureless
  | _ => cases hFinish <;> cases hCureless

/-- A newline in an open substitution spoils it. -/
theorem exists_spoilt (hFinish : s.finish = .error fault) (hCureless : fault.isIncomplete = false) :
    ∃ t, s.step '\n' = .ok t ∧ t.Spoilt := by
  obtain ⟨quoted, read, hMode⟩ := mode_of_finish hFinish hCureless
  obtain ⟨mode, tokens, draft⟩ := s
  change mode = _ at hMode
  subst hMode
  exact ⟨_, rfl, quoted, '\n' :: read, rfl, List.mem_cons_self⟩

theorem finish_resume_newline {quoted : Bool}
    (hFinish : (s.resume quoted '\n').finish = .error fault) : fault.isIncomplete = true := by
  cases quoted with
  | false =>
      have hOutside : (s.resume false '\n').finish = .ok s.done := finish_outside_newline
      rw [hOutside] at hFinish
      cases hFinish
  | true =>
      cases hFinish
      rfl

/-- A substitution that is open right after a newline was open before it. -/
theorem spoilt_step_newline (hStep : s.step '\n' = .ok t) (hFinish : t.finish = .error fault)
    (hCureless : fault.isIncomplete = false) : t.Spoilt := by
  have hNot (u : Scan) (quoted : Bool) (hSame : u.resume quoted '\n' = t) : False := by
    subst hSame
    rw [finish_resume_newline hFinish] at hCureless
    cases hCureless
  obtain ⟨mode, tokens, draft⟩ := s
  cases mode with
  | braced quoted read =>
      cases hStep
      exact ⟨quoted, '\n' :: read, rfl, List.mem_cons_self⟩
  | plain | continued => exact (hNot _ false (Except.ok.inj hStep)).elim
  | dollar quoted => exact (hNot _ quoted (Except.ok.inj hStep)).elim
  | name quoted read => exact (hNot _ quoted (Except.ok.inj hStep)).elim
  | comment => cases hStep; cases hFinish
  | _ => cases hStep; cases hFinish; cases hCureless

/-- What completes a statement from where its text has come to. A blank goes before the closing
quote, since a backslash before it would escape it. -/
def completion : Mode → List Char
  | .single => ['\'']
  | .escape | .continued => [' ']
  | _ => [' ', '"']

theorem completion_ne_nil (mode : Mode) : completion mode ≠ [] := by
  cases mode <;> simp [completion]

theorem not_mem_completion (mode : Mode) :
    '\n' ∉ completion mode ∧ '\r' ∉ completion mode := by
  cases mode <;> simp [completion]

/-- It does so whether or not the newline that joins it has been read. -/
theorem run_completion (hFinish : s.finish = .error fault)
    (hIncomplete : fault.isIncomplete = true) :
    (∃ ts, s.run (completion s.mode) = .ok ts) ∧
      ∃ ts, s.run ('\n' :: completion s.mode) = .ok ts := by
  obtain ⟨mode, tokens, draft⟩ := s
  cases mode with
  | plain | comment | escapeReturn => cases hFinish
  | braced quoted read =>
      cases hFinish
      cases hIncomplete
  | dollar quoted | name quoted read =>
      cases quoted with
      | false => cases hFinish
      | true => exact ⟨⟨_, rfl⟩, _, rfl⟩
  | _ => exact ⟨⟨_, rfl⟩, _, rfl⟩

end Scan

section
variable {text : String} {fault : TokenFault}

theorem tokens_append {s : Scan} (h : scan text = .ok s) (more : String) :
    tokens (text ++ more) = s.run more.toList := by
  rw [tokens_eq_scan, scan_append, h]
  rfl

/-- One line completes a statement that is incomplete, with its newline or without. -/
theorem exists_completion (h : tokens text = .error fault)
    (hIncomplete : fault.isIncomplete = true) :
    ∃ line, Unterminated line ∧ (∃ ts, tokens (joinLine text line) = .ok ts) ∧
      ∃ ts, tokens (joinLine text (terminated line)) = .ok ts := by
  obtain ⟨s, hScan, hFinish⟩ := exists_scan h hIncomplete
  obtain ⟨hHere, hNext⟩ := Scan.run_completion hFinish hIncomplete
  let line := String.ofList (Scan.completion s.mode)
  have hChars : line.toList = Scan.completion s.mode := String.toList_ofList
  have hLine : Unterminated line := by
    unfold Unterminated
    rw [hChars]
    exact Scan.not_mem_completion s.mode
  have hSome : line ≠ "" := by
    rw [ne_eq, ← String.toList_eq_nil_iff, hChars]
    exact Scan.completion_ne_nil s.mode
  have hJoin : ∃ ts, tokens (joinLine text line) = .ok ts := by
    unfold joinLine
    split
    · rwa [tokens_append hScan, hChars]
    · rwa [String.append_assoc, tokens_append hScan, String.toList_append, hChars]
  have hNewline : joinLine text (terminated line) = closed text ++ line ++ "\n" := by
    rw [joinLine_eq_closed, terminated, String.append_assoc]
  refine ⟨line, hLine, hJoin, ?_⟩
  rw [hNewline, tokens_newline _ hLine fun hNone => absurd hNone hSome, ← joinLine_eq_closed]
  exact hJoin

/-- The text of a statement with further lines joined to it, each on a line of its own. -/
def joinLines (text : String) (more : List String) : String :=
  more.foldl joinLine text

theorem exists_joinLines (text : String) (more : List String) :
    ∃ rest, joinLines text more = text ++ rest := by
  induction more generalizing text with
  | nil => exact ⟨"", String.append_empty.symm⟩
  | cons line more ih =>
      obtain ⟨rest, hRest⟩ := ih (joinLine text line)
      have hJoin : ∃ added, joinLine text line = text ++ added := by
        unfold joinLine
        split
        · exact ⟨line, rfl⟩
        · exact ⟨"\n" ++ line, String.append_assoc⟩
      obtain ⟨added, hAdded⟩ := hJoin
      refine ⟨added ++ rest, ?_⟩
      rw [← String.append_assoc, ← hAdded, ← hRest]
      rfl

theorem exists_joinLines_cons (text line : String) (more : List String) :
    ∃ rest, joinLines text (line :: more) = closed text ++ rest := by
  obtain ⟨rest, hRest⟩ := exists_joinLines (joinLine text line) more
  refine ⟨line ++ rest, ?_⟩
  rw [← String.append_assoc, ← joinLine_eq_closed, ← hRest]
  rfl

/-- If an open substitution is all that is wrong, the newline at the end of the line spoils it. -/
theorem exists_scan_closed {s : Scan} (hScan : scan text = .ok s)
    (hFinish : s.finish = .error fault) (hCureless : fault.isIncomplete = false) :
    ∃ t, scan (closed text) = .ok t ∧ t.Spoilt := by
  obtain ⟨start, hStart⟩ := exists_closed text
  by_cases hEnded : text.toList.getLast? = some '\n'
  · have hSame : closed text = text := if_pos hEnded
    rw [hSame] at hStart ⊢
    rw [hStart, scan_newline] at hScan
    cases hBefore : scan start with
    | error other => rw [hBefore] at hScan; cases hScan
    | ok before =>
        rw [hBefore] at hScan
        refine ⟨s, ?_, Scan.spoilt_step_newline hScan hFinish hCureless⟩
        rw [hStart, scan_newline, hBefore]
        exact hScan
  · have hClosed : closed text = text ++ "\n" := if_neg hEnded
    rw [hClosed, scan_newline, hScan]
    exact Scan.exists_spoilt hFinish hCureless

/-- Once the line is ended, nothing that is added to the text cures such a fault. -/
theorem tokens_closed_append (h : tokens text = .error fault)
    (hCureless : fault.isIncomplete = false) (more : String) :
    ∃ other, tokens (closed text ++ more) = .error other ∧ other.isIncomplete = false := by
  rw [tokens_eq_scan] at h
  cases hScan : scan text with
  | error other =>
      have hClosed : scan (closed text ++ more) = .error other := by
        rw [← joinLine_eq_closed]
        obtain ⟨rest, hRest⟩ := exists_joinLines text [more]
        change joinLine text more = _ at hRest
        rw [hRest, scan_append, hScan]
        rfl
      refine ⟨other, ?_, Scan.isIncomplete_advance hScan⟩
      rw [tokens_eq_scan, hClosed]
      rfl
  | ok s =>
      rw [hScan] at h
      obtain ⟨t, hClosed, hSpoilt⟩ := exists_scan_closed hScan h hCureless
      rw [tokens_append hClosed]
      exact hSpoilt.run _

theorem tokens_joinLines (h : tokens text = .error fault) (hCureless : fault.isIncomplete = false)
    (more : List String) :
    ∃ other, tokens (joinLines text more) = .error other ∧ other.isIncomplete = false := by
  cases more with
  | nil => exact ⟨fault, h, hCureless⟩
  | cons line more =>
      obtain ⟨rest, hRest⟩ := exists_joinLines_cons text line more
      rw [hRest]
      exact tokens_closed_append h hCureless rest

/-- A fault is incomplete exactly if further lines can cure it: those that a statement reads, or any
that are joined to its text. One line is enough then, and a statement asks for a line just in that
case. Any other fault is told at once, and stays whatever is joined to the text. -/
theorem isIncomplete_iff_curable (h : tokens text = .error fault) :
    (fault.isIncomplete = true ↔ ∃ more ts, (readTokens text more).result = .ok ts) ∧
      (fault.isIncomplete = true ↔ ∃ more ts, tokens (joinLines text more) = .ok ts) ∧
      (fault.isIncomplete = true → ∃ line, Unterminated line ∧
        (∃ ts, readTokens text [line] = ⟨.ok ts, 1⟩) ∧
          ∃ ts, readTokens text [terminated line] = ⟨.ok ts, 1⟩) ∧
      (∀ line more, fault.isIncomplete = true ↔ 0 < (readTokens text (line :: more)).taken) ∧
      (fault.isIncomplete = false → ∀ more, readTokens text more = ⟨.error (.text fault), 0⟩ ∧
        ∃ other, tokens (joinLines text more) = .error other ∧ other.isIncomplete = false) := by
  cases hIncomplete : fault.isIncomplete with
  | true =>
      obtain ⟨line, hLine, ⟨ts, hBare⟩, us, hTerminated⟩ := exists_completion h hIncomplete
      have hRead (line : String) (ts : List Token) (hJoin : tokens (joinLine text line) = .ok ts) :
          readTokens text [line] = ⟨.ok ts, 1⟩ := by
        rw [readTokens_cons_of_incomplete h hIncomplete, readTokens_of_ok hJoin]
      have hHere := hRead line ts hBare
      refine ⟨?_, ?_, ?_, ?_, nofun⟩
      · exact iff_of_true rfl ⟨[line], ts, by rw [hHere]⟩
      · exact iff_of_true rfl ⟨[line], ts, hBare⟩
      · exact fun _ => ⟨line, hLine, ⟨ts, hHere⟩, us, hRead _ us hTerminated⟩
      · intro line more
        rw [readTokens_cons_of_incomplete h hIncomplete]
        exact iff_of_true rfl (Nat.succ_pos _)
  | false =>
      have hRead := readTokens_of_complete h hIncomplete
      have hJoin := tokens_joinLines h hIncomplete
      refine ⟨?_, ?_, nofun, ?_, fun _ more => ⟨hRead more, hJoin more⟩⟩
      · apply iff_of_false (by simp)
        rintro ⟨more, ts, hOk⟩
        rw [hRead more] at hOk
        cases hOk
      · apply iff_of_false (by simp)
        rintro ⟨more, ts, hOk⟩
        obtain ⟨other, hError, _⟩ := hJoin more
        rw [hOk] at hError
        cases hError
      · intro line more
        rw [hRead]
        exact iff_of_false (by simp) (Nat.lt_irrefl 0)

/-- A closing brace on the next line comes too late, and so does anything after it. -/
theorem not_curable_openSubstitution :
    tokens "echo \"$\x7bHOME" = .error .openSubstitution ∧
      ∀ more ts, tokens (joinLines "echo \"$\x7bHOME" more) ≠ .ok ts := by
  have hOpen : tokens "echo \"$\x7bHOME" = .error .openSubstitution := by rfl
  refine ⟨hOpen, fun more ts hOk => ?_⟩
  have hCured := (isIncomplete_iff_curable hOpen).2.1.mpr ⟨more, ts, hOk⟩
  cases hCured

end

end ScriptShell
