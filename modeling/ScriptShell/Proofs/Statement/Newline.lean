import ScriptShell.Proofs.Statement.Excess
import ScriptShell.Statement.Reading
/-!
What a newline does to a scan. It is the one character that joins two lines, and the last one of a
line that has its terminator, so a statement that goes over several lines is understood from what
the scanner makes of it.
-/
namespace ScriptShell

namespace Scan
variable {s t : Scan} {c : Char}

/-- Whether the scanner is not in the middle of a line break. -/
def Settled (s : Scan) : Prop :=
  s.mode ≠ .continued ∧ s.mode ≠ .escapeReturn

/-- Whether a word is being read where a quote is open. -/
def Opened (s : Scan) : Prop :=
  s.finish = .error .openQuote → s.draft.isSome = true

theorem settled_outside : (s.outside c).Settled := by
  unfold outside
  split
  · exact ⟨nofun, nofun⟩
  · split
    · exact ⟨nofun, nofun⟩
    · split <;> exact ⟨nofun, nofun⟩

theorem settled_inside : (s.inside c).Settled := by
  unfold inside
  split <;> exact ⟨nofun, nofun⟩

theorem settled_resume {quoted : Bool} : (s.resume quoted c).Settled := by
  cases quoted with
  | false => exact settled_outside
  | true => exact settled_inside

/-- Any character that is no part of a line break takes the scanner out of it. -/
theorem settled_step (hStep : s.step c = .ok t) (hNewline : c ≠ '\n') (hReturn : c ≠ '\r') :
    t.Settled := by
  obtain ⟨mode, tokens, draft⟩ := s
  unfold step at hStep
  cases mode with
  | plain => cases hStep; exact settled_outside
  | continued => cases hStep; exact settled_outside
  | escape =>
      cases hStep
      split
      · exact absurd rfl hNewline
      · exact absurd rfl hReturn
      · exact ⟨nofun, nofun⟩
  | escapeReturn =>
      cases hStep
      split
      · exact absurd rfl hNewline
      · exact settled_outside
  | single =>
      cases hStep
      split <;> exact ⟨nofun, nofun⟩
  | double => cases hStep; exact settled_inside
  | doubleEscape =>
      cases hStep
      split
      · exact absurd rfl hNewline
      · exact absurd rfl hReturn
      · exact ⟨nofun, nofun⟩
      · exact ⟨nofun, nofun⟩
      · exact ⟨nofun, nofun⟩
      · exact settled_inside
  | doubleEscapeReturn =>
      cases hStep
      split
      · exact absurd rfl hNewline
      · exact settled_inside
  | dollar quoted =>
      cases hStep
      split
      · exact ⟨nofun, nofun⟩
      · split
        · exact ⟨nofun, nofun⟩
        · exact settled_resume
  | name quoted read =>
      cases hStep
      split
      · exact ⟨nofun, nofun⟩
      · exact settled_resume
  | braced quoted read =>
      dsimp only at hStep
      split at hStep
      · split at hStep
        · cases hStep
          cases quoted <;> exact ⟨nofun, nofun⟩
        · cases hStep
      · cases hStep
        exact ⟨nofun, nofun⟩
  | comment => cases hStep; exact ⟨nofun, nofun⟩

theorem opened_of_draft (h : s.draft.isSome = true) : s.Opened := fun _ => h

theorem opened_outside : (s.outside c).Opened := by
  unfold outside
  split
  · exact nofun
  · split
    · exact nofun
    · split
      · exact nofun
      · exact opened_of_draft rfl
      · exact opened_of_draft rfl
      · exact nofun
      · exact nofun
      · exact nofun

theorem opened_inside (h : s.draft.isSome = true) : (s.inside c).Opened := by
  unfold inside
  split
  · exact nofun
  · exact opened_of_draft h
  · exact opened_of_draft h
  · exact opened_of_draft rfl

theorem opened_resume {quoted : Bool} (h : s.draft.isSome = true) : (s.resume quoted c).Opened := by
  cases quoted with
  | false => exact opened_outside
  | true => exact opened_inside h

/-- A quote is opened only as part of a word, and no character inside it ends the word. -/
theorem opened_step (h : s.Opened) (hStep : s.step c = .ok t) : t.Opened := by
  obtain ⟨mode, tokens, draft⟩ := s
  unfold step at hStep
  cases mode with
  | plain => cases hStep; exact opened_outside
  | continued => cases hStep; exact opened_outside
  | escape =>
      cases hStep
      split <;> exact nofun
  | escapeReturn =>
      cases hStep
      split
      · exact nofun
      · exact opened_outside
  | single =>
      cases hStep
      split
      · exact nofun
      · exact opened_of_draft rfl
  | double => cases hStep; exact opened_inside (h rfl)
  | doubleEscape =>
      cases hStep
      split
      · exact opened_of_draft (h rfl)
      · exact opened_of_draft (h rfl)
      · exact opened_of_draft rfl
      · exact opened_of_draft rfl
      · exact opened_of_draft rfl
      · exact opened_inside rfl
  | doubleEscapeReturn =>
      cases hStep
      split
      · exact opened_of_draft (h rfl)
      · exact opened_inside rfl
  | dollar quoted =>
      cases hStep
      split
      · exact nofun
      · split
        · cases quoted with
          | false => exact nofun
          | true => exact opened_of_draft (h rfl)
        · exact opened_resume rfl
  | name quoted read =>
      cases hStep
      split
      · cases quoted with
        | false => exact nofun
        | true => exact opened_of_draft (h rfl)
      · exact opened_resume rfl
  | braced quoted read =>
      dsimp only at hStep
      split at hStep
      · split at hStep
        · cases hStep
          exact opened_of_draft rfl
        · cases hStep
      · cases hStep
        exact nofun
  | comment => cases hStep; exact nofun

/-- What stops the scanner on the way is never cured by a further line. -/
theorem isIncomplete_step {fault : TokenFault} (h : s.step c = .error fault) :
    fault.isIncomplete = false := by
  obtain ⟨mode, tokens, draft⟩ := s
  cases mode with
  | braced quoted read =>
      unfold step at h
      dsimp only at h
      split at h
      · split at h
        · cases h
        · cases h
          rfl
      · cases h
  | _ => cases h

theorem isIncomplete_advance {fault : TokenFault} {cs : List Char}
    (h : s.advance cs = .error fault) : fault.isIncomplete = false := by
  induction cs generalizing s with
  | nil => cases h
  | cons c rest ih =>
      rw [advance_cons] at h
      cases hStep : s.step c with
      | error fault =>
          rw [hStep] at h
          cases h
          exact isIncomplete_step hStep
      | ok middle =>
          rw [hStep] at h
          exact ih h

theorem settled_advance {cs : List Char} (hChars : ∀ c ∈ cs, c ≠ '\n' ∧ c ≠ '\r')
    (hStart : cs = [] → s.Settled) (h : s.advance cs = .ok t) : t.Settled := by
  induction cs generalizing s with
  | nil =>
      cases h
      exact hStart rfl
  | cons c rest ih =>
      rw [advance_cons] at h
      cases hStep : s.step c with
      | error fault => rw [hStep] at h; cases h
      | ok middle =>
          rw [hStep] at h
          have hFirst := hChars c List.mem_cons_self
          exact ih (fun c hc => hChars c (List.mem_cons_of_mem _ hc))
            (fun _ => settled_step hStep hFirst.1 hFirst.2) h

theorem opened_advance {cs : List Char} (hStart : s.Opened) (h : s.advance cs = .ok t) :
    t.Opened := by
  induction cs generalizing s with
  | nil =>
      cases h
      exact hStart
  | cons c rest ih =>
      rw [advance_cons] at h
      cases hStep : s.step c with
      | error fault => rw [hStep] at h; cases h
      | ok middle =>
          rw [hStep] at h
          exact ih (opened_step hStart hStep) h

theorem outside_newline : s.outside '\n' = s.endWord.goto .plain := by
  simp [outside, isGap]

theorem done_endWord (mode : Mode) : (s.endWord.goto mode).done = s.done := by
  obtain ⟨_, tokens, draft⟩ := s
  cases draft <;> rfl

theorem finish_outside_newline : (s.outside '\n').finish = .ok s.done := by
  rw [outside_newline]
  change Except.ok (s.endWord.goto .plain).done = _
  rw [done_endWord]

/-- A newline at the end makes no difference, unless it ends a line break. -/
theorem finish_newline (hSettled : s.Settled) : (s.step '\n').bind finish = s.finish := by
  obtain ⟨mode, tokens, draft⟩ := s
  cases mode with
  | continued => exact absurd rfl hSettled.1
  | escapeReturn => exact absurd rfl hSettled.2
  | plain => exact finish_outside_newline
  | dollar quoted =>
      cases quoted with
      | false => exact finish_outside_newline
      | true => rfl
  | name quoted read =>
      cases quoted with
      | false => exact finish_outside_newline
      | true => rfl
  | _ => rfl

/-- The modes in which the scanner can stand right after a newline. -/
inductive AfterNewline : Mode → Prop
  | plain : AfterNewline .plain
  | continued : AfterNewline .continued
  | single : AfterNewline .single
  | double : AfterNewline .double
  | braced (quoted : Bool) (read : List Char) : AfterNewline (.braced quoted read)
  | comment : AfterNewline .comment

theorem afterNewline_outside : AfterNewline (s.outside '\n').mode := by
  rw [outside_newline]
  exact .plain

theorem afterNewline_resume {quoted : Bool} : AfterNewline (s.resume quoted '\n').mode := by
  cases quoted with
  | false => exact afterNewline_outside
  | true => exact .double

theorem afterNewline_step (hStep : s.step '\n' = .ok t) : AfterNewline t.mode := by
  obtain ⟨mode, tokens, draft⟩ := s
  cases mode with
  | plain => cases hStep; exact afterNewline_outside
  | continued => cases hStep; exact afterNewline_outside
  | escape => cases hStep; exact .continued
  | escapeReturn => cases hStep; exact .continued
  | single => cases hStep; exact .single
  | double => cases hStep; exact .double
  | doubleEscape => cases hStep; exact .double
  | doubleEscapeReturn => cases hStep; exact .double
  | dollar quoted => cases hStep; exact afterNewline_resume
  | name quoted read => cases hStep; exact afterNewline_resume
  | braced quoted read => cases hStep; exact .braced ..
  | comment => cases hStep; exact .comment

/-- Inside quotes a second newline in a row is text. -/
theorem step_newline_of_openQuote (hMode : AfterNewline s.mode)
    (hFinish : s.finish = .error .openQuote) : s.step '\n' = .ok (s.put '\n') := by
  obtain ⟨mode, tokens, draft⟩ := s
  change AfterNewline mode at hMode
  cases hMode with
  | single => rfl
  | double => rfl
  | _ => cases hFinish

/-- After a line continuation a second newline in a row ends the statement. -/
theorem finish_newline_of_openEscape (hMode : AfterNewline s.mode)
    (hFinish : s.finish = .error .openEscape) : (s.step '\n').bind finish = .ok s.done := by
  obtain ⟨mode, tokens, draft⟩ := s
  change AfterNewline mode at hMode
  cases hMode with
  | continued => exact finish_outside_newline
  | _ => cases hFinish

end Scan

end ScriptShell
