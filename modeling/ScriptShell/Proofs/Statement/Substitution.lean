import ScriptShell.Proofs.Statement.Grammar
/-!
Scanning on from the middle of a text, and how the scanner takes a substitution: scanning on from
its dollar sign is scanning on from its end, with what it gives added to the word being read. Its
name is found the same way inside double quotes and outside.
-/
namespace ScriptShell

open Grammar

namespace Scan
variable {s t : Scan} {c : Char} {quoted : Bool} {cs text rest : List Char} {items : List Item}
  {ts : List Token}

/-- Scans the rest of a text, up to its end. -/
def run (s : Scan) (cs : List Char) : Except TokenFault (List Token) :=
  (s.advance cs).bind finish

theorem run_cons (h : s.step c = .ok t) (cs : List Char) : s.run (c :: cs) = t.run cs := by
  rw [run, advance_cons, h]
  rfl

theorem run_cons_of_error {fault : TokenFault} (h : s.step c = .error fault) (cs : List Char) :
    s.run (c :: cs) = .error fault := by
  rw [run, advance_cons, h]
  rfl

/-- The scan with more items in its word, which starts here if none was being read. -/
def extend (s : Scan) (items : List Item) : Scan :=
  { s with draft := some (items.foldl addItem s.word) }

theorem extend_nil (h : s.draft.isSome = true) : s.extend [] = s := by
  obtain ⟨mode, tokens, draft⟩ := s
  cases draft with
  | none => cases h
  | some d => rfl

theorem extend_extend (s : Scan) (first second : List Item) :
    (s.extend first).extend second = s.extend (first ++ second) := by
  simp only [extend, word, Option.getD_some, List.foldl_append]

theorem put_eq_extend (s : Scan) (c : Char) : s.put c = s.extend [.char c] := rfl

/-- The mode in which a word is read, inside double quotes or outside. -/
def base (quoted : Bool) : Mode :=
  if quoted then .double else .plain

theorem outside_goto (s : Scan) (mode : Mode) (c : Char) :
    (s.goto mode).outside c = s.outside c := by
  obtain ⟨_, tokens, draft⟩ := s
  cases draft <;> rfl

theorem inside_goto (s : Scan) (mode : Mode) (c : Char) : (s.goto mode).inside c = s.inside c := rfl

theorem run_plain_cons (s : Scan) (c : Char) (cs : List Char) :
    (s.goto .plain).run (c :: cs) = (s.outside c).run cs :=
  (run_cons rfl cs).trans (by rw [outside_goto])

theorem run_double_cons (s : Scan) (c : Char) (cs : List Char) :
    (s.goto .double).run (c :: cs) = (s.inside c).run cs :=
  run_cons rfl cs

theorem run_base_cons (s : Scan) (quoted : Bool) (c : Char) (cs : List Char) :
    (s.goto (base quoted)).run (c :: cs) = (s.resume quoted c).run cs := by
  cases quoted with
  | false => exact run_plain_cons s c cs
  | true => exact run_double_cons s c cs

theorem resume_goto (s : Scan) (mode : Mode) (quoted : Bool) (c : Char) :
    (s.goto mode).resume quoted c = s.resume quoted c := by
  cases quoted with
  | false => exact outside_goto s mode c
  | true => rfl

theorem step_dollar (s : Scan) (quoted : Bool) (c : Char) :
    (s.goto (.dollar quoted)).step c = .ok (
      if c = '\x7b' then s.goto (.braced quoted [])
      else if isNameStart c then s.goto (.name quoted [c])
      else (s.put '$').resume quoted c) := by
  rw [← resume_goto (s.put '$') (.dollar quoted)]
  rfl

theorem step_name (s : Scan) (quoted : Bool) (read : List Char) (c : Char) :
    (s.goto (.name quoted read)).step c = .ok (
      if isNameChar c then s.goto (.name quoted (c :: read))
      else (s.putVariable read.reverse).resume quoted c) := by
  rw [← resume_goto (s.putVariable read.reverse) (.name quoted read)]
  rfl

theorem step_braced (s : Scan) (quoted : Bool) (read : List Char) (c : Char) :
    (s.goto (.braced quoted read)).step c =
      if c = '\x7d' then
        if isName read.reverse then .ok ((s.putVariable read.reverse).goto (base quoted))
        else .error (.badName (String.ofList read.reverse))
      else .ok (s.goto (.braced quoted (c :: read))) := rfl

/-- A name ends where a character follows that is none of its own. -/
theorem run_name {name : List Char} (hName : ∀ c ∈ name, isNameChar c = true)
    (longest : ∀ c ∈ rest.head?, isNameChar c = false) (s : Scan) (read : List Char) :
    (s.goto (.name quoted read)).run (name ++ rest) =
      ((s.putVariable (read.reverse ++ name)).goto (base quoted)).run rest := by
  induction name generalizing read with
  | nil =>
      rw [List.append_nil, List.nil_append]
      cases rest with
      | nil => cases quoted <;> rfl
      | cons c rest =>
          have hOther : isNameChar c = false := longest c rfl
          have hStep := step_name s quoted read c
          rw [if_neg (by simp [hOther])] at hStep
          rw [run_cons hStep, run_base_cons]
  | cons c name ih =>
      obtain ⟨hFirst, hRest⟩ := List.forall_mem_cons.mp hName
      have hStep := step_name s quoted read c
      rw [if_pos hFirst] at hStep
      rw [List.cons_append, run_cons hStep, ih hRest, List.reverse_cons, List.append_assoc,
        List.singleton_append]

theorem run_lone (lone : ∀ c ∈ rest.head?, c ≠ '\x7b' ∧ isNameStart c = false) (s : Scan) :
    (s.goto (.dollar quoted)).run rest = ((s.put '$').goto (base quoted)).run rest := by
  cases rest with
  | nil => cases quoted <;> rfl
  | cons c rest =>
      obtain ⟨hBrace, hStart⟩ := lone c rfl
      have hStep := step_dollar s quoted c
      rw [if_neg hBrace, if_neg (by simp [hStart])] at hStep
      rw [run_cons hStep, run_base_cons]

theorem run_braced {name : List Char} (hName : '\x7d' ∉ name) (s : Scan) (read : List Char) :
    (s.goto (.braced quoted read)).run (name ++ '\x7d' :: rest) =
      if isName (read.reverse ++ name) then
        ((s.putVariable (read.reverse ++ name)).goto (base quoted)).run rest
      else .error (.badName (String.ofList (read.reverse ++ name))) := by
  induction name generalizing read with
  | nil =>
      have hStep := step_braced s quoted read '\x7d'
      rw [List.append_nil, List.nil_append]
      cases hIs : isName read.reverse with
      | true =>
          rw [if_pos rfl, if_pos hIs] at hStep
          rw [run_cons hStep, if_pos rfl]
      | false =>
          rw [if_pos rfl, if_neg (by simp [hIs])] at hStep
          rw [run_cons_of_error hStep, if_neg (by simp)]
  | cons c name ih =>
      rw [List.mem_cons, not_or] at hName
      have hStep := step_braced s quoted read c
      rw [if_neg (Ne.symm hName.1)] at hStep
      rw [List.cons_append, run_cons hStep, ih hName.2, List.reverse_cons, List.append_assoc,
        List.singleton_append]

/-- A brace that is not closed is a fault. -/
theorem run_braced_open (h : '\x7d' ∉ cs) (s : Scan) (read : List Char) :
    (s.goto (.braced quoted read)).run cs = .error .openSubstitution := by
  induction cs generalizing read with
  | nil => rfl
  | cons c cs ih =>
      rw [List.mem_cons, not_or] at h
      have hStep := step_braced s quoted read c
      rw [if_neg (Ne.symm h.1)] at hStep
      rw [run_cons hStep, ih h.2]

theorem isNameChar_of_isNameStart (h : isNameStart c = true) : isNameChar c = true := by
  simp only [isNameStart, isNameChar, Char.isAlphanum, Bool.or_eq_true] at h ⊢
  rcases h with h | h
  · exact .inl (.inl h)
  · exact .inr h

theorem isNameChar_of_mem {name : List Char} (h : isName name = true) :
    ∀ c ∈ name, isNameChar c = true := by
  cases name with
  | nil => cases h
  | cons c name =>
      obtain ⟨hFirst, hRest⟩ := Bool.and_eq_true_iff.mp h
      exact List.forall_mem_cons.mpr
        ⟨isNameChar_of_isNameStart hFirst, List.all_eq_true.mp hRest⟩

/-- A dollar sign opens a word, if it does not stand in one. -/
theorem run_dollar (s : Scan) (quoted : Bool) (cs : List Char) :
    (s.goto (base quoted)).run ('$' :: cs) =
      ((if quoted then s else s.openWord).goto (.dollar quoted)).run cs := by
  rw [run_base_cons]
  cases quoted <;> rfl

theorem run_substitution (h : Substitution text rest items) (s : Scan) (quoted : Bool) :
    (s.goto (base quoted)).run (text ++ rest) = ((s.extend items).goto (base quoted)).run rest := by
  cases h with
  | @named name _ named longest =>
      cases name with
      | nil => cases named
      | cons c name =>
          obtain ⟨hStart, hName⟩ := Bool.and_eq_true_iff.mp named
          have hBrace : c ≠ '\x7b' := by
            rintro rfl
            revert hStart
            decide
          have hStep : ∀ s : Scan, (s.goto (.dollar quoted)).step c =
              .ok (s.goto (.name quoted [c])) := by
            intro s
            rw [step_dollar, if_neg hBrace, if_pos hStart]
          rw [List.cons_append, run_dollar, List.cons_append, run_cons (hStep _),
            run_name (List.all_eq_true.mp hName) longest]
          cases quoted <;> rfl
  | @braced name _ named =>
      have hClosed : '\x7d' ∉ name := by
        intro hMem
        have hChar := isNameChar_of_mem named _ hMem
        revert hChar
        decide
      have hStep : ∀ s : Scan, (s.goto (.dollar quoted)).step '\x7b' =
          .ok (s.goto (.braced quoted [])) := fun s => rfl
      rw [List.cons_append, run_dollar, List.cons_append, run_cons (hStep _), List.append_assoc,
        List.singleton_append, run_braced hClosed, List.reverse_nil, List.nil_append, if_pos named]
      cases quoted <;> rfl
  | lone lone =>
      rw [List.singleton_append, run_dollar, run_lone lone]
      cases quoted <;> rfl

theorem exists_substitution (hRun : (s.goto (.dollar quoted)).run cs = .ok ts) :
    ∃ text rest items, cs = text ++ rest ∧ Substitution ('$' :: text) rest items := by
  cases cs with
  | nil => exact ⟨[], [], _, rfl, .lone (by simp)⟩
  | cons c cs =>
      by_cases hBrace : c = '\x7b'
      · subst hBrace
        have hStep : (s.goto (.dollar quoted)).step '\x7b' =
            .ok (s.goto (.braced quoted [])) := rfl
        rw [run_cons hStep] at hRun
        by_cases hClosed : '\x7d' ∈ cs
        · obtain ⟨name, rest, rfl, hName⟩ := List.eq_append_cons_of_mem hClosed
          rw [run_braced hName] at hRun
          split at hRun
          · next named => exact ⟨'\x7b' :: (name ++ ['\x7d']), rest, _, by simp, .braced named⟩
          · cases hRun
        · rw [run_braced_open hClosed] at hRun
          cases hRun
      · cases hStart : isNameStart c with
        | false => exact ⟨[], c :: cs, _, rfl, .lone (by simp [hBrace, hStart])⟩
        | true =>
            refine ⟨c :: cs.takeWhile isNameChar, cs.dropWhile isNameChar, _, ?_, .named ?_ ?_⟩
            · rw [List.cons_append, List.takeWhile_append_dropWhile]
            · simp only [isName, hStart, Bool.true_and, List.all_takeWhile]
            · intro d hHead
              have hOther := List.head?_dropWhile_not isNameChar cs
              rwa [Option.mem_def.mp hHead] at hOther

end Scan

end ScriptShell
