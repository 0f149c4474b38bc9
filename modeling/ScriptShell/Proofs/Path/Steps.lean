import ScriptShell.Path.Basic
/-!
The steps of a path. The pieces between its slashes make it up again, and names that stand between
slashes are the steps that their path asks for.
-/
namespace ScriptShell.Path

/-- What can be a step of a path: it is not empty and holds no slash. -/
def IsStep (name : String) : Prop :=
  name ≠ "" ∧ '/' ∉ name.toList

theorem splitSlash_eq_splitOn (cs : List Char) : splitSlash cs = cs.splitOn '/' := by
  induction cs with
  | nil => rfl
  | cons c rest ih =>
      rw [splitSlash, List.splitOn_cons_eq_if_modifyHead, ih]
      by_cases hSlash : c = '/'
      · simp [hSlash]
      · have hNonempty := List.splitOn_ne_nil '/' rest
        cases hSplit : rest.splitOn '/' with
        | nil => exact absurd hSplit hNonempty
        | cons piece more => simp [hSlash]

theorem slash_not_mem_splitSlash {cs piece : List Char} (h : piece ∈ splitSlash cs) :
    '/' ∉ piece := by
  induction cs generalizing piece with
  | nil => simp_all [splitSlash]
  | cons c rest ih =>
      rw [splitSlash] at h
      by_cases hSlash : c = '/'
      · rw [if_pos hSlash] at h
        rcases List.mem_cons.mp h with rfl | h
        · exact List.not_mem_nil
        · exact ih h
      · rw [if_neg hSlash] at h
        cases hSplit : splitSlash rest with
        | nil => exact absurd (splitSlash_eq_splitOn rest ▸ hSplit) (List.splitOn_ne_nil '/' rest)
        | cons first more =>
            rw [hSplit] at h ih
            rcases List.mem_cons.mp h with rfl | h
            · simpa [Ne.symm hSlash] using ih List.mem_cons_self
            · exact ih (List.mem_cons_of_mem _ h)

theorem isStep_of_mem_steps {path step : String} (h : step ∈ steps path) : IsStep step := by
  rcases List.mem_append.mp h with h | h
  · obtain ⟨hPiece, hNonempty⟩ := List.mem_filter.mp h
    obtain ⟨piece, hMem, rfl⟩ := List.mem_map.mp hPiece
    exact ⟨by simpa using hNonempty, by simpa using slash_not_mem_splitSlash hMem⟩
  · split at h
    · rw [List.mem_singleton.mp h]
      exact ⟨by decide, by decide⟩
    · cases h

theorem isStep_of_mem_names {path name : String} (h : name ∈ names path) : IsStep name := by
  obtain ⟨hPiece, hKept⟩ := List.mem_filter.mp h
  obtain ⟨piece, hMem, rfl⟩ := List.mem_map.mp hPiece
  simp only [Bool.and_eq_true, bne_iff_ne] at hKept
  exact ⟨hKept.1, by simpa using slash_not_mem_splitSlash hMem⟩

theorem intercalate_splitSlash (cs : List Char) : ['/'].intercalate (splitSlash cs) = cs := by
  rw [splitSlash_eq_splitOn, List.intercalate_splitOn]

theorem mem_of_mem_intercalate {α : Type} {a : α} {sep : List α} {pieces : List (List α)}
    (h : a ∈ sep.intercalate pieces) : a ∈ sep ∨ ∃ piece ∈ pieces, a ∈ piece := by
  induction pieces with
  | nil => cases h
  | cons piece rest ih =>
      cases rest with
      | nil => exact .inr ⟨piece, List.mem_cons_self, by simpa using h⟩
      | cons next more =>
          rw [List.intercalate_cons_cons, List.mem_append, List.mem_append] at h
          rcases h with (h | h) | h
          · exact .inr ⟨piece, List.mem_cons_self, h⟩
          · exact .inl h
          · rcases ih h with h | ⟨other, hOther, h⟩
            · exact .inl h
            · exact .inr ⟨other, List.mem_cons_of_mem _ hOther, h⟩

theorem mem_intercalate {α : Type} {a : α} {pieces : List (List α)} {piece : List α}
    (hPiece : piece ∈ pieces) (h : a ∈ piece) (sep : List α) : a ∈ sep.intercalate pieces := by
  induction pieces with
  | nil => cases hPiece
  | cons first rest ih =>
      cases rest with
      | nil =>
          rw [List.mem_singleton.mp hPiece] at h
          simpa using h
      | cons next more =>
          rw [List.intercalate_cons_cons, List.append_assoc, List.mem_append, List.mem_append]
          rcases List.mem_cons.mp hPiece with rfl | hRest
          · exact .inl h
          · exact .inr (.inr (ih hRest))

theorem pieces_slash (path : String) : pieces ("/" ++ path) = "" :: pieces path := by
  simp [pieces, String.toList_append, splitSlash]

theorem endsInSlash_append {path : String} (h : path ≠ "") (before : String) :
    endsInSlash (before ++ path) = endsInSlash path := by
  have hChars : path.toList ≠ [] := mt String.toList_eq_nil_iff.mp h
  rw [endsInSlash, endsInSlash, String.toList_append, List.getLast?_append,
    List.getLast?_eq_some_getLast hChars, Option.some_or]

/-- A slash at the beginning of a path asks for no step. -/
theorem steps_slash {path : String} (h : path ≠ "") : steps ("/" ++ path) = steps path := by
  rw [steps, steps, pieces_slash, endsInSlash_append h, List.filter_cons_of_neg (by simp)]

/-- Pieces that hold no slash are found again between slashes. -/
theorem pieces_intercalate {parts : List String} (h : parts ≠ [])
    (hSlash : ∀ part ∈ parts, '/' ∉ part.toList) : pieces ("/".intercalate parts) = parts := by
  have hParts : parts.map String.toList ≠ [] := by simpa using h
  have hMembers : ∀ piece ∈ parts.map String.toList, '/' ∉ piece := by
    intro piece hPiece
    obtain ⟨part, hPart, rfl⟩ := List.mem_map.mp hPiece
    exact hSlash part hPart
  have hText : ("/".intercalate parts).toList = ['/'].intercalate (parts.map String.toList) := by
    simp
  rw [pieces, splitSlash_eq_splitOn, hText, List.splitOn_intercalate '/' hMembers hParts]
  simp [Function.comp_def]

theorem names_eq_filter (path : String) :
    names path = ((pieces path).filter (· != "")).filter (· != ".") := by
  rw [names, List.filter_filter]
  simp only [Bool.and_comm]

theorem filter_steps {parts : List String} (h : ∀ part ∈ parts, IsStep part) :
    parts.filter (· != "") = parts := by
  rw [List.filter_eq_self]
  intro part hPart
  simpa using (h part hPart).1

theorem intercalate_ne_empty {parts : List String} (h : parts ≠ [])
    (hSteps : ∀ part ∈ parts, IsStep part) : "/".intercalate parts ≠ "" := by
  obtain ⟨part, rest, rfl⟩ := List.exists_cons_of_ne_nil h
  have hPart := (hSteps part List.mem_cons_self).1
  cases rest with
  | nil => simpa using hPart
  | cons next more => simp [String.intercalate_cons_cons, ← String.toList_eq_nil_iff]

theorem endsInSlash_intercalate {parts : List String} (h : parts ≠ [])
    (hSteps : ∀ part ∈ parts, IsStep part) : endsInSlash ("/".intercalate parts) = false := by
  induction parts with
  | nil => exact absurd rfl h
  | cons part rest ih =>
      rw [List.forall_mem_cons] at hSteps
      by_cases hRest : rest = []
      · have hLast : part.toList.getLast? ≠ some '/' :=
          fun hSlash => hSteps.1.2 (List.mem_of_getLast? hSlash)
        simpa [hRest, endsInSlash] using hLast
      · rw [String.intercalate_cons_of_ne_nil hRest,
          endsInSlash_append (intercalate_ne_empty hRest hSteps.2), ih hRest hSteps.2]

/-- Names between slashes are the steps that their path asks for. -/
theorem steps_intercalate {parts : List String} (h : parts ≠ [])
    (hSteps : ∀ part ∈ parts, IsStep part) : steps ("/".intercalate parts) = parts := by
  rw [steps, pieces_intercalate h fun part hPart => (hSteps part hPart).2, filter_steps hSteps,
    endsInSlash_intercalate h hSteps]
  simp

theorem steps_intercalate_slash {parts : List String} (h : parts ≠ [])
    (hSteps : ∀ part ∈ parts, IsStep part) :
    steps ("/".intercalate parts ++ "/") = parts ++ ["."] := by
  have hText : "/".intercalate parts ++ "/" = "/".intercalate (parts ++ [""]) := by
    rw [String.intercalate_append_of_ne_nil h (List.cons_ne_nil _ _), String.intercalate_singleton,
      String.append_empty]
  have hSlash : ∀ part ∈ parts ++ [""], '/' ∉ part.toList := by
    rw [List.forall_mem_append]
    exact ⟨fun part hPart => (hSteps part hPart).2, by simp⟩
  have hEnd : endsInSlash ("/".intercalate parts ++ "/") = true := by simp [endsInSlash]
  have hPieces : pieces ("/".intercalate parts ++ "/") = parts ++ [""] := by
    rw [hText, pieces_intercalate (by simp) hSlash]
  rw [steps, hPieces, hEnd, List.filter_append, filter_steps hSteps]
  simp

end ScriptShell.Path
