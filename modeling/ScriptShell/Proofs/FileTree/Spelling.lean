import ScriptShell.Proofs.FileTree.Canonical
/-!
The absolute spelling of a path, in which single dots and repeated slashes are left out. The walk
along it comes to the same as the walk along the path, but for one case: a dot at the end of a path,
with no slash behind it, asks for a directory, and its spelling does not.
-/
namespace ScriptShell

namespace Path

/-- The absolute spelling of a path. The empty path has none and stands for itself. -/
def spelling (path : String) : String :=
  (absolute? path).getD path

/-- The slash that is kept at the end of a path that goes through names. -/
def lastSlash (path : String) : String :=
  if endsInSlash path then "/" else ""

theorem spelling_of_names {path : String} (hNames : names path ≠ []) :
    spelling path = rootOf path ++ "/".intercalate (names path) ++ lastSlash path := by
  have hSome : path.isEmpty = false := by
    rw [String.isEmpty_eq_false_iff]
    rintro rfl
    exact hNames rfl
  have hKept : (names path).isEmpty = false := by simpa using hNames
  simp [spelling, absolute?, hSome, hKept, lastSlash]

theorem rootOf_cases (path : String) : rootOf path = "/" ∨ rootOf path = "//" := by
  unfold rootOf
  split
  · exact .inl rfl
  · exact .inr rfl
  · exact .inl rfl

theorem spelling_ne_empty {path : String} (hNames : names path ≠ []) : spelling path ≠ "" := by
  rw [spelling_of_names hNames, String.append_assoc]
  intro hNone
  have hRoot := (String.append_eq_empty_iff.mp hNone).1
  rcases rootOf_cases path with h | h <;> simp [h] at hRoot

/-- The steps of the spelling are those of the path without its dots, but for a slash at the end. -/
theorem steps_spelling {path : String} (hNames : names path ≠ []) :
    steps (spelling path) = names path ++ if endsInSlash path then ["."] else [] := by
  have hSteps : ∀ name ∈ names path, IsStep name := fun name => isStep_of_mem_names
  have hSome : "/".intercalate (names path) ++ lastSlash path ≠ "" := by
    intro hNone
    exact intercalate_ne_empty hNames hSteps (String.append_eq_empty_iff.mp hNone).1
  have hRooted :
      steps (spelling path) = steps ("/".intercalate (names path) ++ lastSlash path) := by
    rw [spelling_of_names hNames, String.append_assoc]
    rcases rootOf_cases path with hRoot | hRoot
    · rw [hRoot, steps_slash hSome]
    · have hTwo : rootOf path = "/" ++ "/" := hRoot
      rw [hTwo, String.append_assoc, steps_slash (by simp [← String.toList_eq_nil_iff]),
        steps_slash hSome]
  rw [hRooted, lastSlash]
  split
  · exact steps_intercalate_slash hNames hSteps
  · rw [String.append_empty, List.append_nil]
    exact steps_intercalate hNames hSteps

/-- No character gets lost in the spelling, dots and slashes apart. -/
theorem mem_spelling_of_mem {path : String} {c : Char} (h : c ∈ path.toList) (hSlash : c ≠ '/')
    (hDot : c ≠ '.') : c ∈ (spelling path).toList := by
  have hPiece : ∃ piece ∈ splitSlash path.toList, c ∈ piece := by
    rw [← intercalate_splitSlash path.toList] at h
    exact (mem_of_mem_intercalate h).resolve_left (by simpa using hSlash)
  obtain ⟨piece, hMem, hChar⟩ := hPiece
  have hName : String.ofList piece ∈ names path := by
    refine List.mem_filter.mpr ⟨List.mem_map_of_mem hMem, ?_⟩
    simp only [Bool.and_eq_true, bne_iff_ne]
    constructor
    · intro hNone
      rw [← String.toList_eq_nil_iff, String.toList_ofList] at hNone
      rw [hNone] at hChar
      cases hChar
    · intro hSingle
      have hText := congrArg String.toList hSingle
      rw [String.toList_ofList] at hText
      rw [hText] at hChar
      exact hDot (List.mem_singleton.mp hChar)
  rw [spelling_of_names (List.ne_nil_of_mem hName)]
  have hChars : c ∈ (String.ofList piece).toList := by rwa [String.toList_ofList]
  have hKept := mem_intercalate (List.mem_map_of_mem hName) hChars ['/']
  rw [String.toList_append, String.toList_append, String.toList_intercalate]
  exact List.mem_append_left _ (List.mem_append_right _ hKept)

theorem not_mem_spelling {path : String} {c : Char} (h : c ∉ path.toList) (hSlash : c ≠ '/')
    (hNames : names path ≠ []) : c ∉ (spelling path).toList := by
  have hRoot : c ∉ (rootOf path).toList := by
    rcases rootOf_cases path with hRoot | hRoot <;> simp [hRoot, hSlash]
  have hLast : c ∉ (lastSlash path).toList := by
    unfold lastSlash
    split <;> simp [hSlash]
  have hParts : c ∉ ("/".intercalate (names path)).toList := by
    rw [String.toList_intercalate]
    intro hMem
    rcases mem_of_mem_intercalate hMem with hSep | ⟨piece, hPiece, hChar⟩
    · exact hSlash (by simpa using hSep)
    · obtain ⟨name, hName, rfl⟩ := List.mem_map.mp hPiece
      obtain ⟨part, hPart, rfl⟩ := List.mem_map.mp (List.mem_filter.mp hName).1
      rw [String.toList_ofList] at hChar
      rw [← intercalate_splitSlash path.toList] at h
      exact h (mem_intercalate hPart hChar ['/'])
  rw [spelling_of_names hNames, String.toList_append, String.toList_append, List.mem_append,
    List.mem_append, not_or, not_or]
  exact ⟨⟨hRoot, hParts⟩, hLast⟩

end Path

namespace FileTree
variable {t : FileTree}

theorem walkWith_dot (follow : Location → String → List String → Except FileError Location)
    (dir : Location) (step : String) (rest : List String) :
    t.walkWith .direct follow dir ("." :: step :: rest) =
      t.walkWith .direct follow dir (step :: rest) := by
  rw [walkWith, if_pos rfl]
  split
  · rfl
  · next hDirectory => simp [walkWith, hDirectory, Approach.refusesPlace]

/-- A dot in front of a further step changes nothing, since that step needs a directory as well. -/
theorem walk_dot (links : Nat) (dir : Location) (step : String) (rest : List String) :
    t.walk .direct links dir ("." :: step :: rest) = t.walk .direct links dir (step :: rest) := by
  cases links <;> exact walkWith_dot ..

section
variable {way : Approach}
  {follow : Location → String → List String → Except FileError Location}
  {rest other : List String}

theorem walkWith_append_congr
    (hFollow : ∀ dir target steps,
      follow dir target (steps ++ rest) = follow dir target (steps ++ other))
    (h : ∀ dir, t.walkWith way follow dir rest = t.walkWith way follow dir other) (dir : Location)
    (steps : List String) :
    t.walkWith way follow dir (steps ++ rest) = t.walkWith way follow dir (steps ++ other) := by
  induction steps generalizing dir with
  | nil => exact h dir
  | cons step steps ih =>
      rw [List.cons_append, List.cons_append, walkWith, walkWith]
      simp only [ih, hFollow]

/-- Walks that go on the same way are the same. The induction is on the links that may be followed:
a link puts the steps of its target in front of what remains. -/
theorem walk_append_congr
    (h : ∀ links dir, t.walk way links dir rest = t.walk way links dir other) (links : Nat)
    (dir : Location) (steps : List String) :
    t.walk way links dir (steps ++ rest) = t.walk way links dir (steps ++ other) := by
  induction links generalizing dir steps with
  | zero =>
      refine walkWith_append_congr (fun _ _ _ => ?_) (h 0) dir steps
      rfl
  | succ links ih =>
      refine walkWith_append_congr (fun dir target steps => ?_) (h (links + 1)) dir steps
      rw [← List.append_assoc, ← List.append_assoc]
      exact ih _ _

end

/-- Only the last step can be a dot that counts. -/
theorem walk_undotted (links : Nat) (dir : Location) (steps : List String) (last : String) :
    t.walk .direct links dir (steps ++ [last]) =
      t.walk .direct links dir (steps.filter (· != ".") ++ [last]) := by
  induction steps generalizing links dir with
  | nil => rfl
  | cons step steps ih =>
      by_cases hDot : step = "."
      · obtain ⟨next, more, hSome⟩ := List.exists_cons_of_ne_nil
          (List.append_ne_nil_of_right_ne_nil steps (List.cons_ne_nil last []))
        rw [List.filter_cons_of_neg (by simpa using hDot), ← ih, hDot, List.cons_append, hSome,
          walk_dot]
      · rw [List.filter_cons_of_pos (by simpa using hDot)]
        exact walk_append_congr ih links dir [step]

/-- A dot at the end lets a walk end at a directory only. -/
def onlyDirectory (t : FileTree) (loc : Location) : Except FileError Location :=
  if t.isDirectory loc then .ok loc else .error .notDirectory

theorem walkWith_append_dot {way : Approach}
    {follow : Location → String → List String → Except FileError Location}
    (hFollow : ∀ dir target steps,
      follow dir target (steps ++ ["."]) = (follow dir target steps).bind t.onlyDirectory)
    (dir : Location) (steps : List String) :
    t.walkWith way follow dir (steps ++ ["."]) =
      (t.walkWith way follow dir steps).bind t.onlyDirectory := by
  induction steps generalizing dir with
  | nil => simp [walkWith, onlyDirectory, Except.bind]
  | cons step steps ih =>
      rw [List.cons_append, walkWith, walkWith]
      simp only [ih, hFollow]
      repeat' split
      all_goals rfl

theorem walk_append_dot (way : Approach) (links : Nat) (dir : Location) (steps : List String) :
    t.walk way links dir (steps ++ ["."]) =
      (t.walk way links dir steps).bind t.onlyDirectory := by
  induction links generalizing dir steps with
  | zero => exact walkWith_append_dot (fun _ _ _ => rfl) dir steps
  | succ links ih =>
      refine walkWith_append_dot (fun dir target steps => ?_) dir steps
      rw [← List.append_assoc]
      exact ih _ _

theorem walkWith_direct_of_stepwise {loc : Location}
    {follow direct : Location → String → List String → Except FileError Location}
    (hFollow : ∀ dir target rest, follow dir target rest = .ok loc →
      direct dir target rest = .ok loc) {dir : Location} {steps : List String}
    (h : t.walkWith .stepwise follow dir steps = .ok loc) :
    t.walkWith .direct direct dir steps = .ok loc := by
  have hAsked : ∀ place, Approach.direct.refusesPlace place = false := fun _ => rfl
  fun_induction walkWith t .stepwise follow dir steps with
  | case1 dir => exact h
  | case2 dir rest hDirectory ih =>
      rw [walkWith, if_pos rfl, if_pos hDirectory]
      exact ih h
  | case4 dir rest hDirectory hUp ih =>
      rw [walkWith, if_neg (by decide), if_pos rfl, if_pos hDirectory]
      exact ih h
  | case10 dir step rest hDot hDots hAskable hDirectory hFine target hFound =>
      simp only [walkWith, hDot, hDots, hAsked, hDirectory, hFine, hFound, if_false]
      exact hFollow _ _ _ h
  | case11 dir step rest hDot hDots hAskable hDirectory hFine entry hNoLink hFound ih =>
      simp only [walkWith, hDot, hDots, hAsked, hDirectory, hFine, hFound, if_false]
      exact ih h
  | case3 | case5 | case6 | case7 | case8 | case9 => cases h

/-- What is found name after name is found all at once too. -/
theorem walk_direct_of_stepwise {links : Nat} {dir loc : Location} {steps : List String}
    (h : t.walk .stepwise links dir steps = .ok loc) :
    t.walk .direct links dir steps = .ok loc := by
  induction links generalizing dir steps with
  | zero => exact walkWith_direct_of_stepwise (fun _ _ _ hNone => by cases hNone) h
  | succ links ih => exact walkWith_direct_of_stepwise (fun _ _ _ => ih) h

theorem walk_of_dots (way : Approach) (links : Nat) {steps : List String}
    (h : ∀ step ∈ steps, step = ".") : t.walk way links [] steps = .ok [] := by
  induction steps with
  | nil => cases links <;> rfl
  | cons step rest ih =>
      rw [List.forall_mem_cons] at h
      obtain ⟨rfl, hRest⟩ := h
      have hTail := ih hRest
      cases links <;> exact hTail

end FileTree

/-- Whether a path ends in a dot that its spelling leaves out. -/
def Path.LosesDot (path : String) : Prop :=
  (steps path).getLast? = some "." ∧ endsInSlash path = false

namespace FileTree
variable {t : FileTree} {path : String}

/-- A path that keeps its end leads where its spelling leads. -/
theorem walk_steps_spelling (hNames : Path.names path ≠ []) (hKeeps : ¬Path.LosesDot path)
    (links : Nat) (dir : Location) :
    t.walk .direct links dir (Path.steps path) =
      t.walk .direct links dir (Path.steps (Path.spelling path)) := by
  have hFiltered := Path.names_eq_filter path
  rw [Path.steps_spelling hNames]
  unfold Path.LosesDot at hKeeps
  unfold Path.steps at hKeeps ⊢
  generalize (Path.pieces path).filter (· != "") = kept at hFiltered hKeeps ⊢
  rw [hFiltered] at hNames ⊢
  by_cases hSlash : Path.endsInSlash path = true
  · simp only [hSlash, if_true]
    exact walk_undotted links dir kept "."
  · simp only [hSlash, if_false, List.append_nil, Bool.false_eq_true] at hKeeps ⊢
    have hSome : kept ≠ [] := fun hNone => hNames (by rw [hNone, List.filter_nil])
    obtain ⟨init, last, rfl⟩ : ∃ init last, kept = init ++ [last] :=
      ⟨_, _, (List.dropLast_concat_getLast hSome).symm⟩
    have hLast : last ≠ "." := by simpa [hSlash] using hKeeps
    rw [walk_undotted, List.filter_append, List.filter_cons_of_pos (by simpa using hLast),
      List.filter_nil]

/-- A path that loses a dot at its end leads where its spelling leads, if that is a directory. -/
theorem walk_steps_of_losesDot (hNames : Path.names path ≠ []) (hLoses : Path.LosesDot path)
    (links : Nat) (dir : Location) :
    t.walk .direct links dir (Path.steps path) =
      (t.walk .direct links dir (Path.steps (Path.spelling path))).bind t.onlyDirectory := by
  have hFiltered := Path.names_eq_filter path
  obtain ⟨hLast, hSlash⟩ := hLoses
  rw [Path.steps_spelling hNames, ← walk_append_dot]
  unfold Path.steps at hLast ⊢
  simp only [hSlash, Bool.false_eq_true, if_false, List.append_nil] at hLast ⊢
  obtain ⟨init, hInit⟩ := List.getLast?_eq_some_iff.mp hLast
  rw [hFiltered, hInit, walk_undotted, List.filter_append, List.filter_cons_of_neg (by simp),
    List.filter_nil, List.append_nil]

end FileTree

end ScriptShell
