import ScriptShell.FileTree.Walk
import ScriptShell.Proofs.Path.Steps
/-!
Canonical paths. A walk ends at a location to which its own path leads straight, with no link and no
dot on the way, so that the canonical path of a place is the canonical path of itself.
-/
namespace ScriptShell

namespace FileTree

/-- A location that is reached straight by its own path: every name on the way can be asked about,
stands in a directory and is no link. -/
inductive Straight (t : FileTree) (way : Approach) : Location → Prop
  | root : Straight t way []
  | child {name : String} {dir : Location} {entry : Entry} (above : Straight t way dir)
      (directory : t.isDirectory dir = true) (step : Path.IsStep name)
      (noDots : name ≠ "." ∧ name ≠ "..") (fine : nameFault? name = none)
      (askable : way.refusesPlace (name :: dir) = false)
      (found : t.entry? (name :: dir) = some entry) (noLink : ∀ target, entry ≠ .link target) :
      Straight t way (name :: dir)

variable {t : FileTree} {way : Approach} {loc : Location}

theorem Straight.tail (h : Straight t way loc) : Straight t way loc.tail := by
  cases h with
  | root => exact .root
  | child above => exact above

theorem straight_walkWith {follow : Location → String → List String → Except FileError Location}
    (hFollow : ∀ dir target rest, Straight t way dir → (∀ step ∈ rest, Path.IsStep step) →
      follow dir target rest = .ok loc → Straight t way loc)
    {dir : Location} {steps : List String} (hSteps : ∀ step ∈ steps, Path.IsStep step)
    (hDir : Straight t way dir) (h : t.walkWith way follow dir steps = .ok loc) :
    Straight t way loc := by
  have hTail : ∀ {step rest}, (∀ name ∈ step :: rest, Path.IsStep name) →
      ∀ name ∈ rest, Path.IsStep name := fun h name hName => h name (List.mem_cons_of_mem _ hName)
  fun_induction walkWith t way follow dir steps with
  | case1 dir =>
      cases h
      exact hDir
  | case2 dir rest hDirectory ih => exact ih (hTail hSteps) hDir h
  | case4 dir rest hDot hDirectory ih => exact ih (hTail hSteps) hDir.tail h
  | case10 dir step rest hDot hDots hAskable hDirectory hFine target hFound =>
      exact hFollow _ _ _ hDir (hTail hSteps) h
  | case11 dir step rest hDot hDots hAskable hDirectory hFine entry hNoLink hFound ih =>
      refine ih (hTail hSteps) ?_ h
      exact .child hDir (by simpa using hDirectory) (hSteps step List.mem_cons_self) ⟨hDot, hDots⟩
        hFine (by simpa using hAskable) hFound hNoLink
  | case3 | case5 | case6 | case7 | case8 | case9 => cases h

/-- A walk from a location that is reached straight ends at such a location. The induction is on the
links that may still be followed. -/
theorem straight_walk {links : Nat} {dir : Location} {steps : List String}
    (hSteps : ∀ step ∈ steps, Path.IsStep step) (hDir : Straight t way dir)
    (h : t.walk way links dir steps = .ok loc) : Straight t way loc := by
  induction links generalizing dir steps with
  | zero =>
      refine straight_walkWith (fun _ _ _ _ _ hNone => ?_) hSteps hDir h
      cases hNone
  | succ links ih =>
      refine straight_walkWith (fun dir target rest hDir hRest hWalk => ?_) hSteps hDir h
      refine ih ?_ ?_ hWalk
      · intro step hMem
        rcases List.mem_append.mp hMem with hMem | hMem
        · exact Path.isStep_of_mem_steps hMem
        · exact hRest step hMem
      · unfold linkStart
        split
        · exact .root
        · exact hDir

/-- The names of a location that is reached straight lead from the root to it. -/
theorem Straight.walkWith_reverse (h : Straight t way loc)
    (follow : Location → String → List String → Except FileError Location) (rest : List String) :
    t.walkWith way follow [] (loc.reverse ++ rest) = t.walkWith way follow loc rest := by
  induction h generalizing rest with
  | root => rfl
  | @child name dir entry above directory step noDots fine askable found noLink ih =>
      rw [List.reverse_cons, List.append_assoc, List.singleton_append, ih, walkWith]
      cases entry with
      | link target => exact absurd rfl (noLink target)
      | _ => simp [noDots, directory, fine, askable, found]

theorem Straight.walk_reverse (h : Straight t way loc) (links : Nat) :
    t.walk way links [] loc.reverse = .ok loc := by
  cases links with
  | zero =>
      rw [walk, ← List.append_nil loc.reverse, h.walkWith_reverse, walkWith]
  | succ links =>
      rw [walk, ← List.append_nil loc.reverse, h.walkWith_reverse, walkWith]

theorem Straight.isStep_of_mem (h : Straight t way loc) {name : String} (hMem : name ∈ loc) :
    Path.IsStep name ∧ nameFault? name = none := by
  induction h with
  | root => cases hMem
  | child _ _ step _ fine _ _ _ ih =>
      rcases List.mem_cons.mp hMem with rfl | hMem
      · exact ⟨step, fine⟩
      · exact ih hMem

theorem toList_text (loc : Location) :
    loc.text.toList = '/' :: ['/'].intercalate (loc.reverse.map String.toList) := by
  simp [Location.text]

theorem isEmpty_text (loc : Location) : loc.text.isEmpty = false := by
  rw [String.isEmpty_eq_false_iff]
  intro hNone
  have hChars := toList_text loc
  rw [hNone] at hChars
  cases hChars

/-- The steps of the path of a location are the names on the way to it. -/
theorem Straight.steps_text (h : Straight t way loc) (hNonempty : loc ≠ []) :
    Path.steps loc.text = loc.reverse := by
  have hNames : loc.reverse ≠ [] := by simpa using hNonempty
  have hSteps : ∀ name ∈ loc.reverse, Path.IsStep name :=
    fun name hName => (h.isStep_of_mem (List.mem_reverse.mp hName)).1
  rw [Location.text, Path.steps_slash (Path.intercalate_ne_empty hNames hSteps),
    Path.steps_intercalate hNames hSteps]

theorem Straight.nul_not_mem_text (h : Straight t way loc) : '\x00' ∉ loc.text.toList := by
  rw [toList_text, List.mem_cons, not_or]
  refine ⟨by decide, fun hMem => ?_⟩
  rcases Path.mem_of_mem_intercalate hMem with hMem | ⟨piece, hPiece, hMem⟩
  · exact absurd (List.mem_singleton.mp hMem) (by decide)
  · obtain ⟨name, hName, rfl⟩ := List.mem_map.mp hPiece
    have hFine := (h.isStep_of_mem (List.mem_reverse.mp hName)).2
    simp [nameFault?, hMem] at hFine

/-- The path of a location that is reached straight leads there. -/
theorem Straight.locate_text (h : Straight t way loc) (hFits : way.refusesPath loc.text = false) :
    t.locate way loc.text = .ok loc := by
  have hNul : loc.text.toList.contains '\x00' = false := by
    simpa using h.nul_not_mem_text
  unfold locate
  simp only [hNul, isEmpty_text, hFits, Bool.false_eq_true, if_false]
  by_cases hRoot : loc = []
  · subst hRoot
    rfl
  · rw [h.steps_text hRoot, h.walk_reverse]

theorem straight_of_locate {path : String} (h : t.locate way path = .ok loc) :
    Straight t way loc := by
  unfold locate at h
  repeat' split at h
  all_goals try cases h
  exact straight_walk (fun step hStep => Path.isStep_of_mem_steps hStep) .root h

theorem place_text {path : String} (h : t.place path = .ok loc) : t.place loc.text = .ok loc :=
  (straight_of_locate h).locate_text rfl

/-- A canonical path is the canonical path of itself. -/
theorem canonical_canonical {path text : String} (h : t.canonical path = .ok text) :
    t.canonical text = .ok text := by
  unfold canonical at h ⊢
  cases hPlace : t.place path with
  | error error => rw [hPlace] at h; cases h
  | ok loc =>
      rw [hPlace] at h
      cases h
      rw [place_text hPlace]
      rfl

/-- A path that has a canonical form is known by it. -/
theorem key_of_canonical {path text : String} (h : t.canonical path = .ok text) :
    t.key path = text := by
  simp only [key, h]

end FileTree

end ScriptShell
