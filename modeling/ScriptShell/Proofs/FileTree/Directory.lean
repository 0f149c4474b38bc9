import ScriptShell.Proofs.FileTree.Spelling
/-!
Canonical paths of directories. The path of a directory leads straight to it, and so does that path
with a single dot behind it.
-/
namespace ScriptShell

namespace FileTree
variable {t : FileTree} {way : Approach} {loc : Location} {path : String}

/-- An absolute path that leads straight to a directory, with no link and no dot on the way, so that
it is its own canonical form. -/
structure IsCanonicalDirectory (t : FileTree) (path : String) : Prop where
  rooted : Path.isRooted path = true
  canonical : t.canonical path = .ok path
  straight : ∃ loc, path = loc.text ∧ Straight t .stepwise loc ∧ t.isDirectory loc = true

theorem isCanonicalDirectory_text (hPlace : t.place path = .ok loc)
    (hDirectory : t.isDirectory loc = true) : t.IsCanonicalDirectory loc.text where
  rooted := by rw [Path.isRooted, toList_text]; rfl
  canonical := by rw [canonical, place_text hPlace]; rfl
  straight := ⟨loc, rfl, straight_of_locate hPlace, hDirectory⟩

/-- The path of a place, seen with a single dot from there. -/
theorem Straight.join_dot (h : Straight t way loc) :
    Path.join loc.text "." =
      if loc = [] then "/." else "/" ++ "/".intercalate (loc.reverse ++ ["."]) := by
  by_cases hRoot : loc = []
  · subst hRoot
    rfl
  · have hNames : loc.reverse ≠ [] := by simpa using hRoot
    have hSteps : ∀ name ∈ loc.reverse, Path.IsStep name :=
      fun name hName => (h.isStep_of_mem (List.mem_reverse.mp hName)).1
    have hEnd : Path.endsInSlash loc.text = false := by
      rw [Location.text, Path.endsInSlash_append (Path.intercalate_ne_empty hNames hSteps),
        Path.endsInSlash_intercalate hNames hSteps]
    have hDot : Path.isRooted "." = false := by decide
    rw [Path.join, hDot, isEmpty_text, hEnd, if_neg hRoot,
      String.intercalate_append_of_ne_nil hNames (List.cons_ne_nil _ _),
      String.intercalate_singleton]
    simp [Location.text, String.append_assoc]

theorem Straight.steps_join_dot (h : Straight t way loc) :
    Path.steps (Path.join loc.text ".") = loc.reverse ++ ["."] := by
  rw [h.join_dot]
  split
  next hRoot =>
    subst hRoot
    decide
  next =>
    have hSteps : ∀ name ∈ loc.reverse ++ ["."], Path.IsStep name := by
      rw [List.forall_mem_append]
      refine ⟨fun name hName => (h.isStep_of_mem (List.mem_reverse.mp hName)).1, ?_⟩
      simp [Path.IsStep]
    rw [Path.steps_slash (Path.intercalate_ne_empty (by simp) hSteps),
      Path.steps_intercalate (by simp) hSteps]

/-- A single dot, seen from a directory, leads to that directory. -/
theorem Straight.place_join_dot (h : Straight t .stepwise loc)
    (hDirectory : t.isDirectory loc = true) : t.place (Path.join loc.text ".") = .ok loc := by
  have hNul : (Path.join loc.text ".").toList.contains '\x00' = false := by
    have hText := h.nul_not_mem_text
    unfold Path.join
    repeat' split
    all_goals simp [hText]
  have hSome : (Path.join loc.text ".").isEmpty = false := by
    rw [String.isEmpty_eq_false_iff]
    intro hNone
    have hSteps := h.steps_join_dot
    rw [hNone] at hSteps
    have hLength := congrArg List.length hSteps
    simp [Path.steps, Path.pieces, Path.splitSlash, Path.endsInSlash] at hLength
  rw [place, locate, hNul, hSome, h.steps_join_dot, walk_append_dot, h.walk_reverse]
  simp [Except.bind, onlyDirectory, hDirectory, Approach.refusesPath]

end FileTree

end ScriptShell
