import ScriptShell.FileTree.Walk
/-!
Trees that differ in what their files hold, and in nothing else. A path leads to the same place in
both: no file is opened on the way.
-/
namespace ScriptShell.FileTree

/-- Whether two trees have the same directories and links, and files at the same places. -/
def SameShape (t other : FileTree) : Prop :=
  ∀ loc, other.entry? loc = t.entry? loc ∨
    ∃ bytes otherBytes, t.entry? loc = some (.file bytes) ∧
      other.entry? loc = some (.file otherBytes)

namespace SameShape
variable {t other : FileTree}

theorem isDirectory (h : SameShape t other) (loc : Location) :
    other.isDirectory loc = t.isDirectory loc := by
  unfold FileTree.isDirectory
  rcases h loc with hSame | ⟨bytes, otherBytes, hFile, hOther⟩
  · rw [hSame]
  · rw [hFile, hOther]

theorem walkWith (h : SameShape t other) (way : Approach)
    {follow otherFollow : Location → String → List String → Except FileError Location}
    (hFollow : ∀ dir target rest, otherFollow dir target rest = follow dir target rest)
    (dir : Location) (steps : List String) :
    other.walkWith way otherFollow dir steps = t.walkWith way follow dir steps := by
  induction steps generalizing dir with
  | nil => rfl
  | cons step rest ih =>
      rw [FileTree.walkWith, FileTree.walkWith]
      simp only [h.isDirectory, ih]
      rcases h (step :: dir) with hSame | ⟨bytes, otherBytes, hFile, hOther⟩
      · simp only [hSame, hFollow]
      · rw [hFile, hOther]

theorem walk (h : SameShape t other) (way : Approach) (links : Nat) (dir : Location)
    (steps : List String) : other.walk way links dir steps = t.walk way links dir steps := by
  induction links generalizing dir steps with
  | zero => exact h.walkWith way (fun _ _ _ => rfl) dir steps
  | succ links ih => exact h.walkWith way (fun _ _ _ => ih _ _) dir steps

theorem locate (h : SameShape t other) (way : Approach) (path : String) :
    other.locate way path = t.locate way path := by
  rw [FileTree.locate, FileTree.locate, h.walk]

theorem place (h : SameShape t other) (path : String) : other.place path = t.place path :=
  h.locate .stepwise path

/-- A script is known by the same spelling. -/
theorem key (h : SameShape t other) (path : String) : other.key path = t.key path := by
  rw [FileTree.key, FileTree.key, canonical, canonical, h.place]

end SameShape

theorem read_of_file {t : FileTree} {path : String} {loc : Location} {bytes : ByteArray}
    (hLocate : t.locate .direct path = .ok loc) (hFile : t.entry? loc = some (.file bytes)) :
    t.read path = .ok bytes := by
  simp only [read, hLocate, bind, Except.bind, hFile]

/-- What is read is the same, unless the path leads to a file. -/
theorem SameShape.read {t other : FileTree} (h : SameShape t other) (path : String) :
    other.read path = t.read path ∨ ∃ loc, t.locate .direct path = .ok loc ∧
      other.entry? loc ≠ t.entry? loc := by
  cases hLocate : t.locate .direct path with
  | error error => exact .inl (by simp only [FileTree.read, h.locate, hLocate, bind, Except.bind])
  | ok loc =>
      by_cases hSame : other.entry? loc = t.entry? loc
      · exact .inl (by simp only [FileTree.read, h.locate, hLocate, bind, Except.bind, hSame])
      · exact .inr ⟨loc, rfl, hSame⟩

end ScriptShell.FileTree
