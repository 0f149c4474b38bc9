import ScriptShell.Proofs.FileTree.Spelling
import ScriptShell.Proofs.Script.Loading
/-!
A script is read through the spelling that it is known by, not through the path that it was asked
for. Both lead to the same file or are refused alike, but for paths without a canonical form that
end in a dot, and but for lengths: a path can be too long to be read where its spelling is not, or
the other way round.
-/
namespace ScriptShell

namespace FileTree
variable {t : FileTree} {way : Approach} {loc : Location} {path : String}

/-- What is read at a location. -/
def contents (t : FileTree) (loc : Location) : Except FileError ByteArray :=
  match t.entry? loc with
  | some (.file bytes) => .ok bytes
  | some .directory => .error .isDirectory
  | _ => .error .notFound

theorem read_eq (t : FileTree) (path : String) :
    t.read path = (t.locate .direct path).bind t.contents := rfl

theorem contents_ne_nameTooLong (t : FileTree) (loc : Location) :
    t.contents loc ≠ .error .nameTooLong := by
  unfold contents
  split <;> simp

theorem contents_of_directory (h : t.isDirectory loc = true) :
    t.contents loc = .error .isDirectory := by
  unfold isDirectory at h
  unfold contents
  split at h
  · next hEntry => rw [hEntry]
  · cases h

theorem isDirectory_of_contents {bytes : ByteArray} (h : t.contents loc = .ok bytes) :
    t.isDirectory loc = false := by
  rw [Bool.eq_false_iff]
  intro hDirectory
  rw [contents_of_directory hDirectory] at h
  cases h

/-- Where a walk can end there is a directory or a file. -/
theorem Straight.contents (h : Straight t way loc) :
    t.isDirectory loc = true ∨ ∃ bytes, t.contents loc = .ok bytes := by
  cases h with
  | root => exact .inl rfl
  | @child name dir entry above directory step noDots fine askable found noLink =>
      cases entry with
      | file bytes => exact .inr ⟨bytes, by simp only [FileTree.contents, found]⟩
      | directory => exact .inl (by simp only [isDirectory, found])
      | link target => exact absurd rfl (noLink target)

/-- A path that can be put to the system is walked step by step. -/
theorem read_of_walk (hNul : '\x00' ∉ path.toList) (hSome : path ≠ "") :
    t.read path = if Approach.direct.refusesPath path then .error .nameTooLong
      else (t.walk .direct maxLinks [] (Path.steps path)).bind t.contents := by
  have hNone : path.isEmpty = false := by simpa using hSome
  rw [read_eq, locate, if_neg (by simpa using hNul), hNone, if_neg (by decide)]
  split <;> rfl

theorem read_of_nul (hNul : '\x00' ∈ path.toList) : t.read path = .error .nulInPath := by
  rw [read_eq, locate, if_pos (by simpa using hNul)]
  rfl

theorem Straight.direct (h : Straight t way loc) : Straight t .direct loc := by
  induction h with
  | root => exact .root
  | child _ directory step noDots fine _ found noLink ih =>
      exact .child ih directory step noDots fine rfl found noLink

/-- A place that is found name after name is not too far away to be read. -/
theorem Straight.fits (h : Straight t .stepwise loc) :
    Approach.direct.refusesPath loc.text = false := by
  cases h with
  | root => decide
  | child _ _ _ _ _ askable => exact askable

theorem read_text (h : Straight t .stepwise loc) : t.read loc.text = t.contents loc := by
  rw [read_eq, h.direct.locate_text h.fits]
  rfl

theorem read_of_place (h : t.place path = .ok loc) :
    t.read path = if Approach.direct.refusesPath path then .error .nameTooLong
      else t.contents loc := by
  rw [place, locate] at h
  split at h
  · cases h
  split at h
  · cases h
  next hNul hNone =>
    rw [if_neg (by simp [Approach.refusesPath])] at h
    rw [read_of_walk (by simpa using hNul) (by simpa using hNone), walk_direct_of_stepwise h]
    rfl

theorem key_of_error {error : FileError} (h : t.canonical path = .error error) :
    t.key path = Path.spelling path := by
  rw [key, h]
  rfl

/-- A path that goes through no names leads to the root. -/
theorem canonical_of_no_names (hNames : Path.names path = []) (hSome : path ≠ "")
    (hNul : '\x00' ∉ path.toList) : t.canonical path = .ok "/" := by
  have hDots : ∀ step ∈ Path.steps path, step = "." := by
    intro step hStep
    rcases List.mem_append.mp hStep with hStep | hStep
    · have hDot := (List.filter_eq_nil_iff.mp (Path.names_eq_filter path ▸ hNames)) step hStep
      simpa using hDot
    · split at hStep
      · exact List.mem_singleton.mp hStep
      · cases hStep
  have hNone : path.isEmpty = false := by simpa using hSome
  rw [canonical, place, locate, if_neg (by simpa using hNul), hNone, if_neg (by decide),
    if_neg (by simp [Approach.refusesPath]), walk_of_dots _ _ hDots]
  rfl

section
variable {found : Except FileError Location}

theorem bind_contents_eq_nameTooLong_iff :
    found.bind t.contents = .error .nameTooLong ↔ found = .error .nameTooLong := by
  cases found with
  | error error => simp [Except.bind]
  | ok loc => simpa [Except.bind] using t.contents_ne_nameTooLong loc

theorem bind_onlyDirectory_eq_nameTooLong_iff :
    found.bind t.onlyDirectory = .error .nameTooLong ↔ found = .error .nameTooLong := by
  cases found with
  | error error => simp [Except.bind]
  | ok loc =>
      unfold onlyDirectory
      simp only [Except.bind, reduceCtorEq, iff_false]
      split <;> simp

/-- A walk that may end at a directory only comes to the same, unless there is a file to be read. -/
theorem bind_onlyDirectory_contents_iff (hStraight : ∀ loc, found = .ok loc → Straight t way loc) :
    (found.bind t.onlyDirectory).bind t.contents = found.bind t.contents ↔
      ∀ bytes, found.bind t.contents ≠ .ok bytes := by
  cases found with
  | error error => simp [Except.bind]
  | ok loc =>
      change (t.onlyDirectory loc).bind t.contents = t.contents loc ↔
        ∀ bytes, t.contents loc ≠ .ok bytes
      rcases (hStraight loc rfl).contents with hDirectory | ⟨bytes, hBytes⟩
      · rw [onlyDirectory, if_pos hDirectory]
        refine iff_of_true rfl fun bytes hBytes => ?_
        rw [contents_of_directory hDirectory] at hBytes
        cases hBytes
      · rw [onlyDirectory, isDirectory_of_contents hBytes, hBytes]
        exact iff_of_false (by simp [Except.bind]) (by simp)

end

theorem walk_eq_nameTooLong_iff (hNames : Path.names path ≠ []) :
    t.walk .direct maxLinks [] (Path.steps path) = .error .nameTooLong ↔
      t.walk .direct maxLinks [] (Path.steps (Path.spelling path)) = .error .nameTooLong := by
  by_cases hLoses : Path.LosesDot path
  · rw [walk_steps_of_losesDot hNames hLoses, bind_onlyDirectory_eq_nameTooLong_iff]
  · rw [walk_steps_spelling hNames hLoses]

/-- When a path that goes through names is read as its spelling is. -/
theorem read_spelling_iff (hNames : Path.names path ≠ []) (hNul : '\x00' ∉ path.toList) :
    t.read (Path.spelling path) = t.read path ↔
      (Path.LosesDot path → ∀ bytes, t.read (Path.spelling path) ≠ .ok bytes) ∧
      (Approach.direct.refusesPath path ≠ Approach.direct.refusesPath (Path.spelling path) →
        t.walk .direct maxLinks [] (Path.steps path) = .error .nameTooLong) := by
  have hSome : path ≠ "" := by
    rintro rfl
    exact hNames rfl
  have hTooLong := walk_eq_nameTooLong_iff (t := t) hNames
  rw [read_of_walk hNul hSome,
    read_of_walk (Path.not_mem_spelling hNul (by decide) hNames) (Path.spelling_ne_empty hNames)]
  by_cases hLength :
      Approach.direct.refusesPath path = Approach.direct.refusesPath (Path.spelling path)
  · rw [hLength]
    cases Approach.direct.refusesPath (Path.spelling path) with
    | true => simp
    | false =>
        simp only [Bool.false_eq_true, if_false, ne_eq, not_true, false_implies, and_true]
        by_cases hLoses : Path.LosesDot path
        · rw [walk_steps_of_losesDot hNames hLoses, eq_comm, bind_onlyDirectory_contents_iff]
          · simp [hLoses]
          · exact fun loc => straight_walk (fun step => Path.isStep_of_mem_steps) .root
        · simp [walk_steps_spelling hNames hLoses, hLoses]
  · by_cases hWalk : t.walk .direct maxLinks [] (Path.steps path) = .error .nameTooLong
    · rw [hWalk, hTooLong.mp hWalk]
      simp [Except.bind]
    · have hSpelling := mt hTooLong.mpr hWalk
      refine iff_of_false ?_ fun hBoth => hWalk (hBoth.2 hLength)
      rw [← bind_contents_eq_nameTooLong_iff] at hWalk hSpelling
      cases hPath : Approach.direct.refusesPath path <;>
        cases hOther : Approach.direct.refusesPath (Path.spelling path)
      · exact absurd (hPath.trans hOther.symm) hLength
      · simpa using Ne.symm hWalk
      · simpa using hSpelling
      · exact absurd (hPath.trans hOther.symm) hLength

/-- A path that is not read as the script is that it is known by. -/
inductive Strays (t : FileTree) (path : String) : Prop
  /-- The path is too long to be read, and its canonical form is not. -/
  | canonical {text : String} (form : t.canonical path = .ok text)
      (refused : Approach.direct.refusesPath path = true)
  /-- The path has no canonical form and ends in a dot that its spelling leaves out, and the
  spelling leads to a file. -/
  | dot {error : FileError} {bytes : ByteArray} (noForm : t.canonical path = .error error)
      (loses : Path.LosesDot path) (file : t.read (Path.spelling path) = .ok bytes)
  /-- The path has no canonical form, and either the path or its spelling is too long to be read but
  not both, while no name and no place on the way is too long. -/
  | length {error : FileError} (noForm : t.canonical path = .error error)
      (noNul : '\x00' ∉ path.toList)
      (differ : Approach.direct.refusesPath path ≠ Approach.direct.refusesPath (Path.spelling path))
      (walk : t.walk .direct maxLinks [] (Path.steps path) ≠ .error .nameTooLong)

theorem strays_iff_of_canonical {text : String} (h : t.canonical path = .ok text) :
    t.Strays path ↔ Approach.direct.refusesPath path = true := by
  constructor
  · rintro (⟨_, hRefused⟩ | ⟨hNone⟩ | ⟨hNone⟩)
    · exact hRefused
    · rw [h] at hNone; cases hNone
    · rw [h] at hNone; cases hNone
  · exact .canonical h

theorem strays_iff_of_error {error : FileError} (h : t.canonical path = .error error) :
    t.Strays path ↔
      (Path.LosesDot path ∧ ∃ bytes, t.read (Path.spelling path) = .ok bytes) ∨
      ('\x00' ∉ path.toList ∧
        Approach.direct.refusesPath path ≠ Approach.direct.refusesPath (Path.spelling path) ∧
        t.walk .direct maxLinks [] (Path.steps path) ≠ .error .nameTooLong) := by
  constructor
  · rintro (⟨hForm, _⟩ | ⟨_, hLoses, hFile⟩ | ⟨_, hNul, hDiffer, hWalk⟩)
    · rw [h] at hForm; cases hForm
    · exact .inl ⟨hLoses, _, hFile⟩
    · exact .inr ⟨hNul, hDiffer, hWalk⟩
  · rintro (⟨hLoses, _, hFile⟩ | ⟨hNul, hDiffer, hWalk⟩)
    · exact .dot h hLoses hFile
    · exact .length h hNul hDiffer hWalk

theorem read_key_iff_of_place (h : t.place path = .ok loc) :
    t.read (t.key path) = t.read path ↔ ¬t.Strays path := by
  have hCanonical : t.canonical path = .ok loc.text := by rw [canonical, h]; rfl
  rw [strays_iff_of_canonical hCanonical, key_of_canonical hCanonical,
    read_text (straight_of_locate h), read_of_place h]
  split
  · next hRefused => simp [hRefused, t.contents_ne_nameTooLong loc]
  · next hFits => simp [hFits]

theorem read_key_iff_of_error {error : FileError} (h : t.canonical path = .error error) :
    t.read (t.key path) = t.read path ↔ ¬t.Strays path := by
  rw [strays_iff_of_error h, key_of_error h]
  by_cases hSome : path = ""
  · subst hSome
    refine iff_of_true rfl ?_
    rintro (⟨⟨hLast, _⟩, _⟩ | ⟨_, hDiffer, _⟩)
    · cases hLast
    · exact hDiffer rfl
  by_cases hNul : '\x00' ∈ path.toList
  · rw [read_of_nul hNul, read_of_nul (Path.mem_spelling_of_mem hNul (by decide) (by decide))]
    simp [hNul]
  have hNames : Path.names path ≠ [] := fun hNone => by
    rw [canonical_of_no_names hNone hSome hNul] at h
    cases h
  rw [read_spelling_iff hNames hNul]
  simp only [hNul, not_false_eq_true, true_and, not_or, not_and, not_exists, ne_eq,
    Classical.not_not]

/-- A script is read as its path is read, unless the path strays. -/
theorem read_key_iff (t : FileTree) (path : String) :
    t.read (t.key path) = t.read path ↔ ¬t.Strays path := by
  cases hPlace : t.place path with
  | ok loc => exact read_key_iff_of_place hPlace
  | error error =>
      have hNone : t.canonical path = .error error := by
        rw [canonical, hPlace]
        rfl
      exact read_key_iff_of_error hNone

/-- A path that ends in a dot names no file. -/
theorem exists_error_of_losesDot (hLoses : Path.LosesDot path) :
    ∃ error, t.read path = .error error := by
  by_cases hNul : '\x00' ∈ path.toList
  · exact ⟨_, read_of_nul hNul⟩
  have hSome : path ≠ "" := by
    rintro rfl
    cases hLoses.1
  obtain ⟨init, hSteps⟩ := List.getLast?_eq_some_iff.mp hLoses.1
  rw [read_of_walk hNul hSome, hSteps, walk_append_dot]
  split
  · exact ⟨_, rfl⟩
  cases t.walk .direct maxLinks [] init with
  | error error => exact ⟨error, rfl⟩
  | ok loc =>
      change ∃ error, (t.onlyDirectory loc).bind t.contents = .error error
      unfold onlyDirectory
      split
      · next hDirectory => exact ⟨_, contents_of_directory hDirectory⟩
      · exact ⟨_, rfl⟩

theorem exists_error_of_refused (h : Approach.direct.refusesPath path = true) :
    ∃ error, t.read path = .error error := by
  rw [read_eq, locate, if_pos h]
  split
  · exact ⟨_, rfl⟩
  · split <;> exact ⟨_, rfl⟩

/-- A path that strays cannot be read, or the script cannot. -/
theorem Strays.exists_error (h : t.Strays path) :
    (∃ error, t.read path = .error error) ∨ ∃ error, t.read (t.key path) = .error error := by
  cases h with
  | canonical _ refused => exact .inl (exists_error_of_refused refused)
  | dot _ loses _ => exact .inl (exists_error_of_losesDot loses)
  | length noForm _ differ _ =>
      cases hPath : Approach.direct.refusesPath path with
      | true => exact .inl (exists_error_of_refused hPath)
      | false =>
          right
          rw [key_of_error noForm]
          exact exists_error_of_refused (by simpa [hPath] using differ.symm)

end FileTree

/-- Whether a script comes to what its path names: it loads exactly if the file at the path can be
read and is text, with the lines of that file, and what refuses the path refuses the script. -/
structure FileTree.LoadsAsNamed (files : FileTree) (path : String) : Prop where
  lines : ∀ lines, scriptLines files (files.key path) = .ok lines ↔
    ∃ text : String, files.read path = .ok text.toUTF8 ∧ lines = Text.lines text
  unreadable : ∀ error, files.read path = .error error →
    scriptLines files (files.key path) = .error (.unreadable (files.key path) error)
  notText : ∀ bytes, files.read path = .ok bytes → ¬bytes.IsValidUTF8 →
    ∃ fault, scriptLines files (files.key path) = .error (.notText (files.key path) fault)

variable {files : FileTree} {path : String}

theorem FileTree.loadsAsNamed_of_read (h : files.read (files.key path) = files.read path) :
    files.LoadsAsNamed path where
  lines lines := by
    rw [← h]
    exact scriptLines_eq_ok_iff
  unreadable error hError := scriptLines_of_error (h.trans hError)
  notText bytes hBytes hInvalid := scriptLines_of_invalid (h.trans hBytes) hInvalid

/-- Where reading and loading go wrong, they do so in the same way. -/
theorem FileTree.LoadsAsNamed.read (h : files.LoadsAsNamed path)
    (hError : (∃ error, files.read path = .error error) ∨
      ∃ error, files.read (files.key path) = .error error) :
    files.read (files.key path) = files.read path := by
  cases hPath : files.read path with
  | error error => exact read_of_unreadable (h.unreadable error hPath)
  | ok bytes =>
      exfalso
      rw [hPath] at hError
      obtain ⟨error, hKey⟩ := hError.resolve_left (by simp)
      have hRefused := scriptLines_of_error hKey
      by_cases hValid : bytes.IsValidUTF8
      · obtain ⟨text, rfl⟩ := exists_text_iff.mpr hValid
        rw [(h.lines _).mpr ⟨text, hPath, rfl⟩] at hRefused
        cases hRefused
      · obtain ⟨fault, hFault⟩ := h.notText bytes hPath hValid
        rw [hFault] at hRefused
        cases hRefused

/-- A script comes to what its path names exactly if the path does not stray. So it does for every
path that has a canonical form and is not too long. -/
theorem FileTree.loadsAsNamed_iff (files : FileTree) (path : String) :
    (files.LoadsAsNamed path ↔ ¬files.Strays path) ∧
      ∀ text, files.canonical path = .ok text → path.utf8ByteSize ≤ maxPath →
        files.LoadsAsNamed path := by
  refine ⟨⟨fun h hStrays => ?_, fun h => ?_⟩, fun text hForm hFits => ?_⟩
  · exact (files.read_key_iff path).mp (h.read hStrays.exists_error) hStrays
  · exact loadsAsNamed_of_read ((files.read_key_iff path).mpr h)
  · refine loadsAsNamed_of_read ((files.read_key_iff path).mpr ?_)
    rw [strays_iff_of_canonical hForm]
    simpa [Approach.refusesPath] using hFits

/-- A file with one line. -/
def FileTree.single : FileTree :=
  ⟨[(["a"], .file "echo x\n".toUTF8)]⟩

/-- The path of a file with a dot behind it names nothing, and yet its script loads. -/
theorem FileTree.not_loadsAsNamed_dot :
    FileTree.single.read "/a/." = .error .notDirectory ∧
      scriptLines .single (FileTree.single.key "/a/.") = .ok ["echo x\n"] ∧
      ¬FileTree.single.LoadsAsNamed "/a/." := by
  have hRead : FileTree.single.read "/a/." = .error .notDirectory := by decide +kernel
  have hLines : scriptLines .single (FileTree.single.key "/a/.") = .ok ["echo x\n"] := by
    decide +kernel
  refine ⟨hRead, hLines, fun h => ?_⟩
  have hRefused := h.unreadable _ hRead
  rw [hLines] at hRefused
  cases hRefused

end ScriptShell
