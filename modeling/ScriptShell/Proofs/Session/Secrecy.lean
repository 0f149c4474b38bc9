import ScriptShell.Proofs.Session.Agreement
import ScriptShell.Proofs.Script.Loading
/-!
Variables have an influence on a run only by their names. A variable whose name stands neither in
the line nor in any file makes no difference to what the line comes to, whatever its value, and
cannot be told from what was written, from the working directory or from the running scripts. It
keeps its value, too, unless its name is written in pieces.
-/
namespace ScriptShell

/-- Whether a text is that of some file. -/
def FileTree.Holds (files : FileTree) (text : String) : Prop :=
  ∃ loc bytes, files.entry? loc = some (.file bytes) ∧ Text.Utf8.decode bytes = .ok text

theorem joinLines_of_ended {text : String} {more : List String} (h : Ended (text :: more)) :
    joinLines text more = String.join (text :: more) := by
  induction more generalizing text with
  | nil => simp [joinLines, String.join_cons]
  | cons line more ih =>
      obtain ⟨hJoin, hNext⟩ := h.join
      have hRest := ih hNext
      rw [joinLines, List.foldl_cons, hJoin]
      rw [joinLines] at hRest
      rw [hRest]
      simp [String.join_cons, String.append_assoc]

theorem FileTree.exists_of_read {files : FileTree} {path : String} {bytes : ByteArray}
    (h : files.read path = .ok bytes) : ∃ loc, files.entry? loc = some (.file bytes) := by
  unfold read at h
  cases hLocate : files.locate .direct path with
  | error error => rw [hLocate] at h; cases h
  | ok loc =>
      simp only [hLocate, bind, Except.bind] at h
      split at h
      · next hEntry =>
          cases h
          exact ⟨loc, hEntry⟩
      · cases h
      · cases h

theorem exists_of_scriptLines {files : FileTree} {path : String} {lines : List String}
    (h : scriptLines files path = .ok lines) :
    ∃ text, files.Holds text ∧ lines = Text.lines text := by
  obtain ⟨text, hRead, rfl⟩ := scriptLines_eq_ok_iff.mp h
  obtain ⟨loc, hEntry⟩ := FileTree.exists_of_read hRead
  exact ⟨text, ⟨loc, _, hEntry, Text.Utf8.decode_eq_ok_iff.mpr rfl⟩, rfl⟩

/-- A statement of a file stands in its text. -/
theorem infix_of_lines {content text : String} {more : List String}
    (h : text :: more <:+ Text.lines content) :
    (joinLines text more).toList <:+: content.toList := by
  have hEnded := (ended_lines content).suffix h
  obtain ⟨before, hLines⟩ := h
  have hText := join_lines content
  rw [← hLines, String.join_append] at hText
  rw [joinLines_of_ended hEnded, ← hText, String.toList_append]
  exact (List.suffix_append ..).isInfix

/-- What two runs come to whose sessions differ in variables outside of some names at most: the
same, but for such variables. These keep their values in both runs, or they are written somewhere
and have the same value in the end. -/
structure Unaffected {α : Type} (names written : String → Prop) (s other : Session)
    (first second : α × Session) : Prop where
  result : second.1 = first.1
  session : second.2 = first.2.withVars second.2.vars
  agree : Variables.Agree names first.2.vars second.2.vars
  others : ∀ name, ¬names name →
    (first.2.vars.get? name = s.vars.get? name ∧
        second.2.vars.get? name = other.vars.get? name) ∨
      (written name ∧ second.2.vars.get? name = first.2.vars.get? name)

section
variable {files : FileTree} {names written : String → Prop} {s other : Session}

/-- The statements of a script use names of its file. -/
theorem linesUse_of_scriptLines {path : String} {lines : List String}
    (hNames : ∀ text, files.Holds text → ∀ name, Mentions text name → names name)
    (hWritten : ∀ text, files.Holds text → ∀ name, Spells text name → written name)
    (hLines : scriptLines files path = .ok lines) : LinesUse names written lines := by
  obtain ⟨content, hHolds, rfl⟩ := exists_of_scriptLines hLines
  intro text more hLine commands hCommands command hMem
  have hInfix := infix_of_lines hLine
  exact (uses_of_readStatement hCommands command hMem).mono
    (fun name hName => hNames content hHolds name (hName.mono hInfix))
    (fun name hName => hWritten content hHolds name (hName.mono hInfix))

theorem Alike.unaffected {first second : Outcome}
    (h : Alike written s.vars other.vars first second)
    (hAgree : Variables.Agree names s.vars other.vars) :
    Unaffected names written s other first second := by
  obtain ⟨after, rfl, hParallel⟩ := h
  exact ⟨rfl, rfl, hParallel.agree hAgree, fun name _ => (hParallel name).symm⟩

theorem Unaffected.of_ofScript {first second : Except ScriptFailure Unit × Session}
    (h : Unaffected names written s other (Outcome.ofScript first) (Outcome.ofScript second)) :
    Unaffected names written s other first second := by
  obtain ⟨hResult, hSession, hAgree, hOthers⟩ := h
  rw [Outcome.snd_ofScript, Outcome.snd_ofScript] at hSession hAgree hOthers
  refine ⟨?_, hSession, hAgree, hOthers⟩
  obtain ⟨result, _⟩ := first
  obtain ⟨otherResult, _⟩ := second
  cases result <;> cases otherResult <;> cases hResult <;> rfl

/-- From two sessions that differ in variables only, all of them named neither in the line nor in
any file and none of them the home directory, a line comes to the same, and a script does: with the
same result, the same events, the same working directory and running scripts. No value is told from
these variables. They keep their values in both runs, but for those whose names are written in
pieces: what is given to such a variable is the same in both. -/
theorem Session.unaffected_by_unnamed (hHome : names "HOME")
    (hFiles : ∀ text, files.Holds text → ∀ name, Mentions text name → names name)
    (hOther : other = s.withVars other.vars) (hAgree : Variables.Agree names s.vars other.vars) :
    (∀ line more, (∀ name, Mentions (joinLines line more) name → names name) →
      Unaffected names
        (fun name => Spells (joinLines line more) name ∨
          ∃ text, files.Holds text ∧ Spells text name)
        s other (s.execute files line more) (other.execute files line more)) ∧
    ∀ path, Unaffected names (fun name => ∃ text, files.Holds text ∧ Spells text name) s other
      (s.runScript files path) (other.runScript files path) := by
  refine ⟨fun line more hLine => ?_, fun path => ?_⟩
  · have hUses : ActivityUses names
        (fun name => Spells (joinLines line more) name ∨
          ∃ text, files.Holds text ∧ Spells text name) (.statement line more) :=
      fun commands hCommands command hMem =>
        (uses_of_readStatement hCommands command hMem).mono hLine fun _ => .inl
    have hAlike := alike_carryOut (s := s) hHome
      (fun _ _ => linesUse_of_scriptLines hFiles
        fun text hHolds name hName => .inr ⟨text, hHolds, hName⟩) hUses hAgree
    rw [← hOther] at hAlike
    exact hAlike.unaffected hAgree
  · have hUses : ActivityUses names (fun name => ∃ text, files.Holds text ∧ Spells text name)
        (.script path) := trivial
    have hAlike := alike_carryOut (s := s) hHome
      (fun _ _ => linesUse_of_scriptLines hFiles
        fun text hHolds name hName => ⟨text, hHolds, hName⟩) hUses hAgree
    rw [← hOther] at hAlike
    exact (hAlike.unaffected hAgree).of_ofScript

end

/-- What is found at a place is among the entries, unless it is the root. -/
theorem FileTree.mem_of_entry? {files : FileTree} {loc : Location} {bytes : ByteArray}
    (h : files.entry? loc = some (.file bytes)) : (loc, .file bytes) ∈ files.entries := by
  cases loc with
  | nil => cases h
  | cons name dir =>
      change files.entries.lookup (name :: dir) = _ at h
      obtain ⟨first, rest, hEntries, _⟩ := List.lookup_eq_some_iff.mp h
      rw [hEntries]
      simp

/-- Two scripts. The second one assigns a variable that the line goes on with. -/
def FileTree.greeting : FileTree :=
  ⟨[(["greet"], .file "echo \"hi $NAME\"\ninclude $NEXT\n".toUTF8),
    (["end"], .file "X=$NAME\n".toUTF8)]⟩

/-- A session in which the value of a variable is the text of a substitution. -/
def Session.visited : Session :=
  { vars := .ofList [("NAME", "$SECRET"), ("NEXT", "end")], directory := "/" }

/-- The same session, with a variable that has no part in any statement. -/
def Session.guarded : Session :=
  visited.withVars (visited.vars.set "SECRET" "42")

/-- The text of a substitution, where it is a value, is no way to the variable. -/
theorem Session.out_guarded :
    Unaffected (· ≠ "SECRET")
        (fun name => Spells "include greet; echo $X" name ∨
          ∃ text, FileTree.greeting.Holds text ∧ Spells text name)
        visited guarded (visited.execute .greeting "include greet; echo $X" [])
        (guarded.execute .greeting "include greet; echo $X" []) ∧
      (guarded.execute .greeting "include greet; echo $X" []).2.journal.out =
        "hi $SECRET\n$SECRET\n" := by
  have hFiles : ∀ text, FileTree.greeting.Holds text → ¬Mentions text "SECRET" := by
    rintro text ⟨loc, bytes, hEntry, hText⟩
    have hMem := FileTree.mem_of_entry? hEntry
    simp only [FileTree.greeting, List.mem_cons, Prod.mk.injEq, Entry.file.injEq,
      List.not_mem_nil, or_false] at hMem
    rcases hMem with ⟨_, rfl⟩ | ⟨_, rfl⟩
    · rw [Text.Utf8.decode_eq_ok_iff.mpr rfl] at hText
      cases hText
      decide +kernel
    · rw [Text.Utf8.decode_eq_ok_iff.mpr rfl] at hText
      cases hText
      decide +kernel
  have hLine : ¬Mentions (joinLines "include greet; echo $X" []) "SECRET" := by decide +kernel
  have hAgree : Variables.Agree (· ≠ "SECRET") visited.vars guarded.vars := by
    intro name hName
    exact (Variables.get?_set ..).trans (if_neg hName)
  refine ⟨?_, by decide +kernel⟩
  refine (unaffected_by_unnamed (by decide) ?_ rfl hAgree).1 _ [] ?_
  · rintro text hHolds name hName rfl
    exact hFiles text hHolds hName
  · rintro name hName rfl
    exact hLine hName

/-- A variable whose name is written in pieces does not keep its value, although the name is no part
of the line. -/
theorem Session.pieced_name_assigned :
    ¬∀ (files : FileTree) (names : String → Prop) (line : String) (s : Session), names "HOME" →
      (∀ name, Mentions line name → names name) →
      (∀ text, files.Holds text → ∀ name, Mentions text name → names name) →
      ∀ name, ¬names name → (s.execute files line []).2.vars.get? name = s.vars.get? name := by
  intro hKeeps
  have hNone : ∀ text, ¬FileTree.Holds {} text := by
    rintro text ⟨loc, bytes, hEntry, _⟩
    cases FileTree.mem_of_entry? hEntry
  have hKept := hKeeps {} (fun name => name = "HOME" ∨ Mentions "A'B'=x" name) "A'B'=x"
    { directory := "/" } (.inl rfl) (fun _ => .inr)
    (fun text hHolds => absurd hHolds (hNone text)) "AB" (by decide +kernel)
  have hGiven : (({ directory := "/" } : Session).execute {} "A'B'=x" []).2.vars.get? "AB" =
      some "x" := by decide +kernel
  rw [hGiven] at hKept
  cases hKept

end ScriptShell
