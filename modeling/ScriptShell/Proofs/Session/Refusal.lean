import ScriptShell.Proofs.Session.Failing
import ScriptShell.Proofs.Script.Opening
/-!
A script that is not text. It is refused before any of its lines is carried out, however many of
them could be read, and the session is left as it was but for the one line that says so.
-/
namespace ScriptShell

namespace Session

/-- An include that failed before any line of its script was carried out. Nothing was done but to
look for the path, to start the script and to end it, and to report the failure. -/
structure Refused (files : FileTree) (path : String) (s : Session) (failure : ScriptFailure)
    (after : Session) : Prop where
  /-- The script was not let in, or it could not be loaded. -/
  reason : s.running.enter (files.key (s.resolve path)) = .error failure ∨
    scriptLines files (files.key (s.resolve path)) = .error failure
  vars : after.vars = s.vars
  directory : after.directory = s.directory
  stopping : after.stopping = s.stopping
  running : after.running = s.running
  out : after.journal.out = s.journal.out
  err : after.journal.err = s.journal.err ++ ("include: " ++ failure.message ++ "\n")
  events : ∃ started ended, after.journal.toList =
      s.journal.toList ++ [.sought (s.resolve path)] ++ started ++
        [.reported (.failedScript failure)] ++ ended ∧
    (started = [] ∧ ended = [] ∨
      started = [.entered (files.key (s.resolve path))] ∧
        ended = [.left (files.key (s.resolve path)) (some (files.key (s.resolve path)))])

variable {files : FileTree} {path : String} {s : Session} {failure : ScriptFailure}

theorem refused_of_enter
    (h : (s.record (.sought (s.resolve path))).enter (files.key (s.resolve path)) =
      .error failure) :
    s.Refused files path failure ((s.record (.sought (s.resolve path))).reportFailure failure) where
  reason := .inl ((enter_eq_error_iff (s := s.record _)).mp h)
  vars := rfl
  directory := rfl
  stopping := rfl
  running := rfl
  out := by simp [reportFailure, record, Journal.out_record, Event.out]
  err := by simp [reportFailure, record, Journal.err_record, Event.err, Diagnostic.text]
  events := ⟨[], [], by simp [reportFailure, record], .inl ⟨rfl, rfl⟩⟩

theorem refused_of_unloadable {inner : Session}
    (hEnter : (s.record (.sought (s.resolve path))).enter (files.key (s.resolve path)) = .ok inner)
    (h : scriptLines files (files.key (s.resolve path)) = .error failure) :
    s.Refused files path failure
      ((inner.reportFailure failure).release (.unread (files.key (s.resolve path)))) := by
  obtain ⟨_, _, rfl⟩ := enter_eq_ok_iff.mp hEnter
  exact
    { reason := .inr h
      vars := rfl
      directory := rfl
      stopping := rfl
      running := rfl
      out := by simp [release, leave, reportFailure, record, Journal.out_record, Event.out]
      err := by
        simp [release, leave, reportFailure, record, Journal.err_record, Event.err, Diagnostic.text]
      events := ⟨[.entered _], [.left _ _], by simp [release, leave, reportFailure, record],
        .inr ⟨rfl, rfl⟩⟩ }

/-- An include of a script that cannot be loaded is refused, let in or not. -/
theorem exists_refused (h : scriptLines files (files.key (s.resolve path)) = .error failure) :
    ∃ failure after, s.runScript files path = (.error failure, after) ∧
      s.Refused files path failure after := by
  cases hEnter : (s.record (.sought (s.resolve path))).enter (files.key (s.resolve path)) with
  | error refusal =>
      exact ⟨_, _, carryOut_script_of_error.mp (carryOut_of_refused hEnter),
        refused_of_enter hEnter⟩
  | ok inner =>
      exact ⟨_, _, carryOut_script_of_error.mp (carryOut_of_unloadable hEnter h),
        refused_of_unloadable hEnter h⟩

end Session

/-- A script fails to load if its path, or the spelling that it is known by, leads to a file that is
not text. -/
theorem FileTree.exists_unloadable {files : FileTree} {path : String} {bytes : ByteArray}
    (hRead : files.read path = .ok bytes ∨ files.read (files.key path) = .ok bytes)
    (hInvalid : ¬bytes.IsValidUTF8) :
    ∃ failure, scriptLines files (files.key path) = .error failure := by
  by_cases hKey : files.read (files.key path) = .ok bytes
  · obtain ⟨fault, hFault⟩ := scriptLines_of_invalid hKey hInvalid
    exact ⟨_, hFault⟩
  · have hPath := hRead.resolve_right hKey
    have hStrays : files.Strays path := by
      rw [← Classical.not_not (a := files.Strays path), ← files.read_key_iff, hPath]
      exact hKey
    obtain ⟨error, hError⟩ := hStrays.exists_error.resolve_left (by simp [hPath])
    exact ⟨_, scriptLines_of_error hError⟩

/-- A file loads exactly if it is text, and its lines are the only ones that make it up. Otherwise
it is refused as no text, wherever its bytes go wrong, and an include of it carries out none of its
lines. -/
theorem Session.loaded_or_refused {files : FileTree} {path : String} {bytes : ByteArray}
    (hRead : files.read path = .ok bytes) :
    ((∃ lines, scriptLines files path = .ok lines) ↔ bytes.IsValidUTF8) ∧
    (∀ lines, scriptLines files path = .ok lines ↔
      (String.join lines).toUTF8 = bytes ∧ AreLines lines) ∧
    (¬bytes.IsValidUTF8 → (∃ fault, scriptLines files path = .error (.notText path fault)) ∧
      ∀ (s : Session) target,
        files.read (s.resolve target) = .ok bytes ∨ files.key (s.resolve target) = path →
          ∃ failure after, s.runScript files target = (.error failure, after) ∧
            s.Refused files target failure after) := by
  refine ⟨⟨?_, fun hValid => ?_⟩, fun lines => scriptLines_eq_ok_iff_of_read hRead,
    fun hInvalid => ⟨scriptLines_of_invalid hRead hInvalid, fun s target hTarget => ?_⟩⟩
  · rintro ⟨lines, hLines⟩
    obtain ⟨rfl, _⟩ := (scriptLines_eq_ok_iff_of_read hRead).mp hLines
    exact (String.join lines).isValidUTF8
  · obtain ⟨text, rfl⟩ := exists_text_iff.mpr hValid
    exact ⟨_, scriptLines_of_text hRead⟩
  · obtain ⟨failure, hFailure⟩ := FileTree.exists_unloadable
      (hTarget.imp_right fun hKey => hKey ▸ hRead) hInvalid
    exact exists_refused hFailure

/-- A script whose first line could be read, and which is not text after it. -/
def FileTree.binary : FileTree :=
  ⟨[(["a"], .file ("echo x\n".toUTF8 ++ ⟨#[0xff]⟩))]⟩

/-- Its first line is not carried out either. -/
theorem Session.refused_binary :
    FileTree.binary.read "/a" = .ok ("echo x\n".toUTF8 ++ ⟨#[0xff]⟩) ∧
      ¬ByteArray.IsValidUTF8 ("echo x\n".toUTF8 ++ ⟨#[0xff]⟩) ∧
      ∃ failure after, ({ directory := "/" } : Session).runScript .binary "a" =
          (.error failure, after) ∧
        ({ directory := "/" } : Session).Refused .binary "a" failure after := by
  have hRead : FileTree.binary.read "/a" = .ok ("echo x\n".toUTF8 ++ ⟨#[0xff]⟩) := rfl
  have hInvalid : ¬ByteArray.IsValidUTF8 ("echo x\n".toUTF8 ++ ⟨#[0xff]⟩) := by decide +kernel
  obtain ⟨_, _, hRefuses⟩ := loaded_or_refused hRead
  exact ⟨hRead, hInvalid, (hRefuses hInvalid).2 _ "a" (.inr (by decide +kernel))⟩

end ScriptShell
