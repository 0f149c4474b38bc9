import ScriptShell.Proofs.Session.Recursion
/-!
How a run comes to its end before all is done. A script that fails and a session that is told to end
have the same thing in common: whatever is around them does nothing more, but for ending the scripts
that are running, innermost first. What each activity can come to is said here once, in terms of
those that it asks for.
-/
namespace ScriptShell

namespace Journal

theorem out_record (j : Journal) (event : Event) : (j.record event).out = j.out ++ event.out := by
  simp [out, String.join_append, String.join_cons]

theorem err_record (j : Journal) (event : Event) : (j.record event).err = j.err ++ event.err := by
  simp [err, String.join_append, String.join_cons]

end Journal

/-- Whether an event is the end of a script. -/
def Event.IsEnd : Event → Prop
  | .left _ _ => True
  | _ => False

namespace Session

/-- After the first session nothing was done but to end scripts. -/
structure Unwound (s after : Session) : Prop where
  vars : after.vars = s.vars
  directory : after.directory = s.directory
  stopping : after.stopping = s.stopping
  out : after.journal.out = s.journal.out
  err : after.journal.err = s.journal.err
  events : ∃ events, after.journal.toList = s.journal.toList ++ events ∧
    ∀ event ∈ events, event.IsEnd

namespace Unwound

theorem refl (s : Session) : Unwound s s :=
  ⟨rfl, rfl, rfl, rfl, rfl, [], by simp, by simp⟩

theorem trans {s middle after : Session} (first : Unwound s middle)
    (rest : Unwound middle after) : Unwound s after where
  vars := rest.vars.trans first.vars
  directory := rest.directory.trans first.directory
  stopping := rest.stopping.trans first.stopping
  out := rest.out.trans first.out
  err := rest.err.trans first.err
  events := by
    obtain ⟨events, hEvents, hFirst⟩ := first.events
    obtain ⟨more, hMore, hRest⟩ := rest.events
    exact ⟨events ++ more, by rw [hMore, hEvents, List.append_assoc],
      List.forall_mem_append.mpr ⟨hFirst, hRest⟩⟩

theorem release (s : Session) (script : ScriptReader) : Unwound s (s.release script) where
  vars := rfl
  directory := rfl
  stopping := rfl
  out := (s.journal.out_record _).trans String.append_empty
  err := (s.journal.err_record _).trans String.append_empty
  events := ⟨[.left script.path s.running.keys.head?], Journal.toList_record .., by
    simp [Event.IsEnd]⟩

end Unwound

/-- Ends scripts, the first one first. -/
def unwind (s : Session) (scripts : List ScriptReader) : Session :=
  scripts.foldl release s

theorem unwind_append (s : Session) (inner outer : List ScriptReader) :
    s.unwind (inner ++ outer) = (s.unwind inner).unwind outer :=
  List.foldl_append

theorem unwound_unwind (s : Session) (scripts : List ScriptReader) :
    Unwound s (s.unwind scripts) := by
  induction scripts generalizing s with
  | nil => exact .refl s
  | cons script rest ih => exact .trans (.release s script) (ih _)

/-- To end the scripts that were started leaves the running ones as they were before. -/
theorem running_unwind {s : Session} {running : RunningScripts} {scripts : List ScriptReader}
    (h : s.running = { running with keys := scripts.map ScriptReader.path ++ running.keys }) :
    (s.unwind scripts).running = running := by
  induction scripts generalizing s with
  | nil => exact h
  | cons script rest ih =>
      apply ih
      change s.running.leave = _
      rw [h]
      rfl

end Session

namespace Outcome

def unwind (outcome : Outcome) (scripts : List ScriptReader) : Outcome :=
  (outcome.1, outcome.2.unwind scripts)

/-- Whether nothing more is done after an outcome: a script failed, or the session ends. -/
def IsFinal (outcome : Outcome) : Prop :=
  (∃ failure, outcome.1 = .error (.script failure)) ∨
    outcome.1 = .ok 0 ∧ outcome.2.stopping = true

variable {outcome : Outcome}

theorem IsFinal.unwind (h : outcome.IsFinal) (scripts : List ScriptReader) :
    (outcome.unwind scripts).IsFinal := by
  rcases h with h | ⟨hOk, hStop⟩
  · exact .inl h
  · exact .inr ⟨hOk, (outcome.2.unwound_unwind scripts).stopping.trans hStop⟩

theorem IsFinal.andThen (h : outcome.IsFinal) (next : Nat → Session → Outcome) :
    outcome.andThen next = outcome := by
  obtain ⟨result, s⟩ := outcome
  rcases h with ⟨failure, rfl⟩ | ⟨rfl, hStop⟩
  · rfl
  · exact if_pos hStop

theorem IsFinal.inScript (h : outcome.IsFinal) (path : String) (line : Nat) :
    outcome.inScript path line = outcome := by
  obtain ⟨result, s⟩ := outcome
  rcases h with ⟨failure, rfl⟩ | ⟨rfl, hStop⟩ <;> rfl

theorem andThen_of_ok {status : Nat} {s : Session} (h : outcome = (.ok status, s))
    (goesOn : s.stopping = false) (next : Nat → Session → Outcome) :
    outcome.andThen next = next status s := by
  simp [h, Outcome.andThen, goesOn]

/-- Either nothing more is done, or all went well and the session goes on. -/
theorem andThen_cases (outcome : Outcome) :
    (∀ next, outcome.andThen next = outcome) ∨
      ∃ status s, outcome = (.ok status, s) ∧ s.stopping = false := by
  obtain ⟨result, s⟩ := outcome
  cases result with
  | error failure => exact .inl fun _ => rfl
  | ok status =>
      cases hStop : s.stopping with
      | true => exact .inl fun _ => if_pos hStop
      | false => exact .inr ⟨status, s, rfl, hStop⟩

end Outcome

namespace Session
variable {files : FileTree} {a b : Activity} {s m : Session} {scripts : List ScriptReader}

theorem carryOut_cons (files : FileTree) (status : Nat) (command : Command) (rest : List Command)
    (s : Session) :
    carryOut files (.commands status (command :: rest)) s =
      (commandBy (carryOut files) command s).andThen
        fun status s => carryOut files (.commands status rest) s := by
  rw [carryOut_eq]
  rfl

theorem carryOut_rest_of_next (files : FileTree) {script started : ScriptReader} {text : String}
    (next : script.next = (some text, started)) (s : Session) :
    carryOut files (.rest script) s =
      ((carryOut files (.statement text started.remaining) s).inScript script.path
        started.delivered).andThen
          fun _ s => carryOut files (.rest (started.readStatement text).2) s := by
  rw [carryOut_eq]
  simp only [carryOutBy, next]

section
variable {path : String} {failure : ScriptFailure}

/-- A script that is not admitted. -/
theorem carryOut_of_refused
    (refused : (s.record (.sought (s.resolve path))).enter (files.key (s.resolve path)) =
      .error failure) :
    carryOut files (.script path) s =
      (.error (.script failure), (s.record (.sought (s.resolve path))).reportFailure failure) := by
  rw [carryOut_eq]
  simp only [carryOutBy, ScriptReader.path_unread, refused]

/-- A script that is admitted and cannot be read. -/
theorem carryOut_of_unloadable {inner : Session}
    (started : (s.record (.sought (s.resolve path))).enter (files.key (s.resolve path)) =
      .ok inner)
    (unloadable : scriptLines files (files.key (s.resolve path)) = .error failure) :
    carryOut files (.script path) s =
      (.error (.script failure),
        (inner.reportFailure failure).release (.unread (files.key (s.resolve path)))) := by
  rw [carryOut_eq]
  simp only [carryOutBy, ScriptReader.path_unread, started, unloadable]
  rfl

theorem carryOut_of_start {lines : List String} {inner : Session}
    (started : (s.record (.sought (s.resolve path))).enter (files.key (s.resolve path)) =
      .ok inner)
    (loaded : scriptLines files (files.key (s.resolve path)) = .ok lines) :
    carryOut files (.script path) s =
      (carryOut files (.rest ((ScriptReader.unread (files.key (s.resolve path))).withLines lines))
        inner).release (.unread (files.key (s.resolve path))) := by
  rw [carryOut_eq]
  simp only [carryOutBy, ScriptReader.path_unread, started, loaded]

end

/-- What has come to its end ends what asked for it, and the scripts that this had started. -/
theorem Invokes.outcome (h : Invokes files a s scripts b m)
    (hFinal : (carryOut files b m).IsFinal) :
    carryOut files a s = (carryOut files b m).unwind scripts := by
  cases h with
  | further unfinished incomplete =>
      rw [carryOut_eq]
      simp only [carryOutBy, unfinished, incomplete, if_true]
      rfl
  | read scanned parsed =>
      rw [carryOut_eq]
      simp only [carryOutBy, scanned, parsed]
      rfl
  | call named =>
      rw [carryOut_cons, commandBy_of_cons named, hFinal.andThen]
      rfl
  | next outcome goesOn =>
      rw [carryOut_cons, Outcome.andThen_of_ok outcome goesOn]
      rfl
  | inclusion asked =>
      rw [carryOut_eq]
      simp only [carryOutBy, asked]
      rfl
  | start known started loaded =>
      subst known
      rw [carryOut_eq]
      simp only [carryOutBy, started, loaded]
      rfl
  | line next =>
      rw [carryOut_rest_of_next files next, hFinal.inScript, hFinal.andThen]
      rfl
  | @goOn script started _ _ _ _ next outcome goesOn =>
      have hDone := Outcome.inScript_of_ok outcome script.path started.delivered
      rw [carryOut_rest_of_next files next, Outcome.andThen_of_ok hDone goesOn]
      rfl

theorem Reaches.outcome (h : Reaches files a s scripts b m)
    (hFinal : (carryOut files b m).IsFinal) :
    carryOut files a s = (carryOut files b m).unwind scripts := by
  induction h with
  | refl => rfl
  | head first _ ih =>
      rw [first.outcome (ih hFinal ▸ hFinal.unwind _), ih hFinal]
      simp only [Outcome.unwind, unwind_append]

end Session

end ScriptShell
