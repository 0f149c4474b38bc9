import ScriptShell.Host
/-!
What a session can go through while it carries out a call: a relation between sessions, built from
the few things that a step can do. Every function that carries something out stays within it, so
what holds of each step holds of every run, at any depth of scripts inside scripts.
-/
namespace ScriptShell

/-- Whether an event leaves everything but the journal as it was. -/
def Event.IsNote : Event → Prop
  | .wrote _ | .reported _ | .called _ _ | .sought _ => True
  | .assigned _ _ | .entered _ | .left _ _ | .stopped => False

namespace Session

/-- The second session comes about from the first one by steps of a run. A script that is started
is ended by the step that started it, after any steps in between. -/
inductive Runs (files : FileTree) : Session → Session → Prop
  | refl (s : Session) : Runs files s s
  | trans {s middle after : Session} (first : Runs files s middle)
      (rest : Runs files middle after) : Runs files s after
  | note (s : Session) (event : Event) (note : event.IsNote) : Runs files s (s.record event)
  | assign (s : Session) (name value : String) : Runs files s (s.assign name value)
  | stop (s : Session) : Runs files s s.stop
  | move (s : Session) {path : String} {loc : Location} (place : files.place path = .ok loc)
      (directory : files.isDirectory loc = true) : Runs files s { s with directory := loc.text }
  | script {s inner after : Session} {target : String} {script : ScriptReader}
      (known : script.path = files.key target)
      (started : (s.record (.sought target)).enter script.path = .ok inner)
      (body : Runs files inner after) : Runs files s (after.release script)

variable {files : FileTree}

theorem runs_complain (s : Session) (command : StandardCommand) (message : String) :
    Runs files s (s.complain command message) :=
  .note s _ trivial

theorem runs_changeDirectory (target : Option String) (s : Session) :
    Runs files s (s.changeDirectory files target).2 := by
  unfold changeDirectory
  cases s.directoryAsked target with
  | none => exact runs_complain s ..
  | some target =>
      have hAsking : Runs files s (s.record (.sought (s.resolve target))) := .note s _ trivial
      apply hAsking.trans
      cases hPlace : files.place (s.resolve target) with
      | error error =>
          simp only [hPlace]
          exact runs_complain _ ..
      | ok loc =>
          cases hDirectory : files.isDirectory loc with
          | false =>
              simp only [hPlace, hDirectory]
              exact runs_complain _ ..
          | true =>
              simp only [hPlace, hDirectory, if_true]
              exact .move _ hPlace hDirectory

theorem runs_assignAll (s : Session) (assignments : List Assignment) :
    Runs files s (s.assignAll assignments) := by
  unfold assignAll
  induction assignments generalizing s with
  | nil => exact .refl s
  | cons a rest ih => exact .trans (.assign s ..) (ih _)

section
variable {runScript : ScriptRun} (hScript : ∀ path s, Runs files s (runScript path s).2)
include hScript

theorem runs_perform (command : StandardCommand) (given : Arguments) (s : Session) :
    Runs files s (s.perform files runScript command given).2 := by
  cases command with
  | pwd => exact .note s _ trivial
  | cd => exact runs_changeDirectory _ s
  | echo => exact .note s _ trivial
  | exit => exact .stop s
  | inclusion =>
      have hRun := hScript (given.operands.headD "") s
      cases hResult : runScript (given.operands.headD "") s with
      | mk result after =>
          rw [hResult] at hRun
          cases result <;> simpa only [perform, hResult] using hRun

theorem runs_call (name : String) (arguments : List String) (s : Session) :
    Runs files s (s.call files runScript name arguments).2 := by
  unfold call
  cases s.vocabulary.find? (·.name == name) with
  | none => exact .refl s
  | some command =>
      have hCalled : Runs files s (s.record (.called name arguments)) := .note s _ trivial
      apply hCalled.trans
      cases hRead : command.form.read arguments with
      | error fault =>
          simp only [hRead]
          exact .note _ (.reported _) trivial
      | ok request =>
          cases request with
          | help =>
              simp only [hRead]
              exact .note _ (.wrote _) trivial
          | given given =>
              simp only [hRead]
              exact runs_perform hScript command given _

theorem runs_runCommand (command : Command) (s : Session) :
    Runs files s (s.runCommand files runScript command).2 := by
  unfold runCommand
  apply (runs_assignAll s command.assignments).trans
  cases hWords : command.words.map (s.assignAll command.assignments).expand with
  | nil =>
      simp only [hWords]
      exact .refl _
  | cons name arguments =>
      simp only [hWords]
      exact runs_call hScript name arguments _

theorem runs_runCommands (status : Nat) (commands : List Command) (s : Session) :
    Runs files s (runCommands files runScript status commands s).2 := by
  induction commands generalizing status s with
  | nil => exact .refl s
  | cons command rest ih =>
      have hFirst := runs_runCommand hScript command s
      rw [runCommands]
      generalize s.runCommand files runScript command = outcome at hFirst ⊢
      obtain ⟨result, after⟩ := outcome
      cases result with
      | error failure => exact hFirst
      | ok status =>
          by_cases hStop : after.stopping = true
          · simpa only [if_pos hStop] using hFirst
          · simpa only [if_neg hStop] using hFirst.trans (ih status after)

theorem runs_runStatement (result : Except Fault (List Command)) (s : Session) :
    Runs files s (s.runStatement files runScript result).2 := by
  cases result with
  | error fault => exact .refl s
  | ok commands => exact runs_runCommands hScript 0 commands s

/-- The statements of a script, one after another. The induction is on the lines that remain. -/
theorem runs_runRest (script : ScriptReader) (s : Session) :
    Runs files s (runRest files runScript script s).2 := by
  fun_induction runRest files runScript script s with
  | case1 script s => exact .refl s
  | case2 script s text started _ reading failure after hStatement =>
      simpa only [hStatement] using runs_runStatement hScript reading.1 s
  | case3 script s text started _ line reading fault after hStatement failure =>
      have hRun := runs_runStatement hScript reading.1 s
      rw [hStatement] at hRun
      exact hRun.trans (.note _ _ trivial)
  | case4 script s text started _ reading status after hStatement hStop =>
      simpa only [hStatement] using runs_runStatement hScript reading.1 s
  | case5 script s text started _ reading status after hStatement hStop ih =>
      have hRun := runs_runStatement hScript reading.1 s
      rw [hStatement] at hRun
      exact hRun.trans ih

theorem runs_runBody (script : ScriptReader) (s : Session) :
    Runs files s (runBody files runScript script s).2 := by
  unfold runBody
  cases scriptLines files script.path with
  | error failure => exact .note s _ trivial
  | ok lines => exact runs_runRest hScript _ s

end

theorem runs_runWith {body : ScriptReader → Session → Except ScriptFailure Unit × Session}
    (hBody : ∀ script s, Runs files s (body script s).2) (path : String) (s : Session) :
    Runs files s (runWith files body path s).2 := by
  unfold runWith
  cases hEnter : (s.record (.sought (s.resolve path))).enter (files.key (s.resolve path)) with
  | error failure =>
      have hAsking : Runs files s (s.record (.sought (s.resolve path))) := .note s _ trivial
      simp only [ScriptReader.path_unread, hEnter]
      exact hAsking.trans (.note _ _ trivial)
  | ok inner =>
      simp only [ScriptReader.path_unread, hEnter]
      exact .script rfl hEnter (hBody _ inner)

/-- A script run at any depth. The induction is on the room that is left for scripts inside it. -/
theorem runs_runIn (room : Nat) (path : String) (s : Session) :
    Runs files s (runIn files room path s).2 := by
  induction room generalizing path s with
  | zero => exact runs_runWith (fun _ s => .refl s) path s
  | succ room ih => exact runs_runWith (runs_runBody ih) path s

/-- Whatever a session is asked to carry out, it goes through the steps of a run. -/
theorem runs_serve (files : FileTree) (call : Call) (s : Session) :
    Runs files s (s.serve files call) := by
  cases call with
  | statement line more => exact runs_runStatement (runs_runIn _) _ s
  | command name arguments => exact runs_call (runs_runIn _) name arguments s
  | script path => exact runs_runIn _ path s

end Session

end ScriptShell
