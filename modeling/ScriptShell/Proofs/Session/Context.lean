import ScriptShell.Proofs.Session.Unwinding
/-!
What a call asks of the session when it runs no script: the working directory, what can be called,
and the value of one variable, that of the home directory. It leaves the variables and the running
scripts as they were.
-/
namespace ScriptShell

/-- The session with these variables and these running scripts. -/
def Session.within (s : Session) (vars : Variables) (running : RunningScripts) : Session :=
  { s with vars, running }

def Outcome.within (outcome : Outcome) (vars : Variables) (running : RunningScripts) : Outcome :=
  (outcome.1, outcome.2.within vars running)

namespace Session
variable {files : FileTree} {s : Session} {vars : Variables}

theorem changeDirectory_within (hHome : vars.get? "HOME" = s.vars.get? "HOME")
    (running : RunningScripts) (target : Option String) :
    (s.within vars running).changeDirectory files target =
      ((s.changeDirectory files target).1,
        (s.changeDirectory files target).2.within vars running) := by
  have hAsked : (s.within vars running).directoryAsked target = s.directoryAsked target := by
    unfold directoryAsked
    split
    · exact hHome
    · exact hHome
    · rfl
  unfold changeDirectory
  rw [hAsked]
  cases s.directoryAsked target with
  | none => rfl
  | some target =>
      have hResolve : (s.within vars running).resolve target = s.resolve target := rfl
      simp only [hResolve]
      cases files.place (s.resolve target) with
      | error error => rfl
      | ok loc =>
          cases hDirectory : files.isDirectory loc with
          | false => simp only [hDirectory]; rfl
          | true => simp only [hDirectory]; rfl

theorem perform_within (hHome : vars.get? "HOME" = s.vars.get? "HOME")
    (running : RunningScripts) (command : StandardCommand) (given : Arguments) :
    (s.within vars running).perform files (fun _ s => (.ok (), s)) command given =
      Outcome.within (s.perform files (fun _ s => (.ok (), s)) command given) vars running := by
  cases command with
  | cd => simp only [perform, changeDirectory_within hHome]; rfl
  | _ => rfl

/-- A call that runs no script goes the same way with other variables, if the home directory is the
same, and inside of other scripts. -/
theorem call_within (files : FileTree) (hHome : vars.get? "HOME" = s.vars.get? "HOME")
    (running : RunningScripts) (name : String) (arguments : List String) :
    (s.within vars running).call files (fun _ s => (.ok (), s)) name arguments =
      Outcome.within (s.call files (fun _ s => (.ok (), s)) name arguments) vars running := by
  have hVocabulary : (s.within vars running).vocabulary = s.vocabulary := rfl
  unfold call
  rw [hVocabulary]
  cases s.vocabulary.find? (·.name == name) with
  | none => rfl
  | some command =>
      cases hRead : command.form.read arguments with
      | error fault => simp only [hRead]; rfl
      | ok request =>
          cases request with
          | help => simp only [hRead]; rfl
          | given given =>
              simp only [hRead]
              exact perform_within (s := s.record (.called name arguments)) hHome running command
                given

/-- A call that runs no script sets no variable, and starts and ends none. -/
theorem within_call (files : FileTree) (s : Session) (name : String) (arguments : List String) :
    (s.call files (fun _ s => (.ok (), s)) name arguments).2.vars = s.vars ∧
      (s.call files (fun _ s => (.ok (), s)) name arguments).2.running = s.running := by
  have hSame := call_within files (s := s) rfl s.running name arguments
  change s.call files (fun _ s => (.ok (), s)) name arguments = _ at hSame
  rw [hSame]
  exact ⟨rfl, rfl⟩

end Session

end ScriptShell
