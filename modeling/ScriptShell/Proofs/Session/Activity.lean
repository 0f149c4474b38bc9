import ScriptShell.Proofs.Script.Chunks
/-!
What a session is asked to carry out, from a statement down to the rest of a script, and what that
asks for in turn. The definitions of the runs bound the depth of scripts inside scripts beforehand;
here the recursion stands as it is, with no bound: each activity is carried out by way of the
activities that it asks for.
-/
namespace ScriptShell

/-- Something that a session carries out. -/
inductive Activity where
  /-- A statement that starts with a text and may go on in further lines. -/
  | statement (text : String) (more : List String)
  /-- Commands, one after another. The status is that of the command before them. -/
  | commands (status : Nat) (commands : List Command)
  | call (name : String) (arguments : List String)
  | script (path : String)
  /-- What has not been read yet of a script that has been started. -/
  | rest (script : ScriptReader)

abbrev Outcome := Except Failure Nat × Session

namespace Outcome

/-- What comes of an include, given what came of its script. -/
def ofScript : Except ScriptFailure Unit × Session → Outcome
  | (.ok (), s) => (.ok 0, s)
  | (.error failure, s) => (.error (.script failure), s)

/-- Goes on after an outcome, unless it is a failure or the session was told to end. -/
def andThen (outcome : Outcome) (next : Nat → Session → Outcome) : Outcome :=
  match outcome with
  | (.error failure, s) => (.error failure, s)
  | (.ok status, s) => if s.stopping then (.ok status, s) else next status s

/-- What a statement comes to that starts on a line of a script: its fault is reported there. -/
def inScript (path : String) (line : Nat) : Outcome → Outcome
  | (.error (.fault fault), s) =>
    (.error (.script (.stopped path line fault)), s.reportFailure (.stopped path line fault))
  | (.error (.script failure), s) => (.error (.script failure), s)
  | (.ok _, s) => (.ok 0, s)

def release (script : ScriptReader) (outcome : Outcome) : Outcome :=
  (outcome.1, outcome.2.release script)

theorem snd_ofScript (outcome : Except ScriptFailure Unit × Session) :
    (ofScript outcome).2 = outcome.2 := by
  obtain ⟨result, s⟩ := outcome
  cases result <;> rfl

theorem ofScript_injective : Function.Injective ofScript := by
  intro first second h
  obtain ⟨result, s⟩ := first
  obtain ⟨other, t⟩ := second
  cases result <;> cases other <;> cases h <;> rfl

theorem andThen_congr {outcome : Outcome} {next other : Nat → Session → Outcome}
    (h : ∀ status s, outcome = (.ok status, s) → s.stopping = false →
      next status s = other status s) :
    outcome.andThen next = outcome.andThen other := by
  obtain ⟨result, s⟩ := outcome
  cases result with
  | error failure => rfl
  | ok status =>
      cases hStop : s.stopping with
      | true => simp [andThen, hStop]
      | false => simpa [andThen, hStop] using h status s rfl hStop

theorem inScript_of_ok {outcome : Outcome} {status : Nat} {s : Session}
    (h : outcome = (.ok status, s)) (path : String) (line : Nat) :
    outcome.inScript path line = (.ok 0, s) := by
  rw [h]
  rfl

theorem inScript_eq_ok {outcome : Outcome} {path : String} {line status : Nat} {s : Session}
    (h : outcome.inScript path line = (.ok status, s)) : ∃ own, outcome = (.ok own, s) := by
  obtain ⟨result, after⟩ := outcome
  cases result with
  | error failure => cases failure <;> cases h
  | ok own =>
      cases h
      exact ⟨own, rfl⟩

end Outcome

namespace Session

def carryOut (files : FileTree) : Activity → Session → Outcome
  | .statement text more, s => s.execute files text more
  | .commands status commands, s =>
    runCommands files (runIn files s.running.room) status commands s
  | .call name arguments, s => s.invoke files name arguments
  | .script path, s => .ofScript (s.runScript files path)
  | .rest script, s => .ofScript (runRest files (runIn files s.running.room) script s)

/-- The path of the script that a call asks for, if it asks for one. -/
def inclusion? (s : Session) (name : String) (arguments : List String) : Option String :=
  match s.vocabulary.find? (·.name == name) with
  | some .inclusion =>
    match StandardCommand.inclusion.form.read arguments with
    | .ok (.given given) => some (given.operands.headD "")
    | _ => none
  | _ => none

/-- Carries out one command. Its call is left to `run`. -/
def commandBy (run : Activity → Session → Outcome) (command : Command) (s : Session) : Outcome :=
  let assigned := s.assignAll command.assignments
  match command.words.map assigned.expand with
  | [] => (.ok 0, assigned)
  | name :: arguments => run (.call name arguments) assigned

/-- One layer of carrying out an activity. The activities that it asks for are left to `run`. -/
def carryOutBy (files : FileTree) (run : Activity → Session → Outcome) :
    Activity → Session → Outcome
  | .statement text more, s =>
    match tokens text, more with
    | .ok tokens, _ =>
      match commandsOf tokens with
      | .error fault => (.error (.fault fault), s)
      | .ok commands => run (.commands 0 commands) s
    | .error fault, [] =>
      (.error (.fault (if fault.isIncomplete then .endOfInput fault else .text fault)), s)
    | .error fault, line :: more =>
      if fault.isIncomplete then run (.statement (joinLine text line) more) s
      else (.error (.fault (.text fault)), s)
  | .commands status [], s => (.ok status, s)
  | .commands _ (command :: rest), s =>
    (commandBy run command s).andThen fun status s => run (.commands status rest) s
  | .call name arguments, s =>
    match s.inclusion? name arguments with
    | some path => run (.script path) (s.record (.called name arguments))
    | none => s.call files (fun _ s => (.ok (), s)) name arguments
  | .script path, s =>
    let target := s.resolve path
    let script := ScriptReader.unread (files.key target)
    let asking := s.record (.sought target)
    match asking.enter script.path with
    | .error failure => (.error (.script failure), asking.reportFailure failure)
    | .ok inner =>
      let outcome : Outcome := match scriptLines files script.path with
        | .error failure => (.error (.script failure), inner.reportFailure failure)
        | .ok lines => run (.rest (script.withLines lines)) inner
      outcome.release script
  | .rest script, s =>
    match script.next with
    | (none, _) => (.ok 0, s)
    | (some text, started) =>
      ((run (.statement text started.remaining) s).inScript script.path started.delivered).andThen
        fun _ s => run (.rest (started.readStatement text).2) s

section
variable {run : Activity → Session → Outcome} {command : Command} {s : Session}

theorem commandBy_of_nil (h : command.words.map (s.assignAll command.assignments).expand = []) :
    commandBy run command s = (.ok 0, s.assignAll command.assignments) := by
  simp only [commandBy, h]

theorem commandBy_of_cons {name : String} {arguments : List String}
    (h : command.words.map (s.assignAll command.assignments).expand = name :: arguments) :
    commandBy run command s = run (.call name arguments) (s.assignAll command.assignments) := by
  simp only [commandBy, h]

end

variable {files : FileTree}

@[simp]
theorem running_assignAll (s : Session) (assignments : List Assignment) :
    (s.assignAll assignments).running = s.running := by
  unfold assignAll
  induction assignments generalizing s with
  | nil => rfl
  | cons a rest ih => exact ih _

theorem running_call (files : FileTree) (name : String) (arguments : List String) (s : Session) :
    (carryOut files (.call name arguments) s).2.running = s.running :=
  running_serve files (.command name arguments) s

theorem running_statement (files : FileTree) (text : String) (more : List String) (s : Session) :
    (carryOut files (.statement text more) s).2.running = s.running :=
  running_serve files (.statement text more) s

theorem carryOut_statement (text : String) (more : List String) (s : Session) :
    carryOut files (.statement text more) s =
      carryOutBy files (carryOut files) (.statement text more) s := by
  simp only [carryOut, carryOutBy, execute, readStatement]
  cases hTokens : tokens text with
  | ok ts =>
      simp only [readTokens_of_ok hTokens, Except.bind]
      cases commandsOf ts <;> rfl
  | error fault =>
      cases hIncomplete : fault.isIncomplete with
      | false =>
          rw [readTokens_of_complete hTokens hIncomplete]
          cases more <;> simp [hIncomplete, Except.bind, runStatement]
      | true =>
          cases more with
          | nil =>
              rw [readTokens_nil_of_incomplete hTokens hIncomplete]
              simp [hIncomplete, Except.bind, runStatement]
          | cons line more =>
              rw [readTokens_cons_of_incomplete hTokens hIncomplete]
              simp [hIncomplete]

theorem carryOut_commands (status : Nat) (commands : List Command) (s : Session) :
    carryOut files (.commands status commands) s =
      carryOutBy files (carryOut files) (.commands status commands) s := by
  cases commands with
  | nil => rfl
  | cons command rest =>
      have hRunning := running_assignAll s command.assignments
      simp only [carryOut, carryOutBy, commandBy, runCommands, runCommand, invoke]
      cases command.words.map (s.assignAll command.assignments).expand with
      | nil => simp only [Outcome.andThen, hRunning]
      | cons name arguments =>
          have hAfter := running_call files name arguments
            (s.assignAll command.assignments)
          simp only [carryOut, invoke, hRunning] at hAfter ⊢
          generalize call files _ name arguments _ = outcome at hAfter ⊢
          obtain ⟨result, after⟩ := outcome
          change after.running = _ at hAfter
          cases result with
          | error failure => rfl
          | ok status => simp only [Outcome.andThen, hAfter]

/-- A call that asks for no script runs none. -/
theorem call_of_inclusion?_eq_none {s : Session} {name : String} {arguments : List String}
    (h : s.inclusion? name arguments = none) (runScript other : ScriptRun) :
    s.call files runScript name arguments = s.call files other name arguments := by
  unfold inclusion? at h
  unfold call
  cases hFind : s.vocabulary.find? (·.name == name) with
  | none => rfl
  | some command =>
      cases command with
      | inclusion =>
          rw [hFind] at h
          cases hRead : StandardCommand.inclusion.form.read arguments with
          | error fault => simp only [hRead]
          | ok request =>
              rw [hRead] at h
              cases request with
              | help => simp only [hRead]
              | given given => cases h
      | _ => rfl

theorem call_of_inclusion?_eq_some {s : Session} {name path : String} {arguments : List String}
    (h : s.inclusion? name arguments = some path) (runScript : ScriptRun) :
    s.call files runScript name arguments =
      Outcome.ofScript (runScript path (s.record (.called name arguments))) := by
  unfold inclusion? at h
  unfold call
  cases hFind : s.vocabulary.find? (·.name == name) with
  | none => rw [hFind] at h; cases h
  | some command =>
      rw [hFind] at h
      cases command with
      | inclusion =>
          cases hRead : StandardCommand.inclusion.form.read arguments with
          | error fault => rw [hRead] at h; cases h
          | ok request =>
              rw [hRead] at h
              cases request with
              | help => cases h
              | given given =>
                  cases h
                  simp only [hRead, perform]
                  generalize runScript _ _ = outcome
                  obtain ⟨result, after⟩ := outcome
                  cases result <;> rfl
      | _ => cases h

theorem carryOut_call (name : String) (arguments : List String) (s : Session) :
    carryOut files (.call name arguments) s =
      carryOutBy files (carryOut files) (.call name arguments) s := by
  simp only [carryOut, carryOutBy, invoke]
  cases hAsked : s.inclusion? name arguments with
  | none => exact call_of_inclusion?_eq_none hAsked ..
  | some path => exact call_of_inclusion?_eq_some hAsked _

theorem ofScript_release (script : ScriptReader) (result : Except ScriptFailure Unit)
    (s : Session) :
    Outcome.ofScript (result, s.release script) =
      (Outcome.ofScript (result, s)).release script := by
  cases result <;> rfl

/-- Once a script has been started there is room for one script less. -/
theorem room_enter {s inner : Session} {key : String} (h : s.enter key = .ok inner) :
    s.running.room = inner.running.room + 1 := by
  obtain ⟨_, hDepth, rfl⟩ := enter_eq_ok_iff.mp h
  have hLess : s.running.keys.length < s.running.limit := hDepth
  simp only [RunningScripts.room, RunningScripts.depth, record, List.length_cons]
  omega

theorem carryOut_script (path : String) (s : Session) :
    carryOut files (.script path) s = carryOutBy files (carryOut files) (.script path) s := by
  simp only [carryOut, carryOutBy, runScript]
  have hRoom : s.running.room = (s.record (.sought (s.resolve path))).running.room := rfl
  cases hEnter : (s.record (.sought (s.resolve path))).enter (files.key (s.resolve path)) with
  | error failure =>
      cases s.running.room <;>
        simp only [runIn, runWith, ScriptReader.path_unread, hEnter, Outcome.ofScript]
  | ok inner =>
      rw [hRoom, room_enter hEnter]
      simp only [runIn, runWith, ScriptReader.path_unread, hEnter, ofScript_release, runBody]
      cases scriptLines files (files.key (s.resolve path)) <;> rfl

theorem result_readStatement (started : ScriptReader) (text : String) :
    (started.readStatement text).1 = (readStatement text started.remaining).result := by
  change (started.readTokens text).1.bind commandsOf = _
  rw [(started.readTokens_eq text).1]
  rfl

theorem carryOut_rest (script : ScriptReader) (s : Session) :
    carryOut files (.rest script) s = carryOutBy files (carryOut files) (.rest script) s := by
  simp only [carryOut, carryOutBy]
  cases hNext : script.next with
  | mk first started =>
      cases first with
      | none => rw [runRest_of_end hNext]; rfl
      | some text =>
          have hAfter := running_statement files text started.remaining s
          rw [runRest_of_next hNext, result_readStatement]
          simp only [carryOut, execute] at hAfter ⊢
          generalize runStatement files _ _ s = outcome at hAfter ⊢
          obtain ⟨result, after⟩ := outcome
          change after.running = _ at hAfter
          cases result with
          | error failure => cases failure <;> rfl
          | ok status =>
              simp only [Outcome.inScript, Outcome.andThen, hAfter]
              split <;> rfl

/-- Every activity is carried out by way of those that it asks for. -/
theorem carryOut_eq (files : FileTree) (a : Activity) (s : Session) :
    carryOut files a s = carryOutBy files (carryOut files) a s := by
  cases a with
  | statement text more => exact carryOut_statement text more s
  | commands status commands => exact carryOut_commands status commands s
  | call name arguments => exact carryOut_call name arguments s
  | script path => exact carryOut_script path s
  | rest script => exact carryOut_rest script s

end Session

end ScriptShell
