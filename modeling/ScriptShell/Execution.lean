import ScriptShell.Session.Basic
/-!
Carrying out statements. A call of `include` runs the statements of a script, whose calls may run
further scripts; each of them takes up room among the running scripts, of which there may be only so
many, so every run comes to an end.
-/
namespace ScriptShell

/-- Why a statement or a call ended early. -/
inductive Failure where
  /-- It could not be carried out. Nobody has been told yet. -/
  | fault (fault : Fault)
  /-- An include in it failed, and has been reported where it did. -/
  | script (failure : ScriptFailure)
deriving DecidableEq, Repr

def Failure.message : Failure → String
  | .fault cause => cause.message
  | .script cause => cause.message

abbrev ScriptRun := String → Session → Except ScriptFailure Unit × Session

namespace Session

def complain (s : Session) (command : StandardCommand) (message : String) : Session :=
  s.report (command.name ++ ": " ++ message)

/-- The directory that a change of directory asks for. An empty one stands for the home
directory. -/
def directoryAsked (s : Session) : Option String → Option String
  | none | some "" => s.vars.get? "HOME"
  | some target => some target

/-- Changes the working directory. The new one is kept in its canonical form. -/
def changeDirectory (files : FileTree) (target : Option String) (s : Session) : Nat × Session :=
  match s.directoryAsked target with
  | none => (1, s.complain .cd "no target and HOME not set")
  | some target =>
    let path := s.resolve target
    let asking := s.record (.sought path)
    match files.place path with
    | .error error =>
      (1, asking.complain .cd ("can't canonicalize " ++ path ++ ": " ++ error.message))
    | .ok loc =>
      if files.isDirectory loc then (0, { asking with directory := loc.text })
      else (1, asking.complain .cd (loc.text ++ ": not a directory"))

/-- Carries out a command with its arguments. Only a failed include is a failure; any other
trouble is the command's own and shows in its status. -/
def perform (files : FileTree) (runScript : ScriptRun) (command : StandardCommand)
    (given : Arguments) (s : Session) : Except Failure Nat × Session :=
  match command with
  | .pwd => (.ok 0, s.write (s.directory ++ "\n"))
  | .echo =>
    let text := " ".intercalate given.operands
    (.ok 0, s.write (if given.switched then text else text ++ "\n"))
  | .exit => (.ok 0, s.stop)
  | .cd =>
    let (status, s) := s.changeDirectory files given.operands.head?
    (.ok status, s)
  | .inclusion =>
    match runScript (given.operands.headD "") s with
    | (.ok (), s) => (.ok 0, s)
    | (.error failure, s) => (.error (.script failure), s)

def call (files : FileTree) (runScript : ScriptRun) (name : String) (arguments : List String)
    (s : Session) : Except Failure Nat × Session :=
  match s.vocabulary.find? (·.name == name) with
  | none => (.error (.fault (.unknownCommand name)), s)
  | some command =>
    let s := s.record (.called name arguments)
    match command.form.read arguments with
    | .error fault => (.ok 1, s.report (Text.trimEnd fault.message))
    | .ok .help => (.ok 0, s.write command.help)
    | .ok (.given given) => s.perform files runScript command given

/-- Makes the assignments of a command, one after another: a later one sees the earlier ones. -/
def assignAll (s : Session) (assignments : List Assignment) : Session :=
  assignments.foldl (fun s a => s.assign a.name (s.expand a.value)) s

def runCommand (files : FileTree) (runScript : ScriptRun) (command : Command) (s : Session) :
    Except Failure Nat × Session :=
  let s := s.assignAll command.assignments
  match command.words.map s.expand with
  | [] => (.ok 0, s)
  | name :: arguments => s.call files runScript name arguments

/-- Carries out commands one after another, up to the first failure or the end of the session. The
status is that of the last one carried out. -/
def runCommands (files : FileTree) (runScript : ScriptRun) (status : Nat) :
    List Command → Session → Except Failure Nat × Session
  | [], s => (.ok status, s)
  | command :: rest, s =>
    match s.runCommand files runScript command with
    | (.error failure, s) => (.error failure, s)
    | (.ok status, s) =>
      if s.stopping then (.ok status, s) else runCommands files runScript status rest s

/-- Carries out a statement as it was read. One that was not read is not begun. -/
def runStatement (files : FileTree) (runScript : ScriptRun) (result : Except Fault (List Command))
    (s : Session) : Except Failure Nat × Session :=
  match result with
  | .error fault => (.error (.fault fault), s)
  | .ok commands => runCommands files runScript 0 commands s

/-- Carries out the statements of a script that have not been read yet. A fault is reported here,
with the line on which its statement starts; the failure of an include in the script has been
reported already. -/
def runRest (files : FileTree) (runScript : ScriptRun) (script : ScriptReader) (s : Session) :
    Except ScriptFailure Unit × Session :=
  match _h : script.next with
  | (none, _) => (.ok (), s)
  | (some text, started) =>
    let line := started.delivered
    let reading := started.readStatement text
    match s.runStatement files runScript reading.1 with
    | (.error (.script failure), s) => (.error failure, s)
    | (.error (.fault fault), s) =>
      let failure := ScriptFailure.stopped script.path line fault
      (.error failure, s.reportFailure failure)
    | (.ok _, s) => if s.stopping then (.ok (), s) else runRest files runScript reading.2 s
termination_by script.remaining.length
decreasing_by
  rw [(ScriptReader.next_eq_some _h).1]
  exact Nat.lt_succ_of_le (started.length_remaining_readStatement_le text)

/-- Runs a script that has been started: reads its file and carries out its statements. -/
def runBody (files : FileTree) (runScript : ScriptRun) (script : ScriptReader) (s : Session) :
    Except ScriptFailure Unit × Session :=
  match scriptLines files script.path with
  | .error failure => (.error failure, s.reportFailure failure)
  | .ok lines => runRest files runScript (script.withLines lines) s

/-- Starts the script at a path, runs its body and ends it, whatever became of it. -/
def runWith (files : FileTree)
    (body : ScriptReader → Session → Except ScriptFailure Unit × Session) (path : String)
    (s : Session) : Except ScriptFailure Unit × Session :=
  let target := s.resolve path
  let script := ScriptReader.unread (files.key target)
  let asking := s.record (.sought target)
  match asking.enter script.path with
  | .error failure => (.error failure, asking.reportFailure failure)
  | .ok inner =>
    let (result, inner) := body script inner
    (result, inner.release script)

/-- Runs the script at a path, in which scripts may be started to a depth of `room`. Where there is
no room every script is refused, so the body given there is never run. -/
def runIn (files : FileTree) : (room : Nat) → ScriptRun
  | 0 => runWith files fun _ s => (.ok (), s)
  | room + 1 => runWith files (runBody files (runIn files room))

def runScript (files : FileTree) (path : String) (s : Session) :
    Except ScriptFailure Unit × Session :=
  runIn files s.running.room path s

/-- Carries out the statement that starts with `line` and may go on in `more`. -/
def execute (files : FileTree) (line : String) (more : List String) (s : Session) :
    Except Failure Nat × Session :=
  s.runStatement files (runIn files s.running.room) (readStatement line more).result

def invoke (files : FileTree) (name : String) (arguments : List String) (s : Session) :
    Except Failure Nat × Session :=
  s.call files (runIn files s.running.room) name arguments

end Session

/-- The exit code of a script run: a failure is minus one. -/
def exitCode : Except ScriptFailure Unit → Int
  | .ok () => 0
  | .error _ => -1

end ScriptShell
