import ScriptShell.Prompt
/-!
The program: its command line, and what it writes and returns. With a script it runs that script;
without one it reads statements from its input.
-/
namespace ScriptShell

structure Invocation where
  arguments : List String
  environment : Variables
  /-- The directory in which the program is started, in any spelling. -/
  directory : String

/-- What the program leaves behind. On the error output that is what the session says; the log that
the program can keep there as well, by default with a warning for each include that failed, is not
part of it. -/
structure Completion where
  code : UInt8
  out : String := ""
  err : String := ""
deriving DecidableEq, Repr

namespace Program

/-- The name and the value of a variable, as an entry of the environment gives them: with an equals
sign between them. A name is not empty, so one at the very start is part of the name. -/
def binding? (entry : String) : Option (String × String) :=
  match entry.toList with
  | [] => none
  | c :: rest =>
    match rest.dropWhile (· != '=') with
    | [] => none
    | _ :: value => some (String.ofList (c :: rest.takeWhile (· != '=')), String.ofList value)

def environment (entries : List String) : Variables :=
  .ofList (entries.filterMap binding?)

/-- The option that sets how many scripts may run one inside the other. -/
def limitOption : ValueOption where
  name := "--max-include-depth"
  refusal value :=
    match Text.readNatural value with
    | .ok _ => none
    | .error fault => some fault.message

def help : String := ArgumentForm.page
  ["Usage: include_shell [--max-include-depth <max-include-depth>] [--] [<script>]",
    "",
    "A small shell that can run scripts with `include`.",
    "",
    "Positional Arguments:",
    "  script            script to run instead of starting the interactive prompt",
    "",
    "Options:",
    "  --max-include-depth",
    "                    how many scripts may include one another before giving up",
    "                    (default 64)",
    "  --help, help      display usage information"]

/-- What follows the message about a wrong command line. -/
def usageHint : String := "\nRun include_shell --help for more information.\n"

def form : ArgumentForm where
  values := [limitOption]
  operands := .optional
  help := help

def limitOf (given : Arguments) : Option Nat :=
  (given.values.lookup limitOption.name).bind fun value => (Text.readNatural value).toOption

/-- The settings of the session: those of the environment, and over them those of the command
line. -/
def settings (environment : Variables) (given : Arguments) : Except SettingFault Settings :=
  (Settings.ofVariables environment).bind fun settings =>
    match limitOf given with
    | none => .ok settings
    | some limit => settings.withLimit limit

inductive Task where
  | script (path : String)
  | prompt

/-- The directory in which the program finds itself, free of links. -/
def startDirectory (files : FileTree) (invocation : Invocation) : String :=
  match files.canonical invocation.directory with
  | .ok path => path
  | .error _ => "."

/-- What the command line asks for: a session and what to do in it, or nothing but a message. -/
def prepare (files : FileTree) (invocation : Invocation) : Except Completion (Session × Task) :=
  match form.read invocation.arguments with
  | .error fault =>
    .error { code := 1, err := fault.message ++ usageHint }
  | .ok .help => .error { code := 0, out := help ++ "\n" }
  | .ok (.given given) =>
    match settings invocation.environment given with
    | .error fault => .error { code := 1, err := "Error: " ++ fault.message ++ "\n" }
    | .ok settings =>
      let directory := startDirectory files invocation
      .ok ({ vars := invocation.environment, directory, settings },
        match given.operands.head? with
        | some path => .script path
        | none => .prompt)

/-- The terminals on which lines cannot be edited. On these the prompt is shown even where the input
is no terminal. -/
def plainTerminals : List String := ["dumb", "cons25", "emacs"]

def showsPrompt (environment : Variables) : Bool :=
  match environment.get? "TERM" with
  | none => false
  | some terminal => plainTerminals.contains (terminal.map Char.toLower)

/-- What is written when a statement was to begin with a line that is no text. -/
def unreadableInput : String :=
  "Error: line editor failed\n\nCaused by:\n    0: stream did not contain valid UTF-8\n" ++
    "    1: stream did not contain valid UTF-8\n"

/-- Runs the script that the program was started with. A failed run has the exit code minus one. -/
def runScript (files : FileTree) (path : String) (s : Session) : Completion × Session :=
  let (result, s) := s.runScript files path
  ({ code := UInt8.ofInt (exitCode result), out := s.journal.out, err := s.journal.err }, s)

def runInput (files : FileTree) (lines : List InputLine) (s : Session) : Completion × Session :=
  let (ending, s) := s.runPrompt files (showsPrompt s.vars) lines
  match ending with
  | .exhausted | .stopped => ({ code := 0, out := s.journal.out, err := s.journal.err }, s)
  | .unreadable =>
    ({ code := 1, out := s.journal.out, err := s.journal.err ++ unreadableInput }, s)

/-- What the program leaves behind, and the journal of its session. -/
def perform (files : FileTree) (invocation : Invocation) (input : ByteArray) :
    Completion × Journal :=
  match prepare files invocation with
  | .error completion => (completion, {})
  | .ok (s, task) =>
    let (completion, s) := match task with
      | .script path => runScript files path s
      | .prompt => runInput files (InputLine.ofBytes input) s
    (completion, s.journal)

def run (files : FileTree) (invocation : Invocation) (input : ByteArray) : Completion :=
  (perform files invocation input).1

/-- The paths that the program looks for in its files. -/
def sought (files : FileTree) (invocation : Invocation) (input : ByteArray) : List String :=
  (perform files invocation input).2.sought

/-- Whether the program reads its input. With a script, or with nothing to do, it does not. -/
def readsInput (files : FileTree) (invocation : Invocation) : Bool :=
  match prepare files invocation with
  | .ok (_, .prompt) => true
  | _ => false

end Program

end ScriptShell
