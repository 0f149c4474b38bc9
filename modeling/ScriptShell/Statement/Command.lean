import ScriptShell.Statement.Token
/-!
Commands: runs of words between separators. A statement is `command (';' command)* ';'?`, or
nothing at all.
-/
namespace ScriptShell

structure Assignment where
  name : String
  value : Word
deriving DecidableEq, Repr

/-- Assignments, and then the words of a call: its name and its arguments. -/
structure Command where
  assignments : List Assignment
  words : List Word
deriving DecidableEq, Repr

/-- Why tokens make up no statement. -/
inductive CommandFault where
  | emptyCommand
deriving DecidableEq, Repr

def CommandFault.message : CommandFault → String
  | .emptyCommand => "syntax error near unexpected token `;'"

/-- Splits the text of a first piece at its first equals sign, if what stands before it is a
variable name. -/
def splitAssignment? (text : List Char) : Option (List Char × List Char) :=
  let name := text.takeWhile (· != '=')
  match text.dropWhile (· != '=') with
  | [] => none
  | _ :: value => if isName name then some (name, value) else none

/-- The assignment that a word writes. Its name must be written out in its first piece; quotes make
no difference, since they are gone. -/
def Assignment.ofWord? : Word → Option Assignment
  | .literal text :: rest =>
    (splitAssignment? text.toList).map fun (name, value) =>
      { name := String.ofList name
        value := if value.isEmpty then rest else .literal (String.ofList value) :: rest }
  | _ => none

/-- The command that a run of words writes: assignments as long as there are any, and from the
first other word on a call. -/
def Command.ofWords : List Word → Command
  | [] => ⟨[], []⟩
  | word :: rest =>
    match Assignment.ofWord? word with
    | some a => { ofWords rest with assignments := a :: (ofWords rest).assignments }
    | none => ⟨[], word :: rest⟩

/-- The runs of words between separators, empty ones included. There is one more of them than
there are separators. -/
def wordRuns : List Token → List (List Word)
  | [] => [[]]
  | .separator :: rest => [] :: wordRuns rest
  | .word w :: rest =>
    match wordRuns rest with
    | [] => [[w]]
    | run :: runs => (w :: run) :: runs

/-- Drops the last run if it is empty: what follows a separator at the end, or an empty
statement. -/
def dropLastEmpty : List (List Word) → List (List Word)
  | [] => []
  | [run] => if run.isEmpty then [] else [run]
  | run :: runs => run :: dropLastEmpty runs

/-- The commands that tokens write. Every run of words but an empty last one must be a command. -/
def commands (tokens : List Token) : Except CommandFault (List Command) :=
  let runs := dropLastEmpty (wordRuns tokens)
  if runs.any List.isEmpty then .error .emptyCommand else .ok (runs.map Command.ofWords)

end ScriptShell
