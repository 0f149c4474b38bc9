/-!
Argument lists. A command says which options and operands it takes; reading a list against that
form gives the arguments, a request for help, or the first thing that is wrong.
-/
namespace ScriptShell

/-- An option that takes the next argument as its value. -/
structure ValueOption where
  name : String
  /-- Why a value is not acceptable, if it is not. -/
  refusal : String → Option String

/-- The arguments that a command takes beside its options. -/
inductive Operands where
  | none
  /-- One that may be left out. -/
  | optional
  /-- One that has to be there, with the name under which it is asked for. -/
  | required (name : String)
  /-- Any number. The first one ends the options, so that the later ones are taken as they are. -/
  | greedy
deriving DecidableEq, Repr

structure ArgumentForm where
  /-- The spellings of its one switch, if it has one. -/
  switches : List String := []
  /-- Its options with a value. -/
  values : List ValueOption := []
  operands : Operands := .none
  /-- What is shown when help is asked for. -/
  help : String

structure Arguments where
  switched : Bool := false
  /-- The options with a value, latest first. -/
  values : List (String × String) := []
  operands : List String := []
deriving DecidableEq, Repr

inductive ArgumentFault where
  | unrecognized (argument : String)
  /-- An option after a request for help. -/
  | afterHelp
  | noValue (option : String)
  | badValue (option value reason : String)
  | missing (operand : String)
deriving DecidableEq, Repr

def ArgumentFault.message : ArgumentFault → String
  | .unrecognized argument => "Unrecognized argument: " ++ argument ++ "\n"
  | .afterHelp => "Trailing arguments are not allowed after `help`."
  | .noValue option => "No value provided for option '" ++ option ++ "'.\n"
  | .badValue option value reason =>
    "Error parsing option '" ++ option ++ "' with value '" ++ value ++ "': " ++ reason ++ "\n"
  | .missing operand => "Required positional arguments not provided:\n    " ++ operand ++ "\n"

inductive Request where
  | help
  | given (arguments : Arguments)
deriving DecidableEq, Repr

structure ArgumentProgress where
  helpAsked : Bool := false
  /-- Whether all that follows are operands. -/
  optionsEnded : Bool := false
  given : Arguments := {}
deriving DecidableEq, Repr

namespace ArgumentForm

/-- Lines of help, each ended by a newline. -/
def page (lines : List String) : String :=
  String.join (lines.map (· ++ "\n"))

/-- Takes an argument as an operand, if there is room for it. -/
def addOperand (form : ArgumentForm) (p : ArgumentProgress) (argument : String) :
    Except ArgumentFault ArgumentProgress :=
  let given := { p.given with operands := p.given.operands ++ [argument] }
  match form.operands with
  | .none => .error (.unrecognized argument)
  | .greedy => .ok { p with optionsEnded := true, given }
  | .optional | .required _ =>
    if p.given.operands.isEmpty then .ok { p with given } else .error (.unrecognized argument)

/-- Why an option may not have a value: it has one already, or the value is not acceptable. -/
def valueRefusal (option : ValueOption) (p : ArgumentProgress) (value : String) : Option String :=
  if (p.given.values.lookup option.name).isSome then some "duplicate values provided"
  else option.refusal value

/-- Reads arguments one after another, up to the first fault. -/
def take (form : ArgumentForm) (p : ArgumentProgress) :
    List String → Except ArgumentFault ArgumentProgress
  | [] => .ok p
  | argument :: rest =>
    if !p.optionsEnded && (argument == "--help" || argument == "help") then
      form.take { p with helpAsked := true } rest
    else if !p.optionsEnded && argument == "--" then
      form.take { p with optionsEnded := true } rest
    else if !p.optionsEnded && argument.toList.head? == some '-' then
      if p.helpAsked then .error .afterHelp
      else if form.switches.contains argument then
        form.take { p with given := { p.given with switched := true } } rest
      else match form.values.find? (·.name == argument) with
        | none => .error (.unrecognized argument)
        | some option =>
          match rest with
          | [] => .error (.noValue argument)
          | value :: rest =>
            match valueRefusal option p value with
            | some reason => .error (.badValue argument value reason)
            | none =>
              let given := { p.given with values := (argument, value) :: p.given.values }
              form.take { p with given } rest
    else
      match form.addOperand p argument with
      | .ok p => form.take p rest
      | .error fault => .error fault

/-- What is asked for once all arguments are read. A request for help is met even if an operand is
missing. -/
def conclude (form : ArgumentForm) (p : ArgumentProgress) : Except ArgumentFault Request :=
  if p.helpAsked then .ok .help
  else match form.operands with
    | .required name =>
      if p.given.operands.isEmpty then .error (.missing name) else .ok (.given p.given)
    | _ => .ok (.given p.given)

def read (form : ArgumentForm) (arguments : List String) : Except ArgumentFault Request :=
  (form.take {} arguments).bind form.conclude

end ArgumentForm

end ScriptShell
