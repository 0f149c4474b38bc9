import ScriptShell.Session.Variables
import ScriptShell.Text.Quoted
/-!
Settings of a session: how many scripts may run one inside the other, and the prompt. Variables
override the defaults, and what the command line says overrides both.
-/
namespace ScriptShell

/-- A setting that was given a value it cannot have. -/
structure SettingFault where
  /-- The setting, by the name under which the value was given. -/
  key : String
  value : String
  reason : String
deriving DecidableEq, Repr

def SettingFault.message (f : SettingFault) : String :=
  "invalid value " ++ Text.quoted f.value ++ " for " ++ f.key ++ ": " ++ f.reason

structure Settings where
  /-- How many scripts may run one inside the other. -/
  includeLimit : Nat := 64
  prompt : String := "🐒$ "
deriving DecidableEq, Repr

namespace Settings

def limitVariable : String := "SHELL_MAX_INCLUDE_DEPTH"

def promptVariable : String := "SHELL_PROMPT"

/-- Why a limit of zero is refused. -/
def zeroReason : String := "must be at least 1"

/-- The settings with another limit, which must leave room for a script. -/
def withLimit (settings : Settings) (limit : Nat) : Except SettingFault Settings :=
  if limit = 0 then .error ⟨"max_include_depth", "0", zeroReason⟩
  else .ok { settings with includeLimit := limit }

/-- The limit that a text writes, with blanks around it. -/
def readLimit (raw : String) : Except SettingFault Nat :=
  match Text.readNatural (Text.trim raw) with
  | .error fault => .error ⟨limitVariable, raw, fault.message⟩
  | .ok 0 => .error ⟨limitVariable, raw, zeroReason⟩
  | .ok limit => .ok limit

def ofVariables (vs : Variables) : Except SettingFault Settings :=
  let prompt := (vs.get? promptVariable).getD ({} : Settings).prompt
  match vs.get? limitVariable with
  | none => .ok { prompt }
  | some raw => (readLimit raw).map fun includeLimit => { includeLimit, prompt }

end Settings

end ScriptShell
