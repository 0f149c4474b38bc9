import ScriptShell.FileTree.Basic
import ScriptShell.Path.Basic
import ScriptShell.Statement.Reading
import ScriptShell.Text.Utf8
/-!
The scripts that are running, one inside the other. A script does not run inside itself, and only
so many run at once. A script that fails, or that is refused, ends the include that asked for it and
all around it; its failure reaches the outside unchanged.
-/
namespace ScriptShell

/-- Why an include failed. -/
inductive ScriptFailure where
  | recursive (path : String)
  /-- As many scripts are running as may. -/
  | tooDeep (path : String) (limit : Nat)
  | unreadable (path : String) (error : FileError)
  | notText (path : String) (fault : Text.Utf8Fault)
  /-- A statement of the script was not carried out; `line` is its first line. -/
  | stopped (path : String) (line : Nat) (cause : Fault)
deriving DecidableEq, Repr

namespace ScriptFailure

def path : ScriptFailure → String
  | recursive path | tooDeep path _ | unreadable path _ | notText path _ | stopped path _ _ => path

/-- The line on which it happened, if a statement failed. -/
def line? : ScriptFailure → Option Nat
  | stopped _ line _ => some line
  | _ => none

def message : ScriptFailure → String
  | recursive path => "recursive include for file " ++ path
  | tooDeep path limit => s!"include depth limit of {limit} reached at {path}"
  | unreadable path error => "error opening file " ++ path ++ ": " ++ error.message
  | notText path fault => path ++ " is not a text file: " ++ fault.message
  | stopped path line cause => s!"{path}, line {line}: " ++ cause.message

end ScriptFailure

/-- The running scripts and how many of them there may be. -/
structure RunningScripts where
  /-- The spellings of the running scripts, innermost first. -/
  keys : List String := []
  limit : Nat

namespace RunningScripts

def depth (running : RunningScripts) : Nat :=
  running.keys.length

/-- How many more scripts may start inside the running ones. -/
def room (running : RunningScripts) : Nat :=
  running.limit - running.depth

def isRunning (running : RunningScripts) (key : String) : Bool :=
  running.keys.any (Path.same key)

/-- Starts a script. One that is running already is refused first, then one too many. -/
def enter (running : RunningScripts) (key : String) : Except ScriptFailure RunningScripts :=
  if running.isRunning key then .error (.recursive key)
  else if running.limit ≤ running.depth then .error (.tooDeep key running.limit)
  else .ok { running with keys := key :: running.keys }

def leave (running : RunningScripts) : RunningScripts :=
  { running with keys := running.keys.tail }

theorem isRunning_eq_false_iff {running : RunningScripts} {key : String} :
    running.isRunning key = false ↔ ∀ other ∈ running.keys, Path.same key other = false := by
  simp [isRunning]

/-- A script starts exactly when it is not running and there is room for one more. -/
theorem enter_eq_ok_iff {running inner : RunningScripts} {key : String} :
    running.enter key = .ok inner ↔
      running.isRunning key = false ∧ running.depth < running.limit ∧
        inner = { running with keys := key :: running.keys } := by
  unfold enter
  by_cases hRunning : running.isRunning key = true
  · simp [hRunning]
  · by_cases hFull : running.limit ≤ running.depth
    · simp [hRunning, hFull, Nat.not_lt.mpr hFull]
    · simp [hRunning, hFull, Nat.lt_of_not_le hFull, eq_comm]

/-- A script that is running already is refused as such, whether there is room or not. -/
theorem enter_eq_recursive_iff {running : RunningScripts} {key : String} :
    running.enter key = .error (.recursive key) ↔ running.isRunning key = true := by
  unfold enter
  by_cases hRunning : running.isRunning key = true
  · simp [hRunning]
  · by_cases hFull : running.limit ≤ running.depth <;> simp [hRunning, hFull]

theorem enter_eq_tooDeep_iff {running : RunningScripts} {key : String} :
    running.enter key = .error (.tooDeep key running.limit) ↔
      running.isRunning key = false ∧ running.limit ≤ running.depth := by
  unfold enter
  by_cases hRunning : running.isRunning key = true
  · simp [hRunning]
  · by_cases hFull : running.limit ≤ running.depth <;> simp [hRunning, hFull]

end RunningScripts

end ScriptShell
