import ScriptShell.StandardCommand
import ScriptShell.Script.Reader
import ScriptShell.Session.Journal
import ScriptShell.Session.Settings
/-!
The state of a session, and the single things that it can do.
-/
namespace ScriptShell

structure Session where
  vars : Variables := .empty
  directory : String
  /-- Whether the session was told to end. -/
  stopping : Bool := false
  settings : Settings := {}
  running : RunningScripts := { limit := settings.includeLimit }
  /-- The commands that can be called. -/
  vocabulary : List StandardCommand := StandardCommand.all
  journal : Journal := {}

namespace Session

def record (s : Session) (event : Event) : Session :=
  { s with journal := s.journal.record event }

def write (s : Session) (text : String) : Session :=
  s.record (.wrote text)

/-- Writes a message to the error output. -/
def report (s : Session) (message : String) : Session :=
  s.record (.reported (.message message))

def reportFailure (s : Session) (failure : ScriptFailure) : Session :=
  s.record (.reported (.failedScript failure))

def assign (s : Session) (name value : String) : Session :=
  { s with vars := s.vars.set name value }.record (.assigned name value)

def stop (s : Session) : Session :=
  { s with stopping := true }.record .stopped

/-- A path seen from the working directory. -/
def resolve (s : Session) (path : String) : String :=
  Path.join s.directory path

/-- Starts the script known as `key`. -/
def enter (s : Session) (key : String) : Except ScriptFailure Session :=
  (s.running.enter key).map fun running => { s with running }.record (.entered key)

/-- Takes the innermost script off the running ones. -/
def leave (s : Session) : Session :=
  { s with running := s.running.leave }

/-- Ends a script that was started. It is expected to be the innermost one; what was taken off the
running scripts for it goes into the journal. -/
def release (s : Session) (script : ScriptReader) : Session :=
  s.leave.record (.left script.path s.running.keys.head?)

/-- A session starts a script exactly when the script is not running and there is room for it. -/
theorem enter_eq_ok_iff {s inner : Session} {key : String} :
    s.enter key = .ok inner ↔
      s.running.isRunning key = false ∧ s.running.depth < s.running.limit ∧
        inner = { s with running := { s.running with keys := key :: s.running.keys } }.record
          (.entered key) := by
  unfold enter
  cases hEnter : s.running.enter key with
  | error failure =>
      have hNot : ¬(s.running.isRunning key = false ∧ s.running.depth < s.running.limit) := by
        rintro ⟨hFresh, hRoom⟩
        have hOk := RunningScripts.enter_eq_ok_iff.mpr ⟨hFresh, hRoom, rfl⟩
        rw [hEnter] at hOk
        cases hOk
      simp only [Except.map, reduceCtorEq, false_iff]
      exact fun h => hNot ⟨h.1, h.2.1⟩
  | ok running =>
      obtain ⟨hFresh, hRoom, rfl⟩ := RunningScripts.enter_eq_ok_iff.mp hEnter
      simp [Except.map, hFresh, hRoom, eq_comm]

theorem enter_eq_error_iff {s : Session} {key : String} {failure : ScriptFailure} :
    s.enter key = .error failure ↔ s.running.enter key = .error failure := by
  unfold enter
  cases s.running.enter key <;> simp [Except.map]

/-- The text of a piece of a word. A variable that is unset has the empty text. -/
def expandPart (s : Session) : Part → String
  | .literal text => text
  | .substitution name => (s.vars.get? name).getD ""

def expand (s : Session) (word : Word) : String :=
  String.join (word.map s.expandPart)

end Session

end ScriptShell
