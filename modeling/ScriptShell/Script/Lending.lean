import ScriptShell.Script.Reader
/-!
A script that is lent to one after another. Each of them takes as many lines from it as it wants.
How far the script has been read is kept in the script alone, so the next one goes on where the last
one stopped.
-/
namespace ScriptShell.ScriptReader

/-- What a script answers when it is asked for its next line. -/
structure Answer where
  /-- None after the last line. -/
  line : Option String
  /-- The number of the line that was handed out last. -/
  number : Nat
deriving DecidableEq, Repr

/-- What can be done with a script that is being read. -/
inductive Use where
  /-- Gives it other lines. -/
  | fill (lines : List String)
  /-- Lends it to someone who asks for a line so many times. -/
  | lend (times : Nat)

/-- The number of the line that was handed out last, 0 if there was none. -/
def lastNumber (r : ScriptReader) : Nat :=
  r.nextNumber - 1

/-- Asks for the next line, so many times. -/
def ask : ScriptReader → (times : Nat) → List Answer × ScriptReader
  | r, 0 => ([], r)
  | r, times + 1 =>
    let (line, asked) := r.next
    let (answers, after) := asked.ask times
    (⟨line, asked.lastNumber⟩ :: answers, after)

/-- What the script answers during one use, and what becomes of it. -/
def use (r : ScriptReader) : Use → List Answer × ScriptReader
  | .fill lines => ([], r.withLines lines)
  | .lend times => r.ask times

def useAll : ScriptReader → List Use → List Answer × ScriptReader
  | r, [] => ([], r)
  | r, first :: rest =>
    let (answers, used) := r.use first
    let (more, after) := used.useAll rest
    (answers ++ more, after)

end ScriptShell.ScriptReader
