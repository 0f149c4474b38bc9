import ScriptShell.Statement.Command
import ScriptShell.Statement.Scan
/-!
Statements that go over several lines. A statement whose text is incomplete takes the next line,
and the next, until it is complete or the lines run out. This is one and the same for a typed line
and for a script.
-/
namespace ScriptShell

/-- Why a statement was not carried out. A failed include is not among these: it has a failure of
its own, which it has already reported. -/
inductive Fault where
  /-- The text has no tokens, and no further line can change that. -/
  | text (fault : TokenFault)
  /-- The text is incomplete and there are no further lines. -/
  | endOfInput (fault : TokenFault)
  | command (fault : CommandFault)
  | unknownCommand (name : String)
deriving DecidableEq, Repr

def Fault.message : Fault → String
  | .text fault => fault.message
  | .endOfInput fault => "unexpected end of input: " ++ fault.message
  | .command fault => fault.message
  | .unknownCommand name => "command not found: " ++ name

structure Reading (α : Type) where
  /-- What the statement says, or why it says nothing. -/
  result : Except Fault α
  /-- How many further lines it took. -/
  taken : Nat
deriving Repr

/-- Joins a further line to a text, on a line of its own. -/
def joinLine (text line : String) : String :=
  if text.toList.getLast? = some '\n' then text ++ line else text ++ "\n" ++ line

/-- Reads the tokens of a statement that starts with `text` and may go on in further lines. -/
def readTokens (text : String) : (more : List String) → Reading (List Token)
  | [] =>
    match tokens text with
    | .ok tokens => ⟨.ok tokens, 0⟩
    | .error fault =>
      ⟨.error (if fault.isIncomplete then .endOfInput fault else .text fault), 0⟩
  | line :: more =>
    match tokens text with
    | .ok tokens => ⟨.ok tokens, 0⟩
    | .error fault =>
      if fault.isIncomplete then
        let reading := readTokens (joinLine text line) more
        { reading with taken := reading.taken + 1 }
      else ⟨.error (.text fault), 0⟩

section
variable {text : String} {fault : TokenFault}

theorem readTokens_of_ok {tokens : List Token} (h : ScriptShell.tokens text = .ok tokens)
    (more : List String) : readTokens text more = ⟨.ok tokens, 0⟩ := by
  cases more <;> simp [readTokens, h]

theorem readTokens_of_complete (h : tokens text = .error fault)
    (hComplete : fault.isIncomplete = false) (more : List String) :
    readTokens text more = ⟨.error (.text fault), 0⟩ := by
  cases more <;> simp [readTokens, h, hComplete]

theorem readTokens_nil_of_incomplete (h : tokens text = .error fault)
    (hIncomplete : fault.isIncomplete = true) :
    readTokens text [] = ⟨.error (.endOfInput fault), 0⟩ := by
  simp [readTokens, h, hIncomplete]

theorem readTokens_cons_of_incomplete (h : tokens text = .error fault)
    (hIncomplete : fault.isIncomplete = true) (line : String) (more : List String) :
    readTokens text (line :: more) =
      ⟨(readTokens (joinLine text line) more).result,
        (readTokens (joinLine text line) more).taken + 1⟩ := by
  simp [readTokens, h, hIncomplete]

end

/-- The commands that tokens write, as part of a reading. -/
def commandsOf (tokens : List Token) : Except Fault (List Command) :=
  (commands tokens).mapError .command

/-- Reads the commands of a statement that starts with `text` and may go on in `more`. -/
def readStatement (text : String) (more : List String) : Reading (List Command) :=
  let reading := readTokens text more
  ⟨reading.result.bind commandsOf, reading.taken⟩

end ScriptShell
