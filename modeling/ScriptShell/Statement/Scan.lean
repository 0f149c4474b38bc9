import ScriptShell.Statement.Token
/-!
From characters to tokens, one character at a time. The scanner is a fold: what it has seen is all
in its state, a character that needs the next one to be understood included. So the scan of a text
that is continued goes on from the state at the break, and a statement can be read line by line.
-/
namespace ScriptShell

/-- A word that is being read. Both lists are in reverse. -/
structure Draft where
  parts : List Part := []
  /-- The characters of the piece of text that is still growing. -/
  text : List Char := []
deriving DecidableEq, Repr

namespace Draft

/-- The draft with its text, if it has any, made a piece. -/
def flush (d : Draft) : Draft :=
  match d.text with
  | [] => d
  | text => ⟨.literal (String.ofList text.reverse) :: d.parts, []⟩

def toWord (d : Draft) : Word :=
  d.flush.parts.reverse

def put (d : Draft) (c : Char) : Draft :=
  { d with text := c :: d.text }

def putVariable (d : Draft) (name : String) : Draft :=
  ⟨.substitution name :: d.flush.parts, []⟩

end Draft

/-- Where the scanner stands. `quoted` tells whether double quotes are open around it. -/
inductive Mode where
  | plain
  /-- Outside quotes, right after a line continuation. -/
  | continued
  | escape
  /-- Outside quotes, after a backslash and a carriage return. -/
  | escapeReturn
  | single
  | double
  | doubleEscape
  /-- Inside double quotes, after a backslash and a carriage return. -/
  | doubleEscapeReturn
  | dollar (quoted : Bool)
  /-- Inside a name that follows a dollar sign; its characters so far, in reverse. -/
  | name (quoted : Bool) (read : List Char)
  /-- Inside the braces of a substitution; the characters so far, in reverse. -/
  | braced (quoted : Bool) (read : List Char)
  /-- Inside a comment, which goes on to the end of the text. -/
  | comment
deriving DecidableEq, Repr

structure Scan where
  mode : Mode := .plain
  /-- The finished tokens, in reverse. -/
  tokens : List Token := []
  /-- The word being read; none between words. -/
  draft : Option Draft := none
deriving DecidableEq, Repr

namespace Scan

def start : Scan := {}

def goto (s : Scan) (mode : Mode) : Scan :=
  { s with mode }

/-- The word being read, which starts here if none was. -/
def word (s : Scan) : Draft :=
  s.draft.getD {}

/-- Starts a word if none is being read. -/
def openWord (s : Scan) : Scan :=
  { s with draft := some s.word }

def put (s : Scan) (c : Char) : Scan :=
  { s with draft := some (s.word.put c) }

def putVariable (s : Scan) (name : List Char) : Scan :=
  { s with draft := some (s.word.putVariable (String.ofList name)) }

def endWord (s : Scan) : Scan :=
  match s.draft with
  | none => s
  | some d => { s with tokens := .word d.toWord :: s.tokens, draft := none }

def separate (s : Scan) : Scan :=
  { s.endWord with tokens := .separator :: s.endWord.tokens }

/-- The characters that part words outside quotes. -/
def isGap (c : Char) : Bool :=
  c == ' ' || c == '\t' || c == '\n' || c == '\r'

def outside (s : Scan) (c : Char) : Scan :=
  if c == '#' && s.draft.isNone then s.goto .comment
  else if isGap c then s.endWord.goto .plain
  else match c with
    | ';' => s.separate.goto .plain
    | '\'' => s.openWord.goto .single
    | '"' => s.openWord.goto .double
    | '\\' => s.goto .escape
    | '$' => s.openWord.goto (.dollar false)
    | c => (s.put c).goto .plain

def inside (s : Scan) (c : Char) : Scan :=
  match c with
  | '"' => s.goto .plain
  | '\\' => s.goto .doubleEscape
  | '$' => s.goto (.dollar true)
  | c => (s.put c).goto .double

/-- Takes a character that follows a finished substitution or a lone dollar sign. -/
def resume (s : Scan) (quoted : Bool) (c : Char) : Scan :=
  if quoted then s.inside c else s.outside c

def step (s : Scan) (c : Char) : Except TokenFault Scan :=
  match s.mode with
  | .plain | .continued => .ok (s.outside c)
  | .escape =>
    .ok <| match c with
      | '\n' => s.goto .continued
      | '\r' => s.goto .escapeReturn
      | c => (s.put c).goto .plain
  | .escapeReturn =>
    .ok <| match c with
      | '\n' => s.goto .continued
      | c => (s.put '\r').outside c
  | .single =>
    .ok <| match c with
      | '\'' => s.goto .plain
      | c => s.put c
  | .double => .ok (s.inside c)
  | .doubleEscape =>
    .ok <| match c with
      | '\n' => s.goto .double
      | '\r' => s.goto .doubleEscapeReturn
      | '"' | '\\' | '$' => (s.put c).goto .double
      | c => (s.put '\\').inside c
  | .doubleEscapeReturn =>
    .ok <| match c with
      | '\n' => s.goto .double
      | c => ((s.put '\\').put '\r').inside c
  | .dollar quoted =>
    .ok <|
      if c = '\x7b' then s.goto (.braced quoted [])
      else if isNameStart c then s.goto (.name quoted [c])
      else (s.put '$').resume quoted c
  | .name quoted read =>
    .ok <|
      if isNameChar c then s.goto (.name quoted (c :: read))
      else (s.putVariable read.reverse).resume quoted c
  | .braced quoted read =>
    if c = '\x7d' then
      if isName read.reverse then
        .ok ((s.putVariable read.reverse).goto (if quoted then .double else .plain))
      else .error (.badName (String.ofList read.reverse))
    else .ok (s.goto (.braced quoted (c :: read)))
  | .comment => .ok s

/-- The tokens, in order, once the word being read is ended. -/
def done (s : Scan) : List Token :=
  s.endWord.tokens.reverse

/-- The tokens at the end of the text, or what is still open there. -/
def finish (s : Scan) : Except TokenFault (List Token) :=
  match s.mode with
  | .plain | .comment => .ok s.done
  | .escapeReturn => .ok (s.put '\r').done
  | .dollar false => .ok (s.put '$').done
  | .name false read => .ok (s.putVariable read.reverse).done
  | .continued | .escape => .error .openEscape
  | .braced _ _ => .error .openSubstitution
  | .single | .double | .doubleEscape | .doubleEscapeReturn | .dollar true | .name true _ =>
    .error .openQuote

/-- Takes characters one after another, up to the first fault. -/
def advance (s : Scan) (cs : List Char) : Except TokenFault Scan :=
  cs.foldlM step s

theorem advance_cons (s : Scan) (c : Char) (cs : List Char) :
    s.advance (c :: cs) = (s.step c).bind (·.advance cs) :=
  List.foldlM_cons ..

theorem advance_singleton (s : Scan) (c : Char) : s.advance [c] = s.step c := by
  rw [advance_cons]
  cases s.step c <;> rfl

/-- A text in two pieces is scanned by going on from the state after the first. -/
theorem advance_append (s : Scan) (cs ds : List Char) :
    s.advance (cs ++ ds) = (s.advance cs).bind (·.advance ds) := by
  simp only [advance, List.foldlM_append]
  rfl

end Scan

def tokensOf (cs : List Char) : Except TokenFault (List Token) :=
  (Scan.start.advance cs).bind Scan.finish

def tokens (text : String) : Except TokenFault (List Token) :=
  tokensOf text.toList

end ScriptShell
