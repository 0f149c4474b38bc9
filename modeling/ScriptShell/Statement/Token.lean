/-!
Tokens: what a statement is made of before its commands are told apart. A word keeps its
substitutions unexpanded; quotes and escapes have already been taken away.
-/
namespace ScriptShell

/-- A piece of a word. -/
inductive Part where
  | literal (text : String)
  | substitution (name : String)
deriving DecidableEq, Repr

/-- A word, piece by piece. The empty word is the one written as an empty pair of quotes. -/
abbrev Word := List Part

inductive Token where
  | word (parts : Word)
  | separator
deriving DecidableEq, Repr

/-- The characters that a variable name starts with: ASCII letters and the underscore. -/
def isNameStart (c : Char) : Bool :=
  c.isAlpha || c == '_'

/-- The characters of a variable name after its first: ASCII letters, digits and the underscore. -/
def isNameChar (c : Char) : Bool :=
  c.isAlphanum || c == '_'

def isName : List Char → Bool
  | [] => false
  | c :: rest => isNameStart c && rest.all isNameChar

/-- Why a text has no tokens. -/
inductive TokenFault where
  | openQuote
  /-- A backslash, or a line continuation, stands at the end. -/
  | openEscape
  /-- A brace of a substitution is still open at the end. -/
  | openSubstitution
  /-- The braces of a substitution hold something that is no variable name. -/
  | badName (name : String)
deriving DecidableEq, Repr

namespace TokenFault

def message : TokenFault → String
  | openQuote => "unterminated quote"
  | openEscape => "nothing to escape after the final backslash"
  | openSubstitution => "unterminated parameter substitution"
  | badName name => "bad substitution: $\x7b" ++ name ++ "\x7d"

/-- Whether a further line can still complete the statement. An open substitution is not among
these: the newline that joins the lines would become part of the name. -/
def isIncomplete : TokenFault → Bool
  | openQuote | openEscape => true
  | openSubstitution | badName _ => false

end TokenFault

end ScriptShell
