import ScriptShell.Execution
import ScriptShell.Text.Cluster
/-!
The prompt: statements are read from the lines of an input and carried out one after another, until
the session is told to end or the input ends. A statement that fails is reported and does not end
the session.
-/
namespace ScriptShell

/-- A line of the input without its terminator and with its backspaces carried out; none if its
bytes are no text. -/
abbrev InputLine := Option String

namespace InputLine

/-- A line without the newline that ends it, and without a carriage return before that. -/
def strip (text : String) : String :=
  match text.toList.reverse with
  | '\n' :: '\r' :: rest => String.ofList rest.reverse
  | '\n' :: rest => String.ofList rest.reverse
  | _ => text

def ofText (text : String) : InputLine :=
  some (Text.applyBackspaces (strip text))

def ofBytes (bytes : ByteArray) : List InputLine :=
  (Text.splitAfter (· == 0x0A) bytes.toList).map fun piece =>
    (String.fromUTF8? ⟨piece.toArray⟩).bind ofText

/-- The lines at the head of an input, up to one that is no text. -/
def readable (lines : List InputLine) : List String :=
  (lines.takeWhile Option.isSome).filterMap id

end InputLine

/-- How reading statements from an input came to its end. -/
inductive InputEnd where
  | exhausted
  | stopped
  /-- A statement was to begin with a line that is no text. -/
  | unreadable
deriving DecidableEq, Repr

/-- What is shown before a further line of a statement is read. -/
def continuationPrompt : String := "> "

/-- How many further lines were asked for while a statement was read. The one that was missing
where a statement ended too early was asked for as well. -/
def Reading.asked (reading : Reading (List Command)) : Nat :=
  match reading.result with
  | .error (.endOfInput _) => reading.taken + 1
  | _ => reading.taken

namespace Session

/-- Shows a prompt, on a terminal that cannot be edited on. -/
def showPrompt (s : Session) (shown : Bool) (prompt : String) : Session :=
  if shown then s.write prompt else s

/-- Carries out a statement typed at the prompt. Its failure is reported, unless it is that of an
include, which has been. -/
def runTyped (files : FileTree) (result : Except Fault (List Command)) (s : Session) : Session :=
  match s.runStatement files (runIn files s.running.room) result with
  | (.error (.fault fault), s) => s.report fault.message
  | (_, s) => s

/-- Reads statements from an input and carries them out. The first `skip` lines were asked for by
the statement before. -/
def runInput (files : FileTree) (shown : Bool) :
    (skip : Nat) → List InputLine → Session → InputEnd × Session
  | _, [], s => (.exhausted, s.showPrompt shown s.settings.prompt)
  | skip + 1, _ :: more, s => runInput files shown skip more s
  | 0, none :: _, s => (.unreadable, s.showPrompt shown s.settings.prompt)
  | 0, some line :: more, s =>
    let s := s.showPrompt shown s.settings.prompt
    let reading := readStatement line (InputLine.readable more)
    let s := (List.replicate reading.asked continuationPrompt).foldl (showPrompt · shown) s
    let s := s.runTyped files reading.result
    if s.stopping then (.stopped, s) else runInput files shown reading.asked more s

def runPrompt (files : FileTree) (shown : Bool) (lines : List InputLine) (s : Session) :
    InputEnd × Session :=
  if s.stopping then (.stopped, s) else s.runInput files shown 0 lines

end Session

end ScriptShell
