import ScriptShell.Script.Running
/-!
The journal of a session: all that it did, in order. What was written to the two outputs is read
off it.
-/
namespace ScriptShell

/-- A line for the error output. -/
inductive Diagnostic where
  | message (text : String)
  | failedScript (failure : ScriptFailure)
deriving DecidableEq, Repr

def Diagnostic.text : Diagnostic → String
  | .message text => text
  | .failedScript failure => "include: " ++ failure.message

/-- Something that a session did. -/
inductive Event where
  | wrote (text : String)
  /-- Wrote a line to the error output. -/
  | reported (diagnostic : Diagnostic)
  | assigned (name value : String)
  | called (name : String) (arguments : List String)
  /-- Looked for the place of a path. -/
  | sought (path : String)
  | entered (key : String)
  /-- Ended the script `key`. What was taken off the running scripts for it is `popped`. -/
  | left (key : String) (popped : Option String)
  | stopped
deriving DecidableEq, Repr

namespace Event

def out : Event → String
  | .wrote text => text
  | _ => ""

def err : Event → String
  | .reported diagnostic => diagnostic.text ++ "\n"
  | _ => ""

end Event

structure Journal where
  /-- The events, latest first. -/
  latest : List Event := []
deriving DecidableEq, Repr

namespace Journal

def toList (j : Journal) : List Event :=
  j.latest.reverse

def record (j : Journal) (event : Event) : Journal :=
  ⟨event :: j.latest⟩

@[simp]
theorem toList_record (j : Journal) (event : Event) :
    (j.record event).toList = j.toList ++ [event] := by
  simp [toList, record]

/-- What was written to the output. -/
def out (j : Journal) : String :=
  String.join (j.toList.map Event.out)

/-- What was written to the error output. -/
def err (j : Journal) : String :=
  String.join (j.toList.map Event.err)

/-- The paths that were looked for. -/
def sought (j : Journal) : List String :=
  j.toList.filterMap fun
    | .sought path => some path
    | _ => none

end Journal

end ScriptShell
