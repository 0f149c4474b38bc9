import ScriptShell.Execution
/-!
What a program that holds a session can do with it: make calls, keep scripts marked as running and
give them back, and change what lies outside of the session's control between its calls.
-/
namespace ScriptShell

inductive Call where
  | statement (line : String) (more : List String)
  | command (name : String) (arguments : List String)
  | script (path : String)
deriving DecidableEq, Repr

/-- The session after it carried out a call, whatever came of it. -/
def Session.serve (files : FileTree) : Call → Session → Session
  | .statement line more, s => (s.execute files line more).2
  | .command name arguments, s => (s.invoke files name arguments).2
  | .script path, s => (s.runScript files path).2

/-- A session in the hands of the program that holds it. -/
structure Host where
  files : FileTree
  session : Session
  /-- The scripts that the program itself has marked as running, latest first. -/
  held : List ScriptReader := []

inductive Action where
  | call (call : Call)
  /-- Marks the script at a path as running, and keeps it. -/
  | hold (path : String)
  /-- Gives back the script that was marked last. -/
  | release
  | ask (path : String)
  /-- Gives the session other variables, another working directory and another mind on ending. -/
  | adjust (vars : Variables) (directory : String) (stopping : Bool)
  | changeFiles (files : FileTree)

namespace Host

def isRunning (h : Host) (path : String) : Bool :=
  h.session.running.isRunning (h.files.key path)

/-- What one action makes of it all. A script that is refused leaves everything as it was. -/
def step (h : Host) : Action → Host
  | .call call => { h with session := h.session.serve h.files call }
  | .hold path =>
    let script := ScriptReader.unread (h.files.key path)
    match h.session.enter script.path with
    | .ok session => { h with session, held := script :: h.held }
    | .error _ => h
  | .release =>
    match h.held with
    | [] => h
    | script :: held => { h with session := h.session.release script, held }
  | .ask _ => h
  | .adjust vars directory stopping =>
    { h with session := { h.session with vars, directory, stopping } }
  | .changeFiles files => { h with files }

def run (h : Host) (actions : List Action) : Host :=
  actions.foldl step h

end Host

end ScriptShell
