import ScriptShell.Program
/-!
The command line. A session runs on a tree of files that is filled from the disk as it is asked
for: whenever a run looks for a path that has not been looked up yet, what the path leads to is put
into the tree and the run is made again. What the last run wrote is then written out.
-/
namespace ScriptShell.Disk

/-- A tree filled from the disk, with the paths that have been looked up. -/
structure Snapshot where
  files : FileTree := {}
  looked : List String := []

/-- The number by which the system says that too many links lead to a path. -/
def tooManyLinksCode : UInt32 := 0 - 40

def isLoop (path : String) : IO Bool := do
  try
    let _ ← IO.FS.readBinFile path
    return false
  catch
    | .invalidArgument _ code _ => return code = tooManyLinksCode
    | _ => return false

/-- What stands at a canonical path: a file, or what cannot be read like one. -/
def entryAt (path : String) : IO Entry := do
  try
    return .file (← IO.FS.readBinFile path)
  catch _ => return .directory

/-- Puts what a canonical path leads through into the tree. -/
def fillCanonical (files : FileTree) (dir : Location) : List String → IO FileTree
  | [] => return files
  | name :: rest => do
    let loc : Location := name :: dir
    let files ← match files.entry? loc with
      | some _ => pure files
      | none => do
        let entry ← entryAt loc.text
        pure (files.put loc entry)
    fillCanonical files loc rest

/-- Puts what some steps from a directory lead through into the tree. -/
def fillSteps (files : FileTree) (dir : Location) : List String → IO FileTree
  | [] => return files
  | "." :: rest => fillSteps files dir rest
  | ".." :: rest => fillSteps files dir.tail rest
  | name :: rest => do
    let loc : Location := name :: dir
    try
      let real := (← IO.FS.realPath loc.text).toString
      let place := (Path.names real).reverse
      let files ← fillCanonical files [] place.reverse
      fillSteps (if place = loc then files else files.put loc (.link real)) place rest
    catch _ => return if ← isLoop loc.text then files.put loc (.link name) else files

/-- Looks up a path, if that was not done before. -/
def Snapshot.look (snapshot : Snapshot) (path : String) : IO Snapshot := do
  if snapshot.looked.contains path || path.toList.contains '\x00' then return snapshot
  let files ← fillSteps snapshot.files [] (Path.steps path)
  return { files, looked := path :: snapshot.looked }

/-- Looks up what a run looks for, and what it looks for then, until there is nothing new. -/
def settle (sought : FileTree → List String) : (rounds : Nat) → Snapshot → IO Snapshot
  | 0, snapshot => return snapshot
  | rounds + 1, snapshot => do
    let next ← (sought snapshot.files).foldlM Snapshot.look snapshot
    if next.looked.length = snapshot.looked.length then return snapshot
    settle sought rounds next

def environment : IO Variables := do
  let bytes ← IO.FS.readBinFile "/proc/self/environ"
  let text := (String.fromUTF8? bytes).getD ""
  return Program.environment (text.splitOn "\x00")

/-- The most times that a run is made again. -/
def maxRounds : Nat := 1000000

def run (arguments : List String) : IO Completion := do
  let directory := (← IO.currentDir).toString
  let snapshot ← ({} : Snapshot).look directory
  let invocation : Invocation := { arguments, environment := ← environment, directory }
  let input ←
    if Program.readsInput snapshot.files invocation then (← IO.getStdin).readBinToEnd
    else pure .empty
  let settled ← settle (Program.sought · invocation input) maxRounds snapshot
  return Program.run settled.files invocation input

end ScriptShell.Disk

/-- Runs the program, writes what it leaves behind and returns its code. -/
def main (arguments : List String) : IO UInt32 := do
  let completion ← ScriptShell.Disk.run arguments
  IO.print completion.out
  IO.eprint completion.err
  return completion.code.toUInt32
