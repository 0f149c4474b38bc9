import ScriptShell.FileTree.Walk
/-!
Changes to a tree by path, as a system makes them: parent directories are made as needed, links on
the way are followed, and a file written through a link lands where the link leads.
-/
namespace ScriptShell.FileTree

/-- Goes down from a directory along some steps, making the directories that are missing. -/
def descend (t : FileTree) (dir : Location) : List String → FileTree × Location
  | [] => (t, dir)
  | step :: rest =>
    match t.walk .direct maxLinks dir [step] with
    | .ok next => descend t next rest
    | .error _ => descend (t.put (step :: dir) .directory) (step :: dir) rest

/-- Where a file written under a name in a directory lands: through links, also through one whose
target does not exist yet. -/
def landing (t : FileTree) : (links : Nat) → Location → String → Location
  | 0, dir, name => name :: dir
  | links + 1, dir, name =>
    match t.entry? (name :: dir) with
    | some (.link target) =>
      let steps := Path.steps target
      match t.walk .direct maxLinks (linkStart dir target) steps.dropLast,
        steps.getLast? with
      | .ok next, some last => landing t links next last
      | _, _ => name :: dir
    | _ => name :: dir

/-- Does something with the directory and the last name of a path, once its directories are
made. -/
def changeAt (t : FileTree) (path : String)
    (change : FileTree → Location → String → FileTree) : FileTree :=
  let names := Path.names path
  match names.getLast? with
  | none => t
  | some last =>
    let (t, dir) := t.descend [] names.dropLast
    change t dir last

def makeDirectory (t : FileTree) (path : String) : FileTree :=
  (t.descend [] (Path.names path)).1

def writeFile (t : FileTree) (path : String) (bytes : ByteArray) : FileTree :=
  t.changeAt path fun t dir name => t.put (t.landing maxLinks dir name) (.file bytes)

def makeLink (t : FileTree) (path target : String) : FileTree :=
  t.changeAt path fun t dir name => t.put (name :: dir) (.link target)

/-- Removes a file, a link or a whole directory. -/
def remove (t : FileTree) (path : String) : FileTree :=
  t.changeAt path fun t dir name => t.cut (name :: dir)

end ScriptShell.FileTree
