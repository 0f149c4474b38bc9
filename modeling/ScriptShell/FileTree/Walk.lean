import ScriptShell.FileTree.Basic
import ScriptShell.Path.Basic
/-!
From a path to the place that it names. The walk goes step by step from the root, through
directories only, and goes on along the target of every link it meets.
-/
namespace ScriptShell.FileTree

def maxLinks : Nat := 40

/-- The greatest length of a name, in bytes. -/
def maxName : Nat := 255

/-- The greatest length of a path that the system is asked about, in bytes. -/
def maxPath : Nat := 4095

/-- Why no entry can have a name: it is too long, or it holds the character NUL. -/
def nameFault? (name : String) : Option FileError :=
  if name.toList.contains '\x00' then some .nulInPath
  else if maxName < name.utf8ByteSize then some .nameTooLong
  else none

/-- How a path is put to the system. -/
inductive Approach where
  /-- The whole path at once, which must not be too long as it is written. -/
  | direct
  /-- Name after name. Each place on the way is asked about by its own path, which must not be too
  long, while the path to begin with may have any length. -/
  | stepwise
deriving DecidableEq, Repr

/-- Whether a path is too long as it is written. -/
def Approach.refusesPath (way : Approach) (path : String) : Bool :=
  way == .direct && maxPath < path.utf8ByteSize

/-- Whether a place cannot be asked about, since the path that leads straight to it is too long. -/
def Approach.refusesPlace (way : Approach) (loc : Location) : Bool :=
  way == .stepwise && maxPath < loc.text.utf8ByteSize

/-- Walks the steps from a location. `follow` goes on where a link is met: it is given the
directory that holds the link, the link's target and the steps that remain after it. -/
def walkWith (t : FileTree) (way : Approach)
    (follow : Location → String → List String → Except FileError Location) :
    Location → List String → Except FileError Location
  | dir, [] => .ok dir
  | dir, step :: rest =>
    if step = "." then
      if t.isDirectory dir then walkWith t way follow dir rest else .error .notDirectory
    else if step = ".." then
      if t.isDirectory dir then walkWith t way follow dir.tail rest else .error .notDirectory
    else if way.refusesPlace (step :: dir) then .error .nameTooLong
    else if !t.isDirectory dir then .error .notDirectory
    else match nameFault? step with
      | some error => .error error
      | none =>
        match t.entry? (step :: dir) with
        | none => .error .notFound
        | some (.link target) => follow dir target rest
        | some _ => walkWith t way follow (step :: dir) rest

def linkStart (dir : Location) (target : String) : Location :=
  if Path.isRooted target then [] else dir

/-- Walks the steps from a location, following at most so many links. -/
def walk (t : FileTree) (way : Approach) :
    (links : Nat) → Location → List String → Except FileError Location
  | 0 => t.walkWith way fun _ _ _ => .error .tooManyLinks
  | links + 1 => t.walkWith way fun dir target rest =>
    walk t way links (linkStart dir target) (Path.steps target ++ rest)

/-- The place that a path names. A relative path starts at the root. -/
def locate (t : FileTree) (way : Approach) (path : String) : Except FileError Location :=
  if path.toList.contains '\x00' then .error .nulInPath
  else if path.isEmpty then .error .notFound
  else if way.refusesPath path then .error .nameTooLong
  else t.walk way maxLinks [] (Path.steps path)

/-- The place that a path names, found name after name. -/
def place (t : FileTree) (path : String) : Except FileError Location :=
  t.locate .stepwise path

/-- The path of the place that a path names, free of links, dots and repeated slashes. -/
def canonical (t : FileTree) (path : String) : Except FileError String :=
  (t.place path).map Location.text

def read (t : FileTree) (path : String) : Except FileError ByteArray := do
  match t.entry? (← t.locate .direct path) with
  | some (.file bytes) => .ok bytes
  | some .directory => .error .isDirectory
  | _ => .error .notFound

/-- The spelling by which a script is known while it runs: its canonical path, or where there is
none the absolute spelling of its path, so that opening it can fail later on. -/
def key (t : FileTree) (path : String) : String :=
  match t.canonical path with
  | .ok text => text
  | .error _ => (Path.absolute? path).getD path

end ScriptShell.FileTree
