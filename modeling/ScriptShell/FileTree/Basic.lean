/-!
A tree of files, directories and symbolic links, given by what stands at each location. A location
is physical: the names on the way to it, with no link among them.
-/
namespace ScriptShell

/-- The names on the way to a place, innermost first. The empty list is the root directory. -/
abbrev Location := List String

def Location.text (loc : Location) : String :=
  "/" ++ "/".intercalate loc.reverse

inductive Entry where
  | file (bytes : ByteArray)
  | directory
  | link (target : String)

/-- The entries of a file system. Where two stand at one location, the first one counts. -/
structure FileTree where
  entries : List (Location × Entry) := []

namespace FileTree

/-- What stands at a location, if anything does. The root is always a directory. -/
def entry? (t : FileTree) : Location → Option Entry
  | [] => some .directory
  | loc => t.entries.lookup loc

def isDirectory (t : FileTree) (loc : Location) : Bool :=
  match t.entry? loc with
  | some .directory => true
  | _ => false

/-- Puts an entry at a location, in place of what was there. -/
def put (t : FileTree) (loc : Location) (entry : Entry) : FileTree :=
  ⟨(loc, entry) :: t.entries.filter (·.1 != loc)⟩

/-- Takes away what stands at a location, and all below it. -/
def cut (t : FileTree) (loc : Location) : FileTree :=
  ⟨t.entries.filter fun (place, _) => !loc.isSuffixOf place⟩

end FileTree

/-- Why the system refuses a path. -/
inductive FileError where
  | notFound
  /-- Something that is no directory is used as one. -/
  | notDirectory
  | isDirectory
  /-- A name is longer than 255 bytes, or a path is longer than 4095. -/
  | nameTooLong
  | tooManyLinks
  /-- The path holds the character NUL, which no path may. -/
  | nulInPath
deriving DecidableEq, Repr

/-- The wording of a refusal, with the number that the system gives it. -/
def FileError.message : FileError → String
  | .notFound => "No such file or directory (os error 2)"
  | .notDirectory => "Not a directory (os error 20)"
  | .isDirectory => "Is a directory (os error 21)"
  | .nameTooLong => "File name too long (os error 36)"
  | .tooManyLinks => "Too many levels of symbolic links (os error 40)"
  | .nulInPath => "file name contained an unexpected NUL byte"

end ScriptShell
