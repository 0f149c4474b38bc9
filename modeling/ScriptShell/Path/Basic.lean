/-!
Paths as texts. Nothing here looks at files: these are the rules by which a path is taken apart
and put together from its text alone.
-/
namespace ScriptShell.Path

/-- The pieces between the slashes of a text, empty ones included. -/
def splitSlash : List Char → List (List Char)
  | [] => [[]]
  | c :: rest =>
    if c = '/' then [] :: splitSlash rest
    else match splitSlash rest with
      | [] => [[c]]
      | piece :: more => (c :: piece) :: more

/-- The pieces between the slashes of a path, empty ones included. -/
def pieces (path : String) : List String :=
  (splitSlash path.toList).map String.ofList

def isRooted (path : String) : Bool :=
  path.toList.head? == some '/'

def endsInSlash (path : String) : Bool :=
  path.toList.getLast? == some '/'

/-- The names that a path goes through. A repeated slash and a single dot name nothing. -/
def names (path : String) : List String :=
  (pieces path).filter fun name => name != "" && name != "."

/-- The steps that a path asks for, one after another. Here a single dot counts: it stays where it
is, which only a directory allows. A slash at the end asks for the same. -/
def steps (path : String) : List String :=
  (pieces path).filter (· != "") ++ if endsInSlash path then ["."] else []

/-- `path` seen from `base`. A path that starts at the root stands on its own. -/
def join (base path : String) : String :=
  if isRooted path || base.isEmpty then path
  else if endsInSlash base then base ++ path
  else base ++ "/" ++ path

/-- The slash that an absolute path starts with. Exactly two slashes are kept, since their meaning
is left to the system. -/
def rootOf (path : String) : String :=
  match path.toList with
  | '/' :: '/' :: '/' :: _ => "/"
  | '/' :: '/' :: _ => "//"
  | _ => "/"

/-- The absolute spelling of a path, found without looking at any file: single dots and repeated
slashes vanish, double dots and one slash at the end stay. A relative path starts at the root. The
empty path has no such spelling. -/
def absolute? (path : String) : Option String :=
  if path.isEmpty then none
  else
    let tail := if endsInSlash path && !(names path).isEmpty then "/" else ""
    some (rootOf path ++ "/".intercalate (names path) ++ tail)

/-- The last name of a path, unless it leads upwards. -/
def fileName? (path : String) : Option String :=
  match (names path).getLast? with
  | some ".." => none
  | name => name

/-- Whether two paths go through the same names from the same start. Slashes more or less make no
difference. -/
def same (p q : String) : Bool :=
  isRooted p == isRooted q && names p == names q

theorem same_refl (p : String) : same p p = true := by
  simp [same]

end ScriptShell.Path
