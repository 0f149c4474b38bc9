import ScriptShell.Text.ClusterClass
/-!
Clusters: what a reader takes for one character, such as a letter with its accents, a syllable, a
flag or a joined group of pictographs. The rules are those of Unicode for extended grapheme
clusters. Whether two neighbours belong together depends on what stands before them; as much of
that as matters is kept while a text is read. A backspace takes away the cluster before it, as it
would on a screen where each cluster is one character; with nothing before it, it does nothing.
-/
namespace ScriptShell.Text

namespace ClusterClass

/-- The classes that always go on after a class: the newline after a carriage return, and the
further letters of a Hangul syllable. -/
def goesOn : ClusterClass → List ClusterClass
  | .carriageReturn => [.newline]
  | .leading => [.leading, .vowel, .openSyllable, .closedSyllable]
  | .vowel | .openSyllable => [.vowel, .trailing]
  | .trailing | .closedSyllable => [.trailing]
  | _ => []

/-- The classes that combine with no other. -/
def standsAlone (cls : ClusterClass) : Bool :=
  [carriageReturn, newline, control].contains cls

/-- The classes that belong to the character before them. -/
def trails (cls : ClusterClass) : Bool :=
  [extend, linker, nonJoiner, joiner, spacing].contains cls

end ClusterClass

/-- How far a group of two pictographs is complete at the end of a text. -/
inductive PictographGroup where
  | none
  /-- A pictograph, perhaps with marks. -/
  | begun
  /-- A pictograph, perhaps with marks, and a joiner: another pictograph joins it. -/
  | joined
deriving DecidableEq, Repr

/-- How far a group of two Indic consonants is complete at the end of a text. -/
inductive ConsonantGroup where
  | none
  /-- A consonant, perhaps with marks. -/
  | begun
  /-- A consonant with a linker among its marks: another consonant joins it. -/
  | linked
deriving DecidableEq, Repr

/-- What matters of a text for the question whether the next character belongs to its last
cluster. -/
structure ClusterContext where
  last : ClusterClass := .control
  pictographs : PictographGroup := .none
  consonants : ConsonantGroup := .none
  /-- Whether the text ends in the first half of a flag. -/
  halfFlag : Bool := false
deriving DecidableEq, Repr

namespace ClusterContext

/-- The context after one more character. -/
def after (s : ClusterContext) (cls : ClusterClass) : ClusterContext where
  last := cls
  pictographs :=
    match cls, s.pictographs with
    | .pictograph, _ => .begun
    | .extend, .begun | .linker, .begun | .nonJoiner, .begun => .begun
    | .joiner, .begun => .joined
    | _, _ => .none
  consonants :=
    match cls, s.consonants with
    | .consonant, _ => .begun
    | _, .none => .none
    | .linker, _ => .linked
    | .extend, group | .joiner, group => group
    | _, _ => .none
  halfFlag := cls == .regional && !s.halfFlag

/-- Whether a character of this class belongs to the last cluster. -/
def joins (s : ClusterContext) (cls : ClusterClass) : Bool :=
  if s.last.goesOn.contains cls then true
  else if s.last.standsAlone || cls.standsAlone then false
  else if cls.trails || s.last == .prepend then true
  else match cls with
    | .consonant => s.consonants == .linked
    | .pictograph => s.pictographs == .joined
    | .regional => s.halfFlag
    | _ => false

end ClusterContext

/-- The clusters of a text of which `s` is the context. -/
def clustersFrom (s : ClusterContext) : List Char → List (List Char)
  | [] => []
  | c :: rest =>
    let s := s.after (clusterClass c)
    match rest.head?, clustersFrom s rest with
    | some next, cluster :: more =>
      if s.joins (clusterClass next) then (c :: cluster) :: more else [c] :: cluster :: more
    | _, _ => [[c]]

def clusters (cs : List Char) : List (List Char) :=
  clustersFrom {} cs

theorem clustersFrom_eq_nil_iff {s : ClusterContext} {cs : List Char} :
    clustersFrom s cs = [] ↔ cs = [] := by
  cases cs with
  | nil => simp [clustersFrom]
  | cons c rest =>
    rw [clustersFrom]
    split
    · split <;> simp
    · simp

/-- Nothing is lost: the clusters make up the text again. -/
theorem flatten_clustersFrom (s : ClusterContext) (cs : List Char) :
    (clustersFrom s cs).flatten = cs := by
  induction cs generalizing s with
  | nil => rfl
  | cons c rest ih =>
    rw [clustersFrom]
    split
    · rename_i next cluster more _ h
      have := ih (s.after (clusterClass c))
      rw [h] at this
      split <;> simp [← this]
    · rename_i h
      cases rest with
      | nil => rfl
      | cons d more =>
        cases hc : clustersFrom (s.after (clusterClass c)) (d :: more) with
        | nil => simp [clustersFrom_eq_nil_iff] at hc
        | cons cluster others => exact absurd hc (h d cluster others rfl)

theorem flatten_clusters (cs : List Char) : (clusters cs).flatten = cs :=
  flatten_clustersFrom {} cs

/-- The character that takes away what stands before it. -/
def backspace : Char := '\x08'

/-- A line as far as it has been typed. -/
structure TypedLine where
  latest : List Char := []
  /-- How many bytes each of its clusters takes with it, last first. -/
  sizes : List Nat := []
deriving DecidableEq, Repr

namespace TypedLine

/-- How many bytes a cluster takes with it when it is taken away. The number is kept in a byte, so
of a cluster that has more than 255 of them only the remainder goes. -/
def sizeOf (cluster : List Char) : Nat :=
  (String.ofList cluster).utf8ByteSize % 256

/-- Drops characters from a list until so many bytes are gone. -/
def dropBytes : Nat → List Char → List Char
  | _, [] => []
  | 0, cs => cs
  | bytes + 1, c :: rest => dropBytes (bytes + 1 - c.utf8Size) rest

def erase (line : TypedLine) : TypedLine :=
  match line.sizes with
  | [] => line
  | size :: sizes => ⟨dropBytes size line.latest, sizes⟩

def add (line : TypedLine) (cluster : List Char) : TypedLine :=
  ⟨cluster.reverse ++ line.latest, sizeOf cluster :: line.sizes⟩

/-- Takes a cluster as it is typed. -/
def type (line : TypedLine) (cluster : List Char) : TypedLine :=
  if cluster = [backspace] then line.erase else line.add cluster

end TypedLine

/-- A text with its backspaces carried out. One without backspaces stays as it is. -/
def applyBackspaces (text : String) : String :=
  if text.toList.contains backspace then
    String.ofList ((clusters text.toList).foldl TypedLine.type {}).latest.reverse
  else text

end ScriptShell.Text
