/-!
Variables of a session: a finite map from names to values, in the order in which the names were
first given a value.
-/
namespace ScriptShell

/-- The bindings with a name given a value. -/
def bindName (name value : String) : List (String × String) → List (String × String)
  | [] => [(name, value)]
  | (other, old) :: rest =>
    if other = name then (name, value) :: rest else (other, old) :: bindName name value rest

/-- Giving a value adds no name but the given one. -/
theorem mem_keys_bindName {name value other : String} {bindings : List (String × String)} :
    other ∈ (bindName name value bindings).map Prod.fst ↔
      other = name ∨ other ∈ bindings.map Prod.fst := by
  induction bindings with
  | nil => simp [bindName]
  | cons b rest ih =>
    obtain ⟨n, v⟩ := b
    by_cases h : n = name
    · simp [bindName, h]
    · simp only [bindName, h, if_false, List.map_cons, List.mem_cons, ih]
      exact or_left_comm

theorem nodup_keys_bindName {name value : String} {bindings : List (String × String)}
    (h : (bindings.map Prod.fst).Nodup) : ((bindName name value bindings).map Prod.fst).Nodup := by
  induction bindings with
  | nil => simp [bindName]
  | cons b rest ih =>
    obtain ⟨n, v⟩ := b
    simp only [List.map_cons, List.nodup_cons] at h
    by_cases hn : n = name
    · subst hn
      simpa [bindName] using h
    · rw [bindName, if_neg hn, List.map_cons, List.nodup_cons, mem_keys_bindName, not_or]
      exact ⟨⟨hn, h.1⟩, ih h.2⟩

/-- A finite map from names to values. -/
structure Variables where
  bindings : List (String × String) := []
  distinct : (bindings.map Prod.fst).Nodup := by simp

namespace Variables

def empty : Variables := {}

/-- The value of a variable; none if it is unset. -/
def get? (vs : Variables) (name : String) : Option String :=
  vs.bindings.lookup name

def set (vs : Variables) (name value : String) : Variables :=
  ⟨bindName name value vs.bindings, nodup_keys_bindName vs.distinct⟩

def size (vs : Variables) : Nat :=
  vs.bindings.length

/-- The variables with these values; of several values for one name the last one counts. -/
def ofList (bindings : List (String × String)) : Variables :=
  bindings.foldl (fun vs (name, value) => vs.set name value) empty

/-- A variable has the value that it was given, and all others keep theirs. -/
theorem get?_set (vs : Variables) (name value other : String) :
    (vs.set name value).get? other = if other = name then some value else vs.get? other := by
  simp only [get?, set]
  induction vs.bindings with
  | nil =>
    by_cases h : other = name
    · simp [bindName, h]
    · have h' : (other == name) = false := by simpa using h
      simp [bindName, List.lookup_cons, h, h']
  | cons b rest ih =>
    obtain ⟨n, v⟩ := b
    by_cases hn : n = name
    · subst hn
      by_cases h : other = n
      · simp [bindName, h]
      · have h' : (other == n) = false := by simpa using h
        simp [bindName, List.lookup_cons, h, h']
    · by_cases h : other = n
      · subst h
        simp [bindName, hn]
      · have h' : (other == n) = false := by simpa using h
        simp only [bindName, hn, if_false, List.lookup_cons, h', ih]

end Variables

end ScriptShell
