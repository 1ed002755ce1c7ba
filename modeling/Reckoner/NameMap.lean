/-!
Contract: finite maps from names.

Owns: look-up and insertion, which keeps one entry for each name, and the laws that describe an
insertion by look-ups.

Does not own: what the names are bound to.
-/

namespace Reckoner

/-- A finite map from names, one entry for each name. -/
structure NameMap (α : Type) where
  entries : List (String × α) := []
deriving DecidableEq

namespace NameMap

variable {α : Type}

def empty : NameMap α := {}

def findIn (name : String) : List (String × α) → Option α
  | [] => none
  | (key, value) :: rest => if key = name then some value else findIn name rest

/-- A list of entries with the value at `name` replaced, or added at the end. -/
def insertIn (name : String) (value : α) : List (String × α) → List (String × α)
  | [] => [(name, value)]
  | (key, old) :: rest =>
      if key = name then (key, value) :: rest else (key, old) :: insertIn name value rest

def find? (map : NameMap α) (name : String) : Option α :=
  findIn name map.entries

def contains (map : NameMap α) (name : String) : Bool :=
  (map.find? name).isSome

def insert (map : NameMap α) (name : String) (value : α) : NameMap α :=
  ⟨insertIn name value map.entries⟩

def size (map : NameMap α) : Nat :=
  map.entries.length

@[simp]
theorem find?_empty (name : String) : (empty : NameMap α).find? name = none := rfl

/-- After an insertion the name has the new value, and every other name keeps its own. -/
theorem find?_insert (map : NameMap α) (inserted : String) (value : α) (name : String) :
    (map.insert inserted value).find? name =
      if inserted = name then some value else map.find? name := by
  simp only [find?, insert]
  induction map.entries with
  | nil => simp [insertIn, findIn]
  | cons entry rest inductionHypothesis =>
      obtain ⟨key, old⟩ := entry
      simp only [insertIn]
      split
      · rename_i sameKey
        subst sameKey
        simp only [findIn]
        split <;> rfl
      · rename_i otherKey
        simp only [findIn]
        split
        · rename_i found
          simp [← found, Ne.symm otherKey]
        · exact inductionHypothesis

@[simp]
theorem find?_insert_self (map : NameMap α) (name : String) (value : α) :
    (map.insert name value).find? name = some value := by
  simp [find?_insert]

theorem find?_insert_of_ne
    (map : NameMap α)
    {inserted name : String}
    (value : α)
    (different : inserted ≠ name) :
    (map.insert inserted value).find? name = map.find? name := by
  simp [find?_insert, different]

theorem contains_insert (map : NameMap α) (inserted : String) (value : α) (name : String) :
    (map.insert inserted value).contains name ↔ map.contains name ∨ inserted = name := by
  rw [contains, find?_insert]
  split
  · rename_i same
    simp [same]
  · rename_i different
    simp [different, contains]

end NameMap

end Reckoner
