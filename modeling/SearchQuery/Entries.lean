/-! # Ordered entries

  A list of key-value pairs as a dictionary that remembers the order in which keys
  were first set. `Entries.set` replaces a value in place, so a list built by it
  has no key twice.

  `Fields` are entries that may be absent: the key is there and has its position,
  but no value. An absent entry counts for the order and for nothing else.
-/

namespace SearchQuery

/-- Pairs of a key and a value, in order. -/
abbrev Entries (α : Type) := List (String × α)

namespace Entries

variable {α : Type}

/-- Sets the value of a key: in place when the key is there, else at the end. -/
def set (entries : Entries α) (key : String) (value : α) : Entries α :=
  match entries with
  | [] => [(key, value)]
  | (k, v) :: rest => if k = key then (k, value) :: rest else (k, v) :: set rest key value

/-- Sets the pairs of a list one after the other, from nothing. -/
def ofPairs (pairs : List (String × α)) : Entries α :=
  pairs.foldl (fun entries (key, value) => set entries key value) []

/-- The keys, in order. -/
def keys (entries : Entries α) : List String :=
  entries.map Prod.fst

theorem lookup_map {β : Type} (f : α → β) (entries : Entries α) (key : String) :
    (entries.map fun (k, value) => (k, f value)).lookup key = (entries.lookup key).map f := by
  induction entries with
  | nil => rfl
  | cons entry entries ih =>
    obtain ⟨k, value⟩ := entry
    by_cases h : key = k
    · simp [h]
    · have hne : (key == k) = false := by simpa using h
      simpa [List.lookup_cons, hne] using ih

end Entries

/-- Entries whose values may be absent. -/
abbrev Fields (α : Type) := Entries (Option α)

namespace Fields

variable {α : Type}

/-- The entries that are present, in order. -/
def present (fields : Fields α) : Entries α :=
  fields.filterMap fun (key, value?) => value?.map (key, ·)

/-- The value of a key, if it is present. -/
def get? (fields : Fields α) (key : String) : Option α :=
  fields.present.lookup key

/-- Sets a value that is present. -/
def insert (fields : Fields α) (key : String) (value : α) : Fields α :=
  Entries.set fields key (some value)

/-- Sets a value that may be absent. -/
def insertOptional (fields : Fields α) (key : String) (value? : Option α) : Fields α :=
  Entries.set fields key value?

/-- Fields that are all present, from a list in which a later pair replaces the
    value of an earlier one with the same key. -/
def ofPairs (pairs : List (String × α)) : Fields α :=
  Entries.ofPairs (pairs.map fun (key, value) => (key, some value))

end Fields

end SearchQuery
