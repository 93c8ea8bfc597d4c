/-!
# Keyed values

A keyed collection is a list of entries in ascending order of their keys, each key once. Keys are
compared by code points, which is also the order of their UTF-8 bytes. The functions here keep
that order, and `Keyed.Sorted` states it.
-/

namespace Dataflow

/-- Values by key, in ascending order of the keys. -/
abbrev Keyed (α : Type) := List (String × α)

namespace Keyed

variable {α : Type}

/-- Every key stands before the keys after it. -/
def Sorted (m : Keyed α) : Prop := m.Pairwise fun a b => a.1 < b.1

/-- The value of a key. -/
def value? (m : Keyed α) (key : String) : Option α := m.lookup key

/-- Whether a key has a value. -/
def hasKey (m : Keyed α) (key : String) : Bool := (value? m key).isSome

/-- Gives a key a value, in place of the one it had. -/
def put (m : Keyed α) (key : String) (value : α) : Keyed α :=
  match m with
  | [] => [(key, value)]
  | (k, v) :: rest =>
    if key < k then (key, value) :: (k, v) :: rest
    else if key = k then (key, value) :: rest
    else (k, v) :: put rest key value

/-- Takes a key out. -/
def remove (m : Keyed α) (key : String) : Keyed α := m.filter fun entry => entry.1 != key

/-- Puts one entry after the other; of two entries with one key the later counts. -/
def putAll (m : Keyed α) (entries : List (String × α)) : Keyed α :=
  entries.foldl (fun m entry => put m entry.1 entry.2) m

/-- The collection of the given entries. -/
def ofEntries (entries : List (String × α)) : Keyed α := putAll [] entries

/-- The keys, in order. -/
def keys (m : Keyed α) : List String := m.map Prod.fst

end Keyed

end Dataflow
