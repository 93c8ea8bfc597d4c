/-!
# TOML values and tables

A document is a table. A table is written under a header, by dotted keys, between braces, or not
at all, because only a table within it is written. What it was written as decides who may add to
it later: a header may name a table once, dotted keys may not add to a table with a header, and
nothing adds to a table between braces.
-/

namespace Dataflow.Toml

/-- How a table came to be. -/
inductive Origin where
  /-- By a header. -/
  | header
  /-- By the header of a table within it. -/
  | implied
  /-- By dotted keys. -/
  | dotted
deriving DecidableEq, Repr

/-- A TOML value. -/
inductive Value where
  | string (value : String)
  | integer (value : Int)
  | float (value : Float)
  | bool (value : Bool)
  | datetime
  | array (items : List Value)
  /-- A table between braces. -/
  | braced (entries : List (String × Value))
  | table (origin : Origin) (entries : List (String × Value))
  /-- Tables with one name, each under a header of its own. -/
  | tables (items : List (List (String × Value)))
deriving Inhabited

/-- A table that is being written. -/
structure Table where
  origin : Origin
  entries : List (String × Value)

/-- The entries with the value of a key replaced or added at the end. -/
def setEntry (entries : List (String × Value)) (key : String) (v : Value) :
    List (String × Value) :=
  match entries with
  | [] => [(key, v)]
  | (k, w) :: rest => if k == key then (key, v) :: rest else (k, w) :: setEntry rest key v

namespace Table

/-- The document before anything is written. -/
def empty : Table := ⟨.header, []⟩

/-- The table with the value of a key replaced or added. -/
def set (t : Table) (key : String) (v : Value) : Table :=
  { t with entries := setEntry t.entries key v }

/-- Changes the table at a path. Tables that are not there are added as dotted ones or as implied
ones; of tables with one name the last counts. -/
def alter (asDotted : Bool) (f : Table → Option Table) (t : Table) : List String → Option Table
  | [] => f t
  | key :: path =>
    match t.entries.lookup key with
    | none => do
      let child ← alter asDotted f ⟨if asDotted then .dotted else .implied, []⟩ path
      return t.set key (.table child.origin child.entries)
    | some (.table origin entries) =>
      if asDotted && origin == .header then none
      else do
        let child ← alter asDotted f ⟨origin, entries⟩ path
        return t.set key (.table child.origin child.entries)
    | some (.tables items) =>
      match items.getLast? with
      | none => none
      | some entries => do
        let child ← alter asDotted f ⟨.header, entries⟩ path
        return t.set key (.tables (items.dropLast ++ [child.entries]))
    | some _ => none

/-- Writes a new key into a table that was itself written in the same way: by dotted keys if the
key is dotted, and not by dotted keys otherwise. -/
def addEntry (t : Table) (path : List String) (key : String) (v : Value) : Option Table :=
  t.alter true (fun target =>
    if (target.origin == .dotted) == path.isEmpty then none
    else match target.entries.lookup key with
      | some _ => none
      | none => some (target.set key v)) path

/-- Writes the header of a table. -/
def addHeader (t : Table) (path : List String) (key : String) : Option Table :=
  t.alter false (fun parent =>
    match parent.entries.lookup key with
    | none => some (parent.set key (.table .header []))
    | some (.table .implied entries) => some (parent.set key (.table .header entries))
    | some _ => none) path

/-- Writes the header of one more of the tables with one name. -/
def addListed (t : Table) (path : List String) (key : String) : Option Table :=
  t.alter false (fun parent =>
    match parent.entries.lookup key with
    | none => some (parent.set key (.tables [[]]))
    | some (.tables items) => some (parent.set key (.tables (items ++ [[]])))
    | some _ => none) path

end Table

end Dataflow.Toml
