import Dataflow.Decode.Readable

/-!
# Reading records

A record is read from named members or from a list of items, one per field in the order of the
fields. Members whose names are no field are passed over. The members are looked at in their own
order, so that the first bad or repeated one is reported; missing fields are reported after that,
in the order of the fields.
-/

namespace Dataflow

/-- A field of a record: its names, the first of which is the proper one, how its value is read,
and what it is when it is missing, unless it is required. -/
structure Field (V α : Type) where
  name : String
  aliases : List String
  read : V → Decoded α
  default? : Option α

namespace Field

variable {V α : Type}

/-- A field that must be there. -/
def required (name : String) (read : V → Decoded α) : Field V α := ⟨name, [], read, none⟩

/-- A field with a default. -/
def withDefault (name : String) (read : V → Decoded α) (default : α) : Field V α :=
  ⟨name, [], read, some default⟩

/-- The field with one more name. -/
def orNamed (f : Field V α) (other : String) : Field V α :=
  { f with aliases := other :: f.aliases }

end Field

/-- What is needed to check a member before the record is put together. -/
structure FieldCheck (V : Type) where
  name : String
  aliases : List String
  check : V → Decoded Unit

/-- The check of a field. -/
def Field.toCheck {V α : Type} (f : Field V α) : FieldCheck V :=
  ⟨f.name, f.aliases, fun v => (f.read v).map fun _ => ()⟩

/-- Whether the field goes by this name. -/
def FieldCheck.answersTo {V : Type} (f : FieldCheck V) (key : String) : Bool :=
  f.name == key || f.aliases.contains key

namespace Record

variable {V α : Type} [Readable V]

/-- Checks members in their order; `seen` holds the proper names of the fields given so far, and
`stop` is why there are no more members. -/
def checkMembers (fields : List (FieldCheck V)) (stop : Option Mismatch) (seen : List String) :
    List (String × V) → Decoded Unit
  | [] => match stop with
    | none => .ok ()
    | some m => .error m
  | (key, v) :: rest =>
    match fields.find? (·.answersTo key) with
    | none => do
      Readable.skip v
      checkMembers fields stop seen rest
    | some f =>
      if seen.contains f.name then .error (.duplicateField f.name)
      else do
        f.check v
        checkMembers fields stop (f.name :: seen) rest

/-- How a record of `n` elements is named in a mismatch. -/
def sizeText (name : String) (n : Nat) : String :=
  "struct " ++ name ++ " with " ++ toString n ++ (if n == 1 then " element" else " elements")

/-- A record being read: its name, its fields and the members offered. -/
structure Source (V : Type) where
  name : String
  fields : List (FieldCheck V)
  members : Members V

/-- The value of a field, or its default. -/
def Source.get (s : Source V) (f : Field V α) : Decoded α :=
  match s.members with
  | .named entries _ =>
    match entries.find? fun entry => f.toCheck.answersTo entry.1 with
    | some (_, v) => f.read v
    | none => match f.default? with
      | some d => .ok d
      | none => .error (.missingField f.name)
  | .listed items =>
    let position := s.fields.findIdx fun g => g.name == f.name
    match items[position]? with
    | some v => f.read v
    | none => match f.default? with
      | some d => .ok d
      | none => .error (.invalidLength position (sizeText s.name s.fields.length))

/-- Puts a record together from the members; a list may not be longer than the fields. -/
def decode (name : String) (fields : List (FieldCheck V)) (members : Members V)
    (build : Source V → Decoded α) : Decoded α := do
  match members with
  | .named entries stop =>
    checkMembers fields stop [] entries
    build ⟨name, fields, members⟩
  | .listed items =>
    let record ← build ⟨name, fields, members⟩
    if items.length > fields.length then
      .error (.invalidLength items.length "fewer elements in array")
    else .ok record

/-- Reads a record off a value. -/
def read (name : String) (fields : List (FieldCheck V)) (build : Source V → Decoded α) (v : V) :
    Decoded α := do
  decode name fields (← Readable.members name (fields.map FieldCheck.name) v) build

end Record

end Dataflow
