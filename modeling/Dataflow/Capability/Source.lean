import Dataflow.Capability.Basic
import Dataflow.Yaml.Content

/-!
# Directories of capabilities as texts

A directory is written as a YAML document: a list of capabilities, or a map from their names.
-/

namespace Dataflow.Directory

/-- The error for a text that is no directory. -/
def textError (m : Mismatch) : Error := .config ("Invalid capability registry: " ++ m.message)

/-- The capabilities in one of the forms of a directory, listed or named. -/
def readForms (c : Yaml.Content) :
    Decoded (List Capability ⊕ List (String × Capability)) :=
  match c.readList Capability.read with
  | .ok listed => .ok (.inl listed)
  | .error _ =>
    match c.readNamed Capability.read with
    | .ok entries => .ok (.inr entries)
    | .error _ =>
      .error (.custom "data did not match any variant of untagged enum RegistryFile")

/-- Reads a document as one of the forms; the text must hold nothing else. -/
def ofDocument (d : Yaml.Document) :
    Decoded (List Capability ⊕ List (String × Capability)) := do
  let forms ← readForms (← d.toSubtree.toContent)
  if d.isWhole then return forms else throw Yaml.brokenOff

/-- The directory written by a text. -/
def ofText (text : String) : Except Error Directory :=
  match ofDocument (.ofText text) with
  | .ok (.inl listed) => ofList listed
  | .ok (.inr entries) => .ok (ofNamed entries)
  | .error m => .error (textError m)

end Dataflow.Directory
