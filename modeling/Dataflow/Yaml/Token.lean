/-!
# The tokens of a YAML text

The tokens show the structure of a text: where collections begin and end, also those that are
shown by indentation alone, and where their keys, values and entries stand.
-/

namespace Dataflow.Yaml

/-- A token of a YAML text. -/
inductive Token where
  | version (major minor : Nat)
  | tagHandle (handle start : String)
  | documentStart
  | documentEnd
  | blockSequenceStart
  | blockMappingStart
  | blockEnd
  | flowSequenceStart
  | flowSequenceEnd
  | flowMappingStart
  | flowMappingEnd
  | blockEntry
  | flowEntry
  | key
  | value
  | alias (name : String)
  | anchor (name : String)
  | tag (handle suffix : String)
  | scalar (text : String) (plain : Bool)
  | textEnd
deriving DecidableEq, Repr

end Dataflow.Yaml
