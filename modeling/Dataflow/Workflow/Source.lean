import Dataflow.Workflow.Encode
import Dataflow.Yaml.Subtree
import Dataflow.Text.Pieces
import Dataflow.Text.Blank
import Dataflow.Error

/-!
# Workflows as texts

A workflow is written as a YAML document, of which JSON is a part. A text that cannot be read as
a workflow is answered by a parse error, which names the required field if one is missing.
-/

namespace Dataflow

/-- The field that a message calls missing. -/
def missingFieldIn? (message : String) : Option String := do
  let (_, after) ← Text.cutAtText "missing field `".toList message.toList
  let (field, _) ← Text.cutAt '\x60' after
  return String.ofList field

/-- The error for a text that is no workflow. -/
def Workflow.textError (m : Mismatch) : Error :=
  match missingFieldIn? m.message with
  | some field => .parse ("Missing required field: " ++ field)
  | none => .parse ("Invalid workflow definition: " ++ m.message)

/-- Reads a document as a workflow; the text must hold nothing else. -/
def Workflow.ofDocument (d : Yaml.Document) : Decoded Workflow := do
  let w ← Workflow.read d.toSubtree
  if d.isWhole then return w else throw Yaml.brokenOff

/-- The workflow written by a text. -/
def Workflow.ofText (text : String) : Except Error Workflow :=
  if (Text.trim text.toList).isEmpty then .error (.parse "Empty workflow definition")
  else (Workflow.ofDocument (.ofText text)).mapError Workflow.textError

end Dataflow
