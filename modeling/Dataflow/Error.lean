import Dataflow.Decimal.Fixed

/-!
# Errors

An error is one of a closed set of causes, possibly attributed to a node. What an error is, its
kind, its code and its root, is that of the innermost cause, however often it is wrapped; the
node it is attributed to is the outermost one.
-/

namespace Dataflow

/-- What went wrong. -/
inductive Error where
  /-- The workflow cannot be run at all. -/
  | structural (message : String)
  /-- A node failed. -/
  | inNode (node : String) (source : Error)
  | unknownNodeType (name : String)
  /-- The capability is registered, but its service is not there. -/
  | capabilityUnavailable (name : String)
  /-- The service of a capability answered with an error status. -/
  | capability (name : String) (status : Nat) (message : String)
  | unsupported (what : String)
  /-- The run took longer than it may; both times in seconds. -/
  | timeout (elapsed limit : Float)
  /-- A node was given a bad configuration or bad input. -/
  | node (message : String)
  | transport (message : String)
  | config (message : String)
  | parse (message : String)
  | yaml (message : String)
  | json (message : String)
  | io (message : String)
deriving Inhabited

/-- The categories of errors that a report tells apart. -/
inductive ErrorKind where
  | structural
  | nodeExecution
  | capabilityUnavailable
  | timeout
  | transport
  | config
deriving DecidableEq, Repr

/-- The name of a category. -/
def ErrorKind.name : ErrorKind → String
  | .structural => "structural"
  | .nodeExecution => "node_execution"
  | .capabilityUnavailable => "capability_unavailable"
  | .timeout => "timeout"
  | .transport => "transport"
  | .config => "config"

namespace Error

/-- The text of an error. -/
def message : Error → String
  | .structural m => "Structural error: " ++ m
  | .inNode id source => "Node '" ++ id ++ "' failed: " ++ source.message
  | .unknownNodeType name => "Unknown node type: " ++ name
  | .capabilityUnavailable name => "Capability '" ++ name ++ "' is not available"
  | .capability name status m =>
    "Capability '" ++ name ++ "' returned status " ++ toString status ++ ": " ++ m
  | .unsupported what => "Not supported: " ++ what
  | .timeout elapsed limit =>
    "Workflow timed out after " ++ Decimal.fixedText elapsed 3 ++ "s (limit " ++
      Decimal.fixedText limit 3 ++ "s)"
  | .node m => "Node error: " ++ m
  | .transport m => "Transport error: " ++ m
  | .config m => "Configuration error: " ++ m
  | .parse m => "Parse error: " ++ m
  | .yaml m => "YAML error: " ++ m
  | .json m => "JSON error: " ++ m
  | .io m => "IO error: " ++ m

/-- Attributes an error to a node, unless it is attributed already. -/
def within (id : String) : Error → Error
  | .inNode n source => .inNode n source
  | e => .inNode id e

/-- The innermost cause. -/
def root : Error → Error
  | .inNode _ source => source.root
  | e => e

/-- The node an error is attributed to. -/
def node? : Error → Option String
  | .inNode id _ => some id
  | _ => none

/-- The category of an error. -/
def kind : Error → ErrorKind
  | .inNode _ source => source.kind
  | .structural _ => .structural
  | .capabilityUnavailable _ => .capabilityUnavailable
  | .timeout _ _ => .timeout
  | .transport _ => .transport
  | .config _ | .parse _ | .yaml _ | .io _ => .config
  | .unknownNodeType _ | .capability _ _ _ | .unsupported _ | .node _ | .json _ => .nodeExecution

/-- The code of an error, for programs. -/
def code : Error → String
  | .inNode _ source => source.code
  | .structural _ => "STRUCTURAL_ERROR"
  | .unknownNodeType _ => "UNKNOWN_NODE_TYPE"
  | .capabilityUnavailable _ => "CAPABILITY_UNAVAILABLE"
  | .capability _ _ _ => "CAPABILITY_ERROR"
  | .unsupported _ => "UNSUPPORTED"
  | .timeout _ _ => "TIMEOUT"
  | .node _ => "NODE_ERROR"
  | .transport _ => "TRANSPORT_ERROR"
  | .config _ => "CONFIG_ERROR"
  | .parse _ => "PARSE_ERROR"
  | .yaml _ => "YAML_ERROR"
  | .json _ => "JSON_ERROR"
  | .io _ => "IO_ERROR"

/-- The text of a file that is not there. -/
def missingFile : Error := .io "No such file or directory (os error 2)"

end Error

end Dataflow
