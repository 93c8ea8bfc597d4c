import Dataflow.Run.Report

/-!
# Metrics

Every run counts itself and the nodes it ran, by type and status, and records how long each took.
A series is named with its labels; what matters of it here is how often it was recorded.
-/

namespace Dataflow

/-- A series of measurements. -/
inductive Series where
  | workflows (status : Status)
  | workflowSeconds
  | nodes (type status : String)
  | nodeSeconds (type : String)
deriving DecidableEq, Repr

namespace Series

/-- The labels of a series in braces. -/
def labelled (name : String) (labels : List (String × String)) : String :=
  let shown := labels.map fun (key, value) => key ++ "=" ++ value
  name ++ "\x7b" ++ String.intercalate "," shown ++ "\x7d"

/-- The name of a series with its labels. -/
def text : Series → String
  | .workflows status => labelled "weft_workflows_executed_total" [("status", status.name)]
  | .workflowSeconds => labelled "weft_workflow_duration_seconds" []
  | .nodes type status =>
    labelled "weft_nodes_executed_total" [("node_type", type), ("status", status)]
  | .nodeSeconds type => labelled "weft_node_duration_seconds" [("node_type", type)]

end Series

/-- The status under which a node is counted: only an error that is a timeout itself, not one that
is attributed to a node, counts as such. -/
def Visit.status (v : Visit) : String :=
  match v.outcome with
  | .ok _ => "success"
  | .error (.timeout _ _) => "timeout"
  | .error _ => "failed"

/-- What a visit records; a node without a handler is not counted. -/
def Visit.samples (v : Visit) : List Series :=
  if v.handled then [.nodes v.node.type v.status, .nodeSeconds v.node.type] else []

/-- What a run records. -/
def Run.samples {σ : Type} (w : Workflow) (seeds : Fields) (r : Run σ) : List Series :=
  let visits := match r with
    | .rejected _ _ => []
    | .started _ h => h.visits
  visits.flatMap Visit.samples ++ [.workflows (r.report w seeds).status, .workflowSeconds]

/-- How often each series was recorded, by name. -/
def Series.counts (samples : List Series) : Keyed Nat :=
  samples.foldl
    (fun counts s => Keyed.put counts s.text (((Keyed.value? counts s.text).getD 0) + 1)) []

end Dataflow
