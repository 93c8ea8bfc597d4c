import Dataflow.Proofs.Decode.Record
import Dataflow.Proofs.Kinds.Transform
import Dataflow.Proofs.Run.Reordering

/-!
# Values that cross a workflow

A workflow relays a value if an input node yields it by default, transform nodes pass it through one
after the other, and an output node collects it (`Workflow.Relays`). Every node then hands the value
on in an object of its own, from which the next edge takes it again: as the edge finds the handle of
the node, it never looks into the value, whatever its keys are. So the equations of the workflow
have a solution (`Engine.consistent_of_relays`), and as its nodes take no time, every run of it
arrives at that solution (`Engine.relays_value`).
-/

namespace Dataflow

variable {σ : Type}

/-! ## Chains of edges -/

namespace Edge

/-- The edges that lead from each node to the next one, between the default handles. -/
def chain : List String → List Edge
  | a :: b :: rest => .between a b :: chain (b :: rest)
  | _ => []

/-- An edge of a chain joins neighbours. -/
lemma of_mem_chain {ids : List String} {edge : Edge} (hedge : edge ∈ chain ids) :
    ∃ before after, ids = before ++ edge.source :: edge.target :: after := by
  fun_induction chain ids with
  | case1 a b rest ih =>
    rcases List.mem_cons.mp hedge with rfl | hedge
    · exact ⟨[], rest, rfl⟩
    · obtain ⟨before, after, heq⟩ := ih hedge
      exact ⟨a :: before, after, by rw [heq]; rfl⟩
  | case2 => cases hedge

/-- Neighbours are joined by an edge of the chain. -/
lemma between_mem_chain (before : List String) (a b : String) (after : List String) :
    between a b ∈ chain (before ++ a :: b :: after) := by
  induction before with
  | nil => exact List.mem_cons_self
  | cons first before ih =>
    cases before with
    | nil => exact List.mem_cons_of_mem _ ih
    | cons second before => exact List.mem_cons_of_mem _ ih

/-- Every node but the first is the target of one edge of the chain. -/
lemma map_target_chain (ids : List String) : (chain ids).map target = ids.tail := by
  fun_induction chain ids with
  | case1 a b rest ih => rw [List.map_cons, ih]; rfl
  | case2 ids hshort =>
    match ids with
    | [] => rfl
    | [_] => rfl
    | a :: b :: rest => exact absurd rfl (hshort a b rest)

end Edge

/-- Along a chain the nodes are ordered. -/
lemma Graph.ordered_of_chain {g : Graph} {ids : List String} (hdistinct : ids.Nodup)
    (hedges : ∀ edge ∈ g.edges, edge ∈ Edge.chain ids) : g.Ordered ids := by
  rintro before id after heq u ⟨-, -, edge, hedge, rfl, rfl⟩
  obtain ⟨before', after', heq'⟩ := Edge.of_mem_chain (hedges edge hedge)
  have hsplit : ids = (before' ++ [edge.source]) ++ edge.target :: after' := by simpa using heq'
  -- the target stands in the list once, so that both splits of the list are the same
  have hnot : edge.target ∉ (before' ++ [edge.source]) ++ after' := by
    rw [hsplit] at hdistinct
    exact (List.nodup_cons.mp (List.nodup_middle.mp hdistinct)).1
  rw [List.mem_append, not_or] at hnot
  obtain ⟨rfl, -, -⟩ :=
    (List.append_cons_inj_of_notMem hnot.1 hnot.2).mp (hsplit.symm.trans heq)
  simp

/-- If no two edges have the same target, an edge is the only one into its target. -/
lemma Graph.incoming_eq_singleton {g : Graph} (htargets : (g.edges.map Edge.target).Nodup)
    {edge : Edge} (hedge : edge ∈ g.edges) (hid : edge.target ∈ g.ids) :
    g.incoming edge.target = [edge] := by
  have hfiltered : (g.incoming edge.target).Nodup := by
    rw [incoming_of_mem hid]
    exact (htargets.of_map _).filter _
  refine List.perm_singleton.mp ?_
  rw [List.perm_ext_iff_of_nodup hfiltered (List.nodup_singleton edge)]
  intro other
  rw [mem_incoming, List.mem_singleton]
  constructor
  · rintro ⟨-, hother, htarget⟩
    exact List.inj_on_of_nodup_map htargets hother hedge htarget
  · rintro rfl
    exact ⟨hid, hedge, rfl⟩

/-! ## Workflows that relay a value -/

/-- An object that has a default value, and no input type, is read as the configuration with this
default. -/
lemma Kinds.InputConfig.ofJson_object {entries : Fields} {v : Json}
    (hentries : Keyed.Sorted entries) (hdefault : Keyed.value? entries "defaultValue" = some v)
    (htype : Keyed.value? entries "inputType" = none) (hnull : v.isNull = false) :
    ofJson (.object entries) = .ok ⟨some v, none⟩ := by
  have hread : defaultValueField.read v = .ok (some v) := by
    cases v with
    | null => cases hnull
    | bool | number | string | array | object => rfl
  have hvalue : Record.Gives entries defaultValueField (some v) := .entry v hdefault hread
  have hinput : Record.Gives entries inputTypeField none := .default htype rfl
  have hobject : ofJson (.object entries) = _ := Record.read_object hentries (by
    simp only [List.forall_mem_cons]
    exact ⟨hvalue.passes rfl, hinput.passes rfl, List.forall_mem_nil _⟩)
  rw [hobject, hvalue.get_eq rfl, hinput.get_eq rfl]
  rfl

namespace Workflow

/-- The workflow hands a value on from node to node: an input node has it as its default, transform
nodes pass it through, and an output node collects it. Each node is joined to the next one. The
nodes and the edges may be declared in any order. -/
structure Relays (w : Workflow) (v : Json) (first : Node) (hops : List Node) (last : Node) :
    Prop where
  nodes : w.nodes.Perm (first :: (hops ++ [last]))
  edges : w.edges.Perm (Edge.chain ((first :: (hops ++ [last])).map Node.id))
  ids : ∀ n ∈ w.nodes, n.id ≠ ""
  distinct : w.ids.Nodup
  first_type : first.type = "input"
  first_config : Kinds.InputConfig.ofJson first.config = .ok ⟨some v, none⟩
  hops_type : ∀ n ∈ hops, n.type = "transform"
  hops_config : ∀ n ∈ hops, ∃ c, Kinds.TransformConfig.ofJson n.config = .ok c ∧
    c.type = "passthrough"
  last_type : last.type = "output"

/-- What a node yields when the value has come to it. -/
def relayed (v : Json) (n : Node) : Json :=
  if n.type = "output" then .object [("result", v)] else .object [("output", v)]

/-- The values of all nodes when the value has come to them. -/
def relayedValues (w : Workflow) (v : Json) : Fields :=
  Keyed.ofEntries (w.nodes.map fun n => (n.id, relayed v n))

namespace Relays

variable {w : Workflow} {v : Json} {first last n : Node} {hops : List Node} {seeds : Fields}

lemma mem_nodes (hw : w.Relays v first hops last) :
    n ∈ w.nodes ↔ n = first ∨ n ∈ hops ∨ n = last := by
  rw [hw.nodes.mem_iff, List.mem_cons, List.mem_append, List.mem_singleton]

/-- The identifiers along the chain are distinct. -/
lemma nodup_chain (hw : w.Relays v first hops last) :
    ((first :: (hops ++ [last])).map Node.id).Nodup :=
  (hw.nodes.map Node.id).nodup_iff.mp hw.distinct

/-- No two edges have the same target, and none leads to the first node. -/
lemma targets (hw : w.Relays v first hops last) :
    (first.id :: w.edges.map Edge.target).Nodup := by
  have hperm : (first.id :: w.edges.map Edge.target).Perm
      ((first :: (hops ++ [last])).map Node.id) := by
    rw [List.map_cons]
    refine List.Perm.cons _ ((hw.edges.map Edge.target).trans ?_)
    rw [Edge.map_target_chain, List.map_cons, List.tail_cons]
  exact hperm.nodup_iff.mpr hw.nodup_chain

/-- To every node but the first leads an edge from a node before the last one. -/
lemma exists_link (hw : w.Relays v first hops last) (hn : n ∈ hops ∨ n = last) :
    ∃ p, (p = first ∨ p ∈ hops) ∧ Edge.between p.id n.id ∈ w.edges := by
  obtain ⟨before, after, heq, hbefore⟩ : ∃ before after,
      hops ++ [last] = before ++ n :: after ∧ ∀ p ∈ before, p ∈ hops := by
    rcases hn with hn | rfl
    · obtain ⟨before, after, rfl⟩ := List.append_of_mem hn
      exact ⟨before, after ++ [last], by simp, fun p hp => List.mem_append_left _ hp⟩
    · exact ⟨hops, [], rfl, fun p hp => hp⟩
  obtain ⟨front, p, hfront⟩ : ∃ front p, first :: before = front ++ [p] :=
    ⟨_, _, (List.dropLast_append_getLast (List.cons_ne_nil first before)).symm⟩
  refine ⟨p, ?_, hw.edges.mem_iff.mpr ?_⟩
  · have hp : p ∈ first :: before := by simp [hfront]
    exact (List.mem_cons.mp hp).imp_right (hbefore p)
  · have hids : (first :: (hops ++ [last])).map Node.id =
        front.map Node.id ++ p.id :: n.id :: after.map Node.id := by
      rw [heq, ← List.cons_append, hfront]
      simp
    rw [hids]
    exact Edge.between_mem_chain _ _ _ _

/-- The workflow is valid. -/
lemma valid (hw : w.Relays v first hops last) : w.Valid where
  nodes := List.ne_nil_of_mem (hw.mem_nodes.mpr (.inl rfl))
  ids := hw.ids
  types := fun n hn => by
    rcases hw.mem_nodes.mp hn with rfl | hn | rfl
    · simp [hw.first_type]
    · simp [hw.hops_type n hn]
    · simp [hw.last_type]
  distinct := hw.distinct
  acyclic := by
    have hordered : (Graph.ofWorkflow w).Ordered ((first :: (hops ++ [last])).map Node.id) :=
      Graph.ordered_of_chain hw.nodup_chain fun edge hedge => hw.edges.mem_iff.mp hedge
    exact hordered.not_cyclic fun id hid => (hw.nodes.map Node.id).mem_iff.mp hid

/-- A node yields the value to which it is relayed. -/
lemma value?_relayedValues (hw : w.Relays v first hops last) (hn : n ∈ w.nodes) :
    Keyed.value? (w.relayedValues v) n.id = some (relayed v n) := by
  have hkeys : ((w.nodes.map fun n => (n.id, relayed v n)).map Prod.fst).Nodup := by
    rw [List.map_map]
    exact hw.distinct
  rw [relayedValues, Keyed.value?_ofEntries hkeys]
  exact Keyed.value?_of_mem hkeys (List.mem_map_of_mem hn)

/-- The first node gathers nothing. -/
lemma gather_first (hw : w.Relays v first hops last) (values : Fields) :
    (Graph.ofWorkflow w).gather first.id values seeds = [] := by
  have hnone : (Graph.ofWorkflow w).incoming first.id = [] := by
    refine List.eq_nil_iff_forall_not_mem.mpr fun edge hedge => ?_
    obtain ⟨-, hmem, htarget⟩ := Graph.mem_incoming.mp hedge
    exact (List.nodup_cons.mp hw.targets).1 (htarget ▸ List.mem_map_of_mem hmem)
  rw [Graph.gather, hnone]
  rfl

/-- Every other node gathers the value at the handle `input`. -/
lemma gather_eq (hw : w.Relays v first hops last) (hn : n ∈ hops ∨ n = last) :
    (Graph.ofWorkflow w).gather n.id (w.relayedValues v) seeds = [("input", v)] := by
  obtain ⟨p, hp, hedge⟩ := hw.exists_link hn
  have hnid : n.id ∈ w.ids := List.mem_map_of_mem (hw.mem_nodes.mpr (.inr hn))
  have hvalue : Keyed.value? (w.relayedValues v) p.id = some (.object [("output", v)]) := by
    have htype : p.type ≠ "output" := by
      rcases hp with rfl | hp
      · simp [hw.first_type]
      · simp [hw.hops_type p hp]
    rw [hw.value?_relayedValues (hw.mem_nodes.mpr (hp.imp_right .inl)), relayed, if_neg htype]
  have hentry :
      Edge.entry? (w.relayedValues v) seeds (.between p.id n.id) = some ("input", v) := by
    rw [Edge.entry?, Edge.source?, Edge.between, hvalue]
    rfl
  have hincoming := Graph.incoming_eq_singleton (g := Graph.ofWorkflow w)
    (List.nodup_cons.mp hw.targets).2 hedge hnid
  rw [Graph.gather_eq_ofEntries, show (Graph.ofWorkflow w).incoming n.id = [.between p.id n.id]
    from hincoming, List.filterMap_cons_some hentry]
  rfl

/-- The last node is the only output node. -/
lemma outputIds_eq (hw : w.Relays v first hops last) : w.outputIds = [last.id] := by
  have hkinds : ((first :: (hops ++ [last])).filter fun n => n.kind == .output) = [last] := by
    rw [List.filter_cons_of_neg, List.filter_append, List.filter_eq_nil_iff.mpr, List.nil_append,
      List.filter_cons_of_pos, List.filter_nil]
    · rw [Node.kind, hw.last_type]
      rfl
    · intro n hn
      rw [Node.kind, hw.hops_type n hn]
      decide
    · rw [Node.kind, hw.first_type]
      decide
  refine List.perm_singleton.mp (((hw.nodes.filter _).map Node.id).trans ?_)
  rw [hkinds]
  exact .refl _

end Relays

/-- With one output node its value is the only result. -/
lemma collect_eq_singleton {w : Workflow} {id : String} {outputs : Fields} {v : Json}
    (hids : w.outputIds = [id]) (hv : Keyed.value? outputs id = some v) (order : List String) :
    w.collect order outputs = [(id, v)] := by
  rw [collect, hids, if_neg (by simp), List.filterMap_cons_some (by rw [hv]; rfl)]
  rfl

end Workflow

namespace Engine

variable {e : Engine σ} {http : Handler σ} {w : Workflow} {v : Json} {first last n : Node}
  {hops : List Node} {seeds : Fields} {state : σ}

/-- Every node is run by a function that hands the value on, if the value has come to the nodes
before it. -/
lemma exists_function_of_relays (hregistry : e.registry = .builtin http)
    (hw : w.Relays v first hops last) (hnull : v.isNull = false) (hn : n ∈ w.nodes)
    (seeds : Fields) :
    ∃ f output, e.handler? n = some (.ofFunction f) ∧
      f n.config ((Graph.ofWorkflow w).gather n.id (w.relayedValues v) seeds) = .ok output ∧
      output.data = Workflow.relayed v n := by
  have hprimary : Fields.primary [("input", v)] = v := Fields.primary_of_value? rfl hnull
  rcases hw.mem_nodes.mp hn with rfl | hn | rfl
  · have hhandler : e.handler? n = some (.ofFunction Kinds.runInput) :=
      handler?_of_builtin hregistry (by simp [hw.first_type])
    refine ⟨_, .single v, hhandler, ?_, ?_⟩
    · rw [hw.gather_first, Kinds.runInput, readConfig, hw.first_config]
      rfl
    · rw [Workflow.relayed, hw.first_type]
      rfl
  · obtain ⟨c, hread, hc⟩ := hw.hops_config n hn
    have hhandler : e.handler? n = some (.ofFunction Kinds.runTransform) :=
      handler?_of_builtin hregistry (by simp [hw.hops_type n hn])
    refine ⟨_, .single v, hhandler, ?_, ?_⟩
    · rw [hw.gather_eq (.inl hn), Kinds.runTransform_eq hread, Kinds.transform, hc, hprimary]
      rfl
    · rw [Workflow.relayed, hw.hops_type n hn]
      rfl
  · have hhandler : e.handler? n =
        some (.ofFunction fun _ inputs => .ok (Kinds.runOutput inputs)) :=
      handler?_of_builtin hregistry (by simp [hw.last_type])
    refine ⟨_, _, hhandler, rfl, ?_⟩
    rw [hw.gather_eq (.inr rfl), Kinds.runOutput, hprimary, Workflow.relayed, hw.last_type]
    rfl

/-- The values that the nodes have when the value has come to them solve the equations of the
workflow. -/
lemma consistent_of_relays (hregistry : e.registry = .builtin http)
    (hw : w.Relays v first hops last) (hnull : v.isNull = false) :
    e.Consistent w seeds (w.relayedValues v) where
  sorted := Keyed.sorted_ofEntries _
  keys := fun id => by
    rw [Keyed.hasKey, Workflow.relayedValues, Keyed.ofEntries, Keyed.isSome_value?_putAll,
      List.map_map]
    simp [Workflow.ids]
  value := fun n hn => by
    obtain ⟨f, output, hhandler, hf, hdata⟩ := exists_function_of_relays hregistry hw hnull hn seeds
    exact ⟨output, ⟨_, hhandler, fun _ => hf⟩, by rw [hdata, hw.value?_relayedValues hn]⟩

/-- The nodes take no time. -/
lemma instant_of_relays (hregistry : e.registry = .builtin http)
    (hw : w.Relays v first hops last) (hnull : v.isNull = false) (hn : n ∈ w.nodes) :
    e.Instant n := by
  intro handler hhandler inputs state
  obtain ⟨f, -, hfunction, -⟩ := exists_function_of_relays hregistry hw hnull hn []
  obtain rfl := Option.some.inj (hfunction.symm.trans hhandler)
  rfl

/-! ## The main result -/

/-- A value that is not `null` crosses any number of transform nodes unchanged: whatever it is,
whatever the seeds are, and in whatever order the nodes are declared, the workflow that relays it
completes with this value as its only result. No limit is too short, as no time passes. -/
theorem relays_value (hregistry : e.registry = .builtin http) (hw : w.Relays v first hops last)
    (hnull : v.isNull = false) (seeds : Fields) (state : σ) :
    let r := (e.run w seeds state).report w seeds
    r.status = .completed ∧ r.error = none ∧ r.outputs = [(last.id, .object [("result", v)])] := by
  obtain ⟨order, hplan⟩ := Workflow.exists_plan_iff_valid.mpr hw.valid
  obtain ⟨h, hrun⟩ := e.exists_run_of_plan hplan seeds state
  have hvalues : e.Consistent w seeds (w.relayedValues v) :=
    consistent_of_relays hregistry hw hnull
  have hunhurried : e.Unhurried w seeds state :=
    unhurried_of_instant fun n hn => instant_of_relays hregistry hw hnull hn
  have hending : h.ending = .completed := hvalues.ending_eq hunhurried hrun
  -- the last node was visited, and yielded its value in the solution
  have hlast : last ∈ w.nodes := hw.mem_nodes.mpr (.inr (.inr rfl))
  obtain ⟨visit, hvisit, rfl, output, hok, hvalue⟩ := exists_visit_of_completed hrun hending hlast
  obtain ⟨output', hok', hvalue'⟩ := hvalues.visit_eq hunhurried hrun visit hvisit
  obtain rfl : output = output' := Except.ok.inj (hok.symm.trans hok')
  rw [hw.value?_relayedValues hlast, Workflow.relayed, if_pos hw.last_type] at hvalue'
  rw [← hvalue'] at hvalue
  obtain ⟨hstatus, houtputs, herror⟩ := Run.report_completed w seeds order hending
  rw [hrun]
  refine ⟨hstatus, herror, ?_⟩
  rw [houtputs, Workflow.collect_eq_singleton hw.outputIds_eq hvalue]

/-- The value has the names of handles as its keys, the seeds have those of nodes, the nodes are
declared from the last one on, and the limit is zero. -/
theorem relays_value_with_handles :
    let e : Engine ℕ := ⟨.builtin fun _ _ calls => .pure (.error (.unsupported "")) (calls + 1), [],
      fun call calls => .pure (.error (.capabilityUnavailable call.capability)) calls, 0, true⟩
    let v : Json := .object [("input", .string "i"), ("output", .string "o"),
      ("result", .null), ("value", .array [])]
    let first : Node := ⟨"in", "input", .object [("defaultValue", v), ("note", .null)]⟩
    let hops : List Node := [⟨"result", "transform", .object []⟩,
      ⟨"b", "transform", .object [("path", .string "output"), ("type", .string "passthrough")]⟩]
    let last : Node := ⟨"out", "output", .null⟩
    let w : Workflow := ⟨none, none, last :: (hops.reverse ++ [first]),
      [.between "b" "out", .between "in" "result", .between "result" "b"]⟩
    let seeds : Fields := [("in", .string "seed"), ("value", .string "seed")]
    let r := (e.run w seeds 0).report w seeds
    w.Relays v first hops last ∧ r.order = ["in", "result", "b", "out"] ∧ r.status = .completed ∧
      r.outputs = [("out", .object [("result", v)])] := by
  intro e v first hops last w seeds r
  have hw : w.Relays v first hops last := {
    nodes := List.reverse_perm (first :: (hops ++ [last]))
    edges := by decide
    ids := by simp [w, hops, first, last]
    distinct := by decide
    first_type := rfl
    first_config := Kinds.InputConfig.ofJson_object
      (List.pairwise_pair.mpr (by decide)) rfl rfl rfl
    hops_type := by simp [hops]
    hops_config := by
      simp only [hops, List.forall_mem_cons]
      exact ⟨⟨_, rfl, rfl⟩, ⟨_, rfl, rfl⟩, List.forall_mem_nil _⟩
    last_type := rfl }
  obtain ⟨hstatus, -, houtputs⟩ := relays_value (e := e) rfl hw rfl seeds 0
  exact ⟨hw, by decide, hstatus, houtputs⟩

end Engine

end Dataflow
