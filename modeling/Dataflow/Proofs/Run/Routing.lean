import Dataflow.Run.Registry
import Dataflow.Proofs.Results
import Dataflow.Proofs.Run.Gathering
import Dataflow.Proofs.Run.Outputs

/-!
# The branches of a condition

A condition node yields its input at the handle of the branch taken and at `output`, and nothing at
the handle of the other branch (`Kinds.data_of_runCondition`). An edge whose source handle is not
there carries the whole value of its source. So an edge from the branch that is not taken does not
carry the input of the condition, but it does carry something: the object with the two entries
(`Engine.routes_condition`). Nodes behind that branch are run like all others.
-/

namespace Dataflow

variable {σ : Type}

/-! ## Values within values -/

/-- A value in an object is not the object. -/
lemma Json.ne_object_of_mem {fields : Fields} {key : String} {v : Json} (h : (key, v) ∈ fields) :
    v ≠ .object fields := by
  intro heq
  have hentry := List.sizeOf_lt_of_mem h
  have hobject : sizeOf v = sizeOf (Json.object fields) := congrArg sizeOf heq
  simp only [Json.object.sizeOf_spec, Prod.mk.sizeOf_spec] at hentry hobject
  omega

/-! ## Condition nodes -/

namespace Kinds

/-- The condition holds for the inputs of its node. -/
def holds (condition : String) (inputs : Fields) : Bool :=
  (evaluate condition (conditionScope inputs)).isTruthy

/-- The entries that a condition node yields: its input at the branch taken and at `output`. -/
def routed (taken : Bool) (v : Json) : Fields :=
  .ofEntries [(branchHandle taken, v), ("output", v)]

/-- The two branches have different names, and neither is called as the output is. -/
lemma branchHandle_ne (taken : Bool) :
    branchHandle taken ≠ branchHandle (!taken) ∧ branchHandle taken ≠ "output" := by
  cases taken <;> decide

/-- There is an entry at the branch taken and at `output`, and nowhere else. -/
lemma value?_routed (taken : Bool) (v : Json) (handle : String) :
    Keyed.value? (routed taken v) handle =
      if handle = branchHandle taken ∨ handle = "output" then some v else none := by
  have hne := (branchHandle_ne taken).2
  rw [routed, Keyed.value?_ofEntries (by simpa using hne), Keyed.value?]
  by_cases htaken : handle = branchHandle taken
  · simp [htaken]
  · by_cases houtput : handle = "output"
    · simp [houtput, List.lookup_cons, beq_false_of_ne hne.symm]
    · simp [htaken, houtput, List.lookup_cons, beq_false_of_ne htaken, beq_false_of_ne houtput]

/-- A condition node that succeeds has a condition, and yields its input as the condition tells. -/
lemma data_of_runCondition {config : Json} {inputs : Fields} {output : Output}
    (h : runCondition config inputs = .ok output) :
    ∃ condition, readCondition config = .ok condition ∧
      output.data = .object (routed (holds condition inputs) (Fields.primary inputs)) := by
  unfold runCondition at h
  obtain ⟨condition, hread, h⟩ := ok_of_bind h
  obtain rfl := Except.ok.inj h
  exact ⟨condition, mapError_eq_ok_iff.mp hread, rfl⟩

end Kinds

namespace Edge

/-- What an edge takes from a condition node: the input of the node if its source handle is the
branch taken or `output`, and all entries otherwise. -/
lemma pick_routed (edge : Edge) (taken : Bool) (v : Json) :
    edge.pick (.object (Kinds.routed taken v)) =
      if edge.sourceHandle = Kinds.branchHandle taken ∨ edge.sourceHandle = "output" then v
      else .object (Kinds.routed taken v) := by
  rw [pick, Kinds.value?_routed]
  split
  · rfl
  · rfl

/-- An edge carries the input of a condition node only from the branch taken and from `output`. -/
lemma pick_routed_eq_iff (edge : Edge) (taken : Bool) (v : Json) :
    edge.pick (.object (Kinds.routed taken v)) = v ↔
      edge.sourceHandle = Kinds.branchHandle taken ∨ edge.sourceHandle = "output" := by
  rw [pick_routed]
  split
  · rename_i hrouted
    exact iff_of_true rfl hrouted
  · rename_i hother
    have hentry : ("output", v) ∈ Kinds.routed taken v :=
      Keyed.mem_of_value? (by simp [Kinds.value?_routed])
    exact iff_of_false (Ne.symm (Json.ne_object_of_mem hentry)) hother

end Edge

/-! ## The last edge into a handle -/

/-- No edge behind it enters the same handle of the same node. -/
def Workflow.LastInto (w : Workflow) (edge : Edge) : Prop :=
  ∃ before after, w.edges = before ++ edge :: after ∧
    ∀ later ∈ after, later.target = edge.target → later.targetHandle ≠ edge.targetHandle

/-- What the last edge into a handle carries is what its target gathers there. -/
lemma Graph.value?_gather_of_last {w : Workflow} {edge : Edge} {outputs seeds : Fields} {x : Json}
    (hlast : w.LastInto edge) (htarget : edge.target ∈ w.ids)
    (hentry : edge.entry? outputs seeds = some (edge.targetHandle, x)) :
    Keyed.value? ((Graph.ofWorkflow w).gather edge.target outputs seeds) edge.targetHandle =
      some x := by
  obtain ⟨before, after, hedges, hlater⟩ := hlast
  obtain ⟨v, hsource, hcarried⟩ := Option.map_eq_some_iff.mp hentry
  refine value?_gather_iff.mpr ⟨htarget, edge, v, ⟨before, after, hedges, ?_, ?_⟩, hsource,
    (Prod.mk.inj hcarried).2⟩
  · exact Edge.supplies_iff.mpr ⟨rfl, rfl, by rw [hsource, Option.isSome_some]⟩
  · rintro later hmem ⟨htarget, hhandle, -⟩
    exact hlater later hmem htarget hhandle

namespace Engine

variable {e : Engine σ} {w : Workflow} {seeds : Fields} {state : σ} {order : List String}
  {h : History σ}

/-- The node is run as a condition node. -/
def RunsCondition (e : Engine σ) (n : Node) : Prop :=
  e.handler? n = some (.ofFunction Kinds.runCondition)

/-- Nodes of the type `condition` are condition nodes for the built-in node types. -/
lemma runsCondition_of_builtin {http : Handler σ} (hregistry : e.registry = .builtin http)
    {n : Node} (htype : n.type = "condition") : e.RunsCondition n :=
  handler?_of_builtin hregistry (by simp [htype])

/-- A condition node from which an edge leads to a visited node has succeeded, and its entries are
in the outputs. -/
lemma value?_outputs_of_condition (hrun : e.run w seeds state = .started order h) {c v : Visit}
    (hc : c ∈ h.visits) (hv : v ∈ h.visits) (hcondition : e.RunsCondition c.node)
    (harc : (Graph.ofWorkflow w).Arc c.node.id v.node.id) :
    ∃ condition, Kinds.readCondition c.node.config = .ok condition ∧
      Keyed.value? h.outputs c.node.id = some
        (.object (Kinds.routed (Kinds.holds condition c.inputs) (Fields.primary c.inputs))) := by
  obtain ⟨-, hwalked⟩ := walked_of_run hrun
  obtain ⟨before, after, hvisits⟩ := List.append_of_mem hv
  -- the visits have distinct nodes, so the one that stands before is the one of the condition
  have hbefore : c ∈ before := by
    obtain ⟨c', hc', hid⟩ := List.mem_map.mp (mem_before_of_arc hrun hvisits harc)
    have hmem : c' ∈ h.visits := hvisits ▸ List.mem_append_left _ hc'
    rwa [List.inj_on_of_nodup_map (nodup_of_run hrun) hmem hc hid] at hc'
  obtain ⟨output, hok⟩ := hwalked.succeeded_of_before hvisits c hbefore
  obtain ⟨state, state', hvisit⟩ := hwalked.visit_eq hc
  obtain ⟨-, handler, hhandler, hyields⟩ := exists_handler_of_ok hvisit hok
  obtain rfl := Option.some.inj (hcondition.symm.trans hhandler)
  obtain ⟨condition, hread, hdata⟩ := Kinds.data_of_runCondition hyields
  exact ⟨condition, hread, hdata ▸ History.value?_outputs (nodup_of_run hrun) hc hok⟩

/-- What an edge from a condition node carries, and its target gathers unless a later edge enters
the same handle, is what the edge takes from the entries of the node. -/
lemma entry?_of_condition (hrun : e.run w seeds state = .started order h) {c v : Visit}
    (hc : c ∈ h.visits) (hv : v ∈ h.visits) (hcondition : e.RunsCondition c.node) (edge : Edge)
    (hedge : edge ∈ w.edges) (hsource : edge.source = c.node.id)
    (htarget : edge.target = v.node.id) :
    ∃ condition, Kinds.readCondition c.node.config = .ok condition ∧
      let carried := edge.pick
        (.object (Kinds.routed (Kinds.holds condition c.inputs) (Fields.primary c.inputs)))
      edge.entry? h.outputs seeds = some (edge.targetHandle, carried) ∧
        (w.LastInto edge → Keyed.value? v.inputs edge.targetHandle = some carried) := by
  have hid := mem_ids_of_visit hrun hv
  have harc : (Graph.ofWorkflow w).Arc c.node.id v.node.id :=
    ⟨mem_ids_of_visit hrun hc, hid, edge, hedge, hsource, htarget⟩
  obtain ⟨condition, hread, hvalue⟩ := value?_outputs_of_condition hrun hc hv hcondition harc
  refine ⟨condition, hread, ?_⟩
  intro carried
  have hentry : edge.entry? h.outputs seeds = some (edge.targetHandle, carried) := by
    rw [Edge.entry?, Edge.source?, hsource, hvalue]
    rfl
  refine ⟨hentry, fun hlast => ?_⟩
  rw [inputs_eq_gather_outputs hrun hv, ← htarget]
  exact Graph.value?_gather_of_last hlast (htarget ▸ hid) hentry

/-- An edge from a condition node carries the input of the condition if its source handle is the
branch taken or `output`, and only then: not if it is the other branch. All other edges carry the
object that holds this input at the branch taken and at `output`. What an edge carries is what its
target gathers, unless a later edge enters the same handle. -/
theorem routes_condition (hrun : e.run w seeds state = .started order h) {c v : Visit}
    (hc : c ∈ h.visits) (hv : v ∈ h.visits) (hcondition : e.RunsCondition c.node) (edge : Edge)
    (hedge : edge ∈ w.edges) (hsource : edge.source = c.node.id)
    (htarget : edge.target = v.node.id) :
    ∃ condition, Kinds.readCondition c.node.config = .ok condition ∧
      let taken := Kinds.holds condition c.inputs
      let input := Fields.primary c.inputs
      ∃ carried, edge.entry? h.outputs seeds = some (edge.targetHandle, carried) ∧
        (carried = input ↔
          edge.sourceHandle = Kinds.branchHandle taken ∨ edge.sourceHandle = "output") ∧
        (edge.sourceHandle = Kinds.branchHandle (!taken) → carried ≠ input) ∧
        (carried ≠ input →
          carried = .ofEntries [(Kinds.branchHandle taken, input), ("output", input)]) ∧
        (w.LastInto edge → Keyed.value? v.inputs edge.targetHandle = some carried) := by
  obtain ⟨condition, hread, hentry, hgathered⟩ :=
    entry?_of_condition hrun hc hv hcondition edge hedge hsource htarget
  have hpick := edge.pick_routed_eq_iff (Kinds.holds condition c.inputs) (Fields.primary c.inputs)
  refine ⟨condition, hread, _, hentry, hpick, fun hother => ?_, fun hne => ?_, hgathered⟩
  · obtain ⟨hbranch, -⟩ := Kinds.branchHandle_ne (Kinds.holds condition c.inputs)
    obtain ⟨-, houtput⟩ := Kinds.branchHandle_ne (!Kinds.holds condition c.inputs)
    exact mt hpick.mp (hother ▸ not_or.mpr ⟨hbranch.symm, houtput⟩)
  · rw [edge.pick_routed, if_neg (mt hpick.mpr hne)]
    rfl

/-- A condition that does not hold, with an edge from each branch into the node behind it. -/
theorem routes_condition_fails :
    let e : Engine Unit := ⟨.builtin fun _ _ state => .pure (.error (.unsupported "")) state, [],
      fun call state => .pure (.error (.capabilityUnavailable call.capability)) state, 1000, true⟩
    let w : Workflow := ⟨none, none,
      [⟨"c", "condition", .object [("condition", .string "false")]⟩, ⟨"m", "merge", .null⟩],
      [⟨"x", "c", "output", "input"⟩, ⟨"c", "m", "true", "yes"⟩, ⟨"c", "m", "false", "no"⟩]⟩
    let seeds : Fields := [("x", .string "seed")]
    ∃ order h c v, e.run w seeds () = .started order h ∧ h.visits = [c, v] ∧
      e.RunsCondition c.node ∧ Kinds.readCondition c.node.config = .ok "false" ∧
      Kinds.holds "false" c.inputs = false ∧
      Keyed.value? v.inputs "no" = some (.string "seed") ∧
      ∃ carried, Keyed.value? v.inputs "yes" = some carried ∧ carried ≠ .string "seed" := by
  intro e w seeds
  obtain ⟨order, h, c, v, hrun, hvisits, hnode, hinputs, hid⟩ : ∃ order h c v,
      e.run w seeds () = .started order h ∧ h.visits = [c, v] ∧
        c.node = ⟨"c", "condition", .object [("condition", .string "false")]⟩ ∧
        c.inputs = [("input", .string "seed")] ∧ v.node.id = "m" :=
    ⟨_, _, _, _, rfl, rfl, rfl, rfl, rfl⟩
  have hregistry : e.registry = .builtin fun _ _ state => .pure (.error (.unsupported "")) state :=
    rfl
  have hcondition := runsCondition_of_builtin hregistry (congrArg Node.type hnode)
  have hread : Kinds.readCondition c.node.config = .ok "false" := hnode ▸ rfl
  have hholds : Kinds.holds "false" c.inputs = false := by
    rw [hinputs]
    cbv
  have hc : c ∈ h.visits := by simp [hvisits]
  have hv : v ∈ h.visits := by simp [hvisits]
  refine ⟨order, h, c, v, hrun, hvisits, hcondition, hread, hholds, ?_, ?_⟩
  · obtain ⟨_, hread', no, -, hroutes, -, -, hgathered⟩ := routes_condition hrun hc hv hcondition
      ⟨"c", "m", "false", "no"⟩ (by simp [w]) (congrArg Node.id hnode).symm hid.symm
    obtain rfl := Except.ok.inj (hread.symm.trans hread')
    have hno := hroutes.mpr (.inl (by rw [hholds]; rfl))
    rw [hgathered ⟨[_, _], [], rfl, by simp⟩, hno, hinputs]
    rfl
  · obtain ⟨_, hread', yes, -, -, hother, -, hgathered⟩ := routes_condition hrun hc hv hcondition
      ⟨"c", "m", "true", "yes"⟩ (by simp [w]) (congrArg Node.id hnode).symm hid.symm
    obtain rfl := Except.ok.inj (hread.symm.trans hread')
    have hyes := hother (by rw [hholds]; rfl)
    rw [hinputs] at hyes
    exact ⟨yes, hgathered ⟨[_], [_], rfl, by simp⟩, hyes⟩

/-- A condition that holds, with an edge from the branch that is not taken: this edge delivers an
object with the input of the condition. -/
theorem delivers_branch_not_taken :
    let e : Engine Unit := ⟨.builtin fun _ _ state => .pure (.error (.unsupported "")) state, [],
      fun call state => .pure (.error (.capabilityUnavailable call.capability)) state, 1000, true⟩
    let w : Workflow := ⟨none, none,
      [⟨"c", "condition", .object [("condition", .string "true")]⟩, ⟨"no", "merge", .null⟩],
      [⟨"x", "c", "output", "input"⟩, ⟨"c", "no", "false", "input"⟩]⟩
    let seeds : Fields := [("x", .string "seed")]
    ∃ order h c v, e.run w seeds () = .started order h ∧ h.visits = [c, v] ∧
      e.RunsCondition c.node ∧ Kinds.readCondition c.node.config = .ok "true" ∧
      Kinds.holds "true" c.inputs = true ∧ v.node.id = "no" ∧
      Keyed.value? v.inputs "input" =
        some (.object [("output", .string "seed"), ("true", .string "seed")]) := by
  intro e w seeds
  obtain ⟨order, h, c, v, hrun, hvisits, hnode, hinputs, hid⟩ : ∃ order h c v,
      e.run w seeds () = .started order h ∧ h.visits = [c, v] ∧
        c.node = ⟨"c", "condition", .object [("condition", .string "true")]⟩ ∧
        c.inputs = [("input", .string "seed")] ∧ v.node.id = "no" :=
    ⟨_, _, _, _, rfl, rfl, rfl, rfl, rfl⟩
  have hregistry : e.registry = .builtin fun _ _ state => .pure (.error (.unsupported "")) state :=
    rfl
  have hcondition := runsCondition_of_builtin hregistry (congrArg Node.type hnode)
  have hread : Kinds.readCondition c.node.config = .ok "true" := hnode ▸ rfl
  have hholds : Kinds.holds "true" c.inputs = true := by
    rw [hinputs]
    cbv
  refine ⟨order, h, c, v, hrun, hvisits, hcondition, hread, hholds, hid, ?_⟩
  obtain ⟨_, hread', -, hgathered⟩ := entry?_of_condition hrun (by simp [hvisits])
    (by simp [hvisits]) hcondition ⟨"c", "no", "false", "input"⟩ (by simp [w])
    (congrArg Node.id hnode).symm hid.symm
  obtain rfl := Except.ok.inj (hread.symm.trans hread')
  rw [hgathered ⟨[_], [], rfl, by simp⟩, hholds, hinputs]
  rfl

end Engine

end Dataflow
