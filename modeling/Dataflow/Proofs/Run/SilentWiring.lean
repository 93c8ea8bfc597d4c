import Dataflow.Proofs.Run.Consistency
import Dataflow.Proofs.Run.Course
import Dataflow.Proofs.Run.Routing
import Dataflow.Proofs.Workflow.Warnings

/-!
# Silent wiring

A report tells nothing of an edge that carries no value or carries an input of the run, nor of one
that overwrites what another edge has carried. The warnings about the workflow tell of all of them
before it is run (`Engine.warnings_of_run`): sources that are nodes have a value when their targets
are started, since they stand before them in the plan (`Engine.value?_source_eq_none_iff`), and an
edge overwrites only what an edge into the same handle has carried.
-/

namespace Dataflow

variable {σ : Type}

/-! ## What an edge may do -/

/-- No node gives the edge its value: it is passed over, or it carries an input of the run. -/
def Edge.Unfed (outputs seeds : Fields) (edge : Edge) : Prop :=
  edge.source? outputs seeds = none ∨
    Keyed.value? outputs edge.source = none ∧ Keyed.hasKey seeds edge.source

/-- An edge gets its value from a node if its source is one with a value, and only then. -/
lemma Edge.unfed_iff {outputs seeds : Fields} {edge : Edge} :
    edge.Unfed outputs seeds ↔ Keyed.value? outputs edge.source = none := by
  rw [Unfed, source?, Option.or_eq_none_iff, Keyed.hasKey]
  cases Keyed.value? seeds edge.source with
  | none => simp
  | some x => simp

namespace Graph

/-- The edge puts a value in where an edge before it has put one in already. -/
def Overwrites (g : Graph) (id : String) (outputs seeds : Fields) (edge : Edge) : Prop :=
  ∃ before after, g.incoming id = before ++ edge :: after ∧
    (edge.source? outputs seeds).isSome ∧
      Keyed.hasKey (before.foldl (Edge.deliver outputs seeds) []) edge.targetHandle

variable {g : Graph} {id : String} {outputs seeds : Fields} {edge : Edge}

/-- The edges into a node are edges of the graph, in the same order. -/
lemma incoming_sublist (g : Graph) (id : String) : List.Sublist (g.incoming id) g.edges := by
  rw [incoming]
  split
  · exact List.filter_sublist
  · exact List.nil_sublist _

/-- An edge overwrites what an edge before it carries into the same handle. -/
lemma Overwrites.exists_earlier (h : g.Overwrites id outputs seeds edge) :
    ∃ earlier, List.Sublist [earlier, edge] g.edges ∧ earlier.target = id ∧ edge.target = id ∧
      earlier.targetHandle = edge.targetHandle := by
  obtain ⟨before, after, hincoming, -, hwritten⟩ := h
  obtain ⟨earlier, hearlier, -, hhandle⟩ :=
    (Edge.hasKey_foldl_deliver outputs seeds before _).mp hwritten
  have hpair : List.Sublist ([earlier] ++ [edge]) (before ++ edge :: after) :=
    (List.singleton_sublist.mpr hearlier).append (List.singleton_sublist.mpr List.mem_cons_self)
  rw [← hincoming] at hpair
  have htarget : ∀ e ∈ [earlier, edge], e.target = id := fun e he =>
    (mem_incoming.mp (hpair.subset he)).2.2
  exact ⟨earlier, hpair.trans (g.incoming_sublist id), htarget _ (by simp), htarget _ (by simp),
    hhandle⟩

end Graph

namespace Workflow

variable {w : Workflow} {edge : Edge}

/-- There is a warning about a handle at which an edge overwrites what an edge before it has
carried. -/
lemma overwritten_mem_warnings_of_overwrites {id : String} {outputs seeds : Fields}
    (hoverwrites : (Graph.ofWorkflow w).Overwrites id outputs seeds edge) :
    .overwritten id edge.targetHandle (w.writers (id, edge.targetHandle)) ∈ w.warnings := by
  obtain ⟨earlier, hedges, htarget, rfl, hhandle⟩ := hoverwrites.exists_earlier
  exact overwritten_mem_warnings_of_sublist hedges htarget hhandle

/-- Without warnings every edge is the last one into its handle. -/
lemma lastInto_of_warnings_eq_nil (hwarnings : w.warnings = []) (hedge : edge ∈ w.edges) :
    w.LastInto edge := by
  obtain ⟨before, after, hedges⟩ := List.append_of_mem hedge
  refine ⟨before, after, hedges, fun later hlater htarget hhandle => ?_⟩
  have hpair : List.Sublist [edge, later] w.edges := hedges ▸
    ((List.singleton_sublist.mpr hlater).cons_cons edge).trans (List.sublist_append_right before _)
  have hwarning := overwritten_mem_warnings_of_sublist hpair htarget.symm hhandle.symm
  simp [hwarnings] at hwarning

end Workflow

/-! ## Runs -/

namespace Engine

variable {e : Engine σ} {w : Workflow} {seeds : Fields} {state : σ} {order : List String}
  {h : History σ} {before after : List Visit} {v : Visit} {edge : Edge}

/-- When a node is started, the sources without a value are no nodes. -/
lemma value?_source_eq_none_iff (hrun : e.run w seeds state = .started order h)
    (hvisits : h.visits = before ++ v :: after)
    (hedge : edge ∈ (Graph.ofWorkflow w).incoming v.node.id) :
    Keyed.value? (Keyed.ofEntries (before.filterMap Visit.yield?)) edge.source = none ↔
      edge.source ∉ w.ids := by
  obtain ⟨hid, hmem, htarget⟩ := Graph.mem_incoming.mp hedge
  rw [← Option.not_isSome_iff_eq_none, not_iff_not]
  refine (Visit.hasKey_yields before edge.source).trans ⟨?_, fun hsource => ?_⟩
  · rintro ⟨u, hu, hnode, hsucceeded⟩
    have hmem : u ∈ h.visits := hvisits ▸ List.mem_append_left _ hu
    exact mem_ids_of_hasKey hrun ((h.hasKey_outputs _).mpr ⟨u, hmem, hnode, hsucceeded⟩)
  · -- its arc makes the source stand before the node
    have harc : (Graph.ofWorkflow w).Arc edge.source v.node.id :=
      ⟨hsource, hid, edge, hmem, rfl, htarget⟩
    obtain ⟨u, hu, hnode⟩ := List.mem_map.mp (mem_before_of_arc hrun hvisits harc)
    exact ⟨u, hu, hnode, (walked_of_run hrun).2.succeeded_of_before hvisits u hu⟩

/-- Without warnings every edge delivers its value in a completed run. -/
lemma delivers_of_warnings_eq_nil (hrun : e.run w seeds state = .started order h)
    (hending : h.ending = .completed) (hwarnings : w.warnings = []) (hedge : edge ∈ w.edges) :
    ∃ u ∈ h.visits, ∃ v ∈ h.visits, ∃ output,
      u.node.id = edge.source ∧ v.node.id = edge.target ∧ u.outcome = .ok output ∧
        Keyed.value? v.inputs edge.targetHandle = some (edge.pick output.data) := by
  have hsource : edge.source ∈ w.ids := by
    by_contra hsource
    simpa [hwarnings] using Workflow.fromInput_mem_warnings_iff.mpr ⟨hedge, hsource⟩
  have htarget : edge.target ∈ w.ids := by
    by_contra htarget
    simpa [hwarnings] using Workflow.noTarget_mem_warnings_iff.mpr ⟨hedge, htarget⟩
  obtain ⟨m, hm, hmid⟩ := List.mem_map.mp hsource
  obtain ⟨n, hn, hnid⟩ := List.mem_map.mp htarget
  obtain ⟨u, hu, rfl, output, hok, hvalue⟩ := exists_visit_of_completed hrun hending hm
  obtain ⟨v, hv, rfl, -⟩ := exists_visit_of_completed hrun hending hn
  refine ⟨u, hu, v, hv, output, hmid, hnid, hok, ?_⟩
  have hentry : edge.entry? h.outputs seeds = some (edge.targetHandle, edge.pick output.data) := by
    rw [Edge.entry?, Edge.source?, ← hmid, hvalue]
    rfl
  rw [inputs_eq_gather_outputs hrun hv, hnid]
  exact Graph.value?_gather_of_last (Workflow.lastInto_of_warnings_eq_nil hwarnings hedge) htarget
    hentry

/-- A run in which a node was started is not one whose limit has passed at once. -/
lemma started_of_visits {run : Run σ}
    (hrun : run = e.run w seeds state ∨ run = e.runLate w state)
    (hvisits : run.visits = before ++ v :: after) :
    ∃ order h, e.run w seeds state = .started order h ∧ h.visits = before ++ v :: after := by
  rcases hrun with rfl | rfl
  · cases hrun : e.run w seeds state with
    | rejected fault state => simp [hrun, Run.visits] at hvisits
    | started order h =>
      rw [hrun] at hvisits
      exact ⟨order, h, rfl, hvisits⟩
  · rcases e.runLate_cases w state with ⟨fault, -, hlate⟩ | ⟨order, n, rest, -, -, hlate⟩
    · simp [hlate, Run.visits] at hvisits
    · simp [hlate, Run.visits] at hvisits

/-- A completed run is not one whose limit has passed at once. -/
lemma eq_run_of_completed {run : Run σ}
    (hrun : run = e.run w seeds state ∨ run = e.runLate w state)
    (hstatus : (run.report w seeds).status = .completed) : run = e.run w seeds state := by
  refine hrun.resolve_right ?_
  rintro rfl
  obtain ⟨order, h, hstarted, hending⟩ := Run.exists_of_completed hstatus
  rcases e.runLate_cases w state with ⟨fault, -, hlate⟩ | ⟨order', n, rest, -, -, hlate⟩
  · cases hlate.symm.trans hstarted
  · obtain ⟨-, rfl⟩ := Run.started.inj (hlate.symm.trans hstarted)
    cases hending

/-- The warnings tell of all silent wiring, each in its own words. When a node is started, there is
a warning about each edge into it that no node gives its value, and only about those, and one about
each handle at which an edge overwrites what an edge before it has carried; it names all edges into
the handle. There is one about each edge that leads nowhere. Without warnings every edge delivers
its value in a completed run, and none overwrites what another one carries. -/
theorem warnings_of_run (e : Engine σ) (w : Workflow) (seeds : Fields) (state : σ) {run : Run σ}
    (hrun : run = e.run w seeds state ∨ run = e.runLate w state) :
    let g := Graph.ofWorkflow w
    (∀ before v after, run.visits = before ++ v :: after →
      let outputs := Keyed.ofEntries (before.filterMap Visit.yield?)
      v.inputs = g.gather v.node.id outputs seeds ∧
        (∀ edge ∈ g.incoming v.node.id,
          edge.Unfed outputs seeds ↔ .fromInput edge ∈ w.warnings) ∧
        (∀ edge ∈ g.incoming v.node.id, edge.Unfed outputs seeds →
          "Edge " ++ edge.source ++ " -> " ++ edge.target ++ " reads from '" ++ edge.source ++
            "', which must be supplied as an input" ∈ w.lint) ∧
        (∀ edge, g.Overwrites v.node.id outputs seeds edge →
          let sources := (w.edges.filter fun e =>
            e.target = v.node.id ∧ e.targetHandle = edge.targetHandle).map Edge.source
          .overwritten v.node.id edge.targetHandle sources ∈ w.warnings ∧
            "Handle '" ++ edge.targetHandle ++ "' of node '" ++ v.node.id ++ "' is written by " ++
              toString sources.length ++ " edges (" ++ Text.joinWith ", " sources ++
                "); the last one wins" ∈ w.lint) ∧
        (w.lint = [] → ∀ edge, ¬ g.Overwrites v.node.id outputs seeds edge)) ∧
      (∀ edge ∈ w.edges, edge.target ∉ w.ids → .noTarget edge ∈ w.warnings ∧
        "Edge " ++ edge.source ++ " -> " ++ edge.target ++
          " targets a node that does not exist" ∈ w.lint) ∧
      (w.lint = [] → (run.report w seeds).status = .completed → ∀ edge ∈ w.edges,
        ∃ u ∈ run.visits, ∃ v ∈ run.visits, ∃ output,
          u.node.id = edge.source ∧ v.node.id = edge.target ∧ u.outcome = .ok output ∧
            Keyed.value? v.inputs edge.targetHandle = some (edge.pick output.data)) := by
  intro g
  refine ⟨?_, ?_, ?_⟩
  · intro before v after hvisits outputs
    obtain ⟨order, h, hstarted, hvisits⟩ := started_of_visits hrun hvisits
    have hinputs : v.inputs = g.gather v.node.id outputs seeds :=
      (walked_of_run hstarted).2.inputs_eq hvisits
    have hunfed : ∀ edge ∈ g.incoming v.node.id,
        edge.Unfed outputs seeds ↔ .fromInput edge ∈ w.warnings := by
      intro edge hedge
      obtain ⟨-, hmem, -⟩ := Graph.mem_incoming.mp hedge
      rw [Edge.unfed_iff, value?_source_eq_none_iff hstarted hvisits hedge,
        Workflow.fromInput_mem_warnings_iff]
      exact (and_iff_right hmem).symm
    refine ⟨hinputs, hunfed, fun edge hedge hfed =>
      Workflow.message_mem_lint ((hunfed edge hedge).mp hfed), fun edge hoverwrites => ?_,
      fun hlint edge hoverwrites => ?_⟩
    · have hwarning := Workflow.overwritten_mem_warnings_of_overwrites hoverwrites
      rw [Workflow.writers_eq] at hwarning
      exact ⟨hwarning, Workflow.message_mem_lint hwarning⟩
    · have hwarning := Workflow.overwritten_mem_warnings_of_overwrites hoverwrites
      simp [Workflow.lint_eq_nil_iff.mp hlint] at hwarning
  · intro edge hedge htarget
    have hwarning := Workflow.noTarget_mem_warnings_iff.mpr ⟨hedge, htarget⟩
    exact ⟨hwarning, Workflow.message_mem_lint hwarning⟩
  · intro hlint hstatus edge hedge
    obtain rfl := eq_run_of_completed hrun hstatus
    obtain ⟨order, h, hstarted, hending⟩ := Run.exists_of_completed hstatus
    rw [hstarted]
    exact delivers_of_warnings_eq_nil hstarted hending (Workflow.lint_eq_nil_iff.mp hlint) hedge

/-- A seed and a node as sources at one handle, a name that nobody supplies at another one, and an
edge that leads nowhere. Of the four edges only the one from the node gives no warning by itself. -/
theorem warnings_of_run_tangled :
    let echo : Handler ℕ := fun _ inputs calls => ⟨.ok (.ofData (.object inputs)), 3, calls + 1⟩
    let e : Engine ℕ := ⟨[("echo", ⟨"", echo⟩)], [],
      fun call calls => .pure (.error (.capabilityUnavailable call.capability)) calls, 10, true⟩
    let seed : Edge := ⟨"s", "b", "output", "x"⟩
    let gone : Edge := ⟨"gone", "b", "output", "y"⟩
    let again : Edge := ⟨"a", "b", "output", "x"⟩
    let astray : Edge := .between "b" "out"
    let nodes : List Node := [⟨"b", "echo", .null⟩, ⟨"a", "echo", .null⟩]
    let w : Workflow := ⟨none, none, nodes, [seed, gone, again, astray]⟩
    let plain : Workflow := ⟨none, none, nodes, [again]⟩
    let seeds : Fields := [("s", .bool true)]
    ("Edge s -> b reads from 's', which must be supplied as an input" ∈ w.lint ∧
      "Edge gone -> b reads from 'gone', which must be supplied as an input" ∈ w.lint ∧
      "Handle 'x' of node 'b' is written by 2 edges (s, a); the last one wins" ∈ w.lint ∧
      "Edge b -> out targets a node that does not exist" ∈ w.lint) ∧
      plain.lint = [] ∧ ((e.run plain seeds 0).report plain seeds).status = .completed ∧
      ∃ u ∈ (e.run plain seeds 0).visits, ∃ v ∈ (e.run plain seeds 0).visits, ∃ output,
        u.node.id = "a" ∧ v.node.id = "b" ∧ u.outcome = .ok output ∧
          Keyed.value? v.inputs "x" = some (again.pick output.data) := by
  intro echo e seed gone again astray nodes w plain seeds
  obtain ⟨a, b, hvisits, hnode, houtputs⟩ : ∃ a b, (e.run w seeds 0).visits = [a] ++ b :: [] ∧
      b.node.id = "b" ∧ Keyed.ofEntries ([a].filterMap Visit.yield?) = [("a", .object [])] :=
    ⟨_, _, rfl, rfl, rfl⟩
  have hincoming : (Graph.ofWorkflow w).incoming "b" = [seed, gone, again] := by decide
  obtain ⟨hstarted, hastray, -⟩ := warnings_of_run e w seeds 0 (.inl rfl)
  obtain ⟨-, -, hunfed, hoverwritten, -⟩ := hstarted [a] b [] hvisits
  rw [hnode, houtputs] at hunfed hoverwritten
  obtain ⟨-, -, hdelivers⟩ := warnings_of_run e plain seeds 0 (.inl rfl)
  have hlint : plain.lint = [] := by decide
  have hstatus : ((e.run plain seeds 0).report plain seeds).status = .completed := by decide
  refine ⟨⟨?_, ?_, ?_, ?_⟩, hlint, hstatus, hdelivers hlint hstatus again (by simp [plain])⟩
  · exact hunfed seed (by simp [hincoming]) (.inr ⟨rfl, rfl⟩)
  · exact hunfed gone (by simp [hincoming]) (.inl rfl)
  · have hsources : (w.edges.filter fun e => e.target = "b" ∧
        e.targetHandle = again.targetHandle).map Edge.source = ["s", "a"] := by decide
    obtain ⟨-, hwarning⟩ := hoverwritten again ⟨[seed, gone], [], hincoming, rfl, rfl⟩
    rw [hsources] at hwarning
    exact hwarning
  · exact (hastray astray (by simp [w]) (by decide)).2

end Engine

end Dataflow
