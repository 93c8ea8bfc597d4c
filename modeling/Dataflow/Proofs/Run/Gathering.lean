import Dataflow.Run.Gather
import Dataflow.Proofs.Keyed
import Dataflow.Proofs.Workflow.Edges

/-!
# What a node gathers

The edges into a node put their values in one after the other, so a node gathers the collection of
the entries that its edges carry (`Graph.gather_eq_ofEntries`). The value at a handle depends only
on the edges into this handle, and on their order among each other (`Graph.gather_congr_handles`).
It is that of the last of these edges whose source has a value (`Graph.gather_binds`): an edge
without one leaves the handle as the edges before it have left it.
-/

namespace Dataflow

/-- The handle that an edge enters and the value it carries there, if it carries one. -/
def Edge.entry? (outputs seeds : Fields) (e : Edge) : Option (String × Json) :=
  (e.source? outputs seeds).map fun v => (e.targetHandle, e.pick v)

/-- Edges put the entries that they carry in one after the other. -/
lemma Edge.foldl_deliver (outputs seeds : Fields) (edges : List Edge) (gathered : Fields) :
    edges.foldl (Edge.deliver outputs seeds) gathered =
      Keyed.putAll gathered (edges.filterMap (Edge.entry? outputs seeds)) := by
  induction edges generalizing gathered with
  | nil => rfl
  | cons edge edges ih =>
    rw [List.foldl_cons, ih, Edge.deliver]
    cases hsource : edge.source? outputs seeds with
    | none => rw [List.filterMap_cons_none (by rw [Edge.entry?, hsource]; rfl)]
    | some v =>
      have hentry : edge.entry? outputs seeds = some (edge.targetHandle, edge.pick v) := by
        rw [Edge.entry?, hsource]
        rfl
      rw [List.filterMap_cons_some hentry]
      rfl

/-- After some edges the handles have values at which one of them carried one. -/
lemma Edge.hasKey_foldl_deliver (outputs seeds : Fields) (edges : List Edge) (handle : String) :
    Keyed.hasKey (edges.foldl (Edge.deliver outputs seeds) []) handle ↔
      ∃ edge ∈ edges, (edge.source? outputs seeds).isSome ∧ edge.targetHandle = handle := by
  rw [Keyed.hasKey, Edge.foldl_deliver, Keyed.isSome_value?_putAll]
  simp [Edge.entry?, Option.isSome_iff_exists]

namespace Graph

variable {g g' : Graph} {id : String} {outputs seeds : Fields}

/-- A node gathers the entries of its edges, the later of two with one handle in place of the
earlier. -/
lemma gather_eq_ofEntries (g : Graph) (id : String) (outputs seeds : Fields) :
    g.gather id outputs seeds =
      Keyed.ofEntries ((g.incoming id).filterMap (Edge.entry? outputs seeds)) :=
  Edge.foldl_deliver outputs seeds (g.incoming id) []

/-- What a node gathers is a sorted collection. -/
lemma sorted_gather (g : Graph) (id : String) (outputs seeds : Fields) :
    Keyed.Sorted (g.gather id outputs seeds) := by
  rw [gather_eq_ofEntries]
  exact Keyed.sorted_ofEntries _

/-- The value at a handle is that of the last entry of the edges into it. -/
lemma value?_gather (g : Graph) (id : String) (outputs seeds : Fields) (handle : String) :
    Keyed.value? (g.gather id outputs seeds) handle =
      Keyed.value? (((g.incoming id).filter fun e => e.targetHandle == handle).filterMap
        (Edge.entry? outputs seeds)).reverse handle := by
  have hentries : ((g.incoming id).filter fun e => e.targetHandle == handle).filterMap
      (Edge.entry? outputs seeds) =
        ((g.incoming id).filterMap (Edge.entry? outputs seeds)).filter
          fun entry => entry.1 == handle := by
    rw [List.filterMap_filter, List.filter_filterMap]
    refine List.filterMap_congr fun edge _ => ?_
    rw [Edge.entry?]
    cases edge.source? outputs seeds with
    | none => simp
    | some v => simp [Option.filter]
  rw [hentries, gather_eq_ofEntries, Keyed.ofEntries, Keyed.value?_putAll, Keyed.value?_nil,
    Option.or_none, ← List.filter_reverse, Keyed.value?_filter _ (· == handle), beq_self_eq_true,
    if_pos rfl]

/-- A node gathers the same in two graphs if the edges into each of its handles are the same, in the
same order. -/
lemma gather_congr_handles
    (h : ∀ handle, ((g.incoming id).filter fun e => e.targetHandle == handle) =
      (g'.incoming id).filter fun e => e.targetHandle == handle) :
    g.gather id outputs seeds = g'.gather id outputs seeds := by
  refine (g.sorted_gather id outputs seeds).ext (g'.sorted_gather id outputs seeds) fun handle => ?_
  rw [value?_gather, value?_gather, h handle]

end Graph

/-! ## The edge that counts -/

/-- The last item of a list with a property. -/
def LastWith {α : Type} (p : α → Prop) (l : List α) (a : α) : Prop :=
  ∃ before after, l = before ++ a :: after ∧ p a ∧ ∀ later ∈ after, ¬ p later

section LastWith

variable {α : Type} {p : α → Prop} {l : List α} {a b : α}

/-- One more item is the last one with the property if it has the property, and changes nothing if
it does not. -/
lemma lastWith_snoc : LastWith p (l ++ [b]) a ↔ p b ∧ a = b ∨ ¬ p b ∧ LastWith p l a := by
  constructor
  · rintro ⟨before, after, heq, ha, hlater⟩
    rcases List.eq_nil_or_concat after with rfl | ⟨after, last, rfl⟩
    · obtain ⟨rfl, hab⟩ := List.append_inj' heq rfl
      obtain rfl : b = a := by simpa using hab
      exact Or.inl ⟨ha, rfl⟩
    · rw [List.concat_eq_append, ← List.cons_append, ← List.append_assoc] at heq
      obtain ⟨rfl, hlast⟩ := List.append_inj' heq rfl
      obtain rfl : b = last := by simpa using hlast
      exact Or.inr ⟨hlater b (by simp), before, after, rfl, ha, fun x hx => hlater x (by simp [hx])⟩
  · rintro (⟨hb, rfl⟩ | ⟨hb, before, after, rfl, ha, hlater⟩)
    · exact ⟨l, [], rfl, hb, by simp⟩
    · refine ⟨before, after ++ [b], by simp, ha, fun x hx => ?_⟩
      rcases List.mem_append.mp hx with hx | hx
      · exact hlater x hx
      · exact List.mem_singleton.mp hx ▸ hb

end LastWith

namespace Edge

variable {outputs seeds gathered : Fields} {id handle : String} {edge : Edge} {v x : Json}

/-- The value of the source of an edge is an output, or an input of the run if there is no output
of this name. -/
inductive Reads (outputs seeds : Fields) (edge : Edge) : Json → Prop
  | output {v : Json} (h : Keyed.value? outputs edge.source = some v) : Reads outputs seeds edge v
  | seed {v : Json} (hnone : Keyed.value? outputs edge.source = none)
      (h : Keyed.value? seeds edge.source = some v) : Reads outputs seeds edge v

/-- An edge takes the entry at its source handle from an object that has one, and the whole value
otherwise. -/
inductive Takes (edge : Edge) : Json → Json → Prop
  | entry {fields : Fields} {x : Json} (h : Keyed.value? fields edge.sourceHandle = some x) :
      Takes edge (.object fields) x
  | whole {v : Json}
      (h : ∀ fields, v = .object fields → Keyed.value? fields edge.sourceHandle = none) :
      Takes edge v v

/-- The edge enters the handle of the node, and its source has a value. -/
def Supplies (outputs seeds : Fields) (id handle : String) (edge : Edge) : Prop :=
  edge.target = id ∧ edge.targetHandle = handle ∧
    (Keyed.hasKey outputs edge.source ∨ Keyed.hasKey seeds edge.source)

lemma reads_iff : edge.Reads outputs seeds v ↔ edge.source? outputs seeds = some v := by
  rw [source?, Option.or_eq_some_iff]
  constructor
  · rintro (h | ⟨hnone, h⟩)
    · exact Or.inl h
    · exact Or.inr ⟨hnone, h⟩
  · rintro (h | ⟨hnone, h⟩)
    · exact .output h
    · exact .seed hnone h

lemma takes_iff : edge.Takes v x ↔ edge.pick v = x := by
  constructor
  · rintro (h | h)
    · rw [pick, h, Option.getD_some]
    · cases v with
      | object fields => rw [pick, h fields rfl, Option.getD_none]
      | _ => rfl
  · rintro rfl
    cases v with
    | object fields =>
      rw [pick]
      cases h : Keyed.value? fields edge.sourceHandle with
      | some x => exact .entry h
      | none =>
        refine .whole fun fields' heq => ?_
        obtain rfl := Json.object.inj heq
        exact h
    | _ => exact .whole fun fields heq => by cases heq

/-- The source of an edge that supplies a handle has a value. -/
lemma supplies_iff : edge.Supplies outputs seeds id handle ↔
    edge.target = id ∧ edge.targetHandle = handle ∧ (edge.source? outputs seeds).isSome := by
  rw [Supplies, source?, Option.isSome_or, Bool.or_eq_true, Keyed.hasKey, Keyed.hasKey]

/-- What one edge does to the value at a handle. -/
lemma value?_deliver (outputs seeds gathered : Fields) (edge : Edge) (handle : String) :
    Keyed.value? (edge.deliver outputs seeds gathered) handle =
      if edge.targetHandle = handle then
        ((edge.source? outputs seeds).map edge.pick).or (Keyed.value? gathered handle)
      else Keyed.value? gathered handle := by
  rw [deliver]
  cases edge.source? outputs seeds with
  | none => simp
  | some v =>
    simp only [Keyed.value?_put, Option.map_some, Option.some_or]
    exact if_congr eq_comm rfl rfl

/-- The value at a handle after a list of edges. By induction along the list, the last edge first:
it counts if it supplies the handle, and leaves the value otherwise. -/
lemma value?_foldl_deliver_iff (outputs seeds : Fields) (id handle : String) (edges : List Edge)
    (x : Json) :
    Keyed.value? ((edges.filter fun e => e.target == id).foldl (deliver outputs seeds) [])
        handle = some x ↔
      ∃ edge v, LastWith (Supplies outputs seeds id handle) edges edge ∧
        edge.source? outputs seeds = some v ∧ edge.pick v = x := by
  induction edges using List.reverseRecOn with
  | nil => simp [LastWith]
  | append_singleton edges last ih =>
    simp only [lastWith_snoc]
    by_cases hlast : last.Supplies outputs seeds id handle
    · obtain ⟨htarget, hhandle, hsource⟩ := supplies_iff.mp hlast
      obtain ⟨v, hv⟩ := Option.isSome_iff_exists.mp hsource
      rw [List.filter_append, List.filter_cons_of_pos (by simpa using htarget), List.filter_nil,
        List.foldl_append, List.foldl_cons, List.foldl_nil, value?_deliver, if_pos hhandle, hv,
        Option.map_some, Option.some_or]
      simp [hlast, hv]
    · simp only [hlast, false_and, false_or, not_false_eq_true, true_and]
      rw [← ih, List.filter_append, List.foldl_append]
      by_cases htarget : last.target = id
      · rw [List.filter_cons_of_pos (by simpa using htarget), List.filter_nil, List.foldl_cons,
          List.foldl_nil, value?_deliver]
        by_cases hhandle : last.targetHandle = handle
        · have hnone : last.source? outputs seeds = none := by
            rw [← Option.not_isSome_iff_eq_none]
            exact fun hsource => hlast (supplies_iff.mpr ⟨htarget, hhandle, hsource⟩)
          rw [if_pos hhandle, hnone, Option.map_none, Option.none_or]
        · rw [if_neg hhandle]
      · rw [List.filter_cons_of_neg (by simpa using htarget), List.filter_nil, List.foldl_nil]

end Edge

namespace Graph

variable {g : Graph} {id handle : String} {outputs seeds : Fields}

/-- The edges into a node, put in one after the other. -/
lemma gather_of_mem (hid : id ∈ g.ids) : g.gather id outputs seeds =
    (g.edges.filter fun e => e.target == id).foldl (Edge.deliver outputs seeds) [] := by
  rw [gather, incoming_of_mem hid]

/-- What is not a node gathers nothing. -/
lemma gather_of_not_mem (hid : id ∉ g.ids) : g.gather id outputs seeds = [] := by
  rw [gather, incoming_of_not_mem hid, List.foldl_nil]

/-- The value at a handle is that of the last edge that supplies the handle. -/
lemma value?_gather_iff {x : Json} : Keyed.value? (g.gather id outputs seeds) handle = some x ↔
    id ∈ g.ids ∧ ∃ edge v, LastWith (Edge.Supplies outputs seeds id handle) g.edges edge ∧
      edge.source? outputs seeds = some v ∧ edge.pick v = x := by
  by_cases hid : id ∈ g.ids
  · rw [gather_of_mem hid, Edge.value?_foldl_deliver_iff]
    simp only [hid, true_and]
  · simp [gather_of_not_mem hid, hid]

/-- A handle has a value if some edge supplies it. -/
lemma hasKey_gather_iff : Keyed.hasKey (g.gather id outputs seeds) handle ↔
    id ∈ g.ids ∧ ∃ edge ∈ g.edges, edge.Supplies outputs seeds id handle := by
  by_cases hid : id ∈ g.ids
  · rw [gather_of_mem hid, Edge.hasKey_foldl_deliver]
    simp only [Edge.supplies_iff, List.mem_filter, beq_iff_eq, hid, true_and]
    constructor
    · rintro ⟨edge, ⟨hedge, htarget⟩, hsource, hhandle⟩
      exact ⟨edge, hedge, htarget, hhandle, hsource⟩
    · rintro ⟨edge, hedge, htarget, hhandle, hsource⟩
      exact ⟨edge, ⟨hedge, htarget⟩, hsource, hhandle⟩
  · simp [gather_of_not_mem hid, hid, Keyed.hasKey]

/-- What is bound at the handles of a node. A handle is bound if and only if the source of some edge
into it has a value, and it is bound to what the last such edge takes from the value of its source.
-/
theorem gather_binds (g : Graph) (id : String) (outputs seeds : Fields) :
    Keyed.Sorted (g.gather id outputs seeds) ∧ ∀ handle,
      (Keyed.hasKey (g.gather id outputs seeds) handle ↔
        id ∈ g.ids ∧ ∃ edge ∈ g.edges, edge.Supplies outputs seeds id handle) ∧
      ∀ x, Keyed.value? (g.gather id outputs seeds) handle = some x ↔
        id ∈ g.ids ∧ ∃ edge v, LastWith (Edge.Supplies outputs seeds id handle) g.edges edge ∧
          edge.Reads outputs seeds v ∧ edge.Takes v x := by
  refine ⟨g.sorted_gather id outputs seeds, fun handle => ⟨hasKey_gather_iff, fun x => ?_⟩⟩
  simp only [Edge.reads_iff, Edge.takes_iff]
  exact value?_gather_iff

/-- A later edge whose source has no value leaves the handle as it is, and so does one into another
node. -/
example :
    let g : Graph := ⟨["a", "n"], [.between "a" "n", .between "x" "n", .between "seed" "a"]⟩
    g.gather "n" [("a", .bool true)] [("seed", .null)] = [("input", .bool true)] := by
  cbv

end Graph

end Dataflow
