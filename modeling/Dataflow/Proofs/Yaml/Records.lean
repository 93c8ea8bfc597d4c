import Dataflow.Proofs.Decode.Faults
import Dataflow.Proofs.Yaml.Quoting

/-!
# Records in a YAML document

The entries of a mapping and the items of a sequence are found through the aliases of the document
(`Document.Entry`, `Document.Item`). A record that is read off a node of a quiet document lacks a
required field, or one of its fields has a bad value, or the mismatch is silent
(`Document.of_read_error`).
-/

namespace Dataflow.Yaml

variable {d : Document} {n v : Node} {depth : ℕ} {key name expected : String} {m : Mismatch}
  {α : Type}

namespace Document

/-- The node that an alias of the document refers to; any other node is itself. -/
def meant (d : Document) (n : Node) : Node := follow d.root.anchored.reverse n

/-- The node means a mapping with a value under the key. -/
def Entry (d : Document) (n : Node) (key : String) (v : Node) : Prop :=
  ∃ props entries k, d.meant n = .mapping props entries ∧ (k, v) ∈ entries ∧
    ∃ props plain, d.meant k = .scalar props key plain

/-- The node means a sequence with an item. -/
def Item (d : Document) (n v : Node) : Prop :=
  ∃ props items, d.meant n = .sequence props items ∧ v ∈ items

/-- The node means a mapping; where nothing is written stands a mapping without entries. -/
def IsRecord (d : Document) (n : Node) : Prop :=
  (∃ props entries, d.meant n = .mapping props entries) ∨ (d.meant n).isVoid = true

/-- The node means a sequence; where nothing is written stands a sequence without items. -/
def IsList (d : Document) (n : Node) : Prop :=
  (∃ props items, d.meant n = .sequence props items) ∨ (d.meant n).isVoid = true

/-- The node means a mapping without the key. -/
def Lacks (d : Document) (n : Node) (key : String) : Prop :=
  d.IsRecord n ∧ ∀ v, ¬ d.Entry n key v

/-- A node of the document, which may nest a number of collections. -/
def subtree (d : Document) (depth : ℕ) (n : Node) : Subtree := d.toSubtree.part depth n

lemma meant_subtree (d : Document) (depth : ℕ) (n : Node) :
    (d.subtree depth n).meant = d.meant n := rfl

/-- The entries of a mapping that is written out. -/
lemma entry_mapping_iff {props : Properties} {entries : List (Node × Node)} :
    d.Entry (.mapping props entries) key v ↔
      ∃ k, (k, v) ∈ entries ∧ ∃ props plain, d.meant k = .scalar props key plain := by
  constructor
  · rintro ⟨_, _, k, ⟨⟩, hentry⟩
    exact ⟨k, hentry⟩
  · rintro ⟨k, hentry⟩
    exact ⟨props, entries, k, rfl, hentry⟩

/-! ### Quiet documents -/

lemma quiet_anchored (hd : d.root.Quiet) : ∀ entry ∈ d.root.anchored.reverse, entry.2.Quiet :=
  fun _ hentry => hd.of_mem_anchored (List.mem_reverse.mp hentry)

lemma quiet_meant (hd : d.root.Quiet) (hn : n.Quiet) : (d.meant n).Quiet :=
  hn.follow (quiet_anchored hd)

lemma Entry.quiet (h : d.Entry n key v) (hd : d.root.Quiet) (hn : n.Quiet) : v.Quiet := by
  obtain ⟨props, entries, k, hmapping, hentry, -⟩ := h
  have hquiet := quiet_meant hd hn
  rw [hmapping, Node.quiet_mapping_iff] at hquiet
  exact (hquiet (k, v) hentry).2

lemma Item.quiet (h : d.Item n v) (hd : d.root.Quiet) (hn : n.Quiet) : v.Quiet := by
  obtain ⟨props, items, hsequence, hitem⟩ := h
  have hquiet := quiet_meant hd hn
  rw [hsequence, Node.quiet_sequence_iff] at hquiet
  exact hquiet v hitem

/-! ### Reading texts and other values -/

lemma silent_of_skip {t : Subtree} (h : Readable.skip t = .error m) : m.Silent := by
  change (if t.node.isWhole then Except.ok () else Except.error brokenOff) = _ at h
  split at h
  · cases h
  · cases h
    exact silent_brokenOff

lemma silent_of_readText (hd : d.root.Quiet) (hn : n.Quiet) (hexpected : 'm' ∉ expected.toList)
    (h : (d.subtree depth n).readText expected = .error m) : m.Silent := by
  have hquiet := quiet_meant hd hn
  rw [Subtree.readText, meant_subtree] at h
  split at h
  · cases h
  · cases h
    exact hquiet.silent_mismatch hexpected

lemma of_readText {text : String} (h : (d.subtree depth n).readText expected = .ok text) :
    ∃ props plain, d.meant n = .scalar props text plain := by
  rw [Subtree.readText, meant_subtree] at h
  split at h
  · rename_i props text' plain hscalar
    cases h
    exact ⟨props, plain, hscalar⟩
  · cases h

lemma silent_of_readOption {read : Subtree → Decoded α} (hd : d.root.Quiet) (hn : n.Quiet)
    (hread : ∀ m, read (d.subtree depth n) = .error m → m.Silent)
    (h : (d.subtree depth n).readOption read = .error m) : m.Silent := by
  have hquiet := quiet_meant hd hn
  rw [Subtree.readOption, meant_subtree] at h
  split at h
  · rename_i hscalar
    rw [hscalar, Node.quiet_scalar_iff] at hquiet
    split_ifs at h
    · cases h
      exact Atom.Meant.silent hquiet (.unfit (by decide))
    · exact hread m (error_of_map h)
  · cases h
  · cases h
    exact silent_brokenOff
  · exact hread m (error_of_map h)

lemma silent_of_readAny (hd : d.root.Quiet) (hn : n.Quiet)
    (h : (d.subtree depth n).readAny = .error m) : m.Silent := by
  have hpath : Silent "".toList := .of_not_mem (by decide)
  exact (yields_toJson (quiet_anchored hd) depth hpath hn).silent (error_of_map h)

/-- The items of a list cannot be read if one of them cannot, or the mismatch is silent. -/
lemma of_readList_error {read : Subtree → Decoded α} (hd : d.root.Quiet) (hn : n.Quiet)
    (h : (d.subtree depth n).readList read = .error m) :
    m.Silent ∨ ∃ depth v, d.Item n v ∧ read (d.subtree depth v) = .error m := by
  have hquiet := quiet_meant hd hn
  rw [Subtree.readList, meant_subtree] at h
  split at h
  · cases h
    exact .inl silent_tooDeep
  · rename_i props items depth' hsequence hdepth
    obtain ⟨item, hitem, herror⟩ := exists_error_of_mapM h
    exact .inr ⟨depth', item, ⟨props, items, hsequence, hitem⟩, herror⟩
  · split at h
    · cases h
    · cases h
      exact .inl (hquiet.silent_mismatch (by decide))

/-- A list that can be read is a sequence of items that can be read, or nothing is written. -/
lemma of_readList {read : Subtree → Decoded α} {as : List α}
    (h : (d.subtree depth n).readList read = .ok as) :
    d.IsList n ∧ ∀ v, d.Item n v → ∃ depth a, read (d.subtree depth v) = .ok a := by
  rw [Subtree.readList, meant_subtree] at h
  split at h
  · cases h
  · rename_i props items depth' hsequence hdepth
    refine ⟨.inl ⟨props, items, hsequence⟩, ?_⟩
    rintro v ⟨props', items', hsequence', hv⟩
    obtain ⟨-, rfl⟩ := Node.sequence.inj (hsequence.symm.trans hsequence')
    obtain ⟨a, ha⟩ := exists_ok_of_mapM h hv
    exact ⟨depth', a, ha⟩
  · split at h
    · rename_i hvoid
      refine ⟨.inr hvoid, ?_⟩
      rintro v ⟨props, items, hsequence, -⟩
      rw [hsequence] at hvoid
      cases hvoid
    · cases h

/-! ### Reading records -/

/-- The node offers the members to a record: they are entries of the mapping that it means, all of
them unless there is a reason why they break off. -/
structure Offers (d : Document) (n : Node) (entries : List (String × Subtree))
    (stop : Option Mismatch) : Prop where
  isRecord : d.IsRecord n
  sound : ∀ entry ∈ entries, ∃ depth v, entry.2 = d.subtree depth v ∧ d.Entry n entry.1 v
  complete : stop = none → ∀ key v, d.Entry n key v → ∃ depth, (key, d.subtree depth v) ∈ entries
  silent : ∀ m, stop = some m → m.Silent

/-- The members of a mapping are its entries with the texts of their keys. -/
lemma of_named (hd : d.root.Quiet) (depth' : ℕ) {entries : List (Node × Node)}
    (hentries : ∀ entry ∈ entries, entry.1.Quiet) {members : List (String × Subtree)}
    {stop : Option Mismatch} (h : (d.subtree depth n).named depth' entries = (members, stop)) :
    (∀ member ∈ members, ∃ entry ∈ entries, member.2 = d.subtree depth' entry.2 ∧
      ∃ props plain, d.meant entry.1 = .scalar props member.1 plain) ∧
    (stop = none → ∀ entry ∈ entries, ∀ props key plain, d.meant entry.1 = .scalar props key plain →
      (key, d.subtree depth' entry.2) ∈ members) ∧
    ∀ m, stop = some m → m.Silent := by
  induction entries generalizing members with
  | nil =>
    cases h
    exact ⟨nofun, fun _ => nofun, nofun⟩
  | cons entry entries ih =>
    obtain ⟨k, v⟩ := entry
    obtain ⟨hk, hentries⟩ := List.forall_mem_cons.mp hentries
    rw [Subtree.named] at h
    split at h
    · rename_i m herror
      cases h
      refine ⟨nofun, nofun, ?_⟩
      rintro _ ⟨⟩
      exact silent_of_readText hd hk (by decide) herror
    · rename_i key hkey
      cases hrest : (d.subtree depth n).named depth' entries with
      | mk members' stop' =>
        rw [hrest] at h
        cases h
        obtain ⟨hsound, hcomplete, hsilent⟩ := ih hentries hrest
        obtain ⟨props, plain, hscalar⟩ := of_readText hkey
        refine ⟨List.forall_mem_cons.mpr ⟨?_, ?_⟩, fun hstop => List.forall_mem_cons.mpr ⟨?_, ?_⟩,
          hsilent⟩
        · exact ⟨(k, v), List.mem_cons_self, rfl, props, plain, hscalar⟩
        · intro member hmember
          obtain ⟨entry, hentry, hof⟩ := hsound member hmember
          exact ⟨entry, List.mem_cons_of_mem _ hentry, hof⟩
        · intro props' key' plain' hscalar'
          obtain ⟨-, rfl, -⟩ := Node.scalar.inj (hscalar.symm.trans hscalar')
          exact List.mem_cons_self
        · intro entry hentry props' key' plain' hscalar'
          exact List.mem_cons_of_mem _ (hcomplete hstop entry hentry props' key' plain' hscalar')

/-- What a node offers to a record, if it can be read as one, and why not otherwise. -/
lemma members_cases (hd : d.root.Quiet) (hn : n.Quiet) (depth : ℕ) (hname : 'm' ∉ name.toList) :
    (∃ m, (d.subtree depth n).members name = .error m ∧ m.Silent) ∨
      ∃ entries stop, (d.subtree depth n).members name = .ok (.named entries stop) ∧
        d.Offers n entries stop := by
  have hquiet := quiet_meant hd hn
  rw [Subtree.members, meant_subtree]
  split
  · exact .inl ⟨_, rfl, silent_tooDeep⟩
  · rename_i props entries depth' hmapping hdepth
    rw [hmapping, Node.quiet_mapping_iff] at hquiet
    cases hnamed : (d.subtree depth n).named depth' entries with
    | mk members stop =>
      obtain ⟨hsound, hcomplete, hsilent⟩ :=
        of_named hd depth' (fun entry hentry => (hquiet entry hentry).1) hnamed
      refine .inr ⟨members, stop, rfl, .inl ⟨props, entries, hmapping⟩, ?_, ?_, hsilent⟩
      · intro member hmember
        obtain ⟨⟨k, v⟩, hentry, hv, hscalar⟩ := hsound member hmember
        exact ⟨depth', v, hv, props, entries, k, hmapping, hentry, hscalar⟩
      · rintro hstop key v ⟨props', entries', k, hmapping', hentry, props'', plain, hscalar⟩
        obtain ⟨-, rfl⟩ := Node.mapping.inj (hmapping.symm.trans hmapping')
        exact ⟨depth', hcomplete hstop (k, v) hentry props'' key plain hscalar⟩
  · split
    · rename_i hvoid
      refine .inr ⟨[], none, rfl, .inr hvoid, nofun, ?_, nofun⟩
      rintro - key v ⟨props, entries, k, hmapping, -⟩
      rw [hmapping] at hvoid
      cases hvoid
    · refine .inl ⟨_, rfl, hquiet.silent_mismatch ?_⟩
      simpa using hname

section Record

variable {fields : List (FieldCheck Subtree)} {build : Record.Source Subtree → Decoded α}

/-- If a record cannot be read, it lacks a required field or one of its fields has a bad value, or
the mismatch is silent. -/
lemma of_read_error (required : List String) (hd : d.root.Quiet) (hn : n.Quiet)
    (hname : 'm' ∉ name.toList)
    (hfields : ∀ f ∈ fields, f.aliases = [] ∧ (Mismatch.duplicateField f.name).Silent)
    (hbuild : ∀ entries m, build ⟨name, fields, .named entries none⟩ = .error m →
      Record.Fault fields required entries none m)
    (h : Record.read name fields build (d.subtree depth n) = .error m) :
    m.Silent ∨
      (∃ f ∈ fields, ∃ depth v, d.Entry n f.name v ∧ f.check (d.subtree depth v) = .error m) ∨
        ∃ field ∈ required, m = .missingField field ∧ d.Lacks n field := by
  rcases error_of_bind h with herror | ⟨members, hok, h⟩
  · rcases members_cases hd hn depth hname with ⟨m', herror', hsilent⟩ | ⟨entries, stop, hok, -⟩
    · cases herror.symm.trans herror'
      exact .inl hsilent
    · cases herror.symm.trans hok
  · rcases members_cases hd hn depth hname with ⟨m', herror, -⟩ | ⟨entries, stop, hok', hoffers⟩
    · cases hok.symm.trans herror
    cases hok.symm.trans hok'
    cases Record.fault_of_decode (hbuild entries) h with
    | stopped hstop => exact .inl (hoffers.silent m hstop)
    | skipped hentry hskip => exact .inl (silent_of_skip hskip)
    | repeated hf => exact .inl (hfields _ hf).2
    | value hf hentry hanswers hcheck =>
      obtain ⟨depth', v, hv, hentry⟩ := hoffers.sound _ hentry
      rw [Record.answersTo_eq (hfields _ hf).1, beq_iff_eq] at hanswers
      rw [hv] at hcheck
      rw [← hanswers] at hentry
      exact .inr (.inl ⟨_, hf, depth', v, hentry, hcheck⟩)
    | missing hrequired hstop hnone =>
      refine .inr (.inr ⟨_, hrequired, rfl, hoffers.isRecord, fun v hentry => ?_⟩)
      obtain ⟨depth', hmember⟩ := hoffers.complete hstop _ v hentry
      exact hnone _ hmember rfl

/-- A record that can be read is a mapping, and the values of its fields can be read. -/
lemma of_read {a : α} (hd : d.root.Quiet) (hn : n.Quiet) (hname : 'm' ∉ name.toList)
    (h : Record.read name fields build (d.subtree depth n) = .ok a) :
    d.IsRecord n ∧ ∀ key v f, d.Entry n key v → fields.find? (·.answersTo key) = some f →
      ∃ depth, f.check (d.subtree depth v) = .ok () := by
  obtain ⟨members, hok, h⟩ := ok_of_bind h
  rcases members_cases hd hn depth hname with ⟨m', herror, -⟩ | ⟨entries, stop, hok', hoffers⟩
  · cases hok.symm.trans herror
  cases hok.symm.trans hok'
  obtain ⟨hstop, hpass⟩ := Record.of_decode h
  refine ⟨hoffers.isRecord, fun key v f hentry hfind => ?_⟩
  obtain ⟨depth', hmember⟩ := hoffers.complete hstop key v hentry
  exact ⟨depth', hpass _ hmember f hfind⟩

end Record

end Document

end Dataflow.Yaml
