import Dataflow.Proofs.Yaml.Records
import Dataflow.Workflow.Source

/-!
# Missing fields are reported where they are missing

The name of a missing field is taken from the words of a message, and a message quotes texts of the
document. So the report can be trusted if no text of the document holds the words that announce a
missing field (`Workflow.missing_field_reported`), and not otherwise
(`Workflow.missing_field_quoted`).
-/

namespace Dataflow

open Yaml

variable {d : Document} {n v : Yaml.Node} {depth : ℕ} {key : String} {m : Mismatch}

namespace Workflow

/-! ### What a workflow document holds -/

/-- The places in a workflow document where records stand. -/
inductive Place where
  | workflow
  | node
  | edge

namespace Place

/-- The fields that a record at the place must have. -/
def required : Place → List String
  | workflow => ["nodes"]
  | node => ["id", "type"]
  | edge => ["source", "target"]

/-- The fields of a record at the place whose values are texts. -/
def texts : Place → List String
  | workflow => ["name", "description"]
  | node => ["id", "type"]
  | edge => ["source", "target", "sourceHandle", "targetHandle"]

end Place

/-- The node stands at the place. -/
inductive Holds (d : Document) : Place → Yaml.Node → Prop
  | workflow : Holds d .workflow d.root
  | node {nodes n : Yaml.Node} (hnodes : d.Entry d.root "nodes" nodes) (hn : d.Item nodes n) :
    Holds d .node n
  | edge {edges n : Yaml.Node} (hedges : d.Entry d.root "edges" edges) (hn : d.Item edges n) :
    Holds d .edge n

/-- The forms of values that are asked for. -/
inductive Form where
  | record
  | list
  | text

/-- Whether a node has another form than the one that is asked for. -/
def Form.excludes : Form → Yaml.Node → Bool
  | .record, .sequence _ _ | .list, .mapping _ _ => true
  | .text, .sequence _ _ | .text, .mapping _ _ => true
  | .record, .scalar _ s plain | .list, .scalar _ s plain => !(plain && s.isEmpty)
  | _, _ => false

/-- The node has the form that is asked for. -/
def Fits (d : Document) (form : Form) (n : Yaml.Node) : Prop := form.excludes (d.meant n) = false

/-- A value of the given form is asked for where the node stands. -/
inductive Asks (d : Document) : Form → Yaml.Node → Prop
  | record {place : Place} {n : Yaml.Node} (hn : Holds d place n) : Asks d .record n
  | nodes {v : Yaml.Node} (hv : d.Entry d.root "nodes" v) : Asks d .list v
  | edges {v : Yaml.Node} (hv : d.Entry d.root "edges" v) : Asks d .list v
  | text {place : Place} {n v : Yaml.Node} {key : String} (hn : Holds d place n)
    (hkey : key ∈ place.texts) (hv : d.Entry n key v) : Asks d .text v

/-- The document holds a value of a wrong form. -/
def Mistyped (d : Document) : Prop := ∃ form n, Asks d form n ∧ ¬ Fits d form n

/-- No record of the document lacks a required field. -/
def Complete (d : Document) : Prop :=
  ∀ place n, Holds d place n → ∀ field ∈ place.required, ¬ d.Lacks n field

end Workflow

/-! ### Why records cannot be read -/

/-- An edge of a quiet document that cannot be read lacks a required field, or the mismatch is
silent. -/
lemma Edge.of_read_error (hd : d.root.Quiet) (hn : n.Quiet)
    (h : Edge.read (d.subtree depth n) = .error m) :
    m.Silent ∨
      ∃ field ∈ Workflow.Place.edge.required, m = .missingField field ∧ d.Lacks n field := by
  refine (Document.of_read_error Workflow.Place.edge.required hd hn (by decide) ?_
    (fun entries m h => ?_) h).elim .inl fun h => ?_
  · simp only [List.forall_mem_cons]
    exact ⟨⟨rfl, by decide⟩, ⟨rfl, by decide⟩, ⟨rfl, by decide⟩, ⟨rfl, by decide⟩,
      List.forall_mem_nil _⟩
  · refine Record.fault_of_bind (by simp) (by decide) h fun source h => ?_
    refine Record.fault_of_bind (by simp) (by decide) h fun target h => ?_
    refine Record.fault_of_bind (by simp) (by decide) h fun sourceHandle h => ?_
    exact Record.fault_of_bind (by simp) (by decide) h nofun
  · rcases h with ⟨f, hf, depth', v, hv, hcheck⟩ | h
    · have hread : Readable.readString (d.subtree depth' v) = .error m := by
        simp only [List.mem_cons, List.not_mem_nil, or_false] at hf
        rcases hf with rfl | rfl | rfl | rfl
        all_goals exact error_of_map hcheck
      exact .inl (Document.silent_of_readText hd (hv.quiet hd hn) (by decide) hread)
    · exact .inr h

/-- A node of a quiet document that cannot be read lacks a required field, or the mismatch is
silent. -/
lemma Node.of_read_error (hd : d.root.Quiet) (hn : n.Quiet)
    (h : Node.read (d.subtree depth n) = .error m) :
    m.Silent ∨
      ∃ field ∈ Workflow.Place.node.required, m = .missingField field ∧ d.Lacks n field := by
  refine (Document.of_read_error Workflow.Place.node.required hd hn (by decide) ?_
    (fun entries m h => ?_) h).elim .inl fun h => ?_
  · simp only [List.forall_mem_cons]
    exact ⟨⟨rfl, by decide⟩, ⟨rfl, by decide⟩, ⟨rfl, by decide⟩, List.forall_mem_nil _⟩
  · refine Record.fault_of_bind (by simp) (by decide) h fun id h => ?_
    refine Record.fault_of_bind (by simp) (by decide) h fun type h => ?_
    exact Record.fault_of_bind (by simp) (by simp [Node.configField, Field.withDefault]) h nofun
  · rcases h with ⟨f, hf, depth', v, hv, hcheck⟩ | h
    · have hquiet := hv.quiet hd hn
      simp only [List.mem_cons, List.not_mem_nil, or_false] at hf
      rcases hf with rfl | rfl | rfl
      · exact .inl (Document.silent_of_readText hd hquiet (by decide) (error_of_map hcheck))
      · exact .inl (Document.silent_of_readText hd hquiet (by decide) (error_of_map hcheck))
      · exact .inl (Document.silent_of_readAny hd hquiet (error_of_map hcheck))
    · exact .inr h

namespace Workflow

lemma Holds.quiet {place : Place} (h : Holds d place n) (hd : d.root.Quiet) : n.Quiet := by
  cases h with
  | workflow => exact hd
  | node hnodes hn => exact hn.quiet hd (hnodes.quiet hd hd)
  | edge hedges hn => exact hn.quiet hd (hedges.quiet hd hd)

/-- If a quiet document cannot be read as a workflow, one of its records lacks a required field, or
the mismatch is silent. -/
lemma of_read_error (hd : d.root.Quiet) (h : Workflow.read d.toSubtree = .error m) :
    m.Silent ∨ ∃ place n, Holds d place n ∧
      ∃ field ∈ place.required, m = .missingField field ∧ d.Lacks n field := by
  refine (Document.of_read_error Place.workflow.required hd hd (by decide) ?_
    (fun entries m h => ?_) h).elim .inl fun h => ?_
  · simp only [List.forall_mem_cons]
    exact ⟨⟨rfl, by decide⟩, ⟨rfl, by decide⟩, ⟨rfl, by decide⟩, ⟨rfl, by decide⟩,
      List.forall_mem_nil _⟩
  · refine Record.fault_of_bind (by simp) (by simp [nameField, Field.withDefault]) h
      fun name h => ?_
    refine Record.fault_of_bind (by simp) (by simp [descriptionField, Field.withDefault]) h
      fun description h => ?_
    refine Record.fault_of_bind (by simp) (by decide) h fun nodes h => ?_
    exact Record.fault_of_bind (by simp) (by simp [edgesField, Field.withDefault]) h nofun
  · rcases h with ⟨f, hf, depth', v, hv, hcheck⟩ | h
    · have hquiet := hv.quiet hd hd
      simp only [List.mem_cons, List.not_mem_nil, or_false] at hf
      rcases hf with rfl | rfl | rfl | rfl
      · exact .inl (Document.silent_of_readOption hd hquiet
          (fun m => Document.silent_of_readText hd hquiet (by decide)) (error_of_map hcheck))
      · exact .inl (Document.silent_of_readOption hd hquiet
          (fun m => Document.silent_of_readText hd hquiet (by decide)) (error_of_map hcheck))
      · rcases Document.of_readList_error hd hquiet (error_of_map hcheck) with
          h | ⟨depth'', n, hn, h⟩
        · exact .inl h
        · have hplace : Holds d .node n := .node hv hn
          exact (Node.of_read_error hd (hplace.quiet hd) h).imp_right fun h => ⟨.node, n, hplace, h⟩
      · rcases Document.of_readList_error hd hquiet (error_of_map hcheck) with
          h | ⟨depth'', n, hn, h⟩
        · exact .inl h
        · have hplace : Holds d .edge n := .edge hv hn
          exact (Edge.of_read_error hd (hplace.quiet hd) h).imp_right fun h => ⟨.edge, n, hplace, h⟩
    · exact .inr ⟨.workflow, d.root, .workflow, h⟩

end Workflow

/-! ### What is read has the right form -/

namespace Workflow

lemma fits_record (h : d.IsRecord n) : Fits d .record n := by
  unfold Fits
  rcases h with ⟨props, entries, hmapping⟩ | hvoid
  · rw [hmapping]
    rfl
  · cases hn : d.meant n <;> simp_all [Form.excludes, Node.isVoid]

lemma fits_list (h : d.IsList n) : Fits d .list n := by
  unfold Fits
  rcases h with ⟨props, items, hsequence⟩ | hvoid
  · rw [hsequence]
    rfl
  · cases hn : d.meant n <;> simp_all [Form.excludes, Node.isVoid]

lemma fits_text {expected text : String} (h : (d.subtree depth n).readText expected = .ok text) :
    Fits d .text n := by
  obtain ⟨props, plain, hscalar⟩ := Document.of_readText h
  rw [Fits, hscalar]
  rfl

lemma fits_option {text : Option String}
    (h : (d.subtree depth n).readOption Readable.readString = .ok text) : Fits d .text n := by
  rw [Subtree.readOption, Document.meant_subtree] at h
  split at h
  · rename_i hscalar
    rw [Fits, hscalar]
    rfl
  · rename_i habsent
    rw [Fits, habsent]
    rfl
  · cases h
  · obtain ⟨text, hread⟩ := ok_of_map h
    exact fits_text hread

end Workflow

lemma Edge.fits_of_read {e : Edge} (hd : d.root.Quiet) (hn : n.Quiet)
    (h : Edge.read (d.subtree depth n) = .ok e) : Workflow.Fits d .record n ∧
      ∀ key ∈ Workflow.Place.edge.texts, ∀ v, d.Entry n key v → Workflow.Fits d .text v := by
  obtain ⟨hrecord, hfields⟩ := Document.of_read hd hn (by decide) h
  refine ⟨Workflow.fits_record hrecord, ?_⟩
  simp only [Workflow.Place.texts, List.forall_mem_cons]
  refine ⟨fun v hv => ?_, fun v hv => ?_, fun v hv => ?_, fun v hv => ?_, List.forall_mem_nil _⟩
  all_goals
    obtain ⟨depth, hcheck⟩ := hfields _ v _ hv rfl
    obtain ⟨text, hread⟩ := ok_of_map hcheck
    exact Workflow.fits_text hread

lemma Node.fits_of_read {node : Node} (hd : d.root.Quiet) (hn : n.Quiet)
    (h : Node.read (d.subtree depth n) = .ok node) : Workflow.Fits d .record n ∧
      ∀ key ∈ Workflow.Place.node.texts, ∀ v, d.Entry n key v → Workflow.Fits d .text v := by
  obtain ⟨hrecord, hfields⟩ := Document.of_read hd hn (by decide) h
  refine ⟨Workflow.fits_record hrecord, ?_⟩
  simp only [Workflow.Place.texts, List.forall_mem_cons]
  refine ⟨fun v hv => ?_, fun v hv => ?_, List.forall_mem_nil _⟩
  all_goals
    obtain ⟨depth, hcheck⟩ := hfields _ v _ hv rfl
    obtain ⟨text, hread⟩ := ok_of_map hcheck
    exact Workflow.fits_text hread

namespace Workflow

/-- In a quiet document that is read as a workflow every value has the form that is asked for. -/
lemma fits_of_read {w : Workflow} (hd : d.root.Quiet) (h : Workflow.read d.toSubtree = .ok w)
    {form : Form} (hn : Asks d form n) : Fits d form n := by
  obtain ⟨hrecord, hfields⟩ := Document.of_read hd hd (by decide) h
  have htexts : ∀ key ∈ Place.workflow.texts, ∀ v, d.Entry d.root key v → Fits d .text v := by
    simp only [Place.texts, List.forall_mem_cons]
    refine ⟨fun v hv => ?_, fun v hv => ?_, List.forall_mem_nil _⟩
    all_goals
      obtain ⟨depth, hcheck⟩ := hfields _ v _ hv rfl
      obtain ⟨text, hread⟩ := ok_of_map hcheck
      exact fits_option hread
  have hnodes : ∀ v, d.Entry d.root "nodes" v → d.IsList v ∧ ∀ n, d.Item v n →
      ∃ depth node, Node.read (d.subtree depth n) = .ok node := by
    intro v hv
    obtain ⟨depth, hcheck⟩ := hfields _ v _ hv rfl
    obtain ⟨nodes, hread⟩ := ok_of_map hcheck
    exact Document.of_readList hread
  have hedges : ∀ v, d.Entry d.root "edges" v → d.IsList v ∧ ∀ n, d.Item v n →
      ∃ depth edge, Edge.read (d.subtree depth n) = .ok edge := by
    intro v hv
    obtain ⟨depth, hcheck⟩ := hfields _ v _ hv rfl
    obtain ⟨edges, hread⟩ := ok_of_map hcheck
    exact Document.of_readList hread
  have hplace : ∀ place n, Holds d place n → Fits d .record n ∧
      ∀ key ∈ place.texts, ∀ v, d.Entry n key v → Fits d .text v := by
    intro place n hn
    have hquiet := hn.quiet hd
    cases hn with
    | workflow => exact ⟨fits_record hrecord, htexts⟩
    | node hv hn =>
      obtain ⟨depth, node, hread⟩ := (hnodes _ hv).2 n hn
      exact Node.fits_of_read hd hquiet hread
    | edge hv hn =>
      obtain ⟨depth, edge, hread⟩ := (hedges _ hv).2 n hn
      exact Edge.fits_of_read hd hquiet hread
  cases hn with
  | record hn => exact (hplace _ n hn).1
  | nodes hv => exact fits_list (hnodes n hv).1
  | edges hv => exact fits_list (hedges n hv).1
  | text hn hkey hv => exact (hplace _ _ hn).2 _ hkey n hv

end Workflow

/-! ### The words of the message -/

/-- A silent message calls no field missing. -/
lemma missingFieldIn?_of_silent {message : String} (h : Silent message.toList) :
    missingFieldIn? message = none := by
  rw [missingFieldIn?, Text.cutAtText_eq_none h]
  rfl

/-- The message about a missing field calls this field missing. -/
lemma missingFieldIn?_missingField {field : String} (hfield : '\x60' ∉ field.toList) :
    missingFieldIn? (Mismatch.missingField field).message = some field := by
  have hmessage : (Mismatch.missingField field).message.toList =
      "missing field `".toList ++ (field.toList ++ '\x60' :: []) := by
    have hwords : (Mismatch.missingField field).message = "missing field `" ++ field ++ "`" := rfl
    rw [hwords, String.toList_append, String.toList_append, List.append_assoc]
    rfl
  have hcut : Text.cutAtText "missing field `".toList (Mismatch.missingField field).message.toList =
      some ([], field.toList ++ '\x60' :: []) := by
    rw [hmessage]
    exact Text.cutAtText_start (by decide) _
  rw [missingFieldIn?, hcut]
  change (Text.cutAt '\x60' (field.toList ++ '\x60' :: [])).bind _ = _
  rw [Text.cutAt_append hfield]
  exact congrArg some String.ofList_toList

namespace Workflow

lemma textError_of_silent (h : m.Silent) :
    textError m = .parse ("Invalid workflow definition: " ++ m.message) := by
  rw [textError, missingFieldIn?_of_silent h]

lemma textError_missingField {place : Place} {field : String} (hfield : field ∈ place.required) :
    textError (.missingField field) = .parse ("Missing required field: " ++ field) := by
  have hmark : '\x60' ∉ field.toList := by
    revert field
    cases place <;> decide
  rw [textError, missingFieldIn?_missingField hmark]

/-- A text that starts with another letter is not about a missing field. -/
lemma parse_ne_missing {c : Char} {s t : String} (hs : s.toList.head? = some c) (hc : c ≠ 'M') :
    Error.parse s ≠ .parse ("Missing required field: " ++ t) := by
  intro h
  have hhead : ("Missing required field: " ++ t).toList.head? = some 'M' := by
    rw [String.toList_append]
    rfl
  rw [← Error.parse.inj h, hs] at hhead
  exact hc (Option.some.inj hhead)

lemma parse_invalid_ne_missing (s t : String) :
    Error.parse ("Invalid workflow definition: " ++ s) ≠
      .parse ("Missing required field: " ++ t) := by
  refine parse_ne_missing (c := 'I') ?_ (by decide)
  rw [String.toList_append]
  rfl

/-- An answer is known from the text of its error. -/
lemma eq_error_parse {outcome : Except Error Workflow} {s : String}
    (h : (match outcome with
      | .error (.parse t) => t == s
      | _ => false) = true) : outcome = .error (.parse s) := by
  split at h
  · rw [beq_iff_eq.mp h]
  · cases h

/-! ### The main result -/

/-- If a document cannot be read as a workflow, one of its records lacks a required field, or the
mismatch is silent. -/
lemma of_ofDocument_error (hd : d.root.Quiet) (h : ofDocument d = .error m) :
    m.Silent ∨ ∃ place n, Holds d place n ∧
      ∃ field ∈ place.required, m = .missingField field ∧ d.Lacks n field := by
  rcases error_of_bind h with h | ⟨w, -, h⟩
  · exact of_read_error hd h
  · split at h
    · cases h
    · cases h
      exact .inl silent_brokenOff

/-- A text that is not blank is answered by an error if its document is no workflow. -/
lemma ofText_cases (text : String) :
    (Text.trim text.toList).isEmpty = true ∧
        ofText text = .error (.parse "Empty workflow definition") ∨
      (Text.trim text.toList).isEmpty = false ∧
        ((∃ w, ofText text = .ok w ∧ Workflow.read (Document.ofText text).toSubtree = .ok w) ∨
          ∃ m, ofText text = .error (textError m) ∧
            ofDocument (Document.ofText text) = .error m) := by
  rw [ofText]
  cases hblank : (Text.trim text.toList).isEmpty with
  | true => exact .inl ⟨rfl, rfl⟩
  | false =>
    refine .inr ⟨rfl, ?_⟩
    rw [if_neg Bool.false_ne_true]
    cases hdocument : ofDocument (Document.ofText text) with
    | error m => exact .inr ⟨m, rfl, rfl⟩
    | ok w =>
      obtain ⟨w', hread, hwhole⟩ := ok_of_bind hdocument
      refine .inl ⟨w, rfl, ?_⟩
      split at hwhole
      · exact hread.trans hwhole
      · cases hwhole

/-- Let no text of a document hold the words that announce a missing field. If the answer is that a
required field is missing, then a record of the document lacks this field. If no record lacks a
required field, every other answer than a workflow says that the definition is invalid, and a value
of a wrong form is answered so. -/
theorem missing_field_reported {text : String} (hquiet : (Document.ofText text).root.Quiet) :
    (∀ field, ofText text = .error (.parse ("Missing required field: " ++ field)) →
      ∃ place n, Holds (Document.ofText text) place n ∧ field ∈ place.required ∧
        (Document.ofText text).Lacks n field) ∧
    ((Text.trim text.toList).isEmpty = false → Complete (Document.ofText text) →
      (∀ error, ofText text = .error error →
        ∃ message, error = .parse ("Invalid workflow definition: " ++ message)) ∧
      (Mistyped (Document.ofText text) → ∃ error, ofText text = .error error)) := by
  rcases ofText_cases text with ⟨hblank, hempty⟩ | ⟨hblank, ⟨w, hok, hread⟩ | ⟨m, herror, hm⟩⟩
  · -- a blank text is answered before it is read
    refine ⟨fun field h => absurd (hempty.symm.trans h) fun heq => ?_, fun hnonblank => ?_⟩
    · exact parse_ne_missing (c := 'E') (by decide) (by decide) (Except.error.inj heq)
    · cases hblank.symm.trans hnonblank
  · refine ⟨fun field h => absurd (hok.symm.trans h) nofun, fun _ _ => ⟨fun error h => ?_, ?_⟩⟩
    · cases hok.symm.trans h
    · rintro ⟨form, n, hasks, hmisfit⟩
      exact absurd (fits_of_read hquiet hread hasks) hmisfit
  · rcases of_ofDocument_error hquiet hm with hsilent | ⟨place, n, hn, field, hfield, rfl, hlacks⟩
    · rw [textError_of_silent hsilent] at herror
      refine ⟨fun field h => absurd (herror.symm.trans h) fun heq => ?_,
        fun _ _ => ⟨fun error h => ⟨m.message, ?_⟩, fun _ => ⟨_, herror⟩⟩⟩
      · exact parse_invalid_ne_missing _ _ (Except.error.inj heq)
      · exact Except.error.inj (h.symm.trans herror)
    · rw [textError_missingField hfield] at herror
      refine ⟨fun field' h => ?_,
        fun _ hcomplete => absurd hlacks (hcomplete place n hn field hfield)⟩
      obtain rfl : field = field' :=
        (String.append_right_inj _).mp (Error.parse.inj (Except.error.inj (herror.symm.trans h)))
      exact ⟨place, n, hn, hfield, hlacks⟩

/-- A node without a type, and edges that are no list where nothing is missing. -/
theorem missing_field_reported_type :
    (∃ place n, Holds (Document.ofText "nodes:\n- id: a\n") place n ∧ "type" ∈ place.required ∧
      (Document.ofText "nodes:\n- id: a\n").Lacks n "type") ∧
    ∃ message, ofText "nodes: []\nedges: x\n" =
      .error (.parse ("Invalid workflow definition: " ++ message)) := by
  have hmissing : (Document.ofText "nodes:\n- id: a\n").root.Quiet := by
    unfold Node.Quiet
    decide +kernel
  have hmistyped : (Document.ofText "nodes: []\nedges: x\n").root.Quiet := by
    unfold Node.Quiet
    decide +kernel
  have hroot : (Document.ofText "nodes: []\nedges: x\n").root = .mapping ⟨none, none⟩
      [(.scalar ⟨none, none⟩ "nodes" true, .sequence ⟨none, none⟩ []),
        (.scalar ⟨none, none⟩ "edges" true, .scalar ⟨none, none⟩ "x" true)] := by
    cbv
  refine ⟨(missing_field_reported hmissing).1 "type" (eq_error_parse (by decide +kernel)), ?_⟩
  obtain ⟨-, hrefused⟩ := missing_field_reported hmistyped
  generalize Document.ofText "nodes: []\nedges: x\n" = d at hroot hrefused
  have hnodes : d.Entry d.root "nodes" (.sequence ⟨none, none⟩ []) := by
    rw [hroot, Document.entry_mapping_iff]
    exact ⟨_, List.mem_cons_self, ⟨none, none⟩, true, rfl⟩
  have hedges : d.Entry d.root "edges" (.scalar ⟨none, none⟩ "x" true) := by
    rw [hroot, Document.entry_mapping_iff]
    exact ⟨_, List.mem_cons_of_mem _ List.mem_cons_self, ⟨none, none⟩, true, rfl⟩
  have hitems {key : String} {v n : Yaml.Node} (hv : d.Entry d.root key v) : ¬ d.Item v n := by
    rw [hroot, Document.entry_mapping_iff] at hv
    obtain ⟨k, hk, -⟩ := hv
    simp only [List.mem_cons, Prod.mk.injEq, List.not_mem_nil, or_false] at hk
    rintro ⟨props, items, hsequence, hn⟩
    rcases hk with ⟨rfl, rfl⟩ | ⟨rfl, rfl⟩
    · cases hsequence
      cases hn
    · cases hsequence
  have hcomplete : Complete d := by
    intro place n hn field hfield hlacks
    cases hn with
    | workflow =>
      obtain rfl : field = "nodes" := by simpa [Place.required] using hfield
      exact hlacks.2 _ hnodes
    | node hv hn => exact hitems hv hn
    | edge hv hn => exact hitems hv hn
  have hmisfit : ¬ Fits d .list (.scalar ⟨none, none⟩ "x" true) := by
    change ¬ (!(true && "x".isEmpty)) = false
    decide
  obtain ⟨hinvalid, herror⟩ := hrefused (by decide +kernel) hcomplete
  obtain ⟨error, herror⟩ := herror ⟨.list, _, .edges hedges, hmisfit⟩
  obtain ⟨message, rfl⟩ := hinvalid error herror
  exact ⟨message, herror⟩

/-- Where the nodes should stand there is a text that holds the words, quoted in the message about
it, but no node at all. -/
theorem missing_field_quoted :
    ofText "nodes: \"missing field `id`\"" = .error (.parse ("Missing required field: " ++ "id")) ∧
      ¬ ∃ place n, Holds (Document.ofText "nodes: \"missing field `id`\"") place n ∧
        "id" ∈ place.required ∧ (Document.ofText "nodes: \"missing field `id`\"").Lacks n "id" := by
  have hroot : (Document.ofText "nodes: \"missing field `id`\"").root = .mapping ⟨none, none⟩
      [(.scalar ⟨none, none⟩ "nodes" true, .scalar ⟨none, none⟩ "missing field `id`" false)] := by
    cbv
  refine ⟨eq_error_parse (by decide +kernel), ?_⟩
  generalize Document.ofText "nodes: \"missing field `id`\"" = d at hroot
  rintro ⟨place, n, hn, hid, -⟩
  cases hn with
  | workflow => simp [Place.required] at hid
  | node hv hn =>
    rw [hroot, Document.entry_mapping_iff] at hv
    obtain ⟨k, hk, -⟩ := hv
    obtain ⟨rfl, rfl⟩ := Prod.mk.inj (List.mem_singleton.mp hk)
    obtain ⟨props, items, hsequence, -⟩ := hn
    cases hsequence
  | edge hv hn => simp [Place.required] at hid

end Workflow

end Dataflow
