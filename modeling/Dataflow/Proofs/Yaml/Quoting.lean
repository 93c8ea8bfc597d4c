import Dataflow.Proofs.Decode.Message
import Dataflow.Proofs.Results
import Dataflow.Yaml.Subtree

/-!
# What the messages about a YAML document quote

A message about a document quotes texts of its scalars, and only these: the scalar that was found in
place of something else, and the keys on the way to it. So where these texts announce no missing
field, neither does the message (`Node.Quiet.silent_mismatch`, `Subtree.silent_of_readAny`).
-/

namespace Dataflow.Yaml

/-! ### The texts of a document -/

namespace Node

mutual

/-- The texts of the scalars in a node, those of keys included. -/
def texts : Node → List String
  | .scalar _ text _ => [text]
  | .sequence _ items => textsOfItems items
  | .mapping _ entries => textsOfEntries entries
  | .alias _ => []
  | .absent => []
  | .broken => []

/-- `texts` for the items of a sequence. -/
def textsOfItems : List Node → List String
  | [] => []
  | n :: rest => texts n ++ textsOfItems rest

/-- `texts` for the entries of a mapping. -/
def textsOfEntries : List (Node × Node) → List String
  | [] => []
  | (k, v) :: rest => texts k ++ (texts v ++ textsOfEntries rest)

end

/-- No text of a node announces a missing field. -/
def Quiet (n : Node) : Prop := ∀ s ∈ n.texts, Silent s.toList

variable {n k v : Node} {props : Properties} {items : List Node} {entries : List (Node × Node)}

lemma textsOfItems_eq (items : List Node) : textsOfItems items = items.flatMap texts := by
  induction items with
  | nil => rfl
  | cons n items ih => rw [textsOfItems, ih, List.flatMap_cons]

lemma textsOfEntries_eq (entries : List (Node × Node)) :
    textsOfEntries entries = entries.flatMap fun entry => texts entry.1 ++ texts entry.2 := by
  induction entries with
  | nil => rfl
  | cons entry entries ih => rw [textsOfEntries, ih, List.flatMap_cons, List.append_assoc]

lemma quiet_sequence_iff : (sequence props items).Quiet ↔ ∀ n ∈ items, n.Quiet := by
  simp only [Quiet, texts, textsOfItems_eq, List.mem_flatMap]
  exact ⟨fun h n hn s hs => h s ⟨n, hn, hs⟩, fun h s ⟨n, hn, hs⟩ => h n hn s hs⟩

lemma quiet_mapping_iff :
    (mapping props entries).Quiet ↔ ∀ entry ∈ entries, entry.1.Quiet ∧ entry.2.Quiet := by
  simp only [Quiet, texts, textsOfEntries_eq, List.mem_flatMap, List.mem_append]
  constructor
  · exact fun h entry hentry => ⟨fun s hs => h s ⟨entry, hentry, .inl hs⟩,
      fun s hs => h s ⟨entry, hentry, .inr hs⟩⟩
  · rintro h s ⟨entry, hentry, hs | hs⟩
    · exact (h entry hentry).1 s hs
    · exact (h entry hentry).2 s hs

lemma quiet_scalar_iff {text : String} {plain : Bool} :
    (scalar props text plain).Quiet ↔ Silent text.toList := by
  simp [Quiet, texts]

/-- What holds of a sequence if it holds of its items, and of a mapping if it holds of its keys and
values, holds of every node if it holds of those that have no parts. -/
@[elab_as_elim]
theorem byParts {P : Node → Prop} (scalar : ∀ props text plain, P (.scalar props text plain))
    (sequence : ∀ props items, (∀ n ∈ items, P n) → P (.sequence props items))
    (mapping : ∀ props entries, (∀ entry ∈ entries, P entry.1 ∧ P entry.2) →
      P (.mapping props entries))
    (reference : ∀ anchor, P (.alias anchor)) (absent : P .absent) (broken : P .broken) (n : Node) :
    P n :=
  @Node.rec P (fun items => ∀ n ∈ items, P n)
    (fun entries => ∀ entry ∈ entries, P entry.1 ∧ P entry.2) (fun entry => P entry.1 ∧ P entry.2)
    scalar sequence mapping reference absent broken
    nofun (fun _ _ hn hitems => List.forall_mem_cons.mpr ⟨hn, hitems⟩)
    nofun (fun _ _ hentry hentries => List.forall_mem_cons.mpr ⟨hentry, hentries⟩)
    (fun _ _ hk hv => ⟨hk, hv⟩) n

lemma anchoredItems_eq (items : List Node) : anchoredItems items = items.flatMap anchored := by
  induction items with
  | nil => rfl
  | cons n items ih => rw [anchoredItems, ih, List.flatMap_cons]

lemma anchoredEntries_eq (entries : List (Node × Node)) :
    anchoredEntries entries =
      entries.flatMap fun entry => anchored entry.1 ++ anchored entry.2 := by
  induction entries with
  | nil => rfl
  | cons entry entries ih => rw [anchoredEntries, ih, List.flatMap_cons, List.append_assoc]

/-- The nodes with an anchor are parts of the document, so their texts are texts of it. -/
lemma Quiet.of_mem_anchored {entry : ℕ × Node} (hn : n.Quiet) (hentry : entry ∈ n.anchored) :
    entry.2.Quiet := by
  have hself {node : Node} {anchor : Option ℕ} (hnode : node.Quiet)
      (h : entry ∈ (anchor.map fun a => (a, node)).toList) : entry.2.Quiet := by
    obtain ⟨a, -, rfl⟩ : ∃ a, anchor = some a ∧ (a, node) = entry := by simpa using h
    exact hnode
  induction n using byParts with
  | scalar props text plain => exact hself hn hentry
  | sequence props items ih =>
    rw [anchored, anchoredItems_eq, List.mem_append, List.mem_flatMap] at hentry
    rcases hentry with h | ⟨item, hitem, h⟩
    · exact hself hn h
    · exact ih item hitem (quiet_sequence_iff.mp hn item hitem) h
  | mapping props entries ih =>
    rw [anchored, anchoredEntries_eq, List.mem_append, List.mem_flatMap] at hentry
    rcases hentry with h | ⟨member, hmember, h⟩
    · exact hself hn h
    · obtain ⟨hk, hv⟩ := quiet_mapping_iff.mp hn member hmember
      rcases List.mem_append.mp h with h | h
      · exact (ih member hmember).1 hk h
      · exact (ih member hmember).2 hv h
  | reference anchor => cases hentry
  | absent => cases hentry
  | broken => cases hentry

/-- The node that an alias refers to is quiet if the nodes with an anchor are. -/
lemma Quiet.follow {anchored : List (ℕ × Node)} (hanchored : ∀ entry ∈ anchored, entry.2.Quiet)
    (hn : n.Quiet) : (follow anchored n).Quiet := by
  cases n with
  | «alias» anchor =>
    rw [Yaml.follow]
    cases hnode : anchored.lookup anchor with
    | none => exact nofun
    | some node =>
      obtain ⟨before, after, rfl, -⟩ := List.lookup_eq_some_iff.mp hnode
      exact hanchored (anchor, node) (by simp)
  | _ => exact hn

end Node

/-! ### What a scalar means -/

/-- A plain scalar is no text but its own. -/
lemma Atom.of_ofPlain {text s : String} (h : Atom.ofPlain text = .text s) : s = text := by
  unfold Atom.ofPlain at h
  dsimp only at h
  split at h
  · cases h
  · split at h
    · cases h
    · split at h
      · cases h
      · split at h
        · exact (Atom.text.inj h).symm
        · split at h
          · cases h
          · exact (Atom.text.inj h).symm

/-- The outcomes of asking for the meaning of a scalar: it has one, or a tag of the document's own,
or it is not what its tag says. -/
inductive Atom.Meant (text : String) : Except Mismatch Atom → Prop
  | meaning {a : Atom} (ha : ∀ s, a = .text s → s = text) : Meant text (.ok a)
  | ownTag : Meant text (.error ownTagMismatch)
  | unfit {expected : String} (hexpected : 'm' ∉ expected.toList) :
    Meant text (.error (.invalidValue ("string " ++ Text.shown text) expected))

/-- What a tag expects of a scalar is what the scalar is read as, or it is unfit. -/
lemma Atom.Meant.of_expected {text expected : String} {atom : Option Atom} :
    (∀ s, atom ≠ some (.text s)) → 'm' ∉ expected.toList →
      Atom.Meant text (match atom with
        | some a => .ok a
        | none => .error (.invalidValue ("string " ++ Text.shown text) expected)) := by
  intro hatom hexpected
  cases atom with
  | none => exact .unfit hexpected
  | some a => exact .meaning fun s hs => absurd (congrArg some hs) (hatom s)

lemma Atom.meant_ofScalar (tag : Option String) (text : String) (plain : Bool) :
    Atom.Meant text (Atom.ofScalar tag text plain) := by
  unfold Atom.ofScalar
  cases tag with
  | none =>
    refine .meaning fun s hs => ?_
    cases plain with
    | true => exact of_ofPlain hs
    | false => exact (Atom.text.inj hs).symm
  | some tag =>
    dsimp only
    split_ifs
    · exact .ownTag
    -- the tags for truth values, integers and doubles
    iterate 3
      · refine .of_expected ?_ ?_
        · simp
        · decide
    -- the tag for null
    · exact .meaning nofun
    · exact .unfit (by decide)
    · exact .meaning fun s hs => (Atom.text.inj hs).symm

/-- How an atom is described quotes no text but its own. -/
lemma Atom.silent_described {a : Atom} (ha : ∀ s, a = .text s → Silent s.toList) :
    Silent a.described.toList := by
  cases a with
  | null => exact .of_not_mem (by decide)
  | bool b => cases b <;> exact .of_not_mem (by decide)
  | int n =>
    have hdescribed : (Atom.int n).described =
        "integer `" ++ String.ofList (Number.wholeText n) ++ "`" := rfl
    rw [hdescribed]
    refine .of_not_mem ?_
    simp [not_mem_wholeText]
  | float x =>
    have hdescribed : (Atom.float x).described =
        "floating point `" ++ positionalText x ++ "`" := rfl
    rw [hdescribed]
    refine .of_not_mem ?_
    simp [not_mem_positionalText]
  | text s =>
    have hdescribed : (Atom.text s).described = "string " ++ Text.shown s := rfl
    rw [hdescribed, String.toList_append]
    exact .append_left (by decide) (silent_shown (ha s rfl))

/-- The reason why a quiet scalar has no meaning is silent. -/
lemma Atom.Meant.silent {text : String} (htext : Silent text.toList) {m : Mismatch}
    (h : Atom.Meant text (.error m)) : m.Silent := by
  cases h with
  | ownTag => exact Mismatch.silent_invalidType (by decide) (by decide)
  | unfit hexpected =>
    refine Mismatch.silent_invalidValue ?_ hexpected
    rw [String.toList_append]
    exact .append_left (by decide) (silent_shown htext)

/-- The reason why a quiet scalar is no JSON value is silent. -/
lemma silent_of_scalar {tag : Option String} {text : String} {plain : Bool}
    (htext : Silent text.toList) {m : Mismatch}
    (h : Atom.ofScalar tag text plain >>= Atom.toJson = .error m) : m.Silent := by
  have hmeant := Atom.meant_ofScalar tag text plain
  rcases error_of_bind h with herror | ⟨a, -, herror⟩
  · rw [herror] at hmeant
    exact hmeant.silent htext
  · cases a with
    | int n =>
      rw [Atom.toJson] at herror
      split at herror
      · cases herror
      · cases herror
        exact Mismatch.silent_invalidType (Atom.silent_described nofun) (by decide)
    | _ => cases herror

lemma silent_brokenOff : brokenOff.Silent := by decide

lemma silent_tooDeep : tooDeep.Silent := by decide

lemma silent_tooManyAliases : tooManyAliases.Silent := by decide

/-- The mismatch between a quiet node and what is expected is silent. -/
lemma Node.Quiet.silent_mismatch {n : Node} (hn : n.Quiet) {expected : String}
    (hexpected : 'm' ∉ expected.toList) : (n.mismatch expected).Silent := by
  cases n with
  | scalar props text plain =>
    have htext := Node.quiet_scalar_iff.mp hn
    have hmeant := Atom.meant_ofScalar props.tag text plain
    rw [Node.mismatch]
    generalize Atom.ofScalar props.tag text plain = outcome at hmeant ⊢
    cases hmeant with
    | meaning ha =>
      exact Mismatch.silent_invalidType (Atom.silent_described fun s hs => ha s hs ▸ htext)
        hexpected
    | ownTag => exact Mismatch.silent_invalidType (by decide) hexpected
    | unfit hunfit => exact Atom.Meant.silent htext (.unfit hunfit)
  | sequence props items => exact Mismatch.silent_invalidType (by decide) hexpected
  | mapping props entries => exact Mismatch.silent_invalidType (by decide) hexpected
  | «alias» anchor => exact silent_brokenOff
  | absent => exact silent_brokenOff
  | broken => exact silent_brokenOff

/-! ### Reading any node -/

/-- The reading ends with a value of the given kind, or with a silent mismatch. -/
def Limited.Yields {α : Type} (x : Limited α) (P : α → Prop) : Prop :=
  ∀ left, match x.run left with
    | .ok (a, _) => P a
    | .error m => m.Silent

namespace Limited.Yields

variable {α β : Type} {x : Limited α} {P : α → Prop} {Q : β → Prop}

lemma pure {a : α} (ha : P a) : Yields (Pure.pure a) P := fun _ => ha

lemma throw {m : Mismatch} (hm : m.Silent) : Yields (MonadExcept.throw m) P := fun _ => hm

lemma silent (hx : x.Yields P) {left : ℕ} {m : Mismatch} (h : x.run left = .error m) :
    m.Silent := by
  have hleft := hx left
  rw [h] at hleft
  exact hleft

/-- What is read in two steps is of the kind that the second step gives. -/
lemma bind {f : α → Limited β} (hx : x.Yields P) (hf : ∀ a, P a → (f a).Yields Q) :
    (x >>= f).Yields Q := by
  intro left
  have hfirst := hx left
  rw [StateT.run_bind]
  cases hrun : x.run left with
  | error m =>
    rw [hrun] at hfirst
    exact hfirst
  | ok result =>
    rw [hrun] at hfirst
    exact hf result.1 hfirst result.2

/-- What is read item by item is a list, if each item can be read. -/
lemma mapM {items : List α} {f : α → Limited β} (hf : ∀ a ∈ items, (f a).Yields fun _ => True) :
    (items.mapM f).Yields fun _ => True := by
  induction items with
  | nil => exact pure trivial
  | cons a items ih =>
    obtain ⟨ha, hitems⟩ := List.forall_mem_cons.mp hf
    rw [List.mapM_cons]
    exact ha.bind fun _ _ => (ih hitems).bind fun _ _ => pure trivial

end Limited.Yields

section Reading

variable {anchored : List (ℕ × Node)} {node : Node} {path : String} {m : Mismatch}

/-- Following an alias leads to a quiet node. -/
lemma yields_followLimited (hanchored : ∀ entry ∈ anchored, entry.2.Quiet) (hnode : node.Quiet) :
    (followLimited anchored node).Yields Node.Quiet := by
  cases node with
  | «alias» anchor =>
    intro left
    cases left with
    | zero => exact silent_tooManyAliases
    | succ left => exact hnode.follow hanchored
  | _ => exact .pure hnode

lemma silent_locate (hpath : Silent path.toList) (hm : m.Silent) : (locate path m).Silent := by
  unfold locate
  split
  · exact hm
  · exact hm.located hpath

lemma silent_memberPath {key : String} (hpath : Silent path.toList) (hkey : Silent key.toList) :
    Silent (memberPath path key).toList := by
  unfold memberPath
  split
  · exact hkey
  · rw [String.toList_append, String.toList_append, List.append_assoc]
    exact hpath.append_cons (by decide) hkey

lemma silent_itemPath (hpath : Silent path.toList) (position : ℕ) :
    Silent (itemPath path position).toList := by
  have hposition : (toString position).toList = Decimal.digitsOf position := Nat.toList_repr
  have hopen : "[".toList = ['['] := by decide
  unfold itemPath
  rw [String.toList_append, String.toList_append, String.toList_append, List.append_assoc,
    List.append_assoc, hposition, hopen, List.singleton_append]
  refine hpath.append_cons (by decide) (.append_left (not_mem_digitsOf position) ?_)
  exact .of_not_mem (by decide)

/-- The text of a quiet key is silent. -/
lemma yields_keyText (hanchored : ∀ entry ∈ anchored, entry.2.Quiet) (hpath : Silent path.toList)
    (hnode : node.Quiet) : (keyText anchored path node).Yields fun key => Silent key.toList := by
  unfold keyText
  refine (yields_followLimited hanchored hnode).bind fun key hkey => ?_
  split
  · exact .pure (Node.quiet_scalar_iff.mp hkey)
  · exact .throw silent_brokenOff
  · exact .throw (silent_locate hpath (hkey.silent_mismatch (by decide)))

/-- A quiet node is read as a value, or there is a silent mismatch. -/
lemma yields_toJson (hanchored : ∀ entry ∈ anchored, entry.2.Quiet) (depth : ℕ)
    (hpath : Silent path.toList) (hnode : node.Quiet) :
    (toJson anchored depth path node).Yields fun _ => True := by
  have hownTag : ownTagMismatch.Silent := by decide
  induction depth using Nat.strong_induction_on generalizing path node with
  | _ depth ih =>
  unfold toJson
  refine (yields_followLimited hanchored hnode).bind fun node hnode => ?_
  cases node with
  | scalar props text plain =>
    dsimp only
    split
    · exact .pure trivial
    · rename_i m hm
      exact .throw (silent_locate hpath (silent_of_scalar (Node.quiet_scalar_iff.mp hnode) hm))
  | sequence props items =>
    rw [Node.quiet_sequence_iff] at hnode
    dsimp only
    split
    · exact (Limited.Yields.throw (P := fun _ => False) (silent_locate hpath hownTag)).bind nofun
    · cases depth with
      | zero => exact .throw silent_tooDeep
      | succ depth =>
        refine (Limited.Yields.mapM fun (item, i) hitem => ?_).bind fun _ _ => .pure trivial
        exact ih depth (Nat.lt_succ_self depth) (silent_itemPath hpath i)
          (hnode item (List.fst_mem_of_mem_zipIdx hitem))
  | mapping props entries =>
    rw [Node.quiet_mapping_iff] at hnode
    dsimp only
    split
    · exact (Limited.Yields.throw (P := fun _ => False) (silent_locate hpath hownTag)).bind nofun
    · cases depth with
      | zero => exact .throw silent_tooDeep
      | succ depth =>
        refine (Limited.Yields.mapM fun (k, v) hentry => ?_).bind fun _ _ => .pure trivial
        obtain ⟨hk, hv⟩ := hnode (k, v) hentry
        refine (yields_keyText hanchored hpath hk).bind fun key hkey => ?_
        refine (ih depth (Nat.lt_succ_self depth) (silent_memberPath hpath hkey) hv).bind
          fun _ _ => .pure trivial
  | «alias» anchor => exact .throw silent_brokenOff
  | absent => exact .pure trivial
  | broken => exact .throw silent_brokenOff

end Reading

end Dataflow.Yaml
