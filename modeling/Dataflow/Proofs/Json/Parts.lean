import Dataflow.Json.Basic
import Dataflow.Proofs.Decimal.Order

/-!
# Values and their parts

What holds of the parts of a value is carried over to the value: any property (`Json.byParts`), and
that the equality of values is an equivalence (`Json.same_self`, `Json.same_symm`,
`Json.same_trans`).
-/

namespace Dataflow.Json

/-- What holds of an array if it holds of its items, and of an object if it holds of the values of
its fields, holds of every value if it holds of those that have no parts. -/
@[elab_as_elim]
theorem byParts {P : Json → Prop} (null : P .null) (bool : ∀ b, P (.bool b))
    (number : ∀ n, P (.number n)) (string : ∀ s, P (.string s))
    (array : ∀ items : List Json, (∀ v ∈ items, P v) → P (.array items))
    (object : ∀ fields : List (String × Json), (∀ entry ∈ fields, P entry.2) → P (.object fields))
    (v : Json) : P v :=
  @Json.rec P (fun items => ∀ v ∈ items, P v) (fun fields => ∀ entry ∈ fields, P entry.2)
    (fun entry => P entry.2) null bool number string array object
    nofun (fun _ _ hv hitems => List.forall_mem_cons.mpr ⟨hv, hitems⟩)
    nofun (fun _ _ hentry hfields => List.forall_mem_cons.mpr ⟨hentry, hfields⟩)
    (fun _ _ hv => hv) v

end Dataflow.Json

/-! ### Equality -/

namespace Dataflow.Number

variable {m n k : Number}

lemma same_self (n : Number) : n.same n = true := by
  cases n with
  | whole value fits => exact beq_self_eq_true value
  | float value finite => exact Decimal.beq_self (Decimal.isNaN_of_isFinite finite)

lemma same_symm (h : m.same n = true) : n.same m = true := by
  cases m <;> cases n
  case whole.whole => exact beq_iff_eq.mpr (beq_iff_eq.mp h).symm
  case float.float => exact Decimal.beq_symm h
  all_goals cases h

lemma same_trans (hmn : m.same n = true) (hnk : n.same k = true) : m.same k = true := by
  cases m <;> cases n <;> try cases hmn
  case whole.whole => cases k with
    | whole => exact beq_iff_eq.mpr ((beq_iff_eq.mp hmn).trans (beq_iff_eq.mp hnk))
    | float => cases hnk
  case float.float => cases k with
    | whole => cases hnk
    | float => exact Decimal.beq_trans hmn hnk

end Dataflow.Number

namespace Dataflow.Json

open List (Forall₂)

lemma sameItems_iff {as bs : List Json} :
    sameItems as bs = true ↔ Forall₂ (fun a b => same a b = true) as bs := by
  induction as generalizing bs with
  | nil => cases bs <;> simp [sameItems]
  | cons a as ih => cases bs <;> simp [sameItems, ih]

lemma sameFields_iff {as bs : List (String × Json)} :
    sameFields as bs = true ↔ Forall₂ (fun a b => a.1 = b.1 ∧ same a.2 b.2 = true) as bs := by
  induction as generalizing bs with
  | nil => cases bs <;> simp [sameFields]
  | cons a as ih => cases bs <;> simp [sameFields, ih]

section Lists

variable {α : Type} {R : α → α → Prop} {as bs cs : List α}

lemma forall₂_symm (hsymm : ∀ a ∈ as, ∀ b, R a b → R b a) (h : Forall₂ R as bs) :
    Forall₂ R bs as := by
  induction h with
  | nil => exact .nil
  | cons hab _ ih =>
    rw [List.forall_mem_cons] at hsymm
    exact .cons (hsymm.1 _ hab) (ih hsymm.2)

lemma forall₂_trans (htrans : ∀ a ∈ as, ∀ b c, R a b → R b c → R a c) (hab : Forall₂ R as bs)
    (hbc : Forall₂ R bs cs) : Forall₂ R as cs := by
  induction hab generalizing cs with
  | nil => exact hbc
  | cons hab _ ih =>
    cases hbc with
    | cons hbc hrest =>
      rw [List.forall_mem_cons] at htrans
      exact .cons (htrans.1 _ _ hab hbc) (ih htrans.2 hrest)

end Lists

/-- A value equals itself: there is no number that is not finite. -/
theorem same_self (v : Json) : same v v = true := by
  induction v using byParts with
  | null => rfl
  | bool b => exact beq_self_eq_true b
  | number n => exact n.same_self
  | string s => exact beq_self_eq_true s
  | array items ih => exact sameItems_iff.mpr (List.forall₂_same.mpr ih)
  | object fields ih =>
    exact sameFields_iff.mpr (List.forall₂_same.mpr fun entry hentry => ⟨rfl, ih entry hentry⟩)

theorem same_symm {v w : Json} (h : same v w = true) : same w v = true := by
  induction v using byParts generalizing w with
  | null => cases w <;> first | rfl | cases h
  | bool b =>
    cases w with
    | bool c => exact beq_iff_eq.mpr (beq_iff_eq.mp h).symm
    | _ => cases h
  | number n =>
    cases w with
    | number m => exact Number.same_symm h
    | _ => cases h
  | string s =>
    cases w with
    | string t => exact beq_iff_eq.mpr (beq_iff_eq.mp h).symm
    | _ => cases h
  | array items ih =>
    cases w with
    | array items' =>
      exact sameItems_iff.mpr (forall₂_symm (fun a ha b => ih a ha) (sameItems_iff.mp h))
    | _ => cases h
  | object fields ih =>
    cases w with
    | object fields' =>
      have hentry : ∀ a ∈ fields, ∀ b : String × Json,
          (a.1 = b.1 ∧ same a.2 b.2 = true) → b.1 = a.1 ∧ same b.2 a.2 = true :=
        fun a ha b hab => ⟨hab.1.symm, ih a ha hab.2⟩
      exact sameFields_iff.mpr (forall₂_symm hentry (sameFields_iff.mp h))
    | _ => cases h

theorem same_trans {u v w : Json} (huv : same u v = true) (hvw : same v w = true) :
    same u w = true := by
  induction u using byParts generalizing v w with
  | null => cases v <;> first | exact hvw | cases huv
  | bool b =>
    cases v with
    | bool c => exact (beq_iff_eq.mp huv) ▸ hvw
    | _ => cases huv
  | number n =>
    cases v with
    | number m =>
      cases w with
      | number k => exact Number.same_trans huv hvw
      | _ => cases hvw
    | _ => cases huv
  | string s =>
    cases v with
    | string t => exact (beq_iff_eq.mp huv) ▸ hvw
    | _ => cases huv
  | array items ih =>
    cases v with
    | array items' =>
      cases w with
      | array items'' =>
        exact sameItems_iff.mpr (forall₂_trans (fun a ha b c => ih a ha)
          (sameItems_iff.mp huv) (sameItems_iff.mp hvw))
      | _ => cases hvw
    | _ => cases huv
  | object fields ih =>
    cases v with
    | object fields' =>
      cases w with
      | object fields'' =>
        have hentry : ∀ a ∈ fields, ∀ b c : String × Json, (a.1 = b.1 ∧ same a.2 b.2 = true) →
            (b.1 = c.1 ∧ same b.2 c.2 = true) → a.1 = c.1 ∧ same a.2 c.2 = true :=
          fun a ha b c hab hbc => ⟨hab.1.trans hbc.1, ih a ha hab.2 hbc.2⟩
        exact sameFields_iff.mpr
          (forall₂_trans hentry (sameFields_iff.mp huv) (sameFields_iff.mp hvw))
      | _ => cases hvw
    | _ => cases huv

end Dataflow.Json
