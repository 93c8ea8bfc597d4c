import Dataflow.Expr.Eval
import Dataflow.Proofs.Decimal.Order
import Dataflow.Proofs.Json.Parts

/-!
# Comparisons agree with each other

Next to no truth value, the two equalities and the four orderings of the expression language look at
one place that two values have to each other (`placing`): that of their numbers if both are numbers
or numeric strings, else that of their texts. So exactly one of `<`, `==` and `>` holds, and `<=`
and `>=` hold as they are written. Strict equality is an equivalence among all values.
-/

namespace Dataflow.Expr

variable {a b c : Json}

/-- The comparison of the two values comes out true. -/
def Operator.Holds (op : Operator) (a b : Json) : Prop := op.apply a b = .bool true

/-- What a value is compared by is a number. -/
lemma isNaN_of_asNumber? {x : Float} (h : asNumber? a = some x) : x.isNaN = false := by
  unfold asNumber? at h
  split at h
  · rename_i n
    cases h
    cases n with
    | whole value fits => exact Decimal.isNaN_ofInt value
    | float value finite => exact Decimal.isNaN_of_isFinite finite
  · exact Decimal.isNaN_of_isFinite (Option.filter_eq_some_iff.mp h).2
  · cases h

/-! ### The place of two values to each other -/

/-- How two values compare: as numbers if both are, else as texts. -/
def placing (a b : Json) : Ordering :=
  match asNumber? a, asNumber? b with
  | some x, some y => Decimal.order x y
  | _, _ => compare (display a) (display b)

/-- Two values are compared as numbers or as texts. -/
lemma placing_cases (a b : Json) :
    (∃ x y, asNumber? a = some x ∧ asNumber? b = some y ∧ placing a b = Decimal.order x y) ∨
    ((asNumber? a = none ∨ asNumber? b = none) ∧
      placing a b = compare (display a) (display b)) := by
  unfold placing
  cases asNumber? a with
  | none => exact Or.inr ⟨Or.inl rfl, rfl⟩
  | some x =>
    cases asNumber? b with
    | none => exact Or.inr ⟨Or.inr rfl, rfl⟩
    | some y => exact Or.inl ⟨x, y, rfl, rfl, rfl⟩

lemma placing_swap (a b : Json) : placing b a = (placing a b).swap := by
  have htexts : compare (display b) (display a) = (compare (display a) (display b)).swap :=
    Std.OrientedCmp.eq_swap
  unfold placing
  cases asNumber? a <;> cases asNumber? b
  case some.some x y => exact Decimal.order_swap x y
  all_goals exact htexts

lemma precedes_iff_placing : precedes a b = true ↔ placing a b = .lt := by
  unfold precedes
  obtain ⟨x, y, hx, hy, hplacing⟩ | ⟨hnone, hplacing⟩ := placing_cases a b
  · rw [hplacing, hx, hy, ← Decimal.lt_iff_order (isNaN_of_asNumber? hx) (isNaN_of_asNumber? hy)]
    exact decide_eq_true_iff
  · rw [hplacing, compare_lt_iff_lt]
    split
    · simp_all
    · exact decide_eq_true_iff

lemma precedesOrTies_iff_placing : precedesOrTies a b = true ↔ placing a b ≠ .gt := by
  unfold precedesOrTies
  obtain ⟨x, y, hx, hy, hplacing⟩ | ⟨hnone, hplacing⟩ := placing_cases a b
  · rw [hplacing, hx, hy, ← Decimal.le_iff_order (isNaN_of_asNumber? hx) (isNaN_of_asNumber? hy)]
    exact decide_eq_true_iff
  · rw [hplacing, Ne, compare_gt_iff_gt]
    split
    · simp_all
    · simp

/-- Next to no truth value, equal values are those at one place; both `null` have the empty text. -/
lemma looselyEqual_iff_placing (ha : isBool a = false) (hb : isBool b = false) :
    looselyEqual a b = true ↔ placing a b = .eq := by
  unfold looselyEqual
  rw [ha, hb]
  split
  · rename_i hnull
    unfold bothNull at hnull
    split at hnull
    · exact iff_of_true rfl (compare_eq_iff_eq.mpr rfl)
    · cases hnull
  · rw [if_neg (by decide)]
    obtain ⟨x, y, hx, hy, hplacing⟩ | ⟨hnone, hplacing⟩ := placing_cases a b
    · rw [hplacing, hx, hy, ← Decimal.beq_iff_order (isNaN_of_asNumber? hx) (isNaN_of_asNumber? hy)]
    · rw [hplacing, compare_eq_iff_eq]
      split
      · simp_all
      · exact beq_iff_eq

/-! ### The equalities -/

lemma looselyEqual_comm (a b : Json) : looselyEqual a b = looselyEqual b a := by
  by_cases hbool : isBool a = false ∧ isBool b = false
  · apply Bool.eq_iff_iff.mpr
    rw [looselyEqual_iff_placing hbool.1 hbool.2, looselyEqual_iff_placing hbool.2 hbool.1,
      placing_swap a b]
    cases placing a b <;> decide
  · have hnull : bothNull a b = false ∧ bothNull b a = false := by
      cases a <;> cases b <;> simp_all [bothNull, isBool]
    have hside : (isBool a || isBool b) = true ∧ (isBool b || isBool a) = true := by
      cases ha : isBool a <;> cases hb : isBool b <;> simp_all
    unfold looselyEqual
    rw [hnull.1, hnull.2, hside.1, hside.2]
    exact Bool.beq_comm

lemma strictlyEqual_self (a : Json) : strictlyEqual a a = true := by
  cases a with
  | number n =>
    refine Decimal.beq_self ?_
    cases n with
    | whole value fits => exact Decimal.isNaN_ofInt value
    | float value finite => exact Decimal.isNaN_of_isFinite finite
  | _ => exact Json.same_self _

/-- Numbers are strictly equal to numbers, by the doubles they stand for. -/
lemma strictlyEqual_number_iff {m : Number} : strictlyEqual (.number m) b = true ↔
    ∃ n, b = .number n ∧ (m.toFloat == n.toFloat) = true := by
  constructor
  · intro h
    cases b with
    | number n => exact ⟨n, rfl, h⟩
    | _ => cases h
  · rintro ⟨n, rfl, h⟩
    exact h

/-- Numbers apart, strict equality is that of values. -/
lemma strictlyEqual_eq_same (ha : ∀ n, a ≠ .number n) : strictlyEqual a b = a.same b := by
  unfold strictlyEqual
  split
  · exact absurd rfl (ha _)
  · rfl

lemma ne_number_of_same (ha : ∀ n, a ≠ .number n) (h : a.same b = true) (n : Number) :
    b ≠ .number n := by
  rintro rfl
  cases a with
  | number m => exact ha m rfl
  | _ => cases h

lemma strictlyEqual_symm (h : strictlyEqual a b = true) : strictlyEqual b a = true := by
  by_cases ha : ∃ m, a = .number m
  · obtain ⟨m, rfl⟩ := ha
    obtain ⟨n, rfl, hmn⟩ := strictlyEqual_number_iff.mp h
    exact strictlyEqual_number_iff.mpr ⟨m, rfl, Decimal.beq_symm hmn⟩
  · rw [not_exists] at ha
    rw [strictlyEqual_eq_same ha] at h
    rw [strictlyEqual_eq_same (ne_number_of_same ha h)]
    exact Json.same_symm h

lemma strictlyEqual_trans (hab : strictlyEqual a b = true) (hbc : strictlyEqual b c = true) :
    strictlyEqual a c = true := by
  by_cases ha : ∃ m, a = .number m
  · obtain ⟨m, rfl⟩ := ha
    obtain ⟨n, rfl, hmn⟩ := strictlyEqual_number_iff.mp hab
    obtain ⟨k, rfl, hnk⟩ := strictlyEqual_number_iff.mp hbc
    exact strictlyEqual_number_iff.mpr ⟨k, rfl, Decimal.beq_trans hmn hnk⟩
  · rw [not_exists] at ha
    rw [strictlyEqual_eq_same ha] at hab ⊢
    rw [strictlyEqual_eq_same (ne_number_of_same ha hab)] at hbc
    exact Json.same_trans hab hbc

/-! ### Coherence -/

/-- A comparison holds if the test it stands for comes out true. -/
lemma holds_iff {op : Operator} {outcome : Bool} (hop : op.apply a b = .bool outcome) :
    op.Holds a b ↔ outcome = true := by
  rw [Operator.Holds, hop, Json.bool.injEq]

open Operator in
/-- Of two values that are no truth values exactly one of `<`, `==` and `>` holds, and `<=` and `>=`
are `<` or `==` and `>` or `==`. Among all values `>` is `<` turned round, `==` is symmetric, and
`===` is an equivalence. -/
theorem comparisons_cohere (a b c : Json) :
    (isBool a = false → isBool b = false →
      ((lt.Holds a b ∧ ¬ eq.Holds a b ∧ ¬ gt.Holds a b) ∨
        (¬ lt.Holds a b ∧ eq.Holds a b ∧ ¬ gt.Holds a b) ∨
        (¬ lt.Holds a b ∧ ¬ eq.Holds a b ∧ gt.Holds a b)) ∧
      (le.Holds a b ↔ lt.Holds a b ∨ eq.Holds a b) ∧
      (ge.Holds a b ↔ gt.Holds a b ∨ eq.Holds a b)) ∧
    (lt.Holds a b ↔ gt.Holds b a) ∧ (eq.Holds a b ↔ eq.Holds b a) ∧
    strictEq.Holds a a ∧ (strictEq.Holds a b ↔ strictEq.Holds b a) ∧
    (strictEq.Holds a b → strictEq.Holds b c → strictEq.Holds a c) := by
  have hlt (a b : Json) : lt.Holds a b ↔ precedes a b = true := holds_iff rfl
  have hgt (a b : Json) : gt.Holds a b ↔ precedes b a = true := holds_iff rfl
  have heq (a b : Json) : eq.Holds a b ↔ looselyEqual a b = true := holds_iff rfl
  have hstrict (a b : Json) : strictEq.Holds a b ↔ strictlyEqual a b = true := holds_iff rfl
  refine ⟨fun ha hb => ?_, ?_, ?_, ?_, ?_, ?_⟩
  · have hle : le.Holds a b ↔ precedesOrTies a b = true := holds_iff rfl
    have hge : ge.Holds a b ↔ precedesOrTies b a = true := holds_iff rfl
    rw [hlt, hgt, heq, hle, hge, precedes_iff_placing, precedes_iff_placing,
      precedesOrTies_iff_placing, precedesOrTies_iff_placing, looselyEqual_iff_placing ha hb,
      placing_swap a b]
    cases placing a b <;> decide
  · rw [hlt, hgt]
  · rw [heq, heq, looselyEqual_comm]
  · exact (hstrict a a).mpr (strictlyEqual_self a)
  · rw [hstrict, hstrict]
    exact ⟨strictlyEqual_symm, strictlyEqual_symm⟩
  · rw [hstrict, hstrict, hstrict]
    exact strictlyEqual_trans

open Operator in
/-- The integer `1` and the double `1.0` are not the same value, but no comparison tells them
apart. -/
theorem comparisons_cohere_one :
    let whole : Json := .number (.whole 1 (by decide))
    let double : Json := .number (.float 1.0 (by decide +kernel))
    (isBool whole = false ∧ isBool double = false ∧
      (le.Holds whole double ↔ lt.Holds whole double ∨ eq.Holds whole double)) ∧
    strictEq.Holds whole double ∧ strictEq.Holds double whole ∧ strictEq.Holds whole whole := by
  intro whole double
  have hone : strictEq.Holds whole double := (holds_iff rfl).mpr (by decide +kernel)
  have hback : strictEq.Holds double whole := (holds_iff rfl).mpr (by decide +kernel)
  have hcohere := comparisons_cohere whole double whole
  exact ⟨⟨rfl, rfl, (hcohere.1 rfl rfl).2.1⟩, hone, hback, hcohere.2.2.2.2.2 hone hback⟩

end Dataflow.Expr
