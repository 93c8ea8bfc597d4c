import Dataflow.Expr.Eval
import Dataflow.Proofs.Text.Trimming

/-!
# One step of evaluation

A literal stands for its value, a text that is cut for the value of its operator, and any other text
is looked up. Only the last of these depends on whether the text stands alone
(`eval_eq_of_not_lookUp`). Both sides of a cut are pieces of the text (`infix_of_split?`).
-/

namespace Dataflow.Expr

variable {context : Fields} {whole : Bool} {text s : List Char} {cut : Cut} {v : Json}

/-- A literal stands for its value. -/
lemma eval_of_literal (hs : Text.trim text = s) (hliteral : literal? s = some v) :
    eval context whole text = v := by
  subst hs
  rw [eval]
  simp only
  rw [hliteral]

/-- A text that is cut stands for the value of its operator. -/
lemma eval_of_split (hs : Text.trim text = s) (hliteral : literal? s = none)
    (hsplit : split? s = some cut) :
    eval context whole text =
      cut.op.apply (eval context false cut.left) (eval context false cut.right) := by
  subst hs
  rw [eval]
  simp only
  rw [hliteral]
  simp only
  split
  · rename_i cut' hcut
    rw [hsplit] at hcut
    obtain rfl := Option.some.inj hcut
    rfl
  · rename_i hnone
    rw [hsplit] at hnone
    cases hnone

/-- Any other text is looked up. -/
lemma eval_of_none (hs : Text.trim text = s) (hliteral : literal? s = none)
    (hsplit : split? s = none) : eval context whole text = lookUp context whole s := by
  subst hs
  rw [eval]
  simp only
  rw [hliteral]
  simp only
  split
  · rename_i cut hcut
    rw [hsplit] at hcut
    cases hcut
  · rfl

/-- Whether a text stands alone matters only if it is looked up and not found. -/
lemma eval_eq_of_not_lookUp (hs : Text.trim text = s)
    (h : literal? s = none → split? s = none → Fields.at? context s ≠ none) (whole' : Bool) :
    eval context whole text = eval context whole' text := by
  cases hliteral : literal? s with
  | some v => rw [eval_of_literal hs hliteral, eval_of_literal hs hliteral]
  | none =>
    cases hsplit : split? s with
    | some cut => rw [eval_of_split hs hliteral hsplit, eval_of_split hs hliteral hsplit]
    | none =>
      obtain ⟨v, hv⟩ := Option.ne_none_iff_exists'.mp (h hliteral hsplit)
      rw [eval_of_none hs hliteral hsplit, eval_of_none hs hliteral hsplit, lookUp, lookUp, hv]

/-- Blanks at the ends of an expression make no difference. -/
lemma eval_trim (context : Fields) (whole : Bool) (s : List Char) :
    eval context whole (Text.trim s) = eval context whole s := by
  have htwice := Text.trim_trim s
  cases hliteral : literal? (Text.trim s) with
  | some v => rw [eval_of_literal htwice hliteral, eval_of_literal rfl hliteral]
  | none =>
    cases hsplit : split? (Text.trim s) with
    | some cut => rw [eval_of_split htwice hliteral hsplit, eval_of_split rfl hliteral hsplit]
    | none => rw [eval_of_none htwice hliteral hsplit, eval_of_none rfl hliteral hsplit]

/-! ## The sides of a cut -/

/-- Trimming a side of a cut leaves a piece of it. -/
lemma infix_of_splitAt? {level : Level} (h : splitAt? level s = some cut) :
    cut.left <:+: s ∧ cut.right <:+: s := by
  obtain ⟨raw, hraw, htrim⟩ := Option.bind_eq_some_iff.mp h
  have happend := append_of_mem_cuts (Side.mem_of_pick hraw)
  rw [List.reverse_nil, List.nil_append] at happend
  unfold Cut.trim? at htrim
  simp only at htrim
  split at htrim
  · cases htrim
  · obtain rfl := Option.some.inj htrim
    subst happend
    constructor
    · rw [List.append_assoc]
      exact (Text.infix_trim raw.left).trans (List.prefix_append _ _).isInfix
    · exact (Text.infix_trim raw.right).trans (List.suffix_append _ _).isInfix

/-- Both sides of a cut are pieces of the text. -/
lemma infix_of_split? (h : split? s = some cut) : cut.left <:+: s ∧ cut.right <:+: s := by
  obtain ⟨level, -, hlevel⟩ := List.exists_of_findSome?_eq_some h
  exact infix_of_splitAt? hlevel

end Dataflow.Expr
