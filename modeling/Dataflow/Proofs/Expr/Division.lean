import Dataflow.Proofs.Expr.Offsets

/-!
# Division at an operator

A text without blanks at its ends is taken apart at every operator that the search over its bytes
finds (`splitBy?_divides`): there is something besides blanks on both sides of it, and nothing but
blanks is lost. The offsets at its two ends lie between characters, and nothing is open in front of
it.
-/

namespace Dataflow.Expr

variable {level : Level} {e : String} {cut : Cut} {s t : List Char}

/-- The outermost cut at a level, on the given side. -/
def Level.splitBy? (level : Level) (side : Side) (s : List Char) : Option Cut :=
  (side.pick (cuts level.operators none 0 [] s)).bind Cut.trim?

/-- The text is taken apart at the operator that starts at the given byte. -/
structure Cut.Divides (cut : Cut) (e : String) (start : ℕ) : Prop where
  /-- Blanks beside the operator are all that is lost. What begins in front of the operator, quoted
  parts and brackets, ends there. -/
  text : ∃ front back, e.toList = cut.left ++ front ++ cut.op.symbol ++ back ++ cut.right ∧
    (∀ c ∈ front, Text.isBlank c = true) ∧ (∀ c ∈ back, Text.isBlank c = true) ∧
    Complete (cut.left ++ front) ∧ (String.ofList (cut.left ++ front)).utf8ByteSize = start
  left_ne_nil : cut.left ≠ []
  right_ne_nil : cut.right ≠ []
  left_shorter : cut.left.length < e.toList.length
  right_shorter : cut.right.length < e.toList.length
  start_isValid : String.Pos.Raw.IsValid e ⟨start⟩
  stop_isValid : String.Pos.Raw.IsValid e ⟨start + cut.op.bytes.length⟩

/-- The size of a text is the number of its bytes. -/
lemma utf8ByteSize_ofList (s : List Char) : (String.ofList s).utf8ByteSize = (encode s).length := by
  have hbytes := toList_data_toByteArray (String.ofList s)
  rw [String.toList_ofList] at hbytes
  rw [← hbytes]
  rfl

/-- A text can be cut between characters. -/
lemma isValid_of_append (he : e.toList = s ++ t) :
    String.Pos.Raw.IsValid e ⟨(encode s).length⟩ := by
  rw [String.Pos.Raw.isValid_iff_exists_append]
  refine ⟨String.ofList s, String.ofList t, ?_, ?_⟩
  · rw [← String.ofList_append, ← he, String.ofList_toList]
  · rw [← utf8ByteSize_ofList]
    rfl

/-- A cut of a tight text leaves something on both sides when it is trimmed. -/
lemma divides_of_mem_cuts (he : Text.Tight e.toList)
    (hcut : cut ∈ cuts level.operators none 0 [] e.toList) :
    ∃ cut', cut.trim? = some cut' ∧ cut'.op = cut.op ∧ cut'.op ∈ level.operators ∧
      cut'.Divides e (encode cut.left).length := by
  have htext := append_of_mem_cuts hcut
  have hcomplete := balanced_iff_complete.mp (balanced_left hcut rfl)
  have hop := (of_mem_cuts hcut).1
  obtain ⟨l, back, front, r, hl, hr, hback, hfront, hleft, hright⟩ := tight_of_mem_cuts he hcut
  obtain ⟨left, op, right⟩ := cut
  subst hleft hright
  simp only [List.reverse_nil, List.nil_append] at htext
  refine ⟨⟨l, op, r⟩, trim?_of_tight hl hr hback hfront op, rfl, hop, ?_⟩
  have hlength := congrArg List.length htext
  have hsymbol := op.symbol_length_pos
  simp only [List.length_append] at hlength
  exact
    { text := ⟨back, front, by rw [← htext]; simp, hback, hfront, hcomplete, utf8ByteSize_ofList _⟩
      left_ne_nil := hl.ne_nil
      right_ne_nil := hr.ne_nil
      left_shorter := by simp only; omega
      right_shorter := by simp only; omega
      start_isValid := isValid_of_append (by rw [← htext, List.append_assoc])
      stop_isValid := by
        rw [Operator.bytes, ← List.length_append, ← encode_append]
        exact isValid_of_append htext.symm }

/-- A text without blanks at its ends is taken apart where the search over its bytes finds an
operator, at every level and on both sides, and it is left as it is where the search finds none. An
expression is taken apart on the side that its level says. -/
theorem splitBy?_divides (level : Level) (he : Text.trim e.toList = e.toList) :
    splitAt? level e.toList = level.splitBy? level.outermost e.toList ∧ ∀ side,
      (place? level.operators side e = none ∧ level.splitBy? side e.toList = none) ∨
        ∃ start cut, place? level.operators side e = some (start, cut.op) ∧
          level.splitBy? side e.toList = some cut ∧ cut.op ∈ level.operators ∧
          cut.Divides e start := by
  refine ⟨rfl, fun side => ?_⟩
  rw [place?_eq, Level.splitBy?]
  cases hpick : side.pick (cuts level.operators none 0 [] e.toList) with
  | none => exact .inl ⟨rfl, rfl⟩
  | some cut =>
    have hmem := Side.mem_of_pick hpick
    have htight : Text.Tight e.toList := by
      rw [← he]
      refine Text.tight_trim ?_
      rw [he]
      intro hnil
      rw [hnil, cuts] at hmem
      cases hmem
    obtain ⟨cut', htrim, hop, hlevel, hdivides⟩ := divides_of_mem_cuts htight hmem
    refine .inr ⟨_, cut', ?_, htrim, hlevel, hdivides⟩
    rw [hop]
    rfl

/-- The last plus sign outside quotation marks and brackets starts at the tenth byte. -/
theorem splitBy?_divides_two_bytes :
    let e := "é + '+' + [ü + 1]"
    Text.trim e.toList = e.toList ∧ place? Level.additive.operators .rightmost e = some (9, .add) ∧
      ∃ cut, splitAt? .additive e.toList = some cut ∧ cut.op = .add ∧ cut.Divides e 9 := by
  intro e
  have he : Text.trim e.toList = e.toList := by cbv
  have hplace : place? Level.additive.operators .rightmost e = some (9, .add) := by cbv
  refine ⟨he, hplace, ?_⟩
  obtain ⟨hsplit, hdivides⟩ := splitBy?_divides .additive he
  rcases hdivides .rightmost with ⟨hnone, -⟩ | ⟨start, cut, hstart, hcut, -, hdivides⟩
  · rw [hplace] at hnone
    cases hnone
  · rw [hplace] at hstart
    obtain ⟨rfl, hop⟩ := Prod.mk.inj (Option.some.inj hstart)
    exact ⟨cut, hsplit.trans hcut, hop.symm, hdivides⟩

end Dataflow.Expr
