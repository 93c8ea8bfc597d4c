import Dataflow.Proofs.Expr.Tree

/-!
# The outermost cut

An operator of a level cuts nothing that binds more tightly than the level
(`Tree.Written.cuts_append`). So the outermost cut of a text that is written for a tree is at the
root of the tree (`Tree.Written.split?_node`), if the tree is nested the way its levels are cut
(`Tree.Nested`).
-/

namespace Dataflow.Expr

/-! ## Scanning a written tree -/

section Scanning

variable {level : Level} {op : Operator} {l r t : Tree} {s u before rest : List Char}

/-- The characters of an operator mean nothing at another level. -/
lemma idle_of_mem_symbol (hlevel : op.level ≠ level) {c : Char} (hc : c ∈ op.symbol) :
    Idle level c := by
  have hstarts : ∀ c ∈ op.symbol, level.starts c = false := by
    cases op <;> cases level <;>
      simp_all [Operator.level, Operator.symbol, Level.starts, Level.operators]
  obtain ⟨hquote, hopen, hclose⟩ := not_quote_of_mem_symbol hc
  exact ⟨hquote, hopen, hclose, hstarts c hc⟩

/-- Spaces mean nothing at any level. -/
lemma idle_of_mem_blanks {n : ℕ} {c : Char} (hc : c ∈ blanks n) : Idle level c :=
  idle_of_isBlank (isBlank_of_mem_blanks hc) level

/-- Nothing beside an operator binds more loosely than it. -/
lemma Level.Groups.le {left right : ℕ} (h : level.Groups left right) :
    level.rank ≤ left ∧ level.rank ≤ right := by
  cases level with
  | disjunction => exact h
  | conjunction => exact h
  | comparison => exact ⟨h.1.le, h.2⟩
  | additive => exact ⟨h.1, h.2.le⟩
  | multiplicative => exact ⟨h.1, h.2.le⟩

/-- Levels of one rank are the same. -/
lemma Level.rank_injective : Function.Injective Level.rank := by
  intro level level' h
  cases level <;> cases level' <;> simp_all [Level.rank]

/-- Operands bind more tightly than all operators. -/
lemma Level.rank_lt (level : Level) : level.rank < 5 := by
  cases level <;> decide

namespace Tree.Written

/-- The texts of trees are framed. -/
lemma framed (hs : t.Written s) : Framed s := by
  induction hs with
  | atom a => exact a.operandText.framed
  | @node op l r s u before after hl hr hblanks ihl ihr =>
    have h := ihl.append ihr (blanks before ++ op.symbol ++ blanks after)
    simpa only [List.append_assoc] using h

/-- What stands behind an operator does not start with an equals sign. -/
lemma head?_ne_equals (hs : t.Written s) (n : ℕ) (rest : List Char) :
    (blanks n ++ (s ++ rest)).head? ≠ some '=' := by
  obtain ⟨c, u, rfl, -, hc⟩ := hs.framed.first
  cases n with
  | zero => simpa [blanks] using hc
  | succ n => simp [blanks, List.replicate_succ]

/-- Levels that bind more loosely than the whole tree do not cut its text. -/
lemma cuts_append (hs : t.Written s) (ht : t.Grouped) (hrank : level.rank < t.rank) :
    cuts level.operators none 0 before (s ++ rest) =
      cuts level.operators none 0 (s.reverse ++ before) rest := by
  induction hs generalizing before rest with
  | atom a => exact a.operandText.cuts_append
  | @node op l r s u m n hl hr hblanks ihl ihr =>
    obtain ⟨htl, htr, hgroups⟩ := ht
    have hlevel : op.level ≠ level := by
      rintro rfl
      exact lt_irrefl _ hrank
    rw [Tree.rank] at hrank
    simp only [List.append_assoc]
    rw [ihl htl (hrank.trans_le hgroups.le.1), cuts_idle fun c hc => idle_of_mem_blanks hc,
      cuts_idle fun c hc => idle_of_mem_symbol hlevel hc,
      cuts_idle fun c hc => idle_of_mem_blanks hc, ihr htr (hrank.trans_le hgroups.le.2)]
    simp

/-- So there are no cuts at these levels. -/
lemma cuts_eq_nil (hs : t.Written s) (ht : t.Grouped) (hrank : level.rank < t.rank) :
    cuts level.operators none 0 before s = [] := by
  rw [← List.append_nil s, hs.cuts_append ht hrank, cuts]

/-- An operator between spaces in front of a text makes a cut if it has room. -/
lemma cuts_operator_blanks (hs : t.Written s) (op : Operator) (m n : ℕ)
    (before rest : List Char) :
    cuts op.level.operators none 0 before
        (blanks m ++ (op.symbol ++ (blanks n ++ (s ++ rest)))) =
      (if hasRoom op ((blanks m).reverse ++ before) (blanks n ++ (s ++ rest)) then
        [⟨before.reverse ++ blanks m, op, blanks n ++ (s ++ rest)⟩] else []) ++
      cuts op.level.operators none 0 ((blanks m ++ op.symbol ++ blanks n).reverse ++ before)
        (s ++ rest) := by
  rw [cuts_idle fun c hc => idle_of_mem_blanks hc,
    cuts_operator op _ fun _ => hs.head?_ne_equals n rest,
    cuts_idle fun c hc => idle_of_mem_blanks hc]
  simp

/-- The cuts of a text at the level of its outermost operator come before those of what follows
it. -/
lemma exists_cuts_append (hs : t.Written s) (ht : t.Grouped) (hrank : level.rank ≤ t.rank) :
    ∃ cs, cuts level.operators none 0 before (s ++ rest) =
      cs ++ cuts level.operators none 0 (s.reverse ++ before) rest := by
  induction hs generalizing before rest with
  | atom a => exact ⟨[], a.operandText.cuts_append⟩
  | @node op l r s u m n hl hr hblanks ihl ihr =>
    rcases hrank.lt_or_eq with hlt | heq
    · exact ⟨[], (Written.node m n hl hr hblanks).cuts_append ht hlt⟩
    obtain rfl := Level.rank_injective heq
    obtain ⟨htl, htr, hgroups⟩ := ht
    obtain ⟨csl, hcsl⟩ : ∃ cs, cuts op.level.operators none 0 before
        (s ++ (blanks m ++ (op.symbol ++ (blanks n ++ (u ++ rest))))) = cs ++ _ :=
      ihl htl hgroups.le.1
    obtain ⟨csr, hcsr⟩ : ∃ cs, cuts op.level.operators none 0
        ((blanks m ++ op.symbol ++ blanks n).reverse ++ (s.reverse ++ before)) (u ++ rest) =
          cs ++ _ := ihr htr hgroups.le.2
    obtain ⟨cut, hcut⟩ : ∃ cut, cuts op.level.operators none 0 (s.reverse ++ before)
        (blanks m ++ (op.symbol ++ (blanks n ++ (u ++ rest)))) = cut ++ _ :=
      ⟨_, hr.cuts_operator_blanks op m n _ rest⟩
    refine ⟨csl ++ (cut ++ csr), ?_⟩
    simp only [List.append_assoc]
    rw [hcsl, hcut, hcsr]
    simp only [List.append_assoc, List.reverse_append]

end Tree.Written

end Scanning

/-! ## The outermost cut -/

/-- A level without cuts does not cut a text. -/
lemma splitAt?_of_cuts_eq_nil {level : Level} {s : List Char}
    (hcuts : cuts level.operators none 0 [] s = []) : splitAt? level s = none := by
  rw [splitAt?, hcuts]
  cases level.outermost with
  | leftmost => rfl
  | rightmost => rfl

/-- A text is cut at a level if no level that binds more loosely cuts it. -/
lemma split?_of_splitAt? {level : Level} {s : List Char} {cut : Cut}
    (hlooser : ∀ level' : Level, level'.rank < level.rank → splitAt? level' s = none)
    (hcut : splitAt? level s = some cut) : split? s = some cut := by
  simp only [split?, Level.all, List.findSome?_cons]
  cases level with
  | disjunction => rw [hcut]
  | conjunction => rw [hlooser .disjunction (by decide), hcut]
  | comparison => rw [hlooser .disjunction (by decide), hlooser .conjunction (by decide), hcut]
  | additive =>
    rw [hlooser .disjunction (by decide), hlooser .conjunction (by decide),
      hlooser .comparison (by decide), hcut]
  | multiplicative =>
    rw [hlooser .disjunction (by decide), hlooser .conjunction (by decide),
      hlooser .comparison (by decide), hlooser .additive (by decide), hcut]

/-- What stands beside the operator at which a level is cut: when it is cut at the leftmost place,
operators of the level are to the right of it, and otherwise to the left. -/
def Level.Nests (level : Level) (left right : ℕ) : Prop :=
  match level.outermost with
  | .leftmost => level.rank < left ∧ level.rank ≤ right
  | .rightmost => level.rank ≤ left ∧ level.rank < right

/-- Trees whose outermost operator is the one at which their text is cut, all the way down. -/
def Tree.Nested : Tree → Prop
  | .atom _ => True
  | .node op l r => l.Nested ∧ r.Nested ∧ op.level.Nests l.rank r.rank

section Cutting

variable {level : Level} {op : Operator} {l r t : Tree} {s u : List Char}

lemma Level.Nests.groups {left right : ℕ} (h : level.Nests left right) :
    level.Groups left right := by
  cases level with
  | disjunction => exact ⟨h.1.le, h.2⟩
  | conjunction => exact ⟨h.1.le, h.2⟩
  | comparison => exact h
  | additive => exact h
  | multiplicative => exact h

/-- Nested trees are written without parentheses. -/
lemma Tree.Nested.grouped (ht : t.Nested) : t.Grouped := by
  induction t with
  | atom a => trivial
  | node op l r ihl ihr => exact ⟨ihl ht.1, ihr ht.2.1, ht.2.2.groups⟩

namespace Tree.Written

/-- Between two texts an operator has room; the minus sign has it because of the spaces. -/
lemma hasRoom_node (hl : l.Written s) (hr : r.Written u) {m n : ℕ}
    (hblanks : op = .sub → 0 < m ∧ 0 < n) :
    hasRoom op ((blanks m).reverse ++ s.reverse) (blanks n ++ u) = true := by
  by_cases hop : op = .sub
  · obtain ⟨hm, hn⟩ := hblanks hop
    obtain ⟨m, rfl⟩ := Nat.exists_eq_succ_of_ne_zero hm.ne'
    obtain ⟨n, rfl⟩ := Nat.exists_eq_succ_of_ne_zero hn.ne'
    have hbefore : (blanks (m + 1)).reverse = ' ' :: blanks m := List.reverse_replicate
    have hafter : blanks (n + 1) = ' ' :: blanks n := List.replicate_succ
    simp [hbefore, hafter, hasRoom, Text.isAsciiBlank]
  · have hneeds : op.needsBlanks = false := by simp [Operator.needsBlanks, hop]
    obtain ⟨b, before, hbefore⟩ := List.exists_cons_of_ne_nil
      (List.append_ne_nil_of_right_ne_nil (blanks m).reverse
        (List.reverse_ne_nil_iff.mpr hl.framed.ne_nil))
    obtain ⟨a, after, hafter⟩ := List.exists_cons_of_ne_nil
      (List.append_ne_nil_of_right_ne_nil (blanks n) hr.framed.ne_nil)
    rw [hbefore, hafter, hasRoom, hneeds]
    rfl

/-- The outermost cut of the text of a nested tree is at the operator at its root. -/
lemma splitAt?_node (hl : l.Written s) (hr : r.Written u) (htl : l.Nested) (htr : r.Nested)
    (hnests : op.level.Nests l.rank r.rank) {m n : ℕ} (hblanks : op = .sub → 0 < m ∧ 0 < n) :
    splitAt? op.level (s ++ blanks m ++ op.symbol ++ blanks n ++ u) = some ⟨s, op, u⟩ := by
  have htrim : Cut.trim? ⟨s ++ blanks m, op, blanks n ++ u⟩ = some ⟨s, op, u⟩ := by
    have hs : Text.trim (s ++ blanks m) = s := trim_blanks hl.framed 0 m
    have hu : Text.trim (blanks n ++ u) = u := by
      simpa [blanks] using trim_blanks hr.framed n 0
    simp [Cut.trim?, hs, hu, hl.framed.ne_nil, hr.framed.ne_nil]
  have hcuts := hr.cuts_operator_blanks op m n s.reverse []
  rw [List.append_nil, hl.hasRoom_node hr hblanks, if_pos rfl, List.reverse_reverse] at hcuts
  have htext : s ++ blanks m ++ op.symbol ++ blanks n ++ u =
      s ++ (blanks m ++ (op.symbol ++ (blanks n ++ u))) := by simp only [List.append_assoc]
  rw [splitAt?, htext]
  unfold Level.Nests at hnests
  cases hside : op.level.outermost with
  | leftmost =>
    -- nothing to the left of the operator is cut
    rw [hside] at hnests
    rw [hl.cuts_append htl.grouped hnests.1, List.append_nil, hcuts]
    exact htrim
  | rightmost =>
    -- nothing to the right of the operator is cut
    rw [hside] at hnests
    obtain ⟨cs, hcs⟩ : ∃ cs, cuts op.level.operators none 0 []
        (s ++ (blanks m ++ (op.symbol ++ (blanks n ++ u)))) = cs ++ _ :=
      hl.exists_cuts_append htl.grouped hnests.1
    rw [List.append_nil, hcuts, hr.cuts_eq_nil htr.grouped hnests.2, List.append_nil] at hcs
    rw [hcs, Side.pick, List.getLast?_concat]
    exact htrim

/-- The text of a nested tree is cut at the operator at its root. -/
lemma split?_node (hl : l.Written s) (hr : r.Written u) (htl : l.Nested) (htr : r.Nested)
    (hnests : op.level.Nests l.rank r.rank) {m n : ℕ} (hblanks : op = .sub → 0 < m ∧ 0 < n) :
    split? (s ++ blanks m ++ op.symbol ++ blanks n ++ u) = some ⟨s, op, u⟩ := by
  refine split?_of_splitAt? (fun level hlt => splitAt?_of_cuts_eq_nil ?_)
    (hl.splitAt?_node hr htl htr hnests hblanks)
  have hgrouped : (Tree.node op l r).Grouped := ⟨htl.grouped, htr.grouped, hnests.groups⟩
  exact (Written.node m n hl hr hblanks).cuts_eq_nil hgrouped hlt

end Tree.Written

end Cutting

end Dataflow.Expr
