import Dataflow.Proofs.Expr.Scan

/-!
# Scanning what is put behind a text

`scanned` is the state in which the scan leaves a text: the quotation mark that is open and the
nesting of brackets. A text that leaves both as they are at the start is balanced (`Balanced`).

Putting a text behind another one leaves the cuts of the first as they are, up to what is at their
right (`Cut.extend`), and the scan goes on in the state in which it left the first text
(`continues`). That text must not end with a character behind which an operator can go on. If it is
balanced and its last character is in no operator, there are no other cuts
(`Balanced.cuts_append`).
-/

namespace Dataflow.Expr

variable {ops : List Operator} {level : Level} {op : Operator} {quote : Option Char} {depth : ℕ}
  {c q : Char} {before s t rest after : List Char} {cut : Cut}

/-! ## The state of the scan -/

/-- The quotation mark that is open and the nesting of brackets behind a text. -/
def scanned (quote : Option Char) (depth : ℕ) : List Char → Option Char × ℕ
  | [] => (quote, depth)
  | c :: rest =>
    match quote with
    | some q => scanned (if c == q then none else some q) depth rest
    | none =>
      if isQuote c then scanned (some c) depth rest else scanned none (nesting depth c) rest

/-- The quotation marks and brackets that are opened in the text are closed in it. -/
def Balanced (s : List Char) : Prop := scanned none 0 s = (none, 0)

instance (s : List Char) : Decidable (Balanced s) := by
  unfold Balanced
  infer_instance

lemma scanned_append (quote : Option Char) (depth : ℕ) (s t : List Char) :
    scanned quote depth (s ++ t) =
      scanned (scanned quote depth s).1 (scanned quote depth s).2 t := by
  fun_induction scanned quote depth s with
  | case1 => rfl
  | case2 depth c rest q ih => rw [List.cons_append, scanned, ih]
  | case3 depth c rest hquote ih => rw [List.cons_append, scanned, if_pos hquote, ih]
  | case4 depth c rest hquote ih => rw [List.cons_append, scanned, if_neg hquote, ih]

/-- Only quotation marks and brackets change the state. -/
lemma scanned_of_neutral (hs : ∀ c ∈ s, isQuote c = false ∧ c ≠ '[' ∧ c ≠ ']') :
    scanned none depth s = (none, depth) := by
  induction s with
  | nil => rfl
  | cons c s ih =>
    obtain ⟨⟨hquote, hopen, hclose⟩, hs⟩ := List.forall_mem_cons.mp hs
    have hdepth : nesting depth c = depth := by simp [nesting, hopen, hclose]
    rw [scanned, if_neg (by simp [hquote]), hdepth, ih hs]

lemma balanced_of_neutral (hs : ∀ c ∈ s, isQuote c = false ∧ c ≠ '[' ∧ c ≠ ']') : Balanced s :=
  scanned_of_neutral hs

lemma scanned_cons_of_not_quote (hquote : isQuote c = false) :
    scanned none depth (c :: s) = scanned none (nesting depth c) s := by
  rw [scanned, if_neg (by simp [hquote])]

/-- The scan goes on behind the mark that ends a quoted part. -/
lemma scanned_quote_open (hs : q ∉ s) (t : List Char) :
    scanned (some q) depth (s ++ q :: t) = scanned none depth t := by
  induction s with
  | nil => rw [List.nil_append, scanned, if_pos (beq_self_eq_true q)]
  | cons c s ih =>
    rw [List.mem_cons, not_or] at hs
    rw [List.cons_append, scanned, if_neg (by simpa using Ne.symm hs.1), ih hs.2]

/-- A quoted text closes its quotation mark. -/
lemma balanced_quoted (hq : isQuote q = true) (hs : q ∉ s) : Balanced (q :: (s ++ [q])) := by
  rw [Balanced, scanned, if_pos hq, scanned_quote_open hs, scanned]

namespace Balanced

/-- What is put behind a balanced text is scanned as if it stood alone. -/
lemma scanned_append (hs : Balanced s) (t : List Char) :
    scanned none 0 (s ++ t) = scanned none 0 t := by
  rw [Expr.scanned_append, hs]

lemma append (hs : Balanced s) (ht : Balanced t) : Balanced (s ++ t) :=
  (hs.scanned_append t).trans ht

lemma of_append (hs : Balanced s) (hst : Balanced (s ++ t)) : Balanced t :=
  (hs.scanned_append t).symm.trans hst

end Balanced

/-- An operator is read outside brackets. -/
lemma of_operatorAt (hop : operatorAt ops (c :: rest) = some (op, after))
    (hdepth : nesting depth c = 0) : depth = 0 ∧ scanned none depth (c :: rest) =
      scanned none 0 after := by
  obtain ⟨d, more, hsymbol⟩ := List.exists_cons_of_ne_nil op.symbol_ne_nil
  have htext := append_of_operatorAt hop
  have hneutral : ∀ a ∈ op.symbol, isQuote a = false ∧ a ≠ '[' ∧ a ≠ ']' := fun a ha =>
    not_quote_of_mem_symbol ha
  have hc : d = c := by
    rw [hsymbol, List.cons_append] at htext
    exact (List.cons.inj htext).1
  have hzero : depth = 0 := by
    obtain ⟨-, hopen, hclose⟩ := hneutral c (by rw [hsymbol, hc]; exact List.mem_cons_self)
    simpa [nesting, hopen, hclose] using hdepth
  refine ⟨hzero, ?_⟩
  rw [hzero, ← htext, Expr.scanned_append, scanned_of_neutral hneutral]

/-- Behind a cut the scan is at its start. -/
lemma scanned_right (h : cut ∈ cuts ops quote depth before s) :
    scanned none 0 cut.right = scanned quote depth s := by
  fun_induction cuts ops quote depth before s with
  | case1 => cases h
  | case2 depth before c rest q ih =>
    rw [scanned]
    simpa using ih (by simpa using h)
  | case3 depth before c rest hquote ih => rw [ih h, scanned, if_pos hquote]
  | case4 depth before c rest hquote hdepth op after hop hlt later hroom ih =>
    rw [(of_operatorAt hop hdepth).2]
    rcases List.mem_cons.mp h with rfl | h
    · rfl
    · exact ih h
  | case5 depth before c rest hquote hdepth op after hop hlt later hroom ih =>
    rw [(of_operatorAt hop hdepth).2]
    exact ih h
  | case6 depth before c rest hquote hdepth hop ih => rw [ih h, scanned, if_neg hquote, hdepth]
  | case7 depth before c rest hquote hdepth ih => rw [ih h, scanned, if_neg hquote]

/-! ## What is put behind a text -/

/-- The characters behind which an operator can go on. -/
def leadChars : List Char := ['|', '&', '=', '!', '>', '<']

lemma mem_leadChars_of_mem_dropLast (hc : c ∈ op.symbol.dropLast) : c ∈ leadChars := by
  have hlead : ∀ c ∈ op.symbol.dropLast, c ∈ leadChars := by
    cases op <;> simp [Operator.symbol, leadChars]
  exact hlead c hc

/-- A text that does not end within a word starts with it no matter what is put behind the text. -/
lemma dropStart?_append {start : List Char} (hs : s ≠ [])
    (hlast : ∀ a ∈ s.getLast?, a ∉ start.dropLast) (rest : List Char) :
    Text.dropStart? start (s ++ rest) = (Text.dropStart? start s).map (· ++ rest) := by
  induction start generalizing s with
  | nil => rfl
  | cons a start ih =>
    obtain ⟨c, s, rfl⟩ := List.exists_cons_of_ne_nil hs
    rw [List.cons_append, Text.dropStart?, Text.dropStart?]
    by_cases hac : (a == c) = true
    · rw [if_pos hac, if_pos hac]
      cases start with
      | nil => rfl
      | cons b start =>
        cases s with
        | nil => exact absurd List.mem_cons_self (beq_iff_eq.mp hac ▸ hlast c rfl)
        | cons d s =>
          refine ih (List.cons_ne_nil d s) fun e he hmem => hlast e ?_ (List.mem_cons_of_mem a hmem)
          rwa [List.getLast?_cons_cons]
    · rw [if_neg hac, if_neg hac]
      rfl

lemma operatorAt_append (hs : s ≠ []) (hlast : ∀ a ∈ s.getLast?, a ∉ leadChars)
    (ops : List Operator) (rest : List Char) :
    operatorAt ops (s ++ rest) = (operatorAt ops s).map fun (op, after) => (op, after ++ rest) := by
  have hstart (op : Operator) : (Text.dropStart? op.symbol (s ++ rest)).map (op, ·) =
      ((Text.dropStart? op.symbol s).map (op, ·)).map fun (op, after) => (op, after ++ rest) := by
    rw [dropStart?_append hs fun a ha hmem => hlast a ha (mem_leadChars_of_mem_dropLast hmem),
      Option.map_map, Option.map_map]
    rfl
  unfold operatorAt
  simp only [hstart]
  rw [List.map_findSome?]
  rfl

/-- A cut of a text with another text put behind it. -/
def Cut.extend (cut : Cut) (rest : List Char) : Cut := { cut with right := cut.right ++ rest }

lemma operator_mem_of_operatorAt (hop : operatorAt ops s = some (op, after)) : op ∈ ops := by
  obtain ⟨op', hmem, hop'⟩ := List.exists_of_findSome?_eq_some hop
  obtain ⟨after', -, heq⟩ := Option.map_eq_some_iff.mp hop'
  obtain ⟨rfl, -⟩ := Prod.mk.inj heq
  exact hmem

/-- The last character of what is put behind a text is the last one of the whole. -/
lemma forall_getLast?_of_append {P : Char → Prop} (h : ∀ a ∈ (s ++ t).getLast?, P a) :
    ∀ a ∈ t.getLast?, P a := by
  intro a ha
  apply h a
  rw [List.getLast?_append, Option.mem_def.mp ha]
  rfl

/-- Scanning a text that another one is put behind finds the cuts of the first, perhaps one more at
its end, and then those of the second. -/
def Continues (ops : List Operator) (quote : Option Char) (depth : ℕ)
    (before s rest : List Char) : Prop :=
  ∃ last, cuts ops quote depth before (s ++ rest) =
      (cuts ops quote depth before s).map (·.extend rest) ++ last ++
        cuts ops (scanned quote depth s).1 (scanned quote depth s).2 (s.reverse ++ before) rest ∧
    ((∀ op ∈ ops, ∀ a ∈ s.getLast?, a ∉ op.symbol) → last = [])

namespace Continues

/-- One character is passed over. -/
lemma cons {quote' : Option Char} {depth' : ℕ}
    (h : Continues ops quote' depth' (c :: before) s rest)
    (hpass : ∀ t ∈ [s, s ++ rest],
      cuts ops quote depth before (c :: t) = cuts ops quote' depth' (c :: before) t)
    (hscanned : scanned quote depth (c :: s) = scanned quote' depth' s) :
    Continues ops quote depth before (c :: s) rest := by
  obtain ⟨last, hcuts, hnone⟩ := h
  refine ⟨last, ?_, fun hend => hnone fun op hop =>
    forall_getLast?_of_append (s := [c]) (hend op hop)⟩
  have hreverse : (c :: s).reverse ++ before = s.reverse ++ c :: before := by simp
  rw [List.cons_append, hpass s (by simp), hpass (s ++ rest) (by simp), hcuts, hscanned, hreverse]

/-- An operator is passed over. Behind an operator at the end of a text there is no room, unless
there is some in what is put behind the text. -/
lemma operator (h : Continues ops none 0 (op.symbol.reverse ++ before) after rest)
    (hop : operatorAt ops (c :: s) = some (op, after)) (hdepth : nesting depth c = 0)
    (hlast : ∀ a ∈ (c :: s).getLast?, a ∉ leadChars) :
    Continues ops none depth before (c :: s) rest := by
  obtain ⟨hzero, hscanned⟩ := of_operatorAt hop hdepth
  have htext : op.symbol ++ after = c :: s := append_of_operatorAt hop
  have hop' : operatorAt ops (c :: s ++ rest) = some (op, after ++ rest) := by
    rw [operatorAt_append (List.cons_ne_nil c s) hlast, hop]
    rfl
  have hreverse : (c :: s).reverse ++ before =
      after.reverse ++ (op.symbol.reverse ++ before) := by
    rw [← htext, List.reverse_append, List.append_assoc]
  unfold Continues
  rw [cuts_of_operatorAt hop hzero, cuts_of_operatorAt hop' hzero, hscanned, hreverse]
  cases after with
  | nil =>
    refine ⟨if hasRoom op before rest then [⟨before.reverse, op, rest⟩] else [], ?_, fun hend => ?_⟩
    · have hroom : hasRoom op before [] = false := by cases before <;> rfl
      simp [hroom, cuts, scanned]
    · rw [List.append_nil] at htext
      obtain ⟨a, ha⟩ := Option.isSome_iff_exists.mp (List.getLast?_isSome.mpr op.symbol_ne_nil)
      exact absurd (List.mem_of_getLast? ha)
        (hend op (operator_mem_of_operatorAt hop) a (htext ▸ ha))
  | cons a after =>
    obtain ⟨last, hcuts, hnone⟩ := h
    refine ⟨last, ?_, fun hend => hnone fun op' hop' => ?_⟩
    · have hroom : hasRoom op before (a :: after ++ rest) = hasRoom op before (a :: after) := by
        cases before <;> rfl
      rw [hroom, hcuts]
      by_cases hroom' : hasRoom op before (a :: after) = true
      · simp [hroom', Cut.extend]
      · simp [hroom']
    · rw [← htext] at hend
      exact forall_getLast?_of_append (hend op' hop')

end Continues

/-- What is put behind a text does not change how it is scanned. -/
lemma continues (hlast : ∀ a ∈ s.getLast?, a ∉ leadChars) (rest : List Char) :
    Continues ops quote depth before s rest := by
  fun_induction cuts ops quote depth before s with
  | case1 => exact ⟨[], by simp [cuts, scanned], fun _ => rfl⟩
  | case2 depth before c s q ih =>
    refine (ih (forall_getLast?_of_append (s := [c]) hlast)).cons (fun t _ => ?_) ?_
    · rw [cuts]
      simp
    · rw [scanned]
      simp
  | case3 depth before c s hquote ih =>
    refine (ih (forall_getLast?_of_append (s := [c]) hlast)).cons (fun t _ => ?_) ?_
    · rw [cuts, if_pos hquote]
    · rw [scanned, if_pos hquote]
  | case4 depth before c s hquote hdepth op after hop hlt later hroom ih =>
    have htext := append_of_operatorAt hop
    exact (ih (forall_getLast?_of_append (htext ▸ hlast))).operator hop hdepth hlast
  | case5 depth before c s hquote hdepth op after hop hlt later hroom ih =>
    have htext := append_of_operatorAt hop
    exact (ih (forall_getLast?_of_append (htext ▸ hlast))).operator hop hdepth hlast
  | case6 depth before c s hquote hdepth hop ih =>
    refine (ih (forall_getLast?_of_append (s := [c]) hlast)).cons (fun t ht => ?_) ?_
    · have hnone : operatorAt ops (c :: t) = none := by
        simp only [List.mem_cons, List.not_mem_nil, or_false] at ht
        rcases ht with rfl | rfl
        · exact hop
        · rw [← List.cons_append, operatorAt_append (List.cons_ne_nil c s) hlast, hop]
          rfl
      rw [cuts, if_neg hquote, if_pos hdepth]
      split
      · rename_i hsome
        rw [hnone] at hsome
        cases hsome
      · rfl
    · rw [scanned, if_neg hquote, hdepth]
  | case7 depth before c s hquote hdepth ih =>
    refine (ih (forall_getLast?_of_append (s := [c]) hlast)).cons (fun t _ => ?_) ?_
    · rw [cuts, if_neg hquote, if_neg hdepth]
    · rw [scanned, if_neg hquote]

/-- The scan of a balanced text goes on with what is put behind it. -/
lemma Balanced.exists_cuts_append (hs : Balanced s) (hlast : ∀ a ∈ s.getLast?, a ∉ leadChars)
    (ops : List Operator) (before rest : List Char) : ∃ cs, cuts ops none 0 before (s ++ rest) =
      cs ++ cuts ops none 0 (s.reverse ++ before) rest := by
  obtain ⟨last, hcuts, -⟩ : Continues ops none 0 before s rest := continues hlast rest
  rw [hs] at hcuts
  exact ⟨_, hcuts⟩

/-- A balanced text keeps its cuts, and there is no other one up to its end, if its last character
is in no operator. -/
lemma Balanced.cuts_append (hs : Balanced s) (hlast : ∀ a ∈ s.getLast?, a ∉ leadChars)
    (hend : ∀ op ∈ ops, ∀ a ∈ s.getLast?, a ∉ op.symbol) (before rest : List Char) :
    cuts ops none 0 before (s ++ rest) =
      (cuts ops none 0 before s).map (·.extend rest) ++
        cuts ops none 0 (s.reverse ++ before) rest := by
  obtain ⟨last, hcuts, hnone⟩ : Continues ops none 0 before s rest := continues hlast rest
  rw [hcuts, hnone hend, hs, List.append_nil]

end Dataflow.Expr
