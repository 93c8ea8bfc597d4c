import Dataflow.Proofs.Expr.Balance

/-!
# Quoted parts and brackets

The scan keeps no more than the quotation mark that is open and the depth of the brackets. The texts
that it finds balanced are told here without it (`balanced_iff_complete`): every quoted part ends at
the next mark that is equal to its first one, and every bracket at its partner, with a text between
them in which the same holds (`Matched`); closing brackets that close nothing may stand beside
brackets (`Complete`).
-/

namespace Dataflow.Expr

/-- Texts in which every quoted part ends and every bracket has a partner. -/
inductive Matched : List Char → Prop
  | nil : Matched []
  | plain {c : Char} {s : List Char} (hquote : isQuote c = false) (hopen : c ≠ '[')
      (hclose : c ≠ ']') (hs : Matched s) : Matched (c :: s)
  | quoted {q : Char} {inner s : List Char} (hq : isQuote q = true) (hinner : q ∉ inner)
      (hs : Matched s) : Matched (q :: (inner ++ q :: s))
  | bracketed {inner s : List Char} (hinner : Matched inner) (hs : Matched s) :
      Matched ('[' :: (inner ++ ']' :: s))

/-- Texts in which every quoted part and every bracket that begins ends, too: matched texts, with
closing brackets between them that close nothing. -/
inductive Complete : List Char → Prop
  | matched {s : List Char} (hs : Matched s) : Complete s
  | stray {s t : List Char} (hs : Matched s) (ht : Complete t) : Complete (s ++ ']' :: t)

variable {depth : ℕ} {c q : Char} {s t inner : List Char}

/-! ## Scanning a complete text -/

/-- A matched text does not change the state of the scan. -/
lemma Matched.scanned_eq (hs : Matched s) (depth : ℕ) : scanned none depth s = (none, depth) := by
  induction hs generalizing depth with
  | nil => rfl
  | plain hquote hopen hclose _ ih =>
    rw [scanned_cons_of_not_quote hquote, nesting, if_neg (by simpa using hopen),
      if_neg (by simpa using hclose), ih]
  | quoted hq hinner _ ih => rw [scanned, if_pos hq, scanned_quote_open hinner, ih]
  | bracketed _ _ ihinner ih =>
    rw [scanned_cons_of_not_quote rfl, scanned_append, ihinner, scanned_cons_of_not_quote rfl]
    exact ih depth

/-- Complete texts are balanced. -/
lemma Complete.balanced (hs : Complete s) : Balanced s := by
  induction hs with
  | matched hs => exact hs.scanned_eq 0
  | stray hs _ ih =>
    rw [Balanced, scanned_append, hs.scanned_eq, scanned_cons_of_not_quote rfl]
    exact ih

/-! ## What the scan says about a text -/

/-- An open quotation mark is closed by the next equal one. -/
lemma exists_of_scanned_quote (h : scanned (some q) depth s = (none, 0)) :
    ∃ inner rest, s = inner ++ q :: rest ∧ q ∉ inner ∧ scanned none depth rest = (none, 0) := by
  induction s with
  | nil => cases h
  | cons c s ih =>
    rw [scanned] at h
    by_cases hc : c = q
    · rw [if_pos (by simpa using hc)] at h
      exact ⟨[], s, by rw [hc]; rfl, List.not_mem_nil, h⟩
    · rw [if_neg (by simpa using hc)] at h
      obtain ⟨inner, rest, rfl, hinner, hrest⟩ := ih h
      exact ⟨c :: inner, rest, rfl, by simp [hinner, Ne.symm hc], hrest⟩

/-- The text is matched, or it is so up to a closing bracket, which closes the innermost bracket
that is open, if there is one. -/
def MatchedUpTo (depth : ℕ) (s : List Char) : Prop :=
  Matched s ∧ depth = 0 ∨ ∃ inner rest, s = inner ++ ']' :: rest ∧ Matched inner ∧
    scanned none (depth - 1) rest = (none, 0)

/-- What is put in front of matched texts leaves a text matched up to where it was. -/
lemma MatchedUpTo.prepend (h : MatchedUpTo depth s) (front : List Char)
    (hfront : ∀ t, Matched t → Matched (front ++ t)) : MatchedUpTo depth (front ++ s) := by
  rcases h with ⟨hs, hdepth⟩ | ⟨inner, rest, rfl, hinner, hrest⟩
  · exact .inl ⟨hfront s hs, hdepth⟩
  · exact .inr ⟨front ++ inner, rest, by simp, hfront inner hinner, hrest⟩

/-- A text behind which nothing is open is matched up to the place where the innermost bracket is
closed. -/
lemma matchedUpTo_of_scanned (h : scanned none depth s = (none, 0)) : MatchedUpTo depth s := by
  -- a quoted part and a bracket are passed as a whole, so the induction is on the length
  induction hlength : s.length using Nat.strong_induction_on generalizing s depth with
  | _ n ih =>
    subst hlength
    cases s with
    | nil => exact .inl ⟨.nil, congrArg Prod.snd h⟩
    | cons c s =>
      by_cases hquote : isQuote c = true
      · rw [scanned, if_pos hquote] at h
        obtain ⟨part, rest, rfl, hpart, hrest⟩ := exists_of_scanned_quote h
        have hend := (ih rest.length (by simp; omega) hrest rfl).prepend (c :: (part ++ [c]))
          fun t ht => by simpa using ht.quoted hquote hpart
        simpa using hend
      · rw [Bool.not_eq_true] at hquote
        rw [scanned_cons_of_not_quote hquote] at h
        by_cases hopen : c = '['
        · subst hopen
          rcases ih s.length (by simp) h rfl with ⟨-, hdepth⟩ | ⟨part, rest, rfl, hpart, hrest⟩
          · cases hdepth
          · have hdepth : nesting depth '[' - 1 = depth := by simp [nesting]
            rw [hdepth] at hrest
            have hend := (ih rest.length (by simp; omega) hrest rfl).prepend
              ('[' :: (part ++ [']'])) fun t ht => by simpa using hpart.bracketed ht
            simpa using hend
        · by_cases hclose : c = ']'
          · subst hclose
            exact .inr ⟨[], s, rfl, .nil, h⟩
          · have hdepth : nesting depth c = depth := by simp [nesting, hopen, hclose]
            rw [hdepth] at h
            exact (ih s.length (by simp) h rfl).prepend [c] fun t ht =>
              ht.plain hquote hopen hclose

/-- Balanced texts are complete. -/
lemma Balanced.complete (hs : Balanced s) : Complete s := by
  induction hlength : s.length using Nat.strong_induction_on generalizing s with
  | _ n ih =>
    subst hlength
    rcases matchedUpTo_of_scanned hs with ⟨hmatched, -⟩ | ⟨inner, rest, rfl, hinner, hrest⟩
    · exact .matched hmatched
    · exact .stray hinner (ih rest.length (by simp; omega) hrest rfl)

/-- The scan finds those texts balanced in which every quoted part and every bracket ends. -/
lemma balanced_iff_complete : Balanced s ↔ Complete s := ⟨Balanced.complete, Complete.balanced⟩

/-! ## In front of a cut -/

section Cuts

variable {ops : List Operator} {op : Operator} {quote : Option Char} {before : List Char} {cut : Cut}

/-- The scan goes on from what is open behind the text so far. -/
lemma scanned_reverse_cons (hbefore : scanned none 0 before.reverse = (quote, depth)) (c : Char) :
    scanned none 0 (c :: before).reverse = scanned quote depth [c] := by
  rw [List.reverse_cons, scanned_append, hbefore]

/-- An operator opens nothing. -/
lemma scanned_reverse_append_symbol (hbefore : scanned none 0 before.reverse = (none, 0)) :
    scanned none 0 (op.symbol.reverse ++ before).reverse = (none, 0) := by
  rw [List.reverse_append, List.reverse_reverse, scanned_append, hbefore,
    scanned_of_neutral fun _ => not_quote_of_mem_symbol]

/-- In front of a cut nothing is open. -/
lemma balanced_left (h : cut ∈ cuts ops quote depth before s)
    (hbefore : scanned none 0 before.reverse = (quote, depth)) : Balanced cut.left := by
  fun_induction cuts ops quote depth before s with
  | case1 => cases h
  | case2 depth before c rest q ih =>
    refine ih (by simpa using h) ?_
    rw [scanned_reverse_cons hbefore]
    simp [scanned]
  | case3 depth before c rest hquote ih =>
    refine ih h ?_
    rw [scanned_reverse_cons hbefore, scanned, if_pos hquote, scanned]
  | case4 depth before c rest hquote hdepth op after hop hlt later hroom ih =>
    obtain ⟨rfl, -⟩ := of_operatorAt hop hdepth
    rcases List.mem_cons.mp h with rfl | h
    · exact hbefore
    · exact ih h (scanned_reverse_append_symbol hbefore)
  | case5 depth before c rest hquote hdepth op after hop hlt later hroom ih =>
    obtain ⟨rfl, -⟩ := of_operatorAt hop hdepth
    exact ih h (scanned_reverse_append_symbol hbefore)
  | case6 depth before c rest hquote hdepth hop ih =>
    refine ih h ?_
    rw [scanned_reverse_cons hbefore, scanned, if_neg hquote, hdepth, scanned]
  | case7 depth before c rest hquote hdepth ih =>
    refine ih h ?_
    rw [scanned_reverse_cons hbefore, scanned, if_neg hquote, scanned]

end Cuts

end Dataflow.Expr
