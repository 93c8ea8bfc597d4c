import Dataflow.Json.Printer
import Dataflow.Json.Token
import Dataflow.Proofs.Decimal.Digits

/-!
# The tokens of a written value

Scanning takes the text of a value apart into the tokens that the value is made of
(`Json.Integral.tokens_compactChars`). What follows the text must not go on with a number, since a
number has no end of its own (`Json.Apart`). Only doubles are left out.
-/

namespace Dataflow

namespace Json

/-- The text does not go on with a number that stands in front of it. -/
def Apart (rest : List Char) : Prop :=
  ∀ c ∈ rest.head?, c.isDigit = false ∧ c ≠ '.' ∧ c ≠ 'e' ∧ c ≠ 'E'

variable {rest : List Char}

lemma apart_nil : Apart [] := by
  simp [Apart]

/-- The marks between values are no parts of numbers. -/
lemma apart_mark {c : Char} (hc : c = ',' ∨ c = ']' ∨ c = '}') : Apart (c :: rest) := by
  rcases hc with rfl | rfl | rfl <;> simp [Apart]

lemma Apart.takeDigits {ds : List Char} (hrest : Apart rest) (hds : ∀ c ∈ ds, c.isDigit = true) :
    Decimal.takeDigits (ds ++ rest) = (ds, rest) := by
  have hhead : rest.takeWhile Char.isDigit = [] ∧ rest.dropWhile Char.isDigit = rest := by
    cases rest with
    | nil => exact ⟨rfl, rfl⟩
    | cons c rest =>
      have hc := (hrest c rfl).1
      simp [hc]
  rw [Decimal.takeDigits, List.takeWhile_append_of_pos hds, List.dropWhile_append_of_pos hds,
    hhead.1, hhead.2, List.append_nil]

/-- A text that is apart from a number brings no fraction. -/
lemma Apart.scanFraction (hrest : Apart rest) : scanFraction rest = some (none, rest) := by
  unfold Json.scanFraction
  split
  · exact absurd rfl (hrest '.' rfl).2.1
  · rfl

/-- A text that is apart from a number brings no exponent. -/
lemma Apart.scanExponent (hrest : Apart rest) : scanExponent rest = some (none, rest) := by
  cases rest with
  | nil => rfl
  | cons c rest =>
    obtain ⟨-, -, he, hE⟩ := hrest c rfl
    simp [Json.scanExponent, he, hE]

/-- The digits of a natural number are read as an integer. -/
lemma scanUnsigned_digitsOf (negative : Bool) (n : ℕ) (hrest : Apart rest) :
    scanUnsigned negative (Decimal.digitsOf n ++ rest) =
      (Number.ofDigits negative (Decimal.digitsOf n)).map fun number => (number, rest) := by
  have hdigits : ∀ c ∈ Decimal.digitsOf n, c.isDigit = true :=
    fun _ => Decimal.isDigit_of_mem_digitsOf
  obtain ⟨c, ds, hds, -⟩ := Decimal.exists_digitsOf_eq_cons n
  unfold scanUnsigned
  split
  rename_i whole after hsplit
  obtain ⟨rfl, rfl⟩ : whole = Decimal.digitsOf n ∧ after = rest := by
    split at hsplit
    · rename_i tail hzero
      rw [hds, List.cons_append, List.cons.injEq] at hzero
      obtain rfl := Decimal.eq_zero_of_digitsOf (hzero.1 ▸ hds)
      obtain ⟨-, rfl⟩ := List.cons.inj hds
      obtain rfl : rest = tail := hzero.2
      exact ⟨(congrArg Prod.fst hsplit).symm, (congrArg Prod.snd hsplit).symm⟩
    · rw [hrest.takeDigits hdigits, Prod.mk.injEq] at hsplit
      exact ⟨hsplit.1.symm, hsplit.2.symm⟩
  rw [if_neg (by simp [hds]), hrest.scanFraction]
  simp [hrest.scanExponent]

/-- The sign and the digits of an integer that fits a word give the integer. -/
lemma ofDigits_natAbs {n : ℤ} (fits : FitsWord n) :
    Number.ofDigits (decide (n < 0)) (Decimal.digitsOf n.natAbs) = some (.whole n fits) := by
  have hfits := fits
  obtain ⟨hlow, hhigh⟩ := hfits
  rw [Number.ofDigits, Decimal.natOfDigits_digitsOf]
  by_cases hn : n < 0
  · rw [if_pos (by simpa using hn), if_pos (by simp; omega), Int.ofNat_natAbs_of_nonpos hn.le,
      neg_neg, Number.ofInt?, dif_pos fits]
  · rw [if_neg (by simpa using hn), if_pos (by simp only [UInt64.size]; omega),
      Int.natAbs_of_nonneg (not_lt.mp hn), Number.ofInt?, dif_pos fits]

/-- The text of an integer is read as this integer. -/
lemma scanNumber_wholeText {n : ℤ} (fits : FitsWord n) (hrest : Apart rest) :
    scanNumber (Number.wholeText n ++ rest) = some (.whole n fits, rest) := by
  have hsign : scanNumber (Number.wholeText n ++ rest) =
      scanUnsigned (decide (n < 0)) (Decimal.digitsOf n.natAbs ++ rest) := by
    rw [Number.wholeText]
    by_cases hn : n < 0
    · rw [if_pos hn, decide_eq_true hn]
      rfl
    · rw [if_neg hn, decide_eq_false hn]
      obtain ⟨c, ds, hds, hc⟩ := Decimal.exists_digitsOf_eq_cons n.natAbs
      rw [hds, List.cons_append]
      unfold scanNumber
      split
      · rename_i heq
        obtain rfl : c = '-' := (List.cons.inj heq).1
        cases hc
      · rfl
  rw [hsign, scanUnsigned_digitsOf _ _ hrest, ofDigits_natAbs fits]
  rfl

/-! ## Strings -/

/-- A control character is written with its number. -/
lemma hexUnit?_control {n : ℕ} (hn : n < 0x20) :
    hexUnit? '0' '0' (hexDigit (n / 16)) (hexDigit (n % 16)) = some n := by
  have hall : ∀ n < 0x20, hexUnit? '0' '0' (hexDigit (n / 16)) (hexDigit (n % 16)) = some n := by
    decide
  exact hall n hn

/-- A number in an escape that is no surrogate stands for its character, whatever follows. -/
lemma scanString_unit {a b c d : Char} {n : ℕ} (h : hexUnit? a b c d = some n)
    (hn : n < 0xD800) (rest : List Char) :
    scanString ('\\' :: 'u' :: a :: b :: c :: d :: rest) =
      (scanString rest).map fun (s, rest) => (Char.ofNat n :: s, rest) := by
  have hhigh : isHighSurrogate n = false := by simp [isHighSurrogate]; omega
  have hlow : isLowSurrogate n = false := by simp [isLowSurrogate]; omega
  rw [scanString.eq_def]
  split
  · rename_i heq
    cases heq
  · rename_i heq
    cases heq
  · rename_i heq
    cases heq
    simp [h, hhigh, hlow]
  · rename_i heq
    cases heq
    simp [h, hhigh, hlow]
  · rename_i hunit heq
    cases heq
    exact (hunit a b c d rest rfl rfl).elim
  · rename_i hescape heq
    cases heq
    exact (hescape 'u' _ rfl rfl).elim

/-- A character that needs no escape stands for itself. -/
lemma scanString_char {c : Char} (hquote : c ≠ '"') (hbackslash : c ≠ '\\') (hc : 0x20 ≤ c.toNat)
    (rest : List Char) :
    scanString (c :: rest) = (scanString rest).map fun (s, rest) => (c :: s, rest) := by
  rw [scanString.eq_def]
  split
  · rename_i heq
    cases heq
  · rename_i heq
    exact absurd (List.head_eq_of_cons_eq heq) hquote
  -- the next three begin with a backslash
  · rename_i heq
    exact absurd (List.head_eq_of_cons_eq heq) hbackslash
  · rename_i heq
    exact absurd (List.head_eq_of_cons_eq heq) hbackslash
  · rename_i heq
    exact absurd (List.head_eq_of_cons_eq heq) hbackslash
  · rename_i heq
    obtain ⟨rfl, rfl⟩ := List.cons.inj heq
    rw [if_neg (by simpa [hbackslash] using hc)]

/-- A character is read back from its form inside quotes. -/
lemma scanString_escaped (c : Char) (rest : List Char) :
    scanString (escaped c ++ rest) = (scanString rest).map fun (s, rest) => (c :: s, rest) := by
  unfold escaped
  split_ifs with hquote hbackslash hnewline hreturn htab hback hform hcontrol
  · obtain rfl := eq_of_beq hquote
    simp [scanString, simpleEscape?]
  · obtain rfl := eq_of_beq hbackslash
    simp [scanString, simpleEscape?]
  · obtain rfl := eq_of_beq hnewline
    simp [scanString, simpleEscape?]
  · obtain rfl := eq_of_beq hreturn
    simp [scanString, simpleEscape?]
  · obtain rfl := eq_of_beq htab
    simp [scanString, simpleEscape?]
  · obtain rfl := eq_of_beq hback
    simp [scanString, simpleEscape?]
  · obtain rfl := eq_of_beq hform
    simp [scanString, simpleEscape?]
  · have hunit := scanString_unit (hexUnit?_control hcontrol) (by omega) rest
    rwa [Char.ofNat_toNat] at hunit
  · exact scanString_char (by simpa using hquote) (by simpa using hbackslash) (by omega) rest

/-- A string is read back from its form in quotes. -/
lemma scanString_quoted (cs rest : List Char) :
    scanString (cs.flatMap escaped ++ '"' :: rest) = some (cs, rest) := by
  induction cs with
  | nil => simp [scanString]
  | cons c cs ih =>
    rw [List.flatMap_cons, List.append_assoc, scanString_escaped, ih]
    rfl

/-! ## Values -/

/-- A token that stands at the start of a text is the first one of the text. -/
lemma tokens_of_scanToken {c : Char} {text after : List Char} {token : Token}
    (hspace : isSpace c = false) (hscan : scanToken (c :: text) = some (token, after))
    (hlen : after.length ≤ text.length) :
    tokens (c :: text) = (tokens after).map (token :: ·) := by
  rw [tokens, hspace, if_neg Bool.false_ne_true, hscan]
  exact if_pos hlen

/-- A string in quotes is one token. -/
lemma tokens_quoted (s : String) (rest : List Char) :
    tokens (quoted s ++ rest) = (tokens rest).map (.string s :: ·) := by
  have hscan : scanToken ('"' :: (s.toList.flatMap escaped ++ '"' :: rest)) =
      some (.string s, rest) := by
    simp [scanToken, scanString_quoted]
  rw [quoted, List.cons_append, List.append_assoc, List.singleton_append,
    tokens_of_scanToken (by decide) hscan (by simp; omega)]

/-- A text that starts with a minus sign or a digit starts with a number. -/
lemma scanToken_number {c : Char} (hc : c = '-' ∨ c.isDigit = true) (text : List Char) :
    scanToken (c :: text) =
      (scanNumber (c :: text)).map fun (n, rest) => (.atom (.number n), rest) := by
  have hne : ∀ mark ∈ ['[', ']', '{', '}', ':', ',', '"', 'n', 't', 'f'], c ≠ mark := by
    rintro mark hmark rfl
    fin_cases hmark <;> simp at hc
  unfold scanToken
  split
  case h_11 => rfl
  all_goals
    rename_i heq
    exact absurd (List.head_eq_of_cons_eq heq) (hne _ (by simp))

/-- The text of an integer starts with a minus sign or a digit. -/
lemma exists_cons_wholeText (n : ℤ) :
    ∃ c text, Number.wholeText n = c :: text ∧ (c = '-' ∨ c.isDigit = true) := by
  rw [Number.wholeText]
  split
  · exact ⟨_, _, rfl, .inl rfl⟩
  · obtain ⟨c, ds, hds, hc⟩ := Decimal.exists_digitsOf_eq_cons n.natAbs
    exact ⟨c, ds, hds, .inr hc⟩

/-- An integer is one token, if what follows is apart from it. -/
lemma tokens_wholeText {n : ℤ} (fits : FitsWord n) (hrest : Apart rest) :
    tokens (Number.wholeText n ++ rest) =
      (tokens rest).map (.atom (.number (.whole n fits)) :: ·) := by
  obtain ⟨c, text, htext, hc⟩ := exists_cons_wholeText n
  have hscan := scanNumber_wholeText fits hrest
  rw [htext, List.cons_append] at hscan ⊢
  have hspace : isSpace c = false := by
    rcases hc with rfl | hc
    · decide
    · by_contra hspace
      simp only [isSpace, Bool.not_eq_false, Bool.or_eq_true, beq_iff_eq] at hspace
      rcases hspace with ((rfl | rfl) | rfl) | rfl <;> cases hc
  rw [tokens_of_scanToken hspace (by rw [scanToken_number hc, hscan]; rfl) (by simp)]

mutual

/-- The tokens that a value is made of. -/
def tokensOf : Json → List Token
  | .string s => [.string s]
  | .array [] => [.openArray, .closeArray]
  | .array (v :: items) => .openArray :: (tokensOf v ++ (tokensOfItems items ++ [.closeArray]))
  | .object [] => [.openObject, .closeObject]
  | .object ((key, v) :: fields) =>
    .openObject :: .string key :: .colon ::
      (tokensOf v ++ (tokensOfFields fields ++ [.closeObject]))
  | v => [.atom v]

/-- The tokens of items behind others. -/
def tokensOfItems : List Json → List Token
  | [] => []
  | v :: items => .comma :: (tokensOf v ++ tokensOfItems items)

/-- The tokens of fields behind others. -/
def tokensOfFields : List (String × Json) → List Token
  | [] => []
  | (key, v) :: fields =>
    .comma :: .string key :: .colon :: (tokensOf v ++ tokensOfFields fields)

end

/-- All numbers in the value are integers. -/
inductive Integral : Json → Prop
  | null : Integral .null
  | bool (b : Bool) : Integral (.bool b)
  | whole {n : ℤ} (fits : FitsWord n) : Integral (.number (.whole n fits))
  | string (s : String) : Integral (.string s)
  | array {items : List Json} (h : ∀ v ∈ items, Integral v) : Integral (.array items)
  | object {fields : List (String × Json)} (h : ∀ entry ∈ fields, Integral entry.2) :
    Integral (.object fields)

/-- The text of a value is taken apart into its tokens, whatever follows. -/
def Scans (v : Json) : Prop :=
  ∀ rest, Apart rest → tokens (compactChars v ++ rest) = (tokens rest).map (tokensOf v ++ ·)

/-- The rest of an array, from one of its items on, is taken apart. -/
lemma tokens_compactItems {items : List Json} (hitems : ∀ v ∈ items, v.Scans) {v : Json}
    (hv : v.Scans) (rest : List Char) :
    tokens (compactItems (v :: items) ++ ']' :: rest) =
      (tokens rest).map fun ts => tokensOf v ++ (tokensOfItems items ++ .closeArray :: ts) := by
  induction items generalizing v with
  | nil =>
    rw [compactItems, hv _ (apart_mark (.inr (.inl rfl))),
      tokens_of_scanToken (by decide) rfl le_rfl, Option.map_map]
    rfl
  | cons w items ih =>
    have hw := ih (fun u hu => hitems u (List.mem_cons_of_mem w hu))
      (hitems w List.mem_cons_self)
    rw [compactItems, List.append_assoc, List.cons_append, hv _ (apart_mark (.inl rfl)),
      tokens_of_scanToken (by decide) rfl le_rfl, hw, Option.map_map, Option.map_map]
    simp [Function.comp_def, tokensOfItems]

/-- The rest of an object, from one of its fields on, is taken apart. -/
lemma tokens_compactFields {fields : List (String × Json)}
    (hfields : ∀ entry ∈ fields, entry.2.Scans) (key : String) {v : Json} (hv : v.Scans)
    (rest : List Char) :
    tokens (compactFields ((key, v) :: fields) ++ '}' :: rest) =
      (tokens rest).map fun ts =>
        .string key :: .colon :: (tokensOf v ++ (tokensOfFields fields ++ .closeObject :: ts)) := by
  induction fields generalizing key v with
  | nil =>
    rw [compactFields, List.append_assoc, tokens_quoted, List.cons_append,
      tokens_of_scanToken (by decide) rfl le_rfl, hv _ (apart_mark (.inr (.inr rfl))),
      tokens_of_scanToken (by decide) rfl le_rfl]
    simp only [Option.map_map]
    rfl
  | cons entry fields ih =>
    obtain ⟨key', w⟩ := entry
    have hw : w.Scans := hfields (key', w) List.mem_cons_self
    have hrest := ih (fun u hu => hfields u (List.mem_cons_of_mem _ hu)) key' hw
    rw [compactFields, List.append_assoc, tokens_quoted, List.cons_append,
      tokens_of_scanToken (by decide) rfl le_rfl, List.append_assoc, List.cons_append,
      hv _ (apart_mark (.inl rfl)), tokens_of_scanToken (by decide) rfl le_rfl, hrest]
    simp [Function.comp_def, tokensOfFields]

/-- The text of a value without doubles is taken apart into its tokens. -/
lemma Integral.scans {v : Json} (hv : v.Integral) : v.Scans := by
  induction hv with
  | null => exact fun rest _ => tokens_of_scanToken (by decide) rfl (by simp; omega)
  | bool b =>
    cases b
    · exact fun rest _ => tokens_of_scanToken (by decide) rfl (by simp; omega)
    · exact fun rest _ => tokens_of_scanToken (by decide) rfl (by simp; omega)
  | whole fits => exact fun rest hrest => tokens_wholeText fits hrest
  | string s => exact fun rest _ => tokens_quoted s rest
  | @array items _ ih =>
    intro rest _
    rw [compactChars, List.cons_append, List.append_assoc,
      tokens_of_scanToken (by decide) rfl le_rfl]
    cases items with
    | nil =>
      rw [compactItems, List.nil_append, List.singleton_append,
        tokens_of_scanToken (by decide) rfl le_rfl, Option.map_map]
      rfl
    | cons v items =>
      rw [List.singleton_append, tokens_compactItems (fun u hu => ih u (List.mem_cons_of_mem v hu))
        (ih v List.mem_cons_self), Option.map_map]
      simp [Function.comp_def, tokensOf]
  | @object fields _ ih =>
    intro rest _
    rw [compactChars, List.cons_append, List.append_assoc,
      tokens_of_scanToken (by decide) rfl le_rfl]
    cases fields with
    | nil =>
      rw [compactFields, List.nil_append, List.singleton_append,
        tokens_of_scanToken (by decide) rfl le_rfl, Option.map_map]
      rfl
    | cons entry fields =>
      obtain ⟨key, v⟩ := entry
      rw [List.singleton_append,
        tokens_compactFields (fun u hu => ih u (List.mem_cons_of_mem _ hu)) key
          (ih _ List.mem_cons_self), Option.map_map]
      simp [Function.comp_def, tokensOf]

/-- The tokens of the text of a value without doubles are those of the value. -/
lemma Integral.tokens_compactChars {v : Json} (hv : v.Integral) :
    tokens (compactChars v) = some (tokensOf v) := by
  have hscan := hv.scans [] apart_nil
  rw [List.append_nil, tokens] at hscan
  simpa using hscan

end Json

end Dataflow
