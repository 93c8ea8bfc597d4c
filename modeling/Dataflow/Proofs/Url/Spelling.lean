import Dataflow.Proofs.Results
import Dataflow.Proofs.Text.Characters
import Dataflow.Proofs.Text.Pieces
import Dataflow.Proofs.Url.Block

/-!
# Spellings of IPv4 addresses

An IPv4 address may be spelled in many ways: with one to four numbers, each of them decimal, octal
or hexadecimal, and with a full stop behind the last one or not. The numbers in front are bytes, and
the last one stands for all bytes that are left (`Ipv4.Spells`). These spellings and no others are
read as addresses (`Ipv4.parse?_eq_some_iff`).
-/

namespace Dataflow.Url.Ipv4

/-! ## Numerals -/

/-- The character is a digit of a base, in small or capital letters. -/
def IsDigit (base : ℕ) (c : Char) (d : ℕ) : Prop :=
  d < base ∧ (c = d.digitChar ∨ c = d.digitChar.toUpper)

/-- The digits write the number in a base. -/
def Writes (base : ℕ) (ds : List Char) (n : ℕ) : Prop :=
  ∃ ns, List.Forall₂ (IsDigit base) ds ns ∧ Nat.ofDigits base ns.reverse = n

/-- The text is a decimal, octal or hexadecimal numeral, as its first characters tell. -/
inductive Numeral : List Char → ℕ → Prop
  | decimal {ds : List Char} {n : ℕ} (h : Writes 10 ds n) (hne : ds ≠ [])
    (hzero : ds.head? = some '0' → ds = ['0']) : Numeral ds n
  | octal {ds : List Char} {n : ℕ} (h : Writes 8 ds n) (hne : ds ≠ []) : Numeral ('0' :: ds) n
  | hexadecimal {mark : Char} {ds : List Char} {n : ℕ} (h : Writes 16 ds n)
    (hmark : mark = 'x' ∨ mark = 'X') : Numeral ('0' :: mark :: ds) n

/-- The characters with a value are the digits of base 16. -/
lemma hexValue?_eq_some_iff {c : Char} {d : ℕ} :
    Text.hexValue? c = some d ↔ IsDigit 16 c d := by
  constructor
  · intro h
    have hdigit : ∀ d < 10, Char.ofNat (48 + d) = d.digitChar := by decide
    have hsmall : ∀ d < 16, 10 ≤ d → Char.ofNat (87 + d) = d.digitChar := by decide
    have hcapital : ∀ d < 16, 10 ≤ d → Char.ofNat (55 + d) = d.digitChar.toUpper := by decide
    unfold Text.hexValue? at h
    simp only [Text.isDigit_iff, Char.le_def, Bool.and_eq_true, decide_eq_true_eq,
      UInt32.le_iff_toNat_le] at h
    split at h
    · rename_i hc
      obtain ⟨hlow, hhigh⟩ := hc
      obtain rfl := Option.some.inj h
      have heq := hdigit (c.toNat - 48) (by omega)
      rw [Nat.add_sub_cancel' hlow, Char.ofNat_toNat] at heq
      exact ⟨by omega, .inl heq⟩
    · split at h
      · rename_i hc
        have hlow : 97 ≤ c.toNat := hc.1
        have hhigh : c.toNat ≤ 102 := hc.2
        obtain rfl := Option.some.inj h
        have heq := hsmall (c.toNat - 87) (by omega) (by omega)
        rw [Nat.add_sub_cancel' (by omega), Char.ofNat_toNat] at heq
        exact ⟨by omega, .inl heq⟩
      · split at h
        · rename_i hc
          have hlow : 65 ≤ c.toNat := hc.1
          have hhigh : c.toNat ≤ 70 := hc.2
          obtain rfl := Option.some.inj h
          have heq := hcapital (c.toNat - 55) (by omega) (by omega)
          rw [Nat.add_sub_cancel' (by omega), Char.ofNat_toNat] at heq
          exact ⟨by omega, .inr heq⟩
        · cases h
  · rintro ⟨hd, hc⟩
    have hall : ∀ d < 16, Text.hexValue? d.digitChar = some d ∧
        Text.hexValue? d.digitChar.toUpper = some d := by decide
    rcases hc with rfl | rfl
    · exact (hall d hd).1
    · exact (hall d hd).2

variable {base n : ℕ} {ds : List Char}

/-- The value of digits is the number that they write. -/
lemma ofDigits_eq {ns : List ℕ} (h : List.Forall₂ (fun c d => Text.hexValue? c = some d) ds ns) :
    ofDigits base ds = Nat.ofDigits base ns.reverse := by
  have hfold : ∀ start, ds.foldl (fun n c => n * base + (Text.hexValue? c).getD 0) start =
      ns.foldl (fun n d => d + base * n) start := by
    induction h with
    | nil => exact fun start => rfl
    | @cons c d ds ns hc _ ih =>
      intro start
      rw [List.foldl_cons, List.foldl_cons, ih, hc, Option.getD_some, add_comm, mul_comm]
  rw [Nat.ofDigits_eq_foldr, List.foldr_reverse]
  exact hfold 0

/-- Digits that the base allows write their value, and no other digits write a number. -/
lemma writes_iff (hbase : base ≤ 16) :
    Writes base ds n ↔ allDigits base ds = true ∧ ofDigits base ds = n := by
  have hdigit : ∀ c d, IsDigit base c d ↔ Text.hexValue? c = some d ∧ d < base := by
    intro c d
    rw [hexValue?_eq_some_iff, IsDigit, IsDigit]
    exact ⟨fun h => ⟨⟨h.1.trans_le hbase, h.2⟩, h.1⟩, fun h => ⟨h.2, h.1.2⟩⟩
  rw [allDigits, List.all_eq_true]
  simp only [Option.any_eq_true, decide_eq_true_eq]
  constructor
  · rintro ⟨ns, hns, rfl⟩
    have hvalues := hns.imp fun c d hd => (hdigit c d).mp hd
    exact ⟨fun c hc => exists_of_forall₂ hvalues hc,
      ofDigits_eq (hvalues.imp fun c d hd => hd.1)⟩
  · rintro ⟨hdigits, rfl⟩
    have hvalues : ∀ c ∈ ds, IsDigit base c ((Text.hexValue? c).getD 0) := by
      intro c hc
      obtain ⟨d, hd, hlt⟩ := hdigits c hc
      rw [hd]
      exact (hdigit c d).mpr ⟨hd, hlt⟩
    have hns : List.Forall₂ (IsDigit base) ds (ds.map fun c => (Text.hexValue? c).getD 0) :=
      List.forall₂_map_right_iff.mpr (List.forall₂_same.mpr hvalues)
    exact ⟨_, hns, (ofDigits_eq (hns.imp fun c d hd => ((hdigit c d).mp hd).1)).symm⟩

/-- What the number of a part is once its base is known. -/
lemma value_eq_some_iff (hbase : base ≤ 16) {part : List Char} :
    (if part.isEmpty || !allDigits base ds then none else some (ofDigits base ds)) = some n ↔
      part ≠ [] ∧ Writes base ds n := by
  rw [writes_iff hbase]
  split
  · rename_i hinvalid
    rw [Bool.or_eq_true, List.isEmpty_iff, Bool.not_eq_true'] at hinvalid
    rcases hinvalid with hempty | hdigits
    · simp [hempty]
    · simp [hdigits]
  · rename_i hvalid
    rw [Bool.or_eq_true, not_or, List.isEmpty_iff, Bool.not_eq_true', Bool.not_eq_false] at hvalid
    simp [hvalid]

/-- The number of a part is the one that the part is a numeral of. -/
lemma partNumber?_eq_some_iff {part : List Char} : partNumber? part = some n ↔ Numeral part n := by
  constructor
  · intro h
    unfold partNumber? at h
    split at h
    rename_i base ds hbase
    split at hbase
    · obtain ⟨rfl, rfl⟩ := Prod.mk.inj hbase
      exact .hexadecimal ((value_eq_some_iff (by decide)).mp h).2 (.inl rfl)
    · obtain ⟨rfl, rfl⟩ := Prod.mk.inj hbase
      exact .hexadecimal ((value_eq_some_iff (by decide)).mp h).2 (.inr rfl)
    · obtain ⟨rfl, rfl⟩ := Prod.mk.inj hbase
      exact .octal ((value_eq_some_iff (by decide)).mp h).2 (by simp)
    · rename_i hoctal
      obtain ⟨rfl, rfl⟩ := Prod.mk.inj hbase
      obtain ⟨hne, h⟩ := (value_eq_some_iff (by decide)).mp h
      refine .decimal h hne fun hzero => ?_
      obtain ⟨rest, rfl⟩ := List.head?_eq_some_iff.mp hzero
      cases rest with
      | nil => rfl
      | cons c rest => exact (hoctal c rest rfl).elim
  · intro h
    cases h with
    | decimal h hne hzero =>
      unfold partNumber?
      split
      rename_i base ds hbase
      split at hbase
      · cases hzero rfl
      · cases hzero rfl
      · cases hzero rfl
      · obtain ⟨rfl, rfl⟩ := Prod.mk.inj hbase
        exact (value_eq_some_iff (by decide)).mpr ⟨hne, h⟩
    | @octal ds _ h hne =>
      obtain ⟨hdigits, -⟩ := (writes_iff (show 8 ≤ 16 by decide)).mp h
      unfold partNumber?
      split
      rename_i base ds' hbase
      split at hbase
      -- the marks of hexadecimal numerals are no octal digits
      · rename_i hpart
        obtain rfl := (List.cons.inj hpart).2
        cases hdigits
      · rename_i hpart
        obtain rfl := (List.cons.inj hpart).2
        cases hdigits
      · rename_i hpart
        obtain rfl := (List.cons.inj hpart).2
        obtain ⟨rfl, rfl⟩ := Prod.mk.inj hbase
        exact (value_eq_some_iff (by decide)).mpr ⟨by simp, h⟩
      · rename_i hoctal
        obtain ⟨c, rest, rfl⟩ := List.exists_cons_of_ne_nil hne
        exact (hoctal c rest rfl).elim
    | hexadecimal h hmark =>
      rcases hmark with rfl | rfl
      · exact (value_eq_some_iff (show 16 ≤ 16 by decide)).mpr ⟨by simp, h⟩
      · exact (value_eq_some_iff (show 16 ≤ 16 by decide)).mpr ⟨by simp, h⟩

/-- The characters of numerals are digits and the marks of hexadecimal ones. -/
lemma Numeral.of_mem {text : List Char} (h : Numeral text n) {c : Char} (hc : c ∈ text) :
    (∃ d, IsDigit 16 c d) ∨ c = 'x' ∨ c = 'X' := by
  have hwrites : ∀ {base ds}, base ≤ 16 → Writes base ds n → ∀ c ∈ ds, ∃ d, IsDigit 16 c d := by
    rintro base ds hbase ⟨ns, hns, -⟩ c hc
    obtain ⟨d, hd, hc⟩ := exists_of_forall₂ hns hc
    exact ⟨d, hd.trans_le hbase, hc⟩
  have hzero : IsDigit 16 '0' 0 := ⟨by decide, .inl rfl⟩
  cases h with
  | decimal h => exact .inl (hwrites (by decide) h c hc)
  | octal h =>
    rcases List.mem_cons.mp hc with rfl | hc
    · exact .inl ⟨0, hzero⟩
    · exact .inl (hwrites (by decide) h c hc)
  | hexadecimal h hmark =>
    rcases List.mem_cons.mp hc with rfl | hc
    · exact .inl ⟨0, hzero⟩
    · rcases List.mem_cons.mp hc with rfl | hc
      · exact .inr hmark
      · exact .inl (hwrites (by decide) h c hc)

/-- A numeral is not empty and holds no full stop. -/
lemma Numeral.ne_nil_and_not_mem {text : List Char} (h : Numeral text n) :
    text ≠ [] ∧ '.' ∉ text := by
  refine ⟨?_, fun hdot => ?_⟩
  · rintro rfl
    cases h with
    | decimal h hne => exact hne rfl
  · have hvalue : Text.hexValue? '.' = none := by decide
    rcases h.of_mem hdot with ⟨d, hd⟩ | hx | hx
    · rw [hexValue?_eq_some_iff.mpr hd] at hvalue
      cases hvalue
    · cases hx
    · cases hx

/-! ## Addresses -/

/-- The text spells the address: its numbers in front are the first bytes of the address, and the
last one stands for all bytes that are left. -/
def Spells (text : List Char) (a : Ipv4) : Prop :=
  ∃ (numerals : List (List Char)) (front : List ℕ) (last : ℕ),
    List.Forall₂ Numeral numerals (front ++ [last]) ∧
    (text = List.intercalate ['.'] numerals ∨ text = List.intercalate ['.'] numerals ++ ['.']) ∧
    front.length ≤ 3 ∧ (∀ n ∈ front, n < 256) ∧ last < 256 ^ (4 - front.length) ∧
    a.toNat = Nat.ofDigits 256 front.reverse * 256 ^ (4 - front.length) + last

/-- Numbers weighed from the power 3 of a base downward are the digits of a number. -/
lemma foldl_weigh (base : ℕ) {front : List ℕ} {i : ℕ} (hfront : i + front.length ≤ 3)
    (last : ℕ) :
    (front.zipIdx i).foldl (fun sum part => sum + part.1 * Nat.pow base (3 - part.2)) last =
      Nat.ofDigits base front.reverse * base ^ (4 - i - front.length) + last := by
  induction front generalizing i last with
  | nil => simp
  | cons n front ih =>
    rw [List.length_cons] at hfront
    have hpow : base ^ front.length * base ^ (4 - i - (front.length + 1)) = base ^ (3 - i) := by
      rw [← pow_add]
      congr 1
      omega
    rw [List.zipIdx_cons, List.foldl_cons, ih (by omega), Nat.pow_eq, List.reverse_cons,
      Nat.ofDigits_append, Nat.ofDigits_singleton, List.length_reverse, List.length_cons, add_mul,
      mul_right_comm, hpow, show 4 - (i + 1) - front.length = 4 - i - (front.length + 1) by omega]
    ring

/-- An address is the one number that its numbers make. -/
lemma value_lt {front : List ℕ} {last : ℕ} (hfront : front.length ≤ 3)
    (hbytes : ∀ n ∈ front, n < 256) (hlast : last < 256 ^ (4 - front.length)) :
    Nat.ofDigits 256 front.reverse * 256 ^ (4 - front.length) + last < 2 ^ 32 := by
  have hhigh : Nat.ofDigits 256 front.reverse < 256 ^ front.reverse.length :=
    Nat.ofDigits_lt_base_pow_length (by decide) fun n hn => hbytes n (List.mem_reverse.mp hn)
  rw [List.length_reverse] at hhigh
  calc Nat.ofDigits 256 front.reverse * 256 ^ (4 - front.length) + last
      < (Nat.ofDigits 256 front.reverse + 1) * 256 ^ (4 - front.length) := by
        rw [Nat.add_mul, one_mul]
        exact Nat.add_lt_add_left hlast _
    _ ≤ 256 ^ front.length * 256 ^ (4 - front.length) := Nat.mul_le_mul_right _ hhigh
    _ = 256 ^ 4 := by rw [← pow_add, Nat.add_sub_cancel' (by omega)]
    _ = 2 ^ 32 := by norm_num

/-- The address of numbers: those in front are bytes, and the last one stands for the others. -/
lemma ofNumbers?_eq_some_iff {numbers : List ℕ} {a : Ipv4} :
    ofNumbers? numbers = some a ↔ ∃ front last, numbers = front ++ [last] ∧ front.length ≤ 3 ∧
      (∀ n ∈ front, n < 256) ∧ last < 256 ^ (4 - front.length) ∧
      a.toNat = Nat.ofDigits 256 front.reverse * 256 ^ (4 - front.length) + last := by
  have happend : ∀ front last, ofNumbers? (front ++ [last]) = some a ↔ front.length ≤ 3 ∧
      (∀ n ∈ front, n < 256) ∧ last < 256 ^ (4 - front.length) ∧
      a.toNat = Nat.ofDigits 256 front.reverse * 256 ^ (4 - front.length) + last := by
    intro front last
    have hinvalid : (front.reverse.length > 3 || front.reverse.any (255 < ·) ||
        decide (last ≥ Nat.pow 256 (4 - front.reverse.length))) = true ↔
        ¬ (front.length ≤ 3 ∧ (∀ n ∈ front, n < 256) ∧ last < 256 ^ (4 - front.length)) := by
      simp only [List.length_reverse, List.any_reverse, Bool.or_eq_true, decide_eq_true_eq,
        List.any_eq_true, gt_iff_lt, ge_iff_le, Nat.pow_eq, not_and_or, not_le, not_lt, not_forall,
        exists_prop, or_assoc]
      rfl
    unfold ofNumbers?
    rw [List.reverse_append, List.reverse_singleton, List.singleton_append]
    simp only [hinvalid, List.reverse_reverse]
    split
    · rename_i h
      simp only [reduceCtorEq, false_iff]
      exact fun hall => h ⟨hall.1, hall.2.1, hall.2.2.1⟩
    · rename_i h
      obtain ⟨hfront, hbytes, hlast⟩ := not_not.mp h
      rw [foldl_weigh 256 (by omega), Option.some.injEq, ← BitVec.toNat_inj, BitVec.toNat_ofNat,
        Nat.sub_zero, Nat.mod_eq_of_lt (value_lt hfront hbytes hlast)]
      exact ⟨fun heq => ⟨hfront, hbytes, hlast, heq.symm⟩, fun h => h.2.2.2.symm⟩
  constructor
  · intro h
    rcases List.eq_nil_or_concat numbers with rfl | ⟨front, last, rfl⟩
    · cases h
    · rw [List.concat_eq_append] at h ⊢
      exact ⟨front, last, rfl, (happend front last).mp h⟩
  · rintro ⟨front, last, rfl, hall⟩
    exact (happend front last).mpr hall

/-- The parts of a text are numerals if these stand in it with full stops between them, and one more
at the end or not. -/
lemma parts_eq_iff {numerals : List (List Char)} {numbers : List ℕ} {s : List Char}
    (hnumerals : List.Forall₂ Numeral numerals numbers) (hne : numerals ≠ []) :
    parts s = numerals ↔
      s = List.intercalate ['.'] numerals ∨ s = List.intercalate ['.'] numerals ++ ['.'] := by
  have hnumeral : ∀ text ∈ numerals, text ≠ [] ∧ '.' ∉ text := by
    intro text htext
    obtain ⟨n, h⟩ := exists_of_forall₂ hnumerals htext
    exact h.ne_nil_and_not_mem
  have hdot : ∀ text ∈ numerals, '.' ∉ text := fun text htext => (hnumeral text htext).2
  rw [parts, Text.splitOn_eq]
  constructor
  · intro h
    have hs : List.intercalate ['.'] (s.splitOn '.') = s := List.intercalate_splitOn '.'
    split at h
    · rename_i hend
      rw [Bool.and_eq_true, beq_iff_eq] at hend
      have hsplit := List.dropLast_append_getLast? [] hend.2
      rw [h] at hsplit
      rw [← hsplit, Text.intercalate_concat_nil hne] at hs
      exact .inr hs.symm
    · rw [h] at hs
      exact .inl hs.symm
  · rintro (rfl | rfl)
    · have hlast : ¬ numerals.getLast? = some [] := fun h =>
        (hnumeral [] (List.mem_of_getLast? h)).1 rfl
      simp [List.splitOn_intercalate '.' hdot hne, hlast]
    · have hdot' : ∀ text ∈ numerals ++ [[]], '.' ∉ text := by
        simpa [or_imp, forall_and] using hdot
      rw [← Text.intercalate_concat_nil hne,
        List.splitOn_intercalate '.' hdot' (by simp)]
      simp [List.length_pos_iff, hne]

/-- A text spells an address if its parts are numerals of numbers that make the address. -/
lemma spells_iff {s : List Char} {a : Ipv4} :
    Spells s a ↔ ∃ numbers, List.Forall₂ Numeral (parts s) numbers ∧
      ofNumbers? numbers = some a := by
  have hne : ∀ {numerals front last}, List.Forall₂ Numeral numerals (front ++ [last]) →
      numerals ≠ [] := by
    rintro numerals front last h rfl
    cases front <;> cases h
  constructor
  · rintro ⟨numerals, front, last, hnumerals, htext, hall⟩
    rw [(parts_eq_iff hnumerals (hne hnumerals)).mpr htext]
    exact ⟨front ++ [last], hnumerals, ofNumbers?_eq_some_iff.mpr ⟨front, last, rfl, hall⟩⟩
  · rintro ⟨numbers, hnumerals, h⟩
    obtain ⟨front, last, rfl, hall⟩ := ofNumbers?_eq_some_iff.mp h
    exact ⟨parts s, front, last, hnumerals, (parts_eq_iff hnumerals (hne hnumerals)).mp rfl, hall⟩

/-- The texts that spell addresses are read as these addresses, and no others are. -/
theorem parse?_eq_some_iff {s : List Char} {a : Ipv4} : parse? s = some a ↔ Spells s a := by
  have hmapM : ∀ numbers, (parts s).mapM partNumber? = some numbers ↔
      List.Forall₂ Numeral (parts s) numbers := by
    intro numbers
    rw [mapM_eq_some_iff]
    exact ⟨fun h => h.imp fun _ _ => partNumber?_eq_some_iff.mp,
      fun h => h.imp fun _ _ => partNumber?_eq_some_iff.mpr⟩
  rw [spells_iff, parse?]
  split
  · rename_i hlong
    simp only [reduceCtorEq, false_iff]
    rintro ⟨numbers, hnumerals, h⟩
    obtain ⟨front, last, rfl, hfront, -⟩ := ofNumbers?_eq_some_iff.mp h
    have hlength := hnumerals.length_eq
    rw [List.length_append, List.length_singleton] at hlength
    omega
  · simp only [Option.bind_eq_some_iff, hmapM]

/-- A text that spells an address ends in a number. -/
lemma Spells.endsInNumber {s : List Char} {a : Ipv4} (h : Spells s a) :
    endsInNumber s = true := by
  obtain ⟨numbers, hnumerals, h⟩ := spells_iff.mp h
  obtain ⟨front, last, rfl, -⟩ := ofNumbers?_eq_some_iff.mp h
  rw [← List.forall₂_reverse_iff, List.reverse_append, List.reverse_singleton,
    List.singleton_append, List.forall₂_cons_right_iff] at hnumerals
  obtain ⟨text, texts, hnumeral, -, hparts⟩ := hnumerals
  have hlast : (parts s).getLast? = some text := by
    rw [List.getLast?_eq_head?_reverse, hparts]
    rfl
  rw [Ipv4.endsInNumber, hlast]
  simp [partNumber?_eq_some_iff.mpr hnumeral]

end Dataflow.Url.Ipv4
