import Dataflow.Proofs.Text.Composed
import Dataflow.Proofs.Text.Utf8
import Dataflow.Proofs.Url.Domain
import Dataflow.Proofs.Url.Literal

/-!
# Hosts that are IPv4 addresses

A host may spell an IPv4 address as it stands, or in the name that it stands for: the characters
that it writes, plainly or by their bytes, stand for the characters of the name
(`Host.StandsFor`). In brackets, it may be the IPv6 address that maps the IPv4 address
(`Host.Denotes`). Hosts of these forms and no others are read as the IPv4 address or as the address
that maps it (`Host.denotes_iff`): composing, Punycode and the checks of labels change nothing in a
name that spells an address.
-/

namespace Dataflow.Url

variable {s label : List Char} {a : Ipv4} {c : Char}

/-! ## Plain names -/

/-- The character is one of ASCII that may stand in a label, and no `n`, so that the mark of a coded
label is not made of such characters. -/
def IsLabelChar (c : Char) : Prop :=
  c.toNat < 0x80 ∧ isForbidden c = false ∧ c.isUpper = false ∧ c ≠ 'n'

/-- The character stands for itself in host names, a capital for its small letter. -/
def IsPlainChar (c : Char) : Prop := c.toNat < 0x80 ∧ c ≠ '%' ∧ IsLabelChar c.toLower

instance : DecidablePred IsLabelChar := fun _ => inferInstanceAs (Decidable (_ ∧ _ ∧ _ ∧ _))

instance : DecidablePred IsPlainChar := fun _ => inferInstanceAs (Decidable (_ ∧ _ ∧ _))

/-- A text of ASCII characters is ASCII. -/
lemma isAscii_iff : Text.isAscii s = true ↔ ∀ c ∈ s, c.toNat < 0x80 := by
  simp [Text.isAscii]

/-- A property of all ASCII characters is checked one by one. -/
lemma forall_ascii {P : Char → Prop} (hall : ∀ n < 0x80, P (Char.ofNat n)) (hc : c.toNat < 0x80) :
    P c := by
  have hself := hall c.toNat hc
  rwa [Char.ofNat_toNat] at hself

/-- No ASCII character combines with another one, tells how others are joined, or runs from right to
left. -/
lemma plain_of_ascii (hc : c.toNat < 0x80) : Text.isCombining c = false ∧
    c ≠ Text.nonJoiner ∧ c ≠ Text.joiner ∧ Text.direction c ≠ .right ∧
      Text.direction c ≠ .arabicNumber :=
  forall_ascii (P := fun c => Text.isCombining c = false ∧ c ≠ Text.nonJoiner ∧
    c ≠ Text.joiner ∧ Text.direction c ≠ .right ∧ Text.direction c ≠ .arabicNumber)
    (by decide +kernel) hc

/-- In an ASCII text, nothing tells how letters are joined. -/
lemma signsFit_eq (hs : ∀ c ∈ s, c.toNat < 0x80) (before : List Char) :
    Text.signsFit before s = true := by
  induction s generalizing before with
  | nil => rfl
  | cons c s ih =>
    obtain ⟨hc, hs⟩ := List.forall_mem_cons.mp hs
    obtain ⟨-, hnon, hjoin, -⟩ := plain_of_ascii hc
    rw [Text.signsFit, ih hs]
    simp [hnon, hjoin]

/-- ASCII labels can stand beside each other. -/
lemma directionsFit_eq {labels : List (List Char)}
    (hlabels : ∀ label ∈ labels, ∀ c ∈ label, c.toNat < 0x80) : directionsFit labels = true := by
  have hleft : labels.any Text.runsLeft = false := by
    simp only [List.any_eq_false, Text.runsLeft, List.any_eq_true, Bool.or_eq_true, beq_iff_eq]
    rintro label hlabel ⟨c, hc, hright⟩
    obtain ⟨-, -, -, hnot⟩ := plain_of_ascii (hlabels label hlabel c hc)
    exact not_or.mpr hnot hright
  rw [directionsFit, hleft]
  rfl

/-- A label of ASCII characters without the mark of coded labels stands for itself. -/
lemma plainLabel?_eq (hs : ∀ c ∈ s, IsLabelChar c) : plainLabel? s = some s := by
  have hdomain : s.all isDomainChar = true := by
    rw [List.all_eq_true]
    intro c hc
    obtain ⟨hascii, hforbidden, hupper, -⟩ := hs c hc
    rw [isDomainChar, if_pos hascii, hforbidden, hupper]
    rfl
  have hfirst : s.head?.any Text.isCombining = false := by
    cases s with
    | nil => rfl
    | cons c s => exact (plain_of_ascii (hs c List.mem_cons_self).1).1
  have hmark : Text.dropStart? punycodeMark s = none := by
    rcases s with _ | ⟨c, _ | ⟨d, s⟩⟩
    · rfl
    · simp [punycodeMark, Text.dropStart?]
    · have hd : d ≠ 'n' := (hs d (by simp)).2.2.2
      simp [punycodeMark, Text.dropStart?, hd.symm]
  rw [plainLabel?, hmark]
  simp only
  rw [if_pos]
  rw [validLabel, hdomain, hfirst, signsFit_eq fun c hc => (hs c hc).1]
  rfl

/-- A label in ASCII has no other ASCII form than itself; the form of any other label bears the mark
of coded labels. -/
lemma eq_or_of_labelToAscii? {plain form : List Char} (hplain : plainLabel? label = some plain)
    (hform : labelToAscii? plain = some form) :
    form = label ∨ Text.isAscii label = false ∧ 'n' ∈ form := by
  unfold plainLabel? at hplain
  unfold labelToAscii? at hform
  split at hplain
  · -- a coded label is the form of the label for which it stands
    rename_i coded hcoded
    obtain rfl := Text.dropStart?_eq_some_iff.mp hcoded
    unfold decodeLabel? at hplain
    split at hplain
    · cases hplain
    · have hproper := (Option.filter_eq_some_iff.mp hplain).2
      simp only [Bool.and_eq_true, Bool.not_eq_true', beq_iff_eq] at hproper
      obtain ⟨⟨⟨⟨hascii, -⟩, -⟩, -⟩, hencode⟩ := hproper
      rw [hascii, if_neg Bool.false_ne_true] at hform
      split at hform
      · cases hform
      · rw [hencode] at hform
        exact Or.inl (Option.some.inj hform).symm
  · split at hplain
    · obtain rfl := Option.some.inj hplain
      split at hform
      · exact Or.inl (Option.some.inj hform).symm
      · rename_i hascii
        split at hform
        · cases hform
        · obtain rfl := Option.some.inj hform
          exact Or.inr ⟨by simpa using hascii, by simp [punycodeMark]⟩
    · cases hplain

/-- Labels are their own ASCII forms, if they are ASCII or if there is no `n` in the forms. -/
lemma eq_of_forms {labels plains forms : List (List Char)}
    (hplains : labels.mapM plainLabel? = some plains)
    (hforms : plains.mapM labelToAscii? = some forms)
    (hself : (∀ label ∈ labels, Text.isAscii label = true) ∨ ∀ form ∈ forms, 'n' ∉ form) :
    forms = labels := by
  rw [mapM_eq_some_iff] at hplains hforms
  induction hplains generalizing forms with
  | nil => exact List.forall₂_nil_left_iff.mp hforms
  | @cons label plain labels plains hplain _ ih =>
    obtain ⟨form, forms, hform, hmore, rfl⟩ := List.forall₂_cons_left_iff.mp hforms
    have hrest := ih hmore (hself.imp (fun h => (List.forall_mem_cons.mp h).2)
      fun h => (List.forall_mem_cons.mp h).2)
    rcases eq_or_of_labelToAscii? hplain hform with heq | ⟨hbeyond, hn⟩
    · rw [heq, hrest]
    · rcases hself with hascii | hnone
      · rw [hascii label List.mem_cons_self] at hbeyond
        cases hbeyond
      · exact absurd hn (hnone form List.mem_cons_self)

/-- A name is its own ASCII form once it is folded and composed, if it is ASCII then or if there is
no `n` in the form. -/
lemma eq_of_domainToAscii? {name form : List Char} (h : domainToAscii? name = some form)
    (hself : Text.isAscii (Text.composed (name.flatMap foldChar)) = true ∨ 'n' ∉ form) :
    form = Text.composed (name.flatMap foldChar) := by
  obtain ⟨plains, forms, hplains, -, hforms, rfl⟩ := domainToAscii?_eq_some_iff.mp h
  have hequal := eq_of_forms hplains hforms <| hself.imp
    (fun hascii label hlabel => isAscii_iff.mpr fun c hc =>
      isAscii_iff.mp hascii c (Text.mem_of_mem_splitOn hlabel hc))
    fun hnone form hform hn => hnone ((Text.infix_intercalate ['.'] hform).subset hn)
  rw [hequal, Text.splitOn_eq, List.intercalate_splitOn]

/-- A name that is made of characters for labels and full stops once it is folded is its own ASCII
form then. -/
lemma domainToAscii?_eq {name : List Char}
    (hname : ∀ c ∈ name.flatMap foldChar, IsLabelChar c) :
    domainToAscii? name = some (name.flatMap foldChar) := by
  have hlabels : ∀ label ∈ (name.flatMap foldChar).splitOn '.', ∀ c ∈ label, IsLabelChar c :=
    fun label hlabel c hc => hname c (Text.mem_of_mem_splitOn (Text.splitOn_eq '.' _ ▸ hlabel) hc)
  have hplain : ((name.flatMap foldChar).splitOn '.').mapM plainLabel? =
      some ((name.flatMap foldChar).splitOn '.') := by
    rw [mapM_eq_some_iff, List.forall₂_same]
    exact fun label hlabel => plainLabel?_eq (hlabels label hlabel)
  have hform : ((name.flatMap foldChar).splitOn '.').mapM labelToAscii? =
      some ((name.flatMap foldChar).splitOn '.') := by
    rw [mapM_eq_some_iff, List.forall₂_same]
    exact fun label hlabel =>
      if_pos (isAscii_iff.mpr fun c hc => (hlabels label hlabel c hc).1)
  rw [domainToAscii?_eq_some_iff, Text.composed_eq (isAscii_iff.mpr fun c hc => (hname c hc).1),
    Text.splitOn_eq]
  exact ⟨_, _, hplain, directionsFit_eq fun label hlabel c hc => (hlabels label hlabel c hc).1,
    hform, (List.intercalate_splitOn '.').symm⟩

/-- ASCII characters are folded to small letters. -/
lemma flatMap_foldChar (hs : ∀ c ∈ s, c.toNat < 0x80) :
    s.flatMap foldChar = s.map Char.toLower := by
  rw [← List.flatMap_singleton' (s.map Char.toLower), List.flatMap_map]
  refine List.flatMap_congr fun c hc => ?_
  rw [foldChar, if_pos (hs c hc)]
  rfl

/-! ## Names in hosts -/

namespace Host

/-- The text writes the bytes: a percent sign and two digits write a byte, and any other character
the bytes of its UTF-8 form. -/
inductive WritesBytes : List Char → List ℕ → Prop
  | nil : WritesBytes [] []
  | encoded {high low : Char} {a b : ℕ} {s : List Char} {bytes : List ℕ}
    (hhigh : Ipv4.IsDigit 16 high a) (hlow : Ipv4.IsDigit 16 low b) (h : WritesBytes s bytes) :
    WritesBytes ('%' :: high :: low :: s) ((a * 16 + b) :: bytes)
  | plain {c : Char} {s : List Char} {bytes : List ℕ} (hc : c ≠ '%') (h : WritesBytes s bytes) :
    WritesBytes (c :: s) (Text.utf8Bytes c ++ bytes)

/-- The host stands for the name: it writes the bytes of a text whose characters stand for those of
the name. -/
def StandsFor (s name : List Char) : Prop :=
  ∃ t : List Char, WritesBytes s (t.flatMap Text.utf8Bytes) ∧ t.flatMap foldChar = name

/-- The name that the host of a special URL stands for, in ASCII. -/
def asciiName? (s : List Char) : Option (List Char) :=
  (Text.decodeUtf8? (Text.percentDecode s)).bind domainToAscii?

/-- A text without percent signs writes its own bytes. -/
lemma writesBytes_flatMap (hs : '%' ∉ s) : WritesBytes s (s.flatMap Text.utf8Bytes) := by
  induction s with
  | nil => exact .nil
  | cons c s ih =>
    rw [List.mem_cons, not_or] at hs
    exact .plain (Ne.symm hs.1) (ih hs.2)

/-- The bytes that a text writes are read from it. -/
lemma WritesBytes.percentDecode_eq {bytes : List ℕ} (h : WritesBytes s bytes) :
    Text.percentDecode s = bytes := by
  induction h with
  | nil => rfl
  | encoded hhigh hlow _ ih =>
    rw [Text.percentDecode, Ipv4.hexValue?_eq_some_iff.mpr hhigh,
      Ipv4.hexValue?_eq_some_iff.mpr hlow]
    simp only [ih]
  | plain hc _ ih =>
    rw [Text.percentDecode, ih]
    exact fun _ _ _ hmark _ => hc hmark

/-- Bytes without that of the percent sign are read from a text that writes them. -/
lemma writesBytes_percentDecode (s : List Char) (hs : 0x25 ∉ Text.percentDecode s) :
    WritesBytes s (Text.percentDecode s) := by
  fun_induction Text.percentDecode s with
  | case1 => exact .nil
  | case2 high low rest b a hb ha ih =>
    exact .encoded (Ipv4.hexValue?_eq_some_iff.mp ha) (Ipv4.hexValue?_eq_some_iff.mp hb)
      (ih fun hmem => hs (List.mem_cons_of_mem _ hmem))
  | case3 => exact absurd List.mem_cons_self hs
  | case4 c rest _ ih =>
    rw [List.mem_append, not_or] at hs
    refine .plain ?_ (ih hs.2)
    rintro rfl
    exact hs.1 (by decide)

/-- An ASCII character whose byte is among those of a text stands in the name for which the text
stands, as its small letter. -/
lemma mem_of_mem_bytes {t : List Char} (hc : c.toNat < 0x80)
    (h : c.toNat ∈ t.flatMap Text.utf8Bytes) : c.toLower ∈ t.flatMap foldChar := by
  obtain ⟨d, hd, hmem⟩ := List.mem_flatMap.mp h
  have heq := Text.toNat_eq_of_mem_utf8Bytes hc hmem
  obtain rfl : d = c := Char.toNat_inj.mp heq
  refine List.mem_flatMap.mpr ⟨d, hd, ?_⟩
  rw [foldChar, if_pos hc]
  exact List.mem_singleton_self _

/-- A name of ASCII characters without encoded bytes stands for itself in small letters, if it is
one. -/
lemma eq_of_asciiName? {name : List Char} (hs : ∀ c ∈ s, c.toNat < 0x80 ∧ c ≠ '%')
    (h : asciiName? s = some name) : name = s.map Char.toLower := by
  have hlower : ∀ n < 0x80, (Char.ofNat n).toLower.toNat < 0x80 := by decide
  have hwrites := writesBytes_flatMap fun hmark => (hs '%' hmark).2 rfl
  have hfold : s.flatMap foldChar = s.map Char.toLower := flatMap_foldChar fun c hc => (hs c hc).1
  have hascii : Text.isAscii (s.map Char.toLower) = true := by
    refine isAscii_iff.mpr fun c hc => ?_
    obtain ⟨d, hd, rfl⟩ := List.mem_map.mp hc
    exact forall_ascii (P := fun c => c.toLower.toNat < 0x80) hlower (hs d hd).1
  rw [asciiName?, hwrites.percentDecode_eq, Text.decodeUtf8?_flatMap, Option.bind_some] at h
  have hname := eq_of_domainToAscii? h (Or.inl (by rwa [hfold, Text.composed_eq hascii]))
  rw [hname, hfold, Text.composed_eq hascii]

end Host

/-! ## Spellings in small letters -/

namespace Ipv4

variable {base n : ℕ} {c : Char} {d : ℕ} {ds text : List Char}

/-- A digit is a plain character, and its small letter is the same digit. -/
lemma IsDigit.isPlainChar_and_toLower (hbase : base ≤ 16) (h : IsDigit base c d) :
    IsPlainChar c ∧ IsDigit base c.toLower d := by
  have hall : ∀ d < 16, (IsPlainChar d.digitChar ∧ IsPlainChar d.digitChar.toUpper) ∧
      d.digitChar.toLower = d.digitChar ∧ d.digitChar.toUpper.toLower = d.digitChar := by decide
  obtain ⟨hplain, hlower⟩ := hall d (h.1.trans_le hbase)
  obtain ⟨hd, rfl | rfl⟩ := h
  · exact ⟨hplain.1, hd, .inl hlower.1⟩
  · exact ⟨hplain.2, hd, .inl hlower.2⟩

/-- Digits in small letters write the same number. -/
lemma Writes.map_toLower (hbase : base ≤ 16) (h : Writes base ds n) :
    Writes base (ds.map Char.toLower) n := by
  obtain ⟨ns, hns, hn⟩ := h
  exact ⟨ns, List.forall₂_map_left_iff.mpr
    (hns.imp fun c d hd => (hd.isPlainChar_and_toLower hbase).2), hn⟩

/-- Decimal digits have no capitals. -/
lemma Writes.noCapitals (h : Writes 10 ds n) : NoCapitals ds := by
  obtain ⟨ns, hns, -⟩ := h
  have hall : ∀ d < 10, d.digitChar.isUpper = false ∧ d.digitChar.toUpper.isUpper = false := by
    decide
  intro c hc
  obtain ⟨d, hd, rfl | rfl⟩ := exists_of_forall₂ hns hc
  · exact (hall d hd).1
  · exact (hall d hd).2

/-- A numeral in small letters is a numeral of the same number. -/
lemma Numeral.map_toLower (h : Numeral text n) : Numeral (text.map Char.toLower) n := by
  cases h with
  | decimal h hne hzero =>
    rw [h.noCapitals.map_toLower]
    exact .decimal h hne hzero
  | octal h hne => exact .octal (h.map_toLower (by decide)) (by simpa using hne)
  | hexadecimal h hmark =>
    refine .hexadecimal (h.map_toLower (by decide)) (.inl ?_)
    rcases hmark with rfl | rfl
    · rfl
    · rfl

/-- A spelling is made of digits, full stops, and the marks of hexadecimal numerals. -/
lemma Spells.of_mem (h : Spells text a) (hc : c ∈ text) :
    c = '.' ∨ (∃ d, IsDigit 16 c d) ∨ c = 'x' ∨ c = 'X' := by
  obtain ⟨numerals, front, last, hnumerals, htext, -⟩ := h
  have hdot : c = '.' ∨ c ∈ List.intercalate ['.'] numerals := by
    rcases htext with rfl | rfl
    · exact .inr hc
    · rcases List.mem_append.mp hc with hc | hc
      · exact .inr hc
      · exact .inl (List.mem_singleton.mp hc)
  rcases hdot with rfl | hc
  · exact .inl rfl
  · rcases Text.mem_of_mem_intercalate hc with hc | ⟨numeral, hnumeral, hc⟩
    · exact .inl (List.mem_singleton.mp hc)
    · obtain ⟨n, hn⟩ := exists_of_forall₂ hnumerals hnumeral
      exact .inr (hn.of_mem hc)

/-- A spelling is made of plain characters. -/
lemma Spells.isPlainChar (h : Spells text a) (hc : c ∈ text) : IsPlainChar c := by
  rcases h.of_mem hc with rfl | ⟨d, hd⟩ | rfl | rfl
  · decide
  · exact (hd.isPlainChar_and_toLower le_rfl).1
  · decide
  · decide

/-- A spelling in small letters spells the same address. -/
lemma Spells.map_toLower (h : Spells text a) : Spells (text.map Char.toLower) a := by
  obtain ⟨numerals, front, last, hnumerals, htext, hall⟩ := h
  have hlower : (List.intercalate ['.'] numerals).map Char.toLower =
      List.intercalate ['.'] (numerals.map (List.map Char.toLower)) :=
    Text.map_intercalate _ _ _
  refine ⟨numerals.map (List.map Char.toLower), front, last,
    List.forall₂_map_left_iff.mpr (hnumerals.imp fun _ _ hn => hn.map_toLower), ?_, hall⟩
  rcases htext with rfl | rfl
  · exact .inl hlower
  · rw [List.map_append, hlower]
    exact .inr rfl

end Ipv4

/-! ## Hosts -/

namespace Host

/-- The host denotes an IPv4 address: it spells the address, as it stands or in a name for which it
stands, or it is the IPv6 address in brackets that maps the address. -/
inductive Denotes (s : List Char) (a : Ipv4) : Prop
  | spelled (h : Ipv4.Spells s a)
  | encoded {name : List Char} (hname : StandsFor s name) (h : Ipv4.Spells name a)
  | mapped {literal : List Char} (hs : s = '[' :: (literal ++ [']']))
    (h : Ipv6.Spells literal (.ofIpv4 a))

/-- A spelling stands for a spelling in small letters. -/
lemma exists_name_of_spells (h : Ipv4.Spells s a) :
    ∃ name, StandsFor s name ∧ Ipv4.Spells name a := by
  refine ⟨s.map Char.toLower, ⟨s, writesBytes_flatMap fun hmark => ?_, ?_⟩, h.map_toLower⟩
  · exact (h.isPlainChar hmark).2.1 rfl
  · exact flatMap_foldChar fun c hc => (h.isPlainChar hc).1

/-- The name that a host stands for is read from it, if the name spells an address. -/
lemma asciiName?_of_standsFor {name : List Char} (hname : StandsFor s name)
    (h : Ipv4.Spells name a) : s.head? ≠ some '[' ∧ asciiName? s = some name := by
  obtain ⟨t, hwrites, rfl⟩ := hname
  have hlabel : ∀ c ∈ t.flatMap foldChar, IsLabelChar c := by
    intro c hc
    obtain ⟨d, -, hd⟩ := List.mem_flatMap.mp hc
    have hlower := (h.isPlainChar hc).2.2
    rwa [Char.toLower_eq_of_not_isUpper (by simp [noCapitals_foldChar d c hd])] at hlower
  refine ⟨fun hopen => ?_, ?_⟩
  · -- an opening bracket would stand in the name
    obtain ⟨rest, rfl⟩ := List.head?_eq_some_iff.mp hopen
    have hbyte : '['.toNat ∈ t.flatMap Text.utf8Bytes := by
      rw [← hwrites.percentDecode_eq, Text.percentDecode_cons (by decide)]
      exact List.mem_cons_self
    have hbracket : ¬ IsLabelChar '['.toLower := by decide
    exact hbracket (hlabel _ (mem_of_mem_bytes (by decide) hbyte))
  · rw [asciiName?, hwrites.percentDecode_eq, Text.decodeUtf8?_flatMap, Option.bind_some]
    exact domainToAscii?_eq hlabel

/-- A host stands for the name that is read from it, if the name spells an address. -/
lemma standsFor_of_asciiName? {name : List Char} (hname : asciiName? s = some name)
    (h : Ipv4.Spells name a) : StandsFor s name := by
  obtain ⟨t, ht, hname⟩ := Option.bind_eq_some_iff.mp hname
  have hplain : ∀ c ∈ name, IsPlainChar c := fun c hc => h.isPlainChar hc
  have hn : 'n' ∉ name := fun hmem => (hplain 'n' hmem).2.2.2.2.2 (by decide)
  have hcomposed := eq_of_domainToAscii? hname (Or.inr hn)
  have hself : Text.composed (t.flatMap foldChar) = t.flatMap foldChar :=
    Text.eq_of_isAscii_composed (hcomposed ▸ isAscii_iff.mpr fun c hc => (hplain c hc).1)
  rw [hself] at hcomposed
  rw [Text.decodeUtf8?_eq_some_iff] at ht
  refine ⟨t, ht ▸ writesBytes_percentDecode s fun hmark => ?_, hcomposed.symm⟩
  -- a percent sign would stand in the name
  have hmem : '%'.toLower ∈ t.flatMap foldChar := mem_of_mem_bytes (by decide) (ht ▸ hmark)
  exact (hplain '%' (hcomposed ▸ hmem)).2.1 rfl

/-- What is read after the opening bracket is the address of a literal before the closing one. -/
lemma parseBracketed_eq_ok_iff {host : Host} : parseBracketed s = .ok host ↔
    ∃ literal v6, s = literal ++ [']'] ∧ Ipv6.parse? literal = some v6 ∧ host = .ipv6 v6 := by
  unfold parseBracketed
  constructor
  · intro h
    split at h
    · cases h
    · rename_i hclose
      split at h
      · rename_i v6 hv6
        have hlast : s.getLast? = some ']' := by simpa using hclose
        exact ⟨s.dropLast, v6, (List.dropLast_append_getLast? _ hlast).symm, hv6,
          (Except.ok.inj h).symm⟩
      · cases h
  · rintro ⟨literal, v6, rfl, hv6, rfl⟩
    simp [hv6]

/-- A host without an opening bracket is an address if its name spells the address. -/
lemma parse_eq_ipv4_iff : parse s = .ok (.ipv4 a) ↔
    s.head? ≠ some '[' ∧ ∃ name, asciiName? s = some name ∧ Ipv4.Spells name a := by
  unfold parse
  split
  · rename_i rest
    constructor
    · intro h
      obtain ⟨literal, v6, -, -, hhost⟩ := parseBracketed_eq_ok_iff.mp h
      cases hhost
    · rintro ⟨hopen, -⟩
      exact absurd rfl hopen
  · rename_i hopen
    have hhead : s.head? ≠ some '[' := by
      intro hhead
      obtain ⟨rest, rfl⟩ := List.head?_eq_some_iff.mp hhead
      exact hopen rest rfl
    rw [← asciiName?]
    constructor
    · intro h
      split at h
      · cases h
      · rename_i name hname
        split at h
        · cases h
        · split at h
          · split at h
            · rename_i a' ha
              obtain rfl := Host.ipv4.inj (Except.ok.inj h)
              exact ⟨hhead, name, hname, Ipv4.parse?_eq_some_iff.mp ha⟩
            · cases h
          · cases h
    · rintro ⟨-, name, hname, h⟩
      have hne : name.isEmpty = false := by
        rw [List.isEmpty_eq_false_iff]
        rintro rfl
        exact absurd h.endsInNumber (by decide)
      simp only [hname, hne, h.endsInNumber, Ipv4.parse?_eq_some_iff.mpr h, if_true,
        Bool.false_eq_true, if_false]

/-- A host is an IPv6 address if it is a literal of this address in brackets. -/
lemma parse_eq_ipv6_iff {v6 : Ipv6} : parse s = .ok (.ipv6 v6) ↔
    ∃ literal, s = '[' :: (literal ++ [']']) ∧ Ipv6.Spells literal v6 := by
  simp only [← Ipv6.parse?_eq_some_iff]
  unfold parse
  split
  · rw [parseBracketed_eq_ok_iff]
    constructor
    · rintro ⟨literal, v6', rfl, hv6, hhost⟩
      exact ⟨literal, rfl, Host.ipv6.inj hhost ▸ hv6⟩
    · rintro ⟨literal, hs, hv6⟩
      exact ⟨literal, v6, (List.cons.inj hs).2, hv6, rfl⟩
  · rename_i hopen
    constructor
    · intro h
      split at h
      · cases h
      · split at h
        · cases h
        · split at h
          · split at h
            · cases h
            · cases h
          · cases h
    · rintro ⟨literal, hs, -⟩
      exact (hopen _ hs).elim

/-- A host that is read as a name is read as the one that it stands for. -/
lemma asciiName?_of_parse {name : List Char} (h : parse s = .ok (.name name)) :
    asciiName? s = some name := by
  unfold parse at h
  split at h
  · obtain ⟨literal, v6, -, -, hhost⟩ := parseBracketed_eq_ok_iff.mp h
    cases hhost
  · rw [← asciiName?] at h
    split at h
    · cases h
    · rename_i domain hdomain
      split at h
      · cases h
      · split at h
        · split at h
          · cases h
          · cases h
        · obtain rfl := Host.name.inj (Except.ok.inj h)
          exact hdomain

/-- An opening brace at the start of a host is not lost. -/
lemma brace_mem_text_of_parse {host : Host} (hs : ∀ c ∈ s, c.toNat < 0x80 ∧ c ≠ '%')
    (h : parse ('{' :: s) = .ok host) : '{' ∈ host.text := by
  have hall : ∀ c ∈ '{' :: s, c.toNat < 0x80 ∧ c ≠ '%' :=
    List.forall_mem_cons.mpr ⟨by decide, hs⟩
  have hbrace : '{' ∈ ('{' :: s).map Char.toLower := List.mem_map.mpr ⟨'{', by simp, rfl⟩
  cases host with
  | name name =>
    rw [Host.text, eq_of_asciiName? hall (asciiName?_of_parse h)]
    exact hbrace
  | ipv4 a =>
    obtain ⟨-, name, hname, hspells⟩ := parse_eq_ipv4_iff.mp h
    rw [← eq_of_asciiName? hall hname] at hbrace
    have hvalue : Text.hexValue? '{' = none := by decide
    rcases hspells.of_mem hbrace with hdot | ⟨d, hd⟩ | hmark | hmark
    · cases hdot
    · rw [Ipv4.hexValue?_eq_some_iff.mpr hd] at hvalue
      cases hvalue
    · cases hmark
    · cases hmark
  | ipv6 v6 =>
    obtain ⟨literal, hliteral, -⟩ := parse_eq_ipv6_iff.mp h
    cases (List.cons.inj hliteral).1

/-- A host denotes an IPv4 address if it is read as the address or as the one that maps it. -/
lemma denotes_iff : Denotes s a ↔
    parse s = .ok (.ipv4 a) ∨ parse s = .ok (.ipv6 (.ofIpv4 a)) := by
  rw [parse_eq_ipv4_iff, parse_eq_ipv6_iff]
  constructor
  · rintro (h | ⟨hname, h⟩ | ⟨hs, h⟩)
    · obtain ⟨name, hname, h⟩ := exists_name_of_spells h
      obtain ⟨hopen, hname⟩ := asciiName?_of_standsFor hname h
      exact .inl ⟨hopen, name, hname, h⟩
    · obtain ⟨hopen, hname⟩ := asciiName?_of_standsFor hname h
      exact .inl ⟨hopen, _, hname, h⟩
    · exact .inr ⟨_, hs, h⟩
  · rintro (⟨-, name, hname, h⟩ | ⟨literal, hs, h⟩)
    · exact .encoded (standsFor_of_asciiName? hname h) h
    · exact .mapped hs h

end Host

end Dataflow.Url
