import Dataflow.Proofs.Expr.Grammar
import Dataflow.Proofs.Expr.Nesting

/-!
# Offsets of cuts

The cuts of a text are told here by offsets into its UTF-8 form: `place?` goes over the bytes of a
text with an index, and keeps the offset at which the outermost operator starts. All that means
something to the search is ASCII, and the bytes of other characters are passed over, so it is always
at the start of a character when it finds something. What it finds is the outermost of the cuts
(`place?_eq`).
-/

namespace Dataflow.Expr

variable {ops : List Operator} {side : Side} {op : Operator} {quote : Option Char} {depth : ℕ}
  {found : Option (ℕ × Operator)} {b : UInt8} {c d q : Char} {before front s after : List Char}

/-! ## The search over bytes -/

/-- The UTF-8 form of a text. -/
def encode (s : List Char) : List UInt8 := s.flatMap String.utf8EncodeChar

/-- `isQuote` on bytes. -/
def isQuoteByte (b : UInt8) : Bool := b == '"'.toUInt8 || b == '\''.toUInt8

/-- `Text.isAsciiBlank` on bytes. -/
def isBlankByte (b : UInt8) : Bool :=
  b == ' '.toUInt8 || b == '\t'.toUInt8 || b == '\n'.toUInt8 || b == '\x0c'.toUInt8 ||
    b == '\r'.toUInt8

/-- `nesting` on bytes. -/
def byteNesting (depth : ℕ) (b : UInt8) : ℕ :=
  if b == '['.toUInt8 then depth + 1 else if b == ']'.toUInt8 then depth - 1 else depth

/-- The bytes of an operator. -/
def Operator.bytes (op : Operator) : List UInt8 := encode op.symbol

/-- Whether there is something in front of the operator that starts at an offset and something
behind it, and blanks next to it if it needs them. -/
def hasRoomAt (bytes : List UInt8) (op : Operator) (start : ℕ) : Bool :=
  let stop := start + op.bytes.length
  0 < start && stop < bytes.length &&
    (!op.needsBlanks || (bytes[start - 1]?.any isBlankByte && bytes[stop]?.any isBlankByte))

lemma Operator.length_bytes_pos (op : Operator) : 0 < op.bytes.length := by
  cases op <;> decide

/-- The search for an operator over the bytes of a text, from an offset on: where the outermost one
outside quotes and brackets starts. `found` is the last one so far. -/
def seek (ops : List Operator) (side : Side) (bytes : List UInt8) (quote : Option UInt8) (depth : ℕ)
    (found : Option (ℕ × Operator)) (i : ℕ) : Option (ℕ × Operator) :=
  if h : i < bytes.length then
    match quote with
    | some q =>
      seek ops side bytes (if bytes[i] == q then none else some q) depth found (i + 1)
    | none =>
      if isQuoteByte bytes[i] then seek ops side bytes (some bytes[i]) depth found (i + 1)
      else if byteNesting depth bytes[i] = 0 then
        match ops.find? fun op => op.bytes.isPrefixOf (bytes.drop i) with
        | some op =>
          have := op.length_bytes_pos
          if hasRoomAt bytes op i then
            match side with
            | .leftmost => some (i, op)
            | .rightmost => seek ops side bytes none 0 (some (i, op)) (i + op.bytes.length)
          else seek ops side bytes none 0 found (i + op.bytes.length)
        | none => seek ops side bytes none 0 found (i + 1)
      else seek ops side bytes none (byteNesting depth bytes[i]) found (i + 1)
  else found
termination_by bytes.length - i

/-- The offset at which the outermost operator of a text starts. -/
def place? (ops : List Operator) (side : Side) (e : String) : Option (ℕ × Operator) :=
  seek ops side e.toByteArray.data.toList none 0 none 0

/-! ## Bytes of characters -/

lemma encode_append (s t : List Char) : encode (s ++ t) = encode s ++ encode t :=
  List.flatMap_append

/-- The bytes of a string are those of its characters. -/
lemma toList_data_toByteArray (e : String) : e.toByteArray.data.toList = encode e.toList := by
  have hofList (s : List Char) : (String.ofList s).toByteArray.data.toList = encode s := by
    simp [encode, List.utf8Encode]
  rw [← hofList, String.ofList_toList]

/-- An ASCII character is a single byte. -/
lemma utf8EncodeChar_of_lt (hc : c.toNat < 0x80) : String.utf8EncodeChar c = [c.toUInt8] := by
  have hsize : c.utf8Size = 1 := by
    rw [Char.utf8Size_eq_one_iff, UInt32.le_iff_toNat_le]
    exact Nat.le_of_lt_succ hc
  rw [String.utf8EncodeChar_eq_singleton hsize]
  rfl

lemma toUInt8_mem (hc : c.toNat < 0x80) : c.toUInt8 ∈ String.utf8EncodeChar c := by
  rw [utf8EncodeChar_of_lt hc]
  exact List.mem_singleton_self _

lemma encode_nil : encode [] = [] := rfl

lemma encode_singleton (c : Char) : encode [c] = String.utf8EncodeChar c := List.append_nil _

lemma encode_cons (c : Char) (s : List Char) :
    encode (c :: s) = String.utf8EncodeChar c ++ encode s := rfl

lemma encode_cons_of_lt (hc : c.toNat < 0x80) (s : List Char) :
    encode (c :: s) = c.toUInt8 :: encode s := by
  rw [encode_cons, utf8EncodeChar_of_lt hc, List.singleton_append]

lemma ne_of_not_lt (hc : ¬ c.toNat < 0x80) (hd : d.toNat < 0x80) : c ≠ d := by
  rintro rfl
  exact hc hd

/-- The bytes of any other character are no ASCII characters. -/
lemma le_of_mem_utf8EncodeChar (hc : ¬ c.toNat < 0x80) (hb : b ∈ String.utf8EncodeChar c) :
    0x80 ≤ b.toNat := by
  have hlarge : ¬ c.val.toNat ≤ 127 := fun hle => hc (Nat.lt_succ_of_le hle)
  rw [String.utf8EncodeChar, if_neg hlarge] at hb
  split at hb
  · simp only [List.mem_cons, List.not_mem_nil, or_false] at hb
    rcases hb with rfl | rfl <;> simp <;> omega
  · split at hb
    · simp only [List.mem_cons, List.not_mem_nil, or_false] at hb
      rcases hb with rfl | rfl | rfl <;> simp <;> omega
    · simp only [List.mem_cons, List.not_mem_nil, or_false] at hb
      rcases hb with rfl | rfl | rfl | rfl <;> simp <;> omega

/-- An ASCII character is told by its byte. -/
lemma toNat_toUInt8 (hc : c.toNat < 0x80) : c.toUInt8.toNat = c.toNat := by
  have hmod : c.toUInt8.toNat = c.toNat % 256 := UInt32.toNat_toUInt8 c.val
  omega

/-- The byte of an ASCII character is none of those of other characters. -/
lemma toUInt8_ne (hd : d.toNat < 0x80) (hb : 0x80 ≤ b.toNat) : d.toUInt8 ≠ b := by
  rintro rfl
  rw [toNat_toUInt8 hd] at hb
  omega

/-- Among the bytes of characters, that of an ASCII character stands for this character only. -/
lemma beq_toUInt8 (hd : d.toNat < 0x80) (hb : b ∈ String.utf8EncodeChar c) :
    (b == d.toUInt8) = (c == d) := by
  rw [Bool.eq_iff_iff, beq_iff_eq, beq_iff_eq]
  by_cases hc : c.toNat < 0x80
  · rw [utf8EncodeChar_of_lt hc, List.mem_singleton] at hb
    rw [hb, ← UInt8.toNat_inj, toNat_toUInt8 hc, toNat_toUInt8 hd]
    exact Char.toNat_inj
  · have hb : d.toUInt8 ≠ b := toUInt8_ne hd (le_of_mem_utf8EncodeChar hc hb)
    simp [hb.symm, ne_of_not_lt hc hd]

lemma isQuoteByte_eq (hb : b ∈ String.utf8EncodeChar c) : isQuoteByte b = isQuote c := by
  rw [isQuoteByte, beq_toUInt8 (by decide) hb, beq_toUInt8 (by decide) hb, isQuote]

lemma isBlankByte_eq (hb : b ∈ String.utf8EncodeChar c) : isBlankByte b = Text.isAsciiBlank c := by
  rw [isBlankByte, beq_toUInt8 (by decide) hb, beq_toUInt8 (by decide) hb,
    beq_toUInt8 (by decide) hb, beq_toUInt8 (by decide) hb, beq_toUInt8 (by decide) hb,
    Text.isAsciiBlank]

lemma byteNesting_eq (hb : b ∈ String.utf8EncodeChar c) :
    byteNesting depth b = nesting depth c := by
  rw [byteNesting, beq_toUInt8 (by decide) hb, beq_toUInt8 (by decide) hb, nesting]

/-! ## Bytes of operators -/

lemma lt_of_mem_symbol (hc : c ∈ op.symbol) : c.toNat < 0x80 := by
  have hall : ∀ c ∈ op.symbol, c.toNat < 0x80 := by cases op <;> simp [Operator.symbol]
  exact hall c hc

/-- A text starts with ASCII characters if its bytes start with theirs. -/
lemma isPrefixOf_encode {start : List Char} (hstart : ∀ d ∈ start, d.toNat < 0x80) (s : List Char) :
    (encode start).isPrefixOf (encode s) = (Text.dropStart? start s).isSome := by
  induction start generalizing s with
  | nil => rfl
  | cons d start ih =>
    obtain ⟨hd, hstart⟩ := List.forall_mem_cons.mp hstart
    rw [encode_cons_of_lt hd]
    cases s with
    | nil => rfl
    | cons c s =>
      rw [Text.dropStart?]
      by_cases hc : c.toNat < 0x80
      · have hbyte : (d.toUInt8 == c.toUInt8) = (d == c) :=
          beq_toUInt8 hc (toUInt8_mem hd)
        rw [encode_cons_of_lt hc, List.isPrefixOf_cons_cons, hbyte, ih hstart]
        by_cases hdc : d = c
        · simp [hdc]
        · simp [hdc]
      · obtain ⟨b, more, hbytes⟩ :=
          List.exists_cons_of_ne_nil (String.utf8EncodeChar_ne_nil (c := c))
        have hb : d.toUInt8 ≠ b :=
          toUInt8_ne hd (le_of_mem_utf8EncodeChar hc (hbytes ▸ List.mem_cons_self))
        rw [encode_cons, hbytes, List.cons_append, List.isPrefixOf_cons_cons]
        simp [hb, (ne_of_not_lt hc hd).symm]

/-- The operator at the start of the bytes of a text is the one at the start of the text. -/
lemma find?_encode (ops : List Operator) (s : List Char) :
    (ops.find? fun op => op.bytes.isPrefixOf (encode s)) = (operatorAt ops s).map Prod.fst := by
  induction ops with
  | nil => rfl
  | cons op ops ih =>
    rw [List.find?_cons, operatorAt, List.findSome?_cons, ← operatorAt, ih, Operator.bytes,
      isPrefixOf_encode fun c hc => lt_of_mem_symbol hc]
    cases Text.dropStart? op.symbol s <;> rfl

/-- No operator starts with a byte that is no ASCII character. -/
lemma find?_eq_none (hb : 0x80 ≤ b.toNat) (ops : List Operator) (bytes : List UInt8) :
    (ops.find? fun op => op.bytes.isPrefixOf (b :: bytes)) = none := by
  rw [List.find?_eq_none]
  intro op _
  obtain ⟨d, more, hsymbol⟩ := List.exists_cons_of_ne_nil op.symbol_ne_nil
  have hd : d.toNat < 0x80 := lt_of_mem_symbol (hsymbol ▸ List.mem_cons_self)
  rw [Operator.bytes, hsymbol, encode_cons_of_lt hd, List.isPrefixOf_cons_cons]
  simp [toUInt8_ne hd hb]

/-! ## The search at one byte -/

section Bytes

variable {before after : List UInt8}

lemma seek_nil (bytes : List UInt8) (quote : Option UInt8) :
    seek ops side bytes quote depth found bytes.length = found := by
  rw [seek, dif_neg (Nat.lt_irrefl _)]

/-- In a quoted part only its last byte matters. -/
lemma seek_quoted (q : UInt8) :
    seek ops side (before ++ b :: after) (some q) depth found before.length =
      seek ops side (before ++ b :: after) (if b == q then none else some q) depth found
        (before.length + 1) := by
  rw [seek, dif_pos (by simp)]
  simp

/-- A quotation mark begins a quoted part. -/
lemma seek_quote (hquote : isQuoteByte b = true) :
    seek ops side (before ++ b :: after) none depth found before.length =
      seek ops side (before ++ b :: after) (some b) depth found (before.length + 1) := by
  rw [seek, dif_pos (by simp)]
  simp [hquote]

/-- A byte that is in brackets, or at which no operator starts, is passed over. -/
lemma seek_pass (hquote : isQuoteByte b = false)
    (hpass : byteNesting depth b = 0 →
      (ops.find? fun op => op.bytes.isPrefixOf (b :: after)) = none) :
    seek ops side (before ++ b :: after) none depth found before.length =
      seek ops side (before ++ b :: after) none (byteNesting depth b) found
        (before.length + 1) := by
  rw [seek, dif_pos (by simp)]
  by_cases hdepth : byteNesting depth b = 0
  · simp [hquote, hdepth, hpass hdepth]
  · simp [hquote, hdepth]

/-- An operator is taken if it has room, and passed over in any case. -/
lemma seek_operator (hquote : isQuoteByte b = false) (hdepth : byteNesting depth b = 0)
    (hop : (ops.find? fun op => op.bytes.isPrefixOf (b :: after)) = some op) :
    seek ops side (before ++ b :: after) none depth found before.length =
      if hasRoomAt (before ++ b :: after) op before.length then
        match side with
        | .leftmost => some (before.length, op)
        | .rightmost => seek ops side (before ++ b :: after) none 0 (some (before.length, op))
            (before.length + op.bytes.length)
      else seek ops side (before ++ b :: after) none 0 found
        (before.length + op.bytes.length) := by
  rw [seek, dif_pos (by simp)]
  simp [hquote, hdepth, hop]

end Bytes

/-! ## The search over a text -/

/-- The search over the bytes of a text from the end of its first part on. -/
def seekFrom (ops : List Operator) (side : Side) (quote : Option Char) (depth : ℕ)
    (found : Option (ℕ × Operator)) (front s : List Char) : Option (ℕ × Operator) :=
  seek ops side (encode (front ++ s)) (quote.map Char.toUInt8) depth found (encode front).length

lemma seekFrom_nil (quote : Option Char) (front : List Char) :
    seekFrom ops side quote depth found front [] = found := by
  rw [seekFrom, List.append_nil, seek_nil]

/-- At an ASCII character the search is at its byte. -/
lemma seekFrom_cons (hc : c.toNat < 0x80) (quote : Option Char) (front s : List Char) :
    seekFrom ops side quote depth found front (c :: s) =
      seek ops side (encode front ++ c.toUInt8 :: encode s) (quote.map Char.toUInt8) depth found
        (encode front).length := by
  rw [seekFrom, encode_append, encode_cons_of_lt hc]

/-- Behind an ASCII character the search is at the next byte. -/
lemma seekFrom_concat (hc : c.toNat < 0x80) (quote : Option Char) (front s : List Char) :
    seekFrom ops side quote depth found (front ++ [c]) s =
      seek ops side (encode front ++ c.toUInt8 :: encode s) (quote.map Char.toUInt8) depth found
        ((encode front).length + 1) := by
  rw [seekFrom, List.append_assoc, List.singleton_append, encode_append, encode_append,
    encode_cons_of_lt hc, encode_cons_of_lt hc, List.length_append]
  rfl

/-- The characters that mean something to the search are ASCII. -/
lemma of_not_lt (hc : ¬ c.toNat < 0x80) : isQuote c = false ∧ nesting depth c = depth := by
  have hne (d : Char) (hd : d.toNat < 0x80) : c ≠ d := ne_of_not_lt hc hd
  simp [isQuote, nesting, hne '"' (by decide), hne '\'' (by decide), hne '[' (by decide),
    hne ']' (by decide)]

lemma lt_of_isQuote (hq : isQuote q = true) : q.toNat < 0x80 := by
  by_contra hlt
  obtain ⟨hnone, -⟩ : isQuote q = false ∧ nesting 0 q = 0 := of_not_lt hlt
  rw [hnone] at hq
  cases hq

/-- The bytes of a character that is not ASCII are passed over. -/
lemma seek_skip (hc : ¬ c.toNat < 0x80) (hquote : Marked quote) {bytes : List UInt8}
    (hbytes : ∀ b ∈ bytes, b ∈ String.utf8EncodeChar c) (before after : List UInt8) :
    seek ops side (before ++ (bytes ++ after)) (quote.map Char.toUInt8) depth found before.length =
      seek ops side (before ++ (bytes ++ after)) (quote.map Char.toUInt8) depth found
        (before.length + bytes.length) := by
  induction bytes generalizing before with
  | nil => rfl
  | cons b bytes ih =>
    obtain ⟨hb, hbytes⟩ := List.forall_mem_cons.mp hbytes
    have hnext := ih hbytes (before ++ [b])
    rw [List.append_assoc, List.singleton_append, List.length_append, List.length_singleton,
      Nat.add_assoc, Nat.add_comm 1] at hnext
    rw [List.cons_append, List.length_cons, ← hnext]
    cases quote with
    | none =>
      obtain ⟨hnone, hdepth⟩ : isQuote c = false ∧ nesting depth c = depth := of_not_lt hc
      rw [Option.map_none, seek_pass ((isQuoteByte_eq hb).trans hnone)
        fun _ => find?_eq_none (le_of_mem_utf8EncodeChar hc hb) ops _, byteNesting_eq hb, hdepth]
    | some q =>
      have hq : q.toNat < 0x80 := lt_of_isQuote (hquote q rfl)
      have hbq : (b == q.toUInt8) = false := by
        rw [beq_toUInt8 hq hb, beq_eq_false_iff_ne]
        exact ne_of_not_lt hc hq
      rw [Option.map_some, seek_quoted, hbq, if_neg Bool.false_ne_true]

/-- A character that is not ASCII is passed over. -/
lemma seekFrom_skip (hc : ¬ c.toNat < 0x80) (hquote : Marked quote) (front s : List Char) :
    seekFrom ops side quote depth found front (c :: s) =
      seekFrom ops side quote depth found (front ++ [c]) s := by
  rw [seekFrom, seekFrom, List.append_assoc, List.singleton_append, encode_append, encode_cons,
    seek_skip hc hquote fun b hb => hb, encode_append, List.length_append, encode_singleton]

/-- In a quoted part only its last character matters. -/
lemma seekFrom_quoted (hq : isQuote q = true) (front s : List Char) :
    seekFrom ops side (some q) depth found front (c :: s) =
      seekFrom ops side (if c == q then none else some q) depth found (front ++ [c]) s := by
  by_cases hc : c.toNat < 0x80
  · have hbyte : (c.toUInt8 == q.toUInt8) = (c == q) :=
      beq_toUInt8 (lt_of_isQuote hq) (toUInt8_mem hc)
    rw [seekFrom_cons hc, seekFrom_concat hc, Option.map_some, seek_quoted, hbyte]
    split <;> rfl
  · have hcq : c ≠ q := ne_of_not_lt hc (lt_of_isQuote hq)
    rw [seekFrom_skip hc (marked_some hq), if_neg (by simpa using hcq)]

/-- A quotation mark begins a quoted part. -/
lemma seekFrom_quote (hc : isQuote c = true) (front s : List Char) :
    seekFrom ops side none depth found front (c :: s) =
      seekFrom ops side (some c) depth found (front ++ [c]) s := by
  have hlt := lt_of_isQuote hc
  have hbyte : isQuoteByte c.toUInt8 = true :=
    (isQuoteByte_eq (toUInt8_mem hlt)).trans hc
  rw [seekFrom_cons hlt, seekFrom_concat hlt, Option.map_none, seek_quote hbyte, Option.map_some]

/-- A character that is in brackets, or at which no operator starts, is passed over. -/
lemma seekFrom_pass (hquote : isQuote c = false)
    (hpass : nesting depth c = 0 → operatorAt ops (c :: s) = none) (front : List Char) :
    seekFrom ops side none depth found front (c :: s) =
      seekFrom ops side none (nesting depth c) found (front ++ [c]) s := by
  by_cases hc : c.toNat < 0x80
  · have hmem := toUInt8_mem hc
    have hnone : byteNesting depth c.toUInt8 = 0 →
        (ops.find? fun op => op.bytes.isPrefixOf (c.toUInt8 :: encode s)) = none := by
      intro hdepth
      rw [byteNesting_eq hmem] at hdepth
      rw [← encode_cons_of_lt hc, find?_encode, hpass hdepth, Option.map_none]
    rw [seekFrom_cons hc, seekFrom_concat hc, Option.map_none,
      seek_pass ((isQuoteByte_eq hmem).trans hquote) hnone, byteNesting_eq hmem]
  · rw [seekFrom_skip hc marked_none, (of_not_lt hc).2]

/-- There is room between bytes if there are blanks, where they are needed. -/
lemma hasRoomAt_append (op : Operator) (before after : List UInt8) (b b' : UInt8) :
    hasRoomAt (before ++ b :: (op.bytes ++ b' :: after)) op (before.length + 1) =
      (!op.needsBlanks || (isBlankByte b && isBlankByte b')) := by
  have hstop : before.length + 1 + op.bytes.length = (before ++ b :: op.bytes).length := by
    rw [List.length_append, List.length_cons]
    omega
  have hbytes : before ++ b :: (op.bytes ++ b' :: after) =
      before ++ b :: op.bytes ++ b' :: after := by simp
  have hbehind : (before ++ b :: (op.bytes ++ b' :: after))[before.length + 1 + op.bytes.length]? =
      some b' := by
    rw [hbytes, hstop, List.getElem?_append_right (Nat.le_refl _), Nat.sub_self,
      List.getElem?_cons_zero]
  have hfront : (before ++ b :: (op.bytes ++ b' :: after))[before.length + 1 - 1]? = some b := by
    rw [Nat.add_sub_cancel, List.getElem?_append_right (Nat.le_refl _), Nat.sub_self,
      List.getElem?_cons_zero]
  have hroom : before.length + 1 + op.bytes.length <
      (before ++ b :: (op.bytes ++ b' :: after)).length := (List.getElem?_eq_some_iff.mp hbehind).1
  simp only [hasRoomAt, hroom, hbehind, hfront, Nat.succ_pos, decide_true, Bool.true_and,
    Option.any_some]

/-- There is room between the bytes of two texts if there is between the texts. -/
lemma hasRoomAt_encode (op : Operator) (front after : List Char) :
    hasRoomAt (encode front ++ (op.bytes ++ encode after)) op (encode front).length =
      hasRoom op front.reverse after := by
  rcases List.eq_nil_or_concat front with rfl | ⟨front, d, rfl⟩
  · rfl
  · rw [List.concat_eq_append, List.reverse_append, List.reverse_singleton, List.singleton_append]
    cases after with
    | nil =>
      have hend : ∀ bytes : List UInt8,
          ¬ bytes.length + op.bytes.length < (bytes ++ (op.bytes ++ encode [])).length := by
        simp [encode_nil]
      simp only [hasRoomAt, hend, decide_false, Bool.and_false, Bool.false_and, hasRoom]
    | cons a after =>
      obtain ⟨bytes, b, hfront⟩ := (List.eq_nil_or_concat (String.utf8EncodeChar d)).resolve_left
        String.utf8EncodeChar_ne_nil
      obtain ⟨b', more, hafter⟩ := List.exists_cons_of_ne_nil
        (String.utf8EncodeChar_ne_nil (c := a))
      have hroom := hasRoomAt_append op (encode front ++ bytes) (more ++ encode after) b b'
      have hb : b ∈ String.utf8EncodeChar d := by simp [hfront]
      have hb' : b' ∈ String.utf8EncodeChar a := by simp [hafter]
      rw [isBlankByte_eq hb, isBlankByte_eq hb'] at hroom
      simpa [encode_append, encode_cons, encode_nil, hfront, hafter, hasRoom,
        Nat.add_assoc] using hroom

/-- An operator is taken if it has room, and passed over in any case. -/
lemma seekFrom_operator (hdepth : nesting depth c = 0)
    (hop : operatorAt ops (c :: s) = some (op, after)) (front : List Char) :
    seekFrom ops side none depth found front (c :: s) =
      if hasRoom op front.reverse after then
        match side with
        | .leftmost => some ((encode front).length, op)
        | .rightmost =>
          seekFrom ops side none 0 (some ((encode front).length, op)) (front ++ op.symbol) after
      else seekFrom ops side none 0 found (front ++ op.symbol) after := by
  have htext : op.symbol ++ after = c :: s := append_of_operatorAt hop
  have hsymbol : c ∈ op.symbol := by
    obtain ⟨d, more, hcons⟩ := List.exists_cons_of_ne_nil op.symbol_ne_nil
    rw [hcons, List.cons_append] at htext
    rw [hcons, (List.cons.inj htext).1]
    exact List.mem_cons_self
  have hc : c.toNat < 0x80 := lt_of_mem_symbol hsymbol
  have hmem := toUInt8_mem hc
  have hbytes : c.toUInt8 :: encode s = op.bytes ++ encode after := by
    rw [← encode_cons_of_lt hc, ← htext, encode_append, Operator.bytes]
  have hfind : (ops.find? fun op => op.bytes.isPrefixOf (c.toUInt8 :: encode s)) = some op := by
    rw [← encode_cons_of_lt hc, find?_encode, hop, Option.map_some]
  have hnext (found : Option (ℕ × Operator)) :
      seek ops side (encode front ++ c.toUInt8 :: encode s) none 0 found
        ((encode front).length + op.bytes.length) =
      seekFrom ops side none 0 found (front ++ op.symbol) after := by
    rw [seekFrom, hbytes, Operator.bytes, encode_append, encode_append, List.length_append,
      List.append_assoc, Option.map_none]
  rw [seekFrom_cons hc, Option.map_none, seek_operator
    ((isQuoteByte_eq hmem).trans (not_quote_of_mem_symbol hsymbol).1)
    ((byteNesting_eq hmem).trans hdepth) hfind, hnext, hnext, hbytes, hasRoomAt_encode]

/-! ## The search and the cuts -/

/-- The offset at which the operator of a cut starts, and the operator. -/
def Cut.place (cut : Cut) : ℕ × Operator := ((encode cut.left).length, cut.op)

/-- The search finds the place of the outermost cut. -/
lemma seekFrom_eq (hquote : Marked quote) (found : Option (ℕ × Operator)) :
    seekFrom ops side quote depth found before.reverse s =
      ((side.pick (cuts ops quote depth before s)).map Cut.place).or found := by
  have hfront (op : Operator) (before : List Char) :
      before.reverse ++ op.symbol = (op.symbol.reverse ++ before).reverse := by simp
  fun_induction cuts ops quote depth before s generalizing found with
  | case1 =>
    rw [seekFrom_nil]
    cases side <;> rfl
  | case2 depth before c rest q ih =>
    simp only [dite_eq_ite] at ih
    rw [seekFrom_quoted (hquote q rfl), ← List.reverse_cons, ih (hquote.closed c)]
  | case3 depth before c rest hc ih =>
    rw [seekFrom_quote hc, ← List.reverse_cons, ih (marked_some hc)]
  | case4 depth before c rest hc hdepth op after hop hlt later hroom ih =>
    rw [seekFrom_operator hdepth hop, List.reverse_reverse, if_pos hroom]
    cases side with
    | leftmost => rfl
    | rightmost =>
      simp only [hfront, ih marked_none, Side.pick, List.getLast?_cons]
      cases later.getLast? with
      | none => simp [Cut.place]
      | some cut => simp
  | case5 depth before c rest hc hdepth op after hop hlt later hroom ih =>
    rw [seekFrom_operator hdepth hop, List.reverse_reverse, if_neg hroom, hfront, ih marked_none]
  | case6 depth before c rest hc hdepth hop ih =>
    rw [seekFrom_pass (by simpa using hc) fun _ => hop, ← List.reverse_cons, hdepth, ih marked_none]
  | case7 depth before c rest hc hdepth ih =>
    rw [seekFrom_pass (by simpa using hc) fun hzero => absurd hzero hdepth, ← List.reverse_cons,
      ih marked_none]

/-- The search finds the place of the outermost cut of the text. -/
lemma place?_eq (ops : List Operator) (side : Side) (e : String) :
    place? ops side e = (side.pick (cuts ops none 0 [] e.toList)).map Cut.place := by
  have hseek : seekFrom ops side none 0 none [].reverse e.toList = _ := seekFrom_eq marked_none none
  rwa [List.reverse_nil, seekFrom, List.nil_append, encode_nil, ← toList_data_toByteArray,
    Option.or_none] at hseek

end Dataflow.Expr
