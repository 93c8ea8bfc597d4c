import Dataflow.Url.Basic
import Dataflow.Url.Encoding
import Dataflow.Proofs.Text.Pieces
import Dataflow.Proofs.Text.Utf8

/-!
# Queries made of pairs

A query is read as a form: it is cut at every `&`, each part is cut at its first `=`, and a plus
sign stands for a blank, a percent sign for a byte (`formPairs`). A pair that is added to a query is
read back from it, whatever its key and its value are, and the pairs that were there before stay
(`formPairs_extendQuery`).
-/

namespace Dataflow.Url

/-! ## Reading forms -/

/-- In a form a plus sign stands for a blank. -/
def plusAsBlank (c : Char) : Char := if c == '+' then ' ' else c

/-- The text that a part of a form writes. -/
def readFormText (s : List Char) : String :=
  String.ofList (Text.decodeUtf8Lossy (Text.percentDecode (s.map plusAsBlank)))

/-- The pair that a part of a form writes; a part without `=` is a key with an empty value. -/
def readFormPair (s : List Char) : String × String :=
  match Text.cutAt '=' s with
  | some (key, value) => (readFormText key, readFormText value)
  | none => (readFormText s, "")

/-- The parts of a form. Empty ones do not count. -/
def formParts (s : List Char) : List (List Char) :=
  (Text.splitOn '&' s).filter fun part => !part.isEmpty

/-- The pairs that a query writes. -/
def formPairs (query : Option (List Char)) : List (String × String) :=
  (formParts (query.getD [])).map readFormPair

/-! ## A pair is read back -/

/-- A byte of a form is read back. -/
lemma percentDecode_formByte {b : ℕ} (hb : b < 256) (rest : List Char) :
    Text.percentDecode ((formByte b).map plusAsBlank ++ rest) = b :: Text.percentDecode rest := by
  by_cases hblank : b = 0x20
  · subst hblank
    exact Text.percentDecode_cons (c := ' ') (by decide) rest
  by_cases hsafe : b < 0x80 ∧ ((Char.ofNat b).isAlphanum || "*-._".toList.contains (Char.ofNat b))
  · -- such a character is neither a plus nor a percent sign
    have hall : ∀ b < 0x80, (Char.ofNat b).isAlphanum || "*-._".toList.contains (Char.ofNat b) →
        (Char.ofNat b).toNat = b ∧ Char.ofNat b ≠ '%' ∧
          plusAsBlank (Char.ofNat b) = Char.ofNat b := by
      decide +kernel
    obtain ⟨hnat, hpercent, hplus⟩ := hall b hsafe.1 hsafe.2
    rw [formByte, if_neg (by simpa using hblank), if_pos (by simpa using hsafe), List.map_singleton,
      hplus, List.singleton_append, Text.percentDecode_cons ⟨hnat.trans_lt hsafe.1, hpercent⟩, hnat]
  · have hall : ∀ b < 256, (Text.percentByte b).map plusAsBlank = Text.percentByte b := by
      decide +kernel
    rw [formByte, if_neg (by simpa using hblank), if_neg (by simpa using hsafe), hall b hb,
      Text.percentDecode_percentByte hb]

/-- Bytes of a form are read back. -/
lemma percentDecode_flatMap_formByte {bytes : List ℕ} (hbytes : ∀ b ∈ bytes, b < 256) :
    Text.percentDecode ((bytes.flatMap formByte).map plusAsBlank) = bytes := by
  induction bytes with
  | nil => rfl
  | cons b bytes ih =>
    obtain ⟨hb, hbytes⟩ := List.forall_mem_cons.mp hbytes
    rw [List.flatMap_cons, List.map_append, percentDecode_formByte hb, ih hbytes]

/-- A text is read back from its form. -/
lemma readFormText_formText (s : String) : readFormText (formText s) = s := by
  have hbytes : formText s = (s.toList.flatMap Text.utf8Bytes).flatMap formByte := by
    rw [formText, List.flatMap_assoc]
  have hlt : ∀ b ∈ s.toList.flatMap Text.utf8Bytes, b < 256 := fun b hb => by
    obtain ⟨c, -, hb⟩ := List.mem_flatMap.mp hb
    exact Text.lt_of_mem_utf8Bytes hb
  rw [readFormText, hbytes, percentDecode_flatMap_formByte hlt, Text.decodeUtf8Lossy_flatMap,
    String.ofList_toList]

/-- The form of a text holds no mark between pairs or inside them. -/
lemma ne_mark_of_mem_formText {s : String} {c : Char} (hc : c ∈ formText s) :
    c ≠ '&' ∧ c ≠ '=' := by
  have hall : ∀ b < 256, (formByte b).all (fun c => c != '&' && c != '=') := by decide +kernel
  obtain ⟨d, -, hc⟩ := List.mem_flatMap.mp hc
  obtain ⟨b, hb, hc⟩ := List.mem_flatMap.mp hc
  simpa using List.all_eq_true.mp (hall b (Text.lt_of_mem_utf8Bytes hb)) c hc

/-- A pair is read back from its form. -/
lemma readFormPair_formPair (key value : String) :
    readFormPair (formPair key value) = (key, value) := by
  have hcut : Text.cutAt '=' (formPair key value) = some (formText key, formText value) :=
    Text.cutAt_append (fun hmem => (ne_mark_of_mem_formText hmem).2 rfl) _
  rw [readFormPair, hcut]
  simp only [readFormText_formText]

/-! ## A query is read back -/

/-- A text with a separator has the parts of what stands before it and of what stands after it. -/
lemma formParts_append (front back : List Char) :
    formParts (front ++ '&' :: back) = formParts front ++ formParts back := by
  simp only [formParts, Text.splitOn_eq, List.splitOn_append_cons_self, List.filter_append]

/-- The form of a pair is one part. -/
lemma formParts_formPair (key value : String) :
    formParts (formPair key value) = [formPair key value] := by
  have hnone : '&' ∉ formPair key value := by
    rw [formPair, List.mem_append, List.mem_cons]
    rintro (hkey | hmark | hvalue)
    · exact (ne_mark_of_mem_formText hkey).1 rfl
    · exact absurd hmark (by decide)
    · exact (ne_mark_of_mem_formText hvalue).1 rfl
  rw [formParts, Text.splitOn_eq, List.splitOn_eq_singleton hnone]
  exact List.filter_cons_of_pos (by simp [formPair])

/-- Texts joined by separators have the parts of all of them. -/
lemma formParts_intercalate (parts : List (List Char)) :
    formParts (List.intercalate ['&'] parts) = parts.flatMap formParts := by
  induction parts with
  | nil => rfl
  | cons part parts ih =>
    cases parts with
    | nil => simp
    | cons next more =>
      rw [List.intercalate_cons_cons, List.append_assoc, List.singleton_append, formParts_append,
        ih]
      rfl

/-- Pairs are read back from their forms. -/
lemma readFormPair_formPairs (pairs : List (String × String)) :
    ((pairs.map fun pair => formPair pair.1 pair.2).flatMap formParts).map readFormPair =
      pairs := by
  rw [List.flatMap_map, List.flatMap_congr fun pair _ => formParts_formPair pair.1 pair.2,
    ← List.map_eq_flatMap, List.map_map]
  exact (List.map_congr_left fun pair _ => readFormPair_formPair pair.1 pair.2).trans
    (List.map_id pairs)

/-- The pairs of a query and those that are added to it are read back. -/
lemma formPairs_extendQuery (query : Option (List Char)) (pairs : List (String × String)) :
    formPairs (extendQuery query pairs) = formPairs query ++ pairs := by
  have htext : ∀ all : List Char, (if all.isEmpty then none else some all).getD [] = all := by
    intro all
    cases all with
    | nil => rfl
    | cons => rfl
  rw [formPairs, extendQuery, htext, formParts_intercalate, formPairs]
  by_cases hold : (query.getD []).isEmpty
  · rw [if_pos hold, List.isEmpty_iff.mp hold]
    exact readFormPair_formPairs pairs
  · rw [if_neg hold, List.flatMap_cons, List.map_append]
    exact congrArg (_ ++ ·) (readFormPair_formPairs pairs)

/-! ## The length of a query -/

/-- A text is not shorter in a form. -/
lemma length_le_formText (s : String) : s.length ≤ (formText s).length := by
  have hchar : ∀ c, 1 ≤ ((Text.utf8Bytes c).flatMap formByte).length := by
    intro c
    have hbyte : ∀ b < 256, formByte b ≠ [] := by decide +kernel
    obtain ⟨b, hb⟩ := List.exists_mem_of_ne_nil _ (Text.utf8Bytes_ne_nil c)
    refine List.length_pos_iff.mpr fun hnil => ?_
    exact hbyte b (Text.lt_of_mem_utf8Bytes hb) (List.flatMap_eq_nil_iff.mp hnil b hb)
  rw [formText, ← String.length_toList]
  induction s.toList with
  | nil => exact Nat.zero_le _
  | cons c s ih =>
    rw [List.flatMap_cons, List.length_append, List.length_cons]
    have hc := hchar c
    omega

/-- A text is not longer than one that it is joined to others in. -/
lemma length_le_intercalate {part : List Char} {parts : List (List Char)} (h : part ∈ parts) :
    part.length ≤ (List.intercalate ['&'] parts).length := by
  induction parts with
  | nil => cases h
  | cons next parts ih =>
    cases parts with
    | nil =>
      obtain rfl := List.mem_singleton.mp h
      simp
    | cons more rest =>
      rw [List.intercalate_cons_cons, List.length_append, List.length_append]
      rcases List.mem_cons.mp h with rfl | h
      · omega
      · have hrest := ih h
        omega

/-- A query is not shorter than the value of a pair that is added to it. -/
lemma exists_extendQuery {key value : String} {pairs : List (String × String)}
    (h : (key, value) ∈ pairs) (query : Option (List Char)) :
    ∃ q, extendQuery query pairs = some q ∧ value.length ≤ q.length := by
  have hpair : formPair key value ∈ pairs.map fun pair => formPair pair.1 pair.2 :=
    List.mem_map_of_mem h
  have hall : ∀ all, formPair key value ∈ all →
      value.length < (List.intercalate ['&'] all).length := by
    intro all hmem
    have hlength := length_le_intercalate hmem
    have hvalue := length_le_formText value
    rw [formPair, List.length_append, List.length_cons] at hlength
    omega
  obtain ⟨all, hmem, hquery⟩ : ∃ all, formPair key value ∈ all ∧
      extendQuery query pairs = (if (List.intercalate ['&'] all).isEmpty then none
        else some (List.intercalate ['&'] all)) := by
    by_cases hold : (query.getD []).isEmpty
    · exact ⟨_, hpair, by rw [extendQuery, if_pos hold]⟩
    · exact ⟨_, List.mem_cons_of_mem _ hpair, by rw [extendQuery, if_neg hold]⟩
  refine ⟨_, hquery.trans (if_neg ?_), (hall all hmem).le⟩
  rw [List.isEmpty_iff]
  intro hnil
  have hlength := hall all hmem
  rw [hnil] at hlength
  exact absurd hlength (Nat.not_lt_zero _)

/-- A URL is not shorter than its query. -/
lemma length_query_le {url : Url} {q : List Char} (h : url.query = some q) :
    q.length ≤ url.toText.utf8ByteSize := by
  refine le_trans ?_ (Text.length_le_utf8ByteSize url.text)
  rw [text, h]
  simp only [List.length_append, List.length_cons]
  omega

end Dataflow.Url
