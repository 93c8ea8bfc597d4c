import Dataflow.Json.Reader
import Dataflow.Proofs.Keyed
import Dataflow.Proofs.Json.Scan

/-!
# Reading what was written

The tokens of a value take the reader from the start of a value to what it does with a whole value,
if the containers that are open and those in the value do not nest too deeply, and else nowhere
(`Json.WellFormed.reads`). So a value without doubles is read back from its text unless it nests
too deeply, and then its text is refused (`Json.Integral.parse?_compact`).
-/

namespace Dataflow

namespace Json

mutual

/-- How deeply the arrays and objects in the value nest. -/
def depth : Json → ℕ
  | .array items => depthOfItems items + 1
  | .object fields => depthOfFields fields + 1
  | _ => 0

/-- How deeply the deepest of the items nests. -/
def depthOfItems : List Json → ℕ
  | [] => 0
  | v :: items => max (depth v) (depthOfItems items)

/-- How deeply the value of the deepest of the fields nests. -/
def depthOfFields : List (String × Json) → ℕ
  | [] => 0
  | (_, v) :: fields => max (depth v) (depthOfFields fields)

end

/-- The objects in the value hold their fields in the order of the keys, each key once. -/
inductive WellFormed : Json → Prop
  | null : WellFormed .null
  | bool (b : Bool) : WellFormed (.bool b)
  | number (n : Number) : WellFormed (.number n)
  | string (s : String) : WellFormed (.string s)
  | array {items : List Json} (h : ∀ v ∈ items, WellFormed v) : WellFormed (.array items)
  | object {fields : Fields} (hsorted : Keyed.Sorted fields)
    (h : ∀ entry ∈ fields, WellFormed entry.2) : WellFormed (.object fields)

/-- The tokens of the value are read as one value that starts inside the given containers: the
reader hands the value on unless it nests too deeply there. -/
def Reads (v : Json) : Prop :=
  ∀ frames ts, frames.length ≤ maxDepth →
    readTokens (.within frames .value) (tokensOf v ++ ts) =
      if frames.length + depth v ≤ maxDepth then readTokens (deliver v frames) ts else none

/-- Two values fit beneath the containers that are open if the deeper one does. -/
lemma ite_fits_max {α : Type} (k m n : ℕ) (a b : α) :
    (if k + m ≤ maxDepth then if k + n ≤ maxDepth then a else b else b) =
      if k + max m n ≤ maxDepth then a else b := by
  rw [← ite_and]
  exact if_congr (by omega) rfl rfl

variable {frames : List Frame} {ts : List Token}

/-- A token that can be read is left behind. -/
lemma readTokens_cons {p q : Progress} {t : Token} (h : readToken p t = some q) :
    readTokens p (t :: ts) = readTokens q ts := by
  rw [readTokens, List.foldlM_cons, h]
  rfl

/-- The rest of an array is read, from the end of one of its items on. -/
lemma readTokens_tokensOfItems {items : List Json} (hitems : ∀ v ∈ items, v.Reads)
    (read : List Json) (hframes : frames.length + 1 ≤ maxDepth) (ts : List Token) :
    readTokens (.within (.array read :: frames) .separator)
        (tokensOfItems items ++ .closeArray :: ts) =
      if frames.length + 1 + depthOfItems items ≤ maxDepth then
        readTokens (deliver (.array (read.reverse ++ items)) frames) ts
      else none := by
  induction items generalizing read with
  | nil =>
    rw [tokensOfItems, List.nil_append, depthOfItems, add_zero, if_pos hframes, List.append_nil]
    exact readTokens_cons rfl
  | cons v items ih =>
    have hv := hitems v List.mem_cons_self (.array read :: frames)
      (tokensOfItems items ++ .closeArray :: ts) hframes
    have hrest := ih (fun w hw => hitems w (List.mem_cons_of_mem v hw)) (v :: read)
    rw [tokensOfItems, List.cons_append, List.append_assoc, readTokens_cons rfl, hv, deliver, hrest,
      List.length_cons, depthOfItems, ite_fits_max, List.reverse_cons, List.append_assoc,
      List.singleton_append]

/-- The rest of an object is read, from the end of one of its fields on. -/
lemma readTokens_tokensOfFields {fields : List (String × Json)}
    (hfields : ∀ entry ∈ fields, entry.2.Reads) (read : Fields) (key : String)
    (hframes : frames.length + 1 ≤ maxDepth) (ts : List Token) :
    readTokens (.within (.object read key :: frames) .separator)
        (tokensOfFields fields ++ .closeObject :: ts) =
      if frames.length + 1 + depthOfFields fields ≤ maxDepth then
        readTokens (deliver (.object (Keyed.putAll read fields)) frames) ts
      else none := by
  induction fields generalizing read key with
  | nil =>
    rw [tokensOfFields, List.nil_append, depthOfFields, add_zero, if_pos hframes]
    exact readTokens_cons rfl
  | cons entry fields ih =>
    obtain ⟨next, v⟩ := entry
    have hv := hfields _ List.mem_cons_self (.object read next :: frames)
      (tokensOfFields fields ++ .closeObject :: ts) hframes
    have hrest := ih (fun w hw => hfields w (List.mem_cons_of_mem _ hw)) (Keyed.put read next v)
      next
    rw [tokensOfFields, List.cons_append, List.cons_append, List.cons_append, List.append_assoc,
      readTokens_cons rfl, readTokens_cons rfl, readTokens_cons rfl, hv, deliver, hrest,
      List.length_cons, depthOfFields, ite_fits_max]
    rfl

/-- Reading a container opens a frame, and fails if it stands too deep inside others for that. -/
lemma readTokens_openFrame {frame : Frame} {need : Need} {t : Token} {d : ℕ} {r : Option Progress}
    (hopen : readToken (.within frames .value) t = openFrame frame need frames)
    (hinside : frames.length + 1 ≤ maxDepth → readTokens (.within (frame :: frames) need) ts =
      if frames.length + 1 + d ≤ maxDepth then r else none) :
    readTokens (.within frames .value) (t :: ts) =
      if frames.length + (d + 1) ≤ maxDepth then r else none := by
  have hstep : readTokens (.within frames .value) (t :: ts) =
      (openFrame frame need frames).bind fun p => readTokens p ts := by
    rw [← hopen]
    rfl
  rw [hstep, openFrame, ← add_assoc, add_right_comm]
  split
  · rename_i hframes
    exact hinside hframes
  · rw [if_neg (by omega)]
    rfl

/-- A value may also start where an array may end. -/
lemma readTokens_valueOrClose (v : Json) :
    readTokens (.within frames .valueOrClose) (tokensOf v ++ ts) =
      readTokens (.within frames .value) (tokensOf v ++ ts) := by
  cases v with
  | array items => cases items <;> rfl
  | object fields => cases fields <;> rfl
  | _ => rfl

/-- Every value is read from its tokens. -/
lemma WellFormed.reads {v : Json} (hv : v.WellFormed) : v.Reads := by
  induction hv with
  | null =>
    intro frames ts hframes
    exact (if_pos hframes).symm
  | bool b =>
    intro frames ts hframes
    exact (if_pos hframes).symm
  | number n =>
    intro frames ts hframes
    exact (if_pos hframes).symm
  | string s =>
    intro frames ts hframes
    exact (if_pos hframes).symm
  | @array items _ ih =>
    intro frames ts _
    rw [depth]
    cases items with
    | nil =>
      rw [tokensOf, List.cons_append]
      refine readTokens_openFrame rfl fun hframes => ?_
      rw [depthOfItems, add_zero, if_pos hframes]
      rfl
    | cons v items =>
      rw [tokensOf, List.cons_append, List.append_assoc, List.append_assoc]
      refine readTokens_openFrame rfl fun hframes => ?_
      have hv := ih v List.mem_cons_self (.array [] :: frames)
        (tokensOfItems items ++ ([.closeArray] ++ ts)) hframes
      have hrest := readTokens_tokensOfItems
        (fun w hw => ih w (List.mem_cons_of_mem v hw)) [v] hframes ts
      rw [readTokens_valueOrClose, hv, deliver, List.singleton_append, hrest, List.length_cons,
        ite_fits_max, depthOfItems]
      rfl
  | @object fields hsorted _ ih =>
    intro frames ts _
    rw [depth]
    cases fields with
    | nil =>
      rw [tokensOf, List.cons_append]
      refine readTokens_openFrame rfl fun hframes => ?_
      rw [depthOfFields, add_zero, if_pos hframes]
      rfl
    | cons entry fields =>
      obtain ⟨key, v⟩ := entry
      rw [tokensOf, List.cons_append, List.cons_append, List.cons_append, List.append_assoc,
        List.append_assoc]
      refine readTokens_openFrame rfl fun hframes => ?_
      have hv := ih (key, v) List.mem_cons_self (.object [] key :: frames)
        (tokensOfFields fields ++ ([.closeObject] ++ ts)) hframes
      have hrest := readTokens_tokensOfFields
        (fun w hw => ih w (List.mem_cons_of_mem _ hw)) [(key, v)] key hframes ts
      have hfields : Keyed.putAll [(key, v)] fields = (key, v) :: fields := hsorted.ofEntries_eq
      rw [readTokens_cons rfl, readTokens_cons rfl, hv, deliver, List.singleton_append, Keyed.put,
        hrest, hfields, List.length_cons, ite_fits_max, depthOfFields]

/-- A value without doubles is read back from its text if its containers do not nest too deeply, and
else its text is refused. -/
lemma Integral.parse?_compact {v : Json} (hv : v.Integral) (hwf : v.WellFormed) :
    parse? v.compact = if v.depth ≤ maxDepth then some v else none := by
  have hread := hwf.reads [] [] (Nat.zero_le _)
  rw [List.append_nil, List.length_nil, zero_add] at hread
  rw [parse?, compact, String.toList_ofList, parseChars?, hv.tokens_compactChars]
  simp only [Option.bind_eq_bind, Option.bind_some, hread]
  split <;> rfl

end Json

end Dataflow
