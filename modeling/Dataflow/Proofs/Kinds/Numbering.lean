import Dataflow.Kinds.Loop
import Dataflow.Proofs.Decimal.Value
import Dataflow.Proofs.Decode.Record

/-!
# The items that a loop numbers

A loop node with a valid configuration asks for a number of iterations (`Kinds.AsksFor`), and its
inputs list items (`Kinds.Listed`). It yields the first of these items with their numbers, as many
as the whole part of the number says, but never more than a thousand (`Kinds.runLoop_numbers`).
-/

namespace Dataflow.Kinds

variable {config v : Json} {inputs : Fields} {requested : Option Float} {x : Float}

/-! ### What is asked for -/

/-- The number that a value tells: itself, or the one that its text writes between blanks. -/
inductive Tells : Json → Float → Prop
  | number (n : Number) : Tells (.number n) n.toFloat
  | text {s : String} {x : Float} (hread : Decimal.readFloat (Text.trim s.toList) = some x) :
    Tells (.string s) x

/-- The value of `maxIterations`: the member with this name, or the only item of a list. -/
def maxIterations? : Json → Option Json
  | .object fields => Keyed.value? fields "maxIterations"
  | .array items => items.head?
  | _ => none

/-- A configuration asks for a hundred iterations if it does not say how many, or says `null`. -/
inductive AsksFor (config : Json) : Float → Prop
  | unset (hunset : maxIterations? config = none ∨ maxIterations? config = some .null) :
    AsksFor config 100
  | set {v : Json} {x : Float} (hset : maxIterations? config = some v) (htells : Tells v x) :
    AsksFor config x

/-- What is read off a value is the number that it tells, and nothing off `null`. -/
lemma of_readLenientNumber (h : v.readLenientNumber = .ok requested) :
    v = .null ∧ requested = none ∨ ∃ x, Tells v x ∧ requested = some x := by
  cases v with
  | null =>
    cases h
    exact .inl ⟨rfl, rfl⟩
  | number n =>
    cases h
    exact .inr ⟨_, .number n, rfl⟩
  | string s =>
    rw [Json.readLenientNumber] at h
    cases hread : Decimal.readFloat (Text.trim s.toList) with
    | some x =>
      rw [hread] at h
      cases h
      exact .inr ⟨x, .text hread, rfl⟩
    | none =>
      rw [hread] at h
      cases h
  | bool b => cases h
  | array items => cases h
  | object fields => cases h

/-- What is read off a valid configuration is what it gives for the limit. -/
lemma of_readIterations (h : readIterations config = .ok requested) :
    maxIterations? config = none ∧ requested = none ∨
      ∃ v, maxIterations? config = some v ∧ v.readLenientNumber = .ok requested := by
  obtain ⟨members, hmembers, hdecode⟩ := ok_of_bind h
  cases config with
  | object fields =>
    cases hmembers
    obtain ⟨-, -, hget⟩ := ok_of_bind hdecode
    cases Record.gives_of_get rfl hget with
    | entry v hvalue hread => exact .inr ⟨v, hvalue, hread⟩
    | default hvalue hdefault => exact .inl ⟨hvalue, (Option.some.inj hdefault).symm⟩
  | array items =>
    cases hmembers
    obtain ⟨r, hget, hlength⟩ := ok_of_bind hdecode
    obtain rfl : r = requested := by
      split at hlength
      · cases hlength
      · exact Except.ok.inj hlength
    cases items with
    | nil => exact .inl ⟨rfl, (Except.ok.inj hget).symm⟩
    | cons v items => exact .inr ⟨v, rfl, hget⟩
  | null => cases hmembers
  | bool b => cases hmembers
  | number n => cases hmembers
  | string s => cases hmembers

/-- The number asked for is the one that was read, or a hundred. -/
lemma asksFor_of_readIterations (h : readIterations config = .ok requested) :
    AsksFor config (requested.getD defaultIterations) := by
  rcases of_readIterations h with ⟨hunset, rfl⟩ | ⟨v, hset, hread⟩
  · exact .unset (.inl hunset)
  · rcases of_readLenientNumber hread with ⟨rfl, rfl⟩ | ⟨x, htells, rfl⟩
    · exact .unset (.inr hset)
    · exact .set hset htells

/-! ### The limit -/

/-- The limit of a loop is the whole part of the number asked for, held below the ceiling. -/
lemma iterationLimit_eq (requested : Option Float) :
    iterationLimit requested =
      Decimal.wholePart loopCeiling (requested.getD defaultIterations) := by
  generalize hx : requested.getD defaultIterations = x
  have hzero : (0 : Float).isFinite = true := by decide +kernel
  have hceiling : (Float.ofNat loopCeiling).isFinite = true := by decide +kernel
  have hvalue : Decimal.value (Float.ofNat loopCeiling) = loopCeiling := by
    have hunpack : (Float.ofNat loopCeiling).toModel.unpack =
        .finite .positive (1000 * 2 ^ 43) (-43) (by decide) := rfl
    rw [Decimal.value, hunpack, Decimal.unpackedValue_positive]
    norm_num [loopCeiling]
  have hvalue0 : Decimal.value 0 = 0 := rfl
  rw [iterationLimit, Decimal.wholePart, hx]
  cases hnumber : x.isNaN with
  | true => rfl
  | false =>
    simp only [Bool.false_or, decide_eq_true_eq, Bool.false_eq_true, if_false]
    cases hfinite : x.isFinite with
    | true =>
      simp only [if_true, Decimal.lt_iff_value hfinite hzero,
        Decimal.lt_iff_value hceiling hfinite, hvalue0, hvalue]
      split
      · rename_i hneg
        rw [Nat.floor_of_nonpos hneg.le, Nat.zero_min]
      · rename_i hnonneg
        rw [not_lt] at hnonneg
        split
        · rename_i habove
          exact (min_eq_right (Nat.le_floor habove.le)).symm
        · rename_i hbelow
          rw [not_lt] at hbelow
          rw [Decimal.toNat_toUInt64 hfinite hnonneg (hbelow.trans_lt (by norm_num [loopCeiling])),
            min_eq_left (Nat.floor_le_of_le hbelow)]
    | false =>
      have hzero' : (0 : Float).isNaN = false := Decimal.isNaN_of_isFinite hzero
      have hceiling' : (Float.ofNat loopCeiling).isNaN = false :=
        Decimal.isNaN_of_isFinite hceiling
      simp only [Bool.false_eq_true, if_false, Decimal.lt_iff_order hnumber hzero',
        Decimal.lt_iff_order hceiling' hnumber, Decimal.order_swap x (Float.ofNat loopCeiling)]
      rcases Decimal.infinite_cases hnumber hfinite with habove | hbelow
      · rw [habove 0 hzero, habove _ hceiling]
        rfl
      · rw [hbelow 0 hzero]
        rfl

/-! ### What is listed -/

/-- A value as a list: an array as it is, and anything else as its only item. -/
def asList : Json → List Json
  | .array items => items
  | v => [v]

/-- The inputs list the items of the handle `items`, or else those of the handle `input`, where
`null` counts as no value; without any value they list nothing. -/
inductive Listed (inputs : Fields) : List Json → Prop
  | items {v : Json} (hitems : Keyed.value? inputs "items" = some v) (hnull : v ≠ .null) :
    Listed inputs (asList v)
  | input {v : Json} (hitems : ∀ u, Keyed.value? inputs "items" = some u → u = .null)
    (hinput : Keyed.value? inputs "input" = some v) (hnull : v ≠ .null) : Listed inputs (asList v)
  | nothing (hitems : ∀ u, Keyed.value? inputs "items" = some u → u = .null)
    (hinput : ∀ u, Keyed.value? inputs "input" = some u → u = .null) : Listed inputs []

/-- At a handle there is a value other than `null`, which is present, or there is none. -/
lemma present?_cases (inputs : Fields) (handle : String) :
    (∃ v, Keyed.value? inputs handle = some v ∧ v ≠ .null ∧
      Fields.present? inputs handle = some v) ∨
    (∀ v, Keyed.value? inputs handle = some v → v = .null) ∧
      Fields.present? inputs handle = none := by
  rw [Fields.present?]
  cases Keyed.value? inputs handle with
  | none => exact .inr ⟨nofun, rfl⟩
  | some v =>
    by_cases hnull : v = .null
    · subst hnull
      exact .inr ⟨fun v hv => (Option.some.inj hv).symm, rfl⟩
    · refine .inl ⟨v, rfl, hnull, ?_⟩
      cases v with
      | null => exact absurd rfl hnull
      | _ => rfl

/-- A value other than `null` is taken as a list. -/
lemma toItems_some (hnull : v ≠ .null) : toItems (some v) = asList v := by
  cases v with
  | null => exact absurd rfl hnull
  | _ => rfl

/-- A loop takes its items from what the inputs list. -/
lemma listed_toItems (inputs : Fields) :
    Listed inputs
      (toItems ((Fields.present? inputs "items").or (Fields.present? inputs "input"))) := by
  rcases present?_cases inputs "items" with ⟨v, hitems, hnull, hpresent⟩ | ⟨hitems, hpresent⟩
  · rw [hpresent, Option.some_or, toItems_some hnull]
    exact .items hitems hnull
  · rw [hpresent, Option.none_or]
    rcases present?_cases inputs "input" with ⟨v, hinput, hnull, hpresent⟩ | ⟨hinput, hpresent⟩
    · rw [hpresent, toItems_some hnull]
      exact .input hitems hinput hnull
    · rw [hpresent]
      exact .nothing hitems hinput

/-! ### The main result -/

/-- An item with its number is an object with both. -/
lemma numbered_eq (item : Json) (index : ℕ) :
    numbered item index = .object [("index", .ofNat index), ("item", item)] := by
  refine congrArg Json.object (Keyed.Sorted.ofEntries_eq ?_)
  exact List.pairwise_pair.mpr (by decide : "index" < "item")

/-- The items that are kept stand in their order, each with its number. -/
lemma getElem?_numbered {items : List Json} {limit i : ℕ} (hi : i < min items.length limit) :
    ∃ item, items[i]? = some item ∧
      ((items.take limit).zipIdx.map fun (item, index) => numbered item index)[i]? =
        some (.object [("index", .ofNat i), ("item", item)]) := by
  obtain ⟨hitem, hlimit⟩ := lt_min_iff.mp hi
  have hkept : (items.take limit)[i]? = some items[i] := by
    rw [List.getElem?_take_of_lt hlimit, List.getElem?_eq_getElem hitem]
  refine ⟨items[i], List.getElem?_eq_getElem hitem, ?_⟩
  rw [List.getElem?_map, List.getElem?_zipIdx, hkept, Nat.zero_add]
  exact congrArg some (numbered_eq items[i] i)

/-- A loop node yields the items that its inputs list, each with its number, up to the whole part of
the number of iterations that its configuration asks for, and up to a thousand; it says how many
there were and whether some were dropped. -/
theorem runLoop_numbers {output : Output} (h : runLoop config inputs = .ok output) :
    ∃ x items entries, AsksFor config x ∧ Listed inputs items ∧
      let count := min items.length (Decimal.wholePart 1000 x)
      output.data = .object [("count", .ofNat count), ("output", .array entries)] ∧
        entries.length = count ∧
        (∀ i < count, ∃ item, items[i]? = some item ∧
          entries[i]? = some (.object [("index", .ofNat i), ("item", item)])) ∧
        count ≤ 1000 ∧
        output.metadata = .object [("total_items", .ofNat items.length),
          ("truncated", .bool (decide (count < items.length)))] := by
  obtain ⟨requested, hrequested, houtput⟩ := ok_of_bind h
  rw [readConfig, mapError_eq_ok_iff] at hrequested
  cases houtput
  have hasks := asksFor_of_readIterations hrequested
  have hlisted := listed_toItems inputs
  generalize toItems ((Fields.present? inputs "items").or (Fields.present? inputs "input")) = items
    at hlisted
  have hlimit : iterationLimit requested =
      Decimal.wholePart 1000 (requested.getD defaultIterations) := iterationLimit_eq requested
  rw [hlimit]
  generalize requested.getD defaultIterations = x at *
  have hcount : (items.take (Decimal.wholePart 1000 x)).length =
      min items.length (Decimal.wholePart 1000 x) := by
    rw [List.length_take, min_comm]
  have hdata (v u : Json) : Json.ofEntries [("output", v), ("count", u)] =
      .object [("count", u), ("output", v)] := by
    refine congrArg Json.object (Keyed.Sorted.ofEntries_eq_of_perm ?_ (List.Perm.swap _ _ _))
    exact List.pairwise_pair.mpr (by decide : "count" < "output")
  have hmetadata (v u : Json) : Json.ofEntries [("total_items", v), ("truncated", u)] =
      .object [("total_items", v), ("truncated", u)] := by
    refine congrArg Json.object (Keyed.Sorted.ofEntries_eq ?_)
    exact List.pairwise_pair.mpr (by decide : "total_items" < "truncated")
  refine ⟨x, items, _, hasks, hlisted, (hdata _ _).trans ?_, ?_,
    fun i hi => getElem?_numbered hi, ?_, (hmetadata _ _).trans ?_⟩
  · rw [hcount]
  · rw [List.length_map, List.length_zipIdx, hcount]
  · exact (min_le_right _ _).trans (Decimal.wholePart_le 1000 x)
  · rw [hcount]

/-- The limit is the text of a number that is not whole, and there are items at the handle `input`
only. -/
theorem runLoop_numbers_text :
    let config : Json := .object [("maxIterations", .string " 2.9 ")]
    let inputs : Fields := [("input", .array [.string "a", .null, .bool true]), ("items", .null)]
    ∃ output, runLoop config inputs = .ok output ∧
      output.data.compact = "\x7b\"count\":2,\"output\":[\x7b\"index\":0,\"item\":\"a\"\x7d," ++
        "\x7b\"index\":1,\"item\":null\x7d]\x7d" ∧
      ∃ x items entries, AsksFor config x ∧ Listed inputs items ∧ entries.length ≤ 1000 ∧
        output.data = .object [("count", .ofNat (min items.length (Decimal.wholePart 1000 x))),
          ("output", .array entries)] := by
  intro config inputs
  have hdata : (runLoop config inputs).toOption.map (fun output => output.data.compact) =
      some ("\x7b\"count\":2,\"output\":[\x7b\"index\":0,\"item\":\"a\"\x7d," ++
        "\x7b\"index\":1,\"item\":null\x7d]\x7d") := by
    decide +kernel
  cases hrun : runLoop config inputs with
  | error error =>
    rw [hrun] at hdata
    cases hdata
  | ok output =>
    rw [hrun] at hdata
    obtain ⟨x, items, entries, hasks, hlisted, hentries, hlength, -, hle, -⟩ :=
      runLoop_numbers hrun
    exact ⟨output, rfl, Option.some.inj hdata, x, items, entries, hasks, hlisted,
      hlength.trans_le hle, hentries⟩

end Dataflow.Kinds
