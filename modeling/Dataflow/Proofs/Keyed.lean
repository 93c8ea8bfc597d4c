import Dataflow.Keyed
import Mathlib

/-!
# Laws of keyed collections

A keyed collection is known by its look-ups: `value?_put` says what a put does to them, and two
sorted collections with the same look-ups are equal (`Sorted.ext`). Putting entries one after the
other leaves the last entry of each key, so that later entries with other keys do not matter
(`value?_putAll`).
-/

namespace Dataflow.Keyed

variable {α : Type} {m m' : Keyed α} {key k : String} {v : α}

/-! ### Look-ups -/

@[simp]
lemma value?_nil (k : String) : value? ([] : Keyed α) k = none := rfl

/-- A put gives its key the value and keeps the values of the other keys. -/
lemma value?_put (m : Keyed α) (key : String) (v : α) (k : String) :
    value? (put m key v) k = if k = key then some v else value? m k := by
  unfold value?
  induction m with
  | nil =>
    by_cases h : k = key
    · simp [put, h]
    · simp [put, List.lookup_cons, beq_false_of_ne h, h]
  | cons entry m ih =>
    obtain ⟨key', v'⟩ := entry
    rw [put]
    by_cases hlt : key < key'
    · rw [if_pos hlt, List.lookup_cons]
      by_cases h : k = key
      · simp [h]
      · rw [beq_false_of_ne h, if_neg h]
    · rw [if_neg hlt]
      by_cases heq : key = key'
      · subst heq
        rw [if_pos rfl, List.lookup_cons, List.lookup_cons]
        by_cases h : k = key
        · simp [h]
        · rw [beq_false_of_ne h, if_neg h]
      · rw [if_neg heq, List.lookup_cons, List.lookup_cons, ih]
        by_cases h : k = key'
        · have hne : key' ≠ key := Ne.symm heq
          simp [h, hne]
        · rw [beq_false_of_ne h]

/-- After a put its key and the keys there were before have values. -/
lemma hasKey_put (m : Keyed α) (key : String) (v : α) (k : String) :
    hasKey (put m key v) k ↔ k = key ∨ hasKey m k := by
  rw [hasKey, hasKey, value?_put]
  by_cases h : k = key
  · simp [h]
  · simp [h]

/-- Of several entries with one key the last one counts. -/
lemma value?_putAll (m : Keyed α) (entries : List (String × α)) (k : String) :
    value? (putAll m entries) k = (value? entries.reverse k).or (value? m k) := by
  induction entries generalizing m with
  | nil => rfl
  | cons entry entries ih =>
    obtain ⟨key, v⟩ := entry
    have hstep : putAll m ((key, v) :: entries) = putAll (put m key v) entries := rfl
    have hsplit : value? (entries.reverse ++ [(key, v)]) k =
        (value? entries.reverse k).or (value? [(key, v)] k) := List.lookup_append
    rw [hstep, ih, value?_put, List.reverse_cons, hsplit, Option.or_assoc]
    congr 1
    by_cases h : k = key
    · simp [h, value?]
    · rw [if_neg h, value?, value?, List.lookup_cons, beq_false_of_ne h]
      rfl

/-- Entries with other keys do not matter. -/
lemma value?_putAll_of_not_mem {entries : List (String × α)} (h : k ∉ entries.map Prod.fst) :
    value? (putAll m entries) k = value? m k := by
  have hnone : value? entries.reverse k = none := by
    rw [value?, List.lookup_eq_none_iff]
    intro entry hentry
    simpa using fun heq : k = entry.1 =>
      h (heq ▸ List.mem_map_of_mem (List.mem_reverse.mp hentry))
  rw [value?_putAll, hnone, Option.none_or]

/-- Entries can be put in two goes. -/
lemma putAll_append (m : Keyed α) (entries entries' : List (String × α)) :
    putAll m (entries ++ entries') = putAll (putAll m entries) entries' := List.foldl_append

/-- The keys with a value are those of the entries and those there were before. -/
lemma isSome_value?_putAll (m : Keyed α) (entries : List (String × α)) (k : String) :
    (value? (putAll m entries) k).isSome ↔
      k ∈ entries.map Prod.fst ∨ (value? m k).isSome := by
  rw [value?_putAll, Option.isSome_or, Bool.or_eq_true, value?, List.lookup_isSome_iff]
  refine or_congr_left ⟨?_, fun h => ?_⟩
  · rintro ⟨entry, hentry, hkey⟩
    obtain rfl : k = entry.1 := by simpa using hkey
    exact List.mem_map_of_mem (List.mem_reverse.mp hentry)
  · obtain ⟨entry, hentry, rfl⟩ := List.mem_map.mp h
    exact ⟨entry, List.mem_reverse.mpr hentry, by simp⟩

/-- A key has no value if it is not a key of the collection. -/
lemma value?_eq_none_iff : value? m k = none ↔ k ∉ keys m := by
  rw [value?, List.lookup_eq_none_iff, keys, List.mem_map]
  constructor
  · rintro h ⟨entry, hentry, rfl⟩
    simpa using h entry hentry
  · intro h entry hentry
    simpa using fun heq : k = entry.1 => h ⟨entry, hentry, heq.symm⟩

/-- A value that is found stands in the collection. -/
lemma mem_of_value? (h : value? m k = some v) : (k, v) ∈ m := by
  obtain ⟨before, after, rfl, -⟩ := List.lookup_eq_some_iff.mp h
  simp

/-- Entries with distinct keys are all found. -/
lemma value?_of_mem {entries : List (String × α)} (hdistinct : (entries.map Prod.fst).Nodup)
    (h : (k, v) ∈ entries) : value? entries k = some v := by
  obtain ⟨before, after, rfl⟩ := List.append_of_mem h
  rw [value?, List.lookup_eq_some_iff]
  refine ⟨before, after, rfl, fun entry hentry => ?_⟩
  rw [List.map_append, List.map_cons] at hdistinct
  have hne := (List.nodup_append.mp hdistinct).2.2 entry.1 (List.mem_map_of_mem hentry) k
    List.mem_cons_self
  simpa using Ne.symm hne

/-- Where each key stands once, the last entry of a key is the first one. -/
lemma value?_putAll_of_nodup {entries : List (String × α)}
    (hdistinct : (entries.map Prod.fst).Nodup) (m : Keyed α) (k : String) :
    value? (putAll m entries) k = (value? entries k).or (value? m k) := by
  cases hv : value? entries k with
  | some v =>
    have hdistinct' : (entries.reverse.map Prod.fst).Nodup := by
      rw [List.map_reverse]
      exact List.nodup_reverse.mpr hdistinct
    rw [value?_putAll, value?_of_mem hdistinct' (List.mem_reverse.mpr (mem_of_value? hv)),
      Option.some_or]
  | none =>
    refine value?_putAll_of_not_mem fun hmem => ?_
    obtain ⟨⟨key, v⟩, hentry, rfl⟩ := List.mem_map.mp hmem
    rw [value?_of_mem hdistinct hentry] at hv
    cases hv

/-- The values of entries with distinct keys. -/
lemma value?_ofEntries {entries : List (String × α)} (hdistinct : (entries.map Prod.fst).Nodup)
    (k : String) : value? (ofEntries entries) k = value? entries k := by
  rw [ofEntries, value?_putAll_of_nodup hdistinct, value?_nil, Option.or_none]

/-- The values of a collection whose values are changed one by one. -/
lemma value?_map {β : Type} (m : Keyed α) (f : α → β) (k : String) :
    value? (m.map fun entry => (entry.1, f entry.2)) k = (value? m k).map f := by
  unfold value?
  induction m with
  | nil => rfl
  | cons entry m ih =>
    rw [List.map_cons, List.lookup_cons, List.lookup_cons]
    cases k == entry.1 with
    | true => rfl
    | false => exact ih

/-! ### Some of the entries -/

/-- The entries of a list of keys have the values of these keys. -/
lemma value?_filterMap (m : Keyed α) (ids : List String) (k : String) :
    value? (ids.filterMap fun id => (value? m id).map fun v => (id, v)) k =
      if k ∈ ids then value? m k else none := by
  induction ids with
  | nil => rfl
  | cons id ids ih =>
    cases hid : value? m id with
    | none =>
      rw [List.filterMap_cons_none (by simp [hid]), ih]
      by_cases hk : k = id
      · simp [hk, hid]
      · simp [hk]
    | some v =>
      rw [List.filterMap_cons_some (by rw [hid]; rfl), value?, List.lookup_cons]
      by_cases hk : k = id
      · simp [hk, hid]
      · rw [beq_false_of_ne hk]
        simp only [List.mem_cons, hk, false_or]
        exact ih

/-- The values of the entries that are kept. -/
lemma value?_filter (m : Keyed α) (p : String → Bool) (k : String) :
    value? (m.filter fun entry => p entry.1) k = if p k then value? m k else none := by
  induction m with
  | nil => simp
  | cons entry m ih =>
    obtain ⟨key, v⟩ := entry
    by_cases hk : k = key
    · subst hk
      by_cases hp : p k
      · simp [hp, value?]
      · rw [List.filter_cons_of_neg (by simpa using hp), ih]
        simp [hp]
    · have hcons : value? ((key, v) :: m) k = value? m k := by
        rw [value?, value?, List.lookup_cons, beq_false_of_ne hk]
      rw [hcons, ← ih, List.filter_cons]
      split
      · rw [value?, value?, List.lookup_cons, beq_false_of_ne hk]
      · rfl

/-! ### Sorted collections -/

@[simp]
lemma sorted_nil : Sorted ([] : Keyed α) := List.Pairwise.nil

/-- The entries after a put are the new one and old ones. -/
lemma mem_put {entry : String × α} (h : entry ∈ put m key v) : entry = (key, v) ∨ entry ∈ m := by
  induction m with
  | nil => simpa [put] using h
  | cons first m ih =>
    obtain ⟨key', v'⟩ := first
    rw [put] at h
    split at h
    · simpa using h
    · split at h
      · rcases List.mem_cons.mp h with h | h
        · exact Or.inl h
        · exact Or.inr (List.mem_cons_of_mem _ h)
      · rcases List.mem_cons.mp h with h | h
        · exact Or.inr (h ▸ List.mem_cons_self)
        · exact (ih h).imp_right (List.mem_cons_of_mem _)

/-- A put keeps a collection sorted. -/
lemma Sorted.put (hm : Sorted m) (key : String) (v : α) : Sorted (put m key v) := by
  induction m with
  | nil => exact List.pairwise_singleton _ _
  | cons first m ih =>
    obtain ⟨key', v'⟩ := first
    obtain ⟨hfirst, hrest⟩ := List.pairwise_cons.mp hm
    rw [Keyed.put]
    split
    · rename_i hlt
      refine List.pairwise_cons.mpr ⟨fun entry hentry => ?_, hm⟩
      rcases List.mem_cons.mp hentry with rfl | hentry
      · exact hlt
      · exact hlt.trans (hfirst entry hentry)
    · rename_i hlt
      split
      · rename_i heq
        subst heq
        exact List.pairwise_cons.mpr ⟨hfirst, hrest⟩
      · rename_i hne
        refine List.pairwise_cons.mpr ⟨fun entry hentry => ?_, ih hrest⟩
        rcases mem_put hentry with rfl | hentry
        · exact lt_of_le_of_ne (not_lt.mp hlt) (Ne.symm hne)
        · exact hfirst entry hentry

/-- Puts keep a collection sorted. -/
lemma Sorted.putAll (hm : Sorted m) (entries : List (String × α)) :
    Sorted (putAll m entries) := by
  induction entries generalizing m with
  | nil => exact hm
  | cons entry entries ih => exact ih (hm.put entry.1 entry.2)

/-- The collection of any entries is sorted. -/
lemma sorted_ofEntries (entries : List (String × α)) : Sorted (ofEntries entries) :=
  sorted_nil.putAll entries

/-- The keys of a sorted collection are distinct. -/
lemma Sorted.nodup (hm : Sorted m) : (m.map Prod.fst).Nodup := by
  rw [List.Nodup, List.pairwise_map]
  exact List.Pairwise.imp (fun h => ne_of_lt h) hm

/-- In a sorted collection the entries are the look-ups. -/
lemma Sorted.mem_iff (hm : Sorted m) : (k, v) ∈ m ↔ value? m k = some v :=
  ⟨value?_of_mem hm.nodup, mem_of_value?⟩

/-- Sorted collections with the same look-ups are equal. -/
lemma Sorted.ext (hm : Sorted m) (hm' : Sorted m') (h : ∀ k, value? m k = value? m' k) :
    m = m' := by
  have hperm : m.Perm m' := by
    rw [List.perm_ext_iff_of_nodup hm.nodup.of_map hm'.nodup.of_map]
    rintro ⟨k, v⟩
    rw [hm.mem_iff, hm'.mem_iff, h k]
  exact hperm.eq_of_pairwise (fun a b _ _ hab hba => absurd (hab.trans hba) (lt_irrefl _)) hm hm'

/-- A sorted collection is the collection of its entries. -/
lemma Sorted.ofEntries_eq (hm : Sorted m) : ofEntries m = m :=
  (sorted_ofEntries m).ext hm fun k => value?_ofEntries hm.nodup k

/-- Entries with different keys are put in the order of their keys. -/
lemma Sorted.ofEntries_eq_of_perm {entries : List (String × α)} (hm : Sorted m)
    (h : entries.Perm m) : ofEntries entries = m := by
  have hdistinct : (entries.map Prod.fst).Nodup := (h.map Prod.fst).nodup_iff.mpr hm.nodup
  refine (sorted_ofEntries entries).ext hm fun k => ?_
  rw [value?_ofEntries hdistinct]
  refine Option.ext fun v => ?_
  rw [← hm.mem_iff, ← h.mem_iff]
  exact ⟨mem_of_value?, value?_of_mem hdistinct⟩

/-- The collection of entries with distinct keys has as many entries. -/
lemma length_ofEntries {entries : List (String × α)} (hdistinct : (entries.map Prod.fst).Nodup) :
    (ofEntries entries).length = entries.length := by
  have hkeys : ((ofEntries entries).map Prod.fst).Perm (entries.map Prod.fst) := by
    rw [List.perm_ext_iff_of_nodup (sorted_ofEntries entries).nodup hdistinct]
    intro k
    have hkey := isSome_value?_putAll [] entries k
    rw [← ofEntries, Option.isSome_iff_ne_none, ne_eq, value?_eq_none_iff, not_not] at hkey
    simpa [keys] using hkey
  simpa using hkeys.length_eq

end Dataflow.Keyed
