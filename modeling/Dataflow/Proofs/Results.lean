import Mathlib

/-!
# Results of steps

What is put together from the results of steps, one after the other or for each item of a list, is
known from these results.
-/

namespace Dataflow

variable {ε ε' α β : Type}

/-- What fails in two steps fails in one of them. -/
lemma error_of_bind {x : Except ε α} {f : α → Except ε β} {error : ε}
    (herror : (x >>= f) = .error error) :
    x = .error error ∨ ∃ a, x = .ok a ∧ f a = .error error := by
  cases x with
  | error error' =>
    cases herror
    exact Or.inl rfl
  | ok a => exact Or.inr ⟨a, rfl, herror⟩

/-- What succeeds in two steps succeeds in both of them. -/
lemma ok_of_bind {x : Except ε α} {f : α → Except ε β} {b : β} (hok : (x >>= f) = .ok b) :
    ∃ a, x = .ok a ∧ f a = .ok b := by
  cases x with
  | error error => cases hok
  | ok a => exact ⟨a, rfl, hok⟩

/-- What fails does so whatever becomes of its result. -/
lemma error_of_map {x : Except ε α} {f : α → β} {error : ε} (h : x.map f = .error error) :
    x = .error error := by
  cases x with
  | error error' => exact congrArg Except.error (Except.error.inj h)
  | ok a => cases h

/-- What succeeds when its result is changed succeeds by itself. -/
lemma ok_of_map {x : Except ε α} {f : α → β} {b : β} (h : x.map f = .ok b) : ∃ a, x = .ok a := by
  cases x with
  | error error => cases h
  | ok a => exact ⟨a, rfl⟩

/-- What succeeds does so whatever becomes of its errors. -/
lemma mapError_eq_ok_iff {x : Except ε α} {f : ε → ε'} {a : α} :
    x.mapError f = .ok a ↔ x = .ok a := by
  cases x with
  | error error => simp [Except.mapError]
  | ok a' => simp [Except.mapError]

/-- What the items of a list are mapped to comes from one of them. -/
lemma exists_of_mem_mapM {f : α → Option β} {items : List α} {results : List β}
    (h : items.mapM f = some results) {b : β} (hb : b ∈ results) : ∃ a ∈ items, f a = some b := by
  induction items generalizing results with
  | nil =>
    obtain rfl := Option.some.inj h
    cases hb
  | cons a items ih =>
    rw [List.mapM_cons] at h
    obtain ⟨first, hfirst, h⟩ := Option.bind_eq_some_iff.mp h
    obtain ⟨rest, hrest, h⟩ := Option.bind_eq_some_iff.mp h
    obtain rfl := Option.some.inj h
    rcases List.mem_cons.mp hb with rfl | hb
    · exact ⟨a, List.mem_cons_self, hfirst⟩
    · obtain ⟨a', ha', hf⟩ := ih hrest hb
      exact ⟨a', List.mem_cons_of_mem a ha', hf⟩

/-- A list is mapped to something only if each of its items is. -/
lemma exists_of_mapM {f : α → Option β} {items : List α} {results : List β}
    (h : items.mapM f = some results) {a : α} (ha : a ∈ items) : ∃ b, f a = some b := by
  induction items generalizing results with
  | nil => cases ha
  | cons first items ih =>
    rw [List.mapM_cons] at h
    obtain ⟨b, hb, h⟩ := Option.bind_eq_some_iff.mp h
    obtain ⟨rest, hrest, -⟩ := Option.bind_eq_some_iff.mp h
    rcases List.mem_cons.mp ha with rfl | ha
    · exact ⟨b, hb⟩
    · exact ih hrest ha

/-- Steps that are done for each item of a list fail if one of them fails. -/
lemma exists_error_of_mapM {f : α → Except ε β} {items : List α} {error : ε}
    (h : items.mapM f = .error error) : ∃ a ∈ items, f a = .error error := by
  induction items with
  | nil => cases h
  | cons a items ih =>
    rw [List.mapM_cons] at h
    rcases error_of_bind h with h | ⟨_, -, h⟩
    · exact ⟨a, List.mem_cons_self, h⟩
    · rcases error_of_bind h with h | ⟨_, -, h⟩
      · obtain ⟨a', ha', herror⟩ := ih h
        exact ⟨a', List.mem_cons_of_mem a ha', herror⟩
      · cases h

/-- Steps that are done for each item of a list succeed only if each of them does. -/
lemma exists_ok_of_mapM {f : α → Except ε β} {items : List α} {results : List β}
    (h : items.mapM f = .ok results) {a : α} (ha : a ∈ items) : ∃ b, f a = .ok b := by
  induction items generalizing results with
  | nil => cases ha
  | cons first items ih =>
    rw [List.mapM_cons] at h
    obtain ⟨b, hb, h⟩ := ok_of_bind h
    obtain ⟨rest, hrest, -⟩ := ok_of_bind h
    rcases List.mem_cons.mp ha with rfl | ha
    · exact ⟨b, hb⟩
    · exact ih hrest ha

/-- A list is mapped to the results of its items, in their order. -/
lemma mapM_eq_some_iff {f : α → Option β} {items : List α} {results : List β} :
    items.mapM f = some results ↔ List.Forall₂ (fun a b => f a = some b) items results := by
  induction items generalizing results with
  | nil => simp [eq_comm]
  | cons a items ih =>
    rw [List.mapM_cons, List.forall₂_cons_left_iff]
    simp only [Option.bind_eq_bind, Option.bind_eq_some_iff, Option.pure_def, Option.some.injEq]
    constructor
    · rintro ⟨b, hb, rest, hrest, rfl⟩
      exact ⟨b, rest, hb, ih.mp hrest, rfl⟩
    · rintro ⟨b, rest, hb, hrest, rfl⟩
      exact ⟨b, hb, rest, ih.mpr hrest, rfl⟩

/-- Each item of a list that is related to another list is related to something. -/
lemma exists_of_forall₂ {R : α → β → Prop} {items : List α} {results : List β}
    (h : List.Forall₂ R items results) {a : α} (ha : a ∈ items) : ∃ b, R a b := by
  induction h with
  | nil => cases ha
  | cons hfirst _ ih =>
    rcases List.mem_cons.mp ha with rfl | ha
    · exact ⟨_, hfirst⟩
    · exact ih ha

/-- The results that some of the items have stand in the order of these items. -/
lemma forall₂_filterMap {R : α → β → Prop} {p : α → Prop} [DecidablePred p] {f : α → Option β}
    {items : List α} (hp : ∀ a ∈ items, p a ↔ (f a).isSome)
    (hR : ∀ a ∈ items, ∀ b, f a = some b → R a b) :
    List.Forall₂ R (items.filter p) (items.filterMap f) := by
  induction items with
  | nil => exact List.Forall₂.nil
  | cons a items ih =>
    obtain ⟨hpa, hp⟩ := List.forall_mem_cons.mp hp
    obtain ⟨hRa, hR⟩ := List.forall_mem_cons.mp hR
    cases hf : f a with
    | none =>
      rw [hf] at hpa
      rw [List.filterMap_cons_none hf, List.filter_cons_of_neg (by simpa using hpa)]
      exact ih hp hR
    | some b =>
      rw [hf] at hpa
      rw [List.filterMap_cons_some hf, List.filter_cons_of_pos (by simpa using hpa)]
      exact List.Forall₂.cons (hRa b hf) (ih hp hR)

end Dataflow
