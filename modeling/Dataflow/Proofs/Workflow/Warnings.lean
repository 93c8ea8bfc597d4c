import Mathlib.Order.Basic
import Mathlib.Data.String.Basic
import Dataflow.Workflow.Check

/-!
# Warnings

The warnings about a workflow are exact: there is one about an edge if and only if the edge has an
end of its kind that is no node (`Workflow.noTarget_mem_warnings_iff`,
`Workflow.fromInput_mem_warnings_iff`), and one about a handle if and only if more than one edge
enters it (`Workflow.overwritten_mem_warnings_iff`).
-/

namespace Dataflow

/-! ## Distinct members -/

section Distinct

variable {α : Type} {before : α → α → Bool} {x y : α}

/-- A list has the member that is put into it, besides those it had. -/
lemma mem_insertDistinct (htotal : ∀ x y, before x y = false → before y x = false → x = y)
    (xs : List α) : y ∈ insertDistinct before x xs ↔ y = x ∨ y ∈ xs := by
  induction xs with
  | nil => simp [insertDistinct]
  | cons z xs ih =>
    rw [insertDistinct]
    split
    · simp
    · rename_i hxz
      split
      · rw [List.mem_cons, ih, List.mem_cons, or_left_comm]
      · rename_i hzx
        obtain rfl : x = z := htotal x z (by simpa using hxz) (by simpa using hzx)
        simp

/-- The distinct members of a list are its members. -/
lemma mem_distinct (htotal : ∀ x y, before x y = false → before y x = false → x = y)
    (xs : List α) : x ∈ distinct before xs ↔ x ∈ xs := by
  induction xs with
  | nil => simp [distinct]
  | cons z xs ih =>
    rw [distinct, List.foldr_cons, mem_insertDistinct htotal, ← distinct, ih, List.mem_cons]

/-- Of two texts one stands before the other, unless they are the same. -/
lemma eq_of_textBefore {a b : String} (hab : textBefore a b = false)
    (hba : textBefore b a = false) : a = b := by
  simp only [textBefore, decide_eq_false_iff_not, not_lt] at hab hba
  exact le_antisymm hba hab

/-- Of two pairs of texts one stands before the other, unless they are the same. -/
lemma eq_of_pairBefore (a b : String × String) (hab : pairBefore a b = false)
    (hba : pairBefore b a = false) : a = b := by
  simp only [pairBefore, Bool.or_eq_false_iff] at hab hba
  have hfirst : a.1 = b.1 := eq_of_textBefore hab.1 hba.1
  have hsecond : a.2 = b.2 := eq_of_textBefore (by simpa [hfirst] using hab.2)
    (by simpa [hfirst] using hba.2)
  exact Prod.ext hfirst hsecond

end Distinct

/-! ## What the warnings say -/

namespace Workflow

variable {w : Workflow} {edge : Edge}

/-- There is a warning about the target of an edge if it is no node. -/
lemma noTarget_mem_warnings_iff :
    .noTarget edge ∈ w.warnings ↔ edge ∈ w.edges ∧ edge.target ∉ w.ids := by
  simp [warnings, edgeWarnings, handleWarning, List.mem_ite_nil_left, and_comm]

/-- There is a warning about the source of an edge if it is no node. -/
lemma fromInput_mem_warnings_iff :
    .fromInput edge ∈ w.warnings ↔ edge ∈ w.edges ∧ edge.source ∉ w.ids := by
  simp [warnings, edgeWarnings, handleWarning, List.mem_ite_nil_left, and_comm]

/-- The handles that edges enter are the handles of edges. -/
lemma mem_writtenHandles_iff {node handle : String} :
    (node, handle) ∈ w.writtenHandles ↔
      ∃ edge ∈ w.edges, edge.target = node ∧ edge.targetHandle = handle := by
  rw [writtenHandles, mem_distinct eq_of_pairBefore, List.mem_map]
  simp only [Prod.mk.injEq]

/-- There is a warning about a handle, naming the sources of its edges, if more than one edge enters
it. -/
lemma overwritten_mem_warnings_iff {node handle : String} {sources : List String} :
    .overwritten node handle sources ∈ w.warnings ↔
      sources = w.writers (node, handle) ∧ 1 < sources.length := by
  have hedges : .overwritten node handle sources ∉ w.edges.flatMap w.edgeWarnings := by
    simp [edgeWarnings, List.mem_ite_nil_left]
  rw [warnings, List.mem_append, or_iff_right hedges, List.mem_filterMap]
  constructor
  · rintro ⟨target, -, hwarning⟩
    simp only [handleWarning, Option.ite_none_right_eq_some, Option.some.injEq,
      Warning.overwritten.injEq] at hwarning
    obtain ⟨hmany, rfl, rfl, rfl⟩ := hwarning
    exact ⟨rfl, hmany⟩
  · rintro ⟨rfl, hmany⟩
    refine ⟨(node, handle), ?_, if_pos hmany⟩
    obtain ⟨source, hsource⟩ := List.exists_mem_of_length_pos (Nat.zero_lt_of_lt hmany)
    obtain ⟨edge, hedge, -⟩ := List.mem_map.mp hsource
    obtain ⟨hmem, htarget⟩ := List.mem_filter.mp hedge
    exact mem_writtenHandles_iff.mpr ⟨edge, hmem, by simpa using htarget⟩

/-- There is a warning about a handle that two edges enter. -/
lemma overwritten_mem_warnings_of_sublist {earlier later : Edge}
    (hedges : List.Sublist [earlier, later] w.edges) (htarget : earlier.target = later.target)
    (hhandle : earlier.targetHandle = later.targetHandle) :
    .overwritten later.target later.targetHandle
      (w.writers (later.target, later.targetHandle)) ∈ w.warnings := by
  refine overwritten_mem_warnings_iff.mpr ⟨rfl, ?_⟩
  have hsublist := hedges.filter fun e =>
    (e.target, e.targetHandle) == (later.target, later.targetHandle)
  rw [List.filter_eq_self.mpr (by simp [htarget, hhandle])] at hsublist
  rw [writers, List.length_map]
  exact hsublist.length_le

/-! ## The texts of the warnings -/

/-- The writers of a handle are the sources of the edges into it. -/
lemma writers_eq (w : Workflow) (node handle : String) :
    w.writers (node, handle) =
      (w.edges.filter fun e => e.target = node ∧ e.targetHandle = handle).map Edge.source := by
  have hmatch : ∀ e : Edge, ((e.target, e.targetHandle) == (node, handle)) =
      decide (e.target = node ∧ e.targetHandle = handle) := by
    intro e
    rw [Bool.eq_iff_iff]
    simp
  simp only [writers, hmatch]

/-- The text of a warning is among those of all warnings. -/
lemma message_mem_lint {warning : Warning} (h : warning ∈ w.warnings) : warning.message ∈ w.lint :=
  List.mem_map_of_mem h

/-- There is no text if there is no warning. -/
lemma lint_eq_nil_iff : w.lint = [] ↔ w.warnings = [] := List.map_eq_nil_iff

end Workflow

end Dataflow
