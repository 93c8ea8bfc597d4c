import Dataflow.Error
import Mathlib.Tactic

/-!
# What attribution keeps

An error is attributed to a node by a wrapper around it. All that tells what an error is reads its
root (`Error.kind_root`, `Error.code_root`), and a wrapper has the root of what is in it
(`Error.root_within`). Only an error that is not attributed yet gets a wrapper, so of several
attributions one after the other the first one is all there is to them
(`Error.withinAll_of_node?_eq_none`).
-/

namespace Dataflow.Error

variable {error : Error}

/-! ## The root -/

/-- The innermost cause is not wrapped. -/
lemma root_ne_inNode (error : Error) (id : String) (source : Error) :
    error.root ≠ .inNode id source := by
  induction error with
  | inNode node cause ih => exact ih
  | _ => exact nofun

/-- The category of an error is that of its root. -/
lemma kind_root (error : Error) : error.root.kind = error.kind := by
  induction error with
  | inNode node source ih => exact ih
  | _ => rfl

/-- The code of an error is that of its root. -/
lemma code_root (error : Error) : error.root.code = error.code := by
  induction error with
  | inNode node source ih => exact ih
  | _ => rfl

/-! ## One attribution -/

/-- An error that is not attributed yet gets a wrapper. -/
lemma within_of_node?_eq_none (herror : error.node? = none) (id : String) :
    error.within id = .inNode id error := by
  cases error with
  | inNode node source => cases herror
  | _ => rfl

/-- An error that is attributed already stays as it is. -/
lemma within_of_node?_ne_none (herror : error.node? ≠ none) (id : String) :
    error.within id = error := by
  cases error with
  | inNode node source => rfl
  | _ => exact absurd rfl herror

/-- An error that is not attributed yet gets attributed. -/
lemma node?_within (herror : error.node? = none) (id : String) :
    (error.within id).node? = some id := by
  rw [within_of_node?_eq_none herror]
  rfl

/-- Attributed errors have a node. -/
lemma isSome_node?_within (error : Error) (id : String) :
    (error.within id).node?.isSome = true := by
  cases error <;> rfl

/-- Attribution does not change the root of an error. -/
lemma root_within (error : Error) (id : String) : (error.within id).root = error.root := by
  cases error <;> rfl

/-- Attribution does not change the category of an error. -/
lemma kind_within (error : Error) (id : String) : (error.within id).kind = error.kind := by
  rw [← kind_root, root_within, kind_root]

/-! ## Several attributions -/

/-- An error attributed to several nodes, one after the other. -/
def withinAll (error : Error) (ids : List String) : Error :=
  ids.foldl (fun e id => e.within id) error

lemma withinAll_cons (error : Error) (id : String) (ids : List String) :
    error.withinAll (id :: ids) = (error.within id).withinAll ids := rfl

/-- Attributions do not change the root of an error. -/
lemma root_withinAll (error : Error) (ids : List String) :
    (error.withinAll ids).root = error.root := by
  induction ids generalizing error with
  | nil => rfl
  | cons id ids ih => rw [withinAll_cons, ih, root_within]

/-- An error that is attributed already stays as it is. -/
lemma withinAll_of_node?_ne_none (herror : error.node? ≠ none) (ids : List String) :
    error.withinAll ids = error := by
  induction ids with
  | nil => rfl
  | cons id ids ih => rw [withinAll_cons, within_of_node?_ne_none herror, ih]

/-- An error that is not attributed yet gets a single wrapper, with the first node. -/
lemma withinAll_of_node?_eq_none (herror : error.node? = none) (id : String) (ids : List String) :
    error.withinAll (id :: ids) = .inNode id error := by
  have hwrapped : (inNode id error).node? ≠ none := Option.some_ne_none id
  rw [withinAll_cons, within_of_node?_eq_none herror, withinAll_of_node?_ne_none hwrapped]

/-- Attributing an error to any number of nodes changes nothing about what it is: its root, which is
never wrapped, its category and its code. It adds at most one wrapper, and the error belongs to the
node that it belonged to before, or else to the first of the nodes. -/
theorem withinAll_keeps (error : Error) (ids : List String) :
    (error.withinAll ids).kind = error.kind ∧ (error.withinAll ids).code = error.code ∧
      (error.withinAll ids).root = error.root ∧
      (∀ id source, (error.withinAll ids).root ≠ .inNode id source) ∧
      (error.withinAll ids = error ∨ ∃ id ∈ ids, error.withinAll ids = .inNode id error) ∧
      (error.withinAll ids).node? = error.node?.or ids.head? := by
  have hroot := root_withinAll error ids
  refine ⟨?_, ?_, hroot, root_ne_inNode _, ?_⟩
  · rw [← kind_root, hroot, kind_root]
  · rw [← code_root, hroot, code_root]
  · by_cases hnode : error.node? = none
    · cases ids with
      | nil => exact ⟨.inl rfl, by rw [hnode]; exact hnode⟩
      | cons id ids =>
        rw [withinAll_of_node?_eq_none hnode, hnode]
        exact ⟨.inr ⟨id, List.mem_cons_self, rfl⟩, rfl⟩
    · obtain ⟨node, hsome⟩ := Option.ne_none_iff_exists'.mp hnode
      rw [withinAll_of_node?_ne_none hnode, hsome]
      exact ⟨.inl rfl, rfl⟩

end Dataflow.Error
