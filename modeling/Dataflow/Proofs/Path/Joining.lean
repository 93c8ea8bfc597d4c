import Dataflow.Path
import Dataflow.Proofs.Results
import Dataflow.Proofs.Text.Pieces
import Dataflow.Proofs.Text.Trimming

/-!
# Paths with a dot between them

A path is cut at its dots before anything else is looked at, so that its segments are those of the
parts between the dots (`Path.parse_append_dot`), whether or not the parts can be read. Two paths
with a dot between them thus lead to where the second leads from what the first leads to
(`Path.at?_append_dot`); among named values, too, since a path that is not blank has a segment, and
the first one is that of the first path.
-/

namespace Dataflow.Path

variable {p q part : List Char} {path path' : Path} {v : Json}

/-! ## Segments -/

/-- A bracket group has a segment. -/
lemma bracketSegments_ne_nil {c : Char} {s : List Char}
    (h : bracketSegments (c :: s) = some path) : path ≠ [] := by
  rintro rfl
  rw [bracketSegments.eq_def] at h
  split at h
  · rename_i heq
    cases heq
  · split at h
    · cases h
    · split at h
      · obtain ⟨segment, -, h⟩ := Option.bind_eq_some_iff.mp h
        obtain ⟨more, -, h⟩ := Option.bind_eq_some_iff.mp h
        cases h
      · cases h
  · cases h

/-- The text between two dots has a segment. -/
lemma partSegments_ne_nil (h : partSegments part = some path) : path ≠ [] := by
  simp only [partSegments] at h
  split at h
  · split at h
    · cases h
    · rename_i hbrackets
      obtain ⟨c, s, hcons⟩ := List.exists_cons_of_ne_nil (List.isEmpty_iff.not.mp hbrackets)
      exact bracketSegments_ne_nil (hcons ▸ h)
  · obtain ⟨more, -, rfl⟩ := Option.map_eq_some_iff.mp h
    exact List.cons_ne_nil _ _

/-- The segments of a path without blanks around it are those of the parts between its dots. -/
lemma parse_of_tight (hp : Text.Tight p) :
    parse p = ((Text.splitOn '.' p).mapM partSegments).map List.flatten := by
  rw [parse, hp.trim_eq, if_neg (by simpa using hp.ne_nil)]

/-- A path that is not blank has a segment. -/
lemma parse_ne_nil (hp : Text.Tight p) (h : parse p = some path) : path ≠ [] := by
  rw [parse_of_tight hp] at h
  obtain ⟨segments, hsegments, rfl⟩ := Option.map_eq_some_iff.mp h
  obtain ⟨part, parts, hparts⟩ :=
    List.exists_cons_of_ne_nil (Text.splitOn_eq '.' p ▸ List.splitOn_ne_nil '.' p)
  rw [hparts, mapM_eq_some_iff, List.forall₂_cons_left_iff] at hsegments
  obtain ⟨first, rest, hfirst, -, rfl⟩ := hsegments
  rw [List.flatten_cons]
  exact List.append_ne_nil_of_left_ne_nil (partSegments_ne_nil hfirst) _

/-- The segments of two paths with a dot between them. -/
lemma parse_append_dot (hp : Text.Tight p) (hq : Text.Tight q) :
    parse (p ++ '.' :: q) =
      (parse p).bind fun path => (parse q).map fun path' => path ++ path' := by
  have hpq : Text.Tight (p ++ '.' :: q) := by simpa using hp.append hq ['.']
  rw [parse_of_tight hpq, parse_of_tight hp, parse_of_tight hq, Text.splitOn_append_cons,
    List.mapM_append]
  cases (Text.splitOn '.' p).mapM partSegments with
  | none => rfl
  | some segments =>
    cases (Text.splitOn '.' q).mapM partSegments with
    | none => rfl
    | some segments' => exact congrArg some List.flatten_append

/-! ## Steps -/

/-- The steps of two paths are taken one after the other. -/
lemma walk_append (v : Json) (path path' : Path) :
    walk v (path ++ path') = (walk v path).bind fun w => walk w path' :=
  List.foldlM_append

/-- Two paths with a dot between them lead to where the second leads from what the first leads to,
and nowhere if one of them leads nowhere or cannot be read; from a value, and from named values. -/
theorem at?_append_dot (v : Json) (fields : Fields) (hp : Text.Tight p) (hq : Text.Tight q) :
    v.at? (p ++ '.' :: q) = ((v.at? p).bind fun w => w.at? q) ∧
      Fields.at? fields (p ++ '.' :: q) = (Fields.at? fields p).bind fun w => w.at? q := by
  rw [Json.at?, Json.at?, Fields.at?, Fields.at?, parse_append_dot hp hq]
  cases hpath : parse p with
  | none => exact ⟨rfl, rfl⟩
  | some path =>
    obtain ⟨first, rest, rfl⟩ := List.exists_cons_of_ne_nil (parse_ne_nil hp hpath)
    cases hpath' : parse q with
    | none =>
      -- what the first path leads to does not matter
      have hnone : ∀ w : Json, w.at? q = none := fun w => by rw [Json.at?, hpath', Option.bind_none]
      simp [hnone]
    | some path' =>
      have hat : (fun w : Json => w.at? q) = fun w => walk w path' := funext fun w => by
        rw [Json.at?, hpath', Option.bind_some]
      rw [hat]
      refine ⟨walk_append v (first :: rest) path', ?_⟩
      cases first with
      | index n => rfl
      | key name =>
        simp only [Option.bind_some, Option.map_some, List.cons_append]
        cases Keyed.value? fields name with
        | none => rfl
        | some w => exact walk_append w rest path'

/-- A field of an item; and a key with a dot in it, which is cut in two and read as neither,
although the item has it. -/
theorem at?_append_dot_in_brackets :
    let fields : Fields := [("rows", .array [.null, .object [("a.b", .null), ("c", .bool true)]])]
    let p := ['r', 'o', 'w', 's', '[', '1', ']']
    let q := ['r', 'o', 'w', 's', '[', '1', ']', '[', 'a']
    Text.Tight p ∧ Text.Tight q ∧ Text.Tight ['c'] ∧ Text.Tight ['b', ']'] ∧
      (Json.object fields).at? (p ++ '.' :: ['c']) = some (.bool true) ∧
      Fields.at? fields (q ++ '.' :: ['b', ']']) = none := by
  intro fields p q
  have hp : Text.Tight p := Text.tight_of_forall (by simp [p]) (by simp [p, Text.isBlank])
  have hq : Text.Tight q := Text.tight_of_forall (by simp [q]) (by simp [q, Text.isBlank])
  have hc : Text.Tight ['c'] := Text.tight_of_forall (by simp) (by simp [Text.isBlank])
  have hb : Text.Tight ['b', ']'] := Text.tight_of_forall (by simp) (by simp [Text.isBlank])
  refine ⟨hp, hq, hc, hb, ?_, ?_⟩
  · rw [(at?_append_dot (.object fields) fields hp hc).1]
    cbv
  · rw [(at?_append_dot (.object fields) fields hq hb).2]
    cbv

end Dataflow.Path
