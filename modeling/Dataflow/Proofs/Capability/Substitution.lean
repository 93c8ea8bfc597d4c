import Dataflow.Proofs.Capability.Route
import Dataflow.Proofs.Text.Utf8

/-!
# Names that stand in a route more than once

A parameter is used up by the first place where the route names it. The places behind that one are
filled as if there were no such parameter, and so the name in braces is left there
(`Route.fill_occurrences`). What comes out is the route with every name of a parameter replaced
(`Route.substituted`) if and only if no parameter is named twice: each place that is left holds an
opening brace, while encoded texts hold none (`Route.text_fillPieces_eq_iff`).
-/

namespace Dataflow.Route

variable {name : List Char} {ps : List Piece} {params : Fields} {route key : String} {v : Json}

/-! ## Replacing every name -/

/-- A key in braces. -/
def inBraces (key : String) : String := "\x7b" ++ key ++ "\x7d"

/-- A piece in which a name is replaced if it is a parameter. -/
def Piece.filled (params : Fields) : Piece → List Char
  | .char c => [c]
  | .slot name =>
    match Keyed.value? params (String.ofList name) with
    | some v => Text.percentEncode Text.isUnreserved v.plainText.toList
    | none => (Piece.slot name).text

/-- What replaces a name in braces: the encoded text of the parameter, or the name itself if there
is no such parameter. -/
def replacement (params : Fields) (key : String) : String :=
  match Keyed.value? params key with
  | some v => Text.percentEncodeComponent v.plainText
  | none => inBraces key

/-- The route with every name of a parameter replaced by the encoded text of the parameter. -/
def substituted (route : String) (params : Fields) : String :=
  String.ofList ((pieces route.toList).flatMap (Piece.filled params))

/-- The route names the parameter behind a place where it names it already. -/
def NamesTwice (route key : String) : Prop :=
  ∃ before after, route = before ++ inBraces key ++ after ∧ Names before key

lemma toList_inBraces (key : String) : (inBraces key).toList = (Piece.slot key.toList).text := by
  simp [inBraces, Piece.text]

/-- A name in braces is filled by its replacement. -/
lemma ofList_filled (params : Fields) (key : String) :
    String.ofList ((Piece.slot key.toList).filled params) = replacement params key := by
  rw [Piece.filled, replacement, String.ofList_toList]
  cases Keyed.value? params key with
  | some v => rfl
  | none => rw [← toList_inBraces, String.ofList_toList]

/-- A parameter that is taken out is not replaced any more. -/
lemma filled_remove (params : Fields) (key : String) (name : List Char) :
    Piece.filled (Keyed.remove params key) (.slot name) =
      if String.ofList name = key then (Piece.slot name).text
      else Piece.filled params (.slot name) := by
  rw [Piece.filled, Keyed.remove, Keyed.value?_filter _ (· != key)]
  by_cases hkey : String.ofList name = key
  · rw [if_pos hkey, if_neg (by simpa using hkey)]
  · rw [if_neg hkey, if_pos (by simpa using hkey)]
    rfl

/-- A parameter that is taken out is none any more. -/
lemma hasKey_remove (params : Fields) (key other : String) :
    Keyed.hasKey (Keyed.remove params key) other ↔ other ≠ key ∧ Keyed.hasKey params other := by
  rw [Keyed.hasKey, Keyed.remove, Keyed.value?_filter _ (· != key)]
  by_cases hkey : other = key
  · simp [hkey]
  · simp [hkey, Keyed.hasKey]

/-! ## Opening braces -/

/-- Encoded texts have no opening braces. -/
lemma count_brace_percentEncode (s : List Char) :
    (Text.percentEncode Text.isUnreserved s).count '\x7b' = 0 := by
  refine List.count_eq_zero.mpr fun hmem => ?_
  rcases Text.of_mem_percentEncode hmem with h | h <;> revert h <;> decide

/-- A name that is not replaced has an opening brace. -/
lemma count_brace_slot_pos (name : List Char) : 0 < (Piece.slot name).text.count '\x7b' :=
  List.count_pos_iff.mpr List.mem_cons_self

/-- The fewer parameters there are, the more opening braces a piece keeps. -/
lemma count_brace_filled_le (params : Fields) (key : String) (piece : Piece) :
    (piece.filled params).count '\x7b' ≤
      (piece.filled (Keyed.remove params key)).count '\x7b' := by
  cases piece with
  | char c => exact le_rfl
  | slot name =>
    rw [filled_remove]
    split
    · rw [Piece.filled]
      cases Keyed.value? params (String.ofList name) with
      | none => exact le_rfl
      | some v => exact (count_brace_percentEncode _).trans_le (Nat.zero_le _)
    · exact le_rfl

/-- The name of a parameter that is taken out keeps its opening brace. -/
lemma count_brace_filled_lt (hv : Keyed.value? params (String.ofList name) = some v) :
    ((Piece.slot name).filled params).count '\x7b' <
      ((Piece.slot name).filled (Keyed.remove params (String.ofList name))).count '\x7b' := by
  rw [filled_remove, if_pos rfl, Piece.filled, hv]
  simp only [count_brace_percentEncode]
  exact count_brace_slot_pos name

/-! ## Filling against replacing -/

/-- The first name is replaced if it is a parameter, and what follows is filled without it. -/
lemma text_fillPieces_slot (params : Fields) (name : List Char) (ps : List Piece) :
    (fillPieces params (.slot name :: ps)).1 = (Piece.slot name).filled params ++
      (fillPieces (Keyed.remove params (String.ofList name)) ps).1 := by
  rw [Piece.filled, fillPieces]
  cases hv : Keyed.value? params (String.ofList name) with
  | some v => rfl
  | none =>
    have hkept : Keyed.remove params (String.ofList name) = params := by
      refine List.filter_eq_self.mpr fun entry hentry => ?_
      have hne : entry.1 ≠ String.ofList name := fun heq =>
        Keyed.value?_eq_none_iff.mp hv (heq ▸ List.mem_map_of_mem hentry)
      simpa using hne
    rw [hkept]

/-- The fewer parameters there are, the more opening braces are kept. -/
lemma count_brace_flatMap_le (params : Fields) (key : String) (ps : List Piece) :
    (ps.flatMap (Piece.filled params)).count '\x7b' ≤
      (ps.flatMap (Piece.filled (Keyed.remove params key))).count '\x7b' := by
  rw [List.count_flatMap, List.count_flatMap]
  exact List.sum_le_sum fun piece _ => count_brace_filled_le params key piece

/-- Filling keeps at least the opening braces that are kept when every name of a parameter is
replaced. -/
lemma count_brace_fillPieces_le (params : Fields) (ps : List Piece) :
    (ps.flatMap (Piece.filled params)).count '\x7b' ≤ (fillPieces params ps).1.count '\x7b' := by
  induction ps generalizing params with
  | nil => exact le_rfl
  | cons piece ps ih =>
    rw [List.flatMap_cons, List.count_append]
    cases piece with
    | char c =>
      have htext : (fillPieces params (.char c :: ps)).1 = [c] ++ (fillPieces params ps).1 := rfl
      rw [htext, List.count_append]
      exact Nat.add_le_add_left (ih params) _
    | slot name =>
      rw [text_fillPieces_slot, List.count_append]
      exact Nat.add_le_add_left ((count_brace_flatMap_le params _ ps).trans (ih _)) _

/-- A parameter that stands in the pieces leaves an opening brace more when it is taken out. -/
lemma count_brace_flatMap_lt (hmem : .slot name ∈ ps)
    (hkey : Keyed.hasKey params (String.ofList name)) :
    (ps.flatMap (Piece.filled params)).count '\x7b' <
      (ps.flatMap (Piece.filled (Keyed.remove params (String.ofList name)))).count '\x7b' := by
  obtain ⟨v, hv⟩ := Option.isSome_iff_exists.mp hkey
  rw [List.count_flatMap, List.count_flatMap]
  exact List.sum_lt_sum _ _ (fun piece _ => count_brace_filled_le params _ piece)
    ⟨_, hmem, count_brace_filled_lt hv⟩

/-- A name that does not stand in the pieces, or is no parameter, can be taken out. -/
lemma flatMap_filled_remove
    (hidle : ¬ (.slot name ∈ ps ∧ Keyed.hasKey params (String.ofList name))) :
    ps.flatMap (Piece.filled (Keyed.remove params (String.ofList name))) =
      ps.flatMap (Piece.filled params) := by
  refine List.flatMap_congr fun piece hpiece => ?_
  cases piece with
  | char c => rfl
  | slot other =>
    rw [filled_remove]
    split
    · rename_i heq
      obtain rfl : other = name := String.ofList_inj.mp heq
      have hnone : Keyed.value? params (String.ofList other) = none :=
        Option.not_isSome_iff_eq_none.mp fun hkey => hidle ⟨hpiece, hkey⟩
      rw [Piece.filled, hnone]
    · rfl

/-- In front of pieces that do not name it again, a name makes no parameter named twice. -/
lemma count_slot_le_one_cons
    (hidle : ¬ (.slot name ∈ ps ∧ Keyed.hasKey params (String.ofList name))) :
    (∀ other, Keyed.hasKey (Keyed.remove params (String.ofList name)) (String.ofList other) →
        ps.count (.slot other) ≤ 1) ↔
      ∀ other, Keyed.hasKey params (String.ofList other) →
        (Piece.slot name :: ps).count (.slot other) ≤ 1 := by
  refine forall_congr' fun other => ?_
  rw [hasKey_remove, Ne, String.ofList_inj]
  by_cases heq : other = name
  · subst heq
    simp only [not_true_eq_false, false_and, false_implies, true_iff]
    intro hkey
    have hnone : .slot other ∉ ps := fun hmem => hidle ⟨hmem, hkey⟩
    rw [List.count_cons_self, List.count_eq_zero.mpr hnone]
  · have hpiece : Piece.slot name ≠ .slot other := fun h => heq (Piece.slot.inj h).symm
    rw [List.count_cons_of_ne hpiece]
    simp [heq]

/-- Filling the pieces replaces every name of a parameter if and only if none is named twice. -/
lemma text_fillPieces_eq_iff (params : Fields) (ps : List Piece) :
    (fillPieces params ps).1 = ps.flatMap (Piece.filled params) ↔
      ∀ name, Keyed.hasKey params (String.ofList name) → ps.count (.slot name) ≤ 1 := by
  induction ps generalizing params with
  | nil => simp [fillPieces]
  | cons piece ps ih =>
    cases piece with
    | char c =>
      have htext : (fillPieces params (.char c :: ps)).1 = c :: (fillPieces params ps).1 := rfl
      rw [htext, List.flatMap_cons, Piece.filled, List.singleton_append, List.cons.injEq]
      simpa using ih params
    | slot name =>
      rw [text_fillPieces_slot, List.flatMap_cons, List.append_cancel_left_eq]
      by_cases htwice : .slot name ∈ ps ∧ Keyed.hasKey params (String.ofList name)
      · -- the name that stands in the rest is not replaced there
        obtain ⟨hmem, hkey⟩ := htwice
        have hlt := count_brace_flatMap_lt hmem hkey
        constructor
        · intro heq
          have hle := count_brace_fillPieces_le (Keyed.remove params (String.ofList name)) ps
          rw [heq] at hle
          omega
        · intro honce
          have hcount := honce name hkey
          have hpos : 0 < ps.count (.slot name) := List.count_pos_iff.mpr hmem
          rw [List.count_cons_self] at hcount
          omega
      · rw [← flatMap_filled_remove htwice, ih, count_slot_le_one_cons htwice]

/-! ## Places where a route names a parameter -/

/-- A name in braces cuts a route, whatever stands before and after it. -/
lemma pieces_inBraces (hkey : IsName key.toList) (before after : String) :
    pieces (before ++ inBraces key ++ after).toList =
      pieces before.toList ++ .slot key.toList :: pieces after.toList := by
  rw [String.toList_append, String.toList_append, toList_inBraces, pieces_of_slot hkey]

/-- Every place where the route names a parameter holds its replacement. -/
lemma substituted_append (hkey : IsName key.toList) (before after : String) (params : Fields) :
    substituted (before ++ inBraces key ++ after) params =
      substituted before params ++ replacement params key ++ substituted after params := by
  rw [substituted, pieces_inBraces hkey, List.flatMap_append, List.flatMap_cons, ← ofList_filled]
  simp [substituted, String.append_assoc]

/-- What stands before a place where the route names a parameter is filled as if the route ended
there, and what stands behind it with the parameters that are left, without this one. -/
lemma fill_append (hkey : IsName key.toList) (before after : String) (params : Fields) :
    (fill (before ++ inBraces key ++ after) params).1 =
      (fill before params).1 ++ replacement (fill before params).2 key ++
        (fill after (Keyed.remove (fill before params).2 key)).1 := by
  rw [fill, pieces_inBraces hkey, fillPieces_append, ← ofList_filled]
  simp [fill, text_fillPieces_slot, String.append_assoc]

/-- A parameter is named twice if it is the name of two pieces. -/
lemma namesTwice_iff :
    NamesTwice route key ↔ 2 ≤ (pieces route.toList).count (.slot key.toList) := by
  constructor
  · rintro ⟨before, after, rfl, hnames⟩
    rw [pieces_inBraces hnames.1, List.count_append, List.count_cons_self]
    have hpos := List.count_pos_iff.mpr (names_iff.mp hnames)
    omega
  · intro htwice
    obtain ⟨htext, hnames⟩ := flatMap_text_pieces route.toList
    have hmem : .slot key.toList ∈ pieces route.toList := List.count_pos_iff.mp (by omega)
    -- the second piece stands behind the first one
    obtain ⟨front, back, hpieces, hfront⟩ := List.eq_append_cons_of_mem hmem
    have hback : .slot key.toList ∈ back := by
      rw [hpieces, List.count_append, List.count_eq_zero.mpr hfront, List.count_cons_self] at htwice
      exact List.count_pos_iff.mp (by omega)
    obtain ⟨middle, rest, rfl⟩ := List.append_of_mem hback
    refine ⟨String.ofList ((front ++ .slot key.toList :: middle).flatMap Piece.text),
      String.ofList (rest.flatMap Piece.text), ?_, hnames _ hmem, ?_⟩
    · rw [← String.toList_inj, ← htext, hpieces]
      simp [toList_inBraces]
    · rw [String.toList_ofList]
      exact ⟨front.flatMap Piece.text, middle.flatMap Piece.text, by simp⟩

/-- Filling replaces every name of a parameter if and only if no parameter is named twice. -/
lemma fill_eq_substituted_iff (route : String) (params : Fields) :
    (fill route params).1 = substituted route params ↔
      ∀ key, Keyed.hasKey params key → ¬ NamesTwice route key := by
  simp only [fill, substituted, String.ofList_inj, text_fillPieces_eq_iff, namesTwice_iff, not_le]
  constructor
  · intro honce key hkey
    exact Nat.lt_succ_of_le (honce key.toList (by rwa [String.ofList_toList]))
  · intro honce name hkey
    simpa using Nat.le_of_lt_succ (honce (String.ofList name) hkey)

/-- A route that names nothing stays as it is. -/
lemma substituted_of_not_names (hroute : ∀ key, ¬ Names route key) (params : Fields) :
    substituted route params = route ∧ (fill route params).1 = route := by
  have hself : substituted route params = route := by
    rw [← String.toList_inj, substituted, String.toList_ofList]
    refine (List.flatMap_congr fun piece hpiece => ?_).trans (flatMap_text_pieces route.toList).1
    cases piece with
    | char c => rfl
    | slot name =>
      exact absurd (names_iff.mpr (by rwa [String.toList_ofList])) (hroute (String.ofList name))
  refine ⟨hself, ((fill_eq_substituted_iff route params).mpr ?_).trans hself⟩
  rintro key - ⟨before, after, rfl, hname, hbefore⟩
  refine hroute key ⟨hname, hbefore.trans ?_⟩
  rw [String.toList_append, String.toList_append, List.append_assoc]
  exact (List.prefix_append _ _).isInfix

/-! ## The main result -/

/-- How a route is filled, at every place where it names a key, beside the route in which every name
of a parameter is replaced. What is filled before the place does not depend on what follows. The
place holds what replaces the name, unless the key has been named before: then it is left as it is.
So all names of parameters are replaced if and only if no parameter is named twice. The parameters
that are left are those that the route does not name. -/
theorem fill_occurrences (route : String) (params : Fields) :
    let filled := (fill route params).1
    let left := (fill route params).2
    (∀ before key after, IsName key.toList → route = before ++ inBraces key ++ after →
      substituted route params =
        substituted before params ++ replacement params key ++ substituted after params ∧
      ∃ place, filled = (fill before params).1 ++ place ++
          (fill after (Keyed.remove (fill before params).2 key)).1 ∧
        (Names before key → place = inBraces key) ∧
        (¬ Names before key → place = replacement params key)) ∧
    ((∀ key, ¬ Names route key) → substituted route params = route ∧ filled = route) ∧
    (filled = substituted route params ↔
      ∀ key, Keyed.hasKey params key → ¬ NamesTwice route key) ∧
    left.Sublist params ∧ ∀ entry ∈ params, entry ∈ left ↔ ¬ Names route entry.1 := by
  intro filled left
  refine ⟨?_, fun hroute => substituted_of_not_names hroute params, ?_, sublist_fill route params,
    fun entry hentry => ?_⟩
  · rintro before key after hkey rfl
    refine ⟨substituted_append hkey before after params,
      _, fill_append hkey before after params, fun hnames => ?_, fun hnames => ?_⟩
    · rw [replacement, (value?_fill before params key).1 hnames]
    · rw [replacement, (value?_fill before params key).2 hnames, replacement]
  · exact fill_eq_substituted_iff route params
  · have hleft : left = params.filter fun entry => .slot entry.1.toList ∉ pieces route.toList :=
      left_fillPieces params (pieces route.toList)
    simp [hleft, hentry, names_iff]

/-- The second place of a name is left, and all others are filled. -/
theorem fill_named_twice :
    let route := "jobs/\x7bid\x7d/\x7bkind\x7d/\x7bid\x7d"
    let params : Fields := [("id", .string "a b"), ("kind", .string "x")]
    NamesTwice route "id" ∧ substituted route params = "jobs/a%20b/x/a%20b" ∧
      fill route params = ("jobs/a%20b/x/\x7bid\x7d", []) := by
  intro route params
  have hname : IsName "id".toList := ⟨by decide, by simp [isNameChar]⟩
  refine ⟨⟨"jobs/\x7bid\x7d/\x7bkind\x7d/", "", by decide, hname, ?_⟩, ?_, ?_⟩
  · exact ⟨"jobs/".toList, "/\x7bkind\x7d/".toList, by decide⟩
  · simp only [route, params]
    with_unfolding_all rfl
  · simp only [route, params]
    with_unfolding_all rfl

end Dataflow.Route
