import Dataflow.Capability.Route
import Dataflow.Proofs.Keyed
import Dataflow.Proofs.Text.Pieces

/-!
# Filling routes

A name in braces cannot reach over an opening brace, so that a route is cut into the same pieces
whatever stands before such a brace (`pieces_append`): the names that are pieces of a route are
those that stand in it in braces (`names_iff`). Filling the pieces uses up the parameters that are
named, and no others (`left_fillPieces`). The first place where a parameter is named holds its text,
and behind it the route is filled without this parameter (`fill_of_names`); a parameter that is not
named does not matter to the text (`fill_of_not_names`).
-/

namespace Dataflow.Route

variable {s name rest : List Char} {c : Char} {ps : List Piece} {params params' : Fields}
  {route key : String}

/-! ## Names in braces -/

/-- A name is made of ASCII letters, digits and underscores, and of at least one. -/
def IsName (name : List Char) : Prop := name ≠ [] ∧ ∀ c ∈ name, isNameChar c = true

/-- The route names the parameter: its key is a name, and stands in the route in braces. -/
def Names (route key : String) : Prop :=
  IsName key.toList ∧ (Piece.slot key.toList).text <:+: route.toList

/-- What follows an opening brace is read as a name if a name with a closing brace stands there. -/
lemma slotAt_eq_some_iff :
    slotAt s = some (name, rest) ↔ IsName name ∧ s = name ++ '}' :: rest := by
  constructor
  · intro h
    unfold slotAt at h
    split at h
    · cases h
    · rename_i hafter hne
      obtain ⟨rfl, rfl⟩ := Prod.mk.inj (Option.some.inj h)
      refine ⟨⟨hne, fun c hc => List.mem_takeWhile_imp hc⟩, ?_⟩
      rw [← hafter, List.takeWhile_append_dropWhile]
    · cases h
  · rintro ⟨⟨hne, hname⟩, rfl⟩
    have hclose : isNameChar '}' = false := by decide
    unfold slotAt
    rw [List.takeWhile_append_of_pos hname, List.dropWhile_append_of_pos hname,
      List.takeWhile_cons_of_neg (by simp [hclose]), List.dropWhile_cons_of_neg (by simp [hclose]),
      List.append_nil]
    cases name with
    | nil => exact absurd rfl hne
    | cons => rfl

/-- There is no opening brace in a name and behind it. -/
lemma IsName.not_mem (hname : IsName name) : '{' ∉ name ++ ['}'] := by
  rw [List.mem_append, List.mem_singleton]
  rintro (hmem | hclose)
  · exact absurd (hname.2 _ hmem) (by decide)
  · exact absurd hclose (by decide)

/-- What is no name does not become one by an opening brace behind it. -/
lemma slotAt_append (hnone : slotAt s = none) (back : List Char) :
    slotAt (s ++ '{' :: back) = none := by
  rw [Option.eq_none_iff_forall_ne_some] at hnone ⊢
  rintro ⟨name, rest⟩ hsome
  obtain ⟨hname, heq⟩ := slotAt_eq_some_iff.mp hsome
  have hsplit : s ++ '{' :: back = (name ++ ['}']) ++ rest := by simpa using heq
  rcases List.append_eq_append_iff.mp hsplit with ⟨beyond, hname', hback⟩ | ⟨between, hs, -⟩
  · cases beyond with
    | nil =>
      refine hnone (name, []) (slotAt_eq_some_iff.mpr ⟨hname, ?_⟩)
      simpa using hname'.symm
    | cons d beyond =>
      obtain ⟨rfl, -⟩ := List.cons.inj hback
      exact hname.not_mem (hname' ▸ by simp)
  · exact hnone (name, between) (slotAt_eq_some_iff.mpr ⟨hname, by simpa using hs⟩)

/-! ## Pieces -/

/-- A name in braces at the start of a route is a piece. -/
lemma pieces_slot (hname : IsName name) (rest : List Char) :
    pieces ((Piece.slot name).text ++ rest) = .slot name :: pieces rest := by
  have hsome : slotAt (name ++ '}' :: rest) = some (name, rest) :=
    slotAt_eq_some_iff.mpr ⟨hname, rfl⟩
  have htext : (Piece.slot name).text ++ rest = '{' :: (name ++ '}' :: rest) := by
    simp [Piece.text]
  rw [htext, pieces, if_pos (by rfl), hsome]
  exact if_pos (by simp; omega)

/-- A character with which no name in braces starts stands for itself. -/
lemma pieces_cons (hnone : (if c == '{' then slotAt s else none) = none) :
    pieces (c :: s) = .char c :: pieces s := by
  rw [pieces, hnone]

/-- A name in braces is found with its opening brace. -/
lemma text_append_of_slotAt (hsome : (if c == '{' then slotAt s else none) = some (name, rest)) :
    IsName name ∧ c :: s = (Piece.slot name).text ++ rest := by
  by_cases hbrace : c = '{'
  · subst hbrace
    rw [if_pos (by rfl)] at hsome
    obtain ⟨hname, rfl⟩ := slotAt_eq_some_iff.mp hsome
    exact ⟨hname, by simp [Piece.text]⟩
  · rw [if_neg (by simpa using hbrace)] at hsome
    cases hsome

/-- A name in braces is not empty, so that less of the route is left behind it. -/
lemma length_lt_of_slotAt (hsome : (if c == '{' then slotAt s else none) = some (name, rest)) :
    rest.length < s.length := by
  obtain ⟨-, htext⟩ := text_append_of_slotAt hsome
  have hlength := congrArg List.length htext
  simp only [Piece.text, List.cons_append, List.length_cons, List.length_append] at hlength
  omega

/-- Before an opening brace a route is cut into pieces as if it ended there. -/
lemma pieces_append (front back : List Char) :
    pieces (front ++ '{' :: back) = pieces front ++ pieces ('{' :: back) := by
  fun_induction pieces front with
  | case1 => rfl
  | case2 c rest name after hsome _ ih =>
    obtain ⟨hname, htext⟩ := text_append_of_slotAt hsome
    rw [htext, List.append_assoc, pieces_slot hname, ih]
    rfl
  | case3 c rest name after hsome hlong _ => exact absurd (length_lt_of_slotAt hsome) hlong
  | case4 c rest hnone ih =>
    have hnone' : (if c == '{' then slotAt (rest ++ '{' :: back) else none) = none := by
      split at hnone
      · rename_i hbrace
        rw [if_pos hbrace, slotAt_append hnone]
      · rename_i hbrace
        rw [if_neg hbrace]
    rw [List.cons_append, pieces_cons hnone', ih]
    rfl

/-- A route is made of the texts of its pieces, and the names in it are names. -/
lemma flatMap_text_pieces (s : List Char) :
    (pieces s).flatMap Piece.text = s ∧ ∀ name, .slot name ∈ pieces s → IsName name := by
  fun_induction pieces s with
  | case1 => simp
  | case2 c rest name after hsome _ ih =>
    obtain ⟨hname, htext⟩ := text_append_of_slotAt hsome
    refine ⟨by rw [List.flatMap_cons, ih.1, htext], fun other hother => ?_⟩
    rcases List.mem_cons.mp hother with heq | hother
    · obtain rfl := Piece.slot.inj heq
      exact hname
    · exact ih.2 other hother
  | case3 c rest name after hsome hlong _ => exact absurd (length_lt_of_slotAt hsome) hlong
  | case4 c rest hnone ih =>
    refine ⟨by rw [List.flatMap_cons, ih.1]; rfl, fun other hother => ?_⟩
    exact ih.2 other (List.mem_of_ne_of_mem (by simp) hother)

/-- A name that stands in a route in braces is a piece of it. -/
lemma pieces_of_slot (hname : IsName name) (before after : List Char) :
    pieces (before ++ (Piece.slot name).text ++ after) =
      pieces before ++ .slot name :: pieces after := by
  have hbrace : before ++ (Piece.slot name).text ++ after =
      before ++ '{' :: (name ++ ['}'] ++ after) := by simp [Piece.text]
  have htext : '{' :: (name ++ ['}'] ++ after) = (Piece.slot name).text ++ after := by
    simp [Piece.text]
  rw [hbrace, pieces_append, htext, pieces_slot hname]

/-- A route names the parameters of its pieces. -/
lemma names_iff : Names route key ↔ .slot key.toList ∈ pieces route.toList := by
  constructor
  · rintro ⟨hname, before, after, hroute⟩
    rw [← hroute, pieces_of_slot hname]
    simp
  · intro hmem
    obtain ⟨htext, hnames⟩ := flatMap_text_pieces route.toList
    obtain ⟨front, back, hpieces⟩ := List.append_of_mem hmem
    refine ⟨hnames _ hmem, front.flatMap Piece.text, back.flatMap Piece.text, ?_⟩
    rw [← htext, hpieces]
    simp

/-! ## Filling the pieces -/

/-- Pieces are filled one after the other. -/
lemma fillPieces_append (params : Fields) (ps qs : List Piece) :
    fillPieces params (ps ++ qs) =
      let (text, left) := fillPieces params ps
      let (text', left') := fillPieces left qs
      (text ++ text', left') := by
  induction ps generalizing params with
  | nil => rfl
  | cons piece ps ih =>
    cases piece with
    | char c => simp only [List.cons_append, fillPieces, ih]
    | slot name =>
      cases hv : Keyed.value? params (String.ofList name) with
      | none => simp only [List.cons_append, fillPieces, hv, ih, List.append_assoc]
      | some v => simp only [List.cons_append, fillPieces, hv, ih, List.append_assoc]

/-- The parameters that are left are those that no piece names. -/
lemma left_fillPieces (params : Fields) (ps : List Piece) :
    (fillPieces params ps).2 =
      params.filter fun entry => .slot entry.1.toList ∉ ps := by
  induction ps generalizing params with
  | nil => simp [fillPieces]
  | cons piece ps ih =>
    cases piece with
    | char c => simpa [fillPieces] using ih params
    | slot name =>
      have hkey : ∀ key : String, key.toList = name ↔ key = String.ofList name := fun key => by
        rw [← String.toList_inj, String.toList_ofList]
      cases hv : Keyed.value? params (String.ofList name) with
      | some v =>
        simp only [fillPieces, hv, ih, Keyed.remove, List.filter_filter]
        refine List.filter_congr fun entry _ => Bool.eq_iff_iff.mpr ?_
        simp [hkey, and_comm]
      | none =>
        simp only [fillPieces, hv, ih]
        refine List.filter_congr fun entry hentry => ?_
        have hne : entry.1 ≠ String.ofList name := fun heq =>
          Keyed.value?_eq_none_iff.mp hv (heq ▸ List.mem_map_of_mem hentry)
        simp [hkey, hne]

/-- The text depends on the parameters that the pieces name, and on no others. -/
lemma text_fillPieces_congr
    (h : ∀ name, .slot name ∈ ps →
      Keyed.value? params (String.ofList name) = Keyed.value? params' (String.ofList name)) :
    (fillPieces params ps).1 = (fillPieces params' ps).1 := by
  induction ps generalizing params params' with
  | nil => rfl
  | cons piece ps ih =>
    have hrest : ∀ name, .slot name ∈ ps →
        Keyed.value? params (String.ofList name) = Keyed.value? params' (String.ofList name) :=
      fun name hname => h name (List.mem_cons_of_mem _ hname)
    cases piece with
    | char c => simp only [fillPieces, ih hrest]
    | slot name =>
      have hfirst := h name List.mem_cons_self
      cases hv : Keyed.value? params (String.ofList name) with
      | none => simp only [fillPieces, hv, ← hfirst, ih hrest]
      | some v =>
        simp only [fillPieces, hv, ← hfirst]
        congr 1
        refine ih fun other hother => ?_
        rw [Keyed.remove, Keyed.remove, Keyed.value?_filter _ (· != String.ofList name),
          Keyed.value?_filter _ (· != String.ofList name), hrest other hother]

/-! ## Filling a route -/

/-- The parameters that are left are some of those there were. -/
lemma sublist_fill (route : String) (params : Fields) : (fill route params).2.Sublist params := by
  rw [fill]
  simp only [left_fillPieces]
  exact List.filter_sublist

/-- A parameter is left if the route does not name it. -/
lemma value?_fill (route : String) (params : Fields) (key : String) :
    (Names route key → Keyed.value? (fill route params).2 key = none) ∧
      (¬ Names route key →
        Keyed.value? (fill route params).2 key = Keyed.value? params key) := by
  have hleft : Keyed.value? (fill route params).2 key =
      if .slot key.toList ∉ pieces route.toList then Keyed.value? params key else none := by
    rw [fill]
    simp only [left_fillPieces]
    rw [Keyed.value?_filter params fun key => decide (.slot key.toList ∉ pieces route.toList)]
    simp
  rw [hleft, names_iff]
  exact ⟨fun hnames => if_neg (not_not.mpr hnames), fun hnames => if_pos hnames⟩

/-- A parameter that the route does not name makes no difference to its text. -/
lemma fill_of_not_names (hnames : ¬ Names route key) (params : Fields) :
    (fill route (Keyed.remove params key)).1 = (fill route params).1 := by
  rw [fill, fill]
  refine congrArg String.ofList (text_fillPieces_congr fun name hname => ?_)
  have hne : String.ofList name ≠ key := by
    rintro rfl
    exact hnames (names_iff.mpr (by rwa [String.toList_ofList]))
  rw [Keyed.remove, Keyed.value?_filter _ (· != key), if_pos (by simpa using hne)]

/-- The first place where a route names a parameter holds its encoded text. What stands before that
place is filled as if the route ended there, and what stands after it is filled without the
parameter. -/
lemma fill_of_names (hnames : Names route key) {v : Json} (hv : Keyed.value? params key = some v) :
    ∃ before after, route = before ++ ("\x7b" ++ key ++ "\x7d") ++ after ∧ ¬ Names before key ∧
      (fill route params).1 = (fill before params).1 ++
        Text.percentEncodeComponent v.plainText ++
          (fill after (Keyed.remove (fill before params).2 key)).1 := by
  obtain ⟨hname, hmark⟩ := hnames
  obtain ⟨before, after, hroute, hfirst⟩ := Text.exists_first (by simp [Piece.text]) hmark
  have hnot : ¬ Names (String.ofList before) key := by
    rintro ⟨-, hbefore⟩
    exact hfirst (by simpa using hbefore)
  refine ⟨String.ofList before, String.ofList after, ?_, hnot, ?_⟩
  · rw [← String.toList_inj, hroute]
    simp [Piece.text]
  · -- the parameter has not been used up before
    have hvalue : Keyed.value? (fillPieces params (pieces before)).2 key = some v := by
      have hleft := (value?_fill (String.ofList before) params key).2 hnot
      rw [fill, String.toList_ofList] at hleft
      exact hleft.trans hv
    simp only [fill, hroute, pieces_of_slot hname, fillPieces_append, String.toList_ofList,
      fillPieces, String.ofList_toList, hvalue, Text.percentEncodeComponent, String.ofList_append,
      String.append_assoc]

end Dataflow.Route
