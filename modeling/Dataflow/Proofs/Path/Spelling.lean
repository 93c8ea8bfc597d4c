import Dataflow.Proofs.Path.Address

/-!
# Spellings of a segment

Behind a path a segment can be written after a dot, in brackets, or in quotation marks in brackets.
What stands in brackets is an index if it can be read as one (`Path.bracketSegment_bare`), with
quotation marks or without them (`Path.bracketSegment_quoted`). For an array that makes no
difference. The fields of an object, though, are looked up by the digits of the index
(`Path.bracketName`), which are not the text that was read if it has a plus sign or zeros in front
(`Path.bracketName_eq_self_iff`); such a field is found by the spelling with a dot only
(`Path.at?_spellings`).
-/

namespace Dataflow

namespace Path

variable {p k s rest : List Char} {q : Char} {path : Path}

/-- The text denotes the index: it consists of digits, perhaps with a plus sign in front, and the
number fits a machine word. -/
def DenotesIndex (s : List Char) (n : ℕ) : Prop :=
  ∃ ds, (s = ds ∨ s = '+' :: ds) ∧ ds ≠ [] ∧ (∀ c ∈ ds, c.isDigit = true) ∧
    Decimal.natOfDigits ds = n ∧ n < UInt64.size

/-- Digits are read as the number that they denote, if it fits a machine word. -/
lemma readIndex_digits_eq_some_iff {ds : List Char} {n : ℕ} :
    (if ds.isEmpty || !ds.all Char.isDigit then none
      else if Decimal.natOfDigits ds < UInt64.size then some (Decimal.natOfDigits ds) else none) =
        some n ↔
      ds ≠ [] ∧ (∀ c ∈ ds, c.isDigit = true) ∧ Decimal.natOfDigits ds = n ∧ n < UInt64.size := by
  split
  · rename_i hdigits
    simp only [reduceCtorEq, false_iff]
    rintro ⟨hne, hall, -⟩
    simp [hne, List.all_eq_true.mpr hall] at hdigits
  · rename_i hdigits
    simp only [Bool.or_eq_true, not_or, List.isEmpty_iff, Bool.not_eq_true', Bool.not_eq_false,
      List.all_eq_true] at hdigits
    split
    · rename_i hfits
      rw [Option.some.injEq]
      constructor
      · rintro rfl
        exact ⟨hdigits.1, hdigits.2, rfl, hfits⟩
      · rintro ⟨-, -, rfl, -⟩
        rfl
    · rename_i hlarge
      simp only [reduceCtorEq, false_iff]
      rintro ⟨-, -, rfl, hfits⟩
      exact hlarge hfits

/-- What is read as an index: digits, perhaps with a plus sign in front. -/
lemma readIndex_eq_some_iff {n : ℕ} : readIndex k = some n ↔ DenotesIndex k n := by
  unfold readIndex Decimal.readNatBelow DenotesIndex
  split
  · rename_i ds
    rw [readIndex_digits_eq_some_iff]
    constructor
    · exact fun h => ⟨ds, .inr rfl, h⟩
    · rintro ⟨ds', rfl | hds, h⟩
      · cases h.2.1 '+' List.mem_cons_self
      · obtain ⟨-, rfl⟩ := List.cons.inj hds
        exact h
  · rename_i hplus
    rw [readIndex_digits_eq_some_iff]
    constructor
    · exact fun h => ⟨k, .inl rfl, h⟩
    · rintro ⟨ds, rfl | rfl, h⟩
      · exact h
      · exact absurd rfl (hplus ds)

/-! ## Segments in brackets -/

/-- A segment that can be written in every way: it has no mark of a path, no quotation mark and no
blank. -/
structure Bare (k : List Char) : Prop where
  ne_nil : k ≠ []
  plain : ∀ c ∈ k, c ∉ ['.', '[', ']'] ∧ isQuote c = false ∧ Text.isBlank c = false

/-- The name of the field that a segment in brackets stands for: an index is written with its digits
only. -/
def bracketName (k : List Char) : List Char :=
  match readIndex k with
  | some n => Decimal.digitsOf n
  | none => k

/-- The segment that is read from brackets. -/
def inBrackets (k : List Char) : Segment :=
  match readIndex k with
  | some n => .index n
  | none => .key (String.ofList k)

/-- Brackets hold an index if their content can be read as one, and a key otherwise. -/
lemma bracketSegment_bare (hk : Bare k) : bracketSegment k = some (inBrackets k) := by
  have hempty : k.isEmpty = false := List.isEmpty_eq_false_iff.mpr hk.ne_nil
  simp only [bracketSegment]
  rw [Text.trim, Text.stripWhile_eq_self fun c hc => (hk.plain c hc).2.2,
    Text.stripWhile_eq_self fun c hc => (hk.plain c hc).2.1, inBrackets]
  cases readIndex k with
  | none => simp [hempty]
  | some n => rfl

/-- Quotation marks in brackets make no difference. -/
lemma bracketSegment_quoted (hk : Bare k) (hq : isQuote q = true) :
    bracketSegment (q :: (k ++ [q])) = some (inBrackets k) := by
  have hmark : Text.isBlank q = false := by
    simp only [isQuote, Bool.or_eq_true, beq_iff_eq] at hq
    rcases hq with rfl | rfl <;> decide
  have hblank : ∀ c ∈ q :: (k ++ [q]), Text.isBlank c = false := by
    simp only [List.mem_cons, List.mem_append, List.not_mem_nil, or_false]
    rintro c (rfl | hc | rfl)
    exacts [hmark, (hk.plain c hc).2.2, hmark]
  have hstrip : Text.stripWhile isQuote (q :: (k ++ [q])) = k := by
    obtain ⟨c, t, hfirst⟩ := List.exists_cons_of_ne_nil hk.ne_nil
    obtain ⟨u, d, hlast⟩ := (List.eq_nil_or_concat k).resolve_left hk.ne_nil
    have hc : isQuote c = false := (hk.plain c (by simp [hfirst])).2.1
    have hd : isQuote d = false := (hk.plain d (by simp [hlast])).2.1
    have hfront : (q :: (k ++ [q])).dropWhile isQuote = k ++ [q] := by
      rw [List.dropWhile_cons_of_pos hq, hfirst, List.cons_append,
        List.dropWhile_cons_of_neg (by simp [hc])]
    rw [Text.stripWhile, hfront, Text.dropEndWhile, List.reverse_concat,
      List.dropWhile_cons_of_pos hq, hlast, List.concat_eq_append, List.reverse_concat,
      List.dropWhile_cons_of_neg (by simp [hd]), List.reverse_cons, List.reverse_reverse]
  rw [← bracketSegment_bare hk]
  simp only [bracketSegment]
  rw [Text.trim, Text.trim, Text.stripWhile_eq_self hblank, hstrip,
    Text.stripWhile_eq_self fun c hc => (hk.plain c hc).2.2,
    Text.stripWhile_eq_self fun c hc => (hk.plain c hc).2.1]

/-- For what is no object, an index in brackets is as good as a key. -/
lemma step_inBrackets {w : Json} (hw : ∀ fields, w ≠ .object fields) (k : List Char) :
    step w (inBrackets k) = step w (.key (String.ofList k)) := by
  cases w with
  | object fields => exact absurd rfl (hw fields)
  | array items =>
    rw [inBrackets]
    cases hindex : readIndex k with
    | none => rfl
    | some n => simp [step, hindex]
  | _ => rw [inBrackets]; cases readIndex k <;> rfl

/-- In an object, brackets look up a field by the digits of an index. -/
lemma step_inBrackets_object (fields : Fields) (k : List Char) :
    step (.object fields) (inBrackets k) =
      Keyed.value? fields (String.ofList (bracketName k)) := by
  rw [inBrackets, bracketName]
  cases readIndex k <;> rfl

/-- Brackets look up the name that is written in them unless it is an index with a plus sign or with
zeros in front. -/
lemma bracketName_eq_self_iff : bracketName k = k ↔
    readIndex k = none ∨ k = ['0'] ∨ (k.head? ≠ some '+' ∧ k.head? ≠ some '0') := by
  rw [bracketName]
  cases hindex : readIndex k with
  | none => simp
  | some n =>
    obtain ⟨ds, hk, hne, hds, rfl, -⟩ := readIndex_eq_some_iff.mp hindex
    simp only [reduceCtorEq, false_or]
    constructor
    · intro hself
      by_cases hzero : k.head? = some '0'
      · -- only zero is written with a zero in front
        obtain ⟨t, rfl⟩ : ∃ t, k = '0' :: t := List.head?_eq_some_iff.mp hzero
        rw [Decimal.eq_zero_of_digitsOf hself] at hself
        exact .inl hself.symm
      · refine .inr ⟨fun hplus => ?_, hzero⟩
        obtain ⟨t, rfl⟩ : ∃ t, k = '+' :: t := List.head?_eq_some_iff.mp hplus
        have hdigit : ('+' : Char).isDigit = true :=
          Decimal.isDigit_of_mem_digitsOf (hself ▸ List.mem_cons_self)
        cases hdigit
    · rintro (rfl | ⟨hplus, hzero⟩)
      · rcases hk with rfl | hk
        · rfl
        · cases hk
      · rcases hk with rfl | rfl
        · exact Decimal.digitsOf_natOfDigits hds hne hzero
        · exact absurd rfl hplus

/-! ## Brackets behind a path -/

/-- Every opening bracket has a closing bracket behind it. -/
def Closed (s : List Char) : Prop := ∀ front back, s = front ++ '[' :: back → ']' ∈ back

lemma Closed.of_append (hs : Closed (s ++ rest)) : Closed rest := by
  rintro front back rfl
  exact hs (s ++ front) back (List.append_assoc _ _ _).symm

/-- Bracket groups are closed. -/
lemma closed_of_bracketSegments (h : bracketSegments s ≠ none) : Closed s := by
  fun_induction bracketSegments s with
  | case1 => rintro (_ | _) back heq <;> cases heq
  | case3 rest inner after hcut _ ih =>
    obtain ⟨rfl, -⟩ := Text.of_cutAt hcut
    have hafter : Closed after := ih fun hnone => h (by rw [hnone]; cases bracketSegment inner <;> rfl)
    rintro (_ | ⟨c, front⟩) back heq
    · obtain ⟨-, rfl⟩ := List.cons.inj heq
      simp
    · -- the bracket is within the first group or behind it
      obtain ⟨-, heq⟩ := List.cons.inj heq
      rcases List.append_eq_append_iff.mp heq with ⟨t, rfl, hback⟩ | ⟨t, -, hback⟩
      · rcases t with _ | ⟨d, t⟩
        · cases hback
        · obtain ⟨-, rfl⟩ := List.cons.inj hback
          exact hafter t back rfl
      · rcases t with _ | ⟨d, t⟩
        · cases hback
        · obtain ⟨-, rfl⟩ := List.cons.inj hback
          simp
  | case2 | case4 | case5 => exact absurd rfl h

variable {inner : List Char}

/-- A text that starts with something else has no bracket groups. -/
lemma bracketSegments_eq_none {c : Char} (hc : c ≠ '[') (s : List Char) :
    bracketSegments (c :: s) = none := by
  rw [bracketSegments]
  exact hc

/-- A bracket group behind other ones. -/
lemma bracketSegments_append (hs : Closed s) (hinner : ']' ∉ inner) :
    bracketSegments (s ++ '[' :: (inner ++ [']'])) = (bracketSegments s).bind fun path =>
      (bracketSegment inner).map fun segment => path ++ [segment] := by
  fun_induction bracketSegments s with
  | case1 =>
    rw [List.nil_append, bracketSegments_group hinner, bracketSegments_nil]
    cases bracketSegment inner <;> rfl
  | case2 rest hcut =>
    exact absurd (hs [] rest rfl) (Text.cutAt_eq_none_iff.mp hcut)
  | case3 rest first after hcut _ ih =>
    obtain ⟨rfl, hfirst⟩ := Text.of_cutAt hcut
    have hafter : Closed after := Closed.of_append (s := '[' :: first ++ [']']) (by simpa using hs)
    have htext : '[' :: (first ++ ']' :: after) ++ '[' :: (inner ++ [']']) =
        '[' :: (first ++ ']' :: (after ++ '[' :: (inner ++ [']']))) := by simp
    rw [htext, bracketSegments_group hfirst, ih hafter]
    cases bracketSegment first with
    | none => rfl
    | some segment =>
      cases bracketSegments after with
      | none => rfl
      | some more => cases bracketSegment inner <;> rfl
  | case4 rest first after hcut hlong =>
    obtain ⟨rfl, -⟩ := Text.of_cutAt hcut
    exact absurd (by simp; omega) hlong
  | case5 c rest hc =>
    rw [List.cons_append, bracketSegments_eq_none hc]
    rfl

/-- The text between two dots is a key and what starts at the first opening bracket. -/
lemma exists_key_groups (s : List Char) :
    ∃ key groups, s = key ++ groups ∧ '[' ∉ key ∧ Opens groups := by
  by_cases hopen : '[' ∈ s
  · obtain ⟨key, t, rfl, hkey⟩ := List.eq_append_cons_of_mem hopen
    exact ⟨key, '[' :: t, rfl, hkey, .inr ⟨t, rfl⟩⟩
  · exact ⟨s, [], (List.append_nil s).symm, hopen, .inl rfl⟩

/-- What can be read between two dots is closed. -/
lemma closed_of_partSegments (h : partSegments s ≠ none) : Closed s := by
  obtain ⟨key, groups, rfl, hkey, hgroups⟩ := exists_key_groups s
  have hclosed : Closed groups := by
    rcases hgroups with rfl | ⟨t, rfl⟩
    · exact closed_of_bracketSegments (by simp [bracketSegments_nil])
    · refine closed_of_bracketSegments fun hnone => h ?_
      cases key with
      | nil => rw [List.nil_append, partSegments_brackets, hnone]
      | cons c key =>
        rw [partSegments_key (List.cons_ne_nil c key) hkey (.inr ⟨t, rfl⟩), hnone, Option.map_none]
  intro front back heq
  rcases List.append_eq_append_iff.mp heq with ⟨t, -, hback⟩ | ⟨t, rfl, hback⟩
  · exact hclosed t back hback
  · rcases t with _ | ⟨c, t⟩
    · exact hclosed [] back hback.symm
    · obtain ⟨rfl, -⟩ := List.cons.inj hback
      exact absurd (by simp) hkey

/-- A bracket group at the end of the text between two dots. -/
lemma partSegments_append (hs : Closed s) (hne : s ≠ []) (hinner : ']' ∉ inner) :
    partSegments (s ++ '[' :: (inner ++ [']'])) = (partSegments s).bind fun path =>
      (bracketSegment inner).map fun segment => path ++ [segment] := by
  obtain ⟨key, groups, rfl, hkey, hgroups⟩ := exists_key_groups s
  have hclosed : Closed groups := hs.of_append
  cases key with
  | nil =>
    rcases hgroups with rfl | ⟨t, rfl⟩
    · exact absurd rfl hne
    · rw [List.nil_append, partSegments_brackets, ← bracketSegments_append hclosed hinner,
        List.cons_append, partSegments_brackets]
  | cons c key =>
    have hopens : Opens (groups ++ '[' :: (inner ++ [']'])) := by
      rcases hgroups with rfl | ⟨t, rfl⟩
      · exact .inr ⟨_, rfl⟩
      · exact .inr ⟨_, rfl⟩
    rw [List.append_assoc, partSegments_key (List.cons_ne_nil c key) hkey hopens,
      partSegments_key (List.cons_ne_nil c key) hkey hgroups, bracketSegments_append hclosed hinner]
    cases bracketSegments groups with
    | none => rfl
    | some more => cases bracketSegment inner <;> rfl

/-- Nothing is left open where a path ends: it does not end with a dot, and every bracket in it is
closed. -/
structure Ended (p : List Char) : Prop where
  no_dot : ∀ t, p ≠ t ++ ['.']
  closed : Closed p

/-- The segments of a path and a bracket group behind it. -/
lemma parse_append_brackets (hp : Text.Tight p) (hend : Ended p)
    (hinner : '.' ∉ inner ∧ ']' ∉ inner) :
    parse (p ++ '[' :: (inner ++ [']'])) = (parse p).bind fun path =>
      (bracketSegment inner).map fun segment => path ++ [segment] := by
  have hgroup : Text.Tight ('[' :: (inner ++ [']'])) :=
    ⟨⟨'[', _, rfl, by decide⟩, ⟨'[' :: inner, ']', rfl, by decide⟩⟩
  have htight : Text.Tight (p ++ '[' :: (inner ++ [']'])) := by simpa using hp.append hgroup []
  obtain ⟨parts, last, ⟨front, hfront, hdot⟩, hsplit⟩ := Text.exists_splitOn_append '.' p
  have hlast : last ≠ [] := by
    rintro rfl
    rw [List.append_nil] at hfront
    subst hfront
    rcases hdot with rfl | ⟨t, rfl⟩
    · exact hp.ne_nil rfl
    · exact hend.no_dot t rfl
  have hclosed : Closed last := by
    subst hfront
    exact hend.closed.of_append
  have hnil : Text.splitOn '.' p = parts ++ [last] := by simpa using hsplit [] (by simp)
  have hsingle : ∀ part, [part].mapM partSegments = (partSegments part).map ([·]) := fun part => by
    rw [List.mapM_cons, List.mapM_nil]
    cases partSegments part <;> rfl
  rw [parse_of_tight htight, parse_of_tight hp, hnil, hsplit _ (by simp [hinner.1]),
    List.mapM_append, List.mapM_append, hsingle, hsingle,
    partSegments_append hclosed hlast hinner.2]
  cases parts.mapM partSegments with
  | none => rfl
  | some segments =>
    cases partSegments last with
    | none => rfl
    | some path =>
      cases bracketSegment inner with
      | none => rfl
      | some segment => simp

/-- A path that can be read is ended. -/
lemma ended_of_parse (hp : Text.Tight p) (h : parse p ≠ none) : Ended p := by
  obtain ⟨path, hpath⟩ := Option.ne_none_iff_exists'.mp h
  rw [parse_of_tight hp] at hpath
  obtain ⟨segments, hsegments, -⟩ := Option.map_eq_some_iff.mp hpath
  have hread : ∀ part ∈ Text.splitOn '.' p, partSegments part ≠ none := fun part hpart => by
    obtain ⟨segment, hsegment⟩ := exists_of_mapM hsegments hpart
    simp [hsegment]
  constructor
  · rintro t rfl
    refine hread [] ?_ rfl
    rw [Text.splitOn_append_cons]
    simp [Text.splitOn]
  · rintro front back rfl
    -- the part with the bracket ends before the next dot
    obtain ⟨parts, last, -, hsplit⟩ := Text.exists_splitOn_append '.' front
    cases hcut : Text.cutAt '.' back with
    | none =>
      have hdot : '.' ∉ back := Text.cutAt_eq_none_iff.mp hcut
      have hpart := hread (last ++ '[' :: back) (by rw [hsplit _ (by simp [hdot])]; simp)
      exact closed_of_partSegments hpart last back rfl
    | some cut =>
      obtain ⟨rfl, hdot⟩ := Text.of_cutAt hcut
      have hpart := hread (last ++ '[' :: cut.1) (by
        have htext : front ++ '[' :: (cut.1 ++ '.' :: cut.2) =
            (front ++ '[' :: cut.1) ++ '.' :: cut.2 := by simp
        rw [htext, Text.splitOn_append_cons, hsplit _ (by simp [hdot])]
        simp)
      exact List.mem_append_left _ (closed_of_partSegments hpart last cut.1 rfl)

/-! ## Three spellings -/

/-- A segment behind a path, after a dot. -/
def dotted (p k : List Char) : List Char := p ++ '.' :: k

/-- A segment behind a path, in brackets. -/
def bracketed (p k : List Char) : List Char := p ++ '[' :: (k ++ [']'])

/-- A segment behind a path, in quotation marks in brackets. -/
def quoted (q : Char) (p k : List Char) : List Char := bracketed p (q :: (k ++ [q]))

/-- A step more. -/
lemma walk_concat (v : Json) (path : Path) (segment : Segment) :
    walk v (path ++ [segment]) = (walk v path).bind fun w => step w segment := by
  rw [walk_append]
  congr 1
  funext w
  exact List.foldlM_cons.trans (bind_pure (step w segment))

/-- What a path leads to with a segment after a dot behind it. -/
lemma at?_dotted (v : Json) (hp : Text.Tight p) (hk : Bare k) :
    v.at? (dotted p k) = (v.at? p).bind fun w => step w (.key (String.ofList k)) := by
  have htight : Text.Tight k := Text.tight_of_forall hk.ne_nil fun c hc => (hk.plain c hc).2.2
  have hdot : '.' ∉ k := fun hc => (hk.plain _ hc).1 (by simp)
  have hopen : '[' ∉ k := fun hc => (hk.plain _ hc).1 (by simp)
  have hkey : parse k = some [.key (String.ofList k)] := by
    have hpart := partSegments_key hk.ne_nil hopen (.inl rfl)
    rw [List.append_nil, bracketSegments_nil] at hpart
    rw [parse_of_tight htight, Text.splitOn_eq, List.splitOn_eq_singleton hdot, List.mapM_cons,
      hpart]
    rfl
  rw [Json.at?, Json.at?, dotted, parse_append_dot hp htight, hkey]
  cases parse p with
  | none => rfl
  | some path => exact walk_concat v path _

/-- What a path leads to with brackets behind it. -/
lemma at?_brackets (v : Json) (hp : Text.Tight p) (hend : Ended p)
    (hinner : '.' ∉ inner ∧ ']' ∉ inner) (hsegment : bracketSegment inner = some (inBrackets k)) :
    v.at? (bracketed p inner) = (v.at? p).bind fun w => step w (inBrackets k) := by
  rw [Json.at?, Json.at?, bracketed, parse_append_brackets hp hend hinner, hsegment]
  cases parse p with
  | none => rfl
  | some path => exact walk_concat v path _

/-- The three spellings of a segment behind a path. A segment after a dot is looked up as it is
written. Behind every path that can be read, and behind others that do not end with a dot or in an
open bracket, one in brackets leads to the same value with quotation marks and without them. It is
looked up by the name that the brackets stand for if the path leads to an object, and otherwise
leads to what the segment after a dot leads to. So the spellings agree unless the path leads to an
object in which these names make a difference; the names differ for indices with a plus sign or with
zeros in front. -/
theorem at?_spellings (v : Json) (hp : Text.Tight p) (hk : Bare k) (hq : isQuote q = true) :
    v.at? (dotted p k) = ((v.at? p).bind fun w => step w (.key (String.ofList k))) ∧
      (parse p ≠ none → Ended p) ∧
      (Ended p →
        v.at? (quoted q p k) = v.at? (bracketed p k) ∧
        (∀ fields, v.at? p = some (.object fields) →
          v.at? (dotted p k) = Keyed.value? fields (String.ofList k) ∧
          v.at? (bracketed p k) = Keyed.value? fields (String.ofList (bracketName k))) ∧
        ((∀ fields, v.at? p ≠ some (.object fields)) →
          v.at? (bracketed p k) = v.at? (dotted p k))) ∧
      (bracketName k = k ↔
        readIndex k = none ∨ k = ['0'] ∨ (k.head? ≠ some '+' ∧ k.head? ≠ some '0')) := by
  have hbare : '.' ∉ k ∧ ']' ∉ k :=
    ⟨fun hc => (hk.plain _ hc).1 (by simp), fun hc => (hk.plain _ hc).1 (by simp)⟩
  have hmarks : '.' ∉ q :: (k ++ [q]) ∧ ']' ∉ q :: (k ++ [q]) := by
    have hmark : '.' ≠ q ∧ ']' ≠ q := by
      simp only [isQuote, Bool.or_eq_true, beq_iff_eq] at hq
      rcases hq with rfl | rfl <;> decide
    simp [hbare.1, hbare.2, hmark.1, hmark.2]
  refine ⟨at?_dotted v hp hk, ended_of_parse hp, fun hend => ?_, bracketName_eq_self_iff⟩
  have hbracketed := at?_brackets v hp hend hbare (bracketSegment_bare hk)
  have hquoted := at?_brackets v hp hend hmarks (bracketSegment_quoted hk hq)
  refine ⟨hquoted.trans hbracketed.symm, fun fields hfields => ⟨?_, ?_⟩, fun hother => ?_⟩
  · rw [at?_dotted v hp hk, hfields]
    rfl
  · rw [hbracketed, hfields, Option.bind_some, step_inBrackets_object]
  · rw [hbracketed, at?_dotted v hp hk]
    cases hv : v.at? p with
    | none => rfl
    | some w =>
      rw [Option.bind_some, Option.bind_some]
      exact step_inBrackets (fun fields heq => hother fields (heq ▸ hv)) k

/-- An index behind a path to an array, and behind one to an object with a field of that name. -/
theorem at?_spellings_index :
    let v : Json := .array [.array [.null, .bool true], .object [("1", .bool false)]]
    let k := ['1']
    (Text.Tight ['0'] ∧ Text.Tight ['1'] ∧ Bare k ∧ isQuote '"' = true ∧
      Ended ['0'] ∧ Ended ['1']) ∧
    (v.at? (dotted ['0'] k) = some (.bool true) ∧
      v.at? (bracketed ['0'] k) = v.at? (dotted ['0'] k) ∧
      v.at? (quoted '"' ['0'] k) = v.at? (bracketed ['0'] k)) ∧
    (v.at? (dotted ['1'] k) = some (.bool false) ∧
      v.at? (bracketed ['1'] k) = some (.bool false) ∧
      v.at? (quoted '"' ['1'] k) = v.at? (bracketed ['1'] k)) := by
  intro v k
  have htight : ∀ c : Char, Text.isBlank c = false → Text.Tight [c] := fun c hc =>
    Text.tight_of_forall (List.cons_ne_nil c []) (by simpa using hc)
  have hk : Bare k := ⟨by simp [k], by simp [k, isQuote, Text.isBlank]⟩
  have hitems : v.at? ['0'] = some (.array [.null, .bool true]) := by cbv
  have hfields : v.at? ['1'] = some (.object [("1", .bool false)]) := by cbv
  obtain ⟨hdotted, hended, hspelled, -⟩ := at?_spellings v (htight '0' (by decide)) hk
    (show isQuote '"' = true by decide)
  obtain ⟨-, hended', hspelled', -⟩ := at?_spellings v (htight '1' (by decide)) hk
    (show isQuote '"' = true by decide)
  have hend : Ended ['0'] := hended (by cbv; simp)
  have hend' : Ended ['1'] := hended' (by cbv; simp)
  obtain ⟨hquoted, -, hother⟩ := hspelled hend
  obtain ⟨hquoted', hobject, -⟩ := hspelled' hend'
  refine ⟨⟨htight '0' (by decide), htight '1' (by decide), hk, by decide, hend, hend'⟩,
    ⟨?_, hother (by simp [hitems]), hquoted⟩,
    (hobject _ hfields).1.trans (by cbv), (hobject _ hfields).2.trans (by cbv), hquoted'⟩
  rw [hdotted, hitems]
  cbv

/-- A field whose name is a number with zeros in front is found after a dot, but not in brackets,
not even in quotation marks. -/
theorem at?_brackets_zeros_in_front :
    let v : Json := .object [("a", .object [("007", .bool true)])]
    let p := ['a']
    let k := ['0', '0', '7']
    Text.Tight p ∧ Bare k ∧ v.at? (dotted p k) = some (.bool true) ∧
      v.at? (bracketed p k) = none ∧ v.at? (quoted '\'' p k) = none := by
  intro v p k
  refine ⟨Text.tight_of_forall (by simp [p]) (by simp [p, Text.isBlank]),
    ⟨by simp [k], by simp [k, isQuote, Text.isBlank]⟩, by cbv, by cbv, by cbv⟩

end Path

end Dataflow
