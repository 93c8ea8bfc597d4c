import Dataflow.Proofs.Text.Trimming
import Dataflow.Proofs.Url.HostAddress

/-!
# Segments of a path

The text of a special URL is cut at slashes, and the pieces behind the authority are the segments of
its path. A text without marks that stands between two slashes is one of them
(`exists_parseChars`): the URL depends on it in that place only, as long as it does not stand where
the authority should be. A dot segment is resolved, and takes the segment in front of it back or
leaves no trace (`resolve_segment`). The encoded form of a text is a dot segment if and only if the
text is one itself (`kept_percentEncode_iff`), for full stops are not encoded.
-/

namespace Dataflow.Url

variable {special : Bool} {slash c : Char} {s t front back middle segment : List Char}

/-! ## Slashes -/

/-- In special URLs, a backslash is as good as a slash. -/
lemma isSlash_iff : isSlash true c = true ↔ c = '/' ∨ c = '\\' := by
  simp [isSlash]

/-- There is always a piece between slashes. -/
lemma splitSlashes_ne_nil (special : Bool) (s : List Char) : splitSlashes special s ≠ [] := by
  cases s with
  | nil => simp [splitSlashes]
  | cons c s =>
    rw [splitSlashes]
    split
    · simp
    · split <;> simp

/-- Two texts with a slash between them are cut as each of them is. -/
lemma splitSlashes_append_cons (hslash : isSlash special slash = true) (s t : List Char) :
    splitSlashes special (s ++ slash :: t) = splitSlashes special s ++ splitSlashes special t := by
  induction s with
  | nil =>
    obtain ⟨piece, more, ht⟩ := List.exists_cons_of_ne_nil (splitSlashes_ne_nil special t)
    change splitSlashes special (slash :: t) = [] :: splitSlashes special t
    rw [splitSlashes, ht]
    simp [hslash]
  | cons c s ih =>
    obtain ⟨piece, more, hs⟩ := List.exists_cons_of_ne_nil (splitSlashes_ne_nil special s)
    rw [List.cons_append, splitSlashes, ih, splitSlashes, hs]
    simp only [List.cons_append]
    split <;> rfl

/-- A text without slashes is one piece. -/
lemma splitSlashes_eq_singleton (hs : ∀ c ∈ s, isSlash special c = false) :
    splitSlashes special s = [s] := by
  induction s with
  | nil => rfl
  | cons c s ih =>
    obtain ⟨hc, hs⟩ := List.forall_mem_cons.mp hs
    rw [splitSlashes, ih hs]
    simp [hc]

/-- Pieces of what stands behind a slash are pieces of the whole text. -/
lemma mem_splitSlashes_of_append_cons (hslash : isSlash special slash = true)
    (hsegment : segment ∈ splitSlashes special t) :
    segment ∈ splitSlashes special (s ++ slash :: t) := by
  rw [splitSlashes_append_cons hslash]
  exact List.mem_append_right _ hsegment

/-- A text without slashes in front of the end of a text, or of a slash, is a piece. -/
lemma exists_splitSlashes_append (hback : ∀ c ∈ back.head?, isSlash special c = true) :
    ∃ after, ∀ s, (∀ c ∈ s, isSlash special c = false) →
      splitSlashes special (s ++ back) = s :: after := by
  cases back with
  | nil => exact ⟨[], fun s hs => by rw [List.append_nil, splitSlashes_eq_singleton hs]⟩
  | cons c back =>
    refine ⟨splitSlashes special back, fun s hs => ?_⟩
    rw [splitSlashes_append_cons (hback c rfl), splitSlashes_eq_singleton hs]
    rfl

/-! ## Dot segments -/

/-- A segment that is kept when a path is resolved, for it is no dot segment. -/
def Kept (segment : List Char) : Prop :=
  isSingleDot segment = false ∧ isDoubleDot segment = false

instance : DecidablePred Kept := fun _ => inferInstanceAs (Decidable (_ ∧ _))

/-- No segment of the text of a special URL is a dot segment. -/
def Undotted (text : String) : Prop :=
  ∀ segment ∈ splitSlashes true (significant text.toList), Kept segment

/-- What a path goes on with behind a dot segment; at the end, the dot segment leaves an empty one. -/
def closing (segments : List (List Char)) : List (List Char) :=
  if segments.isEmpty then [[]] else segments

/-- Outside of files, segments are kept with their characters encoded. -/
lemma keepSegment_false (done : List (List Char)) (segment : List Char) :
    keepSegment false done segment = Text.percentEncode safeInPath segment := rfl

/-- Outside of files, any last segment is taken back. -/
lemma shorten_false (done : List (List Char)) : shorten false done = done.dropLast := by
  unfold shorten
  split <;> simp

/-- Segments that are kept are encoded one by one, and those behind them are resolved as before. -/
lemma resolve_append {before : List (List Char)} (hbefore : ∀ segment ∈ before, Kept segment)
    (done rest : List (List Char)) :
    resolve false done (before ++ rest) =
      resolve false (done ++ before.map (Text.percentEncode safeInPath)) rest := by
  induction before generalizing done with
  | nil => simp
  | cons segment before ih =>
    obtain ⟨⟨hsingle, hdouble⟩, hbefore⟩ := List.forall_mem_cons.mp hbefore
    rw [List.cons_append, resolve]
    simp only [hsingle, hdouble, keepSegment_false, Bool.false_eq_true, if_false]
    rw [ih hbefore]
    simp

/-- A path of which every segment is kept is encoded segment by segment. -/
lemma resolve_of_kept {segments : List (List Char)} (h : ∀ segment ∈ segments, Kept segment)
    (done : List (List Char)) :
    resolve false done segments = done ++ segments.map (Text.percentEncode safeInPath) := by
  rw [← List.append_nil segments, resolve_append h, resolve, List.append_nil]

/-- What becomes of a segment between others that are kept. -/
lemma resolve_segment {before after : List (List Char)}
    (hbefore : ∀ segment ∈ before, Kept segment) (hafter : ∀ segment ∈ after, Kept segment)
    (segment : List Char) :
    let encode := List.map (Text.percentEncode safeInPath)
    let path := resolve false [] (before ++ segment :: after)
    (Kept segment →
      path = encode before ++ Text.percentEncode safeInPath segment :: encode after) ∧
    (isSingleDot segment = true → path = encode before ++ closing (encode after)) ∧
    (isDoubleDot segment = true → path = (encode before).dropLast ++ closing (encode after)) := by
  intro encode path
  have hpath : path = resolve false (encode before) (segment :: after) := by
    simp only [path, resolve_append hbefore, List.nil_append, encode]
  have hclosing : ∀ done, resolve false (if after.isEmpty then done ++ [[]] else done) after =
      done ++ closing (encode after) := by
    intro done
    rw [resolve_of_kept hafter]
    cases after with
    | nil => simp [closing, encode]
    | cons => rfl
  refine ⟨fun hkept => ?_, fun hsingle => ?_, fun hdouble => ?_⟩
  · have hall : ∀ s ∈ before ++ segment :: after, Kept s := by
      intro s hs
      rcases List.mem_append.mp hs with hs | hs
      · exact hbefore s hs
      · rcases List.mem_cons.mp hs with rfl | hs
        · exact hkept
        · exact hafter s hs
    simp only [path, resolve_of_kept hall, List.nil_append, List.map_append, List.map_cons, encode]
  · have hdouble : isDoubleDot segment = false := by
      rw [isSingleDot, beq_iff_eq] at hsingle
      simp [isDoubleDot, hsingle]
    rw [hpath, resolve]
    simp only [hsingle, hdouble, Bool.false_eq_true, if_false, if_true]
    exact hclosing _
  · rw [hpath, resolve]
    simp only [hdouble, if_true, shorten_false]
    exact hclosing _

/-! ## Segments in a text -/

/-- What counts of a text in three parts, with slashes at the ends of the outer ones: each part
counts by itself. -/
lemma exists_significant (hslash : isSlash true slash = true)
    (hback : ∀ c ∈ back.head?, isSlash true c = true) (front : List Char) :
    ∃ front' back', (∀ c ∈ back'.head?, isSlash true c = true) ∧
      ∀ s, (∀ c ∈ s, 0x20 < c.toNat) →
        significant (front ++ slash :: (s ++ back)) = front' ++ slash :: (s ++ back') := by
  let isMargin : Char → Bool := fun c => c.toNat ≤ 0x20
  let counts : Char → Bool := fun c => c != '\t' && c != '\n' && c != '\r'
  have hslashes : ∀ c, isSlash true c = true → isMargin c = false ∧ counts c = true := by
    intro c hc
    rcases isSlash_iff.mp hc with rfl | rfl
    · decide
    · decide
  have hcounts : ∀ c, isMargin c = false → counts c = true := by
    intro c hc
    have hne : ∀ d, isMargin d = true → c ≠ d := by
      rintro d hd rfl
      rw [hc] at hd
      cases hd
    simp [counts, hne '\t' rfl, hne '\n' rfl, hne '\r' rfl]
  refine ⟨(front.dropWhile isMargin).filter counts,
    (Text.dropEndWhile isMargin back).filter counts, ?_, fun s hs => ?_⟩
  · cases back with
    | nil => simp [Text.dropEndWhile]
    | cons c back =>
      have hc := hback c rfl
      have hkept : Text.dropEndWhile isMargin (c :: back) = c :: Text.dropEndWhile isMargin back :=
        Text.dropEndWhile_append_cons (hslashes c hc).1 [] back
      rw [hkept, List.filter_cons_of_pos (hslashes c hc).2]
      rintro d ⟨⟩
      exact hc
  · have hmargin : ∀ c ∈ s, isMargin c = false := fun c hc => by simpa [isMargin] using hs c hc
    have hall : s.filter counts = s :=
      List.filter_eq_self.mpr fun c hc => hcounts c (hmargin c hc)
    obtain ⟨hslash_margin, hslash_counts⟩ := hslashes slash hslash
    change (Text.dropEndWhile isMargin ((front ++ slash :: (s ++ back)).dropWhile isMargin)).filter
      counts = _
    rw [Text.dropWhile_append_cons hslash_margin, Text.dropEndWhile_append_cons hslash_margin,
      Text.dropEndWhile_append hmargin, List.filter_append, List.filter_cons_of_pos hslash_counts,
      List.filter_append, hall]

/-- The scheme of a text with a slash does not depend on what follows the slash. -/
lemma exists_takeScheme {scheme rest : List Char} (hslash : isSlash true slash = true)
    (h : takeScheme (front ++ slash :: s) = some (scheme, rest)) :
    ∃ middle, (∃ start, front = start ++ middle) ∧ rest = middle ++ slash :: s ∧
      ∀ t, takeScheme (front ++ slash :: t) = some (scheme, middle ++ slash :: t) := by
  have hslash_char : isSchemeChar slash = false ∧ slash ≠ ':' := by
    rcases isSlash_iff.mp hslash with rfl | rfl
    · decide
    · decide
  have hafter : ∀ t, (front ++ slash :: t).dropWhile isSchemeChar =
      front.dropWhile isSchemeChar ++ slash :: t := Text.dropWhile_append_cons hslash_char.1 front
  have hbefore : ∀ t, (front ++ slash :: t).takeWhile isSchemeChar =
      front.takeWhile isSchemeChar := Text.takeWhile_append_cons hslash_char.1 front
  cases hcolon : front.dropWhile isSchemeChar with
  | nil =>
    rw [takeScheme, hafter, hcolon] at h
    split at h
    · rename_i heq
      exact absurd (List.cons.inj heq).1 hslash_char.2
    · cases h
  | cons c middle =>
    have hfront := List.takeWhile_append_dropWhile (p := isSchemeChar) (l := front)
    rw [hcolon] at hfront
    have hhead : ∀ t, (front ++ slash :: t).head? = front.head? := by
      intro t
      rw [← hfront]
      cases front.takeWhile isSchemeChar with
      | nil => rfl
      | cons => rfl
    rw [takeScheme, hafter, hcolon, hbefore, hhead] at h
    split at h
    · rename_i rest' heq
      obtain ⟨rfl, rfl⟩ := List.cons.inj heq
      split at h
      · rename_i hletter
        obtain ⟨rfl, rfl⟩ := Prod.mk.inj (Option.some.inj h)
        refine ⟨middle, ⟨front.takeWhile isSchemeChar ++ [':'], by simpa using hfront.symm⟩, rfl,
          fun t => ?_⟩
        rw [takeScheme, hafter, hcolon, hbefore, hhead]
        simp [hletter]
      · cases h
    · cases h

/-- What follows the scheme of a special URL is the authority up to the next slash, and the path. -/
lemma readSpecial_eq (scheme : List Char) (more : Bool) (s : List Char) :
    let isOther := fun c => !isSlash true c
    let text := s.dropWhile (isSlash true)
    readSpecial scheme more s =
      (readAuthority scheme (more || !(text.dropWhile isOther).isEmpty)
        (text.takeWhile isOther)).map fun authority =>
          (some authority, specialPath (text.dropWhile isOther)) := by
  intro isOther text
  change (readAuthority scheme (more || !(text.dropWhile isOther).isEmpty)
    (text.takeWhile isOther) >>= fun authority =>
      .ok (some authority, specialPath (text.dropWhile isOther))) = _
  cases readAuthority scheme (more || !(text.dropWhile isOther).isEmpty)
    (text.takeWhile isOther) <;> rfl

/-- What follows the scheme of a special URL: a slash behind other characters belongs to the path, if
it is not the first one there. So the authority does not depend on what follows it, and the segments
in front of it do not, either. -/
lemma exists_readSpecial (hslash : isSlash true slash = true)
    (hmiddle : ∃ c ∈ middle, isSlash true c = false) (scheme : List Char) :
    ∃ (authority : List Char) (before : List (List Char)),
      (∀ start, ∀ segment ∈ before, segment ∈ splitSlashes true (start ++ middle)) ∧
      ∀ more s, readSpecial scheme more (middle ++ slash :: s) =
        (readAuthority scheme true authority).map fun authority =>
          (some authority, .segments (resolve false [] (before ++ splitSlashes true s))) := by
  let isOther : Char → Bool := fun c => !isSlash true c
  have hother : isOther slash = false := by simp [isOther, hslash]
  let tail := middle.dropWhile (isSlash true)
  have htail : tail ≠ [] := by
    obtain ⟨c, hc, hother⟩ := hmiddle
    intro hnil
    rw [List.dropWhile_eq_nil_iff.mp hnil c hc] at hother
    cases hother
  have hread : ∀ more s, readSpecial scheme more (middle ++ slash :: s) =
      (readAuthority scheme true (tail.takeWhile isOther)).map fun authority =>
        (some authority, specialPath (tail.dropWhile isOther ++ slash :: s)) := by
    intro more s
    have hdrop : (middle ++ slash :: s).dropWhile (isSlash true) = tail ++ slash :: s := by
      rw [List.dropWhile_append, if_neg (by rwa [List.isEmpty_iff])]
    have hmore : (more || !(tail.dropWhile isOther ++ slash :: s).isEmpty) = true := by simp
    rw [readSpecial_eq, hdrop, Text.dropWhile_append_cons hother, Text.takeWhile_append_cons hother,
      hmore]
  cases hpath : tail.dropWhile isOther with
  | nil =>
    refine ⟨tail.takeWhile isOther, [], by simp, fun more s => ?_⟩
    rw [hread, hpath, List.nil_append, specialPath]
    simp only [hslash, if_true, List.nil_append]
  | cons c path =>
    have hc : isSlash true c = true := by
      have hhead := List.head_dropWhile_not isOther (show tail.dropWhile isOther ≠ [] by
        simp [hpath])
      simpa [hpath, isOther] using hhead
    refine ⟨tail.takeWhile isOther, splitSlashes true path, fun start segment hsegment => ?_,
      fun more s => ?_⟩
    · have htext : middle = (middle.takeWhile (isSlash true) ++ tail.takeWhile isOther) ++
          c :: path := by
        rw [← hpath, List.append_assoc, List.takeWhile_append_dropWhile,
          List.takeWhile_append_dropWhile]
      rw [htext, ← List.append_assoc]
      exact mem_splitSlashes_of_append_cons hc hsegment
    · rw [hread, hpath, List.cons_append, specialPath]
      simp only [hc, if_true, splitSlashes_append_cons hslash]

/-- A text without a mark is not cut off. -/
lemma cutOff_of_not_mem {mark : Char} (hs : mark ∉ s) : cutOff mark s = (s, none) := by
  rw [cutOff, Text.cutAt_eq_none_iff.mpr hs]

/-- A URL with an authority and a path, and without a query and a fragment. -/
def ofParts (scheme : List Char) (authority : Option Authority) (path : Path) : Url where
  scheme
  username := (authority.map Authority.username).getD []
  password := (authority.map Authority.password).getD []
  host := authority.map Authority.host
  port := authority.bind Authority.port
  path
  query := none
  fragment := none

/-- How the text of a special URL without a query and a fragment is read. -/
lemma parseChars_of_not_mem {scheme rest : List Char}
    (htake : takeScheme (significant s) = some (scheme, rest)) (hspecial : isSpecial scheme = true)
    (hfile : isFile scheme = false) (hfragment : '#' ∉ rest) (hquery : '?' ∉ rest) :
    parseChars s = (readSpecial scheme false rest).map fun parts =>
      ofParts scheme parts.1 parts.2 := by
  rw [parseChars, htake]
  simp only [cutOff_of_not_mem hfragment, cutOff_of_not_mem hquery, hfile, hspecial, if_true,
    Bool.false_eq_true, if_false, Option.isSome_none, Bool.or_self]
  cases readSpecial scheme false rest <;> rfl

/-- A URL has the scheme that its text starts with. -/
lemma exists_of_parseChars {url : Url} (h : parseChars s = .ok url) :
    ∃ rest, takeScheme (significant s) = some (url.scheme, rest) := by
  unfold parseChars at h
  cases htake : takeScheme (significant s) with
  | none =>
    rw [htake] at h
    cases h
  | some found =>
    obtain ⟨scheme, rest⟩ := found
    rw [htake] at h
    simp only at h
    have hscheme : url.scheme = scheme := by
      split at h
      · obtain ⟨parts, -, h⟩ := ok_of_bind h
        obtain rfl := Except.ok.inj h
        rfl
      · split at h
        · obtain ⟨parts, -, h⟩ := ok_of_bind h
          obtain rfl := Except.ok.inj h
          rfl
        · obtain ⟨parts, -, h⟩ := ok_of_bind h
          obtain rfl := Except.ok.inj h
          rfl
    exact ⟨rest, by rw [hscheme]⟩

/-- What counts of a text is made of its characters. -/
lemma mem_of_mem_significant (hc : c ∈ significant s) : c ∈ s := by
  have hmem := List.mem_of_mem_filter hc
  rw [Text.stripWhile, Text.dropEndWhile, List.mem_reverse] at hmem
  have hdropped := (List.dropWhile_sublist _).subset hmem
  rw [List.mem_reverse] at hdropped
  exact (List.dropWhile_sublist _).subset hdropped

/-- An authority without marks is the text of a host. -/
lemma authorityHostText_eq (huser : '@' ∉ s) (hport : ':' ∉ s) : authorityHostText s = s := by
  have hcut : ∀ inBrackets, cutPort inBrackets s = (s, none) := by
    induction s with
    | nil => exact fun _ => rfl
    | cons c s ih =>
      intro inBrackets
      obtain ⟨hc, hport⟩ := not_or.mp (List.mem_cons.not.mp hport)
      have hcolon : (c == ':') = false := by simpa using Ne.symm hc
      rw [cutPort, ih (List.not_mem_of_not_mem_cons huser) hport, hcolon]
      rfl
  rw [authorityHostText, cutUserinfo, if_neg (by simpa using huser), hcut]

/-- Where only slashes stand before it, a text between slashes is the authority. -/
lemma authority_of_slashes (hslash : isSlash true slash = true)
    (hmiddle : ∀ c ∈ middle, isSlash true c = true) (hs : ∀ c ∈ s, isSlash true c = false)
    (hne : s ≠ []) (hback : ∀ c ∈ back.head?, isSlash true c = true) :
    ((middle ++ slash :: (s ++ back)).dropWhile (isSlash true)).takeWhile
      (fun c => !isSlash true c) = s := by
  have hdrop : (s ++ back).dropWhile (isSlash true) = s ++ back := by
    obtain ⟨c, s', rfl⟩ := List.exists_cons_of_ne_nil hne
    exact List.dropWhile_cons_of_neg (by simp [hs c List.mem_cons_self])
  have htake : back.takeWhile (fun c => !isSlash true c) = [] := by
    cases back with
    | nil => rfl
    | cons c back => exact List.takeWhile_cons_of_neg (by simp [hback c rfl])
  rw [List.dropWhile_append_of_pos hmiddle, List.dropWhile_cons_of_pos hslash, hdrop,
    List.takeWhile_append_of_pos fun c hc => by simp [hs c hc], htake, List.append_nil]

/-- The character can be in a segment: it is visible, and no mark between the parts of a URL. -/
def IsSegmentChar (c : Char) : Prop :=
  0x20 < c.toNat ∧ isSlash true c = false ∧ c ≠ '?' ∧ c ≠ '#'

instance : DecidablePred IsSegmentChar := fun _ => inferInstanceAs (Decidable (_ ∧ _ ∧ _ ∧ _))

/-- A special URL with a segment between slashes: what follows the scheme is read in the same way
whatever takes the place of the segment. -/
lemma exists_parseChars_eq {url : Url} (hslash : isSlash true slash = true)
    (hback : ∀ c ∈ back.head?, isSlash true c = true) (hs : ∀ c ∈ s, IsSegmentChar c)
    (hparse : parseChars (front ++ slash :: (s ++ back)) = .ok url)
    (hspecial : isSpecial url.scheme = true) (hfile : isFile url.scheme = false)
    (hmarks : '?' ∉ front ++ slash :: (s ++ back) ∧ '#' ∉ front ++ slash :: (s ++ back)) :
    ∃ start middle back', (∀ c ∈ back'.head?, isSlash true c = true) ∧
      significant (front ++ slash :: (s ++ back)) = start ++ middle ++ slash :: (s ++ back') ∧
      hostText (front ++ slash :: (s ++ back)) =
        authorityHostText (((middle ++ slash :: (s ++ back')).dropWhile (isSlash true)).takeWhile
          fun c => !isSlash true c) ∧
      ∀ t, (∀ c ∈ t, IsSegmentChar c) → parseChars (front ++ slash :: (t ++ back)) =
        (readSpecial url.scheme false (middle ++ slash :: (t ++ back'))).map fun parts =>
          ofParts url.scheme parts.1 parts.2 := by
  obtain ⟨front', back', hback', hsignificant⟩ := exists_significant hslash hback front
  have hcounts := hsignificant s fun c hc => (hs c hc).1
  obtain ⟨rest, htake⟩ := exists_of_parseChars hparse
  rw [hcounts] at htake
  obtain ⟨middle, ⟨start, rfl⟩, rfl, htakes⟩ := exists_takeScheme hslash htake
  have hfree : ∀ mark, mark ∉ front ++ slash :: (s ++ back) → ∀ t, mark ∉ t →
      mark ∉ middle ++ slash :: (t ++ back') := by
    intro mark hmark t ht hc
    have hother : mark ∉ start ++ middle ++ slash :: (s ++ back') :=
      fun hc => hmark (mem_of_mem_significant (hcounts ▸ hc))
    simp only [List.mem_append, List.mem_cons] at hc hother
    tauto
  have hread : ∀ t, (∀ c ∈ t, IsSegmentChar c) →
      '#' ∉ middle ++ slash :: (t ++ back') ∧ '?' ∉ middle ++ slash :: (t ++ back') := fun t ht =>
    ⟨hfree '#' hmarks.2 t fun hmem => (ht '#' hmem).2.2.2 rfl,
      hfree '?' hmarks.1 t fun hmem => (ht '?' hmem).2.2.1 rfl⟩
  refine ⟨start, middle, back', hback', hcounts, ?_, fun t ht => ?_⟩
  · obtain ⟨hfragment, hquery⟩ := hread s hs
    rw [hostText, hcounts, htake]
    simp only [cutOff_of_not_mem hfragment, cutOff_of_not_mem hquery]
  · obtain ⟨hfragment, hquery⟩ := hread t ht
    have htake := htakes (t ++ back')
    rw [← hsignificant t fun c hc => (ht c hc).1] at htake
    exact parseChars_of_not_mem htake hspecial hfile hfragment hquery

/-- A special URL with a segment between slashes and without dot segments. Unless the segment is
where the authority should be, the path is resolved with whatever takes the place of the segment,
and nothing else in the URL depends on that. -/
lemma exists_parseChars {url : Url} (hslash : isSlash true slash = true)
    (hback : ∀ c ∈ back.head?, isSlash true c = true) (hs : ∀ c ∈ s, IsSegmentChar c)
    (hne : s ≠ []) (hparse : parseChars (front ++ slash :: (s ++ back)) = .ok url)
    (hspecial : isSpecial url.scheme = true) (hfile : isFile url.scheme = false)
    (hmarks : '?' ∉ front ++ slash :: (s ++ back) ∧ '#' ∉ front ++ slash :: (s ++ back))
    (hkept : ∀ segment ∈ splitSlashes true (significant (front ++ slash :: (s ++ back))),
      Kept segment) :
    hostText (front ++ slash :: (s ++ back)) = authorityHostText s ∨
      ∃ before after, (∀ segment ∈ before, Kept segment) ∧ (∀ segment ∈ after, Kept segment) ∧
        ∀ t, (∀ c ∈ t, IsSegmentChar c) → parseChars (front ++ slash :: (t ++ back)) =
          .ok { url with path := .segments (resolve false [] (before ++ t :: after)) } := by
  obtain ⟨start, middle, back', hback', hcounts, hauthority, hread⟩ :=
    exists_parseChars_eq hslash hback hs hparse hspecial hfile hmarks
  by_cases hmiddle : ∃ c ∈ middle, isSlash true c = false
  · right
    obtain ⟨authority, before, hbefore, hspecials⟩ :=
      exists_readSpecial hslash hmiddle url.scheme
    obtain ⟨after, hafter⟩ := exists_splitSlashes_append hback'
    rw [hcounts, splitSlashes_append_cons hslash, hafter s fun c hc => (hs c hc).2.1] at hkept
    refine ⟨before, after, fun segment hsegment => ?_, fun segment hsegment => ?_, fun t ht => ?_⟩
    · exact hkept segment (List.mem_append_left _ (hbefore start segment hsegment))
    · exact hkept segment (by simp [hsegment])
    · rw [hread s hs, hspecials] at hparse
      rw [hread t ht, hspecials, hafter t fun c hc => (ht c hc).2.1]
      cases hauthority : readAuthority url.scheme true authority with
      | error fault =>
        rw [hauthority] at hparse
        cases hparse
      | ok authority =>
        rw [hauthority] at hparse
        rw [← Except.ok.inj hparse]
        rfl
  · left
    -- only slashes stand between the scheme and the segment
    have hslashes : ∀ c ∈ middle, isSlash true c = true := by simpa using hmiddle
    rw [hauthority, authority_of_slashes hslash hslashes (fun c hc => (hs c hc).2.1) hne hback']

/-! ## Encoded texts as segments -/

/-- An unreserved character can be in a segment, and is not encoded there. -/
lemma isSegmentChar_of_isUnreserved (hc : Text.isUnreserved c = true) :
    IsSegmentChar c ∧ safeInPath c = true ∧ c ≠ '/' := by
  have hall : ∀ n < 128, Text.isUnreserved (Char.ofNat n) = true →
      IsSegmentChar (Char.ofNat n) ∧ safeInPath (Char.ofNat n) = true ∧ Char.ofNat n ≠ '/' := by
    decide +kernel
  have hascii := (Text.of_isUnreserved hc).1
  rw [← Char.ofNat_toNat c] at hc ⊢
  exact hall c.toNat hascii hc

/-- A character other than the percent sign is read as itself. -/
lemma dots_cons (hc : c ≠ '%') (s : List Char) : dots (c :: s) = c :: dots s := by
  rw [dots]
  rintro e rest h -
  exact hc h

/-- A segment that starts neither with a full stop nor with a percent sign is no dot segment. -/
lemma kept_cons (hdot : c ≠ '.') (hpercent : c ≠ '%') (s : List Char) : Kept (c :: s) := by
  simp [Kept, isSingleDot, isDoubleDot, dots_cons hpercent, hdot]

/-- No encoded byte is read as a full stop, unless it is the byte of one. -/
lemma exists_dots_percentByte {b : ℕ} (hb : b < 256) (hdot : b ≠ 0x2E) (rest : List Char) :
    ∃ t, dots (Text.percentByte b ++ rest) = '%' :: t := by
  have hall : ∀ b < 256, Text.upperHexDigit (b / 16) = '2' →
      Text.upperHexDigit (b % 16) = 'e' ∨ Text.upperHexDigit (b % 16) = 'E' → b = 0x2E := by
    decide +kernel
  change ∃ t, dots ('%' :: Text.upperHexDigit (b / 16) :: Text.upperHexDigit (b % 16) :: rest) =
    '%' :: t
  unfold dots
  split
  · rename_i e rest' heq
    simp only [List.cons.injEq, true_and] at heq
    obtain ⟨hhigh, rfl, rfl⟩ := heq
    have hlow := mt (hall b hb hhigh) hdot
    rw [if_neg (by simpa using hlow)]
    exact ⟨_, rfl⟩
  · rename_i heq
    obtain ⟨rfl, rfl⟩ := List.cons.inj heq
    exact ⟨_, rfl⟩
  · rename_i heq
    cases heq

/-- The first byte of a character is not that of a full stop, unless the character is one. -/
lemma exists_utf8Bytes (hc : c ≠ '.') : ∃ b more, Text.utf8Bytes c = b :: more ∧ b ≠ 0x2E := by
  unfold Text.utf8Bytes
  simp only
  split
  · refine ⟨_, _, rfl, fun hb => hc ?_⟩
    rw [← Char.ofNat_toNat c, hb]
  · split
    · exact ⟨_, _, rfl, by omega⟩
    · split
      · exact ⟨_, _, rfl, by omega⟩
      · exact ⟨_, _, rfl, by omega⟩

/-- The full stops of a text are all there are in its encoded form. -/
lemma dots_percentEncode (s : List Char) (n : ℕ) :
    dots (Text.percentEncode Text.isUnreserved s) = List.replicate n '.' ↔
      s = List.replicate n '.' := by
  induction s generalizing n with
  | nil => exact Iff.rfl
  | cons c s ih =>
    rw [Text.percentEncode, List.flatMap_cons, Text.percentChar, ← Text.percentEncode]
    by_cases hsafe : Text.isUnreserved c = true
    · rw [if_pos hsafe, List.singleton_append, dots_cons (Text.of_isUnreserved hsafe).2]
      cases n with
      | zero => simp
      | succ n => rw [List.replicate_succ, List.cons.injEq, List.cons.injEq, ih]
    · have hdot : c ≠ '.' := by
        rintro rfl
        exact hsafe rfl
      obtain ⟨b, more, hbytes, hb⟩ := exists_utf8Bytes hdot
      have hlt : b < 256 := Text.lt_of_mem_utf8Bytes (c := c) (by simp [hbytes])
      obtain ⟨t, ht⟩ := exists_dots_percentByte hlt hb
        (more.flatMap Text.percentByte ++ Text.percentEncode Text.isUnreserved s)
      rw [if_neg hsafe, hbytes, List.flatMap_cons, List.append_assoc, ht]
      cases n with
      | zero => simp
      | succ n => simp [List.replicate_succ, hdot]

/-- The encoded form of a text is a dot segment if and only if the text is one as it stands. -/
lemma kept_percentEncode_iff (s : List Char) :
    Kept (Text.percentEncode Text.isUnreserved s) ↔ s ≠ ['.'] ∧ s ≠ ['.', '.'] := by
  have hsingle := dots_percentEncode s 1
  have hdouble := dots_percentEncode s 2
  simp only [Kept, isSingleDot, isDoubleDot, beq_eq_false_iff_ne]
  exact and_congr (not_congr hsingle) (not_congr hdouble)

end Dataflow.Url
