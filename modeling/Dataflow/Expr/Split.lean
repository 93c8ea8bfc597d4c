import Dataflow.Expr.Operator
import Dataflow.Text.Blank
import Dataflow.Text.Pieces

/-!
# Cutting an expression at an operator

There is no grammar behind the expression language: an expression is cut in two at an operator
outside quotes and brackets, and the two sides are expressions again. `cuts` lists all places
where an operator of a level stands, `split?` picks the outermost of them. Both sides are
strictly shorter than the expression, which is why evaluation ends.
-/

namespace Dataflow.Expr

/-- An expression taken apart at an operator. -/
structure Cut where
  left : List Char
  op : Operator
  right : List Char
deriving DecidableEq, Repr

/-- Whether the character opens or closes a quoted part. -/
def isQuote (c : Char) : Bool := c == '"' || c == '\''

/-- The nesting of brackets after a character; a closing bracket too many changes nothing. -/
def nesting (depth : Nat) (c : Char) : Nat :=
  if c == '[' then depth + 1 else if c == ']' then depth - 1 else depth

/-- The operator at the start of a text, with the rest. -/
def operatorAt (ops : List Operator) (s : List Char) : Option (Operator × List Char) :=
  ops.findSome? fun op => (Text.dropStart? op.symbol s).map fun rest => (op, rest)

/-- Whether an operator between these two texts (the first one reversed) has room: something on
both sides, and blanks next to it if it needs them. -/
def hasRoom (op : Operator) (before after : List Char) : Bool :=
  match before, after with
  | b :: _, a :: _ => !op.needsBlanks || (Text.isAsciiBlank b && Text.isAsciiBlank a)
  | _, _ => false

theorem length_of_dropStart? {start text rest : List Char}
    (h : Text.dropStart? start text = some rest) : start ++ rest = text := by
  induction start generalizing text with
  | nil => simpa [Text.dropStart?] using h.symm
  | cons a start ih =>
    cases text with
    | nil => simp [Text.dropStart?] at h
    | cons b text =>
      by_cases hab : (a == b) = true
      · simp only [Text.dropStart?, hab, if_true] at h
        have := ih h
        simp_all
      · simp [Text.dropStart?, hab] at h

theorem append_of_operatorAt {ops : List Operator} {s rest : List Char} {op : Operator}
    (h : operatorAt ops s = some (op, rest)) : op.symbol ++ rest = s := by
  unfold operatorAt at h
  obtain ⟨op', _, h⟩ := List.exists_of_findSome?_eq_some h
  obtain ⟨r, hr, h⟩ := Option.map_eq_some_iff.1 h
  cases h
  exact length_of_dropStart? hr

theorem length_lt_of_operatorAt {ops : List Operator} {s rest : List Char} {op : Operator}
    (h : operatorAt ops s = some (op, rest)) : rest.length < s.length := by
  rw [← append_of_operatorAt h, List.length_append]
  have := op.symbol_length_pos
  omega

/--
All cuts of a text at operators outside quotes and brackets, from left to right. `before` is what
has been passed already, reversed, and `quote` the quotation mark that is open, if any.
-/
def cuts (ops : List Operator) (quote : Option Char) (depth : Nat) (before s : List Char) :
    List Cut :=
  match s with
  | [] => []
  | c :: rest =>
    match quote with
    | some q => cuts ops (if c == q then none else some q) depth (c :: before) rest
    | none =>
      if isQuote c then cuts ops (some c) depth (c :: before) rest
      else if nesting depth c = 0 then
        match h : operatorAt ops (c :: rest) with
        | some (op, after) =>
          have : after.length < rest.length + 1 := length_lt_of_operatorAt h
          let later := cuts ops none 0 (op.symbol.reverse ++ before) after
          if hasRoom op before after then ⟨before.reverse, op, after⟩ :: later else later
        | none => cuts ops none 0 (c :: before) rest
      else cuts ops none (nesting depth c) (c :: before) rest
termination_by s.length

/-- The outermost cut of a list of cuts. -/
def Side.pick (side : Side) (cs : List Cut) : Option Cut :=
  match side with
  | .leftmost => cs.head?
  | .rightmost => cs.getLast?

/-- The cut with both sides trimmed; a cut with a blank side is none. -/
def Cut.trim? (cut : Cut) : Option Cut :=
  let left := Text.trim cut.left
  let right := Text.trim cut.right
  if left.isEmpty || right.isEmpty then none else some ⟨left, cut.op, right⟩

/-- The outermost cut of an expression at one level. -/
def splitAt? (level : Level) (s : List Char) : Option Cut :=
  (level.outermost.pick (cuts level.operators none 0 [] s)).bind Cut.trim?

/-- The outermost cut of an expression: the loosest level that has one decides. -/
def split? (s : List Char) : Option Cut := Level.all.findSome? fun level => splitAt? level s

/-! A cut loses nothing, so its sides are shorter than the text. -/

theorem append_of_mem_cuts {ops : List Operator} {quote : Option Char} {depth : Nat}
    {before s : List Char} {cut : Cut} (h : cut ∈ cuts ops quote depth before s) :
    cut.left ++ cut.op.symbol ++ cut.right = before.reverse ++ s := by
  fun_induction cuts ops quote depth before s with
  | case1 => simp at h
  | case2 depth before c rest q ih => simpa using ih h
  | case3 depth before c rest hq ih => simpa using ih h
  | case4 depth before c rest hq hd op after hop hlt later hroom ih =>
    have hs := append_of_operatorAt hop
    rcases List.mem_cons.1 h with rfl | h
    · simp [← hs]
    · simpa [← hs] using ih h
  | case5 depth before c rest hq hd op after hop hlt later hroom ih =>
    have hs := append_of_operatorAt hop
    simpa [← hs] using ih h
  | case6 depth before c rest hq hd hop ih => simpa using ih h
  | case7 depth before c rest hq hd ih => simpa using ih h

theorem Side.mem_of_pick {side : Side} {cs : List Cut} {cut : Cut}
    (h : side.pick cs = some cut) : cut ∈ cs := by
  cases side with
  | leftmost => exact List.mem_of_mem_head? h
  | rightmost => exact List.mem_of_getLast? h

theorem length_dropEndWhile_le (p : Char → Bool) (s : List Char) :
    (Text.dropEndWhile p s).length ≤ s.length := by
  unfold Text.dropEndWhile
  simpa using (List.dropWhile_suffix (l := s.reverse) p).length_le

theorem length_trim_le (s : List Char) : (Text.trim s).length ≤ s.length := by
  unfold Text.trim Text.stripWhile
  exact Nat.le_trans (length_dropEndWhile_le _ _) (List.dropWhile_suffix _).length_le

theorem length_lt_of_splitAt? {level : Level} {s : List Char} {cut : Cut}
    (h : splitAt? level s = some cut) :
    cut.left.length < s.length ∧ cut.right.length < s.length := by
  unfold splitAt? at h
  obtain ⟨raw, hraw, h⟩ := Option.bind_eq_some_iff.1 h
  have happ := append_of_mem_cuts (Side.mem_of_pick hraw)
  have hlen := congrArg List.length happ
  have hpos := raw.op.symbol_length_pos
  simp only [List.length_append, List.reverse_nil, List.nil_append] at hlen
  unfold Cut.trim? at h
  simp only at h
  split at h
  · simp at h
  · rename_i hne
    simp only [Bool.or_eq_true, List.isEmpty_iff, not_or] at hne
    cases h
    have hl := length_trim_le raw.left
    have hr := length_trim_le raw.right
    have hl0 := List.length_pos_iff.2 hne.1
    have hr0 := List.length_pos_iff.2 hne.2
    simp only
    omega

theorem length_lt_of_split? {s : List Char} {cut : Cut} (h : split? s = some cut) :
    cut.left.length < s.length ∧ cut.right.length < s.length := by
  obtain ⟨level, _, h⟩ := List.exists_of_findSome?_eq_some h
  exact length_lt_of_splitAt? h

end Dataflow.Expr
