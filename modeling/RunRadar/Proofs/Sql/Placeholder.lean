import RunRadar.Sql.Statement

/-!
# RunRadar.Proofs.Sql.Placeholder

The **placeholders** of a statement, as they are read in its text. A dollar sign with digits behind
it is one, together with all of the digits; a dollar sign with anything else behind it is part of
the SQL.

Pieces are put together with numbers that count on from piece to piece. When no piece of SQL could
be mistaken for a placeholder, or for the end of one (`Piece.isClear`), reading the text finds
exactly the numbers that were put in (`Piece.ofChars_texts`). So the placeholders are the numbers of
the parameters in their order, and putting the parameters back where their placeholders stand gives
the pieces again.
-/

namespace RunRadar.Sql

/-! ### Reading texts -/

/-- A character of SQL, or a placeholder with its number. -/
inductive Mark
  | char (c : Char)
  | placeholder (n : Nat)

namespace Mark

/-- What a text reads as. -/
def ofChars : List Char → List Mark
  | [] => []
  | c :: cs =>
    if c = '$' ∧ cs.takeWhile Char.isDigit ≠ [] then
      .placeholder (Nat.ofDigitChars 10 (cs.takeWhile Char.isDigit) 0) ::
        ofChars (cs.drop (cs.takeWhile Char.isDigit).length)
    else .char c :: ofChars cs
termination_by cs => cs.length
decreasing_by all_goals simp only [List.length_cons, List.length_drop]; omega

@[simp] theorem ofChars_nil : ofChars [] = [] := by rw [ofChars]

/-- A character that begins no placeholder stands for itself. -/
theorem ofChars_cons {c : Char} {cs : List Char}
    (h : c = '$' → cs.takeWhile Char.isDigit = []) : ofChars (c :: cs) = .char c :: ofChars cs := by
  rw [ofChars, if_neg fun ⟨hc, hdigits⟩ => hdigits (h hc)]

/-- A placeholder is read with its number, when no further digit follows. -/
theorem ofChars_placeholder (n : Nat) {rest : List Char}
    (h : rest.takeWhile Char.isDigit = []) :
    ofChars ((Piece.placeholder n).toList ++ rest) = .placeholder n :: ofChars rest := by
  have htext : (Piece.placeholder n).toList ++ rest = '$' :: (Nat.toDigits 10 n ++ rest) := by
    simp [Piece.placeholder]
  have hdigits : (Nat.toDigits 10 n ++ rest).takeWhile Char.isDigit = Nat.toDigits 10 n := by
    rw [List.takeWhile_append_of_pos, h, List.append_nil]
    exact fun c hc => Nat.isDigit_of_mem_toDigits (by decide) (by decide) hc
  rw [htext, ofChars, hdigits, if_pos ⟨rfl, Nat.toDigits_ne_nil⟩, Nat.ofDigitChars_ten_toDigits,
    List.drop_left]

/-- The number of a placeholder. -/
def number? : Mark → Option Nat
  | .char _ => none
  | .placeholder n => some n

end Mark

/-- No dollar sign in the text, and none at its end, could begin a placeholder. -/
def isDollarSafe : List Char → Bool
  | [] => true
  | c :: cs => (c ≠ '$' || cs.head?.any (!·.isDigit)) && isDollarSafe cs

/-- A text with such dollar signs is read character by character, whatever stands behind it. -/
theorem ofChars_append {cs : List Char} (h : isDollarSafe cs = true) (rest : List Char) :
    Mark.ofChars (cs ++ rest) = cs.map .char ++ Mark.ofChars rest := by
  induction cs with
  | nil => rfl
  | cons c cs ih =>
    obtain ⟨hfirst, hrest⟩ := Bool.and_eq_true_iff.mp h
    rw [List.cons_append, Mark.ofChars_cons, ih hrest, List.map_cons, List.cons_append]
    rintro rfl
    cases cs with
    | nil => simp at hfirst
    | cons d ds =>
      have hd : d.isDigit = false := by simpa using hfirst
      simp [hd]

theorem isDollarSafe_append {cs ds : List Char} (hcs : isDollarSafe cs = true)
    (hds : isDollarSafe ds = true) : isDollarSafe (cs ++ ds) = true := by
  induction cs with
  | nil => exact hds
  | cons c cs ih =>
    obtain ⟨hfirst, hrest⟩ := Bool.and_eq_true_iff.mp hcs
    refine Bool.and_eq_true_iff.mpr ⟨?_, ih hrest⟩
    cases cs with
    | nil => simpa using Or.inl (by simpa using hfirst)
    | cons d cs => simpa using hfirst

/-! ### Reading pieces -/

namespace Piece

/-- A piece that cannot be mistaken for a placeholder or its end. -/
def isClear : Piece → Bool
  | .sql text => text.toList.head?.any (!·.isDigit) && isDollarSafe text.toList
  | .bind _ => true

/-- A text that is written out is tested by its characters. -/
theorem isClear_ofList {cs : List Char}
    (h : (cs.head?.any (!·.isDigit) && isDollarSafe cs) = true) :
    (sql (String.ofList cs)).isClear = true := by
  rw [isClear, String.toList_ofList]
  exact h

theorem isClear_append {text behind : String} (htext : (sql text).isClear = true)
    (hbehind : (sql behind).isClear = true) : (sql (text ++ behind)).isClear = true := by
  obtain ⟨hhead, hsafe⟩ := Bool.and_eq_true_iff.mp htext
  obtain ⟨-, hsafe'⟩ := Bool.and_eq_true_iff.mp hbehind
  rw [isClear, String.toList_append]
  refine Bool.and_eq_true_iff.mpr ⟨?_, isDollarSafe_append hsafe hsafe'⟩
  cases hcs : text.toList with
  | nil => simp [hcs] at hhead
  | cons c cs => simpa [hcs] using hhead

/-- Whether none of the pieces can be mistaken so. -/
def AllClear (pieces : List Piece) : Prop := ∀ piece ∈ pieces, piece.isClear = true

instance (pieces : List Piece) : Decidable (AllClear pieces) :=
  inferInstanceAs (Decidable (∀ piece ∈ pieces, piece.isClear = true))

theorem allClear_nil : AllClear [] := List.forall_mem_nil _

theorem allClear_cons {piece : Piece} {pieces : List Piece} :
    AllClear (piece :: pieces) ↔ piece.isClear = true ∧ AllClear pieces :=
  List.forall_mem_cons

theorem allClear_append {ps qs : List Piece} :
    AllClear (ps ++ qs) ↔ AllClear ps ∧ AllClear qs :=
  List.forall_mem_append

/-- A parameter is always clear. -/
theorem AllClear.bind {pieces : List Piece} (h : AllClear pieces) (p : Parameter) :
    AllClear (.bind p :: pieces) :=
  allClear_cons.mpr ⟨rfl, h⟩

/-- A text that is written out is clear when its characters are. -/
theorem AllClear.text {pieces : List Piece} (h : AllClear pieces) {cs : List Char}
    (hcs : (cs.head?.any (!·.isDigit) && isDollarSafe cs) = true) :
    AllClear (.sql (String.ofList cs) :: pieces) :=
  allClear_cons.mpr ⟨isClear_ofList hcs, h⟩

/-- What pieces are read as when `next` is the number of the next placeholder. -/
def marks (next : Nat) : List Piece → List Mark
  | [] => []
  | .sql text :: rest => text.toList.map .char ++ marks next rest
  | .bind _ :: rest => .placeholder next :: marks (next + 1) rest

variable {pieces : List Piece} (h : AllClear pieces)

include h

/-- No digit stands in front of clear pieces. -/
theorem takeWhile_texts (next : Nat) :
    ((texts next pieces).flatMap String.toList).takeWhile Char.isDigit = [] := by
  match pieces with
  | [] => rfl
  | .bind p :: rest => simp [placeholder]
  | .sql text :: rest =>
    have hhead := (Bool.and_eq_true_iff.mp (h _ List.mem_cons_self)).1
    obtain ⟨c, hc, hdigit⟩ := Option.any_eq_true .. |>.mp hhead
    obtain ⟨cs, hcs⟩ := List.head?_eq_some_iff.mp hc
    simp only [texts_sql, List.flatMap_cons, hcs, List.cons_append]
    rw [List.takeWhile_cons_of_neg (by simpa using hdigit)]

/-- The text of clear pieces reads as the pieces. -/
theorem ofChars_texts (next : Nat) :
    Mark.ofChars ((texts next pieces).flatMap String.toList) = marks next pieces := by
  induction pieces generalizing next with
  | nil => simp [marks]
  | cons piece rest ih =>
    obtain ⟨hpiece, hrest⟩ := allClear_cons.mp h
    cases piece with
    | sql text =>
      rw [texts_sql, List.flatMap_cons, ofChars_append (Bool.and_eq_true_iff.mp hpiece).2,
        ih hrest, marks]
    | bind p =>
      rw [texts_bind, List.flatMap_cons, Mark.ofChars_placeholder next (takeWhile_texts hrest _),
        ih hrest, marks]

omit h

/-- Placeholders are numbered one by one. -/
theorem filterMap_number?_marks (next : Nat) (pieces : List Piece) :
    (marks next pieces).filterMap Mark.number? =
      List.range' next (pieces.filterMap parameter?).length := by
  induction pieces generalizing next with
  | nil => rfl
  | cons piece rest ih =>
    cases piece with
    | sql text =>
      have hchars : (text.toList.map Mark.char).filterMap Mark.number? = [] :=
        List.filterMap_eq_nil_iff.mpr fun mark hmark => by
          obtain ⟨c, -, rfl⟩ := List.mem_map.mp hmark
          rfl
      rw [marks, List.filterMap_append, hchars, List.nil_append, ih]
      rfl
    | bind p =>
      have hnumber : (Mark.placeholder next).number? = some next := rfl
      have hparameter : (bind p).parameter? = some p := rfl
      rw [marks, List.filterMap_cons_some hnumber, ih, List.filterMap_cons_some hparameter,
        List.length_cons, List.range'_succ]

end Piece

/-! ### Reading statements -/

namespace Statement

/-- The numbers of the placeholders in the text, in order. -/
def placeholders (s : Statement) : List Nat :=
  (Mark.ofChars s.sql.toList).filterMap Mark.number?

/-- The parameter with a number, counted from one. -/
def parameter? (s : Statement) : Nat → Option Parameter
  | 0 => none
  | n + 1 => s.parameters[n]?

end Statement

namespace Mark

/-- What a mark stands for in a statement: itself, or the parameter with its number. -/
def filled (s : Statement) (render : Parameter → String) : Mark → List Char
  | .char c => [c]
  | .placeholder n => ((s.parameter? n).map render).getD (Piece.placeholder n) |>.toList

end Mark

namespace Statement

/-- The text with the parameters put in where their placeholders stand. -/
def filled (render : Parameter → String) (s : Statement) : String :=
  String.ofList ((Mark.ofChars s.sql.toList).flatMap (Mark.filled s render))

end Statement

namespace Piece

/-- A piece with its parameter in place. -/
def shown (render : Parameter → String) : Piece → String
  | .sql text => text
  | .bind p => render p

/-- Pieces with their parameters in place. -/
def shownAll (render : Parameter → String) (pieces : List Piece) : String :=
  String.join (pieces.map (shown render))

/-- Filling in the parameters of pieces, of which some stand in front already, shows the pieces. -/
theorem flatMap_filled_marks (s : Statement) (render : Parameter → String)
    (front : List Parameter) (pieces : List Piece)
    (h : s.parameters = front ++ pieces.filterMap parameter?) :
    (marks (front.length + 1) pieces).flatMap (Mark.filled s render) =
      (pieces.map (shown render)).flatMap String.toList := by
  induction pieces generalizing front with
  | nil => rfl
  | cons piece rest ih =>
    cases piece with
    | sql text =>
      have hchars : (text.toList.map Mark.char).flatMap (Mark.filled s render) = text.toList := by
        rw [List.flatMap_map]
        exact List.flatMap_singleton' _
      rw [marks, List.flatMap_append, hchars, ih front h]
      rfl
    | bind p =>
      -- the parameter behind those in front is the one with the next number
      have hp : s.parameter? (front.length + 1) = some p := by
        rw [Statement.parameter?, h, List.getElem?_append_right (Nat.le_refl _), Nat.sub_self]
        rfl
      have hrest := ih (front ++ [p]) (by rw [h, List.append_assoc]; rfl)
      rw [List.length_append, List.length_singleton] at hrest
      rw [marks, List.flatMap_cons, hrest, Mark.filled, hp]
      rfl

end Piece

namespace Statement

variable {pieces : List Piece} (h : Piece.AllClear pieces)

include h

/-- The text of a statement of clear pieces reads as they do. -/
theorem ofChars_ofPieces :
    Mark.ofChars (ofPieces pieces).sql.toList = Piece.marks 1 pieces := by
  rw [ofPieces, String.toList_join]
  exact Piece.ofChars_texts h 1

/-- The placeholders of a statement of clear pieces are the numbers of its parameters. -/
theorem placeholders_ofPieces :
    (ofPieces pieces).placeholders = List.range' 1 (ofPieces pieces).parameters.length := by
  rw [placeholders, ofChars_ofPieces h, Piece.filterMap_number?_marks]
  rfl

/-- With its parameters put in, a statement of clear pieces shows them. -/
theorem filled_ofPieces (render : Parameter → String) :
    (ofPieces pieces).filled render = Piece.shownAll render pieces := by
  rw [filled, ofChars_ofPieces h, Piece.shownAll, ← String.toList_inj, String.toList_ofList,
    String.toList_join]
  exact Piece.flatMap_filled_marks _ render [] pieces rfl

end Statement

end RunRadar.Sql
