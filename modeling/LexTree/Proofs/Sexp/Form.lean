import LexTree.Proofs.Consumer.Escaped
import LexTree.Proofs.Sexp.Scanner
import LexTree.Proofs.Tree.Rose

/-!
# S-expressions and how they are written

Lists and atoms as values, the text that is written for them, and the lexeme that
stands at the start of a written atom.

- `Atom` is a number, a symbol or a string, and `Item` an atom or a list of items.
- `Item.writtenAll` writes items with one space between neighbours.
- `Item.shape` is the tree that an item stands for.
- `Atom.lexeme?_written`: before a blank, the end of a list or the end of the text,
  a written atom is one lexeme.
-/

namespace LexTree.Sexp

/-! ## Atoms -/

/-- Runes that symbols are made of, at least one, of which the leading digits are no number. -/
def isSymbol (w : List Char) : Bool :=
  !w.isEmpty && w.all isSymbolRune && !isNumeral (w.takeWhile Text.isAsciiDigit)

/-- An atom by what it says. Strings hold any runes but backslashes. -/
inductive Atom where
  | number (runes : List Char) (h : isNumeral runes = true)
  | symbol (runes : List Char) (h : isSymbol runes = true)
  | string (content : List Char) (h : '\\' ∉ content)

/-- The runes of `content` with a backslash before every double quote. -/
def escapeQuotes (content : List Char) : List Char :=
  content.flatMap fun c => if c = '"' then ['\\', '"'] else [c]

namespace Atom

/-- An atom as it stands in a text; strings stand between double quotes. -/
def written : Atom → List Char
  | number runes _ => runes
  | symbol runes _ => runes
  | string content _ => '"' :: (escapeQuotes content ++ ['"'])

/-- What the token of an atom carries: the runes, and for a string the quotes around them. -/
def value : Atom → String
  | number runes _ => String.ofList runes
  | symbol runes _ => String.ofList runes
  | string content _ => String.ofList ('"' :: (content ++ ['"']))

def tokenType : Atom → TokenType
  | number .. => numberType
  | symbol .. => symbolType
  | string .. => stringType

def nodeType : Atom → NodeType
  | number .. => numberNodeType
  | symbol .. => symbolNodeType
  | string .. => stringNodeType

end Atom

/-! ## Items -/

/-- An atom, or a list of items. -/
inductive Item where
  | atom (a : Atom)
  | list (items : List Item)

namespace Item

mutual

/-- An item as it stands in a text. -/
def written : Item → List Char
  | atom a => a.written
  | list items => '(' :: (writtenAll items ++ [')'])

/-- Items next to each other, with one space between neighbours. -/
def writtenAll : List Item → List Char
  | [] => []
  | [item] => written item
  | item :: next :: items => written item ++ ' ' :: writtenAll (next :: items)

end

mutual

/-- The tree of an item, by types and payloads of nodes. A list has an empty payload. -/
def shape : Item → Rose (NodeType × Payload)
  | atom a => .node (a.nodeType, .text a.value) []
  | list items => .node (listNodeType, .text "") (shapeAll items)

/-- The trees of items next to each other. -/
def shapeAll : List Item → List (Rose (NodeType × Payload))
  | [] => []
  | item :: items => shape item :: shapeAll items

end

theorem shapeAll_eq_map (items : List Item) : shapeAll items = items.map shape := by
  induction items with
  | nil => rw [shapeAll, List.map_nil]
  | cons item items ih => rw [shapeAll, ih, List.map_cons]

end Item

/-! ## Where atoms end -/

/-- What follows an atom: nothing, a space, or the end of a list. -/
def Breaks (rest : List Char) : Prop := ∀ c ∈ rest.head?, c = ' ' ∨ c = ')'

theorem Breaks.eq_false {rest : List Char} (h : Breaks rest) {p : Char → Bool}
    (hspace : p ' ' = false) (hstop : p ')' = false) : ∀ c ∈ rest.head?, p c = false := by
  intro c hc
  rcases h c hc with rfl | rfl
  · exact hspace
  · exact hstop

theorem takeWhile_eq_nil {p : Char → Bool} {rest : List Char}
    (h : ∀ c ∈ rest.head?, p c = false) : rest.takeWhile p = [] := by
  cases rest with
  | nil => rfl
  | cons c rest => exact List.takeWhile_cons_of_neg (by simp [h c rfl])

/-- `takeWhile` takes `w` where `w` is accepted and followed by a rune that is not. -/
theorem takeWhile_append {p : Char → Bool} {w rest : List Char} (hw : ∀ c ∈ w, p c = true)
    (hrest : ∀ c ∈ rest.head?, p c = false) : (w ++ rest).takeWhile p = w := by
  rw [List.takeWhile_append_of_pos hw, takeWhile_eq_nil hrest, List.append_nil]

/-- The lexeme of a run that ends before `rest`. -/
theorem run_append (type : TokenType) {p : Char → Bool} (c : Char) {w rest : List Char}
    (hw : ∀ c ∈ w, p c = true) (hrest : ∀ c ∈ rest.head?, p c = false) :
    (Lexeme.run type p c (w ++ rest)).value = String.ofList (c :: w) ∧
      (Lexeme.run type p c (w ++ rest)).length = (c :: w).length := by
  have hrun := takeWhile_append hw hrest
  exact ⟨congrArg (fun v => String.ofList (c :: v)) hrun, congrArg (·.length + 1) hrun⟩

/-! ## Numbers and symbols -/

/-- A symbol rune starts a number or a symbol, and nothing else. -/
theorem lexeme?_of_isSymbolRune {c : Char} (hc : isSymbolRune c = true) (w : List Char) :
    lexeme? (c :: w) =
      if Text.isAsciiDigit c && isNumeral (c :: w.takeWhile isNumberRune) then
        some (.run numberType isNumberRune c w)
      else some (.run symbolType isSymbolRune c w) := by
  have hstart : c ≠ '(' := by
    rintro rfl
    exact absurd hc (by decide)
  have hstop : c ≠ ')' := by
    rintro rfl
    exact absurd hc (by decide)
  have hblank : ¬ Text.isBlank c = true := by
    intro hblank
    rw [isSymbolRune_of_isBlank hblank] at hc
    cases hc
  rw [lexeme?, if_neg hstart, if_neg hstop, if_neg hblank, if_pos hc]

theorem isNumberRune_of_isNumeral {w : List Char} (h : isNumeral w = true) :
    ∀ c ∈ w, isNumberRune c = true := by
  have hlead : ∀ c, isLeadingDigit c = true → isNumberRune c = true := by
    intro c hc
    rw [isLeadingDigit, Bool.and_eq_true] at hc
    rw [isNumberRune, hc.1, Bool.true_or]
  have hdigits : ∀ d : List Char, (∀ c ∈ d, Text.isAsciiDigit c = true) →
      ∀ c ∈ d, isNumberRune c = true := by
    intro d hd c hc
    rw [isNumberRune, hd c hc, Bool.true_or]
  cases numeral_of_isNumeral h with
  | zero => exact List.forall_mem_singleton.mpr (by decide)
  | fraction _ he =>
    exact List.forall_mem_cons.mpr ⟨by decide, List.forall_mem_cons.mpr ⟨by decide, hdigits _ he⟩⟩
  | whole hc hd => exact List.forall_mem_cons.mpr ⟨hlead _ hc, hdigits _ hd⟩
  | decimal hc hd _ he =>
    refine List.forall_mem_cons.mpr ⟨hlead _ hc, List.forall_mem_append.mpr ⟨hdigits _ hd, ?_⟩⟩
    exact List.forall_mem_cons.mpr ⟨by decide, hdigits _ he⟩

/-- Among symbol runes the ones of numbers are the digits. -/
theorem takeWhile_isNumberRune {w rest : List Char} (hw : ∀ c ∈ w, isSymbolRune c = true)
    (hrest : Breaks rest) :
    (w ++ rest).takeWhile isNumberRune = w.takeWhile Text.isAsciiDigit := by
  induction w with
  | nil => exact takeWhile_eq_nil (hrest.eq_false (by decide) (by decide))
  | cons c w ih =>
    obtain ⟨hc, hw⟩ := List.forall_mem_cons.mp hw
    have hpoint : c ≠ '.' := by
      rintro rfl
      exact absurd hc (by decide)
    have hrune : isNumberRune c = Text.isAsciiDigit c := by
      rw [isNumberRune, beq_eq_false_iff_ne.mpr hpoint, Bool.or_false]
    rw [List.cons_append, List.takeWhile_cons, List.takeWhile_cons, hrune, ih hw]

/-! ## Strings -/

/-- Where there is no backslash to escape, `escapeQuotes` is `escape '"'`. -/
theorem escapeQuotes_eq_escape {content : List Char} (h : '\\' ∉ content) :
    escapeQuotes content = escape '"' content := by
  refine List.flatMap_congr fun c hc => ?_
  have hne : c ≠ '\\' := by
    rintro rfl
    exact h hc
  simp only [hne, or_false]
  split
  · next hquote => rw [hquote]
  · rfl

theorem filter_escapeQuotes {content : List Char} (h : '\\' ∉ content) :
    (escapeQuotes content).filter (· ≠ '\\') = content := by
  rw [escapeQuotes_eq_escape h, filter_escape, List.filter_eq_self]
  intro c hc
  rw [decide_eq_true_eq]
  rintro rfl
  exact h hc

/-- No quote of `escapeQuotes content` closes the string, and the one after them does. -/
theorem closing?_escapeQuotes {content : List Char} (h : '\\' ∉ content) {prev : Char}
    (hprev : prev ≠ '\\') (rest : List Char) :
    Reader.closing? '"' (prev :: (escapeQuotes content ++ '"' :: rest)) =
      some ((escapeQuotes content).length + 1) := by
  rw [escapeQuotes_eq_escape h, Reader.closing?_escape (by decide), if_neg]
  intro hlast
  obtain hmem | hmem := List.mem_cons.mp (List.mem_of_getLast? hlast)
  · exact hprev hmem.symm
  · exact h hmem

theorem lexeme?_quote (w : List Char) :
    lexeme? ('"' :: w) = Lexeme.quoted? stringType '"' w := by
  have hdigit : Text.isAsciiDigit '"' = false := by decide
  rw [lexeme?, if_neg (by decide), if_neg (by decide), if_neg (by decide), hdigit,
    Bool.false_and, if_neg Bool.false_ne_true, if_neg (by decide), if_pos (by decide)]

/-! ## Written atoms -/

namespace Atom

/-- The atom `a` as `written`, before a `rest` that `Breaks`, is one lexeme. -/
theorem lexeme?_written (a : Atom) {rest : List Char} (hrest : Breaks rest) :
    ∃ x, lexeme? (a.written ++ rest) = some x ∧ x.type = a.tokenType ∧ x.value = a.value ∧
      x.length = a.written.length := by
  cases a with
  | number runes h =>
    have hrunes := isNumberRune_of_isNumeral h
    cases runes with
    | nil => cases h
    | cons c w =>
      have hdigit := isAsciiDigit_of_isNumeral h
      obtain ⟨-, hw⟩ := List.forall_mem_cons.mp hrunes
      have hbreak : ∀ c ∈ rest.head?, isNumberRune c = false :=
        hrest.eq_false (by decide) (by decide)
      refine ⟨.run numberType isNumberRune c (w ++ rest), ?_, rfl, run_append _ c hw hbreak⟩
      rw [written, List.cons_append, lexeme?_of_isSymbolRune (isSymbolRune_of_isAsciiDigit hdigit),
        takeWhile_append hw hbreak, hdigit, h]
      rfl
  | symbol runes h =>
    cases runes with
    | nil => cases h
    | cons c w =>
      rw [isSymbol, Bool.and_eq_true, Bool.and_eq_true, List.all_eq_true, Bool.not_eq_true',
        Bool.not_eq_true'] at h
      obtain ⟨⟨-, hrunes⟩, hnumber⟩ := h
      obtain ⟨hc, hw⟩ := List.forall_mem_cons.mp hrunes
      have hbreak : ∀ c ∈ rest.head?, isSymbolRune c = false :=
        hrest.eq_false (by decide) (by decide)
      -- The leading digits are all that a number could be made of.
      have hnone : (Text.isAsciiDigit c &&
          isNumeral (c :: (w ++ rest).takeWhile isNumberRune)) = false := by
        cases hdigit : Text.isAsciiDigit c with
        | false => rfl
        | true =>
          rw [List.takeWhile_cons_of_pos hdigit] at hnumber
          rw [takeWhile_isNumberRune hw hrest, hnumber]
          rfl
      refine ⟨.run symbolType isSymbolRune c (w ++ rest), ?_, rfl, run_append _ c hw hbreak⟩
      rw [written, List.cons_append, lexeme?_of_isSymbolRune hc, hnone]
      rfl
  | string content h =>
    have hwritten : (string content h).written ++ rest =
        '"' :: (escapeQuotes content ++ '"' :: rest) := by
      rw [written, List.cons_append, List.append_assoc, List.singleton_append]
    have hclose := closing?_escapeQuotes h (show '"' ≠ '\\' by decide) rest
    have hlength : ('"' :: (escapeQuotes content ++ ['"'])).length =
        (escapeQuotes content).length + 1 + 1 := by
      rw [List.length_cons, List.length_append, List.length_singleton]
    have htake : ('"' :: (escapeQuotes content ++ '"' :: rest)).take
        ((escapeQuotes content).length + 1 + 1) = '"' :: (escapeQuotes content ++ ['"']) := by
      have hsplit : '"' :: (escapeQuotes content ++ '"' :: rest) =
          '"' :: (escapeQuotes content ++ ['"']) ++ rest := by simp
      rw [hsplit, ← hlength, List.take_left]
    rw [hwritten, lexeme?_quote, Lexeme.quoted?, hclose, Option.map_some]
    refine ⟨_, rfl, rfl, ?_, hlength.symm⟩
    rw [htake, value, List.filter_cons_of_pos (by decide), List.filter_append,
      filter_escapeQuotes h]
    rfl

/-- No written atom starts with a blank. -/
theorem exists_written (a : Atom) : ∃ c w, a.written = c :: w ∧ Text.isBlank c = false := by
  have hsymbol : ∀ c, isSymbolRune c = true → Text.isBlank c = false := by
    intro c hc
    rw [← Bool.not_eq_true]
    intro hblank
    rw [isSymbolRune_of_isBlank hblank] at hc
    cases hc
  cases a with
  | number runes h =>
    cases runes with
    | nil => cases h
    | cons c w =>
      exact ⟨c, w, rfl, hsymbol c (isSymbolRune_of_isAsciiDigit (isAsciiDigit_of_isNumeral h))⟩
  | symbol runes h =>
    cases runes with
    | nil => cases h
    | cons c w =>
      rw [isSymbol, Bool.and_eq_true, Bool.and_eq_true, List.all_eq_true] at h
      exact ⟨c, w, rfl, hsymbol c (h.1.2 c List.mem_cons_self)⟩
  | string content h => exact ⟨'"', _, rfl, by decide⟩

end Atom

end LexTree.Sexp
