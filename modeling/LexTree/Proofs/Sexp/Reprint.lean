import LexTree.Format
import LexTree.Proofs.Printer.Write
import LexTree.Proofs.Sexp.Scanner

/-!
# Printing the tokens of a text again

The values of all tokens, one after the other, are the text that was read but for
the backslashes, which only stand in quoted literals and are dropped there.

- `toList_value_of_lexeme?`: what a lexeme keeps of the runes that it takes up.
- `flatMap_value_stream`: the values of a stream that reaches the end of its text.
- `render_color_tokenize`: the colored format without colors. A text with an
  escaped rune in it is not printed as it was (`render_color_ne_source`).
-/

namespace LexTree

/-! ## Printed values -/

/-- With the `empty` palette, tokens are printed as their values. -/
theorem TokenFormat.toList_render_color (tokens : List Token) :
    (TokenFormat.color.render tokens .empty).toList = tokens.flatMap (·.value.toList) := by
  have hprinter : TokenPrinter.colored .empty = (·.value) := rfl
  have hrender : TokenFormat.color.render tokens .empty =
      (TokenPrinter.colored .empty).printAll tokens := rfl
  rw [hrender, hprinter, TokenPrinter.toList_printAll]

namespace Sexp

/-! ## One lexeme -/

/-- The runes `w` without their backslashes. -/
def unescape (w : List Char) : List Char := w.filter (· ≠ '\\')

theorem unescape_append (w w' : List Char) : unescape (w ++ w') = unescape w ++ unescape w' :=
  List.filter_append ..

theorem unescape_eq_self_iff {w : List Char} : unescape w = w ↔ '\\' ∉ w := by
  rw [unescape, List.filter_eq_self]
  constructor
  · intro h hmem
    have := h '\\' hmem
    simp at this
  · intro h c hc
    rw [decide_eq_true_eq]
    rintro rfl
    exact h hc

/-- A run of a class without the backslash is kept as it is. -/
theorem toList_value_run {accepts : Char → Bool} (hescape : accepts '\\' = false)
    (type : TokenType) {c : Char} (hc : accepts c = true) (w : List Char) :
    (Lexeme.run type accepts c w).value.toList =
      unescape ((c :: w).take (Lexeme.run type accepts c w).length) := by
  have htake : (c :: w).take ((w.takeWhile accepts).length + 1) = c :: w.takeWhile accepts := by
    rw [List.take_succ_cons, ← List.prefix_iff_eq_take.mp (List.takeWhile_prefix accepts)]
  have hvalue : (Lexeme.run type accepts c w).value.toList = c :: w.takeWhile accepts :=
    String.toList_ofList
  have hclean := Lexeme.not_mem_run hescape hc type w
  rw [hvalue] at hclean ⊢
  show _ = unescape ((c :: w).take ((w.takeWhile accepts).length + 1))
  rw [htake, unescape_eq_self_iff.mpr hclean]

/-- A lexeme keeps all runes that it takes up but the backslashes. -/
theorem toList_value_of_lexeme? {w : List Char} {x : Lexeme} (h : lexeme? w = some x) :
    x.value.toList = unescape (w.take x.length) := by
  cases w with
  | nil => cases h
  | cons c w =>
    rcases lexeme?_cases h with ⟨rfl, rfl⟩ | ⟨rfl, rfl⟩ | ⟨hblank, rfl⟩ | ⟨hdigit, rfl⟩ |
      ⟨hsymbol, rfl⟩ | hquoted
    · rfl
    · rfl
    · exact toList_value_run (by decide) blankType hblank w
    · have hc : isNumberRune c = true := by rw [isNumberRune, hdigit, Bool.true_or]
      exact toList_value_run (by decide) numberType hc w
    · exact toList_value_run (by decide) symbolType hsymbol w
    · obtain ⟨j, -, rfl⟩ := Option.map_eq_some_iff.mp hquoted
      exact String.toList_ofList

/-! ## Whole texts -/

/-- The values of a `stream` that reaches the end of `w` are `w` without backslashes. -/
theorem flatMap_value_stream {offset : Nat} {w : List Char}
    (h : (stream offset w).status = .complete) :
    (stream offset w).all.flatMap (·.value.toList) = unescape w := by
  induction offset, w using stream.induct with
  | case1 offset =>
    rw [stream]
    rfl
  | case2 offset c w x hx ih =>
    have hrest : (stream (offset + x.length) ((c :: w).drop x.length)).status = .complete := by
      rw [stream, hx] at h
      exact h
    have hvalue : (x.token offset).value.toList = unescape ((c :: w).take x.length) :=
      toList_value_of_lexeme? hx
    rw [stream, hx, Stream.all_cons, List.flatMap_cons, ih hrest, hvalue, ← unescape_append,
      List.take_append_drop]
  | case3 offset c w hx =>
    rw [stream, hx] at h
    cases h

/-- Where `tokenize` reads `source` to its end, its tokens in the format `color` with the `empty`
palette are `source` without its backslashes. So they are `source` itself if and only if it has
none. -/
theorem render_color_tokenize {source : String} (h : (tokenize source).status = .complete) :
    let printed := TokenFormat.color.render (tokenize source).output.toList .empty
    printed = String.ofList (source.toList.filter (· ≠ '\\')) ∧
      (printed = source ↔ '\\' ∉ source.toList) := by
  obtain ⟨_, _, hsource⟩ := exists_tokenize_eq source
  rw [hsource] at h ⊢
  have hlist : (TokenFormat.color.render (stream 0 source.toList).all .empty).toList =
      unescape source.toList := by
    rw [TokenFormat.toList_render_color, flatMap_value_stream h]
  refine ⟨?_, ?_⟩
  · rw [← String.toList_inj, String.toList_ofList]
    exact hlist
  · rw [← String.toList_inj, ← unescape_eq_self_iff, ← hlist]

/-- A quote in single quotes, after a backslash and a rune that need not have been escaped. -/
theorem render_color_tokenize_quoted :
    (tokenize "(a '\\b\"')").status = .complete ∧
      TokenFormat.color.render (tokenize "(a '\\b\"')").output.toList .empty = "(a 'b\"')" := by
  have hstatus : (tokenize "(a '\\b\"')").status = .complete := by
    rw [(tokenize_eq_stream _).2]
    decide +kernel
  obtain ⟨hprinted, -⟩ := render_color_tokenize hstatus
  exact ⟨hstatus, hprinted⟩

/-- An escaped quote is printed without its backslash. -/
theorem render_color_ne_source :
    (tokenize "\"a\\\"b\"").status = .complete ∧
      TokenFormat.color.render (tokenize "\"a\\\"b\"").output.toList .empty = "\"a\"b\"" ∧
      TokenFormat.color.render (tokenize "\"a\\\"b\"").output.toList .empty ≠ "\"a\\\"b\"" := by
  have hstream : stream 0 "\"a\\\"b\"".toList =
      ⟨[⟨stringType, "\"a\"b\"", 0, 0, 0⟩], ⟨endType, "", 6, 0, 0⟩, .complete⟩ := by
    decide +kernel
  obtain ⟨_, _, hsource⟩ := exists_tokenize_eq "\"a\\\"b\""
  rw [hstream] at hsource
  have hprinted : TokenFormat.color.render (tokenize "\"a\\\"b\"").output.toList .empty =
      "\"a\"b\"" := by
    rw [hsource]
    rfl
  refine ⟨by rw [hsource], hprinted, ?_⟩
  rw [hprinted]
  decide

end Sexp

end LexTree
