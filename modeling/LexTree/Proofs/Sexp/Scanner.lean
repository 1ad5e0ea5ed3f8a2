import LexTree.Proofs.Lexer.Lexeme
import LexTree.Proofs.Sexp.Numeral

/-!
# Tokens of the sample grammar

Six strategies are tried in turn at every position of a text. What they take
together depends on the first rune of the rest alone, but for the ends of runs
and of strings.

- `lexeme?` is the lexeme at the start of a text, by its first rune.
- `Sexp.stream` goes from lexeme to lexeme.
- `tokenize_eq_stream`: the tokens of a text and the end of its scan are those
  of its stream.
-/

namespace LexTree.Sexp

/-! ## The scanner -/

/-- A digit or a point. -/
def isNumberRune (c : Char) : Bool := Text.isAsciiDigit c || c == '.'

/-- A rune that symbols are made of. -/
def isSymbolRune (c : Char) : Bool :=
  Text.isAsciiLetter c || Text.isAsciiDigit c || "-_$#%&".toList.contains c

/-- The lexeme at the start of a text. A digit starts a number if all of the digits and points
there are one, and a symbol if they are not. -/
def lexeme? : List Char → Option Lexeme
  | [] => none
  | c :: w =>
    if c = '(' then some (.one startType c)
    else if c = ')' then some (.one stopType c)
    else if Text.isBlank c then some (.run blankType Text.isBlank c w)
    else if Text.isAsciiDigit c && isNumeral (c :: w.takeWhile isNumberRune) then
      some (.run numberType isNumberRune c w)
    else if isSymbolRune c then some (.run symbolType isSymbolRune c w)
    else if c = '"' || c = '\'' then Lexeme.quoted? stringType c w
    else none

/-- A lexeme is one of six kinds, and its first rune `c` is of its kind. -/
theorem lexeme?_cases {c : Char} {w : List Char} {x : Lexeme} (h : lexeme? (c :: w) = some x) :
    c = '(' ∧ x = .one startType c ∨
    c = ')' ∧ x = .one stopType c ∨
    Text.isBlank c = true ∧ x = .run blankType Text.isBlank c w ∨
    Text.isAsciiDigit c = true ∧ x = .run numberType isNumberRune c w ∨
    isSymbolRune c = true ∧ x = .run symbolType isSymbolRune c w ∨
    Lexeme.quoted? stringType c w = some x := by
  rw [lexeme?] at h
  split at h
  · next hstart => exact .inl ⟨hstart, (Option.some.inj h).symm⟩
  split at h
  · next hstop => exact .inr (.inl ⟨hstop, (Option.some.inj h).symm⟩)
  split at h
  · next hblank => exact .inr (.inr (.inl ⟨hblank, (Option.some.inj h).symm⟩))
  split at h
  · next hnumber =>
    have hdigit := (Bool.and_eq_true_iff.mp hnumber).1
    exact .inr (.inr (.inr (.inl ⟨hdigit, (Option.some.inj h).symm⟩)))
  split at h
  · next hsymbol =>
    exact .inr (.inr (.inr (.inr (.inl ⟨hsymbol, (Option.some.inj h).symm⟩))))
  split at h
  · exact .inr (.inr (.inr (.inr (.inr h))))
  · cases h

/-- The tokens of what is left of a text from `offset` on. -/
def stream (offset : Nat) : List Char → Stream
  | [] => .ofLast ⟨endType, "", offset, 0, 0⟩ .complete
  | c :: w =>
    match lexeme? (c :: w) with
    | some x => (stream (offset + x.length) ((c :: w).drop x.length)).cons (x.token offset)
    | none =>
      .ofLast ⟨errorType, "No valid token found", offset, 0, 0⟩ (.failed offset)
termination_by w => w.length
decreasing_by
  have := x.length_pos
  simp only [List.length_drop, List.length_cons]
  omega

/-! ## Alphabets -/

/-- What holds of the first 128 code points holds of a rune of ASCII. -/
theorem forall_ascii {P : Char → Prop} (h : ∀ n < 128, P (Char.ofNat n)) {c : Char}
    (hc : c.toNat < 128) : P c := by
  rw [← Char.ofNat_toNat c]
  exact h c.toNat hc

/-- Classes `p` and `q` of ASCII runes are equal if they agree there. -/
theorem eq_of_forall_ascii {p q : Char → Bool} (hp : ∀ c, p c = true → c.toNat < 128)
    (hq : ∀ c, q c = true → c.toNat < 128)
    (h : ∀ n < 128, p (Char.ofNat n) = q (Char.ofNat n)) : p = q := by
  funext c
  rw [Bool.eq_iff_iff]
  constructor
  · intro hc
    rwa [← forall_ascii (P := fun c => p c = q c) h (hp c hc)]
  · intro hc
    rwa [forall_ascii (P := fun c => p c = q c) h (hq c hc)]

theorem toNat_lt_of_le {c d : Char} (h : c ≤ d) (hd : d.toNat < 128) : c.toNat < 128 :=
  Nat.lt_of_le_of_lt (UInt32.le_iff_toNat_le.mp h) hd

theorem toNat_lt_of_isAsciiDigit {c : Char} (h : Text.isAsciiDigit c = true) : c.toNat < 128 := by
  rw [Text.isAsciiDigit, Bool.and_eq_true, decide_eq_true_eq, decide_eq_true_eq] at h
  exact toNat_lt_of_le h.2 (by decide)

theorem toNat_lt_of_isAsciiLetter {c : Char} (h : Text.isAsciiLetter c = true) :
    c.toNat < 128 := by
  simp only [Text.isAsciiLetter, Text.isAsciiLower, Text.isAsciiUpper, Bool.or_eq_true,
    Bool.and_eq_true, decide_eq_true_eq] at h
  rcases h with h | h
  · exact toNat_lt_of_le h.2 (by decide)
  · exact toNat_lt_of_le h.2 (by decide)

theorem toNat_lt_of_contains {cs : List Char} (hcs : cs.all (·.toNat < 128) = true) {c : Char}
    (h : cs.contains c = true) : c.toNat < 128 := by
  have := List.all_eq_true.mp hcs c (List.contains_iff_mem.mp h)
  rwa [decide_eq_true_eq] at this

theorem contains_numberAlphabet : numberAlphabet.toList.contains = isNumberRune := by
  refine eq_of_forall_ascii (fun c => toNat_lt_of_contains (by decide)) (fun c hc => ?_) (by decide)
  rw [isNumberRune, Bool.or_eq_true, beq_iff_eq] at hc
  rcases hc with hc | rfl
  · exact toNat_lt_of_isAsciiDigit hc
  · decide

theorem toNat_lt_of_isSymbolRune {c : Char} (h : isSymbolRune c = true) : c.toNat < 128 := by
  rw [isSymbolRune, Bool.or_eq_true, Bool.or_eq_true] at h
  rcases h with (h | h) | h
  · exact toNat_lt_of_isAsciiLetter h
  · exact toNat_lt_of_isAsciiDigit h
  · exact toNat_lt_of_contains (by decide) h

theorem contains_symbolAlphabet : symbolAlphabet.toList.contains = isSymbolRune :=
  eq_of_forall_ascii (fun c => toNat_lt_of_contains (by decide))
    (fun _ => toNat_lt_of_isSymbolRune) (by decide +kernel)

/-- Blanks are no part of symbols. -/
theorem isSymbolRune_of_isBlank {c : Char} (h : Text.isBlank c = true) :
    isSymbolRune c = false := by
  have hascii : ∀ n < 128, Text.isBlank (Char.ofNat n) = true →
      isSymbolRune (Char.ofNat n) = false := by decide
  rw [← Bool.not_eq_true]
  intro hs
  have := forall_ascii (P := fun c => Text.isBlank c = true → isSymbolRune c = false) hascii
    (toNat_lt_of_isSymbolRune hs) h
  rw [hs] at this
  cases this

theorem isSymbolRune_of_isAsciiDigit {c : Char} (h : Text.isAsciiDigit c = true) :
    isSymbolRune c = true := by
  simp [isSymbolRune, h]

/-! ## One position -/

section

variable {text : Array Char} {offset : Nat} {c : Char} {w : List Char}

/-- A number starts with a digit. -/
theorem isAsciiDigit_of_isNumeral (h : isNumeral (c :: w) = true) :
    Text.isAsciiDigit c = true := by
  cases numeral_of_isNumeral h with
  | zero => rfl
  | fraction _ _ => rfl
  | whole hc _ => exact (Bool.and_eq_true_iff.mp hc).1
  | decimal hc _ _ _ => exact (Bool.and_eq_true_iff.mp hc).1

/-- A number is taken where the digits and points from `offset` on are one. -/
theorem taken?_number (h : text.toList.drop offset = c :: w) :
    Consumer.taken? text offset
        (Matcher.validated isNumber (.runOf numberType numberAlphabet.toList)).attempt =
      if Text.isAsciiDigit c && isNumeral (c :: w.takeWhile isNumberRune) then
        some ((Lexeme.run numberType isNumberRune c w).placed offset)
      else none := by
  rw [Matcher.taken?_validated, Matcher.taken?_runOf _ h, contains_numberAlphabet]
  by_cases hc : isNumberRune c = true
  · have hmem : ∀ x ∈ c :: w.takeWhile isNumberRune, x ∈ numberAlphabet.toList := by
      intro x hx
      rw [← List.contains_iff_mem, contains_numberAlphabet]
      rcases List.mem_cons.mp hx with rfl | hx
      · exact hc
      · exact List.all_eq_true.mp List.all_takeWhile x hx
    have hvalue : isNumber ((Lexeme.run numberType isNumberRune c w).placed offset).1.value =
        isNumeral (c :: w.takeWhile isNumberRune) := isNumber_ofList hmem
    rw [if_pos hc, Option.filter_some, hvalue]
    by_cases hn : isNumeral (c :: w.takeWhile isNumberRune) = true
    · rw [hn, isAsciiDigit_of_isNumeral hn]
      rfl
    · simp [hn]
  · have hd : Text.isAsciiDigit c = false := by
      rw [isNumberRune, Bool.or_eq_true, not_or] at hc
      exact Bool.not_eq_true _ |>.mp hc.1
    simp [hc, hd]

theorem taken?_symbol (h : text.toList.drop offset = c :: w) :
    Consumer.taken? text offset (Matcher.runOf symbolType symbolAlphabet.toList).attempt =
      if isSymbolRune c then some ((Lexeme.run symbolType isSymbolRune c w).placed offset)
      else none := by
  rw [Matcher.taken?_runOf _ h, contains_symbolAlphabet]

/-- The first strategy that takes something takes the `lexeme?` that stands there. -/
theorem findSome?_taken? (h : text.toList.drop offset = c :: w) :
    lexer.consumers.findSome? (·.taken? text offset) =
      (lexeme? (c :: w)).map (·.placed offset) := by
  simp only [lexer, matchers, List.map_cons, List.map_nil, List.findSome?_cons,
    List.findSome?_nil, taken?_number h, taken?_symbol h, Matcher.taken?_oneOf _ h,
    Matcher.taken?_classRun _ h, Matcher.taken?_quoted h, List.contains_cons, List.contains_nil,
    Bool.or_false, beq_iff_eq, lexeme?]
  by_cases hstart : c = '('
  · simp [hstart]
  by_cases hstop : c = ')'
  · simp [hstop]
  rw [if_neg hstart, if_neg hstop, if_neg hstart, if_neg hstop]
  by_cases hblank : Text.isBlank c = true
  · -- Numbers and symbols are asked first, but leave blanks alone.
    have hsymbol := isSymbolRune_of_isBlank hblank
    have hdigit : Text.isAsciiDigit c = false := by
      rw [← Bool.not_eq_true]
      intro hd
      rw [isSymbolRune_of_isAsciiDigit hd] at hsymbol
      cases hsymbol
    simp [hblank, hsymbol, hdigit]
  rw [if_neg hblank, if_neg hblank]
  by_cases hnumber : (Text.isAsciiDigit c && isNumeral (c :: w.takeWhile isNumberRune)) = true
  · rw [if_pos hnumber, if_pos hnumber]
    rfl
  rw [if_neg hnumber, if_neg hnumber]
  by_cases hsymbol : isSymbolRune c = true
  · rw [if_pos hsymbol, if_pos hsymbol]
    rfl
  rw [if_neg hsymbol, if_neg hsymbol]
  by_cases hquote : (c = '"' || c = '\'') = true
  · rw [if_pos hquote, if_pos hquote]
    cases Lexeme.quoted? stringType c w <;> rfl
  · rw [if_neg hquote, if_neg hquote]
    rfl

/-- Digits and points that are no number together are not split: the digits are a symbol. -/
example : (lexeme? "01.5".toList).map (·.token 7) = some ⟨symbolType, "01", 7, 0, 0⟩ := by decide

end

/-! ## Whole texts -/

theorem lt_size_of_drop {text : Array Char} {offset : Nat} {c : Char} {w : List Char}
    (h : text.toList.drop offset = c :: w) : offset < text.size := by
  have hlen := congrArg List.length h
  rw [List.length_drop, List.length_cons, Array.length_toList] at hlen
  omega

/-- From any `offset` on, `isolatedScan` emits the `stream` of what is left. -/
theorem isolatedScan_eq_stream (text : Array Char) (offset : Nat) :
    lexer.isolatedScan text offset = stream offset (text.toList.drop offset) := by
  generalize hw : text.toList.drop offset = w
  induction offset, w using stream.induct with
  | case1 offset =>
    have hsize : text.size ≤ offset := by
      rw [← Array.length_toList]
      exact List.drop_eq_nil_iff.mp hw
    rw [Lexer.isolatedScan_of_size_le hsize, stream]
    rfl
  | case2 offset c w x hx ih =>
    have hlt := lt_size_of_drop hw
    have hm := findSome?_taken? hw
    rw [hx] at hm
    rw [Lexer.isolatedScan_of_some hlt hm, ih (by rw [← hw, List.drop_drop]), stream, hx]
  | case3 offset c w hx =>
    have hlt := lt_size_of_drop hw
    have hm := findSome?_taken? hw
    rw [hx] at hm
    rw [Lexer.isolatedScan_of_none hlt hm, stream, hx]
    rfl

/-- The strategies of `lexer` leave the marks as they were. -/
theorem balanced_of_mem_lexer : ∀ c ∈ lexer.consumers, c.Balanced :=
  Matcher.balanced_of_mem_map matchers

/-- `lex` feeds any `sink` the `stream` of `source`. -/
theorem lex_eq_stream {σ : Type} (sink : Sink σ) (source : String) (output : σ) :
    ∃ reader log, lexer.lex sink (.ofString source) output =
      ⟨(stream 0 source.toList).status, reader, sink.feed output (stream 0 source.toList).all,
        log⟩ := by
  obtain ⟨log, h⟩ := Lexer.scan_eq_isolatedScan balanced_of_mem_lexer sink
    (Lexer.rounds (.ofString source)) (Nat.zero_le source.toList.toArray.size) []
    (Nat.lt_add_of_pos_right (by decide)) output #[]
  rw [isolatedScan_eq_stream] at h
  exact ⟨_, log, h⟩

/-- `tokenize` makes a list of the `stream` of `source`. -/
theorem exists_tokenize_eq (source : String) : ∃ reader log, tokenize source =
    ⟨(stream 0 source.toList).status, reader, (stream 0 source.toList).all.toArray, log⟩ := by
  obtain ⟨reader, log, h⟩ := lex_eq_stream .collect source #[]
  exact ⟨reader, log, by rw [tokenize, Lexer.tokenize, h, Sink.feed_collect, Array.empty_append]⟩

/-- The tokens of `tokenize`, and the way its scan ends, are those of the `stream` of `source`. -/
theorem tokenize_eq_stream (source : String) :
    (tokenize source).output = (stream 0 source.toList).all.toArray ∧
      (tokenize source).status = (stream 0 source.toList).status := by
  obtain ⟨reader, log, h⟩ := lex_eq_stream .collect source #[]
  rw [tokenize, Lexer.tokenize, h, Sink.feed_collect]
  exact ⟨Array.empty_append, rfl⟩

end LexTree.Sexp
