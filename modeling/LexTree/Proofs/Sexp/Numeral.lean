import LexTree.Proofs.Pattern.Words
import LexTree.Sexp

/-!
# Numbers of the sample grammar

The syntax of numbers is a pattern. What it accepts among the runes that numbers
are made of can be said without patterns.

- `isNumeral` says it: a lone zero, a zero with a fraction, or digits without a
  leading zero and perhaps a fraction.
- `numberShape_eq`: the pattern is one, and what it means.
- `isNumber_ofList`: on digits and points the pattern accepts what `isNumeral`
  accepts.
-/

namespace LexTree.Sexp

open Pattern

/-! ## Numerals -/

/-- Digits, and at least one. -/
def isDigits (w : List Char) : Bool := !w.isEmpty && w.all Text.isAsciiDigit

/-- A point with digits after it. -/
def isFraction : List Char → Bool
  | [] => false
  | c :: w => c == '.' && isDigits w

/-- A number: a lone zero, a zero with a fraction, or digits that do not start with a zero,
perhaps with a fraction. -/
def isNumeral : List Char → Bool
  | [] => false
  | c :: w =>
    if c = '0' then w.isEmpty || isFraction w
    else
      let afterDigits := w.dropWhile Text.isAsciiDigit
      Text.isAsciiDigit c && (afterDigits.isEmpty || isFraction afterDigits)

/-- The shapes of a number, with classes `digit` of its digits and `first` of its first digit. -/
inductive Numeral (digit first : Char → Bool) : List Char → Prop where
  | zero : Numeral digit first ['0']
  | fraction {e} : e ≠ [] → (∀ c ∈ e, digit c = true) → Numeral digit first ('0' :: '.' :: e)
  | whole {c d} : first c = true → (∀ c ∈ d, digit c = true) → Numeral digit first (c :: d)
  | decimal {c d e} : first c = true → (∀ c ∈ d, digit c = true) → e ≠ [] →
      (∀ c ∈ e, digit c = true) → Numeral digit first (c :: (d ++ '.' :: e))

/-- A digit that is no zero. -/
def isLeadingDigit (c : Char) : Bool := Text.isAsciiDigit c && c != '0'

theorem isDigits_iff {w : List Char} :
    isDigits w = true ↔ w ≠ [] ∧ ∀ c ∈ w, Text.isAsciiDigit c = true := by
  simp [isDigits]

theorem isFraction_iff {w : List Char} :
    isFraction w = true ↔
      ∃ e, w = '.' :: e ∧ e ≠ [] ∧ ∀ c ∈ e, Text.isAsciiDigit c = true := by
  cases w with
  | nil => simp [isFraction]
  | cons c w =>
    rw [isFraction, Bool.and_eq_true, beq_iff_eq, isDigits_iff]
    constructor
    · rintro ⟨rfl, h⟩
      exact ⟨w, rfl, h⟩
    · rintro ⟨e, heq, h⟩
      obtain ⟨rfl, rfl⟩ := List.cons.inj heq
      exact ⟨rfl, h⟩

/-- After the digits `d`, `dropWhile` leaves what was put there. -/
theorem dropWhile_digits {d f : List Char} (hd : ∀ c ∈ d, Text.isAsciiDigit c = true)
    (hf : f = [] ∨ isFraction f = true) : (d ++ f).dropWhile Text.isAsciiDigit = f := by
  rw [List.dropWhile_append_of_pos hd]
  rcases hf with rfl | hf
  · rfl
  · obtain ⟨e, rfl, -⟩ := isFraction_iff.mp hf
    rfl

/-- What `isNumeral` accepts is of one of the shapes of `Numeral`. -/
theorem numeral_of_isNumeral {w : List Char} (h : isNumeral w = true) :
    Numeral Text.isAsciiDigit isLeadingDigit w := by
  cases w with
  | nil => cases h
  | cons c w =>
    simp only [isNumeral] at h
    split at h
    · next hc =>
      subst hc
      rw [Bool.or_eq_true, List.isEmpty_iff, isFraction_iff] at h
      rcases h with rfl | ⟨e, rfl, hne, he⟩
      · exact .zero
      · exact .fraction hne he
    · next hc =>
      rw [Bool.and_eq_true, Bool.or_eq_true, List.isEmpty_iff, isFraction_iff] at h
      obtain ⟨hdigit, hrest⟩ := h
      have hfirst : isLeadingDigit c = true := by simp [isLeadingDigit, hdigit, hc]
      have hd : ∀ c ∈ w.takeWhile Text.isAsciiDigit, Text.isAsciiDigit c = true :=
        List.all_eq_true.mp List.all_takeWhile
      rw [← List.takeWhile_append_dropWhile (p := Text.isAsciiDigit) (l := w)]
      rcases hrest with h | ⟨e, h, hne, he⟩
      · rw [h, List.append_nil]
        exact .whole hfirst hd
      · rw [h]
        exact .decimal hfirst hd hne he

/-- `isNumeral` accepts all shapes of `Numeral`. -/
theorem isNumeral_of_numeral {w : List Char} (h : Numeral Text.isAsciiDigit isLeadingDigit w) :
    isNumeral w = true := by
  have hlead : ∀ c, isLeadingDigit c = true → c ≠ '0' ∧ Text.isAsciiDigit c = true := by
    intro c hc
    simpa [isLeadingDigit, and_comm] using hc
  cases h with
  | zero => rfl
  | fraction hne he =>
    simp only [isNumeral, if_true, Bool.or_eq_true]
    exact .inr (isFraction_iff.mpr ⟨_, rfl, hne, he⟩)
  | whole hc hd =>
    obtain ⟨hzero, hdigit⟩ := hlead _ hc
    have hdrop := dropWhile_digits hd (.inl rfl)
    rw [List.append_nil] at hdrop
    simp [isNumeral, hzero, hdigit, hdrop]
  | decimal hc hd hne he =>
    obtain ⟨hzero, hdigit⟩ := hlead _ hc
    have hfraction := isFraction_iff.mpr ⟨_, rfl, hne, he⟩
    simp [isNumeral, hzero, hdigit, dropWhile_digits hd (.inr hfraction), hfraction]

/-- Only the classes of the runes of `w` matter. -/
theorem Numeral.congr {digit first digit' first' : Char → Bool} {w : List Char}
    (hd : ∀ c ∈ w, digit c = digit' c) (hf : ∀ c ∈ w, first c = first' c)
    (h : Numeral digit first w) : Numeral digit' first' w := by
  cases h with
  | zero => exact .zero
  | fraction hne he =>
    refine .fraction hne fun c hc => ?_
    rw [← hd c (by simp [hc]), he c hc]
  | whole hc hds =>
    refine .whole ?_ fun c hc => ?_
    · rw [← hf _ (by simp), hc]
    · rw [← hd c (by simp [hc]), hds c hc]
  | decimal hc hds hne he =>
    refine .decimal ?_ (fun c hc => ?_) hne fun c hc => ?_
    · rw [← hf _ (by simp), hc]
    · rw [← hd c (by simp [hc]), hds c hc]
    · rw [← hd c (by simp [hc]), he c hc]

/-! ## The pattern -/

/-- A rune that the pattern takes for a digit: any of Unicode's decimal digits. -/
def digitTable : Text.RangeTable := (Shorthand.runes true .digit).toTable

def leadingTable : Text.RangeTable := (Text.RuneSet.range 49 57).toTable

/-- The expression for a point with digits after it. -/
def fractionRegex : Regex :=
  .seq (.ofRunes ['.']) (.seq (.times (.ofTable digitTable) 1 none) .empty)

/-- The expression for a number. -/
def numeralRegex : Regex :=
  .alt (.ofRunes ['0'])
    (.alt (.seq (.ofRunes ['0', '.']) (.seq (.times (.ofTable digitTable) 1 none) .empty))
      (.alt
        (.seq (.ofTable leadingTable)
          (.seq (.times (.ofTable digitTable) 0 none)
            (.seq (.times fractionRegex 0 (some 1)) .empty)))
        (.rune fun _ => false)))

/-- The pattern of `numberSyntax` as written, between anchors. -/
def numberAst : Ast :=
  let digits (least : Nat) : Ast := .repetition (.shorthand .digit false) least none true
  .concat [.assertion .lineStart,
    .group none [] (.alternation [.literal '0' false,
      .concat [.literal '0' false, .literal '.' false, digits 1],
      .concat [.bracketed false (.range '1' '9'), digits 0,
        .repetition (.group (some 1) [] (.concat [.literal '.' false, digits 1])) 0 (some 1)
          true]]),
    .assertion .lineEnd]

/-- The pattern of `numberSyntax`, once its flags are applied. -/
def numberExpr : Expr :=
  let digits (least : Nat) : Expr :=
    .repetition (.oneOf (Shorthand.runes true .digit) false) least none true
  .concat [.look .textStart,
    .alternation [.literal ['0'], .concat [.literal ['0', '.'], digits 1],
      .concat [.oneOf (.range 49 57) false, digits 0,
        .repetition (.capture 1 (.concat [.literal ['.'], digits 1])) 0 (some 1) true]],
    .look .textEnd]

theorem parse_numberSyntax : Ast.parse (AnchoredPattern.enclose numberSyntax) = .ok numberAst := by
  rfl

theorem meaning_numberAst : numberAst.meaning .default = .ok (numberExpr, .default) := by
  rfl

theorem fits_numberExpr : numberExpr.fits = true := by
  decide +kernel

theorem regex_numberExpr : numberExpr.regex = numeralRegex.anchored := by
  rfl

/-- `numberSyntax` is a pattern, and means `numeralRegex`. -/
theorem numberShape_eq :
    numberShape = some ⟨AnchoredPattern.enclose numberSyntax, numeralRegex.anchored⟩ := by
  have hcompile : AnchoredPattern.compile numberSyntax =
      .ok ⟨AnchoredPattern.enclose numberSyntax, numeralRegex.anchored⟩ := by
    rw [AnchoredPattern.compile, parse_numberSyntax, ← regex_numberExpr]
    simp only [bind, Except.bind, meaning_numberAst, fits_numberExpr, if_true]
  rw [numberShape, hcompile]
  rfl

/-! ## What the pattern accepts -/

def isTableDigit (c : Char) : Bool := digitTable.contains c.toNat

def isTableLeading (c : Char) : Bool := leadingTable.contains c.toNat

theorem denotes_literal (runes : List Char) : Denotes (.ofRunes runes) (· = runes) := by
  induction runes with
  | nil => exact Denotes.empty
  | cons c runes ih =>
    refine ((Denotes.rune _).seq ih).congr fun w => ?_
    constructor
    · rintro ⟨u, v, rfl, ⟨c', rfl, hc⟩, rfl⟩
      rw [eq_of_beq hc]; rfl
    · rintro rfl
      exact ⟨[c], runes, rfl, ⟨c, rfl, beq_self_eq_true c⟩, rfl⟩

/-- An expression and then nothing. -/
theorem denotes_last {r : Regex} {p : List Char → Prop} (h : Denotes r p) :
    Denotes (.seq r .empty) p := by
  refine (h.seq Denotes.empty).congr fun w => ?_
  constructor
  · rintro ⟨u, v, rfl, hu, rfl⟩
    rwa [List.append_nil]
  · intro hw
    exact ⟨w, [], (List.append_nil w).symm, hw, rfl⟩

/-- The literal `runes` and then digits. -/
theorem denotes_digits (runes : List Char) :
    Denotes (.seq (.ofRunes runes) (.seq (.times (.ofTable digitTable) 1 none) .empty))
      fun w => ∃ e, w = runes ++ e ∧ e ≠ [] ∧ ∀ c ∈ e, isTableDigit c = true := by
  refine ((denotes_literal runes).seq (denotes_last (Denotes.run isTableDigit 1))).congr
    fun w => ?_
  constructor
  · rintro ⟨u, e, rfl, rfl, hlen, he⟩
    exact ⟨e, rfl, List.length_pos_iff.mp hlen, he⟩
  · rintro ⟨e, rfl, hne, he⟩
    exact ⟨runes, e, rfl, rfl, List.length_pos_iff.mpr hne, he⟩

theorem denotes_numeral : Denotes numeralRegex (Numeral isTableDigit isTableLeading) := by
  have hmany := (Denotes.rune isTableLeading).seq
    ((Denotes.run isTableDigit 0).seq (denotes_last (denotes_digits ['.']).optional))
  refine ((denotes_literal ['0']).alt ((denotes_digits ['0', '.']).alt
    (hmany.alt (Denotes.rune fun _ => false)))).congr fun w => ?_
  constructor
  · rintro (rfl | ⟨e, rfl, hne, he⟩ | ⟨_, _, rfl, ⟨c, rfl, hc⟩, d, f, rfl, ⟨-, hd⟩, hf⟩ |
      ⟨_, _, ⟨⟩⟩)
    · exact .zero
    · exact .fraction hne he
    · rcases hf with rfl | ⟨e, rfl, hne, he⟩
      · rw [List.append_nil]
        exact .whole hc hd
      · exact .decimal hc hd hne he
  · intro h
    cases h with
    | zero => exact .inl rfl
    | fraction hne he => exact .inr (.inl ⟨_, rfl, hne, he⟩)
    | @whole c d hc hd =>
      exact .inr (.inr (.inl ⟨[c], d, rfl, ⟨c, rfl, hc⟩, d, [], (List.append_nil d).symm,
        ⟨Nat.zero_le _, hd⟩, .inl rfl⟩))
    | @decimal c d e hc hd hne he =>
      exact .inr (.inr (.inl ⟨[c], d ++ '.' :: e, rfl, ⟨c, rfl, hc⟩, d, '.' :: e, rfl,
        ⟨Nat.zero_le _, hd⟩, .inr ⟨e, rfl, hne, he⟩⟩))

/-- Among digits and points the tables hold the digits of ASCII. -/
theorem tables_of_mem {c : Char} (h : c ∈ numberAlphabet.toList) :
    isTableDigit c = Text.isAsciiDigit c ∧ isTableLeading c = isLeadingDigit c := by
  have hall : numberAlphabet.toList.all (fun c =>
      isTableDigit c == Text.isAsciiDigit c && isTableLeading c == isLeadingDigit c) = true := by
    decide +kernel
  have hc := List.all_eq_true.mp hall c h
  rwa [Bool.and_eq_true, beq_iff_eq, beq_iff_eq] at hc

theorem bounded_numeralRegex : numeralRegex.Bounded := by
  simp [numeralRegex, fractionRegex, Regex.ofRunes, Regex.ofTable, Regex.Bounded]

/-- On digits and points `isNumber` accepts numerals and nothing else. -/
theorem isNumber_ofList {w : List Char} (hw : ∀ c ∈ w, c ∈ numberAlphabet.toList) :
    isNumber (String.ofList w) = isNumeral w := by
  have hdigit : ∀ c ∈ w, isTableDigit c = Text.isAsciiDigit c :=
    fun c hc => (tables_of_mem (hw c hc)).1
  have hleading : ∀ c ∈ w, isTableLeading c = isLeadingDigit c :=
    fun c hc => (tables_of_mem (hw c hc)).2
  rw [Bool.eq_iff_iff, isNumber, numberShape_eq, Option.any_some, AnchoredPattern.accepts,
    String.toList_ofList, occursIn_anchored bounded_numeralRegex denotes_numeral]
  constructor
  · intro h
    exact isNumeral_of_numeral (h.congr hdigit hleading)
  · intro h
    refine (numeral_of_isNumeral h).congr (fun c hc => ?_) fun c hc => ?_
    · exact (hdigit c hc).symm
    · exact (hleading c hc).symm

end LexTree.Sexp
