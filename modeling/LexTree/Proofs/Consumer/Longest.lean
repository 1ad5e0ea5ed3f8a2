import LexTree.Proofs.Consumer.Builtin

/-!
# Longest runs, literals and validation

The strategies for runs and for literals read on as long as the runes suit them, so that
what they read is a longest prefix of the runes that are left: of accepted runes, or one
that the literal has too. They ask for the end of the text before they look at a rune, and
the rune that stands for the end may be an accepted one. Validation asks about a value that
was found, and does nothing with the reader.

- `Reader.LongestPrefix`: the longest of the prefixes that fit. It grows by a rune
  (`Reader.LongestPrefix.cons`) or stops (`Reader.longestPrefix_nil`), as the loops do.
- `Reader.TakesRun`, `Reader.TakesLiteral`: what comes of a run and of a literal.
- `Consumer.validatedBy`: any number of patterns around a consumer, and
  `Consumer.Validates`: what they make of what it found.
- `Matcher.attempt_longestPrefix`: all that attempts of these kinds do.
-/

namespace LexTree

namespace Reader

/-! ## Longest prefixes -/

/-- The longest prefix `p` of `w` that fits. -/
structure LongestPrefix (fits : List Char → Prop) (w p : List Char) : Prop where
  isPrefix : p <+: w
  fits_self : fits p
  length_le : ∀ q, q <+: w → fits q → q.length ≤ p.length

variable {fits fits' : List Char → Prop} {w p : List Char} {c : Char}

/-- If `c :: q` fits wherever `q` did, and nowhere else, then the longest prefix of `c :: w` is `c
:: p`. -/
theorem LongestPrefix.cons (h : LongestPrefix fits w p) (hc : ∀ q, fits' (c :: q) ↔ fits q) :
    LongestPrefix fits' (c :: w) (c :: p) := by
  refine ⟨(List.prefix_cons_inj c).mpr h.isPrefix, (hc p).mpr h.fits_self, fun q hq hfits => ?_⟩
  obtain rfl | ⟨v, rfl, hv⟩ := List.prefix_cons_iff.mp hq
  · exact Nat.zero_le _
  · exact Nat.succ_le_succ (h.length_le v hv ((hc v).mp hfits))

/-- If nothing fits that starts with the first rune of `w`, then the longest prefix is empty. -/
theorem longestPrefix_nil (hnil : fits []) (hstop : ∀ c v, w = c :: v → ∀ q, ¬ fits (c :: q)) :
    LongestPrefix fits w [] := by
  refine ⟨List.nil_prefix, hnil, fun q hq hfits => ?_⟩
  cases q with
  | nil => exact Nat.le_refl _
  | cons c q =>
    obtain ⟨v, hw, -⟩ := List.cons_prefix_iff.mp hq
    exact absurd hfits (hstop c v hw q)

/-- `takeWhile` is the longest prefix of accepted runes. -/
theorem longestPrefix_takeWhile (accepts : Char → Bool) (w : List Char) :
    LongestPrefix (fun p => ∀ c ∈ p, accepts c = true) w (w.takeWhile accepts) := by
  induction w with
  | nil => exact longestPrefix_nil (List.forall_mem_nil _) fun c v hw => by cases hw
  | cons c w ih =>
    by_cases hc : accepts c = true
    · rw [List.takeWhile_cons_of_pos hc]
      refine ih.cons fun q => ?_
      rw [List.forall_mem_cons, and_iff_right hc]
    · rw [List.takeWhile_cons_of_neg hc]
      refine longestPrefix_nil (List.forall_mem_nil _) fun d v hw q hq => hc ?_
      rw [(List.cons.inj hw).1]
      exact hq d List.mem_cons_self

/-- `x` and `w` agree in their longest common prefix, which has the length `agreement x w`. -/
theorem exists_longestPrefix_agreement (x w : List Char) :
    ∃ p, LongestPrefix (· <+: x) w p ∧ p.length = agreement x w := by
  fun_induction agreement x w with
  | case1 x c w ih =>
    obtain ⟨p, hp, hlength⟩ := ih
    refine ⟨c :: p, hp.cons fun q => List.prefix_cons_inj c, ?_⟩
    rw [List.length_cons, hlength]
  | case2 c x d w hne =>
    refine ⟨[], longestPrefix_nil List.nil_prefix fun e v hw q hq => hne ?_, rfl⟩
    rw [(List.cons.inj hw).1]
    exact (List.cons_prefix_cons.mp hq).1.symm
  | case3 x w hend =>
    -- One of the texts is empty.
    refine ⟨[], longestPrefix_nil List.nil_prefix fun e v hw q hq => ?_, rfl⟩
    obtain ⟨y, hx, -⟩ := List.cons_prefix_iff.mp hq
    exact hend e y e v hx hw

/-! ## What is taken -/

/-- What is found at `r` by a strategy for runs: the longest prefix of accepted runes, with the
reader right after it, or nothing if that is empty, with the reader where it was. -/
def TakesRun (type : TokenType) (accepts : Char → Prop) (r : Reader)
    (found : Option Token × Reader) : Prop :=
  ∃ p, LongestPrefix (fun p => ∀ c ∈ p, accepts c) r.rest p ∧
    found =
      if p = [] then (none, r)
      else (some ⟨type, String.ofList p, 0, 0, 0⟩, { r with offset := r.offset + p.length })

/-- What is found at `r` by `literal type x`: the literal, with the reader right after it, if the
text goes on with `x`. Otherwise nothing, with the reader right after all that they have in
common. -/
structure TakesLiteral (type : TokenType) (x : List Char) (r : Reader)
    (found : Option Token × Reader) : Prop where
  isSome_iff : found.1.isSome = true ↔ x <+: r.rest
  of_isPrefix : x <+: r.rest →
    found = (some ⟨type, String.ofList x, 0, 0, 0⟩, { r with offset := r.offset + x.length })
  of_not_isPrefix : ¬ x <+: r.rest → ∃ p, LongestPrefix (· <+: x) r.rest p ∧
    found = (none, { r with offset := r.offset + p.length })

end Reader

/-! ## Validation -/

namespace Consumer

/-- What `inner` recognises, if its value is accepted by all of `patterns`, of which the last is
asked first. -/
def validatedBy (patterns : List (String → Bool)) (inner : Consumer) : Consumer :=
  patterns.foldr validated inner

/-- Of what is `given` by a consumer, `patterns` keep the token if all of them accept its value. The
reader stays as the consumer has left it, with its marks. -/
structure Validates (patterns : List (String → Bool)) (given found : Option Token × Reader) :
    Prop where
  token_iff : ∀ token, found.1 = some token ↔
    given.1 = some token ∧ ∀ accepts ∈ patterns, accepts token.value = true
  after_eq : found.2 = given.2

variable {patterns : List (String → Bool)} {given found : Option Token × Reader}

theorem validates_nil : Validates [] given given :=
  ⟨fun _ => (and_iff_left (List.forall_mem_nil _)).symm, rfl⟩

/-- One more pattern around the others. -/
theorem Validates.cons (h : Validates patterns given found) (accepts : String → Bool) :
    Validates (accepts :: patterns) given (found.1.filter (accepts ·.value), found.2) := by
  refine ⟨fun token => ?_, h.after_eq⟩
  rw [Option.filter_eq_some_iff, h.token_iff, List.forall_mem_cons, and_assoc,
    and_comm (a := ∀ accepts ∈ patterns, accepts token.value = true)]

theorem validates_validatedBy (patterns : List (String → Bool)) (inner : Consumer) (r : Reader) :
    Validates patterns (inner r) (inner.validatedBy patterns r) := by
  induction patterns with
  | nil => exact validates_nil
  | cons accepts patterns ih => exact ih.cons accepts

end Consumer

namespace Matcher

open Reader Consumer

/-- `Matcher.validated` around a strategy, once for each of `patterns`, is `validatedBy
patterns`. -/
theorem attempt_foldr_validated (patterns : List (String → Bool)) (m : Matcher) :
    (patterns.foldr validated m).attempt = m.attempt.validatedBy patterns := by
  induction patterns with
  | nil => rfl
  | cons accepts patterns ih =>
    funext r
    rw [List.foldr_cons, attempt, ih]
    rfl

/-! ## Attempts -/

theorem takesRun_ofRun (type : TokenType) (accepts : Char → Bool) (r : Reader) :
    TakesRun type (accepts · = true) r (ofRun type (r.readWhile accepts "")) := by
  refine ⟨_, longestPrefix_takeWhile accepts r.rest, ?_⟩
  rw [readWhile_eq, ofRun, String.empty_append]
  cases r.rest.takeWhile accepts with
  | nil => rfl
  | cons c p => simp [advance, Token.draft]

theorem takesLiteral_attempt (type : TokenType) (x : List Char) (r : Reader) :
    TakesLiteral type x r ((literal type x).attempt r) := by
  obtain ⟨p, hp, hlength⟩ := exists_longestPrefix_agreement x r.rest
  have hfound := readLiteral_eq x "" r
  rw [attempt, hfound]
  by_cases hx : x.isPrefixOf r.rest = true
  · rw [if_pos hx]
    have hx' := List.isPrefixOf_iff_prefix.mp hx
    refine ⟨iff_of_true rfl hx', fun _ => ?_, fun hno => absurd hx' hno⟩
    rw [agreement_of_isPrefixOf hx, String.empty_append]
    rfl
  · rw [if_neg hx]
    have hx' : ¬ x <+: r.rest := fun h => hx (List.isPrefixOf_iff_prefix.mpr h)
    refine ⟨iff_of_false Bool.false_ne_true hx', fun h => absurd h hx', fun _ => ⟨p, hp, ?_⟩⟩
    rw [hlength]
    rfl

/-- Wherever `r` stands, a run takes the longest prefix of accepted runes, whatever is accepted:
runes out of a list for `runOf`, runes of any of some classes for `classRun`, or others. A `literal`
is found if and only if the text goes on with it, and otherwise read as far as it is there. However
many `patterns` are around a consumer, they accept or refuse what it has found and leave the reader
as it has. None of this changes the marks. -/
theorem attempt_longestPrefix (type : TokenType) (r : Reader) :
    (∀ accepts : Char → Bool,
        TakesRun type (accepts · = true) r (ofRun type (r.readWhile accepts ""))) ∧
      (∀ runes, TakesRun type (· ∈ runes) r ((runOf type runes).attempt r)) ∧
      (∀ classes, TakesRun type (fun c => ∃ isIn ∈ classes, isIn c = true) r
        ((classRun type classes).attempt r)) ∧
      (∀ x, TakesLiteral type x r ((literal type x).attempt r)) ∧
      (∀ (patterns : List (String → Bool)) (inner : Consumer),
        Validates patterns (inner r) (inner.validatedBy patterns r)) ∧
      ∀ (patterns : List (String → Bool)) (m : Matcher),
        Validates patterns (m.attempt r) ((patterns.foldr validated m).attempt r) ∧
          ((patterns.foldr validated m).attempt r).2.marks = r.marks := by
  have hrun : ∀ accepts : Char → Bool,
      TakesRun type (accepts · = true) r (ofRun type (r.readWhile accepts "")) :=
    fun accepts => takesRun_ofRun type accepts r
  refine ⟨hrun, fun runes => ?_, fun classes => ?_, fun x => takesLiteral_attempt type x r,
    fun patterns inner => validates_validatedBy patterns inner r, fun patterns m => ⟨?_, ?_⟩⟩
  · have h := hrun runes.contains
    simp only [List.contains_iff_mem] at h
    rwa [attempt]
  · have h := hrun fun c => classes.any (· c)
    simp only [List.any_eq_true] at h
    rwa [attempt]
  · rw [attempt_foldr_validated]
    exact validates_validatedBy patterns m.attempt r
  · exact attempt_marks _ r

/-- The rune that stands for the end of the text is taken where the text has it, and not once more
at the end. -/
example :
    let m := runOf ⟨"RUN"⟩ [replacement]
    let last : Reader := ⟨#['a', replacement], 1, [0]⟩
    let ended : Reader := ⟨#['a', replacement], 2, [0]⟩
    m.attempt last = (some ⟨⟨"RUN"⟩, "\uFFFD", 0, 0, 0⟩, ended) ∧
      m.attempt ended = (none, ended) := by
  decide +kernel

end Matcher

end LexTree
