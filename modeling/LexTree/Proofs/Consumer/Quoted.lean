import LexTree.Proofs.Consumer.Builtin

/-!
# Quoted literals

The strategy for quoted literals goes through the runes one by one, and remembers
whether a backslash came last. What it takes can be told from the runes that are left
to read: a literal ends at the first quote of its own kind that no backslash stands
directly before, whatever stands before the backslash.

- `Reader.EndsAt`: the places at which a literal may end.
- `Reader.closing?_eq_some_iff` and `Reader.closing?_eq_none_iff`: the first of them.
- `Matcher.attempt_quoted_endsAt`: all that an attempt does.
-/

namespace LexTree

namespace Reader

/-! ## Ends -/

/-- A literal in quotes `q` that `w` starts with may end at `j`: there is another `q` there, with no
backslash directly before it. -/
def EndsAt (q : Char) (w : List Char) (j : Nat) : Prop :=
  1 ≤ j ∧ w[j]? = some q ∧ w[j - 1]? ≠ some '\\'

variable {q : Char} {w : List Char} {j : Nat}

theorem EndsAt.lt_length (h : EndsAt q w j) : j < w.length :=
  (List.getElem?_eq_some_iff.mp h.2.1).1

theorem endsAt_iff :
    EndsAt q w j ↔ (0 < j && w[j]? == some q && w[j - 1]? != some '\\') = true := by
  rw [EndsAt, Bool.and_eq_true, Bool.and_eq_true, decide_eq_true_eq, beq_iff_eq, bne_iff_ne,
    and_assoc]
  exact Iff.rfl

/-- `closing?` is the first place at which a literal may end. -/
theorem closing?_eq_some_iff :
    closing? q w = some j ↔ EndsAt q w j ∧ ∀ k < j, ¬ EndsAt q w k := by
  rw [closing?, List.find?_range_eq_some, List.mem_range]
  constructor
  · rintro ⟨hends, -, hleast⟩
    refine ⟨endsAt_iff.mpr hends, fun k hk hk' => ?_⟩
    have hno := hleast k hk
    rw [endsAt_iff.mp hk'] at hno
    cases hno
  · rintro ⟨hends, hleast⟩
    refine ⟨endsAt_iff.mp hends, hends.lt_length, fun k hk => ?_⟩
    rw [Bool.not_eq_true', ← Bool.not_eq_true, ← endsAt_iff]
    exact hleast k hk

/-- `closing?` is none if and only if a literal may end nowhere. -/
theorem closing?_eq_none_iff : closing? q w = none ↔ ∀ j, ¬ EndsAt q w j := by
  rw [closing?, List.find?_eq_none]
  constructor
  · exact fun h j hj => h j (List.mem_range.mpr hj.lt_length) (endsAt_iff.mp hj)
  · exact fun h j _ hj => h j (endsAt_iff.mpr hj)

/-- If a literal may end somewhere, one of these places is the first. -/
theorem exists_first_endsAt (h : ∃ j, EndsAt q w j) :
    ∃ j, EndsAt q w j ∧ ∀ k < j, ¬ EndsAt q w k := by
  cases hclose : closing? q w with
  | some j => exact ⟨j, closing?_eq_some_iff.mp hclose⟩
  | none =>
    obtain ⟨j, hends⟩ := h
    exact absurd hends (closing?_eq_none_iff.mp hclose j)

end Reader

/-! ## Attempts -/

namespace Matcher

open Reader

/-- The runes that quoted literals start with. -/
def quotes : List Char := ['"', '\'']

theorem mem_quotes_iff {c : Char} : c ∈ quotes ↔ (c = '"' || c = '\'') = true := by
  rw [quotes, List.mem_cons, List.mem_singleton, Bool.or_eq_true, decide_eq_true_eq,
    decide_eq_true_eq]

variable {type : TokenType} {r : Reader} {q : Char} {j : Nat}

/-- `quoted` takes a literal up to the first place at which it may end. -/
theorem attempt_quoted_of_endsAt (hq : q ∈ quotes) (hhead : r.rest.head? = some q)
    (hends : EndsAt q r.rest j) (hfirst : ∀ k < j, ¬ EndsAt q r.rest k) :
    (quoted type).attempt r =
      (some ⟨type, String.ofList ((r.rest.take (j + 1)).filter (· ≠ '\\')), 0, 0, 0⟩,
        r.advance (j + 1)) := by
  obtain ⟨w, hw⟩ := List.head?_eq_some_iff.mp hhead
  have hclose : closing? q r.rest = some j := closing?_eq_some_iff.mpr ⟨hends, hfirst⟩
  rw [hw] at hclose
  rw [attempt_quoted hw, if_pos (mem_quotes_iff.mp hq), hclose, hw]

/-- Where no literal starts, or one that never ends, `quoted` takes nothing. A quote there is
followed to the end of the text, and another rune is read. -/
theorem attempt_quoted_of_not_exists
    (h : ¬ ∃ q ∈ quotes, r.rest.head? = some q ∧ ∃ j, EndsAt q r.rest j) :
    (quoted type).attempt r =
      (none,
        if r.rest.head?.all (· ∈ quotes) then { r with offset := max r.offset r.size }
        else { r with offset := r.offset + 1 }) := by
  cases hw : r.rest with
  | nil =>
    have hend : r.advance 0 = { r with offset := max r.offset r.size } := by
      rw [← advance_length_rest, hw]
      rfl
    rw [attempt, read_of_rest_nil hw, List.head?_nil, Option.all_none, if_pos rfl, ← hend]
    rfl
  | cons c w =>
    rw [attempt_quoted hw, List.head?_cons, Option.all_some]
    by_cases hc : c ∈ quotes
    · have hclose : closing? c (c :: w) = none := by
        rw [← hw]
        refine closing?_eq_none_iff.mpr fun j hends => h ⟨c, hc, ?_, j, hends⟩
        rw [hw]
        rfl
      rw [if_pos (mem_quotes_iff.mp hc), hclose, if_pos (decide_eq_true hc), ← advance_length_rest,
        hw]
      rfl
    · rw [if_neg fun hquote => hc (mem_quotes_iff.mpr hquote), if_neg (by rwa [decide_eq_true_eq])]
      rfl

/-- With `w` as the runes that are left, `quoted` succeeds if and only if `w` starts with a quote
and has another one of its kind, no backslash directly before it. It ends after the first of these,
and takes the runes up to there in order, without the backslashes. Otherwise it reads all of the
text, or one rune if that is none of `quotes`. The marks stay as they are. -/
theorem attempt_quoted_endsAt (type : TokenType) (r : Reader) :
    let w := r.rest
    let found := (quoted type).attempt r
    (found.1.isSome = true ↔ ∃ q ∈ quotes, w.head? = some q ∧ ∃ j, EndsAt q w j) ∧
      (∀ q ∈ quotes, w.head? = some q → ∀ j, EndsAt q w j → (∀ k < j, ¬ EndsAt q w k) →
        found = (some ⟨type, String.ofList ((w.take (j + 1)).filter (· ≠ '\\')), 0, 0, 0⟩,
          { r with offset := r.offset + (j + 1) })) ∧
      (found.1 = none → found.2 =
        if w.head?.all (· ∈ quotes) then { r with offset := max r.offset r.size }
        else { r with offset := r.offset + 1 }) ∧
      found.2.marks = r.marks := by
  intro w found
  have hmarks : found.2.marks = r.marks := attempt_marks (quoted type) r
  have htaken : ∀ q ∈ quotes, w.head? = some q → ∀ j, EndsAt q w j → (∀ k < j, ¬ EndsAt q w k) →
      found = (some ⟨type, String.ofList ((w.take (j + 1)).filter (· ≠ '\\')), 0, 0, 0⟩,
        { r with offset := r.offset + (j + 1) }) :=
    fun q hq hhead j => attempt_quoted_of_endsAt hq hhead
  by_cases hliteral : ∃ q ∈ quotes, w.head? = some q ∧ ∃ j, EndsAt q w j
  · obtain ⟨q, hq, hhead, hsome⟩ := hliteral
    obtain ⟨j, hends, hfirst⟩ := exists_first_endsAt hsome
    have hsuccess : found.1.isSome = true := by
      rw [htaken q hq hhead j hends hfirst]
      rfl
    refine ⟨iff_of_true hsuccess ⟨q, hq, hhead, j, hends⟩, htaken, fun hnone => ?_, hmarks⟩
    rw [hnone] at hsuccess
    cases hsuccess
  · have hfound : found = (none, _) := attempt_quoted_of_not_exists hliteral
    have hnone : found.1 = none := congrArg Prod.fst hfound
    refine ⟨iff_of_false ?_ hliteral, htaken, fun _ => congrArg Prod.snd hfound, hmarks⟩
    rw [hnone]
    exact Bool.false_ne_true

/-- A backslash before the quote keeps the literal open also if another backslash is before that. -/
example : (quoted ⟨"STRING"⟩).attempt ⟨#['\'', '\\', '\\', '\'', '"', '\'', 'a'], 0, [0]⟩ =
    (some ⟨⟨"STRING"⟩, "'\'\"'", 0, 0, 0⟩,
      ⟨#['\'', '\\', '\\', '\'', '"', '\'', 'a'], 6, [0]⟩) := by
  decide +kernel

end Matcher

end LexTree
