import LexTree.Proofs.Consumer.Builtin

/-!
# What the built-in consumers make of what they read

Before the end of a text, a built-in strategy that drafts a token has read some
runes, and the value of the token is made of them and of nothing else.

- `Matcher.isQuoted` tells the strategies that drop backslashes, by the innermost
  one.
- `Matcher.textOf` is what a strategy makes of the runes that it has read.
- `Matcher.value_of_attempt`: the value of a token that was drafted.
-/

namespace LexTree.Matcher

open Reader

/-- Whether the innermost strategy is `quoted`. -/
def isQuoted : Matcher → Bool
  | quoted _ => true
  | validated _ inner => inner.isQuoted
  | oneOf .. | runOf .. | classRun .. | literal .. | shortest .. => false

/-- What a strategy makes of the `runes` that it has read: those of quoted literals, without the
backslashes, and all runes otherwise. -/
def textOf (m : Matcher) (runes : List Char) : List Char :=
  if m.isQuoted then runes.filter (· ≠ '\\') else runes

theorem textOf_of_isQuoted {m : Matcher} (h : m.isQuoted = true) (runes : List Char) :
    m.textOf runes = runes.filter (· ≠ '\\') := by
  rw [textOf, if_pos h]

theorem textOf_of_not_isQuoted {m : Matcher} (h : m.isQuoted = false) (runes : List Char) :
    m.textOf runes = runes := by
  rw [textOf, h]
  rfl

theorem length_textOf_le (m : Matcher) (runes : List Char) :
    (m.textOf runes).length ≤ runes.length := by
  rw [textOf]
  split
  · exact List.length_filter_le _ _
  · exact Nat.le_refl _

/-- `textOf` loses no rune but backslashes. -/
theorem length_textOf_eq_iff (m : Matcher) (runes : List Char) :
    (m.textOf runes).length = runes.length ↔ (m.isQuoted = true → '\\' ∉ runes) := by
  cases hm : m.isQuoted with
  | false => simp [textOf_of_not_isQuoted hm]
  | true =>
    rw [textOf_of_isQuoted hm, List.length_filter_eq_length_iff]
    constructor
    · intro h _ hmem
      simpa using h _ hmem
    · intro h c hc
      rw [decide_eq_true_eq]
      rintro rfl
      exact h rfl hc

/-- The token of `ofRun` is the run. -/
theorem value_of_ofRun {type : TokenType} {accepts : Char → Bool} {r after : Reader} {token : Token}
    (h : ofRun type (r.readWhile accepts "") = (some token, after)) :
    ∃ n ≤ r.rest.length, after = r.advance n ∧ token.value = String.ofList (r.rest.take n) := by
  have hprefix := List.takeWhile_prefix (l := r.rest) accepts
  rw [readWhile_eq, ofRun, Prod.mk.injEq, String.empty_append] at h
  obtain ⟨hrun, rfl⟩ := h
  refine ⟨_, hprefix.length_le, rfl, ?_⟩
  split at hrun
  · cases hrun
  · rw [← Option.some.inj hrun, ← List.prefix_iff_eq_take.mp hprefix]
    rfl

/-- An attempt before the end of the text that drafts a token has read `n` runes, and the token's
value is what `textOf` makes of them. -/
theorem value_of_attempt {m : Matcher} {r after : Reader} {token : Token} (hr : r.rest ≠ [])
    (h : m.attempt r = (some token, after)) :
    ∃ n ≤ r.rest.length, after = r.advance n ∧
      token.value = String.ofList (m.textOf (r.rest.take n)) := by
  obtain ⟨c, w, hw⟩ := List.exists_cons_of_ne_nil hr
  induction m generalizing token with
  | oneOf type allowed =>
    rw [attempt, read_of_rest hw, Prod.mk.injEq] at h
    obtain ⟨hdraft, rfl⟩ := h
    refine ⟨1, by simp [hw], rfl, ?_⟩
    split at hdraft
    · rw [← Option.some.inj hdraft, textOf_of_not_isQuoted rfl, hw]
      rfl
    · cases hdraft
  | runOf type runes =>
    obtain ⟨n, hn, hafter, hvalue⟩ := value_of_ofRun h
    exact ⟨n, hn, hafter, by rw [hvalue, textOf_of_not_isQuoted rfl]⟩
  | classRun type classes =>
    obtain ⟨n, hn, hafter, hvalue⟩ := value_of_ofRun h
    exact ⟨n, hn, hafter, by rw [hvalue, textOf_of_not_isQuoted rfl]⟩
  | literal type text =>
    rw [attempt, readLiteral_eq, Prod.mk.injEq] at h
    obtain ⟨hdraft, rfl⟩ := h
    split at hdraft
    · next hprefix =>
      have hprefix' := List.isPrefixOf_iff_prefix.mp hprefix
      rw [agreement_of_isPrefixOf hprefix]
      refine ⟨_, hprefix'.length_le, rfl, ?_⟩
      rw [← Option.some.inj hdraft, textOf_of_not_isQuoted rfl,
        ← List.prefix_iff_eq_take.mp hprefix', String.empty_append]
      rfl
    · cases hdraft
  | quoted type =>
    rw [attempt_quoted hw] at h
    split at h
    · cases hclose : closing? c (c :: w) with
      | none =>
        rw [hclose] at h
        cases h
      | some j =>
        rw [hclose] at h
        cases h
        refine ⟨j + 1, by rw [hw]; exact (closing?_bounds hclose).2, rfl, ?_⟩
        rw [textOf_of_isQuoted rfl, hw]
    · cases h
  | shortest type accepts =>
    rw [attempt, readUntil_eq] at h
    cases hshort : accepted? accepts "" r.rest with
    | none =>
      rw [hshort] at h
      cases h
    | some j =>
      have hbound := List.mem_range.mp (List.mem_of_find?_eq_some hshort)
      simp only [hshort, Prod.mk.injEq] at h
      obtain ⟨hdraft, rfl⟩ := h
      refine ⟨j + 1, hbound, rfl, ?_⟩
      rw [← Option.some.inj hdraft, textOf_of_not_isQuoted rfl, String.empty_append]
      rfl
  | validated accepts inner ih =>
    rw [attempt_validated, Prod.mk.injEq, Option.filter_eq_some_iff] at h
    obtain ⟨⟨hinner, -⟩, hafter⟩ := h
    exact ih (Prod.ext hinner hafter)

end LexTree.Matcher
