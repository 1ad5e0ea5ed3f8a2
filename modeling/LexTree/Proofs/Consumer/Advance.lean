import LexTree.Proofs.Consumer.Value

/-!
# Tokens and the runes that they take

A token that a built-in strategy drafts stands for runes that were read: there is at least
one, and the value has no more runes than that. There are two exceptions, however deeply
they are validated. The empty literal is found everywhere, and at the end of the text a
strategy for single runes accepts the rune that stands for the end.

- `Reader.Takes`: a value that stands for the runes between two places.
- `Matcher.StaysAt`: the exceptions.
- `Matcher.takes_iff_not_staysAt`: there are no others.
-/

namespace LexTree

/-- From `r` to `after` a reader has moved on, and `value` has at least one rune and no more than
were passed. -/
structure Reader.Takes (r after : Reader) (value : String) : Prop where
  offset_lt : r.offset < after.offset
  length_pos : 1 ≤ value.length
  length_le : value.length ≤ after.offset - r.offset

namespace Matcher

open Reader

/-- The strategies that may draft a token at `r` without reading a rune: the empty `literal`, and at
the end of the text a `oneOf` that allows `replacement`, which is read there. -/
def StaysAt (r : Reader) : Matcher → Prop
  | oneOf _ allowed => r.atEnd = true ∧ replacement ∈ allowed
  | literal _ text => text = []
  | validated _ inner => inner.StaysAt r
  | runOf .. | classRun .. | quoted _ | shortest .. => False

variable {m : Matcher} {r after : Reader} {token : Token}

theorem attempt_of_validated {accepts : String → Bool} {inner : Matcher}
    (h : (validated accepts inner).attempt r = (some token, after)) :
    inner.attempt r = (some token, after) := by
  rw [attempt_validated, Prod.mk.injEq, Option.filter_eq_some_iff] at h
  exact Prod.ext h.1.1 h.2

/-- A strategy for which `StaysAt` holds leaves the reader where it is, and drafts a token of no
rune or of `replacement`. -/
theorem attempt_of_staysAt (hm : m.StaysAt r) (h : m.attempt r = (some token, after)) :
    after = r ∧ (token.value = "" ∨ token.value = replacement.toString) := by
  induction m with
  | oneOf type allowed =>
    have hend : r.rest = [] := by
      have hempty := hm.1
      rwa [atEnd_eq_isEmpty, List.isEmpty_iff] at hempty
    rw [attempt, read_of_rest_nil hend, Prod.mk.injEq] at h
    obtain ⟨hdraft, rfl⟩ := h
    split at hdraft
    · exact ⟨rfl, .inr (congrArg Token.value (Option.some.inj hdraft)).symm⟩
    · cases hdraft
  | literal type text =>
    obtain rfl : text = [] := hm
    cases h
    exact ⟨rfl, .inl rfl⟩
  | validated accepts inner ih => exact ih hm (attempt_of_validated h)
  | runOf _ _ | classRun _ _ | quoted _ | shortest _ _ => exact hm.elim

/-- The token of `ofRun` has a rune. -/
theorem length_value_ofRun {type : TokenType} {run : String × Reader}
    (h : ofRun type run = (some token, after)) : 1 ≤ token.value.length := by
  obtain ⟨value, rest⟩ := run
  rw [ofRun, Prod.mk.injEq] at h
  obtain ⟨hdraft, -⟩ := h
  split at hdraft
  · cases hdraft
  · next hne =>
    rw [← Option.some.inj hdraft]
    show 1 ≤ value.length
    rw [Nat.one_le_iff_ne_zero, Ne, String.length_eq_zero_iff, ← String.isEmpty_iff]
    exact hne

/-- A token has a rune if `StaysAt` does not hold. -/
theorem length_value_pos (hm : ¬ m.StaysAt r) (h : m.attempt r = (some token, after)) :
    1 ≤ token.value.length := by
  induction m with
  | oneOf type allowed =>
    rw [attempt, Prod.mk.injEq] at h
    obtain ⟨hdraft, -⟩ := h
    split at hdraft
    · rw [← Option.some.inj hdraft]
      exact Nat.le_of_eq String.length_singleton.symm
    · cases hdraft
  | runOf type runes => exact length_value_ofRun h
  | classRun type classes => exact length_value_ofRun h
  | literal type text =>
    rw [attempt, readLiteral_eq, Prod.mk.injEq] at h
    obtain ⟨hdraft, -⟩ := h
    split at hdraft
    · rw [← Option.some.inj hdraft]
      have hpos : 0 < text.length := List.length_pos_iff.mpr hm
      simp only [Token.draft, String.empty_append, String.length_ofList]
      omega
    · cases hdraft
  | quoted type =>
    cases hw : r.rest with
    | nil =>
      rw [attempt, read_of_rest_nil hw] at h
      cases h
    | cons c w =>
      rw [attempt_quoted hw] at h
      split at h
      · next hc =>
        have hne : c ≠ '\\' := by
          rintro rfl
          cases hc
        cases hclose : closing? c (c :: w) with
        | none =>
          rw [hclose] at h
          cases h
        | some j =>
          simp only [hclose, Prod.mk.injEq] at h
          rw [← Option.some.inj h.1]
          -- The first quote is kept.
          simp [hne]
      · cases h
  | shortest type accepts =>
    rw [attempt, readUntil_eq] at h
    cases hshort : accepted? accepts "" r.rest with
    | none =>
      rw [hshort] at h
      cases h
    | some j =>
      have hbound := List.mem_range.mp (List.mem_of_find?_eq_some hshort)
      simp only [hshort, Prod.mk.injEq] at h
      rw [← Option.some.inj h.1]
      simp only [Token.draft, String.empty_append, String.length_ofList, List.length_take]
      omega
  | validated accepts inner ih => exact ih hm (attempt_of_validated h)

/-- At the end of the text only strategies with `StaysAt` draft a token. -/
theorem staysAt_of_rest_nil (hr : r.rest = []) (h : m.attempt r = (some token, after)) :
    m.StaysAt r := by
  induction m with
  | oneOf type allowed =>
    rw [attempt, read_of_rest_nil hr, Prod.mk.injEq] at h
    obtain ⟨hdraft, -⟩ := h
    split at hdraft
    · next hmem =>
      rw [List.contains_iff_mem] at hmem
      exact ⟨by rw [atEnd_eq_isEmpty, hr]; rfl, hmem⟩
    · cases hdraft
  | runOf type runes =>
    rw [attempt, readWhile_eq, hr] at h
    cases h
  | classRun type classes =>
    rw [attempt, readWhile_eq, hr] at h
    cases h
  | literal type text =>
    rw [attempt, readLiteral_eq, hr] at h
    cases text with
    | nil => rfl
    | cons c text => cases h
  | quoted type =>
    rw [attempt, read_of_rest_nil hr] at h
    cases h
  | shortest type accepts =>
    rw [attempt, readUntil_eq, hr] at h
    cases h
  | validated accepts inner ih => exact ih (attempt_of_validated h)

/-- Wherever `r` stands, the value of a token that `m.attempt` drafts takes the runes that were read
for it, if and only if `m.StaysAt r` does not hold. Where that holds the reader does not move, and
the value is empty or `replacement`. -/
theorem takes_iff_not_staysAt (h : m.attempt r = (some token, after)) :
    (Takes r after token.value ↔ ¬ m.StaysAt r) ∧
      (m.StaysAt r → after = r ∧ (token.value = "" ∨ token.value = replacement.toString)) := by
  refine ⟨⟨fun htakes hm => ?_, fun hm => ?_⟩, fun hm => attempt_of_staysAt hm h⟩
  · obtain ⟨rfl, -⟩ := attempt_of_staysAt hm h
    exact Nat.lt_irrefl _ htakes.offset_lt
  · have hpos := length_value_pos hm h
    obtain ⟨n, hn, rfl, hvalue⟩ := value_of_attempt (fun hr => hm (staysAt_of_rest_nil hr h)) h
    have hle : token.value.length ≤ n := by
      have htext := length_textOf_le m (r.rest.take n)
      rw [List.length_take_of_le hn] at htext
      rw [hvalue, String.length_ofList]
      exact htext
    refine ⟨?_, hpos, ?_⟩ <;> simp only [advance] <;> omega

/-- The value of a `quoted` literal with a backslash is shorter than what was read. -/
theorem takes_iff_not_staysAt_quoted :
    let m := validated (fun _ => true) (quoted ⟨"STRING"⟩)
    let r : Reader := ⟨#['a', '\'', '\\', 'n', '\''], 1, [0]⟩
    let after : Reader := ⟨#['a', '\'', '\\', 'n', '\''], 5, [0]⟩
    m.attempt r = (some ⟨⟨"STRING"⟩, "'n'", 0, 0, 0⟩, after) ∧ ¬ m.StaysAt r ∧
      Takes r after "'n'" := by
  intro m r after
  have h : m.attempt r = (some ⟨⟨"STRING"⟩, "'n'", 0, 0, 0⟩, after) := by decide +kernel
  have hm : ¬ m.StaysAt r := fun hm => hm
  exact ⟨h, hm, (takes_iff_not_staysAt h).1.mpr hm⟩

/-- At the end of the text `replacement` is accepted as if it had been read, and the empty literal
is found without reading. -/
theorem not_takes_at_end :
    let marker := oneOf ⟨"MARK"⟩ [replacement]
    let nothing := literal ⟨"NIL"⟩ []
    marker.attempt (.ofString "") = (some ⟨⟨"MARK"⟩, "\uFFFD", 0, 0, 0⟩, .ofString "") ∧
      ¬ Takes (.ofString "") (.ofString "") "\uFFFD" ∧
      nothing.attempt (.ofString "a") = (some ⟨⟨"NIL"⟩, "", 0, 0, 0⟩, .ofString "a") ∧
      ¬ Takes (.ofString "a") (.ofString "a") "" :=
  ⟨by decide +kernel, fun h => absurd h.offset_lt (by decide), by decide +kernel,
    fun h => absurd h.offset_lt (by decide)⟩

end Matcher

end LexTree
