import LexTree.Proofs.Consumer.Quoted

/-!
# Escaped literals

A text is written as a literal with a backslash before each quote of the literal's own
kind and before each backslash. The strategy for quoted literals leaves out every
backslash, and a quote after a backslash never ends a literal, not even if that backslash
is escaped itself. So a text is read back exactly if it has no backslash.

- `Matcher.enquote` writes a text as a literal.
- `Reader.closing?_escape`: where such a literal ends.
- `Matcher.attempt_quoted_enquote`: all that is read back of it.
-/

namespace LexTree

/-- The runes `s` with a backslash before every backslash and every `q`. -/
def escape (q : Char) (s : List Char) : List Char :=
  s.flatMap fun c => if c = q ∨ c = '\\' then ['\\', c] else [c]

section

variable {q c : Char}

theorem escape_cons_of_escaped (h : c = q ∨ c = '\\') (s : List Char) :
    escape q (c :: s) = '\\' :: c :: escape q s := by
  simp [escape, h]

theorem escape_cons_of_plain (h : ¬ (c = q ∨ c = '\\')) (s : List Char) :
    escape q (c :: s) = c :: escape q s := by
  simp [escape, h]

/-- `escape` puts in backslashes and nothing else. -/
theorem filter_escape (s : List Char) :
    (escape q s).filter (· ≠ '\\') = s.filter (· ≠ '\\') := by
  induction s with
  | nil => rfl
  | cons c s ih =>
    by_cases h : c = q ∨ c = '\\'
    · rw [escape_cons_of_escaped h, List.filter_cons_of_neg (by simp), List.filter_cons,
        List.filter_cons, ih]
    · rw [escape_cons_of_plain h, List.filter_cons, List.filter_cons, ih]

end

namespace Reader

/-- The quote `q` behind `escape q s` ends a literal, and no rune of `escape q s` does, unless `s`
ends with a backslash. Then the literal goes on, as one would that starts with that quote. -/
theorem closing?_escape {q : Char} (hq : q ≠ '\\') (prev : Char) (s rest : List Char) :
    closing? q (prev :: (escape q s ++ q :: rest)) =
      if (prev :: s).getLast? = some '\\' then
        (closing? q (q :: rest)).map (· + ((escape q s).length + 1))
      else some ((escape q s).length + 1) := by
  induction s generalizing prev with
  | nil =>
    rw [show escape q [] = [] from rfl, List.nil_append, closing?_cons_cons]
    by_cases hprev : prev = '\\' <;> simp [hprev]
  | cons c s ih =>
    have hlast : (prev :: c :: s).getLast? = (c :: s).getLast? := rfl
    have hshift (n : Nat) (o : Option Nat) :
        (if (c :: s).getLast? = some '\\' then o.map (· + (n + 1)) else some (n + 1)).map (· + 1) =
          if (c :: s).getLast? = some '\\' then o.map (· + (n + 1 + 1)) else some (n + 1 + 1) := by
      split
      · rw [Option.map_map]
        rfl
      · rfl
    by_cases h : c = q ∨ c = '\\'
    · -- Neither the backslash nor what follows it ends the literal.
      rw [escape_cons_of_escaped h, List.cons_append, List.cons_append, closing?_cons_cons,
        if_neg fun h => hq h.1.symm, closing?_cons_cons, if_neg fun h => h.2 rfl, ih, hshift,
        hshift, hlast]
      rfl
    · rw [escape_cons_of_plain h, List.cons_append, closing?_cons_cons,
        if_neg fun hc => h (.inl hc.1), ih, hshift, hlast]
      rfl

end Reader

namespace Matcher

open Reader

/-- The runes `s` as a literal in quotes `q`. -/
def enquote (q : Char) (s : List Char) : List Char := q :: (escape q s ++ [q])

variable {q : Char} {s rest : List Char} {r : Reader} {type : TokenType}

theorem ne_backslash_of_mem_quotes (hq : q ∈ quotes) : q ≠ '\\' := by
  rintro rfl
  revert hq
  decide

theorem length_enquote : (enquote q s).length = (escape q s).length + 2 := by
  simp [enquote]

/-- Without backslashes the runes of `enquote q s` are those of `s` in quotes. -/
theorem filter_enquote (hq : q ≠ '\\') :
    (enquote q s).filter (· ≠ '\\') = q :: (s.filter (· ≠ '\\') ++ [q]) := by
  have hquote : [q].filter (· ≠ '\\') = [q] := List.filter_cons_of_pos (by simpa using hq)
  rw [enquote, List.filter_cons_of_pos (by simpa using hq), List.filter_append, filter_escape,
    hquote]

/-- `quoted` reads `enquote q s` up to its end if `s` does not end with a backslash. -/
theorem attempt_quoted_of_getLast?_ne (hq : q ∈ quotes) (h : r.rest = enquote q s ++ rest)
    (hlast : s.getLast? ≠ some '\\') :
    (quoted type).attempt r =
      (some ⟨type, String.ofList (q :: (s.filter (· ≠ '\\') ++ [q])), 0, 0, 0⟩,
        r.advance (enquote q s).length) := by
  have hne : q ≠ '\\' := ne_backslash_of_mem_quotes hq
  have hrest : enquote q s ++ rest = q :: (escape q s ++ q :: rest) := by simp [enquote]
  have hlast' : (q :: s).getLast? ≠ some '\\' := by
    cases s with
    | nil => simpa using hne
    | cons c s => exact hlast
  have hclose := closing?_escape hne q s rest
  rw [if_neg hlast'] at hclose
  rw [attempt_quoted (h.trans hrest), if_pos (mem_quotes_iff.mp hq), hclose, ← hrest]
  simp only [show (escape q s).length + 1 + 1 = (enquote q s).length from length_enquote.symm,
    List.take_left, filter_enquote hne]

/-- If `s` ends with a backslash, `quoted` reads on behind `enquote q s`, up to the next `q` that
ends it, or else to the end of the text. -/
theorem attempt_quoted_of_getLast?_eq (hq : q ∈ quotes) (h : r.rest = enquote q s ++ rest)
    (hlast : s.getLast? = some '\\') :
    (quoted type).attempt r =
      match closing? q (q :: rest) with
      | some j =>
        (some ⟨type, String.ofList
          (q :: (s.filter (· ≠ '\\') ++ q :: (rest.take j).filter (· ≠ '\\'))), 0, 0, 0⟩,
          r.advance ((enquote q s).length + j))
      | none => (none, r.advance ((enquote q s).length + rest.length)) := by
  have hne : q ≠ '\\' := ne_backslash_of_mem_quotes hq
  have hrest : enquote q s ++ rest = q :: (escape q s ++ q :: rest) := by simp [enquote]
  have hlast' : (q :: s).getLast? = some '\\' := by
    cases s with
    | nil => cases hlast
    | cons c s => exact hlast
  have hclose := closing?_escape hne q s rest
  rw [if_pos hlast'] at hclose
  rw [attempt_quoted (h.trans hrest), if_pos (mem_quotes_iff.mp hq), hclose, ← hrest]
  cases closing? q (q :: rest) with
  | none =>
    have hlen : (escape q s ++ q :: rest).length + 1 = (enquote q s).length + rest.length := by
      simp [length_enquote]
      omega
    simp only [Option.map_none, hlen]
  | some j =>
    have hlen : j + ((escape q s).length + 1) + 1 = (enquote q s).length + j := by
      rw [length_enquote]
      omega
    simp only [Option.map_some, hlen, List.take_length_add_append, List.filter_append,
      filter_enquote hne, List.cons_append, List.append_assoc, List.nil_append]

/-- `enquote q s` is read back as `s` if and only if `s` has no backslash in it. The value that
`quoted` finds has no backslash in any case. It ends with `enquote q s` if the last rune of `s` is
no backslash; otherwise the quote that ends the literal is taken for a rune of it. -/
theorem attempt_quoted_enquote (type : TokenType) {q : Char} (hq : q ∈ quotes) (s rest : List Char)
    {r : Reader} (h : r.rest = enquote q s ++ rest) :
    let found := (quoted type).attempt r
    (found = (some ⟨type, String.ofList (q :: (s ++ [q])), 0, 0, 0⟩,
        r.advance (enquote q s).length) ↔ '\\' ∉ s) ∧
      (s.getLast? ≠ some '\\' → found =
        (some ⟨type, String.ofList (q :: (s.filter (· ≠ '\\') ++ [q])), 0, 0, 0⟩,
          r.advance (enquote q s).length)) ∧
      (s.getLast? = some '\\' → found =
        match closing? q (q :: rest) with
        | some j =>
          (some ⟨type, String.ofList
            (q :: (s.filter (· ≠ '\\') ++ q :: (rest.take j).filter (· ≠ '\\'))), 0, 0, 0⟩,
            r.advance ((enquote q s).length + j))
        | none => (none, r.advance ((enquote q s).length + rest.length))) := by
  intro found
  have hends : s.getLast? ≠ some '\\' → found = _ := attempt_quoted_of_getLast?_ne hq h
  have hgoes : s.getLast? = some '\\' → found = _ := attempt_quoted_of_getLast?_eq hq h
  refine ⟨⟨fun hback => ?_, fun hmem => ?_⟩, hends, hgoes⟩
  · by_cases hlast : s.getLast? = some '\\'
    · -- The reader would have to stand at the end of the literal, and is behind it or has failed.
      rw [hgoes hlast] at hback
      cases hclose : closing? q (q :: rest) with
      | none =>
        rw [hclose] at hback
        cases hback
      | some j =>
        have hpos := (closing?_bounds hclose).1
        simp only [hclose, Prod.mk.injEq, advance, Reader.mk.injEq] at hback
        omega
    · rw [hends hlast, Prod.mk.injEq, Option.some.injEq] at hback
      have hvalue := String.ofList_inj.mp (congrArg Token.value hback.1)
      have hrunes : s.filter (· ≠ '\\') = s := List.append_cancel_right (List.cons.inj hvalue).2
      intro hmem
      have hno := List.filter_eq_self.mp hrunes _ hmem
      simp at hno
  · have hlast : s.getLast? ≠ some '\\' := fun hlast => hmem (List.mem_of_getLast? hlast)
    have hrunes : s.filter (· ≠ '\\') = s := by
      refine List.filter_eq_self.mpr fun c hc => ?_
      rw [decide_eq_true_eq]
      rintro rfl
      exact hmem hc
    rw [hends hlast, hrunes]

/-- A backslash and a quote come back as the quote alone. -/
theorem attempt_quoted_enquote_pair :
    let r : Reader := ⟨(enquote '"' ['\\', '"'] ++ ['b']).toArray, 0, [0]⟩
    let found := (quoted ⟨"STRING"⟩).attempt r
    '"' ∈ quotes ∧ r.rest = enquote '"' ['\\', '"'] ++ ['b'] ∧
      found = (some ⟨⟨"STRING"⟩, "\"\"\"", 0, 0, 0⟩, r.advance 6) ∧
      found ≠ (some ⟨⟨"STRING"⟩, "\"\\\"\"", 0, 0, 0⟩, r.advance 6) := by
  intro r found
  have h := attempt_quoted_enquote ⟨"STRING"⟩ (q := '"') (by decide) ['\\', '"'] ['b'] (r := r) rfl
  exact ⟨by decide, rfl, h.2.1 (by decide), fun hback => absurd (h.1.mp hback) (by decide)⟩

/-- A backslash as a literal of its own is not read back: no literal is found at all. -/
theorem attempt_quoted_enquote_backslash :
    let r : Reader := ⟨(enquote '"' ['\\']).toArray, 0, []⟩
    (quoted ⟨"STRING"⟩).attempt r ≠
      (some ⟨⟨"STRING"⟩, String.ofList ('"' :: (['\\'] ++ ['"'])), 0, 0, 0⟩,
        r.advance (enquote '"' ['\\']).length) := by
  decide +kernel

end Matcher

end LexTree
