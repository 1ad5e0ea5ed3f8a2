import LexTree.Consumer

/-!
# What is left to read

The runes from a reader's offset to the end of the text say all that its reading
calls answer, and the loops over a reader are functions of them.

- `Reader.rest` are these runes, and `Reader.advance` steps over some of them.
- `readWhile_eq`: a run takes the longest prefix of accepted runes.
- `readLiteral_eq`: a literal is read as far as the text agrees with it.
- `readUntil_eq`: `accepted?` is the number of runes in the shortest accepted text.
- `closing?` finds the end of a quoted literal, and `readQuoted_eq` says that
  the literal is read up to there, or to the end of the text if there is none.
-/

namespace LexTree.Reader

/-- The runes from the offset of `r` to the end of the text. -/
def rest (r : Reader) : List Char := r.runes.toList.drop r.offset

/-- The reader `n` places on. -/
def advance (r : Reader) (n : Nat) : Reader := { r with offset := r.offset + n }

theorem advance_zero (r : Reader) : r.advance 0 = r := rfl

theorem advance_advance (r : Reader) (m n : Nat) : (r.advance m).advance n = r.advance (m + n) := by
  simp only [advance, Nat.add_assoc]

theorem rest_advance (r : Reader) (n : Nat) : (r.advance n).rest = r.rest.drop n := by
  simp only [rest, advance, List.drop_drop]

theorem length_rest (r : Reader) : r.rest.length = r.size - r.offset := by
  simp [rest, size]

theorem advance_length_rest (r : Reader) :
    r.advance r.rest.length = { r with offset := max r.offset r.size } := by
  have hend : r.offset + r.rest.length = max r.offset r.size := by
    rw [length_rest]
    omega
  rw [advance, hend]

theorem getElem?_of_rest {r : Reader} {c : Char} {w : List Char} (h : r.rest = c :: w) :
    r.runes[r.offset]? = some c := by
  have : r.rest[0]? = some c := by rw [h]; rfl
  simpa [rest] using this

theorem atEnd_eq_isEmpty (r : Reader) : r.atEnd = r.rest.isEmpty := by
  rw [Bool.eq_iff_iff, List.isEmpty_iff_length_eq_zero, length_rest]
  simp only [atEnd, decide_eq_true_eq]
  omega

theorem peek_of_rest {r : Reader} {c : Char} {w : List Char} (h : r.rest = c :: w) :
    r.peek = c := by
  rw [peek, getElem?_of_rest h]; rfl

theorem read_of_rest {r : Reader} {c : Char} {w : List Char} (h : r.rest = c :: w) :
    r.read = (c, r.advance 1) := by
  rw [read, getElem?_of_rest h]; rfl

theorem read_of_rest_nil {r : Reader} (h : r.rest = []) : r.read = (replacement, r) := by
  have hsize : r.runes.toList.length ≤ r.offset := List.drop_eq_nil_iff.mp h
  rw [read, Array.getElem?_eq_none (by rwa [Array.length_toList] at hsize)]

theorem rest_advance_one {r : Reader} {c : Char} {w : List Char} (h : r.rest = c :: w) :
    (r.advance 1).rest = w := by
  rw [rest_advance, h]; rfl

/-- `read` leaves the reader a place on, or where it is. -/
theorem exists_advance_read (r : Reader) : ∃ n, r.read.2 = r.advance n := by
  unfold read
  cases r.runes[r.offset]? with
  | none => exact ⟨0, rfl⟩
  | some c => exact ⟨1, rfl⟩

/-! ## Runs -/

theorem push_append_ofList (value : String) (c : Char) (w : List Char) :
    value.push c ++ String.ofList w = value ++ String.ofList (c :: w) := by
  apply String.ext
  simp

theorem append_ofList_singleton (value : String) (c : Char) :
    value ++ String.ofList [c] = value.push c := by
  rw [← push_append_ofList, String.ofList_nil, String.append_empty]

/-- `readWhile` takes the longest prefix of accepted runes and stops right after it. -/
theorem readWhile_eq (accepts : Char → Bool) (value : String) (r : Reader) :
    r.readWhile accepts value =
      (value ++ String.ofList (r.rest.takeWhile accepts),
        r.advance (r.rest.takeWhile accepts).length) := by
  generalize hw : r.rest = w
  induction w generalizing r value with
  | nil =>
    rw [readWhile, atEnd_eq_isEmpty, hw]
    simp [advance_zero]
  | cons c w ih =>
    rw [readWhile, atEnd_eq_isEmpty, hw, peek_of_rest hw, read_of_rest hw]
    by_cases hc : accepts c = true
    · rw [ih _ _ (rest_advance_one hw), push_append_ofList, advance_advance]
      simp [hc, Nat.add_comm]
    · simp [hc, advance_zero]

/-! ## Literals -/

/-- The number of runes at their starts in which two texts agree. -/
def agreement : List Char → List Char → Nat
  | c :: x, d :: w => if c = d then agreement x w + 1 else 0
  | _, _ => 0

theorem agreement_of_isPrefixOf {x w : List Char} (h : x.isPrefixOf w = true) :
    agreement x w = x.length := by
  induction x generalizing w with
  | nil => rfl
  | cons c x ih =>
    cases w with
    | nil => cases h
    | cons d w =>
      rw [List.isPrefixOf_cons_cons, Bool.and_eq_true, beq_iff_eq] at h
      rw [agreement, if_pos h.1, ih h.2, List.length_cons]

/-- `readLiteral` reads as far as the text agrees with `x`, and finds `x` if that is all of it. -/
theorem readLiteral_eq (x : List Char) (value : String) (r : Reader) :
    r.readLiteral x value =
      (if x.isPrefixOf r.rest then some (value ++ String.ofList x) else none,
        r.advance (agreement x r.rest)) := by
  induction x generalizing r value with
  | nil => simp [readLiteral, agreement, advance_zero]
  | cons c x ih =>
    rw [readLiteral, atEnd_eq_isEmpty]
    cases hw : r.rest with
    | nil => rfl
    | cons d w =>
      rw [peek_of_rest hw, read_of_rest hw, List.isPrefixOf_cons_cons, agreement]
      by_cases hc : d = c
      · subst hc
        simp only [List.isEmpty_cons, bne_self_eq_false, Bool.or_false, Bool.false_eq_true,
          if_false, beq_self_eq_true, Bool.true_and, if_true]
        rw [ih, rest_advance_one hw, push_append_ofList, advance_advance, Nat.add_comm 1]
      · simp [hc, Ne.symm hc, advance_zero]

/-! ## Shortest texts -/

/-- One less than the least number of runes of `w` which make an accepted text with `value` before
them. -/
def accepted? (accepts : String → Bool) (value : String) (w : List Char) : Option Nat :=
  (List.range w.length).find? fun j => accepts (value ++ String.ofList (w.take (j + 1)))

theorem accepted?_cons (accepts : String → Bool) (value : String) (c : Char) (w : List Char) :
    accepted? accepts value (c :: w) =
      if accepts (value.push c) then some 0
      else (accepted? accepts (value.push c) w).map (· + 1) := by
  have hfirst : value ++ String.ofList ((c :: w).take (0 + 1)) = value.push c :=
    append_ofList_singleton value c
  rw [accepted?, List.length_cons, List.range_succ_eq_map]
  by_cases hc : accepts (value.push c) = true
  · rw [List.find?_cons_of_pos (by rw [hfirst, hc]), if_pos hc]
  · rw [List.find?_cons_of_neg (by rwa [hfirst]), if_neg hc, List.find?_map, accepted?]
    simp only [Function.comp_def, List.take_succ_cons, push_append_ofList, Nat.succ_eq_add_one]

/-- `readUntil` adds runes to `value` until it is accepted, or to the end of the text if it never
is. -/
theorem readUntil_eq (accepts : String → Bool) (value : String) (r : Reader) :
    r.readUntil accepts value =
      match accepted? accepts value r.rest with
      | some j => (some (value ++ String.ofList (r.rest.take (j + 1))), r.advance (j + 1))
      | none => (none, r.advance r.rest.length) := by
  generalize hw : r.rest = w
  induction w generalizing r value with
  | nil =>
    rw [readUntil, atEnd_eq_isEmpty, hw]
    rfl
  | cons c w ih =>
    rw [readUntil, atEnd_eq_isEmpty, hw, read_of_rest hw, accepted?_cons]
    simp only [List.isEmpty_cons, Bool.false_eq_true, ↓reduceDIte]
    by_cases hc : accepts (value.push c) = true
    · rw [if_pos hc, if_pos hc, ← append_ofList_singleton]
      rfl
    · rw [if_neg hc, if_neg hc, ih _ _ (rest_advance_one hw)]
      cases accepted? accepts (value.push c) w with
      | none => simp [advance_advance, Nat.add_comm]
      | some j =>
        simp only [Option.map_some, List.take_succ_cons, advance_advance, Nat.add_comm 1]
        rw [push_append_ofList]

/-! ## Quoted literals -/

/-- The least place, after the first, at which `w` has the rune `q` not directly after a
backslash. -/
def closing? (q : Char) (w : List Char) : Option Nat :=
  (List.range w.length).find? fun j => 0 < j && w[j]? == some q && w[j - 1]? != some '\\'

/-- `closing?` is behind the first rune of `w`. -/
theorem closing?_bounds {q : Char} {w : List Char} {j : Nat} (h : closing? q w = some j) :
    0 < j ∧ j < w.length := by
  have hpos := List.find?_some h
  rw [Bool.and_eq_true, Bool.and_eq_true, decide_eq_true_eq] at hpos
  exact ⟨hpos.1.1, List.mem_range.mp (List.mem_of_find?_eq_some h)⟩

theorem closing?_singleton (q p : Char) : closing? q [p] = none := rfl

theorem closing?_cons_cons (q p c : Char) (w : List Char) :
    closing? q (p :: c :: w) =
      if c = q ∧ p ≠ '\\' then some 1 else (closing? q (c :: w)).map (· + 1) := by
  have hfirst : closing? q (p :: c :: w) = ((List.range (c :: w).length).find? fun j =>
      (c :: w)[j]? == some q && (p :: c :: w)[j]? != some '\\').map (· + 1) := by
    rw [closing?, List.length_cons, List.range_succ_eq_map, List.find?_cons_of_neg (by simp),
      List.find?_map]
    rfl
  rw [hfirst]
  by_cases h : c = q ∧ p ≠ '\\'
  · rw [List.length_cons, List.range_succ_eq_map, List.find?_cons_of_pos (by simp [h.1, h.2])]
    simp [h]
  · rw [if_neg h, closing?]
    congr 2
    funext j
    cases j with
    | zero => simpa using h
    | succ j => simp

/-- After a rune `prev`, `readQuoted` reads a literal up to `closing?`, and takes up its runes
without the backslashes. Without an end all of the text is read. -/
theorem readQuoted_eq {q : Char} (hq : q ≠ '\\') (prev : Char) (value : String) (r : Reader) :
    r.readQuoted q (prev == '\\') value =
      match closing? q (prev :: r.rest) with
      | some j => (some (value ++ String.ofList ((r.rest.take j).filter (· ≠ '\\'))), r.advance j)
      | none => (none, r.advance r.rest.length) := by
  generalize hw : r.rest = w
  induction w generalizing r value prev with
  | nil =>
    rw [readQuoted, atEnd_eq_isEmpty, hw, closing?_singleton]
    rfl
  | cons c w ih =>
    have hrest := rest_advance_one hw
    rw [readQuoted, atEnd_eq_isEmpty, hw, read_of_rest hw, closing?_cons_cons]
    simp only [List.isEmpty_cons, Bool.false_eq_true, ↓reduceDIte]
    by_cases hc : c = '\\'
    · -- A backslash adds nothing, and only escapes what follows it.
      subst hc
      rw [if_pos rfl, if_neg fun h => hq h.1.symm,
        show true = ('\\' == '\\') from rfl, ih _ _ _ hrest]
      cases closing? q ('\\' :: w) with
      | none => simp [advance_advance, Nat.add_comm]
      | some j => simp [advance_advance, Nat.add_comm]
    · rw [if_neg hc]
      by_cases hend : c = q ∧ prev ≠ '\\'
      · obtain ⟨rfl, hp⟩ := hend
        rw [if_pos (by simp [hp]), if_pos ⟨rfl, hp⟩]
        simp only [append_ofList_singleton, List.take_succ_cons, List.take_zero, ne_eq, hc,
          not_false_eq_true, decide_true, List.filter_cons_of_pos, List.filter_nil]
      · rw [if_neg hend, if_neg (by simpa [and_comm] using hend),
          show false = (c == '\\') from (beq_eq_false_iff_ne.mpr hc).symm, ih _ _ _ hrest]
        cases closing? q (c :: w) with
        | none => simp [advance_advance, Nat.add_comm]
        | some j =>
          simp only [Option.map_some, List.take_succ_cons, advance_advance, Nat.add_comm 1]
          rw [push_append_ofList, List.filter_cons_of_pos (by simpa using hc)]

end LexTree.Reader
