import LexTree.Pattern.Regex
import Mathlib.Logic.Function.Iterate

/-!
# Matching by sets of places

The computation with sets of places finds exactly the stretches that a regular
expression matches.

- `Matches.bounds`: a match leads forward, and stays in the text.
- `MatchesTimes.of_lt`: among more matches in a row than there are places some
  take nothing, so one more or one less makes no difference.
- `testBit_spread`: the places that can be reached in so many moves.
- `movesBy_after`: the places to which matches lead, and `occursIn_iff`: whether
  there is a match at all.
-/

namespace LexTree.Pattern

variable {text : Array Char} {r : Regex}

/-! ## Matches in a row -/

theorem matchesTimes_zero_iff {i j : Nat} : MatchesTimes text r 0 i j ↔ i = j := by
  constructor
  · rintro ⟨⟩; rfl
  · rintro rfl; exact .zero

theorem matchesTimes_succ_iff {n i j : Nat} :
    MatchesTimes text r (n + 1) i j ↔ ∃ k, Matches text r i k ∧ MatchesTimes text r n k j := by
  constructor
  · rintro (_ | ⟨h, h'⟩)
    exact ⟨_, h, h'⟩
  · rintro ⟨k, h, h'⟩
    exact .succ h h'

theorem matchesTimes_add_iff {m n i j : Nat} :
    MatchesTimes text r (m + n) i j ↔
      ∃ k, MatchesTimes text r m i k ∧ MatchesTimes text r n k j := by
  induction m generalizing i with
  | zero => simp [matchesTimes_zero_iff]
  | succ m ih =>
    rw [Nat.add_right_comm, matchesTimes_succ_iff]
    simp only [ih, matchesTimes_succ_iff]
    constructor
    · rintro ⟨k, h, l, h₁, h₂⟩
      exact ⟨l, ⟨k, h, h₁⟩, h₂⟩
    · rintro ⟨l, ⟨k, h, h₁⟩, h₂⟩
      exact ⟨k, h, l, h₁, h₂⟩

/-- Matches in a row do not leave the set `S` if single ones do not. -/
theorem MatchesTimes.of_closed {S : Nat → Prop} (hS : ∀ i j, S i → Matches text r i j → S j)
    {n i j : Nat} (h : MatchesTimes text r n i j) (hi : S i) : S j := by
  induction n generalizing i with
  | zero => rwa [← matchesTimes_zero_iff.mp h]
  | succ n ih =>
    obtain ⟨k, h₁, h₂⟩ := matchesTimes_succ_iff.mp h
    exact ih h₂ (hS i k hi h₁)

/-- `n` matches in a row lead forward, and stay in the text, if single ones do. -/
theorem MatchesTimes.bounds_of
    (hr : ∀ i j, i ≤ text.size → Matches text r i j → i ≤ j ∧ j ≤ text.size) {n i j : Nat}
    (hi : i ≤ text.size) (h : MatchesTimes text r n i j) : i ≤ j ∧ j ≤ text.size := by
  refine h.of_closed (S := fun k => i ≤ k ∧ k ≤ text.size) (fun k l hk hm => ?_)
    ⟨Nat.le_refl _, hi⟩
  obtain ⟨hkl, hl⟩ := hr k l hk.2 hm
  exact ⟨Nat.le_trans hk.1 hkl, hl⟩

/-- A match of `r` leads forward, and stays in the text. -/
theorem Matches.bounds {i j : Nat} (hi : i ≤ text.size) (h : Matches text r i j) :
    i ≤ j ∧ j ≤ text.size := by
  induction r generalizing i j with
  | empty => cases h; exact ⟨Nat.le_refl _, hi⟩
  | rune accepts =>
    cases h with
    | rune hc _ =>
      have := (Array.getElem?_eq_some_iff.mp hc).1
      omega
  | look holds => cases h; exact ⟨Nat.le_refl _, hi⟩
  | seq r s ihr ihs =>
    cases h with
    | seq h₁ h₂ =>
      obtain ⟨hij, hj⟩ := ihr hi h₁
      obtain ⟨hjk, hk⟩ := ihs hj h₂
      exact ⟨Nat.le_trans hij hjk, hk⟩
  | alt r s ihr ihs =>
    cases h with
    | left h => exact ihr hi h
    | right h => exact ihs hi h
  | times r least most ih =>
    cases h with
    | times _ _ h => exact h.bounds_of (fun _ _ => ih) hi

theorem MatchesTimes.bounds {n i j : Nat} (hi : i ≤ text.size) (h : MatchesTimes text r n i j) :
    i ≤ j ∧ j ≤ text.size :=
  h.bounds_of (fun _ _ => Matches.bounds) hi

/-- Of more matches in a row than places that they get on, one takes nothing. -/
theorem MatchesTimes.exists_still {n i j : Nat} (hi : i ≤ text.size)
    (h : MatchesTimes text r n i j) (hn : j - i < n) :
    ∃ m k l, n = m + 1 + l ∧ MatchesTimes text r m i k ∧ Matches text r k k ∧
      MatchesTimes text r l k j := by
  induction n generalizing i with
  | zero => exact absurd hn (Nat.not_lt_zero _)
  | succ n ih =>
    obtain ⟨k, h₁, h₂⟩ := matchesTimes_succ_iff.mp h
    obtain ⟨hik, hk⟩ := h₁.bounds hi
    obtain ⟨hkj, -⟩ := h₂.bounds hk
    by_cases heq : i = k
    · subst heq
      exact ⟨0, i, n, by omega, .zero, h₁, h₂⟩
    · obtain ⟨m, k', l, rfl, g₁, g₂, g₃⟩ := ih hk h₂ (by omega)
      exact ⟨m + 1, k', l, by omega, .succ h₁ g₁, g₂, g₃⟩

/-- A match that takes nothing can be made once more. -/
theorem MatchesTimes.one_more {n i j : Nat} (hi : i ≤ text.size) (h : MatchesTimes text r n i j)
    (hn : j - i < n) : MatchesTimes text r (n + 1) i j := by
  obtain ⟨m, k, l, rfl, h₁, h₂, h₃⟩ := h.exists_still hi hn
  rw [show m + 1 + l + 1 = m + (l + 2) by omega]
  exact matchesTimes_add_iff.mpr ⟨k, h₁, .succ h₂ (.succ h₂ h₃)⟩

/-- A match that takes nothing can be left out. -/
theorem MatchesTimes.one_less {n i j : Nat} (hi : i ≤ text.size)
    (h : MatchesTimes text r (n + 1) i j) (hn : j - i < n + 1) : MatchesTimes text r n i j := by
  obtain ⟨m, k, l, heq, h₁, -, h₃⟩ := h.exists_still hi hn
  rw [show n = m + l by omega]
  exact matchesTimes_add_iff.mpr ⟨k, h₁, h₃⟩

/-- With more matches in a row than there are places to get on, their number does not matter. -/
theorem MatchesTimes.of_lt {m n i j : Nat} (hi : i ≤ text.size) (h : MatchesTimes text r m i j)
    (hm : j - i < m) (hn : j - i < n) : MatchesTimes text r n i j := by
  rcases Nat.le_total m n with hle | hle
  · obtain ⟨d, rfl⟩ := Nat.exists_eq_add_of_le hle
    clear hle hn
    induction d with
    | zero => exact h
    | succ d ih => exact ih.one_more hi (Nat.lt_of_lt_of_le hm (Nat.le_add_right m d))
  · obtain ⟨d, rfl⟩ := Nat.exists_eq_add_of_le hle
    clear hle hm
    induction d with
    | zero => exact h
    | succ d ih =>
      rw [← Nat.add_assoc] at h
      exact ih (h.one_less hi (by omega))

/-! ## Sets of places as numbers -/

theorem testBit_placesWhere (holds : Nat → Bool) (size j : Nat) :
    (placesWhere holds size).testBit j = (decide (j < size) && holds j) := by
  induction size with
  | zero => simp [placesWhere]
  | succ size ih =>
    have hlt : j < size + 1 ↔ j < size ∨ j = size := Nat.lt_succ_iff_lt_or_eq
    rw [placesWhere]
    split
    · next h =>
      rw [Nat.testBit_or, ih, Nat.one_shiftLeft, Nat.testBit_two_pow]
      by_cases hj : j = size
      · subst hj; simp [h]
      · simp [hlt, hj, Ne.symm hj]
    · next h =>
      rw [ih]
      by_cases hj : j = size
      · subst hj; simp [h]
      · simp [hlt, hj]

theorem testBit_without (places others j : Nat) :
    (without places others).testBit j = (places.testBit j && !others.testBit j) := by
  rw [without, Nat.testBit_xor, Nat.testBit_and]
  cases places.testBit j <;> cases others.testBit j <;> rfl

theorem eq_zero_iff_forall_testBit {places : Nat} :
    places = 0 ↔ ∀ j, ¬ places.testBit j = true := by
  constructor
  · rintro rfl j; simp
  · intro h
    by_contra hne
    obtain ⟨j, hj⟩ := Nat.exists_testBit_of_ne_zero hne
    exact h j hj

/-- All of `places`, a set by its bits, are in the text, or at its end. -/
def InText (text : Array Char) (places : Nat) : Prop :=
  ∀ i, places.testBit i = true → i ≤ text.size

/-- The function `move` on sets leads from places in the text to where `r` matches. -/
def MovesBy (text : Array Char) (r : Regex) (move : Nat → Nat) : Prop :=
  ∀ places, InText text places → ∀ j,
    (move places).testBit j = true ↔ ∃ i, places.testBit i = true ∧ Matches text r i j

namespace MovesBy

variable {move : Nat → Nat}

theorem inText (h : MovesBy text r move) {places : Nat} (hp : InText text places) :
    InText text (move places) := by
  intro j hj
  obtain ⟨i, hi, hm⟩ := (h places hp j).mp hj
  exact (hm.bounds (hp i hi)).2

/-- `iterate` stops where nothing changes, which makes no difference. -/
theorem iterate_eq (move : Nat → Nat) (count places : Nat) :
    iterate move count places = move^[count] places := by
  induction count generalizing places with
  | zero => rfl
  | succ count ih =>
    simp only [iterate]
    split
    · next h => exact (Function.iterate_fixed h _).symm
    · rw [ih]; rfl

/-- `iterate` leads where `count` matches in a row lead. -/
theorem testBit_iterate (h : MovesBy text r move) (count : Nat) {places : Nat}
    (hp : InText text places) (j : Nat) :
    (iterate move count places).testBit j = true ↔
      ∃ i, places.testBit i = true ∧ MatchesTimes text r count i j := by
  rw [iterate_eq]
  induction count generalizing places with
  | zero => simp [matchesTimes_zero_iff]
  | succ count ih =>
    rw [Function.iterate_succ_apply, ih (h.inText hp)]
    simp only [h places hp, matchesTimes_succ_iff]
    constructor
    · rintro ⟨k, ⟨i, hi, h₁⟩, h₂⟩
      exact ⟨i, hi, k, h₁, h₂⟩
    · rintro ⟨i, hi, k, h₁, h₂⟩
      exact ⟨k, ⟨i, hi, h₁⟩, h₂⟩

/-- A match from a place of `reached` leads there again or to a fresh place, as long as `move` has
been made from all but the `frontier`. -/
theorem reached_or_fresh (h : MovesBy text r move) {reached frontier : Nat}
    (hf : InText text frontier)
    (hdone : ∀ i j, reached.testBit i = true → ¬ frontier.testBit i = true →
      Matches text r i j → reached.testBit j = true) {i k : Nat} (hi : reached.testBit i = true)
    (hm : Matches text r i k) :
    reached.testBit k = true ∨ (without (move frontier) reached).testBit k = true := by
  by_cases hk : reached.testBit k = true
  · exact .inl hk
  · right
    have hif : frontier.testBit i = true := by
      by_contra hif
      exact hk (hdone i k hi hif hm)
    rw [testBit_without, (h frontier hf k).mpr ⟨i, hif, hm⟩]
    simp [hk]

/-- `spread` adds the places within `count` matches of those reached. -/
theorem testBit_spread (h : MovesBy text r move) (count : Nat) {reached frontier : Nat}
    (hr : InText text reached) (hsub : ∀ i, frontier.testBit i = true → reached.testBit i = true)
    (hdone : ∀ i j, reached.testBit i = true → ¬ frontier.testBit i = true →
      Matches text r i j → reached.testBit j = true) (j : Nat) :
    (spread move count reached frontier).testBit j = true ↔
      ∃ i n, reached.testBit i = true ∧ n ≤ count ∧ MatchesTimes text r n i j := by
  induction count generalizing reached frontier with
  | zero => simp [spread, matchesTimes_zero_iff]
  | succ count ih =>
    have hf : InText text frontier := fun i hi => hr i (hsub i hi)
    simp only [spread]
    split
    · next hfresh =>
      -- Nothing is fresh: no number of matches leads anywhere else.
      have hclosed : ∀ i k, reached.testBit i = true → Matches text r i k →
          reached.testBit k = true := fun i k hi hm =>
        (h.reached_or_fresh hf hdone hi hm).resolve_right
          (eq_zero_iff_forall_testBit.mp hfresh k)
      constructor
      · intro hj
        exact ⟨j, 0, hj, Nat.zero_le _, .zero⟩
      · rintro ⟨i, n, hi, -, hm⟩
        exact hm.of_closed hclosed hi
    · have hr' : InText text (reached ||| without (move frontier) reached) := by
        intro i hi
        rw [Nat.testBit_or, Bool.or_eq_true] at hi
        rcases hi with hi | hi
        · exact hr i hi
        · rw [testBit_without, Bool.and_eq_true] at hi
          exact h.inText hf i hi.1
      rw [ih hr' (fun i hi => by rw [Nat.testBit_or, hi, Bool.or_true]) ?_]
      · simp only [Nat.testBit_or, Bool.or_eq_true]
        constructor
        · rintro ⟨i, n, hi | hi, hn, hm⟩
          · exact ⟨i, n, hi, Nat.le_succ_of_le hn, hm⟩
          · rw [testBit_without, Bool.and_eq_true] at hi
            obtain ⟨k, hk, hki⟩ := (h frontier hf i).mp hi.1
            exact ⟨k, n + 1, hsub k hk, Nat.succ_le_succ hn, .succ hki hm⟩
        · rintro ⟨i, n, hi, hn, hm⟩
          cases n with
          | zero => exact ⟨i, 0, .inl hi, Nat.zero_le _, hm⟩
          | succ n =>
            obtain ⟨k, h₁, h₂⟩ := matchesTimes_succ_iff.mp hm
            exact ⟨k, n, h.reached_or_fresh hf hdone hi h₁, Nat.le_of_succ_le_succ hn, h₂⟩
      · intro i k hi hif hm
        rw [Nat.testBit_or, Bool.or_eq_true] at hi ⊢
        exact h.reached_or_fresh hf hdone (hi.resolve_right hif) hm

end MovesBy

/-! ## The computation -/

/-- No `most` of a repetition is below its `least`. -/
def Regex.Bounded : Regex → Prop
  | .empty | .rune _ | .look _ => True
  | .seq r s | .alt r s => r.Bounded ∧ s.Bounded
  | .times r least most => r.Bounded ∧ ∀ m, most = some m → least ≤ m

/-- As many matches in a row as `Motion.after` makes for `Motion.times`, and as many more as it
tries, are enough for any count. -/
theorem exists_matchesTimes_iff {least : Nat} {most : Option Nat} {i j : Nat}
    (hi : i ≤ text.size) : (∀ m, most = some m → least ≤ m) →
    ((∃ n, n ≤ (match most with
          | none => text.size + 1
          | some m => min (m - least) (text.size + 1)) ∧
        MatchesTimes text r (min least (text.size + 1) + n) i j) ↔
      Matches text (.times r least most) i j) := by
  intro hm
  constructor
  · rintro ⟨n, hn, h⟩
    have hj := (h.bounds hi).2
    by_cases hleast : least ≤ text.size + 1
    · rw [Nat.min_eq_left hleast] at h
      refine .times (Nat.le_add_right _ n) (fun m hmost => ?_) h
      subst hmost
      have := hm m rfl
      simp only at hn
      omega
    · exact .times (Nat.le_refl _) hm (h.of_lt hi (by omega) (by omega))
  · intro h
    cases h with
    | @times _ _ _ count _ _ hleast hmost h =>
      have hj := (h.bounds hi).2
      by_cases hbig : text.size + 1 < count
      · -- Such a count is as good as the greatest one that is tried.
        cases most with
        | none => exact ⟨text.size + 1, Nat.le_refl _, h.of_lt hi (by omega) (by omega)⟩
        | some m =>
          have := hmost m rfl
          refine ⟨min (m - least) (text.size + 1), Nat.le_refl _, h.of_lt hi (by omega) ?_⟩
          omega
      · refine ⟨count - least, ?_, ?_⟩
        · cases most with
          | none => simp only; omega
          | some m =>
            have := hmost m rfl
            simp only
            omega
        · rwa [show min least (text.size + 1) + (count - least) = count by omega]

namespace MovesBy

/-- As no places lead nowhere, it is enough to look at sets of some places. -/
theorem of_ne_zero {move : Nat → Nat} (hzero : move 0 = 0)
    (h : ∀ places, places ≠ 0 → InText text places → ∀ j,
      (move places).testBit j = true ↔ ∃ i, places.testBit i = true ∧ Matches text r i j) :
    MovesBy text r move := by
  intro places hp j
  by_cases hne : places = 0
  · subst hne
    rw [hzero]
    simp
  · exact h places hne hp j

theorem after_zero (size : Nat) (m : Motion) : m.after size 0 = 0 := by
  cases m <;> simp [Motion.after]

theorem stay : MovesBy text .empty (Motion.stay.after text.size) := by
  refine of_ne_zero (after_zero _ _) fun places hne hp j => ?_
  rw [Motion.after, if_neg hne]
  constructor
  · exact fun hj => ⟨j, hj, .empty⟩
  · rintro ⟨i, hi, ⟨⟩⟩
    exact hi

theorem step (accepts : Char → Bool) :
    MovesBy text (.rune accepts) (((Regex.rune accepts).on text).after text.size) := by
  refine of_ne_zero (after_zero _ _) fun places hne hp j => ?_
  rw [Regex.on, Motion.after, if_neg hne]
  simp only [Nat.testBit_shiftLeft, Nat.testBit_and, testBit_placesWhere, Bool.and_eq_true,
    decide_eq_true_eq]
  constructor
  · rintro ⟨hj, hi, -, hany⟩
    obtain ⟨c, hc, hacc⟩ := (Option.any_eq_true _ _).mp hany
    have hm : Matches text (.rune accepts) (j - 1) (j - 1 + 1) := .rune hc hacc
    rw [Nat.sub_add_cancel hj] at hm
    exact ⟨j - 1, hi, hm⟩
  · rintro ⟨i, hi, hm⟩
    cases hm with
    | rune hc hacc =>
      have hlt := (Array.getElem?_eq_some_iff.mp hc).1
      rw [Nat.add_sub_cancel]
      exact ⟨Nat.le_add_left 1 i, hi, hlt, by rw [hc]; exact hacc⟩

theorem keep (holds : Option Char → Option Char → Bool) :
    MovesBy text (.look holds) (((Regex.look holds).on text).after text.size) := by
  refine of_ne_zero (after_zero _ _) fun places hne hp j => ?_
  rw [Regex.on, Motion.after, if_neg hne]
  simp only [Nat.testBit_and, testBit_placesWhere, Bool.and_eq_true, decide_eq_true_eq]
  constructor
  · rintro ⟨hj, -, hholds⟩
    exact ⟨j, hj, .look hholds⟩
  · rintro ⟨i, hi, hm⟩
    cases hm with
    | look hholds => exact ⟨hi, Nat.lt_succ_of_le (hp _ hi), hholds⟩

variable {s : Regex} {a b : Motion}

theorem seq (hr : MovesBy text r (a.after text.size)) (hs : MovesBy text s (b.after text.size)) :
    MovesBy text (.seq r s) ((a.seq b).after text.size) := by
  refine of_ne_zero (after_zero _ _) fun places hne hp j => ?_
  rw [Motion.after, if_neg hne, hs _ (hr.inText hp)]
  simp only [hr places hp]
  constructor
  · rintro ⟨k, ⟨i, hi, h₁⟩, h₂⟩
    exact ⟨i, hi, .seq h₁ h₂⟩
  · rintro ⟨i, hi, hm⟩
    cases hm with
    | @seq _ _ _ k _ h₁ h₂ => exact ⟨k, ⟨i, hi, h₁⟩, h₂⟩

theorem alt (hr : MovesBy text r (a.after text.size)) (hs : MovesBy text s (b.after text.size)) :
    MovesBy text (.alt r s) ((a.alt b).after text.size) := by
  refine of_ne_zero (after_zero _ _) fun places hne hp j => ?_
  rw [Motion.after, if_neg hne, Nat.testBit_or, Bool.or_eq_true, hr places hp, hs places hp]
  constructor
  · rintro (⟨i, hi, hm⟩ | ⟨i, hi, hm⟩)
    · exact ⟨i, hi, .left hm⟩
    · exact ⟨i, hi, .right hm⟩
  · rintro ⟨i, hi, hm⟩
    cases hm with
    | left hm => exact .inl ⟨i, hi, hm⟩
    | right hm => exact .inr ⟨i, hi, hm⟩

/-- `least` moves are made first, and then as many more as may be. -/
theorem times {least : Nat} {most : Option Nat} (hr : MovesBy text r (a.after text.size))
    (hm : ∀ m, most = some m → least ≤ m) :
    MovesBy text (.times r least most) ((a.times least most).after text.size) := by
  refine of_ne_zero (after_zero _ _) fun places hne hp j => ?_
  have hstart : InText text (iterate (a.after text.size) (min least (text.size + 1)) places) := by
    intro k hk
    obtain ⟨i, hi, hik⟩ := (hr.testBit_iterate _ hp k).mp hk
    exact (hik.bounds (hp i hi)).2
  rw [Motion.after.eq_def, if_neg hne]
  simp only
  rw [hr.testBit_spread _ hstart (fun _ h => h) (fun _ _ h h' => absurd h h')]
  simp only [hr.testBit_iterate _ hp]
  constructor
  · rintro ⟨k, n, ⟨i, hi, h₁⟩, hn, h₂⟩
    exact ⟨i, hi, (exists_matchesTimes_iff (hp i hi) hm).mp
      ⟨n, hn, matchesTimes_add_iff.mpr ⟨k, h₁, h₂⟩⟩⟩
  · rintro ⟨i, hi, hij⟩
    obtain ⟨n, hn, h⟩ := (exists_matchesTimes_iff (hp i hi) hm).mpr hij
    obtain ⟨k, h₁, h₂⟩ := matchesTimes_add_iff.mp h
    exact ⟨k, n, ⟨i, hi, h₁⟩, hn, h₂⟩

end MovesBy

/-- `Motion.after` leads from places in the text to where `r` matches. -/
theorem movesBy_after (hr : r.Bounded) : MovesBy text r ((r.on text).after text.size) := by
  induction r with
  | empty => exact .stay
  | rune accepts => exact .step accepts
  | look holds => exact .keep holds
  | seq r s ihr ihs => exact (ihr hr.1).seq (ihs hr.2)
  | alt r s ihr ihs => exact (ihr hr.1).alt (ihs hr.2)
  | times r least most ih => exact (ih hr.1).times hr.2

/-- `occursIn` holds if and only if there is a match in the text. -/
theorem occursIn_iff (hr : r.Bounded) :
    r.occursIn text = true ↔ ∃ i j, i ≤ text.size ∧ Matches text r i j := by
  have hall : ∀ i, (2 ^ (text.size + 1) - 1).testBit i = true ↔ i ≤ text.size := by
    intro i
    rw [Nat.testBit_two_pow_sub_one, decide_eq_true_eq, Nat.lt_succ_iff]
  have hmoves := movesBy_after hr (2 ^ (text.size + 1) - 1) (fun i hi => (hall i).mp hi)
  rw [Regex.occursIn, bne_iff_ne, Ne, eq_zero_iff_forall_testBit, Classical.not_forall_not]
  constructor
  · rintro ⟨j, hj⟩
    obtain ⟨i, hi, hm⟩ := (hmoves j).mp hj
    exact ⟨i, j, (hall i).mp hi, hm⟩
  · rintro ⟨i, j, hi, hm⟩
    exact ⟨j, (hmoves j).mpr ⟨i, (hall i).mpr hi, hm⟩⟩

end LexTree.Pattern
