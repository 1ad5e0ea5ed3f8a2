import LexTree.Pattern.Matching
import LexTree.Proofs.Pattern.Places

/-!
# The words of a regular expression

An expression without conditions on its surroundings matches the stretches that
spell certain words, wherever in a text they are.

- `Spells` says what stands between two places, and `Denotes` which words an
  expression matches.
- `Denotes.rune`, `Denotes.seq`, `Denotes.alt` and `Denotes.times` put them
  together as the expression is put together.
- `matches_anchored_iff`: between the ends of the text, an expression matches
  somewhere exactly if it matches the whole text, and `occursIn_anchored`: if the
  whole text is one of its words.
-/

namespace LexTree.Pattern

variable {text : Array Char} {r s : Regex} {p q : List Char → Prop}

/-! ## Stretches and words -/

/-- The runes from `i` to `j` are those of `w`. -/
def Spells (text : Array Char) (i : Nat) (w : List Char) (j : Nat) : Prop :=
  w <+: text.toList.drop i ∧ j = i + w.length

theorem spells_nil_iff {i j : Nat} : Spells text i [] j ↔ i = j := by
  simp [Spells, eq_comm]

theorem spells_singleton_iff {c : Char} {i j : Nat} :
    Spells text i [c] j ↔ text[i]? = some c ∧ j = i + 1 := by
  have hhead : [c] <+: text.toList.drop i ↔ text[i]? = some c := by
    rw [List.singleton_prefix_iff_head?_eq_some, List.head?_drop, Array.getElem?_toList]
  rw [Spells, hhead, List.length_singleton]

theorem spells_append_iff {u v : List Char} {i k : Nat} :
    Spells text i (u ++ v) k ↔ ∃ j, Spells text i u j ∧ Spells text j v k := by
  constructor
  · rintro ⟨⟨w, hw⟩, hk⟩
    refine ⟨i + u.length, ⟨⟨v ++ w, ?_⟩, rfl⟩, ⟨w, ?_⟩, ?_⟩
    · rw [← hw, List.append_assoc]
    · rw [← List.drop_drop, ← hw, List.append_assoc, List.drop_left]
    · rw [hk, List.length_append, Nat.add_assoc]
  · rintro ⟨j, ⟨⟨w, hw⟩, rfl⟩, ⟨w', hw'⟩, hk⟩
    refine ⟨⟨w', ?_⟩, ?_⟩
    · rw [← List.drop_drop, ← hw, List.drop_left] at hw'
      rw [← hw, List.append_assoc, hw']
    · rw [hk, List.length_append, Nat.add_assoc]

theorem Spells.le_size {w : List Char} {i j : Nat} (h : Spells text i w j) (hi : i ≤ text.size) :
    j ≤ text.size := by
  obtain ⟨hw, rfl⟩ := h
  have hsize : text.toList.length = text.size := Array.length_toList
  have hlen := hw.length_le
  rw [List.length_drop, hsize] at hlen
  omega

/-- From start to end a text spells itself. -/
theorem spells_size_iff {w : List Char} : Spells text 0 w text.size ↔ w = text.toList := by
  constructor
  · rintro ⟨hw, hlen⟩
    have hsize : text.toList.length = text.size := Array.length_toList
    rw [List.drop_zero] at hw
    exact hw.eq_of_length (by omega)
  · rintro rfl
    exact ⟨List.prefix_rfl, by simp⟩

/-! ## Expressions and words -/

/-- `r` matches a stretch, wherever it is, if and only if `p` holds of the word that the stretch
spells. -/
def Denotes (r : Regex) (p : List Char → Prop) : Prop :=
  ∀ text i j, i ≤ text.size → (Matches text r i j ↔ ∃ w, Spells text i w j ∧ p w)

namespace Denotes

theorem congr (h : Denotes r p) (hpq : ∀ w, p w ↔ q w) : Denotes r q := by
  intro text i j hi
  simp only [h text i j hi, hpq]

theorem empty : Denotes .empty (· = []) := by
  intro text i j _
  constructor
  · rintro ⟨⟩
    exact ⟨[], spells_nil_iff.mpr rfl, rfl⟩
  · rintro ⟨w, hw, rfl⟩
    obtain rfl := spells_nil_iff.mp hw
    exact .empty

theorem rune (accepts : Char → Bool) :
    Denotes (.rune accepts) fun w => ∃ c, w = [c] ∧ accepts c = true := by
  intro text i j _
  constructor
  · rintro (_ | ⟨hc, hacc⟩)
    exact ⟨_, spells_singleton_iff.mpr ⟨hc, rfl⟩, _, rfl, hacc⟩
  · rintro ⟨w, hw, c, rfl, hacc⟩
    obtain ⟨hc, rfl⟩ := spells_singleton_iff.mp hw
    exact .rune hc hacc

theorem seq (hr : Denotes r p) (hs : Denotes s q) :
    Denotes (.seq r s) fun w => ∃ u v, w = u ++ v ∧ p u ∧ q v := by
  intro text i k hi
  constructor
  · intro h
    cases h with
    | @seq _ _ _ j _ h₁ h₂ =>
      have hj := (h₁.bounds hi).2
      obtain ⟨u, hu, hpu⟩ := (hr text i j hi).mp h₁
      obtain ⟨v, hv, hqv⟩ := (hs text j k hj).mp h₂
      exact ⟨u ++ v, spells_append_iff.mpr ⟨j, hu, hv⟩, u, v, rfl, hpu, hqv⟩
  · rintro ⟨w, hw, u, v, rfl, hpu, hqv⟩
    obtain ⟨j, hu, hv⟩ := spells_append_iff.mp hw
    have hj := hu.le_size hi
    exact .seq ((hr text i j hi).mpr ⟨u, hu, hpu⟩) ((hs text j k hj).mpr ⟨v, hv, hqv⟩)

theorem alt (hr : Denotes r p) (hs : Denotes s q) : Denotes (.alt r s) fun w => p w ∨ q w := by
  intro text i j hi
  constructor
  · intro h
    cases h with
    | left h =>
      obtain ⟨w, hw, hpw⟩ := (hr text i j hi).mp h
      exact ⟨w, hw, .inl hpw⟩
    | right h =>
      obtain ⟨w, hw, hqw⟩ := (hs text i j hi).mp h
      exact ⟨w, hw, .inr hqw⟩
  · rintro ⟨w, hw, hpw | hqw⟩
    · exact .left ((hr text i j hi).mpr ⟨w, hw, hpw⟩)
    · exact .right ((hs text i j hi).mpr ⟨w, hw, hqw⟩)

/-- Matches of `r` in a row spell words in a row. -/
theorem matchesTimes_iff (hr : Denotes r p) {n i j : Nat} (hi : i ≤ text.size) :
    MatchesTimes text r n i j ↔
      ∃ ws : List (List Char), ws.length = n ∧ (∀ w ∈ ws, p w) ∧ Spells text i ws.flatten j := by
  induction n generalizing i with
  | zero =>
    rw [matchesTimes_zero_iff]
    constructor
    · rintro rfl
      exact ⟨[], rfl, by simp, spells_nil_iff.mpr rfl⟩
    · rintro ⟨ws, hlen, -, hw⟩
      obtain rfl := List.length_eq_zero_iff.mp hlen
      exact spells_nil_iff.mp hw
  | succ n ih =>
    rw [matchesTimes_succ_iff]
    constructor
    · rintro ⟨k, h₁, h₂⟩
      have hk := (h₁.bounds hi).2
      obtain ⟨w, hw, hpw⟩ := (hr text i k hi).mp h₁
      obtain ⟨ws, rfl, hpws, hws⟩ := (ih hk).mp h₂
      refine ⟨w :: ws, rfl, List.forall_mem_cons.mpr ⟨hpw, hpws⟩, ?_⟩
      exact spells_append_iff.mpr ⟨k, hw, hws⟩
    · rintro ⟨ws, hlen, hpws, hws⟩
      cases ws with
      | nil => cases hlen
      | cons w ws =>
        obtain ⟨hpw, hpws⟩ := List.forall_mem_cons.mp hpws
        obtain ⟨k, hw, hws⟩ := spells_append_iff.mp hws
        have hk := hw.le_size hi
        have hlen := Nat.succ.inj hlen
        exact ⟨k, (hr text i k hi).mpr ⟨w, hw, hpw⟩, (ih hk).mpr ⟨ws, hlen, hpws, hws⟩⟩

theorem times (hr : Denotes r p) (least : Nat) (most : Option Nat) :
    Denotes (.times r least most) fun w => ∃ ws : List (List Char), w = ws.flatten ∧
      least ≤ ws.length ∧ (∀ m, most = some m → ws.length ≤ m) ∧ ∀ w ∈ ws, p w := by
  intro text i j hi
  constructor
  · intro h
    cases h with
    | times hleast hmost h =>
      obtain ⟨ws, rfl, hp, hw⟩ := (hr.matchesTimes_iff hi).mp h
      exact ⟨ws.flatten, hw, ws, rfl, hleast, hmost, hp⟩
  · rintro ⟨w, hw, ws, rfl, hleast, hmost, hp⟩
    exact .times hleast hmost ((hr.matchesTimes_iff hi).mpr ⟨ws, rfl, hp, hw⟩)

/-- `least` runes or more, all of them accepted. -/
theorem run (accepts : Char → Bool) (least : Nat) :
    Denotes (.times (.rune accepts) least none) fun w =>
      least ≤ w.length ∧ ∀ c ∈ w, accepts c = true := by
  refine ((rune accepts).times least none).congr fun w => ?_
  constructor
  · rintro ⟨ws, rfl, hleast, -, hws⟩
    -- Each of the words is a single rune.
    induction ws generalizing least with
    | nil => simpa using hleast
    | cons w ws ih =>
      obtain ⟨⟨c, rfl, hc⟩, hws'⟩ := List.forall_mem_cons.mp hws
      rw [List.length_cons] at hleast
      obtain ⟨hlen, hall⟩ := ih (least - 1) (by omega) hws'
      rw [List.flatten_cons, List.singleton_append]
      refine ⟨?_, List.forall_mem_cons.mpr ⟨hc, hall⟩⟩
      rw [List.length_cons]
      omega
  · rintro ⟨hleast, hall⟩
    refine ⟨w.map ([·]), ?_, by simpa using hleast, by simp, ?_⟩
    · rw [← List.flatMap_def, List.flatMap_singleton']
    intro u hu
    obtain ⟨c, hc, rfl⟩ := List.mem_map.mp hu
    exact ⟨c, rfl, hall c hc⟩

/-- A word or nothing. -/
theorem optional (hr : Denotes r p) :
    Denotes (.times r 0 (some 1)) fun w => w = [] ∨ p w := by
  refine (hr.times 0 (some 1)).congr fun w => ?_
  constructor
  · rintro ⟨ws, rfl, -, hmost, hws⟩
    have hlen := hmost 1 rfl
    match ws with
    | [] => exact .inl rfl
    | [w] =>
      right
      rw [List.flatten_singleton]
      exact hws w (List.mem_singleton.mpr rfl)
    | _ :: _ :: _ => simp at hlen
  · rintro (rfl | hpw)
    · exact ⟨[], rfl, by simp, by simp, by simp⟩
    · exact ⟨[w], by simp, by simp, by simp, by simpa using hpw⟩

end Denotes

/-! ## Whole texts -/

theorem matches_textStart_iff {i j : Nat} (hi : i ≤ text.size) :
    Matches text (.look Look.textStart.holds) i j ↔ i = 0 ∧ j = 0 := by
  have hbefore : (before text i).isNone = true ↔ i = 0 := by
    rw [before]
    split
    · next h => simp [h]
    · next h => simp; omega
  constructor
  · rintro (_ | _ | h)
    have := hbefore.mp h
    exact ⟨this, this⟩
  · rintro ⟨rfl, rfl⟩
    exact .look (hbefore.mpr rfl)

theorem matches_textEnd_iff {i j : Nat} (hi : i ≤ text.size) :
    Matches text (.look Look.textEnd.holds) i j ↔ i = text.size ∧ j = text.size := by
  have hafter : (text[i]?).isNone = true ↔ i = text.size := by
    simp; omega
  constructor
  · rintro (_ | _ | h)
    have := hafter.mp h
    exact ⟨this, this⟩
  · rintro ⟨rfl, rfl⟩
    exact .look (hafter.mpr rfl)

/-- The expression `r` between the ends of the text. -/
def Regex.anchored (r : Regex) : Regex :=
  .seq (.look Look.textStart.holds) (.seq r (.seq (.look Look.textEnd.holds) .empty))

/-- `r.anchored` matches somewhere if and only if `r` matches the whole text. -/
theorem matches_anchored_iff :
    (∃ i j, i ≤ text.size ∧ Matches text r.anchored i j) ↔ Matches text r 0 text.size := by
  constructor
  · rintro ⟨i, l, hi, h⟩
    cases h with
    | @seq _ _ _ j _ hstart h =>
      obtain ⟨rfl, rfl⟩ := (matches_textStart_iff hi).mp hstart
      cases h with
      | @seq _ _ _ k _ hr h =>
        cases h with
        | seq hend _ =>
          have hk := (hr.bounds (Nat.zero_le _)).2
          obtain ⟨rfl, rfl⟩ := (matches_textEnd_iff hk).mp hend
          exact hr
  · intro hr
    have hend : Matches text (.look Look.textEnd.holds) text.size text.size :=
      (matches_textEnd_iff (Nat.le_refl _)).mpr ⟨rfl, rfl⟩
    have hstart : Matches text (.look Look.textStart.holds) 0 0 :=
      (matches_textStart_iff (Nat.zero_le _)).mpr ⟨rfl, rfl⟩
    exact ⟨0, text.size, Nat.zero_le _, .seq hstart (.seq hr (.seq hend .empty))⟩

/-- `r.anchored` occurs in a text if and only if `p` holds of the whole text. -/
theorem occursIn_anchored (hb : r.Bounded) (hr : Denotes r p) :
    r.anchored.occursIn text = true ↔ p text.toList := by
  have hbounded : r.anchored.Bounded := ⟨trivial, hb, trivial, trivial⟩
  rw [occursIn_iff hbounded, matches_anchored_iff, hr text 0 text.size (Nat.zero_le _)]
  constructor
  · rintro ⟨w, hw, hp⟩
    rwa [← spells_size_iff.mp hw]
  · intro hp
    exact ⟨_, spells_size_iff.mpr rfl, hp⟩

end LexTree.Pattern
