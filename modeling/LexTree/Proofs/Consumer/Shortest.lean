import LexTree.Proofs.Consumer.Builtin

/-!
# Shortest accepted texts

The strategy for shortest texts adds one rune after the other and asks each time.
Nothing is supposed of the answers: a text may be accepted though longer and shorter
ones are not, and the empty text is never asked about.

- `Reader.Candidate`: the texts among which the strategy looks, `Reader.Shortest`:
  the one that it takes.
- `Reader.accepted?_eq_some_iff` and `Reader.accepted?_eq_none_iff`: how many runes
  that is.
- `Matcher.attempt_shortest_candidate`: all that an attempt does.
-/

namespace LexTree

namespace Reader

/-- A text `u` that is accepted, and that `w` starts with; the empty text is none. -/
structure Candidate (accepts : String → Bool) (w u : List Char) : Prop where
  ne_nil : u ≠ []
  isPrefix : u <+: w
  accepted : accepts (String.ofList u) = true

/-- The candidate `u` with the fewest runes. -/
structure Shortest (accepts : String → Bool) (w u : List Char) : Prop where
  candidate : Candidate accepts w u
  length_le : ∀ v, Candidate accepts w v → u.length ≤ v.length

variable {accepts : String → Bool} {w u : List Char} {j : Nat}

/-- The first `j + 1` runes of `w` are a candidate if and only if they are accepted. -/
theorem candidate_take_iff (hj : j < w.length) :
    Candidate accepts w (w.take (j + 1)) ↔ accepts (String.ofList (w.take (j + 1))) = true := by
  have hne : w.take (j + 1) ≠ [] := by
    rw [Ne, List.take_eq_nil_iff]
    rintro (h | rfl)
    · omega
    · simp at hj
  exact ⟨fun h => h.accepted, fun h => ⟨hne, List.take_prefix _ _, h⟩⟩

/-- Every candidate is made of the first `j + 1` runes of `w`, for some `j`. -/
theorem Candidate.exists_take (h : Candidate accepts w u) :
    ∃ j < w.length, u = w.take (j + 1) := by
  have hpos : 0 < u.length := List.length_pos_iff.mpr h.ne_nil
  have hle : u.length ≤ w.length := h.isPrefix.length_le
  refine ⟨u.length - 1, by omega, ?_⟩
  rw [Nat.sub_add_cancel hpos]
  exact List.prefix_iff_eq_take.mp h.isPrefix

/-- `accepted?` stops at the shortest candidate. -/
theorem accepted?_eq_some_iff :
    accepted? accepts "" w = some j ↔ j < w.length ∧ Shortest accepts w (w.take (j + 1)) := by
  rw [accepted?, List.find?_range_eq_some, List.mem_range]
  simp only [String.empty_append, Bool.not_eq_true']
  constructor
  · rintro ⟨hacc, hj, hleast⟩
    refine ⟨hj, (candidate_take_iff hj).mpr hacc, fun v hv => ?_⟩
    obtain ⟨k, hk, rfl⟩ := hv.exists_take
    have hjk : j ≤ k := by
      refine Nat.le_of_not_lt fun hlt => ?_
      have hno := hleast k hlt
      rw [hv.accepted] at hno
      cases hno
    rw [List.length_take_of_le (by omega), List.length_take_of_le (by omega)]
    omega
  · rintro ⟨hj, hshort⟩
    refine ⟨hshort.candidate.accepted, hj, fun k hk => ?_⟩
    rw [← Bool.not_eq_true]
    intro hacc
    have hle := hshort.length_le _ ((candidate_take_iff (by omega)).mpr hacc)
    rw [List.length_take_of_le (by omega), List.length_take_of_le (by omega)] at hle
    omega

/-- `accepted?` finds nothing if and only if there is no candidate. -/
theorem accepted?_eq_none_iff :
    accepted? accepts "" w = none ↔ ∀ u, ¬ Candidate accepts w u := by
  rw [accepted?, List.find?_eq_none]
  simp only [String.empty_append, List.mem_range, Bool.not_eq_true]
  constructor
  · rintro hnone u hu
    obtain ⟨j, hj, rfl⟩ := hu.exists_take
    have hno := hnone j hj
    rw [hu.accepted] at hno
    cases hno
  · intro hnone j hj
    rw [← Bool.not_eq_true]
    exact fun hacc => hnone _ ((candidate_take_iff hj).mpr hacc)

end Reader

namespace Matcher

open Reader

variable {type : TokenType} {accepts : String → Bool} {r : Reader} {u : List Char}

theorem attempt_shortest_of_shortest (h : Shortest accepts r.rest u) :
    (shortest type accepts).attempt r =
      (some ⟨type, String.ofList u, 0, 0, 0⟩, r.advance u.length) := by
  obtain ⟨j, hj, rfl⟩ := h.candidate.exists_take
  have hfound : accepted? accepts "" r.rest = some j := accepted?_eq_some_iff.mpr ⟨hj, h⟩
  rw [attempt, readUntil_eq, hfound, List.length_take_of_le (by omega)]
  simp only [Option.map_some, Token.draft, String.empty_append]

theorem attempt_shortest_of_not_candidate (h : ∀ u, ¬ Candidate accepts r.rest u) :
    (shortest type accepts).attempt r = (none, { r with offset := max r.offset r.size }) := by
  have hfound : accepted? accepts "" r.rest = none := accepted?_eq_none_iff.mpr h
  rw [attempt, readUntil_eq, hfound, ← advance_length_rest]
  rfl

/-- Whatever `accepts` is, `shortest` succeeds if and only if the runes `w` that are left start with
a text that is accepted and not empty. It takes the shortest of these and stands right after it.
Otherwise it reads all of the text. The marks stay as they are. -/
theorem attempt_shortest_candidate (type : TokenType) (accepts : String → Bool) (r : Reader) :
    let w := r.rest
    let found := (shortest type accepts).attempt r
    (found.1.isSome = true ↔ ∃ u, Candidate accepts w u) ∧
      (∀ token, found.1 = some token → ∃ u, Shortest accepts w u ∧
        token = ⟨type, String.ofList u, 0, 0, 0⟩ ∧
        found.2 = { r with offset := r.offset + u.length }) ∧
      (found.1 = none → found.2 = { r with offset := max r.offset r.size }) ∧
      found.2.marks = r.marks := by
  intro w found
  have hmarks : found.2.marks = r.marks := attempt_marks (shortest type accepts) r
  cases hfound : accepted? accepts "" w with
  | some j =>
    obtain ⟨-, hshort⟩ := accepted?_eq_some_iff.mp hfound
    have htaken : found = (some ⟨type, String.ofList (w.take (j + 1)), 0, 0, 0⟩,
        r.advance (w.take (j + 1)).length) := attempt_shortest_of_shortest hshort
    refine ⟨iff_of_true (by rw [htaken]; rfl) ⟨_, hshort.candidate⟩, fun token htoken => ?_,
      fun hnone => ?_, hmarks⟩
    · rw [htaken] at htoken ⊢
      exact ⟨_, hshort, (Option.some.inj htoken).symm, rfl⟩
    · rw [htaken] at hnone
      cases hnone
  | none =>
    have hno := accepted?_eq_none_iff.mp hfound
    have htaken : found = (none, { r with offset := max r.offset r.size }) :=
      attempt_shortest_of_not_candidate hno
    refine ⟨iff_of_false ?_ fun ⟨u, hu⟩ => hno u hu, fun token htoken => ?_,
      fun _ => congrArg Prod.snd htaken, hmarks⟩
    · rw [htaken]
      exact Bool.false_ne_true
    · rw [htaken] at htoken
      cases htoken

/-- The empty text is accepted here, and so is every text of an even number of runes. -/
example : (shortest ⟨"PAIR"⟩ fun s => s.toList.length % 2 == 0).attempt ⟨#['a', 'b', 'c'], 0, [7]⟩ =
    (some ⟨⟨"PAIR"⟩, "ab", 0, 0, 0⟩, ⟨#['a', 'b', 'c'], 2, [7]⟩) := by
  decide +kernel

end Matcher

end LexTree
