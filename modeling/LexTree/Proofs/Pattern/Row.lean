import LexTree.Pattern.Matching

/-!
# Rows of expressions

A row is put together without what does nothing in it, and with literals joined. It
matches what its members match one after the other.

- `Alike` says that two regular expressions match the same stretches of every text.
- `alike_joinLiterals` and `alike_parts`: neither joining literals nor taking rows apart
  changes what is matched.
- `alike_row`: a row matches what its members match one after the other.
-/

namespace LexTree.Pattern

variable {r r' s s' t : Regex}

/-- `r` and `s` match the same stretches of every text. -/
def Alike (r s : Regex) : Prop := ∀ text i j, Matches text r i j ↔ Matches text s i j

theorem matches_empty_iff {text : Array Char} {i j : Nat} : Matches text .empty i j ↔ i = j := by
  constructor
  · rintro ⟨⟩
    rfl
  · rintro rfl
    exact .empty

theorem matches_seq_iff {text : Array Char} {i k : Nat} :
    Matches text (.seq r s) i k ↔ ∃ j, Matches text r i j ∧ Matches text s j k := by
  constructor
  · rintro (_ | _ | _ | ⟨hr, hs⟩)
    exact ⟨_, hr, hs⟩
  · rintro ⟨j, hr, hs⟩
    exact .seq hr hs

namespace Alike

@[refl] theorem refl (r : Regex) : Alike r r := fun _ _ _ => Iff.rfl

theorem symm (h : Alike r s) : Alike s r := fun text i j => (h text i j).symm

theorem trans (h : Alike r s) (h' : Alike s t) : Alike r t :=
  fun text i j => (h text i j).trans (h' text i j)

instance : Trans Alike Alike Alike := ⟨trans⟩

theorem seq (hr : Alike r r') (hs : Alike s s') : Alike (.seq r s) (.seq r' s') := by
  intro text i k
  simp only [matches_seq_iff, hr text, hs text]

theorem seq_assoc (r s t : Regex) : Alike (.seq (.seq r s) t) (.seq r (.seq s t)) := by
  intro text i l
  simp only [matches_seq_iff]
  constructor
  · rintro ⟨k, ⟨j, hr, hs⟩, ht⟩
    exact ⟨j, hr, k, hs, ht⟩
  · rintro ⟨j, hr, k, hs, ht⟩
    exact ⟨k, ⟨j, hr, hs⟩, ht⟩

theorem empty_seq (r : Regex) : Alike (.seq .empty r) r := by
  intro text i j
  simp [matches_seq_iff, matches_empty_iff]

theorem seq_empty (r : Regex) : Alike (.seq r .empty) r := by
  intro text i j
  simp [matches_seq_iff, matches_empty_iff]

end Alike

/-- `ofRunes` of runes in a row matches what the first ones match and then the others. -/
theorem alike_ofRunes_append (u v : List Char) :
    Alike (.ofRunes (u ++ v)) (.seq (.ofRunes u) (.ofRunes v)) := by
  induction u with
  | nil => exact (Alike.empty_seq _).symm
  | cons c u ih => exact ((Alike.refl _).seq ih).trans (Alike.seq_assoc _ _ _).symm

namespace Expr

theorem alike_regexOfRow_append (rs ss : List Expr) :
    Alike (regexOfRow (rs ++ ss)) (.seq (regexOfRow rs) (regexOfRow ss)) := by
  induction rs with
  | nil => exact (Alike.empty_seq _).symm
  | cons r rs ih => exact ((Alike.refl r.regex).seq ih).trans (Alike.seq_assoc _ _ _).symm

theorem alike_joinLiterals (rs : List Expr) :
    Alike (regexOfRow (joinLiterals rs)) (regexOfRow rs) := by
  fun_induction joinLiterals rs with
  | case1 => rfl
  | case2 u rest v others hjoin ih =>
    rw [hjoin] at ih
    calc Alike (.seq (.ofRunes (u ++ v)) (regexOfRow others))
          (.seq (.seq (.ofRunes u) (.ofRunes v)) (regexOfRow others)) :=
          (alike_ofRunes_append u v).seq (.refl _)
      Alike _ (.seq (.ofRunes u) (.seq (.ofRunes v) (regexOfRow others))) := Alike.seq_assoc _ _ _
      Alike _ (.seq (.ofRunes u) (regexOfRow rest)) := (Alike.refl _).seq ih
  | case3 u rest hno ih => exact (Alike.refl _).seq ih
  | case4 r rest hno ih => exact (Alike.refl _).seq ih

theorem alike_parts (r : Expr) : Alike (regexOfRow r.parts) r.regex := by
  fun_cases parts r with
  | case1 ps => exact .refl _
  | case2 => exact .refl _
  | case3 => exact Alike.seq_empty _

theorem alike_flatMap_parts (rs : List Expr) :
    Alike (regexOfRow (rs.flatMap parts)) (regexOfRow rs) := by
  induction rs with
  | nil => exact .refl _
  | cons r rs ih =>
    rw [List.flatMap_cons]
    exact (alike_regexOfRow_append _ _).trans ((alike_parts r).seq ih)

/-- A `row` matches what its members `rs` match one after the other. -/
theorem alike_row (rs : List Expr) : Alike (row rs).regex (regexOfRow rs) := by
  refine Alike.trans ?_ ((alike_joinLiterals _).trans (alike_flatMap_parts rs))
  unfold row
  split
  · next h =>
    rw [h]
    exact .refl _
  · next r h =>
    rw [h]
    exact (Alike.seq_empty _).symm
  · exact .refl _

end Expr

end LexTree.Pattern
