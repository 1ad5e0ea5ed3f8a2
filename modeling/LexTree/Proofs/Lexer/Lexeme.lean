import LexTree.Proofs.Lexer.Isolated
import LexTree.Proofs.Reader.Rest

/-!
# Lexemes

What the built-in strategies take from the start of a text, as functions of the
text alone.

- `Lexeme` is a token without its place, with the number of runes that it takes.
- `taken?_oneOf`, `taken?_runOf`, `taken?_classRun`, `taken?_quoted` and
  `taken?_validated` say what each strategy takes at a position.
-/

namespace LexTree

/-- A token without its place, and the number of runes that it takes up. -/
structure Lexeme where
  type : TokenType
  value : String
  length : Nat
  length_pos : 0 < length

namespace Lexeme

def one (type : TokenType) (c : Char) : Lexeme := ⟨type, c.toString, 1, Nat.one_pos⟩

/-- The rune `c`, and the longest run of accepted runes at the start of `w`. -/
def run (type : TokenType) (accepts : Char → Bool) (c : Char) (w : List Char) : Lexeme :=
  ⟨type, String.ofList (c :: w.takeWhile accepts), (w.takeWhile accepts).length + 1,
    Nat.succ_pos _⟩

/-- The quote `q` and what stands before its closing one in `w`, without the backslashes, if it is
closed. -/
def quoted? (type : TokenType) (q : Char) (w : List Char) : Option Lexeme :=
  (Reader.closing? q (q :: w)).map fun j =>
    ⟨type, String.ofList (((q :: w).take (j + 1)).filter (· ≠ '\\')), j + 1, Nat.succ_pos _⟩

/-- A run has no rune `b` that is not accepted. -/
theorem not_mem_run {accepts : Char → Bool} {b c : Char} (hb : accepts b = false)
    (hc : accepts c = true) (type : TokenType) (w : List Char) :
    b ∉ (run type accepts c w).value.toList := by
  show b ∉ (String.ofList (c :: w.takeWhile accepts)).toList
  rw [String.toList_ofList]
  intro hmem
  have haccepted : accepts b = true := by
    rcases List.mem_cons.mp hmem with heq | hmem
    · rw [heq]
      exact hc
    · exact List.all_eq_true.mp List.all_takeWhile _ hmem
  rw [hb] at haccepted
  cases haccepted

/-- The token of `x` at `offset`. -/
def token (x : Lexeme) (offset : Nat) : Token := ⟨x.type, x.value, offset, 0, 0⟩

/-- The token of `x` at `offset`, and where it ends. -/
def placed (x : Lexeme) (offset : Nat) : Token × Nat := (x.token offset, offset + x.length)

end Lexeme

section

variable {text : Array Char} {offset : Nat}

theorem Consumer.taken?_of_some {c : Consumer} {token : Token} {after : Reader}
    (h : c ⟨text, offset, []⟩ = (some token, after)) (hlt : offset < after.offset) :
    c.taken? text offset = some ({ token with offset }, after.offset) := by
  rw [Consumer.taken?, h]
  exact if_pos hlt

theorem Consumer.taken?_of_none {c : Consumer} {after : Reader}
    (h : c ⟨text, offset, []⟩ = (none, after)) : c.taken? text offset = none := by
  rw [Consumer.taken?, h]

end

namespace Matcher

variable {text : Array Char} {offset : Nat} {c : Char} {w : List Char} {type : TokenType}

theorem taken?_oneOf (allowed : List Char) (h : text.toList.drop offset = c :: w) :
    Consumer.taken? text offset (oneOf type allowed).attempt =
      if allowed.contains c then some ((Lexeme.one type c).placed offset) else none := by
  have hread : (Reader.mk text offset []).read = (c, Reader.advance ⟨text, offset, []⟩ 1) :=
    Reader.read_of_rest h
  split
  · next hc =>
    have hattempt : (oneOf type allowed).attempt ⟨text, offset, []⟩ =
        (some ⟨type, c.toString, 0, 0, 0⟩, Reader.advance ⟨text, offset, []⟩ 1) := by
      simp only [attempt, hread, hc, if_true, Token.draft]
    rw [Consumer.taken?_of_some hattempt (Nat.lt_succ_self offset)]
    rfl
  · next hc =>
    have hattempt : (oneOf type allowed).attempt ⟨text, offset, []⟩ =
        (none, Reader.advance ⟨text, offset, []⟩ 1) := by
      simp only [attempt, hread, hc]
      rfl
    rw [Consumer.taken?_of_none hattempt]

/-- A run takes something if its first rune is accepted. -/
theorem taken?_run {m : Matcher} {accepts : Char → Bool}
    (hm : ∀ r, m.attempt r = ofRun type (r.readWhile accepts ""))
    (h : text.toList.drop offset = c :: w) :
    Consumer.taken? text offset m.attempt =
      if accepts c then some ((Lexeme.run type accepts c w).placed offset) else none := by
  have hrest : (Reader.mk text offset []).rest = c :: w := h
  have hread := Reader.readWhile_eq accepts "" ⟨text, offset, []⟩
  rw [hrest, String.empty_append] at hread
  split
  · next hc =>
    have hattempt : m.attempt ⟨text, offset, []⟩ =
        (some ⟨type, (Lexeme.run type accepts c w).value, 0, 0, 0⟩,
          Reader.advance ⟨text, offset, []⟩ (Lexeme.run type accepts c w).length) := by
      rw [hm, hread, List.takeWhile_cons_of_pos hc]
      simp [ofRun, Lexeme.run, Token.draft]
    rw [Consumer.taken?_of_some hattempt (Nat.lt_add_of_pos_right (Lexeme.length_pos _))]
    rfl
  · next hc =>
    have hattempt : m.attempt ⟨text, offset, []⟩ = (none, ⟨text, offset, []⟩) := by
      rw [hm, hread, List.takeWhile_cons_of_neg hc]
      rfl
    rw [Consumer.taken?_of_none hattempt]

theorem taken?_runOf (runes : List Char) (h : text.toList.drop offset = c :: w) :
    Consumer.taken? text offset (runOf type runes).attempt =
      if runes.contains c then some ((Lexeme.run type runes.contains c w).placed offset)
      else none :=
  taken?_run (fun _ => rfl) h

theorem taken?_classRun (accepts : Char → Bool) (h : text.toList.drop offset = c :: w) :
    Consumer.taken? text offset (classRun type [accepts]).attempt =
      if accepts c then some ((Lexeme.run type accepts c w).placed offset) else none := by
  have hany : (fun rune => [accepts].any (· rune)) = accepts := by
    funext rune
    simp
  refine taken?_run (fun r => ?_) h
  rw [attempt, hany]

theorem taken?_quoted (h : text.toList.drop offset = c :: w) :
    Consumer.taken? text offset (quoted type).attempt =
      if c = '"' || c = '\'' then (Lexeme.quoted? type c w).map (·.placed offset) else none := by
  have hattempt := (attempt_quoted h : (quoted type).attempt ⟨text, offset, []⟩ = _)
  split
  · next hc =>
    rw [if_pos hc] at hattempt
    rw [Lexeme.quoted?]
    cases hclose : Reader.closing? c (c :: w) with
    | none =>
      rw [hclose] at hattempt
      exact Consumer.taken?_of_none hattempt
    | some j =>
      rw [hclose] at hattempt
      rw [Consumer.taken?_of_some hattempt (Nat.lt_add_of_pos_right (Nat.succ_pos j))]
      rfl
  · next hc =>
    rw [if_neg hc] at hattempt
    exact Consumer.taken?_of_none hattempt

/-- `validated` asks about the value of what was taken. -/
theorem taken?_validated (accepts : String → Bool) (inner : Matcher) :
    Consumer.taken? text offset (validated accepts inner).attempt =
      (Consumer.taken? text offset inner.attempt).filter (accepts ·.1.value) := by
  have hattempt := attempt_validated accepts inner ⟨text, offset, []⟩
  rcases hinner : inner.attempt ⟨text, offset, []⟩ with ⟨_ | token, after⟩
  · rw [hinner] at hattempt
    rw [Consumer.taken?_of_none hinner]
    exact Consumer.taken?_of_none hattempt
  · rw [hinner] at hattempt
    rw [Consumer.taken?, Consumer.taken?, hinner, hattempt]
    by_cases hacc : accepts token.value = true
    · by_cases hlt : offset < after.offset
      · simp [Option.filter, hlt, hacc]
      · simp [Option.filter, hlt, hacc]
    · by_cases hlt : offset < after.offset
      · simp [Option.filter, hlt, hacc]
      · simp [Option.filter, hlt, hacc]

end Matcher

end LexTree
