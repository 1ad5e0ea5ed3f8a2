import LexTree.Proofs.Reader.Client
import LexTree.Proofs.Reader.Rest

/-!
# The built-in consumers as clients

Each built-in strategy is written as a program of calls, with a label for each of
its loops, and leaves the marks of the reader alone.

- `Matcher.attempt_quoted`: what the strategy for quoted literals takes.
- `Matcher.attempt_of_rest`: readers with the same rest make no difference.
- `Matcher.attempt_marks`: no attempt changes the marks.
- `Matcher.balanced`: every built-in strategy is a balanced consumer, whatever its
  runes, classes, literals and patterns are, and however deeply it is validated.
-/

namespace LexTree

namespace Matcher

open Reader

theorem attempt_validated (accepts : String → Bool) (inner : Matcher) (r : Reader) :
    (validated accepts inner).attempt r =
      ((inner.attempt r).1.filter (accepts ·.value), (inner.attempt r).2) := by
  rw [attempt, Consumer.validated]

/-- What `quoted` takes of a rest `c :: w`: if `c` is a quote, all up to `closing?`, without the
backslashes. If there is no closing quote, all of `w` is read for nothing. -/
theorem attempt_quoted {type : TokenType} {r : Reader} {c : Char} {w : List Char}
    (h : r.rest = c :: w) :
    (quoted type).attempt r =
      if c = '"' || c = '\'' then
        match closing? c (c :: w) with
        | some j =>
          (some ⟨type, String.ofList (((c :: w).take (j + 1)).filter (· ≠ '\\')), 0, 0, 0⟩,
            r.advance (j + 1))
        | none => (none, r.advance (w.length + 1))
      else (none, r.advance 1) := by
  rw [attempt, read_of_rest h]
  simp only
  split
  · next hc =>
    -- The delimiter is no backslash, so that the literal does not start escaped.
    have hne : c ≠ '\\' := by
      rintro rfl
      cases hc
    have hquoted := readQuoted_eq hne c c.toString (r.advance 1)
    rw [beq_eq_false_iff_ne.mpr hne, rest_advance_one h] at hquoted
    rw [hquoted]
    cases closing? c (c :: w) with
    | none => simp only [Option.map_none, advance_advance, Nat.add_comm 1]
    | some j =>
      have hvalue : c.toString ++ String.ofList ((w.take j).filter (· ≠ '\\')) =
          String.ofList (((c :: w).take (j + 1)).filter (· ≠ '\\')) := by
        apply String.ext
        simp [hne]
      simp only [Option.map_some, Token.draft, hvalue, advance_advance, Nat.add_comm 1]
  · rfl

/-- On readers with the same `rest` an attempt drafts the same token and takes as many runes. -/
theorem attempt_of_rest (m : Matcher) {r r' : Reader} (h : r.rest = r'.rest) :
    (m.attempt r).1 = (m.attempt r').1 ∧
      ∃ n, (m.attempt r).2 = r.advance n ∧ (m.attempt r').2 = r'.advance n := by
  induction m with
  | oneOf type allowed =>
    cases hw : r'.rest with
    | nil =>
      rw [attempt, attempt, read_of_rest_nil (h.trans hw), read_of_rest_nil hw]
      exact ⟨rfl, 0, rfl, rfl⟩
    | cons c w =>
      rw [attempt, attempt, read_of_rest (h.trans hw), read_of_rest hw]
      exact ⟨rfl, 1, rfl, rfl⟩
  | runOf type runes =>
    rw [attempt, attempt, readWhile_eq, readWhile_eq, h]
    exact ⟨rfl, _, rfl, rfl⟩
  | classRun type classes =>
    rw [attempt, attempt, readWhile_eq, readWhile_eq, h]
    exact ⟨rfl, _, rfl, rfl⟩
  | literal type text =>
    rw [attempt, attempt, readLiteral_eq, readLiteral_eq, h]
    exact ⟨rfl, _, rfl, rfl⟩
  | quoted type =>
    cases hw : r'.rest with
    | nil =>
      rw [attempt, attempt, read_of_rest_nil (h.trans hw), read_of_rest_nil hw]
      exact ⟨rfl, 0, rfl, rfl⟩
    | cons c w =>
      rw [attempt_quoted (h.trans hw), attempt_quoted hw]
      split
      · cases closing? c (c :: w) <;> exact ⟨rfl, _, rfl, rfl⟩
      · exact ⟨rfl, 1, rfl, rfl⟩
  | shortest type accepts =>
    rw [attempt, attempt, readUntil_eq, readUntil_eq, h]
    cases accepted? accepts "" r'.rest <;> exact ⟨rfl, _, rfl, rfl⟩
  | validated accepts inner ih =>
    obtain ⟨hdraft, hafter⟩ := ih
    rw [attempt_validated, attempt_validated, hdraft]
    exact ⟨rfl, hafter⟩

/-- An attempt leaves the reader some places on. -/
theorem exists_advance_attempt (m : Matcher) (r : Reader) :
    ∃ n, (m.attempt r).2 = r.advance n := by
  obtain ⟨-, n, hafter, -⟩ := m.attempt_of_rest (Eq.refl r.rest)
  exact ⟨n, hafter⟩

theorem attempt_marks (m : Matcher) (r : Reader) : (m.attempt r).2.marks = r.marks := by
  obtain ⟨n, hn⟩ := m.exists_advance_attempt r
  rw [hn]; rfl

/-! ## Programs -/

variable {σ : Type} {base : Nat}

/-- `Reader.readWhile` as calls; the label is the value so far. -/
def runProgram (accepts : Char → Bool) (type : TokenType) (value : String) :
    Prog String (Option Token) :=
  let done := if value.isEmpty then none else some (Token.draft type value)
  .call .atEnd fun ended =>
    if ended then .finish done
    else .call .peek fun rune =>
      if accepts rune then .call .read fun rune => .goto (value.push rune) else .finish done

theorem run_runProgram (accepts : Char → Bool) (type : TokenType) (value : String) (r : Reader) :
    Prog.Run (runProgram accepts type) base (.goto value) r
      (ofRun type (r.readWhile accepts value)).1
      (ofRun type (r.readWhile accepts value)).2 := by
  fun_induction Reader.readWhile accepts value r with
  | case1 value r h =>
    refine .goto (.atEnd ?_)
    rw [if_pos h]
    exact .finish
  | case2 value r h hc ih =>
    refine .goto (.atEnd ?_)
    rw [if_neg h]
    refine .peek ?_
    rw [if_pos hc]
    exact .read ih
  | case3 value r h hc =>
    refine .goto (.atEnd ?_)
    rw [if_neg h]
    refine .peek ?_
    rw [if_neg hc]
    exact .finish

/-- `Reader.readLiteral` as calls; the label is what is left of the literal, and the value so
far. -/
def literalProgram (type : TokenType) :
    List Char × String → Prog (List Char × String) (Option Token)
  | ([], value) => .finish (some (Token.draft type value))
  | (expected :: text, value) => .call .atEnd fun ended =>
    if ended then .finish none
    else .call .peek fun rune =>
      if rune != expected then .finish none
      else .call .read fun rune => .goto (text, value.push rune)

theorem run_literalProgram (type : TokenType) (text : List Char) (value : String) (r : Reader) :
    Prog.Run (literalProgram type) base (.goto (text, value)) r
      ((r.readLiteral text value).1.map (Token.draft type)) (r.readLiteral text value).2 := by
  induction text generalizing r value with
  | nil => exact .goto .finish
  | cons c text ih =>
    refine .goto (.atEnd ?_)
    rw [readLiteral]
    by_cases h : r.atEnd = true
    · rw [if_pos h, if_pos (by simp [h])]
      exact .finish
    · rw [if_neg h]
      refine .peek ?_
      by_cases hc : (r.peek != c) = true
      · rw [if_pos hc, if_pos (by simp [hc])]
        exact .finish
      · rw [if_neg hc, if_neg (by simp [h, hc])]
        exact .read (ih _ _)

/-- `Reader.readUntil` as calls; the label is the value so far. -/
def shortestProgram (accepts : String → Bool) (type : TokenType) (value : String) :
    Prog String (Option Token) :=
  .call .atEnd fun ended =>
    if ended then .finish none
    else .call .read fun rune =>
      if accepts (value.push rune) then .finish (some (Token.draft type (value.push rune)))
      else .goto (value.push rune)

theorem run_shortestProgram (accepts : String → Bool) (type : TokenType) (value : String)
    (r : Reader) :
    Prog.Run (shortestProgram accepts type) base (.goto value) r
      ((r.readUntil accepts value).1.map (Token.draft type)) (r.readUntil accepts value).2 := by
  fun_induction Reader.readUntil accepts value r with
  | case1 value r h =>
    refine .goto (.atEnd ?_)
    rw [if_pos h]
    exact .finish
  | case2 value r h next hc =>
    refine .goto (.atEnd ?_)
    rw [if_neg h]
    refine .read ?_
    rw [if_pos hc]
    exact .finish
  | case3 value r h next hc ih =>
    refine .goto (.atEnd ?_)
    rw [if_neg h]
    refine .read ?_
    rw [if_neg hc]
    exact ih

/-- `Reader.readQuoted` as calls; the label is the delimiter, whether the last rune was a backslash,
and the value so far. -/
def quotedProgram (type : TokenType) :
    Char × Bool × String → Prog (Char × Bool × String) (Option Token)
  | (delimiter, escaped, value) => .call .atEnd fun ended =>
    if ended then .finish none
    else .call .read fun rune =>
      if rune = '\\' then .goto (delimiter, true, value)
      else if !escaped && rune = delimiter then
        .finish (some (Token.draft type (value.push delimiter)))
      else .goto (delimiter, false, value.push rune)

theorem run_quotedProgram (type : TokenType) (delimiter : Char) (escaped : Bool) (value : String)
    (r : Reader) :
    Prog.Run (quotedProgram type) base (.goto (delimiter, escaped, value)) r
      ((r.readQuoted delimiter escaped value).1.map (Token.draft type))
      (r.readQuoted delimiter escaped value).2 := by
  fun_induction Reader.readQuoted delimiter escaped value r with
  | case1 escaped value r h =>
    refine .goto (.atEnd ?_)
    rw [if_pos h]
    exact .finish
  | case2 escaped value r h rune hc ih =>
    refine .goto (.atEnd ?_)
    rw [if_neg h]
    refine .read ?_
    rw [if_pos hc]
    exact ih
  | case3 escaped value r h rune hc hend =>
    refine .goto (.atEnd ?_)
    rw [if_neg h]
    refine .read ?_
    rw [if_neg hc, if_pos hend]
    exact .finish
  | case4 escaped value r h rune hc hend ih =>
    refine .goto (.atEnd ?_)
    rw [if_neg h]
    refine .read ?_
    rw [if_neg hc, if_neg hend]
    exact ih

/-- Every built-in strategy is a program of calls. -/
theorem respectful (m : Matcher) : Consumer.Respectful m.attempt := by
  induction m with
  | oneOf type allowed =>
    let start : Prog Unit (Option Token) := .call .read fun rune =>
      .finish (if allowed.contains rune then some (Token.draft type rune.toString) else none)
    exact ⟨Unit, fun _ => start, start, fun r _ => .read .finish⟩
  | runOf type runes =>
    exact ⟨_, _, _, fun r _ => run_runProgram runes.contains type "" r⟩
  | classRun type classes =>
    exact ⟨_, _, _, fun r _ => run_runProgram (fun rune => classes.any (· rune)) type "" r⟩
  | literal type text => exact ⟨_, _, _, fun r _ => run_literalProgram type text "" r⟩
  | quoted type =>
    let start : Prog (Char × Bool × String) (Option Token) := .call .read fun rune =>
      if rune = '"' || rune = '\'' then .goto (rune, false, rune.toString) else .finish none
    refine ⟨_, quotedProgram type, start, fun r _ => .read ?_⟩
    rw [attempt]
    by_cases h : (decide (r.read.1 = '"') || decide (r.read.1 = '\'')) = true
    · simp only [h, ↓reduceIte]
      exact run_quotedProgram type r.read.1 false r.read.1.toString r.read.2
    · simp only [h, Bool.false_eq_true, ↓reduceIte]
      exact .finish
  | shortest type accepts => exact ⟨_, _, _, fun r _ => run_shortestProgram accepts type "" r⟩
  | validated accepts inner ih =>
    obtain ⟨σ, blocks, start, run⟩ := ih
    let accepted (token : Option Token) := token.filter (accepts ·.value)
    refine ⟨σ, fun label => (blocks label).map accepted, start.map accepted, fun r hr => ?_⟩
    rw [attempt_validated]
    exact (run r hr).map accepted

theorem balanced (m : Matcher) : Consumer.Balanced m.attempt :=
  ⟨m.respectful, fun r _ => by rw [m.attempt_marks]⟩

theorem balanced_of_mem_map (matchers : List Matcher) :
    ∀ c ∈ matchers.map (·.attempt), Consumer.Balanced c := by
  intro c hc
  obtain ⟨m, -, rfl⟩ := List.mem_map.mp hc
  exact m.balanced

end Matcher

end LexTree
