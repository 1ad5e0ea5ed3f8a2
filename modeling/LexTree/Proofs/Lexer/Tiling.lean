import LexTree.Proofs.Consumer.Value
import LexTree.Proofs.Lexer.Isolated
import Mathlib.Data.List.Chain

/-!
# Tokens tile the text

The tokens of a lexer of built-in strategies lie end to end over the text. What
is missing from the values is no more than the backslashes of quoted literals.

- `Lexer.ofMatchers` is a lexer of built-in strategies.
- `Matcher.taken?_eq_some`: a strategy takes a stretch of the text, and the
  token's value is made of it.
- `Lexer.Tiles`: a token reaches up to the next one.
- `Lexer.tokenize_tiles`: the tokens of a text.
-/

namespace LexTree

variable {text : Array Char} {offset stop : Nat} {token : Token}

/-! ## One token -/

namespace Matcher

/-- What `m` takes at `offset` is the stretch of `text` from there to `stop`, and the value of the
token is what `textOf` makes of it. -/
theorem taken?_eq_some {m : Matcher} (ho : offset < text.size)
    (h : Consumer.taken? text offset m.attempt = some (token, stop)) :
    token.offset = offset ∧ offset < stop ∧ stop ≤ text.size ∧
      token.value = String.ofList (m.textOf (text.toList.extract offset stop)) := by
  have hrest : (Reader.mk text offset []).rest ≠ [] := by
    rw [← List.length_pos_iff, Reader.length_rest]
    exact Nat.sub_pos_of_lt ho
  rw [Consumer.taken?] at h
  split at h
  · next draft after hattempt =>
    obtain ⟨n, hn, rfl, hvalue⟩ := value_of_attempt hrest hattempt
    rw [Reader.length_rest] at hn
    split at h
    · next hlt =>
      cases h
      refine ⟨rfl, hlt, ?_, ?_⟩
      · simp only [Reader.advance, Reader.size] at hn ⊢
        omega
      · rw [hvalue, List.extract_eq_take_drop, Reader.advance,
          Nat.add_sub_cancel_left]
        rfl
    · cases h
  · cases h

/-- A token whose value `textOf` makes of the `runes` that it covers ends where those do, unless a
backslash was dropped, and before it otherwise. -/
theorem stop_of_value {m : Matcher} {runes : List Char}
    (hvalue : token.value = String.ofList (m.textOf runes))
    (hlength : token.offset + runes.length = stop) :
    token.stop ≤ stop ∧ (token.stop = stop ↔ (m.isQuoted = true → '\\' ∉ runes)) := by
  have hle := m.length_textOf_le runes
  have hstop : token.stop = token.offset + (m.textOf runes).length := by
    rw [Token.stop, Token.length, hvalue, String.length_ofList]
  rw [← m.length_textOf_eq_iff]
  omega

/-- Whether `m` takes something at `offset`. -/
def takesAt (text : Array Char) (offset : Nat) (m : Matcher) : Bool :=
  (Consumer.taken? text offset m.attempt).isSome

/-- What the first strategy takes that takes something is what is taken. -/
theorem findSome?_taken? (matchers : List Matcher) (text : Array Char) (offset : Nat) :
    (matchers.map (·.attempt)).findSome? (Consumer.taken? text offset) =
      (matchers.find? (takesAt text offset)).bind (Consumer.taken? text offset ·.attempt) := by
  induction matchers with
  | nil => rfl
  | cons m matchers ih =>
    rw [List.map_cons, List.findSome?_cons, List.find?_cons, takesAt]
    cases h : Consumer.taken? text offset m.attempt with
    | none => exact ih
    | some x => exact h.symm

end Matcher

namespace Lexer

/-- A lexer of built-in strategies. -/
def ofMatchers (endType errorType : TokenType) (matchers : List Matcher) : Lexer :=
  ⟨endType, errorType, matchers.map (·.attempt)⟩

theorem balanced_of_mem_ofMatchers (endType errorType : TokenType) (matchers : List Matcher) :
    ∀ c ∈ (ofMatchers endType errorType matchers).consumers, c.Balanced :=
  Matcher.balanced_of_mem_map matchers

/-- The token `t` covers the text up to `u`: the first of `matchers` that takes something there has
taken it, and its value is what `textOf` makes of the stretch. -/
def Tiles (matchers : List Matcher) (text : Array Char) (t u : Token) : Prop :=
  t.offset < u.offset ∧ u.offset ≤ text.size ∧
    ∃ m, matchers.find? (·.takesAt text t.offset) = some m ∧
      Consumer.taken? text t.offset m.attempt = some (t, u.offset) ∧
      t.value = String.ofList (m.textOf (text.toList.extract t.offset u.offset))

/-! ## Whole scans -/

variable {l : Lexer} {matchers : List Matcher}

/-- From `offset` on, tokens lie end to end, and if the scan is `complete` they reach the end of the
text. -/
theorem tiles_isolatedScan (hl : l.consumers = matchers.map (·.attempt)) (ho : offset ≤ text.size) :
    (∀ t ∈ (l.isolatedScan text offset).all.head?, t.offset = offset) ∧
      (l.isolatedScan text offset).all.IsChain (Tiles matchers text) ∧
      ((l.isolatedScan text offset).status = .complete →
        (l.isolatedScan text offset).last = ⟨l.endType, "", text.size, 0, 0⟩) := by
  generalize hn : text.size - offset = n
  induction n using Nat.strongRecOn generalizing offset with
  | ind n ih =>
    rcases Nat.lt_or_ge offset text.size with hlt | hge
    · cases hm : l.consumers.findSome? (·.taken? text offset) with
      | none =>
        rw [isolatedScan_of_none hlt hm]
        refine ⟨?_, List.isChain_singleton _, ScanStatus.noConfusion⟩
        rintro t ⟨⟩
        rfl
      | some found =>
        obtain ⟨token, stop⟩ := found
        rw [isolatedScan_of_some hlt hm]
        rw [hl, Matcher.findSome?_taken?, Option.bind_eq_some_iff] at hm
        obtain ⟨m, hfirst, htaken⟩ := hm
        obtain ⟨rfl, hstop, hle, hvalue⟩ := Matcher.taken?_eq_some hlt htaken
        obtain ⟨hhead, hchain, hlast⟩ := ih (text.size - stop) (by omega) hle rfl
        refine ⟨?_, List.isChain_cons.mpr ⟨fun u hu => ?_, hchain⟩, hlast⟩
        · rintro t ⟨⟩
          rfl
        · rw [← hhead u hu] at hstop hle hvalue htaken
          exact ⟨hstop, hle, m, hfirst, htaken, hvalue⟩
    · rw [isolatedScan_of_size_le hge]
      refine ⟨?_, List.isChain_singleton _, fun _ => ?_⟩
      · rintro t ⟨⟩
        rfl
      · rw [Nat.le_antisymm ho hge]
        rfl

/-- With balanced consumers `tokenize` emits the tokens of `isolatedScan`. -/
theorem tokenize_eq_isolatedScan (hl : ∀ c ∈ l.consumers, c.Balanced)
    (source : String) :
    (l.tokenize source).output.toList = (l.isolatedScan source.toList.toArray 0).all ∧
      (l.tokenize source).status = (l.isolatedScan source.toList.toArray 0).status := by
  obtain ⟨log, h⟩ := scan_eq_isolatedScan hl .collect (rounds (.ofString source))
    (Nat.zero_le source.toList.toArray.size) [] (Nat.lt_add_of_pos_right (by decide)) #[] #[]
  have htokenize : l.tokenize source = l.scan .collect (rounds (.ofString source))
      ⟨source.toList.toArray, 0, []⟩ #[] #[] := rfl
  rw [htokenize, h, Sink.feed_collect, Array.empty_append]
  exact ⟨rfl, rfl⟩

/-- The tokens of `ofMatchers`, for any strategies, tile the text. The first one is at its start,
and each reaches up to the next by `Tiles`: over a stretch that is not empty, which the first of
`matchers` that takes something there has taken, and which is the value, but for the backslashes if
the innermost strategy is `quoted`. So a token ends at the next one unless a backslash was dropped,
and before it otherwise. If nothing fails, the last token is at the end of the text. -/
theorem tokenize_tiles (endType errorType : TokenType) (matchers : List Matcher)
    (source : String) :
    let session := (ofMatchers endType errorType matchers).tokenize source
    let text := source.toList.toArray
    session.output.toList.head?.map (·.offset) = some 0 ∧
      session.output.toList.IsChain (fun t u =>
        let stretch := source.toList.extract t.offset u.offset
        t.offset < u.offset ∧ u.offset ≤ source.length ∧
          ∃ m, matchers.find? (·.takesAt text t.offset) = some m ∧
            Consumer.taken? text t.offset m.attempt = some (t, u.offset) ∧
            t.value = String.ofList
              (if m.isQuoted then stretch.filter (· ≠ '\\') else stretch) ∧
            t.stop ≤ u.offset ∧
            (t.stop = u.offset ↔ (m.isQuoted = true → '\\' ∉ stretch))) ∧
      (session.status = .complete →
        session.output.toList.getLast? = some ⟨endType, "", source.length, 0, 0⟩) := by
  dsimp only
  obtain ⟨houtput, hstatus⟩ := tokenize_eq_isolatedScan
    (balanced_of_mem_ofMatchers endType errorType matchers) source
  obtain ⟨hhead, hchain, hlast⟩ := tiles_isolatedScan
    (l := ofMatchers endType errorType matchers) rfl (Nat.zero_le source.toList.toArray.size)
  rw [houtput, hstatus]
  refine ⟨?_, hchain.imp fun t u htiles => ?_, fun hcomplete => ?_⟩
  · obtain ⟨t, tokens, ht⟩ := List.exists_cons_of_ne_nil
      ((ofMatchers endType errorType matchers).isolatedScan source.toList.toArray 0).all_ne_nil
    rw [ht] at hhead ⊢
    exact congrArg some (hhead t rfl)
  · obtain ⟨hlt, hle, m, hfirst, htaken, hvalue⟩ := htiles
    have hlength : t.offset + (source.toList.extract t.offset u.offset).length = u.offset := by
      rw [List.extract_eq_take_drop, List.length_take, List.length_drop]
      have : u.offset ≤ source.toList.length := hle
      omega
    obtain ⟨hstop, hiff⟩ := m.stop_of_value hvalue hlength
    exact ⟨hlt, hle, m, hfirst, htaken, hvalue, hstop, hiff⟩
  · rw [Stream.all, List.getLast?_concat, hlast hcomplete]
    rfl

/-- An escaped quote does not close the literal, whose value is one rune shorter than what it
covers. -/
example : ((ofMatchers ⟨"EOF"⟩ ⟨"ERR"⟩ [.validated (fun _ => true) (.quoted ⟨"STRING"⟩),
    .shortest ⟨"RUNE"⟩ fun _ => true]).tokenize "'\\''\uFFFD").output.toList.map
      (fun t => (t.offset, t.value)) = [(0, "'''"), (4, "\uFFFD"), (5, "")] := by
  rw [(tokenize_eq_isolatedScan (balanced_of_mem_ofMatchers _ _ _) _).1]
  decide +kernel

end Lexer

end LexTree
