import LexTree.Proofs.Lexer.Tiling

/-!
# Scans of the rest of a text

The built-in strategies see what is left to read and nothing else: neither the runes before the
reader, nor the number of these, nor the marks. So a scan from within a text is the scan of its
rest, with all offsets counted from further back.

- `Token.behind`, `ScanStatus.behind`, `Stream.behind`: the same after so many runes more.
- `Matcher.taken?_append`: what a strategy takes from a text behind another.
- `Lexer.isolatedScan_append`: the scan of a text behind another.
- `Lexer.lex_append`: what is emitted there, on any stack of marks and to any sink.
-/

namespace LexTree

/-! ## Behind another text -/

/-- The token `t` with `count` more runes in front of it. -/
def Token.behind (t : Token) (count : Nat) : Token := { t with offset := count + t.offset }

/-- The same ending with `count` more runes in front. -/
def ScanStatus.behind : ScanStatus → Nat → ScanStatus
  | .failed offset, count => .failed (count + offset)
  | .complete, _ => .complete
  | .endless, _ => .endless

/-- The stream `s` with `count` more runes in front. -/
def Stream.behind (s : Stream) (count : Nat) : Stream :=
  ⟨s.tokens.map (·.behind count), s.last.behind count, s.status.behind count⟩

theorem Stream.all_behind (s : Stream) (count : Nat) :
    (s.behind count).all = s.all.map (·.behind count) := by
  rw [all, all, List.map_append]
  rfl

theorem Reader.rest_append (front text : Array Char) (offset : Nat) (marks marks' : List Nat) :
    (Reader.mk (front ++ text) (front.size + offset) marks).rest =
      (Reader.mk text offset marks').rest := by
  rw [Reader.rest, Reader.rest, Array.toList_append, ← Array.length_toList]
  exact List.drop_length_add_append offset

/-- What a strategy takes from `text` it also takes from there behind `front`. -/
theorem Matcher.taken?_append (m : Matcher) (front text : Array Char) (offset : Nat) :
    Consumer.taken? (front ++ text) (front.size + offset) m.attempt =
      (Consumer.taken? text offset m.attempt).map
        fun (token, stop) => (token.behind front.size, front.size + stop) := by
  obtain ⟨hdraft, n, hafter, hafter'⟩ :=
    m.attempt_of_rest (Reader.rest_append front text offset [] [])
  have hbehind : m.attempt ⟨front ++ text, front.size + offset, []⟩ =
      ((m.attempt ⟨text, offset, []⟩).1, ⟨front ++ text, front.size + offset + n, []⟩) :=
    Prod.ext hdraft hafter
  have halone : m.attempt ⟨text, offset, []⟩ =
      ((m.attempt ⟨text, offset, []⟩).1, ⟨text, offset + n, []⟩) := Prod.ext rfl hafter'
  rw [Consumer.taken?, Consumer.taken?, hbehind, halone]
  cases (m.attempt ⟨text, offset, []⟩).1 with
  | none => rfl
  | some draft =>
    by_cases hn : 0 < n
    · simp [hn, Token.behind, Nat.add_assoc]
    · simp [hn]

namespace Lexer

variable {l : Lexer} {matchers : List Matcher}

/-- At a position behind `front` the same strategy takes the same. -/
theorem findSome?_append (hl : l.consumers = matchers.map (·.attempt)) (front text : Array Char)
    (offset : Nat) :
    l.consumers.findSome? (·.taken? (front ++ text) (front.size + offset)) =
      (l.consumers.findSome? (·.taken? text offset)).map
        fun (token, stop) => (token.behind front.size, front.size + stop) := by
  rw [hl, List.findSome?_map, List.findSome?_map, List.map_findSome?]
  congr 1
  funext m
  exact m.taken?_append front text offset

/-- The scan of `text` behind `front` is that of `text` with `front.size` more runes in front. -/
theorem isolatedScan_append (hl : l.consumers = matchers.map (·.attempt))
    (front text : Array Char) (offset : Nat) :
    l.isolatedScan (front ++ text) (front.size + offset) =
      (l.isolatedScan text offset).behind front.size := by
  generalize hn : text.size - offset = n
  induction n using Nat.strongRecOn generalizing offset with
  | ind n ih =>
    rcases Nat.lt_or_ge offset text.size with hlt | hge
    · have hlt' : front.size + offset < (front ++ text).size := by
        rw [Array.size_append]
        omega
      have hbehind := findSome?_append hl front text offset
      cases hm : l.consumers.findSome? (·.taken? text offset) with
      | none =>
        rw [hm] at hbehind
        rw [isolatedScan_of_none hlt hm, isolatedScan_of_none hlt' hbehind]
        rfl
      | some found =>
        obtain ⟨token, stop⟩ := found
        obtain ⟨c, -, htaken⟩ := List.exists_of_findSome?_eq_some hm
        have hstop := Consumer.lt_of_taken? htaken
        rw [hm] at hbehind
        rw [isolatedScan_of_some hlt hm, isolatedScan_of_some hlt' hbehind,
          ih (text.size - stop) (by omega) stop rfl]
        rfl
    · have hge' : (front ++ text).size ≤ front.size + offset := by
        rw [Array.size_append]
        omega
      rw [isolatedScan_of_size_le hge, isolatedScan_of_size_le hge']
      rfl

/-- From the end of `front` on, with whatever `marks`, `lex` emits to any `sink` the tokens of
`source` alone, with the runes of `front` added to their offsets, and has the status of that scan.
The marks stay as they are. -/
theorem lex_append (endType errorType : TokenType) (matchers : List Matcher)
    (front source : String) (marks : List Nat) {σ : Type} (sink : Sink σ) (output : σ) :
    let l := ofMatchers endType errorType matchers
    let session := l.lex sink ⟨(front ++ source).toList.toArray, front.length, marks⟩ output
    session.output =
        sink.feed output ((l.tokenize source).output.toList.map (·.behind front.length)) ∧
      session.status = (l.tokenize source).status.behind front.length ∧
      session.status ≠ .endless ∧ session.reader.marks = marks := by
  intro l session
  have hl : ∀ c ∈ l.consumers, c.Balanced := balanced_of_mem_ofMatchers endType errorType matchers
  obtain ⟨htokens, hstatus⟩ := tokenize_eq_isolatedScan hl source
  -- The runes before the position are those of the front.
  have htext : (front ++ source).toList.toArray =
      front.toList.toArray ++ source.toList.toArray := by
    rw [String.toList_append, List.append_toArray]
  have hfront : front.toList.toArray.size = front.length := String.length_toList
  have hwithin : front.length ≤ (front ++ source).toList.toArray.size := by
    rw [htext, Array.size_append, hfront]
    exact Nat.le_add_right _ _
  have hscan : l.isolatedScan (front ++ source).toList.toArray front.length =
      (l.isolatedScan source.toList.toArray 0).behind front.length := by
    have hconsumers : l.consumers = matchers.map (·.attempt) := rfl
    have h := isolatedScan_append hconsumers front.toList.toArray source.toList.toArray 0
    rwa [← htext, hfront] at h
  obtain ⟨log, h⟩ := scan_eq_isolatedScan hl sink
    (rounds ⟨(front ++ source).toList.toArray, front.length, marks⟩) hwithin marks
    (Nat.lt_add_of_pos_right (by decide)) output #[]
  have hsession : session = _ := h
  rw [hsession]
  refine ⟨?_, ?_, ?_, rfl⟩
  · rw [hscan, Stream.all_behind, htokens]
  · rw [hscan, hstatus]
    rfl
  · rcases l.isolatedScan_ending (front ++ source).toList.toArray front.length with
      ⟨hcomplete, -⟩ | ⟨hfailed, -⟩
    · rw [hcomplete]
      exact ScanStatus.noConfusion
    · rw [hfailed]
      exact ScanStatus.noConfusion

end Lexer

end LexTree
