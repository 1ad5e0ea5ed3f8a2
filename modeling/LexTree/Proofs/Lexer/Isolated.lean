import LexTree.Proofs.Consumer.Builtin
import LexTree.Proofs.Lexer.Stream

/-!
# Scans in which attempts do not touch each other

All consumers of a scan share one reader, which those that fail leave anywhere.
If each of them leaves the marks as they were, the scan is nevertheless one in
which every attempt has a reader of its own.

- `Lexer.isolatedScan` is that scan: at each position the first consumer, in
  order, that gets past it.
- `firstMatch_of_balanced`: one position of the two scans.
- `Lexer.status_eq_complete_iff`: a scan is complete if nothing is left to read.
- `Lexer.lex_eq_isolatedScan`: the whole scan emits the same tokens to any sink,
  ends the same way, at its last token, and with the marks it began with.
-/

namespace LexTree

/-- What `c` takes at `offset` when it is asked on a reader of its own: its token, placed there, and
where it ends, if that is past `offset`. -/
def Consumer.taken? (text : Array Char) (offset : Nat) (c : Consumer) : Option (Token × Nat) :=
  match c ⟨text, offset, []⟩ with
  | (some token, after) =>
    if offset < after.offset then some ({ token with offset }, after.offset) else none
  | (none, _) => none

theorem Consumer.lt_of_taken? {text : Array Char} {offset : Nat} {c : Consumer} {token : Token}
    {stop : Nat} (h : c.taken? text offset = some (token, stop)) : offset < stop := by
  unfold Consumer.taken? at h
  split at h
  · split at h
    · cases h; assumption
    · cases h
  · cases h

/-- A respectful consumer ends within `text`. -/
theorem Consumer.stop_le_of_taken? {text : Array Char} {offset : Nat} {c : Consumer}
    {token : Token} {stop : Nat} (hc : c.Respectful) (ho : offset ≤ text.size)
    (h : c.taken? text offset = some (token, stop)) : stop ≤ text.size := by
  obtain ⟨hrunes, hwithin⟩ := hc.within ho
  have hle := hwithin.le_size
  rw [Reader.size, hrunes] at hle
  unfold Consumer.taken? at h
  split at h
  · next heq =>
    rw [heq] at hle
    split at h
    · cases h; exact hle
    · cases h
  · cases h

namespace Lexer

/-- The scan of `text` from `offset` in which every attempt has a reader of its own: the first
consumer with `Consumer.taken?` has matched. -/
def isolatedScan (l : Lexer) (text : Array Char) (offset : Nat) : Stream :=
  if text.size ≤ offset then .ofLast ⟨l.endType, "", offset, 0, 0⟩ .complete
  else
    match _h : l.consumers.findSome? (·.taken? text offset) with
    | some (token, stop) => (l.isolatedScan text stop).cons token
    | none => .ofLast ⟨l.errorType, errorText, offset, 0, 0⟩ (.failed offset)
termination_by text.size - offset
decreasing_by
  obtain ⟨c, -, hc⟩ := List.exists_of_findSome?_eq_some ‹_›
  have := Consumer.lt_of_taken? hc
  omega

variable {l : Lexer} {text : Array Char} {offset : Nat}

theorem isolatedScan_of_size_le (h : text.size ≤ offset) :
    l.isolatedScan text offset =
      .ofLast ⟨l.endType, "", offset, 0, 0⟩ .complete := by
  rw [isolatedScan, if_pos h]

theorem isolatedScan_of_some {token : Token} {stop : Nat} (h : offset < text.size)
    (hm : l.consumers.findSome? (·.taken? text offset) = some (token, stop)) :
    l.isolatedScan text offset = (l.isolatedScan text stop).cons token := by
  rw [isolatedScan, if_neg (Nat.not_le.mpr h)]
  split
  · next h' => rw [hm] at h'; cases h'; rfl
  · next h' => rw [hm] at h'; cases h'

theorem isolatedScan_of_none (h : offset < text.size)
    (hm : l.consumers.findSome? (·.taken? text offset) = none) :
    l.isolatedScan text offset =
      .ofLast ⟨l.errorType, errorText, offset, 0, 0⟩ (.failed offset) := by
  rw [isolatedScan, if_neg (Nat.not_le.mpr h)]
  split
  · next h' => rw [hm] at h'; cases h'
  · rfl

/-- The scan ends by itself: behind the runes if it is `complete`, and otherwise in front of one,
which is where it tells that it has `failed`. -/
theorem isolatedScan_ending (l : Lexer) (text : Array Char) (offset : Nat) :
    let s := l.isolatedScan text offset
    s.status = .complete ∧ text.size ≤ s.last.offset ∨
      s.status = .failed s.last.offset ∧ s.last.offset < text.size := by
  fun_induction l.isolatedScan text offset with
  | case1 offset hend => exact .inl ⟨rfl, hend⟩
  | case2 offset hend token stop htaken ih => exact ih
  | case3 offset hend hnone => exact .inr ⟨rfl, Nat.not_le.mp hend⟩

end Lexer

/-! ## One position -/

/-- With balanced consumers `firstMatch` is the first of them with `taken?`, and the marks are as
before; if there is none, the reader is as it was. -/
theorem firstMatch_of_balanced {cs : List Consumer} (hcs : ∀ c ∈ cs, c.Balanced)
    {text : Array Char} {offset : Nat} (ho : offset ≤ text.size) (marks : List Nat) (index : Nat)
    (log : Log) :
    ((firstMatch cs index ⟨text, offset, marks⟩ log).1.map (·.2),
        (firstMatch cs index ⟨text, offset, marks⟩ log).2.1) =
      match cs.findSome? (·.taken? text offset) with
      | some (token, stop) => (some token, ⟨text, stop, marks⟩)
      | none => (none, ⟨text, offset, marks⟩) := by
  induction cs generalizing index log with
  | nil => rfl
  | cons c cs ih =>
    obtain ⟨hc, hcs⟩ := List.forall_mem_cons.mp hcs
    rw [firstMatch_cons, List.findSome?_cons]
    rw [show (Reader.mk text offset marks).mark.2 = ⟨text, offset, offset :: marks⟩ from rfl,
      hc.atop ho, Consumer.taken?]
    rcases c ⟨text, offset, []⟩ with ⟨_ | token, after⟩
    · exact ih hcs _ _
    · by_cases h : offset < after.offset
      · simp [h, Reader.commit, Token.placedAt]
      · simp only [h, if_false, Reader.rewind]
        exact ih hcs _ _

/-! ## Whole scans -/

namespace Lexer

variable {σ : Type} {l : Lexer}

/-- With balanced consumers and enough rounds `scan` is `isolatedScan`, whatever the sink is. -/
theorem scan_eq_isolatedScan (hl : ∀ c ∈ l.consumers, c.Balanced) (sink : Sink σ) (rounds : Nat)
    {text : Array Char} {offset : Nat} (ho : offset ≤ text.size) (marks : List Nat)
    (hrounds : text.size - offset < rounds) (output : σ) (log : Log) :
    ∃ log', l.scan sink rounds ⟨text, offset, marks⟩ output log =
      ⟨(l.isolatedScan text offset).status, ⟨text, (l.isolatedScan text offset).last.offset, marks⟩,
        sink.feed output (l.isolatedScan text offset).all, log'⟩ := by
  induction rounds generalizing offset output log with
  | zero => exact absurd hrounds (Nat.not_lt_zero _)
  | succ rounds ih =>
    by_cases hend : text.size ≤ offset
    · have hend' : (Reader.mk text offset marks).atEnd = true := decide_eq_true hend
      rw [isolatedScan_of_size_le hend, scan_of_atEnd hend']
      exact ⟨_, rfl⟩
    · have hlt : offset < text.size := Nat.not_le.mp hend
      have hend' : ¬ (Reader.mk text offset marks).atEnd = true := fun h =>
        hend (of_decide_eq_true h)
      have hm := firstMatch_of_balanced hl ho marks 0 log
      obtain ⟨hit, r', log', hf⟩ :
          ∃ hit r' log', firstMatch l.consumers 0 ⟨text, offset, marks⟩ log = (hit, r', log') :=
        ⟨_, _, _, rfl⟩
      rw [hf] at hm
      cases htaken : l.consumers.findSome? (·.taken? text offset) with
      | none =>
        rw [htaken, Prod.mk.injEq, Option.map_eq_none_iff] at hm
        obtain ⟨rfl, rfl⟩ := hm
        rw [isolatedScan_of_none hlt htaken, scan_of_none hend' hf]
        exact ⟨_, rfl⟩
      | some found =>
        obtain ⟨taken, stop⟩ := found
        rw [htaken, Prod.mk.injEq, Option.map_eq_some_iff] at hm
        obtain ⟨⟨⟨index, token⟩, rfl, rfl⟩, rfl⟩ := hm
        obtain ⟨c, hc, htc⟩ := List.exists_of_findSome?_eq_some htaken
        have hstop := Consumer.lt_of_taken? htc
        have hle : stop ≤ text.size := Consumer.stop_le_of_taken? (hl c hc).1 ho htc
        obtain ⟨log'', hscan⟩ := ih hle (by omega) (sink.visit output token).1
          (log'.push (.emitted index token.type token.value token.offset) ++
            (sink.visit output token).2)
        rw [isolatedScan_of_some hlt htaken, scan_of_some hend' hf, hscan]
        exact ⟨_, rfl⟩

/-- With balanced consumers a scan is `complete` if and only if it leaves nothing to read. -/
theorem status_eq_complete_iff (hl : ∀ c ∈ l.consumers, c.Balanced) (sink : Sink σ) {r : Reader}
    (hr : r.offset ≤ r.size) (output : σ) :
    (l.lex sink r output).status = .complete ↔ (l.lex sink r output).reader.atEnd = true := by
  obtain ⟨text, offset, marks⟩ := r
  obtain ⟨log, h⟩ := scan_eq_isolatedScan hl sink (rounds ⟨text, offset, marks⟩) hr marks
    (Nat.lt_add_of_pos_right (by decide)) output #[]
  rw [lex, h]
  rcases l.isolatedScan_ending text offset with ⟨hcomplete, hend⟩ | ⟨hfailed, hlt⟩
  · exact iff_of_true hcomplete (decide_eq_true hend)
  · refine iff_of_false ?_ fun hend => Nat.not_le.mpr hlt (of_decide_eq_true hend)
    rw [hfailed]
    exact ScanStatus.noConfusion

/-- From any state of the reader `r`, with balanced consumers and any `sink`, `lex` emits the tokens
of `isolatedScan`, in which every attempt has a reader of its own, and has its status. The reader
ends at the last token, with the marks it began with. -/
theorem lex_eq_isolatedScan (hl : ∀ c ∈ l.consumers, c.Balanced) (sink : Sink σ) (r : Reader)
    (hr : r.offset ≤ r.size) (output : σ) :
    (l.lex sink r output).output = sink.feed output (l.isolatedScan r.runes r.offset).all ∧
      (l.lex sink r output).status = (l.isolatedScan r.runes r.offset).status ∧
      (l.lex sink r output).reader =
        { r with offset := (l.isolatedScan r.runes r.offset).last.offset } := by
  obtain ⟨text, offset, marks⟩ := r
  obtain ⟨log, h⟩ := scan_eq_isolatedScan hl sink (rounds ⟨text, offset, marks⟩) hr marks
    (by simp [rounds, Reader.remaining, Reader.size]) output #[]
  rw [lex, h]
  exact ⟨rfl, rfl, rfl⟩

/-- Parentheses, literals and words: at `'` the first two consumers fail past the position. -/
def wordLexer : Lexer :=
  ⟨⟨"EOF"⟩, ⟨"ERR"⟩, [Matcher.oneOf ⟨"OPEN"⟩ ['('], .quoted ⟨"STRING"⟩,
    .runOf ⟨"WORD"⟩ ['a', 'b']].map (·.attempt)⟩

theorem wordLexer_balanced : ∀ c ∈ wordLexer.consumers, c.Balanced :=
  Matcher.balanced_of_mem_map _

/-- From the second rune of `(ab'`, with two marks on the stack. -/
theorem lex_eq_isolatedScan_wordLexer :
    (∀ c ∈ wordLexer.consumers, c.Balanced) ∧
      (Reader.mk #['(', 'a', 'b', '\''] 1 [2, 0]).offset ≤
        (Reader.mk #['(', 'a', 'b', '\''] 1 [2, 0]).size ∧
      wordLexer.isolatedScan #['(', 'a', 'b', '\''] 1 =
        ⟨[⟨⟨"WORD"⟩, "ab", 1, 0, 0⟩], ⟨⟨"ERR"⟩, errorText, 3, 0, 0⟩, .failed 3⟩ ∧
      (wordLexer.lex .collect ⟨#['(', 'a', 'b', '\''], 1, [2, 0]⟩ #[]).reader =
        ⟨#['(', 'a', 'b', '\''], 3, [2, 0]⟩ := by
  have h := lex_eq_isolatedScan wordLexer_balanced .collect ⟨#['(', 'a', 'b', '\''], 1, [2, 0]⟩
    (by decide) #[]
  have hscan : wordLexer.isolatedScan #['(', 'a', 'b', '\''] 1 =
      ⟨[⟨⟨"WORD"⟩, "ab", 1, 0, 0⟩], ⟨⟨"ERR"⟩, errorText, 3, 0, 0⟩, .failed 3⟩ := by decide +kernel
  refine ⟨wordLexer_balanced, by decide, hscan, ?_⟩
  rw [h.2.2, hscan]

end Lexer

end LexTree
