import LexTree.Proofs.Consumer.Script
import LexTree.Proofs.Lexer.Stream

/-!
# Progress of scans

A consumer that leaves marks of its own behind makes the scanner commit and
rewind to those instead of its own. Since neither they nor the offset are ever
behind the position where the consumer was asked, the scan gets on all the same.

- `Reader.rewind_atop_cons` is the step: a rewind after an attempt ends between
  the position and the end of the text.
- `firstMatch_of_respectful`: one position never goes back, and a match leaves it
  behind.
- `Lexer.scan_induction` goes through a scan with respectful consumers, from
  position to position.
- `Stream.Orderly` are the streams of a scan, and `Lexer.lex_orderly` says that
  every scan with respectful consumers ends by itself with one of them.
- `Lexer.exists_lex_eq`: all sinks are fed the same tokens, and leave the reader
  at the same place.
-/

namespace LexTree

/-- A `rewind` after an attempt, which started from the mark `offset`, ends between `offset` and the
end of the text. -/
theorem Reader.rewind_atop_cons {s : Reader} {offset : Nat} (h : s.Within offset)
    (ho : offset ≤ s.size) (below : List Nat) :
    (s.atop (offset :: below)).rewind.runes = s.runes ∧
      offset ≤ (s.atop (offset :: below)).rewind.offset ∧
      (s.atop (offset :: below)).rewind.offset ≤ s.size := by
  obtain ⟨runes, place, marks⟩ := s
  cases marks with
  | nil => exact ⟨rfl, Nat.le_refl _, ho⟩
  | cons m marks =>
    obtain ⟨h₁, h₂⟩ := h.marks m (List.mem_cons_self ..)
    exact ⟨rfl, h₁, h₂⟩

/-- What one position leaves of a reader that stood at `r`: without a `hit` it may have moved on; a
`hit` is a draft of one of the consumers `cs`, placed where that was asked, and the reader `r'` is
past its place. -/
structure Passed (cs : List Consumer) (r : Reader) (hit : Option (Nat × Token)) (r' : Reader) :
    Prop where
  runes : r'.runes = r.runes
  le_offset : r.offset ≤ r'.offset
  offset_le : r'.offset ≤ r.size
  of_some : ∀ index token, hit = some (index, token) →
    r.offset ≤ token.offset ∧ token.offset < r'.offset ∧
      ∃ c ∈ cs, ∃ (asked : Reader) (draft : Token), (c asked).1 = some draft ∧
        token = { draft with offset := asked.offset }

theorem Passed.size {cs : List Consumer} {r r' : Reader} {hit : Option (Nat × Token)}
    (h : Passed cs r hit r') : r'.size = r.size := congrArg Array.size h.runes

/-- If `cs` leave `r'` of a reader that `c` has led to `r₁`, then `c :: cs` leave it of `r`. -/
theorem Passed.cons {c : Consumer} {cs : List Consumer} {r r₁ r' : Reader}
    {hit : Option (Nat × Token)} (h : Passed cs r₁ hit r') (hrunes : r₁.runes = r.runes)
    (hle : r.offset ≤ r₁.offset) : Passed (c :: cs) r hit r' := by
  refine ⟨h.runes.trans hrunes, Nat.le_trans hle h.le_offset, ?_, fun index token hhit => ?_⟩
  · have := h.offset_le
    rwa [Reader.size, hrunes] at this
  · obtain ⟨h₁, h₂, c', hmem, found⟩ := h.of_some index token hhit
    exact ⟨Nat.le_trans hle h₁, h₂, c', List.mem_cons_of_mem _ hmem, found⟩

/-- With respectful consumers `firstMatch` never goes back, and a match leaves its place behind. -/
theorem firstMatch_of_respectful {cs : List Consumer} (hcs : ∀ c ∈ cs, c.Respectful) (index : Nat)
    {r : Reader} (hr : r.offset ≤ r.size) (log : Log) :
    Passed cs r (firstMatch cs index r log).1 (firstMatch cs index r log).2.1 := by
  induction cs generalizing index r log with
  | nil => exact ⟨rfl, Nat.le_refl _, hr, fun _ _ h => by cases h⟩
  | cons c cs ih =>
    obtain ⟨hc, hcs⟩ := List.forall_mem_cons.mp hcs
    obtain ⟨text, offset, marks⟩ := r
    obtain ⟨hrunes, hwithin⟩ := hc.within hr
    have hatop : c (Reader.mk text offset marks).mark.2 = _ := hc.atop hr (offset :: marks)
    rw [firstMatch_cons, hatop]
    generalize hs : (c ⟨text, offset, []⟩).2 = s at hrunes hwithin
    have hsize : s.size = text.size := congrArg Array.size hrunes
    -- The consumers after this one are asked where the rewind has led.
    have hnext : ∀ log, Passed (c :: cs) ⟨text, offset, marks⟩
        (firstMatch cs (index + 1) (s.atop (offset :: marks)).rewind log).1
        (firstMatch cs (index + 1) (s.atop (offset :: marks)).rewind log).2.1 := by
      intro log
      obtain ⟨h₁, h₂, h₃⟩ := Reader.rewind_atop_cons hwithin (hsize ▸ hr) marks
      refine (ih hcs (index + 1) ?_ log).cons (h₁.trans hrunes) h₂
      rwa [Reader.size, h₁]
    cases htoken : (c ⟨text, offset, []⟩).1 with
    | none => exact hnext log
    | some draft =>
      by_cases hlt : offset < s.offset
      · simp only [Reader.atop_offset, hlt, if_true]
        refine ⟨hrunes, Nat.le_of_lt hlt, Nat.le_trans hwithin.le_size (Nat.le_of_eq hsize),
          fun i token hhit => ?_⟩
        cases hhit
        exact ⟨Nat.le_refl _, hlt, c, List.mem_cons_self .., ⟨text, offset, []⟩, draft, htoken, rfl⟩
      · simp only [Reader.atop_offset, hlt, if_false]
        exact hnext _

/-! ## Orderly streams -/

/-- A stream as a scan of `text` from `start` emits it. -/
structure Stream.Orderly (l : Lexer) (text : Array Char) (start : Nat) (s : Stream) : Prop where
  /-- The last token is not before the start, nor behind the text. -/
  last_bounds : start ≤ s.last.offset ∧ s.last.offset ≤ text.size
  /-- There are at most as many ordinary tokens as runes before the last token. -/
  length_le : s.tokens.length ≤ s.last.offset - start
  /-- Each ordinary token starts after the one before it. -/
  increasing : (s.tokens.map (·.offset)).Pairwise (· < ·)
  /-- They start between the start and the last token. -/
  bounds : ∀ t ∈ s.tokens, start ≤ t.offset ∧ t.offset < s.last.offset
  /-- Each is a draft of a consumer, placed where that was asked. -/
  drafted : ∀ t ∈ s.tokens, ∃ c ∈ l.consumers, ∃ (asked : Reader) (draft : Token),
    (c asked).1 = some draft ∧ t = { draft with offset := asked.offset }
  /-- The last token is one of the two that end a stream, at the place that the status tells. -/
  ending : (s.status = .complete ∧ s.last = ⟨l.endType, "", text.size, 0, 0⟩) ∨
    (s.status = .failed s.last.offset ∧
      s.last = ⟨l.errorType, errorText, s.last.offset, 0, 0⟩)

namespace Stream.Orderly

variable {l : Lexer} {text : Array Char} {start : Nat}

/-- A stream of the token `last` alone. -/
theorem ofLast {last : Token} {status : ScanStatus} (h₁ : start ≤ last.offset)
    (h₂ : last.offset ≤ text.size)
    (h : (status = .complete ∧ last = ⟨l.endType, "", text.size, 0, 0⟩) ∨
      (status = .failed last.offset ∧
        last = ⟨l.errorType, errorText, last.offset, 0, 0⟩)) :
    Orderly l text start (.ofLast last status) :=
  ⟨⟨h₁, h₂⟩, Nat.zero_le _, .nil, fun _ ht => (nomatch ht), fun _ ht => (nomatch ht), h⟩

/-- A stream from `stop` after `token`, which starts before it. -/
theorem cons {s : Stream} {stop : Nat} {token : Token} (hs : s.Orderly l text stop)
    (hstart : start ≤ token.offset) (hstop : token.offset < stop)
    (hdraft : ∃ c ∈ l.consumers, ∃ (asked : Reader) (draft : Token),
      (c asked).1 = some draft ∧ token = { draft with offset := asked.offset }) :
    (s.cons token).Orderly l text start := by
  obtain ⟨hlast, hsize⟩ := hs.last_bounds
  refine ⟨⟨by simp only [Stream.cons]; omega, hsize⟩, ?_, ?_, ?_, ?_, hs.ending⟩
  · have := hs.length_le
    simp only [Stream.cons, List.length_cons]
    omega
  · refine List.pairwise_cons.mpr ⟨fun o ho => ?_, hs.increasing⟩
    obtain ⟨t, ht, rfl⟩ := List.mem_map.mp ho
    exact Nat.lt_of_lt_of_le hstop (hs.bounds t ht).1
  · refine List.forall_mem_cons.mpr ⟨⟨hstart, Nat.lt_of_lt_of_le hstop hlast⟩, fun t ht => ?_⟩
    obtain ⟨h₁, h₂⟩ := hs.bounds t ht
    exact ⟨by omega, h₂⟩
  · exact List.forall_mem_cons.mpr ⟨hdraft, hs.drafted⟩

end Stream.Orderly

namespace Lexer

variable {l : Lexer}

/-- What holds of a scan that is at the end of its text (`ending`), of one that fails at once
(`failing`), and of any other if it does from the next position on (`matching`), holds of every scan
with respectful consumers and enough rounds. Its stream is the same for all sinks, and the reader
ends at its last token. -/
theorem scan_induction (hl : ∀ c ∈ l.consumers, c.Respectful)
    {motive : Nat → Reader → Stream → Prop}
    (ending : ∀ rounds (r : Reader), r.offset = r.size →
      motive (rounds + 1) r (.ofLast ⟨l.endType, "", r.offset, 0, 0⟩ .complete))
    (failing : ∀ rounds (r r' : Reader) (log : Log), ¬ r.atEnd = true → r.offset ≤ r.size →
      firstMatch l.consumers 0 r #[] = (none, r', log) → Passed l.consumers r none r' →
      motive (rounds + 1) r (.ofLast ⟨l.errorType, errorText, r'.offset, 0, 0⟩
        (.failed r'.offset)))
    (matching : ∀ rounds (r r' : Reader) (index : Nat) (token : Token) (log : Log) (s : Stream),
      ¬ r.atEnd = true → r.offset ≤ r.size →
      firstMatch l.consumers 0 r #[] = (some (index, token), r', log) →
      Passed l.consumers r (some (index, token)) r' → motive rounds r' s →
      motive (rounds + 1) r (s.cons token))
    {rounds : Nat} {r : Reader} (hr : r.offset ≤ r.size) (hrounds : r.remaining < rounds) :
    ∃ (s : Stream) (r' : Reader), motive rounds r s ∧ r'.offset = s.last.offset ∧
      ∀ {σ : Type} (sink : Sink σ) (output : σ) (log : Log), ∃ log',
        l.scan sink rounds r output log = ⟨s.status, r', sink.feed output s.all, log'⟩ := by
  induction rounds generalizing r with
  | zero => exact absurd hrounds (Nat.not_lt_zero _)
  | succ rounds ih =>
    by_cases hend : r.atEnd = true
    · have hsize : r.offset = r.size := Nat.le_antisymm hr (of_decide_eq_true hend)
      refine ⟨_, r, ending rounds r hsize, rfl, fun sink output log => ?_⟩
      exact ⟨_, scan_of_atEnd hend rounds output log⟩
    · obtain ⟨hit, r₁, log₁, hf⟩ :
          ∃ hit r₁ log₁, firstMatch l.consumers 0 r #[] = (hit, r₁, log₁) := ⟨_, _, _, rfl⟩
      have hlog : ∀ log, firstMatch l.consumers 0 r log = (hit, r₁, log ++ log₁) := fun log => by
        rw [firstMatch_log, hf]
      have hpassed : Passed l.consumers r hit r₁ := by
        simpa only [hf] using firstMatch_of_respectful hl 0 hr #[]
      cases hit with
      | none =>
        refine ⟨_, r₁, failing rounds r r₁ log₁ hend hr hf hpassed, rfl, fun sink output log => ?_⟩
        exact ⟨_, scan_of_none hend (hlog log) rounds output⟩
      | some hit =>
        obtain ⟨index, token⟩ := hit
        obtain ⟨h₁, h₂, -⟩ := hpassed.of_some index token rfl
        have hsize := hpassed.size
        have hlt : r.offset < r.size := Reader.atEnd_eq_false_iff.mp (by simpa using hend)
        have hremaining : r₁.remaining < rounds := by
          simp only [Reader.remaining, hsize] at hrounds ⊢
          omega
        obtain ⟨s, r', hs, hoff, hscan⟩ := ih (hsize ▸ hpassed.offset_le) hremaining
        refine ⟨s.cons token, r', matching rounds r r₁ index token log₁ s hend hr hf hpassed hs,
          hoff, fun sink output log => ?_⟩
        obtain ⟨log', h⟩ := hscan sink (sink.visit output token).1
          ((log ++ log₁).push (.emitted index token.type token.value token.offset) ++
            (sink.visit output token).2)
        exact ⟨log', by rw [scan_of_some hend (hlog log), h]; rfl⟩

/-- With respectful consumers and enough rounds `scan` emits an `Orderly` stream, whatever the sink
is, and the reader ends at its last token. -/
theorem exists_orderly (hl : ∀ c ∈ l.consumers, c.Respectful) {rounds : Nat} {r : Reader}
    (hr : r.offset ≤ r.size) (hrounds : r.remaining < rounds) :
    ∃ (s : Stream) (r' : Reader), s.Orderly l r.runes r.offset ∧ r'.offset = s.last.offset ∧
      ∀ {σ : Type} (sink : Sink σ) (output : σ) (log : Log), ∃ log',
        l.scan sink rounds r output log = ⟨s.status, r', sink.feed output s.all, log'⟩ := by
  refine scan_induction hl (motive := fun _ r s => s.Orderly l r.runes r.offset) ?_ ?_ ?_ hr hrounds
  · intro rounds r hend
    exact .ofLast (Nat.le_refl _) (Nat.le_of_eq hend)
      (.inl ⟨rfl, congrArg (Token.mk l.endType "" · 0 0) hend⟩)
  · intro rounds r r' log _ _ _ hpassed
    exact .ofLast hpassed.le_offset hpassed.offset_le (.inr ⟨rfl, rfl⟩)
  · intro rounds r r' index token log s _ _ _ hpassed hs
    obtain ⟨h₁, h₂, hdraft⟩ := hpassed.of_some index token rfl
    rw [hpassed.runes] at hs
    exact hs.cons h₁ h₂ hdraft

/-- With respectful consumers `lex` ends by itself, with the same status, the same reader and after
the same `tokens`, whatever `sink` is fed with them. -/
theorem exists_lex_eq (hl : ∀ c ∈ l.consumers, c.Respectful) {r : Reader}
    (hr : r.offset ≤ r.size) :
    ∃ (tokens : List Token) (status : ScanStatus) (reader : Reader), status ≠ .endless ∧
      ∀ {σ : Type} (sink : Sink σ) (output : σ), ∃ log,
        l.lex sink r output = ⟨status, reader, sink.feed output tokens, log⟩ := by
  have hrounds : r.remaining < rounds r := Nat.lt_add_of_pos_right (by decide)
  obtain ⟨s, reader, hs, -, hscan⟩ := exists_orderly hl hr hrounds
  refine ⟨s.all, s.status, reader, ?_, fun sink output => hscan sink output #[]⟩
  rcases hs.ending with ⟨h, -⟩ | ⟨h, -⟩ <;> rw [h] <;> exact ScanStatus.noConfusion

/-- With consumers that leave the marks of others alone, and their own wherever they like, `lex`
ends by itself from any state of the reader: `scan` does the same with any bound on its rounds above
the number of runes left. What it emits, to any `sink`, are `s.tokens`, at most as many as runes are
left, which start one after the other in them, and then `s.last`, at which the reader ends. That one
starts after all others: at the end of the text if the scan was `complete`, and where it failed
otherwise. -/
theorem lex_orderly (hl : ∀ c ∈ l.consumers, c.Respectful) (r : Reader) (hr : r.offset ≤ r.size) :
    ∃ s : Stream,
      (∀ {σ : Type} (sink : Sink σ) (output : σ),
        (∀ rounds, r.remaining < rounds → l.scan sink rounds r output #[] = l.lex sink r output) ∧
        (l.lex sink r output).output = sink.feed output (s.tokens ++ [s.last]) ∧
        (l.lex sink r output).status = s.status ∧
        (l.lex sink r output).reader.offset = s.last.offset) ∧
      s.tokens.length ≤ r.size - r.offset ∧
      (s.tokens.map (·.offset)).Pairwise (· < ·) ∧
      (∀ t ∈ s.tokens, r.offset ≤ t.offset ∧ t.offset < r.size ∧ t.offset < s.last.offset) ∧
      (∀ t ∈ s.tokens, ∃ c ∈ l.consumers, ∃ (asked : Reader) (draft : Token),
        (c asked).1 = some draft ∧ t = { draft with offset := asked.offset }) ∧
      ((s.status = .complete ∧ s.last = ⟨l.endType, "", r.size, 0, 0⟩) ∨
        (s.status = .failed s.last.offset ∧
          s.last = ⟨l.errorType, errorText, s.last.offset, 0, 0⟩)) := by
  obtain ⟨s, r', hs, hoff, hscan⟩ := exists_orderly hl hr (Nat.lt_succ_self _)
  obtain ⟨-, hsize⟩ := hs.last_bounds
  refine ⟨s, fun sink output => ?_, ?_, hs.increasing, fun t ht => ?_, hs.drafted, hs.ending⟩
  · obtain ⟨log, h⟩ := hscan sink output #[]
    -- A scan that has ended after one round more than there are runes is that of any bound above.
    have hended : (l.scan sink (r.remaining + 1) r output #[]).status ≠ .endless := by
      rw [h]
      rcases hs.ending with ⟨h', -⟩ | ⟨h', -⟩ <;> simp [h']
    have hlex : l.lex sink r output = l.scan sink (r.remaining + 1) r output #[] :=
      scan_of_le hended (by simp only [rounds]; omega)
    refine ⟨fun rounds hrounds => (scan_of_le hended hrounds).trans hlex.symm, ?_⟩
    rw [hlex, h]
    exact ⟨rfl, rfl, hoff⟩
  · have := hs.length_le
    exact Nat.le_trans this (Nat.sub_le_sub_right hsize _)
  · obtain ⟨h₁, h₂⟩ := hs.bounds t ht
    exact ⟨h₁, Nat.lt_of_lt_of_le h₂ hsize, h₂⟩

/-- Two scripts that leave marks behind: one fails past the position, the other takes a rune. -/
def leavingLexer : Lexer :=
  ⟨⟨"EOF"⟩, ⟨"ERR"⟩, [Script.mk [.read, .mark, .mark, .fail] default,
    Script.mk [.mark, .read] ⟨⟨"RUNE"⟩, "", 0, 0, 0⟩].map (·.consumer)⟩

theorem leavingLexer_respectful : ∀ c ∈ leavingLexer.consumers, c.Respectful := fun c hc => by
  obtain ⟨s, hs, rfl⟩ := List.mem_map.mp hc
  refine Script.respectful ?_
  simp only [List.mem_cons, List.not_mem_nil, or_false] at hs
  rcases hs with rfl | rfl <;> rfl

/-- From the second of four runes, where every attempt that fails leaves marks behind. -/
theorem lex_orderly_leavingLexer :
    (∀ c ∈ leavingLexer.consumers, c.Respectful) ∧
      ∃ s : Stream, s.tokens.length ≤ 3 ∧
        (leavingLexer.lex .collect ⟨#['a', 'b', 'c', 'd'], 1, []⟩ #[]).output =
          (s.tokens ++ [s.last]).toArray := by
  obtain ⟨s, hscan, hlength, -⟩ := lex_orderly leavingLexer_respectful
    ⟨#['a', 'b', 'c', 'd'], 1, []⟩ (by decide)
  obtain ⟨-, houtput, -⟩ := hscan .collect #[]
  refine ⟨leavingLexer_respectful, s, hlength, ?_⟩
  rw [houtput, Sink.feed_collect, Array.empty_append]

end Lexer

end LexTree
