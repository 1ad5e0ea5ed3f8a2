import LexTree.Proofs.Lexer.Isolated
import LexTree.Proofs.Lexer.Progress
import Mathlib.Data.List.Chain
import Mathlib.Data.List.Forall2
import Mathlib.Data.List.Induction

/-!
# Where the attempts of a scan begin

After an attempt that fails the scanner goes back to the latest mark on the stack. That is its own
mark only if the consumer has left none of its own above it; otherwise the consumers that are still
to be asked at this position are asked further on, and so is the token placed.

- `Lexer.positions` are the readers from which a scan looks for its tokens, and `Lexer.Asks` tells
  which consumer is asked there, and on which reader.
- `Consumer.fallback` is where a failed attempt leads back to: `Lexer.Asks.offset_next`.
- `Lexer.Isolated`: all consumers are asked at the offset of the position, and the token is placed
  there. `Lexer.isolated_iff`: this is so if and only if every failed attempt leads back to its own
  beginning, in particular if none leaves marks behind (`Consumer.Clean`).
-/

namespace LexTree

namespace Consumer

/-- Where a scan goes on after `c` was asked at `offset` and did not get past it: at the latest mark
that `c` has left behind, or else at `offset`. -/
def fallback (text : Array Char) (c : Consumer) (offset : Nat) : Nat :=
  (c ⟨text, offset, []⟩).2.marks.headD offset

/-- A consumer that leaves no marks of its own behind where it does not get past `offset`. When it
does, it may leave any. -/
def Clean (c : Consumer) : Prop :=
  ∀ (text : Array Char) (offset : Nat), offset < text.size → c.taken? text offset = none →
    (c ⟨text, offset, []⟩).2.marks = []

theorem Clean.fallback_eq {c : Consumer} (h : c.Clean) {text : Array Char} {offset : Nat}
    (ho : offset < text.size) (hfail : c.taken? text offset = none) :
    c.fallback text offset = offset := by
  rw [fallback, h text offset ho hfail]
  rfl

theorem Balanced.clean {c : Consumer} (h : c.Balanced) : c.Clean := fun text offset ho _ =>
  List.eq_nil_of_length_eq_zero (h.2 ⟨text, offset, []⟩ (Nat.le_of_lt ho))

/-- A token is placed where its consumer was asked. -/
theorem offset_of_taken? {c : Consumer} {text : Array Char} {offset stop : Nat} {token : Token}
    (h : c.taken? text offset = some (token, stop)) : token.offset = offset := by
  unfold taken? at h
  split at h
  · split at h
    · cases h
      rfl
    · cases h
  · cases h

end Consumer

/-! ## One attempt -/

section

variable {c : Consumer} {r : Reader}

/-- An attempt with `taken?` is a match, and the scan goes on from its `stop`. -/
theorem firstMatch_singleton_of_some (hc : c.Respectful) (hr : r.offset ≤ r.size) {token : Token}
    {stop : Nat} (h : c.taken? r.runes r.offset = some (token, stop)) (index : Nat) (log : Log) :
    ∃ r', firstMatch [c] index r log = (some (index, token), r', log) ∧ r'.offset = stop := by
  obtain ⟨text, offset, marks⟩ := r
  have hatop : c (Reader.mk text offset marks).mark.2 = _ := hc.atop hr (offset :: marks)
  rw [firstMatch_cons, hatop]
  unfold Consumer.taken? at h
  generalize c ⟨text, offset, []⟩ = attempt at h
  rcases attempt with ⟨_ | draft, after⟩
  · cases h
  · by_cases hlt : offset < after.offset
    · simp only [hlt, if_true] at h
      cases h
      exact ⟨_, if_pos hlt, rfl⟩
    · simp only [hlt, if_false] at h
      cases h

/-- An attempt without `taken?` leads to its `fallback`. -/
theorem firstMatch_singleton_of_none (hc : c.Respectful) (hr : r.offset ≤ r.size)
    (h : c.taken? r.runes r.offset = none) (index : Nat) (log : Log) :
    ∃ r' log', firstMatch [c] index r log = (none, r', log') ∧
      r'.offset = c.fallback r.runes r.offset := by
  obtain ⟨text, offset, marks⟩ := r
  have hatop : c (Reader.mk text offset marks).mark.2 = _ := hc.atop hr (offset :: marks)
  have hrewind : ((c ⟨text, offset, []⟩).2.atop (offset :: marks)).rewind.offset =
      c.fallback text offset := by
    rw [Consumer.fallback]
    rcases (c ⟨text, offset, []⟩).2 with ⟨runes, place, _ | ⟨mark, own⟩⟩ <;> rfl
  rw [firstMatch_cons, hatop]
  unfold Consumer.taken? at h
  generalize c ⟨text, offset, []⟩ = attempt at h hrewind
  rcases attempt with ⟨_ | draft, after⟩
  · exact ⟨_, _, rfl, hrewind⟩
  · by_cases hlt : offset < after.offset
    · simp only [hlt, if_true] at h
      cases h
    · exact ⟨_, _, if_neg hlt, hrewind⟩

end

/-- If none of `before` matches, the consumers `cs` after them are asked on the reader that those
have led to. -/
theorem firstMatch_append (before cs : List Consumer) (index : Nat) (r : Reader) (log : Log) :
    firstMatch (before ++ cs) index r log =
      match firstMatch before index r log with
      | (none, q, log) => firstMatch cs (index + before.length) q log
      | hit => hit := by
  induction before generalizing index r log with
  | nil => rfl
  | cons c before ih =>
    rw [List.cons_append, firstMatch_cons, firstMatch_cons, List.length_cons,
      show index + (before.length + 1) = index + 1 + before.length by omega]
    rcases c r.mark.2 with ⟨_ | token, after⟩
    · exact ih _ _ _
    · by_cases h : r.offset < after.offset
      · simp only [h, if_true]
      · simp only [h, if_false]
        exact ih _ _ _

/-- If all consumers fail, so do the first of them. -/
theorem exists_of_firstMatch_none {before cs : List Consumer} (hbefore : before <+: cs)
    {index : Nat} {r r' : Reader} {log log' : Log}
    (h : firstMatch cs index r log = (none, r', log')) :
    ∃ q log₁, firstMatch before index r log = (none, q, log₁) := by
  obtain ⟨rest, rfl⟩ := hbefore
  rw [firstMatch_append] at h
  obtain ⟨hit, q, log₁, hf⟩ : ∃ hit q log₁, firstMatch before index r log = (hit, q, log₁) :=
    ⟨_, _, _, rfl⟩
  rw [hf] at h
  cases hit with
  | none => exact ⟨q, log₁, hf⟩
  | some hit => cases h

/-- A match is an attempt of some `c` among the consumers, after all `before` it have failed. -/
theorem exists_of_firstMatch_some {cs : List Consumer} {index i : Nat} {r r' : Reader}
    {token : Token} {log log' : Log} (h : firstMatch cs index r log = (some (i, token), r', log')) :
    ∃ before c q log₁, before ++ [c] <+: cs ∧ firstMatch before index r log = (none, q, log₁) ∧
      firstMatch [c] i q log₁ = (some (i, token), r', log') := by
  induction cs generalizing index r log with
  | nil => cases h
  | cons c cs ih =>
    -- After `c` has failed the match is among the others, and `c` is before it.
    have hlater : ∀ {q log₁}, firstMatch cs (index + 1) q log₁ = (some (i, token), r', log') →
        firstMatch [c] index r log = (none, q, log₁) →
        ∃ before c' q' log₂, before ++ [c'] <+: c :: cs ∧
          firstMatch before index r log = (none, q', log₂) ∧
          firstMatch [c'] i q' log₂ = (some (i, token), r', log') := by
      intro q log₁ hrest hfail
      obtain ⟨before, c', q', log₂, hprefix, hbefore, hmatch⟩ := ih hrest
      refine ⟨c :: before, c', q', log₂, ?_, ?_, hmatch⟩
      · exact (List.prefix_cons_inj c).mpr hprefix
      · rw [← List.singleton_append, firstMatch_append, hfail]
        exact hbefore
    have hone : firstMatch [c] index r log = _ := firstMatch_cons c [] index r log
    rw [firstMatch_cons] at h
    rcases hc : c r.mark.2 with ⟨_ | draft, after⟩
    · rw [hc] at h hone
      exact hlater h hone
    · rw [hc] at h hone
      by_cases hlt : r.offset < after.offset
      · simp only [hlt, if_true] at h hone
        obtain ⟨⟨rfl, rfl⟩, rfl, rfl⟩ := by simpa using h
        exact ⟨[], c, r, log, (List.prefix_cons_inj c).mpr List.nil_prefix, rfl, hone⟩
      · simp only [hlt, if_false] at h hone
        exact hlater h hone

/-! ## Positions -/

namespace Lexer

/-- The readers from which a scan looks for its tokens, in at most so many rounds. The first is
where the scan starts, and each other is where the attempt that matched before it has ended. -/
def positions (l : Lexer) : Nat → Reader → List Reader
  | 0, _ => []
  | rounds + 1, r =>
    if r.atEnd then [r]
    else
      match firstMatch l.consumers 0 r #[] with
      | (some _, r', _) => r :: l.positions rounds r'
      | (none, _, _) => [r]

/-- At the position `p`, the consumer `c` is asked on the reader `q`, after those `before` it have
failed. -/
structure Asks (l : Lexer) (p : Reader) (before : List Consumer) (c : Consumer) (q : Reader) :
    Prop where
  not_atEnd : ¬ p.atEnd = true
  isPrefix : before ++ [c] <+: l.consumers
  failed : ∃ log, firstMatch before 0 p #[] = (none, q, log)

/-- The token at the position `p`: the end of the text, what the attempt that matched has drafted,
or an error at the place to which the last attempt has led back. -/
inductive TokenAt (l : Lexer) (p : Reader) : Token → Prop where
  | ending : p.atEnd = true → l.TokenAt p ⟨l.endType, "", p.offset, 0, 0⟩
  | taken {before c q token stop} : l.Asks p before c q →
      c.taken? p.runes q.offset = some (token, stop) → l.TokenAt p token
  | failing {q log} : ¬ p.atEnd = true → firstMatch l.consumers 0 p #[] = (none, q, log) →
      l.TokenAt p ⟨l.errorType, errorText, q.offset, 0, 0⟩

/-- The scan goes on from the position `p` to `p'`, where the attempt that matches at `p` ends. -/
def Leads (l : Lexer) (p p' : Reader) : Prop :=
  ∃ before c q token, l.Asks p before c q ∧ c.taken? p.runes q.offset = some (token, p'.offset)

/-- At all `positions` of a scan all attempts begin at the position, and the token is placed there.
So each token starts where the attempt that gave the one before it has ended. -/
structure Isolated (l : Lexer) (positions : List Reader) (tokens : List Token) : Prop where
  asked : ∀ p ∈ positions, ∀ before c q, l.Asks p before c q → q.offset = p.offset
  placed : List.Forall₂ (fun p token => token.offset = p.offset) positions tokens

variable {l : Lexer} {p q : Reader}

/-- If all of `before` fail at `p`, the reader `q` that they lead to is on the same text, and not
before `p`. -/
theorem asked_bounds (hl : ∀ c ∈ l.consumers, c.Respectful) (hp : p.offset ≤ p.size)
    {before : List Consumer} (hbefore : before <+: l.consumers) {log : Log}
    (h : firstMatch before 0 p #[] = (none, q, log)) :
    q.runes = p.runes ∧ p.offset ≤ q.offset ∧ q.offset ≤ q.size := by
  have hpassed := firstMatch_of_respectful (fun c hc => hl c (hbefore.mem hc)) 0 hp #[]
  rw [h] at hpassed
  exact ⟨hpassed.runes, hpassed.le_offset, hpassed.size ▸ hpassed.offset_le⟩

namespace Asks

variable {before : List Consumer} {c : Consumer}

theorem mem (h : l.Asks p before c q) : c ∈ l.consumers := h.isPrefix.mem (by simp)

theorem bounds (h : l.Asks p before c q) (hl : ∀ c ∈ l.consumers, c.Respectful)
    (hp : p.offset ≤ p.size) : q.runes = p.runes ∧ p.offset ≤ q.offset ∧ q.offset ≤ q.size := by
  obtain ⟨log, hfailed⟩ := h.failed
  exact asked_bounds hl hp ((List.prefix_append _ _).trans h.isPrefix) hfailed

/-- After an attempt that fails the scan is at its `fallback`. -/
theorem failed_next (h : l.Asks p before c q) (hl : ∀ c ∈ l.consumers, c.Respectful)
    (hp : p.offset ≤ p.size) (hfail : c.taken? p.runes q.offset = none) :
    ∃ q' log, firstMatch (before ++ [c]) 0 p #[] = (none, q', log) ∧
      q'.offset = c.fallback p.runes q.offset := by
  obtain ⟨hrunes, -, hq⟩ := h.bounds hl hp
  obtain ⟨log, hfailed⟩ := h.failed
  rw [← hrunes] at hfail ⊢
  obtain ⟨q', log', hnext, hoffset⟩ := firstMatch_singleton_of_none (hl c h.mem) hq hfail
    (0 + before.length) log
  refine ⟨q', log', ?_, hoffset⟩
  rw [firstMatch_append, hfailed]
  exact hnext

/-- After an attempt that matches no other consumer is asked. -/
theorem taken?_eq_none (h : l.Asks p before c q) (hl : ∀ c ∈ l.consumers, c.Respectful)
    (hp : p.offset ≤ p.size) {q' : Reader} {log : Log}
    (hnext : firstMatch (before ++ [c]) 0 p #[] = (none, q', log)) :
    c.taken? p.runes q.offset = none := by
  cases htaken : c.taken? p.runes q.offset with
  | none => rfl
  | some hit =>
    obtain ⟨hrunes, -, hq⟩ := h.bounds hl hp
    obtain ⟨log, hfailed⟩ := h.failed
    rw [← hrunes] at htaken
    obtain ⟨r', hmatch, -⟩ := firstMatch_singleton_of_some (hl c h.mem) hq htaken
      (0 + before.length) log
    rw [firstMatch_append, hfailed] at hnext
    simp only [hmatch] at hnext
    cases hnext

/-- The consumer after one that fails is asked at its `fallback`. -/
theorem offset_next (h : l.Asks p before c q) (hl : ∀ c ∈ l.consumers, c.Respectful)
    (hp : p.offset ≤ p.size) {c' : Consumer} {q' : Reader} (h' : l.Asks p (before ++ [c]) c' q') :
    q'.offset = c.fallback p.runes q.offset := by
  obtain ⟨log, hfailed⟩ := h'.failed
  obtain ⟨q'', log', hnext, hoffset⟩ := h.failed_next hl hp (h.taken?_eq_none hl hp hfailed)
  rw [hfailed] at hnext
  cases hnext
  exact hoffset

end Asks

/-- If the attempts that fail at `p` have `p` as their `fallback`, the scan is there after any of
them. -/
theorem offset_eq_of_failed (hl : ∀ c ∈ l.consumers, c.Respectful) (hp : p.offset ≤ p.size)
    (hend : ¬ p.atEnd = true)
    (hback : ∀ before c q, l.Asks p before c q → q.offset = p.offset →
      c.taken? p.runes q.offset = none → c.fallback p.runes q.offset = q.offset)
    {before : List Consumer} (hbefore : before <+: l.consumers) {log : Log}
    (h : firstMatch before 0 p #[] = (none, q, log)) : q.offset = p.offset := by
  induction before using List.reverseRecOn generalizing q log with
  | nil =>
    cases h
    rfl
  | append_singleton before c ih =>
    obtain ⟨q₀, log₀, hinit⟩ := exists_of_firstMatch_none (List.prefix_append before [c]) h
    have hasks : l.Asks p before c q₀ := ⟨hend, hbefore, log₀, hinit⟩
    have hq₀ : q₀.offset = p.offset := ih ((List.prefix_append _ _).trans hbefore) hinit
    have hfail := hasks.taken?_eq_none hl hp h
    obtain ⟨q', log', hnext, hoffset⟩ := hasks.failed_next hl hp hfail
    rw [h] at hnext
    cases hnext
    rw [hoffset, hback before c q₀ hasks hq₀ hfail, hq₀]

/-! ## Whole scans -/

/-- What matches at `p` is the token there, and leads to the next position `p'`. -/
theorem tokenAt_of_match (hl : ∀ c ∈ l.consumers, c.Respectful) (hp : p.offset ≤ p.size)
    (hend : ¬ p.atEnd = true) {index : Nat} {token : Token} {p' : Reader} {log : Log}
    (h : firstMatch l.consumers 0 p #[] = (some (index, token), p', log)) :
    l.TokenAt p token ∧ l.Leads p p' := by
  obtain ⟨before, c, q, log₀, hprefix, hbefore, hmatch⟩ := exists_of_firstMatch_some h
  have hasks : l.Asks p before c q := ⟨hend, hprefix, log₀, hbefore⟩
  obtain ⟨hrunes, -, hq⟩ := hasks.bounds hl hp
  cases htaken : c.taken? q.runes q.offset with
  | none =>
    obtain ⟨_, _, hfail, -⟩ := firstMatch_singleton_of_none (hl c hasks.mem) hq htaken index log₀
    rw [hmatch] at hfail
    cases hfail
  | some taken =>
    obtain ⟨drafted, stop⟩ := taken
    obtain ⟨_, htaken', hstop⟩ :=
      firstMatch_singleton_of_some (hl c hasks.mem) hq htaken index log₀
    rw [hmatch] at htaken'
    cases htaken'
    subst hstop
    rw [hrunes] at htaken
    exact ⟨.taken hasks htaken, before, c, q, _, hasks, htaken⟩

/-- The first of `positions` is where the scan starts. -/
theorem eq_of_mem_head?_positions {rounds : Nat} {r : Reader} :
    ∀ p ∈ (l.positions rounds r).head?, p = r := by
  cases rounds with
  | zero => simp [positions]
  | succ rounds =>
    rw [positions]
    split
    · simp
    · split <;> simp

/-- The `positions` of a scan that has emitted `tokens`: one for each of these, from one to the
next, and all in the text. -/
structure Visited (l : Lexer) (text : Array Char) (positions : List Reader) (tokens : List Token) :
    Prop where
  tokenAt : List.Forall₂ l.TokenAt positions tokens
  leads : positions.IsChain l.Leads
  bounds : ∀ p ∈ positions, p.runes = text ∧ p.offset ≤ p.size

/-- A scan with respectful consumers and enough rounds emits one token at each of its `positions`,
whatever the sink is. -/
theorem exists_visited (hl : ∀ c ∈ l.consumers, c.Respectful) {rounds : Nat} {r : Reader}
    (hr : r.offset ≤ r.size) (hrounds : r.remaining < rounds) :
    ∃ (s : Stream) (r' : Reader), l.Visited r.runes (l.positions rounds r) s.all ∧
      r'.offset = s.last.offset ∧
      ∀ {σ : Type} (sink : Sink σ) (output : σ) (log : Log), ∃ log',
        l.scan sink rounds r output log = ⟨s.status, r', sink.feed output s.all, log'⟩ := by
  refine scan_induction hl (motive := fun rounds r s =>
    l.Visited r.runes (l.positions rounds r) s.all) ?_ ?_ ?_ hr hrounds
  · intro rounds r hend
    have hatEnd : r.atEnd = true := decide_eq_true (Nat.le_of_eq hend.symm)
    rw [positions, if_pos hatEnd]
    exact ⟨.cons (.ending hatEnd) .nil, .singleton r, by simp [hend]⟩
  · intro rounds r r' log hend hr hf _
    rw [positions, if_neg hend, hf]
    exact ⟨.cons (.failing hend hf) .nil, .singleton r, by simp [hr]⟩
  · intro rounds r r' index token log s hend hr hf hpassed hs
    obtain ⟨htoken, hleads⟩ := tokenAt_of_match hl hr hend hf
    rw [positions, if_neg hend, hf]
    refine ⟨.cons htoken hs.tokenAt, List.isChain_cons.mpr ⟨fun p hp => ?_, hs.leads⟩, ?_⟩
    · rw [eq_of_mem_head?_positions p hp]
      exact hleads
    · refine List.forall_mem_cons.mpr ⟨⟨rfl, hr⟩, fun p hp => ?_⟩
      exact ⟨(hs.bounds p hp).1.trans hpassed.runes, (hs.bounds p hp).2⟩

/-- The token at `p` is placed at `p` if the attempts that fail there have `p` as their
`fallback`. -/
theorem TokenAt.offset_eq {token : Token} (h : l.TokenAt p token)
    (hl : ∀ c ∈ l.consumers, c.Respectful) (hp : p.offset ≤ p.size)
    (hback : ∀ before c q, l.Asks p before c q → q.offset = p.offset →
      c.taken? p.runes q.offset = none → c.fallback p.runes q.offset = q.offset) :
    token.offset = p.offset := by
  cases h with
  | ending => rfl
  | taken hasks htaken =>
    obtain ⟨log, hfailed⟩ := hasks.failed
    rw [Consumer.offset_of_taken? htaken]
    exact offset_eq_of_failed hl hp hasks.not_atEnd hback
      ((List.prefix_append _ _).trans hasks.isPrefix) hfailed
  | failing hend hfailed => exact offset_eq_of_failed hl hp hend hback List.prefix_rfl hfailed

section

variable {text : Array Char} {positions : List Reader} {tokens : List Token}

/-- The attempts of a scan are `Isolated` if those that fail at a position have it as their
`fallback`. -/
theorem Visited.isolated (h : l.Visited text positions tokens)
    (hl : ∀ c ∈ l.consumers, c.Respectful)
    (hback : ∀ p ∈ positions, ∀ before c q, l.Asks p before c q → q.offset = p.offset →
      c.taken? text q.offset = none → c.fallback text q.offset = q.offset) :
    l.Isolated positions tokens := by
  have hback' : ∀ p ∈ positions, ∀ before c q, l.Asks p before c q → q.offset = p.offset →
      c.taken? p.runes q.offset = none → c.fallback p.runes q.offset = q.offset := by
    intro p hp
    rw [(h.bounds p hp).1]
    exact hback p hp
  refine ⟨fun p hp before c q hasks => ?_, ?_⟩
  · obtain ⟨log, hfailed⟩ := hasks.failed
    exact offset_eq_of_failed hl (h.bounds p hp).2 hasks.not_atEnd (hback' p hp)
      ((List.prefix_append _ _).trans hasks.isPrefix) hfailed
  · have hboth := (List.forall₂_and_left positions tokens).mpr ⟨fun _ hp => hp, h.tokenAt⟩
    exact hboth.imp fun p token ⟨hp, htoken⟩ => htoken.offset_eq hl (h.bounds p hp).2 (hback' p hp)

/-- If the attempts of a scan are `Isolated`, those that fail have the place as their `fallback` at
which they began. -/
theorem Visited.fallback_eq (h : l.Visited text positions tokens)
    (hl : ∀ c ∈ l.consumers, c.Respectful) (hisolated : l.Isolated positions tokens)
    (hp : p ∈ positions) {before : List Consumer} {c : Consumer} (hasks : l.Asks p before c q)
    (hfail : c.taken? text q.offset = none) : c.fallback text q.offset = q.offset := by
  obtain ⟨hrunes, hsize⟩ := h.bounds p hp
  have hq : q.offset = p.offset := hisolated.asked p hp before c q hasks
  rw [← hrunes] at hfail ⊢
  obtain ⟨q', log, hnext, hoffset⟩ := hasks.failed_next hl hsize hfail
  rw [← hoffset, hq]
  obtain ⟨rest, hrest⟩ := hasks.isPrefix
  cases rest with
  | cons c' rest =>
    -- The next consumer is asked at the position, too.
    refine hisolated.asked p hp (before ++ [c]) c' q' ⟨hasks.not_atEnd, ⟨rest, ?_⟩, log, hnext⟩
    rw [← hrest, List.append_assoc (before ++ [c])]
    rfl
  | nil =>
    -- All consumers have failed, so that the token is an error where the last one led back to.
    rw [List.append_nil] at hrest
    rw [hrest] at hnext
    obtain ⟨i, hi, rfl⟩ := List.getElem_of_mem hp
    have hi' : i < tokens.length := h.tokenAt.length_eq ▸ hi
    have hplaced : tokens[i].offset = positions[i].offset := hisolated.placed.get hi hi'
    have htoken : l.TokenAt positions[i] tokens[i] := h.tokenAt.get hi hi'
    rw [← hplaced]
    generalize tokens[i] = token at htoken
    cases htoken with
    | ending hend => exact absurd hend hasks.not_atEnd
    | taken hasks' htaken =>
      obtain ⟨_, _, hfailed⟩ := exists_of_firstMatch_none hasks'.isPrefix hnext
      rw [hasks'.taken?_eq_none hl hsize hfailed] at htaken
      cases htaken
    | failing _ hfailed =>
      rw [hnext] at hfailed
      cases hfailed
      rfl

end

/-- With consumers that leave the marks of others alone, a scan asks them one after the other: the
first at the position `p` itself, and each other at the `fallback` of the failed attempt before it,
which is the latest mark that this has left. The token is placed where its consumer was asked, and
the next position is where that attempt ended. So attempts are `Isolated` if and only if the
`fallback` of those that fail is where they began; and in any case if all consumers are `Clean`. -/
theorem isolated_iff (hl : ∀ c ∈ l.consumers, c.Respectful) (r : Reader) (hr : r.offset ≤ r.size) :
    let positions := l.positions (rounds r) r
    ∃ s : Stream,
      (∀ {σ : Type} (sink : Sink σ) (output : σ),
        (l.lex sink r output).output = sink.feed output s.all ∧
        (l.lex sink r output).status = s.status ∧
        (l.lex sink r output).reader.offset = s.last.offset) ∧
      List.Forall₂ l.TokenAt positions s.all ∧
      positions.head? = some r ∧
      positions.IsChain l.Leads ∧
      (∀ p ∈ positions, ∀ before c q, l.Asks p before c q →
        ∀ c' q', l.Asks p (before ++ [c]) c' q' → q'.offset = c.fallback r.runes q.offset) ∧
      (l.Isolated positions s.all ↔ ∀ p ∈ positions, ∀ before c q, l.Asks p before c q →
        c.taken? r.runes q.offset = none → c.fallback r.runes q.offset = q.offset) ∧
      ((∀ c ∈ l.consumers, c.Clean) → l.Isolated positions s.all) := by
  have hrounds : r.remaining < rounds r := Nat.lt_add_of_pos_right (by decide)
  obtain ⟨s, r', hvisited, hoff, hscan⟩ := exists_visited hl hr hrounds
  have hhead : (l.positions (rounds r) r).head? = some r := by
    cases hpositions : l.positions (rounds r) r with
    | nil =>
      have hlength := hvisited.tokenAt.length_eq
      rw [hpositions] at hlength
      exact absurd (List.eq_nil_of_length_eq_zero hlength.symm) s.all_ne_nil
    | cons p positions =>
      rw [eq_of_mem_head?_positions p (by rw [hpositions]; rfl)]
      rfl
  refine ⟨s, fun sink output => ?_, hvisited.tokenAt, hhead, hvisited.leads, ?_, ⟨?_, ?_⟩, ?_⟩
  · obtain ⟨log, h⟩ := hscan sink output #[]
    rw [lex, h]
    exact ⟨rfl, rfl, hoff⟩
  · intro p hp before c q hasks c' q' hasks'
    obtain ⟨hrunes, hsize⟩ := hvisited.bounds p hp
    rw [← hrunes]
    exact hasks.offset_next hl hsize hasks'
  · intro hisolated p hp before c q hasks hfail
    exact hvisited.fallback_eq hl hisolated hp hasks hfail
  · intro hback
    exact hvisited.isolated hl fun p hp before c q hasks _ hfail =>
      hback p hp before c q hasks hfail
  · intro hclean
    refine hvisited.isolated hl fun p hp before c q hasks hq hfail => ?_
    have hlt : p.offset < p.size := Reader.atEnd_eq_false_iff.mp (by simpa using hasks.not_atEnd)
    rw [Reader.size, (hvisited.bounds p hp).1, ← hq] at hlt
    exact (hclean c hasks.mem).fallback_eq hlt hfail

/-- Quoted literals, and a script that takes any rune and leaves a mark behind. -/
def markingLexer : Lexer :=
  ⟨⟨"EOF"⟩, ⟨"ERR"⟩, [(Matcher.quoted ⟨"STRING"⟩).attempt,
    (Script.mk [.mark, .read] ⟨⟨"RUNE"⟩, "", 0, 0, 0⟩).consumer]⟩

theorem markingLexer_respectful : ∀ c ∈ markingLexer.consumers, c.Respectful :=
  List.forall_mem_cons.mpr ⟨Matcher.respectful _,
    List.forall_mem_singleton.mpr (Script.respectful rfl)⟩

/-- The script of `markingLexer` leaves a mark only where it takes a rune. -/
theorem markingLexer_clean : ∀ c ∈ markingLexer.consumers, c.Clean := by
  refine List.forall_mem_cons.mpr ⟨(Matcher.balanced _).clean, List.forall_mem_singleton.mpr ?_⟩
  intro text offset ho hfail
  have hread : (Reader.mk text offset [offset]).read.2 = ⟨text, offset + 1, [offset]⟩ :=
    Reader.read_snd_of_lt ho
  simp [Consumer.taken?, Script.consumer, Script.run, Reader.mark, hread] at hfail

/-- At the first rune of `'a` the literal fails at the end of the text, and at the second one right
after it. -/
theorem isolated_iff_markingLexer :
    (∀ c ∈ markingLexer.consumers, c.Respectful) ∧ (∀ c ∈ markingLexer.consumers, c.Clean) ∧
      (Reader.ofString "'a").offset ≤ (Reader.ofString "'a").size ∧
      markingLexer.Isolated (markingLexer.positions (rounds (.ofString "'a")) (.ofString "'a"))
        (markingLexer.tokenize "'a").output.toList ∧
      (markingLexer.positions (rounds (.ofString "'a")) (.ofString "'a")).map (·.offset) =
        [0, 1, 2] := by
  obtain ⟨s, hscan, -, -, -, -, -, hclean⟩ :=
    isolated_iff markingLexer_respectful (.ofString "'a") (by decide)
  have houtput : (markingLexer.tokenize "'a").output = s.all.toArray := by
    rw [tokenize, (hscan .collect #[]).1, Sink.feed_collect, Array.empty_append]
  refine ⟨markingLexer_respectful, markingLexer_clean, by decide, ?_, by decide +kernel⟩
  rw [houtput]
  exact hclean markingLexer_clean

/-- A script that fails past its beginning, with a mark there, and words of the letter `b`. -/
def skippingLexer : Lexer :=
  ⟨⟨"EOF"⟩, ⟨"ERR"⟩, [(Script.mk [.read, .mark, .fail] default).consumer,
    (Matcher.runOf ⟨"WORD"⟩ ['b']).attempt]⟩

/-- The words are looked for where the script has left its mark, and the rune before it is lost. -/
theorem not_isolated_skippingLexer :
    (∀ c ∈ skippingLexer.consumers, c.Respectful) ∧
      (skippingLexer.tokenize "ab").status = .complete ∧
      (skippingLexer.tokenize "ab").output =
        #[⟨⟨"WORD"⟩, "b", 1, 0, 0⟩, ⟨⟨"EOF"⟩, "", 2, 0, 0⟩] ∧
      ¬ skippingLexer.Isolated (skippingLexer.positions (rounds (.ofString "ab")) (.ofString "ab"))
        (skippingLexer.tokenize "ab").output.toList := by
  have houtput : (skippingLexer.tokenize "ab").output =
      #[⟨⟨"WORD"⟩, "b", 1, 0, 0⟩, ⟨⟨"EOF"⟩, "", 2, 0, 0⟩] := by decide +kernel
  have hpositions : skippingLexer.positions (rounds (.ofString "ab")) (.ofString "ab") =
      [⟨#['a', 'b'], 0, []⟩, ⟨#['a', 'b'], 2, [0]⟩] := by decide +kernel
  refine ⟨?_, by decide +kernel, houtput, fun hisolated => ?_⟩
  · refine List.forall_mem_cons.mpr ⟨Script.respectful rfl, ?_⟩
    exact List.forall_mem_singleton.mpr (Matcher.respectful _)
  · have hplaced := hisolated.placed
    rw [hpositions, houtput] at hplaced
    cases hplaced with
    | cons hfirst _ => exact absurd hfirst (by decide)

end Lexer

end LexTree
