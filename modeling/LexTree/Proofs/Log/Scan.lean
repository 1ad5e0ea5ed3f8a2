import LexTree.Proofs.Lexer.Attempts

/-!
# The log of a scan

A scan reports attempts that fail, tokens and its end in the middle of what it does. With balanced
consumers the events can be read off the attempts at each position, and these off the text.

- `Lexer.attemptsAt` are the attempts at a position, and `Lexer.eventsAt` what is reported there.
- `Lexer.eventsAt_of_taken` and `Lexer.eventsAt_of_last`: fruitless attempts, and after them the
  token or the end of the scan.
- `Lexer.toList_log_scan`: the log of a whole scan has the events of each position in turn, and
  after those what the sink says of the token there.
-/

namespace LexTree

/-! ## Attempts -/

/-- What came of asking a consumer. -/
structure Attempt where
  /-- The place of the consumer among those of the lexer. -/
  index : Nat
  /-- Where the consumer was asked. -/
  offset : Nat
  /-- What it returned. -/
  draft? : Option Token
  /-- Where it left the reader. -/
  stop : Nat
deriving DecidableEq, Repr

namespace Attempt

/-- Whether the consumer returned a token without getting past `a.offset`. -/
def idle (a : Attempt) : Bool := a.draft?.isSome && decide (a.stop ≤ a.offset)

/-- What is reported of an attempt: every token that is returned, as `emitted` or as
`matchedNothing`. -/
def event? (a : Attempt) : Option Event :=
  a.draft?.map fun draft =>
    if a.offset < a.stop then .emitted a.index draft.type draft.value a.offset
    else .matchedNothing a.index a.offset

/-- The attempts that returned a token in vain, as they are reported. -/
def fruitless (attempts : List Attempt) : List Event :=
  (attempts.filter idle).map fun a => .matchedNothing a.index a.offset

theorem fruitless_cons (a : Attempt) (attempts : List Attempt) :
    fruitless (a :: attempts) = fruitless [a] ++ fruitless attempts := by
  simp only [fruitless, ← List.map_append, ← List.filter_append, List.singleton_append]

theorem fruitless_flatMap {α : Type} (f : α → List Attempt) (xs : List α) :
    fruitless (xs.flatMap f) = xs.flatMap fun x => fruitless (f x) := by
  rw [fruitless, List.filter_flatMap, List.map_flatMap]
  rfl

theorem filter_fruitless_of_true {picked : Event → Bool}
    (h : ∀ index offset, picked (.matchedNothing index offset) = true) (attempts : List Attempt) :
    (fruitless attempts).filter picked = fruitless attempts :=
  List.filter_eq_self.mpr fun e he => by
    obtain ⟨a, -, rfl⟩ := List.mem_map.mp he
    exact h _ _

theorem filter_fruitless_of_false {picked : Event → Bool}
    (h : ∀ index offset, picked (.matchedNothing index offset) = false) (attempts : List Attempt) :
    (fruitless attempts).filter picked = [] :=
  List.filter_eq_nil_iff.mpr fun e he => by
    obtain ⟨a, -, rfl⟩ := List.mem_map.mp he
    rw [h]
    exact Bool.false_ne_true

end Attempt

namespace Consumer

/-- The attempt of `c` at `offset`, on a reader of its own. -/
def attemptAt (text : Array Char) (offset index : Nat) (c : Consumer) : Attempt :=
  let (draft?, after) := c ⟨text, offset, []⟩
  ⟨index, offset, draft?, after.offset⟩

/-- Whether `c` gets past `offset` with a token. -/
def takes (text : Array Char) (offset : Nat) (c : Consumer) : Bool := (c.taken? text offset).isSome

end Consumer

/-- The attempts of `cs` at `offset`, of which the first is at `index` in its list: in order, up to
the first that gets past `offset`. -/
def attemptsOf (text : Array Char) (offset index : Nat) (cs : List Consumer) : List Attempt :=
  (cs.take (cs.findIdx (·.takes text offset) + 1)).mapIdx fun i c =>
    c.attemptAt text offset (index + i)

section

variable {text : Array Char} {offset : Nat}

theorem attemptsOf_cons (index : Nat) (c : Consumer) (cs : List Consumer) :
    attemptsOf text offset index (c :: cs) =
      c.attemptAt text offset index ::
        if c.takes text offset then [] else attemptsOf text offset (index + 1) cs := by
  rw [attemptsOf, List.findIdx_cons, List.take_succ_cons, List.mapIdx_cons]
  cases c.takes text offset with
  | true => simp
  | false =>
    simp only [cond_false, Bool.false_eq_true, if_false, Nat.add_zero, attemptsOf,
      Nat.add_assoc, Nat.add_comm 1]

/-- What is reported of `hit`. -/
def matchEvent? (hit : Option (Nat × Token)) : Option Event :=
  hit.map fun x => .emitted x.1 x.2.type x.2.value x.2.offset

/-- With balanced consumers `firstMatch` reports the attempts of `attemptsOf`. -/
theorem toList_log_firstMatch {cs : List Consumer} (hcs : ∀ c ∈ cs, c.Balanced)
    (ho : offset ≤ text.size) (marks : List Nat) (index : Nat) (log : Log) :
    let found := firstMatch cs index ⟨text, offset, marks⟩ log
    found.2.2.toList ++ (matchEvent? found.1).toList =
      log.toList ++ (attemptsOf text offset index cs).filterMap Attempt.event? := by
  induction cs generalizing index log with
  | nil => rfl
  | cons c cs ih =>
    obtain ⟨hc, hcs⟩ := List.forall_mem_cons.mp hcs
    have hmark : (Reader.mk text offset marks).mark.2 = ⟨text, offset, offset :: marks⟩ := rfl
    rw [firstMatch_cons, attemptsOf_cons, hmark, hc.atop ho, Consumer.takes, Consumer.taken?,
      Consumer.attemptAt]
    rcases c ⟨text, offset, []⟩ with ⟨_ | draft, after⟩
    · exact ih hcs _ _
    · by_cases h : offset < after.offset
      · simp [h, Attempt.event?, matchEvent?, Token.placedAt]
      · have hrest := ih hcs (index + 1) (log.push (.matchedNothing index offset))
        have hevent : Attempt.event? ⟨index, offset, some draft, after.offset⟩ =
            some (.matchedNothing index offset) := congrArg some (if_neg h)
        simp only [h, if_false, Reader.rewind] at hrest ⊢
        rw [hrest, Array.toList_push, List.append_assoc, Option.isSome_none,
          if_neg Bool.false_ne_true, List.filterMap_cons_some hevent]
        rfl

/-! ## One attempt -/

/-- An attempt that takes something is reported as its token. -/
theorem Consumer.attemptAt_of_taken {c : Consumer} {token : Token} {stop : Nat}
    (h : c.taken? text offset = some (token, stop)) (index : Nat) :
    (c.attemptAt text offset index).event? =
        some (.emitted index token.type token.value offset) ∧
      (c.attemptAt text offset index).idle = false := by
  rw [taken?] at h
  rw [attemptAt]
  generalize c ⟨text, offset, []⟩ = attempt at h ⊢
  rcases attempt with ⟨_ | draft, after⟩
  · cases h
  · by_cases hlt : offset < after.offset
    · simp only [hlt, if_true] at h
      cases h
      simp [Attempt.event?, Attempt.idle, hlt]
    · simp only [hlt, if_false] at h
      cases h

/-- An attempt that takes nothing is reported if it has returned a token all the same. -/
theorem Consumer.attemptAt_of_not_taken {c : Consumer} (h : c.taken? text offset = none)
    (index : Nat) :
    (c.attemptAt text offset index).event?.toList =
      Attempt.fruitless [c.attemptAt text offset index] := by
  rw [taken?] at h
  rw [attemptAt]
  generalize c ⟨text, offset, []⟩ = attempt at h ⊢
  rcases attempt with ⟨_ | draft, after⟩
  · rfl
  · by_cases hlt : offset < after.offset
    · simp only [hlt, if_true] at h
      cases h
    · simp [Attempt.event?, Attempt.fruitless, Attempt.idle, hlt, Nat.not_lt.mp hlt]

/-- What is reported of the attempts at `offset` are those in vain, and if a consumer takes
something there, its token, with the place of the first that does. -/
theorem filterMap_event?_attemptsOf (index : Nat) (cs : List Consumer) :
    (attemptsOf text offset index cs).filterMap Attempt.event? =
      Attempt.fruitless (attemptsOf text offset index cs) ++
        match cs.findSome? (·.taken? text offset) with
        | some (token, _) =>
          [.emitted (index + cs.findIdx (·.takes text offset)) token.type token.value offset]
        | none => [] := by
  induction cs generalizing index with
  | nil => rfl
  | cons c cs ih =>
    rw [attemptsOf_cons, List.findSome?_cons, List.findIdx_cons, Consumer.takes]
    cases htaken : c.taken? text offset with
    | none =>
      have hshift : index + (cs.findIdx (·.takes text offset) + 1) =
          index + 1 + cs.findIdx (·.takes text offset) := by omega
      simp only [Option.isSome_none, Bool.false_eq_true, if_false, cond_false]
      rw [hshift, Attempt.fruitless_cons, List.append_assoc, ← ih (index + 1),
        ← Consumer.attemptAt_of_not_taken htaken]
      cases hevent : (c.attemptAt text offset index).event? with
      | none => exact List.filterMap_cons_none hevent
      | some event => exact List.filterMap_cons_some hevent
    | some found =>
      obtain ⟨token, stop⟩ := found
      obtain ⟨hevent, hidle⟩ := Consumer.attemptAt_of_taken htaken index
      simp [hevent, Attempt.fruitless, hidle]

end

/-! ## One position -/

namespace Lexer

variable {l : Lexer} {text : Array Char} {offset : Nat}

/-- The attempts of a scan at `offset`; behind the text there are none. -/
def attemptsAt (l : Lexer) (text : Array Char) (offset : Nat) : List Attempt :=
  if text.size ≤ offset then [] else attemptsOf text offset 0 l.consumers

/-- The place of the first consumer that takes something at `offset`. -/
def producer (l : Lexer) (text : Array Char) (offset : Nat) : Nat :=
  l.consumers.findIdx (·.takes text offset)

/-- How a scan says that it has ended at `offset`, if it has. -/
def endingAt? (l : Lexer) (text : Array Char) (offset : Nat) : Option Event :=
  if text.size ≤ offset then some (.reachedEnd offset)
  else if l.consumers.any (·.takes text offset) then none
  else some (.noneMatched offset)

/-- What a scan reports at `offset`: its attempts there, and the end if it comes to that. -/
def eventsAt (l : Lexer) (text : Array Char) (offset : Nat) : List Event :=
  (l.attemptsAt text offset).filterMap Attempt.event? ++ (l.endingAt? text offset).toList

/-- The last event of a scan that ends at `offset`, in one of the two ways. -/
def closing (text : Array Char) (offset : Nat) : Event :=
  if text.size ≤ offset then .reachedEnd offset else .noneMatched offset

section

variable (h : offset < text.size)

include h

theorem attemptsAt_of_lt : l.attemptsAt text offset = attemptsOf text offset 0 l.consumers :=
  if_neg (Nat.not_le.mpr h)

theorem endingAt?_of_taken {token : Token} {stop : Nat}
    (hm : l.consumers.findSome? (·.taken? text offset) = some (token, stop)) :
    l.endingAt? text offset = none := by
  have hany : l.consumers.any (·.takes text offset) = true := by
    rw [← Option.isSome_some (a := (token, stop)), ← hm, List.isSome_findSome?]
    rfl
  rw [endingAt?, if_neg (Nat.not_le.mpr h), if_pos hany]

theorem endingAt?_of_not_taken (hm : l.consumers.findSome? (·.taken? text offset) = none) :
    l.endingAt? text offset = some (.noneMatched offset) := by
  have hany : l.consumers.any (·.takes text offset) = false := by
    rw [← Option.isSome_none (α := Token × Nat), ← hm, List.isSome_findSome?]
    rfl
  rw [endingAt?, if_neg (Nat.not_le.mpr h), hany, if_neg Bool.false_ne_true]

/-- Where something is taken, `eventsAt` are the fruitless attempts and then the token, with its
`producer`. -/
theorem eventsAt_of_taken {token : Token} {stop : Nat}
    (hm : l.consumers.findSome? (·.taken? text offset) = some (token, stop)) :
    l.eventsAt text offset = Attempt.fruitless (l.attemptsAt text offset) ++
      [.emitted (l.producer text offset) token.type token.value offset] := by
  rw [eventsAt, endingAt?_of_taken h hm, attemptsAt_of_lt h, filterMap_event?_attemptsOf, hm,
    Nat.zero_add, producer]
  exact List.append_nil _

/-- With balanced consumers `eventsAt` have been reported of a position at which something is taken
when the scan goes on from there. -/
theorem firstMatch_of_taken (hl : ∀ c ∈ l.consumers, c.Balanced) (marks : List Nat) (log : Log)
    {token : Token} {stop : Nat}
    (hm : l.consumers.findSome? (·.taken? text offset) = some (token, stop)) :
    ∃ index log', firstMatch l.consumers 0 ⟨text, offset, marks⟩ log =
        (some (index, token), ⟨text, stop, marks⟩, log') ∧
      (log'.push (.emitted index token.type token.value token.offset)).toList =
        log.toList ++ l.eventsAt text offset := by
  have hplace := firstMatch_of_balanced hl (Nat.le_of_lt h) marks 0 log
  have hlog := toList_log_firstMatch hl (Nat.le_of_lt h) marks 0 log
  obtain ⟨hit, r', log', hf⟩ :
      ∃ hit r' log', firstMatch l.consumers 0 ⟨text, offset, marks⟩ log = (hit, r', log') :=
    ⟨_, _, _, rfl⟩
  rw [hm, hf, Prod.mk.injEq, Option.map_eq_some_iff] at hplace
  obtain ⟨⟨⟨index, found⟩, rfl, rfl⟩, rfl⟩ := hplace
  refine ⟨index, log', hf, ?_⟩
  rw [hf] at hlog
  rw [eventsAt, endingAt?_of_taken h hm, attemptsAt_of_lt h, Option.toList_none, List.append_nil,
    ← hlog]
  exact Array.toList_push

/-- With balanced consumers `eventsAt` have been reported of a position at which nothing is taken
when the scan ends, and the reader is still there. -/
theorem firstMatch_of_not_taken (hl : ∀ c ∈ l.consumers, c.Balanced) (marks : List Nat) (log : Log)
    (hm : l.consumers.findSome? (·.taken? text offset) = none) :
    ∃ log', firstMatch l.consumers 0 ⟨text, offset, marks⟩ log =
        (none, ⟨text, offset, marks⟩, log') ∧
      (log'.push (.noneMatched offset)).toList = log.toList ++ l.eventsAt text offset := by
  have hplace := firstMatch_of_balanced hl (Nat.le_of_lt h) marks 0 log
  have hlog := toList_log_firstMatch hl (Nat.le_of_lt h) marks 0 log
  obtain ⟨hit, r', log', hf⟩ :
      ∃ hit r' log', firstMatch l.consumers 0 ⟨text, offset, marks⟩ log = (hit, r', log') :=
    ⟨_, _, _, rfl⟩
  rw [hm, hf, Prod.mk.injEq, Option.map_eq_none_iff] at hplace
  obtain ⟨rfl, rfl⟩ := hplace
  refine ⟨log', hf, ?_⟩
  rw [hf] at hlog
  have hlog : log'.toList = log.toList ++ (l.attemptsAt text offset).filterMap Attempt.event? := by
    rw [attemptsAt_of_lt h, ← hlog]
    exact (List.append_nil _).symm
  rw [eventsAt, endingAt?_of_not_taken h hm, Array.toList_push, hlog, List.append_assoc]
  rfl

end

/-- Where a scan ends, `eventsAt` are the fruitless attempts and then the end. -/
theorem eventsAt_of_last
    (h : text.size ≤ offset ∨ l.consumers.findSome? (·.taken? text offset) = none) :
    l.eventsAt text offset =
      Attempt.fruitless (l.attemptsAt text offset) ++ [closing text offset] := by
  rcases Nat.lt_or_ge offset text.size with hlt | hend
  · have hm := h.resolve_left (Nat.not_le.mpr hlt)
    rw [eventsAt, endingAt?_of_not_taken hlt hm, attemptsAt_of_lt hlt,
      filterMap_event?_attemptsOf, hm, List.append_nil, closing, if_neg (Nat.not_le.mpr hlt)]
    rfl
  · rw [eventsAt, attemptsAt, endingAt?, closing, if_pos hend, if_pos hend, if_pos hend]
    rfl

end Lexer

/-! ## Whole scans -/

/-- A log with `said token` for each token, and after it what `sink` says when it is given the
token. -/
def Sink.logged {σ : Type} (sink : Sink σ) (said : Token → List Event) : σ → List Token → List Event
  | _, [] => []
  | output, token :: tokens =>
    said token ++ (sink.visit output token).2.toList ++
      sink.logged said (sink.visit output token).1 tokens

namespace Lexer

variable {σ : Type} {l : Lexer}

theorem toList_log_finish (sink : Sink σ) (type : TokenType) (value : String) (status : ScanStatus)
    (event : Event) (r : Reader) (output : σ) (log : Log) :
    (finish sink type value status event r output log).log.toList = (log.push event).toList ++
      (sink.visit output ⟨type, value, r.offset, 0, 0⟩).2.toList :=
  Array.toList_append

/-- The log of a scan with balanced consumers and enough rounds: at every position `eventsAt`, and
after them what `sink` says of the token. -/
theorem toList_log_scan (hl : ∀ c ∈ l.consumers, c.Balanced) (sink : Sink σ) (rounds : Nat)
    {text : Array Char} {offset : Nat} (ho : offset ≤ text.size) (marks : List Nat)
    (hrounds : text.size - offset < rounds) (output : σ) (log : Log) :
    (l.scan sink rounds ⟨text, offset, marks⟩ output log).log.toList =
      log.toList ++ sink.logged (fun token => l.eventsAt text token.offset) output
        (l.isolatedScan text offset).all := by
  induction rounds generalizing offset output log with
  | zero => exact absurd hrounds (Nat.not_lt_zero _)
  | succ rounds ih =>
    rcases Nat.lt_or_ge offset text.size with hlt | hend
    · have hend' : ¬ (Reader.mk text offset marks).atEnd = true := fun h =>
        Nat.not_le.mpr hlt (of_decide_eq_true h)
      cases htaken : l.consumers.findSome? (·.taken? text offset) with
      | none =>
        obtain ⟨log', hf, hlog⟩ := firstMatch_of_not_taken hlt hl marks log htaken
        rw [isolatedScan_of_none hlt htaken, scan_of_none hend' hf]
        rw [toList_log_finish, hlog, Stream.all_ofLast, Sink.logged, Sink.logged, List.append_nil,
          List.append_assoc]
      | some found =>
        obtain ⟨token, stop⟩ := found
        obtain ⟨index, log', hf, hlog⟩ := firstMatch_of_taken hlt hl marks log htaken
        obtain ⟨c, hc, htc⟩ := List.exists_of_findSome?_eq_some htaken
        have hstop := Consumer.lt_of_taken? htc
        have hle : stop ≤ text.size :=
          Consumer.stop_le_of_taken? (hl c hc).1 (Nat.le_of_lt hlt) htc
        rw [isolatedScan_of_some hlt htaken, scan_of_some hend' hf, ih hle (by omega),
          Stream.all_cons, Sink.logged, Array.toList_append, hlog, Consumer.offset_of_taken? htc]
        simp only [List.append_assoc]
    · have hend' : (Reader.mk text offset marks).atEnd = true := decide_eq_true hend
      rw [isolatedScan_of_size_le hend, scan_of_atEnd hend']
      rw [toList_log_finish, Stream.all_ofLast, Sink.logged, Sink.logged, List.append_nil,
        Array.toList_push, List.append_assoc]
      simp [eventsAt, attemptsAt, endingAt?, hend]

end Lexer

end LexTree
