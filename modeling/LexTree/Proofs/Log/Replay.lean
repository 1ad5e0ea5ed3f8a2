import LexTree.Proofs.Log.Scan
import LexTree.Proofs.Parser.Skip

/-!
# What the log says

The events of a scan and of a parser are an account of what happened: tokens, attempts, moves and
diagnostics can be read back from them.

- `Lexer.events` are the events of a whole scan, position by position, and `Lexer.attempts` its
  attempts. `Lexer.events_account`: tokens, fruitless attempts and the end, as they are told.
- `Lexer.filter_log_lex` finds these events in the log, among those of the sink.
- `Parser.toList_log_step` is what a step reports. `Parser.linked_moves`, `moves_eq_outcomes` and
  `warnings_parse` are what follows for a run, step by step.
- `log_accounts`: a scan and a run of a parser, each with its log.
-/

namespace LexTree

/-! ## Scans -/

/-- The last event of a scan that emits the stream `s`. -/
def Stream.closing (s : Stream) : Event :=
  if s.status = .complete then .reachedEnd s.last.offset else .noneMatched s.last.offset

theorem Stream.closing_cases (s : Stream) :
    s.closing = .reachedEnd s.last.offset ∨ s.closing = .noneMatched s.last.offset := by
  rw [Stream.closing]
  split
  · exact .inl rfl
  · exact .inr rfl

namespace Lexer

variable {l : Lexer} {text : Array Char} {offset : Nat}

/-- Every token of `tokens` stands where it was taken. -/
theorem taken_of_mem_tokens {token : Token} (h : token ∈ (l.isolatedScan text offset).tokens) :
    token.offset < text.size ∧
      ∃ stop, l.consumers.findSome? (·.taken? text token.offset) = some (token, stop) := by
  fun_induction l.isolatedScan text offset with
  | case1 offset hend => cases h
  | case2 offset hend found stop htaken ih =>
    rcases List.mem_cons.mp h with rfl | h
    · obtain ⟨c, -, htc⟩ := List.exists_of_findSome?_eq_some htaken
      rw [Consumer.offset_of_taken? htc]
      exact ⟨Nat.not_le.mp hend, stop, htaken⟩
    · exact ih h
  | case3 offset hend hnone => cases h

/-- The token `last` stands where nothing is taken. -/
theorem not_taken_last (l : Lexer) (text : Array Char) (offset : Nat) :
    text.size ≤ (l.isolatedScan text offset).last.offset ∨
      l.consumers.findSome? (·.taken? text (l.isolatedScan text offset).last.offset) = none := by
  fun_induction l.isolatedScan text offset with
  | case1 offset hend => exact .inl hend
  | case2 offset hend found stop htaken ih => exact ih
  | case3 offset hend hnone => exact .inr hnone

/-- The `producer` of a token is the consumer that takes it. -/
theorem getElem?_producer {token : Token} {stop : Nat}
    (hm : l.consumers.findSome? (·.taken? text offset) = some (token, stop)) :
    ∃ c, l.consumers[l.producer text offset]? = some c ∧
      c.taken? text offset = some (token, stop) := by
  obtain ⟨before, c, later, hsplit, htc, hbefore⟩ := List.findSome?_eq_some_iff.mp hm
  have hfirst : before.findIdx (·.takes text offset) = before.length :=
    List.findIdx_eq_length_of_false fun x hx => by rw [Consumer.takes, hbefore x hx]; rfl
  have hplace : l.producer text offset = before.length := by
    rw [producer, hsplit, List.findIdx_append, hfirst, if_neg (Nat.lt_irrefl _),
      List.findIdx_cons, Consumer.takes, htc]
    exact Nat.zero_add _
  refine ⟨c, ?_, htc⟩
  rw [hplace, hsplit, List.getElem?_append_right (Nat.le_refl _), Nat.sub_self]
  rfl

/-- The events of `isolatedScan`: what happens at the position of every token. -/
def events (l : Lexer) (text : Array Char) (offset : Nat) : List Event :=
  (l.isolatedScan text offset).all.flatMap fun token => l.eventsAt text token.offset

/-- The attempts of `isolatedScan`. -/
def attempts (l : Lexer) (text : Array Char) (offset : Nat) : List Attempt :=
  (l.isolatedScan text offset).all.flatMap fun token => l.attemptsAt text token.offset

theorem closing_last (l : Lexer) (text : Array Char) (offset : Nat) :
    Lexer.closing text (l.isolatedScan text offset).last.offset =
      (l.isolatedScan text offset).closing := by
  rw [Lexer.closing, Stream.closing]
  rcases l.isolatedScan_ending text offset with ⟨hstatus, hend⟩ | ⟨hstatus, hlt⟩
  · rw [if_pos hend, if_pos hstatus]
  · rw [if_neg (Nat.not_le.mpr hlt), if_neg (by rw [hstatus]; exact ScanStatus.noConfusion)]

/-- Among `events` each token comes after the fruitless attempts at its position. -/
theorem events_eq (l : Lexer) (text : Array Char) (offset : Nat) :
    l.events text offset =
      ((l.isolatedScan text offset).tokens.flatMap fun token =>
        Attempt.fruitless (l.attemptsAt text token.offset) ++
          [.emitted (l.producer text token.offset) token.type token.value token.offset]) ++
      (Attempt.fruitless (l.attemptsAt text (l.isolatedScan text offset).last.offset) ++
        [(l.isolatedScan text offset).closing]) := by
  rw [events, Stream.all, List.flatMap_append, List.flatMap_singleton,
    eventsAt_of_last (l.not_taken_last text offset), closing_last]
  congr 1
  refine List.flatMap_congr fun token htoken => ?_
  obtain ⟨hlt, stop, htaken⟩ := taken_of_mem_tokens htoken
  exact eventsAt_of_taken hlt htaken

theorem filter_events (picked : Event → Bool) :
    (l.events text offset).filter picked =
      ((l.isolatedScan text offset).tokens.flatMap fun token =>
        (Attempt.fruitless (l.attemptsAt text token.offset)).filter picked ++
          [Event.emitted (l.producer text token.offset) token.type token.value token.offset].filter
            picked) ++
      ((Attempt.fruitless
          (l.attemptsAt text (l.isolatedScan text offset).last.offset)).filter picked ++
        [(l.isolatedScan text offset).closing].filter picked) := by
  simp only [events_eq, List.filter_append, List.filter_flatMap]

/-- The `events` of a scan account for it. Those of tokens are those of the ordinary tokens, each
with the consumer that takes it. Those of attempts are those of `attempts` that returned a token
without getting past their position. One is for the end, and it comes last. -/
theorem events_account (l : Lexer) (text : Array Char) (offset : Nat) :
    (l.events text offset).filter (·.message = "emitting token") =
        (l.isolatedScan text offset).tokens.map (fun token =>
          .emitted (l.producer text token.offset) token.type token.value token.offset) ∧
      (l.events text offset).filter (·.message = "consumer matched nothing") =
        ((l.attempts text offset).filter Attempt.idle).map
          (fun a => .matchedNothing a.index a.offset) ∧
      (l.events text offset).filter (·.level = .debug) = [(l.isolatedScan text offset).closing] ∧
      (l.events text offset).getLast? = some (l.isolatedScan text offset).closing := by
  have hclosing := (l.isolatedScan text offset).closing_cases
  refine ⟨?_, ?_, ?_, ?_⟩
  · have hpicked : [(l.isolatedScan text offset).closing].filter
        (·.message = "emitting token") = [] := by
      rcases hclosing with h | h <;> simp [h, Event.message]
    rw [filter_events, hpicked, List.map_eq_flatMap]
    simp [Attempt.filter_fruitless_of_false, Event.message]
  · have hpicked : [(l.isolatedScan text offset).closing].filter
        (·.message = "consumer matched nothing") = [] := by
      rcases hclosing with h | h <;> simp [h, Event.message]
    have hall : ∀ attempts, (Attempt.fruitless attempts).filter
        (·.message = "consumer matched nothing") = Attempt.fruitless attempts :=
      Attempt.filter_fruitless_of_true fun _ _ => by simp [Event.message]
    change _ = Attempt.fruitless (l.attempts text offset)
    rw [filter_events, hpicked, attempts, Attempt.fruitless_flatMap, Stream.all,
      List.flatMap_append, List.flatMap_singleton]
    simp only [hall, List.append_nil]
    simp [Event.message]
  · have hpicked : [(l.isolatedScan text offset).closing].filter (·.level = .debug) =
        [(l.isolatedScan text offset).closing] := by
      rcases hclosing with h | h <;> simp [h, Event.level]
    rw [filter_events, hpicked]
    simp [Attempt.filter_fruitless_of_false, Event.level]
  · rw [events_eq, ← List.append_assoc, List.getLast?_concat]

end Lexer

/-! ### Whole logs -/

theorem Event.target_of_mem_eventsAt {l : Lexer} {text : Array Char} {offset : Nat} {e : Event}
    (he : e ∈ l.eventsAt text offset) : e.target = "parsekit::lexer" := by
  rcases List.mem_append.mp he with he | he
  · obtain ⟨a, -, ha⟩ := List.mem_filterMap.mp he
    obtain ⟨draft, -, rfl⟩ := Option.map_eq_some_iff.mp ha
    split <;> rfl
  · rw [Lexer.endingAt?] at he
    split at he
    · rw [List.mem_singleton.mp he]
      rfl
    · split at he
      · cases he
      · rw [List.mem_singleton.mp he]
        rfl

/-- What is `said` of the tokens can be `picked` out of a log if `sink` says nothing of the kind. -/
theorem Sink.filter_logged {σ : Type} {sink : Sink σ} {said : Token → List Event}
    {picked : Event → Bool} (hsaid : ∀ token, ∀ e ∈ said token, picked e = true)
    (hsink : ∀ output token, ∀ e ∈ (sink.visit output token).2, picked e = false) (output : σ)
    (tokens : List Token) :
    (sink.logged said output tokens).filter picked = tokens.flatMap said := by
  induction tokens generalizing output with
  | nil => rfl
  | cons token tokens ih =>
    have hvisit : (sink.visit output token).2.toList.filter picked = [] :=
      List.filter_eq_nil_iff.mpr fun e he => by
        rw [hsink output token e (Array.mem_toList_iff.mp he)]
        exact Bool.false_ne_true
    rw [logged, List.filter_append, List.filter_append, hvisit, ih,
      List.filter_eq_self.mpr (hsaid token), List.append_nil, List.flatMap_cons]

/-- The log of `lex` with balanced consumers: at every position `eventsAt`, and after them what
`sink` says of the token. -/
theorem Lexer.toList_log_lex {σ : Type} {l : Lexer} (hl : ∀ c ∈ l.consumers, c.Balanced)
    (sink : Sink σ) {r : Reader} (hr : r.offset ≤ r.size) (output : σ) :
    (l.lex sink r output).log.toList =
      sink.logged (fun token => l.eventsAt r.runes token.offset) output
        (l.isolatedScan r.runes r.offset).all :=
  toList_log_scan hl sink (rounds r) hr r.marks
    (Nat.lt_add_of_pos_right (by decide)) output #[]

/-- Picked out of the log by their target, the events of `lex` with balanced consumers are `events`,
in order, if `sink` reports none of that target. -/
theorem Lexer.filter_log_lex {σ : Type} {l : Lexer} (hl : ∀ c ∈ l.consumers, c.Balanced)
    {sink : Sink σ}
    (hsink : ∀ output token, ∀ e ∈ (sink.visit output token).2, e.target ≠ "parsekit::lexer")
    {r : Reader} (hr : r.offset ≤ r.size) (output : σ) :
    (l.lex sink r output).log.toList.filter (·.target = "parsekit::lexer") =
      l.events r.runes r.offset := by
  rw [toList_log_lex hl sink hr output]
  exact Sink.filter_logged
    (fun token e he => decide_eq_true (Event.target_of_mem_eventsAt he))
    (fun output token e he => decide_eq_false (hsink output token e he)) output _

/-! ## Parsers -/

/-- A move of the cursor. -/
structure Move where
  type : TokenType
  source : NodeId
  target : NodeId
deriving DecidableEq, Repr

/-- The move that an event tells of. -/
def Event.move? : Event → Option Move
  | .cursorMoved type source target => some ⟨type, source, target⟩
  | _ => none

/-- Where a step moves the cursor, if it does. -/
def Step.target? : Step → Option NodeId
  | moved id => some id
  | stayed | skipped _ => none

/-- What is reported of a token that is skipped for `d`. -/
def Diagnostic.event (d : Diagnostic) : Event := .skipped d.message d.token.type d.token.offset

namespace Parser

/-- What becomes of each of some tokens. -/
def outcomes (p : Parser) : List Token → List Step
  | [] => []
  | token :: tokens => (p.step token).outcome :: (p.step token).parser.outcomes tokens

/-- A step reports a move from where the cursor was, and a token that it skips, and nothing when it
stays. -/
theorem toList_log_step (p : Parser) (token : Token) :
    (p.step token).log.toList =
      match (p.step token).outcome with
      | .moved id => [.cursorMoved token.type p.current id]
      | .stayed => []
      | .skipped d => [d.event] := by
  rw [step]
  cases p.factory? token.type with
  | none => rfl
  | some factory =>
    dsimp only
    rcases factory p.tree p.current token with ⟨_ | next, tree⟩
    · rfl
    · dsimp only
      split <;> rfl

/-- What a parser reports has another target than the events of a scan. -/
theorem target_of_mem_visit (p : Parser) (token : Token) :
    ∀ e ∈ (sink.visit p token).2, e.target ≠ "parsekit::lexer" := by
  intro e he
  have he : e ∈ (p.step token).log.toList := Array.mem_toList_iff.mpr he
  rw [toList_log_step] at he
  rcases houtcome : (p.step token).outcome with id | _ | d <;> rw [houtcome] at he
  · rw [List.mem_singleton.mp he]
    simp [Event.target]
  · cases he
  · rw [List.mem_singleton.mp he]
    simp [Diagnostic.event, Event.target]

/-- The log of `parse`, step by step. -/
theorem toList_log_parse_cons (p : Parser) (token : Token) (tokens : List Token) :
    (p.parse (token :: tokens)).2.toList =
      (p.step token).log.toList ++ ((p.step token).parser.parse tokens).2.toList := by
  -- What is in the log already stays in front.
  have hany : ∀ (q : Parser) (log : Log), (tokens.foldl (fun (x : Parser × Log) token =>
      ((x.1.step token).parser, x.2 ++ (x.1.step token).log)) (q, log)).2.toList =
      log.toList ++ (tokens.foldl (fun (x : Parser × Log) token =>
        ((x.1.step token).parser, x.2 ++ (x.1.step token).log)) (q, #[])).2.toList := by
    induction tokens with
    | nil => exact fun _ _ => by simp
    | cons token tokens ih =>
      intro q log
      rw [List.foldl_cons, List.foldl_cons, ih, ih _ (#[] ++ _)]
      simp
  refine (hany (p.step token).parser (#[] ++ (p.step token).log)).trans ?_
  rw [Array.empty_append]
  rfl

/-- The moves in the log of `parse`. -/
def moves (p : Parser) (tokens : List Token) : List Move :=
  (p.parse tokens).2.toList.filterMap Event.move?

theorem moves_cons (p : Parser) (token : Token) (tokens : List Token) :
    p.moves (token :: tokens) =
      ((p.step token).outcome.target?.map (Move.mk token.type p.current)).toList ++
        (p.step token).parser.moves tokens := by
  rw [moves, toList_log_parse_cons, List.filterMap_append, toList_log_step]
  cases (p.step token).outcome <;> rfl

/-- The `moves` of a run are a chain from where the cursor was to where it is. -/
theorem linked_moves (p : Parser) (tokens : List Token) :
    (p.moves tokens).map Move.source ++ [(p.after tokens).current] =
      p.current :: (p.moves tokens).map Move.target := by
  induction tokens generalizing p with
  | nil => rfl
  | cons token tokens ih =>
    have hrest := ih (p.step token).parser
    have hcurrent := p.current_step token
    rw [moves_cons, after_cons]
    cases houtcome : (p.step token).outcome with
    | moved id =>
      rw [houtcome] at hcurrent
      simpa [Step.target?, hcurrent] using hrest
    | stayed | skipped _ =>
      rw [houtcome] at hcurrent
      simpa [Step.target?, hcurrent] using hrest

/-- The `moves` of a run are those of its steps, each with the type of its token. -/
theorem moves_eq_outcomes (p : Parser) (tokens : List Token) :
    (p.moves tokens).map (fun m => (m.type, m.target)) =
      (tokens.zip (p.outcomes tokens)).filterMap fun x =>
        x.2.target?.map fun id => (x.1.type, id) := by
  induction tokens generalizing p with
  | nil => rfl
  | cons token tokens ih =>
    rw [moves_cons, outcomes, List.zip_cons_cons, List.filterMap_cons, ← ih, List.map_append]
    cases (p.step token).outcome <;> rfl

/-- The warnings of a run are its diagnostics. -/
theorem warnings_parse (p : Parser) (tokens : List Token) :
    p.diagnostics.toList.map Diagnostic.event ++
        (p.parse tokens).2.toList.filter (·.level = .warn) =
      (p.after tokens).diagnostics.toList.map Diagnostic.event := by
  induction tokens generalizing p with
  | nil => simp [parse, after]
  | cons token tokens ih =>
    rw [toList_log_parse_cons, List.filter_append, toList_log_step, after_cons, ← ih,
      diagnostics_step, List.map_append, List.append_assoc]
    congr 2
    obtain ⟨d, hd, ho, -⟩ | ⟨hd, ho, -⟩ | ⟨next, -, hd, ho, -⟩ := p.step_cases token <;>
      rw [hd, ho] <;> simp [Diagnostic.event, Event.level]

end Parser

/-! ## Both -/

/-- The log of `lex` with balanced consumers, and that of `Parser.parse`, account for what happened.

The scan's own events are among those of `sink`, which is given the tokens of `s` in order. Those of
tokens have the type, value and offset of the ordinary tokens and the place of the consumer that
took each; those of fruitless attempts are all of `l.attempts` that returned a token without getting
past their position; and one tells, after all others, how and where the scan has ended.

The `moves` of the cursor are a chain from the root to where the cursor is, one for each step that
moves, and the warnings are the diagnostics. -/
theorem log_accounts {σ : Type} {l : Lexer} (hl : ∀ c ∈ l.consumers, c.Balanced) (sink : Sink σ)
    {r : Reader} (hr : r.offset ≤ r.size) (output : σ) (root : Node)
    (table : List (TokenType × Factory)) (tokens : List Token) :
    let s := l.isolatedScan r.runes r.offset
    let events := l.events r.runes r.offset
    let start : Parser := { Parser.ofRoot root with factories := table }
    let run := start.parse tokens
    let moves := run.2.toList.filterMap Event.move?
    ((l.lex sink r output).output = sink.feed output s.all ∧
      (l.lex sink r output).status = s.status ∧
      (l.lex sink r output).log.toList =
        sink.logged (fun token => l.eventsAt r.runes token.offset) output s.all ∧
      ((∀ output token, ∀ e ∈ (sink.visit output token).2, e.target ≠ "parsekit::lexer") →
        (l.lex sink r output).log.toList.filter (·.target = "parsekit::lexer") = events) ∧
      (∀ token ∈ s.tokens, ∃ c stop, l.consumers[l.producer r.runes token.offset]? = some c ∧
        c.taken? r.runes token.offset = some (token, stop)) ∧
      events.filter (·.message = "emitting token") = s.tokens.map (fun token =>
        .emitted (l.producer r.runes token.offset) token.type token.value token.offset) ∧
      events.filter (·.message = "consumer matched nothing") =
        ((l.attempts r.runes r.offset).filter Attempt.idle).map
          (fun a => .matchedNothing a.index a.offset) ∧
      events.filter (·.level = .debug) = [s.closing] ∧ events.getLast? = some s.closing) ∧
    moves.map Move.source ++ [run.1.current] = Tree.root :: moves.map Move.target ∧
      moves.map (fun m => (m.type, m.target)) =
        ((tokens.zip (start.outcomes tokens)).filterMap fun x =>
          x.2.target?.map fun id => (x.1.type, id)) ∧
      run.2.toList.filter (·.level = .warn) = run.1.diagnostics.toList.map Diagnostic.event := by
  intro s events start run moves
  obtain ⟨hemitted, hmatchedNothing, hdebug, hlast⟩ := l.events_account r.runes r.offset
  obtain ⟨houtput, hstatus, -⟩ := Lexer.lex_eq_isolatedScan hl sink r hr output
  refine ⟨⟨houtput, hstatus, Lexer.toList_log_lex hl sink hr output,
    fun hsink => Lexer.filter_log_lex hl hsink hr output, fun token htoken => ?_, hemitted,
    hmatchedNothing, hdebug, hlast⟩, start.linked_moves tokens, start.moves_eq_outcomes tokens,
    start.warnings_parse tokens⟩
  obtain ⟨-, stop, htaken⟩ := Lexer.taken_of_mem_tokens htoken
  obtain ⟨c, hc, htc⟩ := Lexer.getElem?_producer htaken
  exact ⟨c, stop, hc, htc⟩

/-- An empty literal, which is found everywhere and takes nothing, and words. -/
def idleLexer : Lexer :=
  ⟨⟨"EOF"⟩, ⟨"ERR"⟩, [Matcher.literal ⟨"MARK"⟩ [], Matcher.runOf ⟨"WORD"⟩ ['a', 'b']].map
    (·.attempt)⟩

theorem idleLexer_balanced : ∀ c ∈ idleLexer.consumers, c.Balanced :=
  Matcher.balanced_of_mem_map _

/-- The scan of `ab'` into a parser that has a factory for words only: the literal is found in
vain at the word and at the quote. -/
theorem log_accounts_idleLexer :
    let start : Parser := { Parser.ofRoot default with
      factories := [(⟨"WORD"⟩, .descend (Node.ofToken ⟨"WORD"⟩))] }
    let session := idleLexer.lex Parser.sink (.ofString "ab'") start
    let run := start.parse [⟨⟨"WORD"⟩, "ab", 0, 0, 0⟩, ⟨⟨"ERR"⟩, errorText, 2, 0, 0⟩]
    (∀ c ∈ idleLexer.consumers, c.Balanced) ∧
      (Reader.ofString "ab'").offset ≤ (Reader.ofString "ab'").size ∧
      (∀ output token, ∀ e ∈ (Parser.sink.visit output token).2, e.target ≠ "parsekit::lexer") ∧
      session.log.toList.filter (·.target = "parsekit::lexer") =
        [.matchedNothing 0 0, .emitted 1 ⟨"WORD"⟩ "ab" 0, .matchedNothing 0 2, .noneMatched 2] ∧
      run.2.toList.filterMap Event.move? = [⟨⟨"WORD"⟩, 0, 1⟩] ∧ run.1.current = 1 ∧
      run.2.toList.filter (·.level = .warn) =
        [.skipped "no factory found for token type ERR" ⟨"ERR"⟩ 2] := by
  intro start session run
  have h := log_accounts idleLexer_balanced Parser.sink (r := .ofString "ab'") (by decide) start
    default [(⟨"WORD"⟩, .descend (Node.ofToken ⟨"WORD"⟩))]
    [⟨⟨"WORD"⟩, "ab", 0, 0, 0⟩, ⟨⟨"ERR"⟩, errorText, 2, 0, 0⟩]
  obtain ⟨⟨-, -, -, hevents, -⟩, -, -, hwarnings⟩ := h
  refine ⟨idleLexer_balanced, by decide, Parser.target_of_mem_visit, ?_, ?_, ?_, ?_⟩
  · rw [hevents Parser.target_of_mem_visit]
    decide +kernel
  · decide +kernel
  · decide +kernel
  · rw [hwarnings]
    decide +kernel

end LexTree
