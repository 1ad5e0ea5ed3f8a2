import LexTree.Command.Run
import LexTree.Proofs.Files.Directory
import LexTree.Proofs.Format.Limit
import LexTree.Proofs.Lexer.Batch
import LexTree.Proofs.Tree.Dump

/-!
# Verdicts on texts

A run that gets as far as its input prints what it makes of it, and tells whether it
succeeded by its exit code: whether the lexer has read all of the text and what was made
of it could be shown.

- `Sexp.openLists` counts the lists that tokens leave open, and
  `Sexp.parse_eq_tokenize` says what of a tree can be told from the tokens.
- `Program.Reads` are the runs that get as far as their input; `Reads.outcome_eq` is
  what they leave behind.
- `Program.run_of_reads`: the verdicts of both commands on a text.
-/

namespace LexTree

/-! ## Tokens -/

namespace Sexp

/-- The number of open lists after `token`, if `count` are open before it. An end outside of all
lists closes nothing. -/
def openAfter (count : Nat) (token : Token) : Nat :=
  if token.type = startType then count + 1
  else if token.type = stopType then count - 1
  else count

/-- The number of lists that `tokens` leave open. -/
def openLists (tokens : List Token) : Nat := tokens.foldl openAfter 0

theorem Listing.depth_step (s : Listing) (token : Token) :
    (s.step token).depth = openAfter s.depth token := by
  rw [step, openAfter]
  by_cases hstart : token.type = startType
  · rw [if_pos hstart, if_pos hstart]
  by_cases hstop : token.type = stopType
  · rw [if_neg hstart, if_neg hstart, if_pos hstop, if_pos hstop]
  · -- No other token changes the depth, whatever it lists or reports.
    rw [if_neg hstart, if_neg hstart, if_neg hstop, if_neg hstop]
    repeat' split
    all_goals rfl

theorem Listing.depth_foldl (s : Listing) (tokens : List Token) :
    (tokens.foldl step s).depth = tokens.foldl openAfter s.depth := by
  induction tokens generalizing s with
  | nil => rfl
  | cons token tokens ih => rw [List.foldl_cons, List.foldl_cons, ih, depth_step]

/-- `parse` makes the tree that `parser.parse` makes of the tokens of `tokenize`, counts the lists
that these leave open, and has the status of `tokenize`. -/
theorem parse_eq_tokenize (source : String) :
    let tokens := (tokenize source).output.toList
    (parse source).tree = (parser.parse tokens).1.tree ∧
      (parse source).tree.WellFormed ∧
      (parse source).unclosed = openLists tokens ∧
      (parse source).status = (tokenize source).status := by
  obtain ⟨log, hparse⟩ := parse_eq_feed source
  obtain ⟨_, _, htokens⟩ := exists_tokenize_eq source
  have hmirrors := mirrors_stream 0 source.toList
  have hparser : (parser.parse (stream 0 source.toList).all).1 =
      Parser.sink.feed parser (stream 0 source.toList).all := parser.after_eq_feed _
  rw [hparse, htokens]
  refine ⟨congrArg Parser.tree hparser.symm, hmirrors.outlines.wellFormed, ?_, rfl⟩
  exact hmirrors.outlines.depth_eq.trans (Listing.depth_foldl .empty _)

/-- The status of `tokenize` is `complete` if and only if it leaves its reader `atEnd`. -/
theorem status_eq_complete_iff (source : String) :
    (tokenize source).status = .complete ↔ (tokenize source).reader.atEnd = true :=
  Lexer.status_eq_complete_iff balanced_of_mem_lexer .collect (Nat.zero_le _) #[]

end Sexp

/-! ## Trees -/

namespace Tree

variable {t : Tree}

/-- `writeDump` puts all of `t.dump` behind what is held by a channel that refuses nothing. -/
theorem writeDump_of_accepting {c : Channel} (hc : c.Accepting) (hflush : c.flushFails = false)
    (t : Tree) : t.writeDump c = (.ok (), c.holding (c.held ++ t.dump.toUTF8)) := by
  have haccepts := Channel.accepts_of_fits (hc.fits t.dump.toUTF8.size)
  rw [writeDump_eq hc.advancing, if_neg (Nat.not_lt.mpr (Nat.le_of_eq haccepts.symm)),
    Channel.taking_of_accepts haccepts, Channel.flush, hflush]
  rfl

end Tree

/-! ## Reports -/

namespace Report

theorem succeeded_ofTokens (source : String) (format : TokenFormat) :
    (ofTokens source format).succeeded = true ↔ (Sexp.tokenize source).status = .complete := by
  simp only [ofTokens, decide_eq_true_eq]

/-- The report on `o`, with the tree rendered by `TreeFormat.render` in any format. -/
def ofOutcome (o : Sexp.Outcome) (format : TreeFormat) : Report :=
  match format.render o.tree with
  | .ok text => ⟨text, unclosedWarning o.unclosed, o.status = .complete, o.log⟩
  | .error e => ⟨"", errorMessage e.message, false, o.log⟩

/-- The bytes that `Tree.writeDump` streams are those of the listing that `TreeFormat.render` has in
memory, so that `printed` is `render` for every format. -/
theorem printed_eq_render (t : Tree) (format : TreeFormat) :
    printed t format = (format.render t).mapError FormatError.message := by
  cases format with
  | dump =>
    have hwritten : t.writeDump .unlimited =
        (.ok (), Channel.unlimited.holding (Channel.unlimited.held ++ t.dump.toUTF8)) :=
      Tree.writeDump_of_accepting Channel.unlimited_accepting rfl t
    have hheld : Channel.unlimited.held ++ t.dump.toUTF8 = t.dump.toUTF8 :=
      ByteArray.empty_append
    rw [printed, hwritten, hheld]
    show Except.ok ((String.fromUTF8? t.dump.toUTF8).getD "") = _
    rw [fromUTF8?_toUTF8]
    rfl
  | json => rfl
  | yaml => rfl

theorem ofTree_eq_ofOutcome (source : String) (format : TreeFormat) :
    ofTree source format = ofOutcome (Sexp.parse source) format := by
  rw [ofTree, printed_eq_render, ofOutcome]
  cases format.render (Sexp.parse source).tree with
  | ok text => rfl
  | error e => rfl

variable {o : Sexp.Outcome} {format : TreeFormat}

theorem ofOutcome_of_render {text : String} (h : format.render o.tree = .ok text) :
    ofOutcome o format =
      ⟨text, unclosedWarning o.unclosed, o.status = .complete, o.log⟩ := by
  rw [ofOutcome, h]

theorem ofOutcome_of_error {e : FormatError} (h : format.render o.tree = .error e) :
    ofOutcome o format = ⟨"", errorMessage e.message, false, o.log⟩ := by
  rw [ofOutcome, h]

end Report

/-! ## Runs -/

namespace Program

variable {World : Type} {files : FileAccess (StateM World)}
  {arguments : List String} {environment : List (String × String)} {world : World}
  {i : Invocation} {settings : Settings} {name source : String}

/-- A run that gets as far as its input: `arguments` ask for the command of `i`, `loadSettings`
gives `settings`, `openLog` succeeds, and `readInput` gives `source` for `name`. -/
structure Reads (files : FileAccess (StateM World)) (arguments : List String)
    (environment : List (String × String)) (world : World) (i : Invocation) (settings : Settings)
    (name source : String) : Prop where
  asked : Request.ofArguments? arguments = some (.run i)
  loaded : ∃ configured opened read : World,
    (loadSettings files environment i).run world = (.ok settings, configured) ∧
      (openLog files settings.logging).run configured = (.ok (), opened) ∧
      (readInput files name).run opened = (.ok source, read)

/-- What a run shows of `log` beside its messages: nothing if the log goes to a file. -/
def logShown (settings : LoggingSettings) (time : String) (log : Log) : String :=
  if settings.toTerminal then
    (log.visible settings.verbosity).records settings.format true time
  else ""

/-- What a run leaves behind after the report `r`. -/
def outcomeOf (settings : LoggingSettings) (time : String) (r : Report) : Outcome :=
  ⟨r.output, logShown settings time r.log ++ r.messages, if r.succeeded then 0 else 1⟩

theorem exitCode_outcomeOf (settings : LoggingSettings) (time : String) (r : Report) :
    (outcomeOf settings time r).exitCode = 0 ↔ r.succeeded = true := by
  rw [outcomeOf]
  cases r.succeeded with
  | true => exact iff_of_true rfl rfl
  | false => exact iff_of_false Nat.one_ne_zero Bool.false_ne_true

theorem finish_run (settings : LoggingSettings) (time : String) (r : Report) (world : World) :
    ((finish files settings time r).run world).1 = outcomeOf settings time r := by
  rw [finish, outcomeOf, logShown]
  by_cases h : settings.toTerminal = true
  · rw [if_pos h, if_pos h, h]
    rfl
  · rw [if_neg h, if_neg h, String.empty_append]
    rfl

/-- A run that gets as far as its input leaves behind what `make`, the report of its command, says
of `source`. -/
theorem Reads.outcome_eq (h : Reads files arguments environment world i settings name source)
    {make : String → Report}
    (hmake : report files settings.output i.command = reportInput files name make)
    (time : String) :
    ((run files arguments environment time).run world).1 =
      outcomeOf settings.logging time (make source) := by
  obtain ⟨configured, opened, read, hload, hopen, hread⟩ := h.loaded
  have hreport : (report files settings.output i.command).run opened = (make source, read) := by
    rw [hmake, reportInput, StateT.run_bind, hread]
    rfl
  rw [run, h.asked]
  show ((perform files environment time i).run world).1 = _
  rw [perform, StateT.run_bind, hload]
  show ((openLog files settings.logging >>= _).run configured).1 = _
  rw [StateT.run_bind, hopen]
  show ((report files settings.output i.command >>= _).run opened).1 = _
  rw [StateT.run_bind, hreport]
  exact finish_run settings.logging time (make source) read

/-- What a run leaves behind of `o.tree` is what `format` shows of it, with a warning of
`o.unclosed` lists, or else the message of `tooDeep`. It exits with 0 if and only if, besides, the
scan was complete. -/
theorem outcomeOf_ofOutcome (settings : LoggingSettings) (time : String) (format : TreeFormat)
    {o : Sexp.Outcome} (ht : o.tree.WellFormed) :
    let outcome := outcomeOf settings time (.ofOutcome o format)
    let logged := logShown settings time o.log
    (outcome.exitCode = 0 ↔ o.status = .complete ∧ format.Shows o.tree) ∧
      (format.Shows o.tree → format.render o.tree = .ok outcome.output ∧
        outcome.messages = logged ++ Report.unclosedWarning o.unclosed) ∧
      (¬ format.Shows o.tree → outcome.output = "" ∧ outcome.messages =
        logged ++ errorMessage (FormatError.tooDeep (o.tree.height Tree.root)).message) := by
  intro outcome logged
  by_cases hshows : format.Shows o.tree
  · obtain ⟨text, htext⟩ := TreeFormat.exists_render_of_shows ht hshows
    have houtcome : outcome = outcomeOf settings time ⟨text, _, _, _⟩ :=
      congrArg (outcomeOf settings time) (Report.ofOutcome_of_render htext)
    rw [houtcome, exitCode_outcomeOf, decide_eq_true_eq]
    exact ⟨(and_iff_left hshows).symm, fun _ => ⟨htext, rfl⟩, fun hnot => absurd hshows hnot⟩
  · have houtcome : outcome = outcomeOf settings time ⟨"", _, false, _⟩ :=
      congrArg (outcomeOf settings time)
        (Report.ofOutcome_of_error (TreeFormat.render_of_not_shows ht hshows))
    rw [houtcome, exitCode_outcomeOf]
    exact ⟨iff_of_false Bool.false_ne_true fun h => hshows h.2, fun h => absurd h hshows,
      fun _ => ⟨rfl, rfl⟩⟩

/-- Whatever the formats are, `tokens` exits with 0 if and only if the reader of `Sexp.tokenize` is
`atEnd`, and `tree` if and only if, besides, `shape` shows the tree `t` of the tokens. As `dump` it
is printed as far as it was built, also if the scan fails, and `Tree.writeDump` streams the same
bytes to any channel that refuses nothing. A tree that `shape` shows comes with a warning of the
`opened` lists, if there are any, and nothing else besides the log; one that is too deep is refused
with its height. -/
theorem run_of_reads (h : Reads files arguments environment world i settings name source)
    (time : String) :
    let s := Sexp.tokenize source
    let t := (Sexp.parser.parse s.output.toList).1.tree
    let opened := Sexp.openLists s.output.toList
    let outcome := ((run files arguments environment time).run world).1
    (∀ format, i.command = .tokens name format →
      (outcome.exitCode = 0 ↔ s.reader.atEnd = true)) ∧
    ∀ format, i.command = .tree name format →
      let shape := format.getD settings.output.tree
      let logged := logShown settings.logging time (Sexp.parse source).log
      (outcome.exitCode = 0 ↔ s.reader.atEnd = true ∧ shape.Shows t) ∧
      (shape = .dump → outcome.output = t.dump ∧
        ∀ c : Channel, c.Accepting → c.flushFails = false →
          t.writeDump c = (.ok (), c.holding (c.held ++ outcome.output.toUTF8))) ∧
      (shape.Shows t → shape.render t = .ok outcome.output ∧
        outcome.messages = logged ++
          if opened = 0 then ""
          else "warning: " ++ toString opened ++ " unclosed list(s) at end of input\n") ∧
      (¬ shape.Shows t → outcome.output = "" ∧ outcome.messages =
        logged ++ errorMessage (FormatError.tooDeep (t.height Tree.root)).message) := by
  obtain ⟨htree, hwellFormed, hunclosed, hstatus⟩ := Sexp.parse_eq_tokenize source
  have hcomplete := Sexp.status_eq_complete_iff source
  have htokens : ∀ format, i.command = .tokens name format →
      (((run files arguments environment time).run world).1.exitCode = 0 ↔
        (Sexp.tokenize source).status = .complete) := by
    intro format hcommand
    rw [h.outcome_eq (by rw [hcommand]; rfl) time, exitCode_outcomeOf, Report.succeeded_ofTokens]
  have htrees : ∀ format, i.command = .tree name format →
      ((run files arguments environment time).run world).1 = outcomeOf settings.logging time
        (.ofOutcome (Sexp.parse source) (format.getD settings.output.tree)) := by
    intro format hcommand
    rw [← Report.ofTree_eq_ofOutcome]
    exact h.outcome_eq (by rw [hcommand]; rfl) time
  -- What the lexer and the run do in fact is of no matter from here on.
  generalize Sexp.tokenize source = session at *
  generalize Sexp.parse source = o at *
  generalize ((run files arguments environment time).run world).1 = left at *
  refine ⟨fun format hcommand => (htokens format hcommand).trans hcomplete,
    fun format hcommand => ?_⟩
  obtain ⟨hexit, hshown, hrefused⟩ := outcomeOf_ofOutcome settings.logging time
    (format.getD settings.output.tree) hwellFormed
  rw [← htrees format hcommand, hstatus, hcomplete, htree] at hexit
  rw [← htrees format hcommand, htree, hunclosed] at hshown
  rw [← htrees format hcommand, htree] at hrefused
  refine ⟨hexit, fun hdump => ?_, hshown, hrefused⟩
  rw [hdump] at hshown
  have hlisting : (Sexp.parser.parse session.output.toList).1.tree.dump = left.output :=
    Except.ok.inj (hshown (.inl rfl)).1
  rw [← hlisting]
  exact ⟨rfl, fun c hc hflush => Tree.writeDump_of_accepting hc hflush _⟩

/-- Two lists that are not closed, and a rune that starts no token. -/
def openText : String := "((a;"

theorem scan_openText :
    (Sexp.tokenize openText).status = .failed 3 ∧
      (Sexp.tokenize openText).output.toList = (Sexp.stream 0 openText.toList).all := by
  obtain ⟨_, _, h⟩ := Sexp.exists_tokenize_eq openText
  have hfailed : (Sexp.stream 0 openText.toList).status = .failed 3 := by decide +kernel
  rw [h]
  exact ⟨hfailed, rfl⟩

/-- The settings where nothing is set. -/
def defaultSettings : Settings := ⟨⟨"warn", "-", .compact⟩, ⟨.plain, .dump⟩⟩

/-- A run that is given `openText` as its input, in a directory without any files. -/
theorem reads_openText :
    Reads (Directory.access openText.toUTF8) ["tree", "-"] [] ⟨[], []⟩ ⟨.tree "-" none, none, none⟩
      defaultSettings "-" openText := by
  have hdefaults : (Settings.Loader.new.addEnvironment []).build = .ok defaultSettings := by
    decide +kernel
  refine ⟨by decide +kernel, ⟨[], []⟩, ⟨[], []⟩, ⟨[], []⟩, ?_, rfl, ?_⟩
  · show ((Settings.Loader.new.addEnvironment []).build, Directory.mk [] []) = _
    rw [hdefaults]
  · show (textOfFile (.ok openText.toUTF8), Directory.mk [] []) = _
    rw [textOfFile_toUTF8]

theorem run_of_reads_openText :
    Reads (Directory.access openText.toUTF8) ["tree", "-"] [] ⟨[], []⟩ ⟨.tree "-" none, none, none⟩
      defaultSettings "-" openText ∧
    let outcome := ((run (Directory.access openText.toUTF8) ["tree", "-"] [] "").run ⟨[], []⟩).1
    outcome.exitCode ≠ 0 ∧ outcome.output = "[ROOT]\n  [LIST]\n    [LIST]\n      [SYMBOL] a\n" ∧
      outcome.messages = logShown defaultSettings.logging "" (Sexp.parse openText).log ++
        "warning: 2 unclosed list(s) at end of input\n" := by
  obtain ⟨-, htree⟩ := run_of_reads reads_openText ""
  obtain ⟨hexit, hdump, hshown, -⟩ := htree none rfl
  obtain ⟨hfailed, htokens⟩ := scan_openText
  refine ⟨reads_openText, fun hzero => ?_, ?_, ?_⟩
  · have hcomplete := (Sexp.status_eq_complete_iff openText).mpr (hexit.mp hzero).1
    rw [hfailed] at hcomplete
    exact ScanStatus.noConfusion hcomplete
  · rw [(hdump rfl).1, htokens]
    decide +kernel
  · have hopened : Sexp.openLists (Sexp.stream 0 openText.toList).all = 2 := by decide +kernel
    rw [(hshown (.inl rfl)).2, htokens, hopened]
    rfl

end Program

end LexTree
