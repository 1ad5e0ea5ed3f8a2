import LexTree.Pattern.Anchored
import LexTree.Proofs.Pattern.ClosingClass

/-!
# Patterns in a group of their own

A pattern that is put in a group between anchors is read as it would be alone, or it
closes the group itself.

- `step_inside`: with one more group around all that is open, a step does the same, unless
  it closes that group.
- `agree_step`: a step reads what it would without the closing text, or that text is taken
  for something else, and then the group stays open (`run_of_lost`).
- `run_enclosed`: the run over an enclosed pattern follows the run over the pattern.
- `parse_enclose`: an enclosed pattern is the group of the pattern between the anchors, or
  the pattern closes a group that it does not open.
-/

namespace LexTree.Pattern.Parser

open LexTree.Text

variable {st st₁ : State} {frame : Frame} {s u v w : List Char}

/-- The state `st` with the group `frame` around all that is open. -/
def State.inside (st : State) (frame : Frame) : State :=
  { st with frames := st.frames ++ [frame] }

/-- A result of `step` with the group `frame` around it. -/
def insideOf (frame : Frame) (p : State × List Char) : State × List Char :=
  (p.1.inside frame, p.2)

theorem frames_inside_ne_nil (st : State) (frame : Frame) : (st.inside frame).frames ≠ [] := by
  simp [State.inside]

theorem closeGroup_inside (h : st.frames ≠ []) :
    (st.inside frame).closeGroup = st.closeGroup.map (·.inside frame) := by
  unfold State.closeGroup State.inside
  cases hframes : st.frames with
  | nil => exact absurd hframes h
  | cons inner frames => rfl

theorem repeatLast_inside (least : Nat) (most : Option Nat) (greedy : Bool) :
    (st.inside frame).repeatLast least most greedy =
      (st.repeatLast least most greedy).map (·.inside frame) := by
  unfold State.repeatLast State.inside
  simp only
  split <;> rfl

theorem repeatAs_inside (least : Nat) (most : Option Nat) (s : List Char) :
    repeatAs (st.inside frame) least most s = (repeatAs st least most s).map (insideOf frame) := by
  unfold repeatAs
  split <;>
  · rw [repeatLast_inside]
    cases st.repeatLast least most _ <;> rfl

theorem openNamed_inside (s : List Char) :
    (st.inside frame).openNamed s = (st.openNamed s).map (insideOf frame) := by
  unfold State.openNamed
  cases readName s with
  | error e => rfl
  | ok p =>
    obtain ⟨name, t⟩ := p
    simp only [bind, Except.bind, show (st.inside frame).names = st.names from rfl]
    cases st.names.contains name <;> rfl

/-- Flags from after the question mark, up to the end of the parenthesis or of the opening. -/
def State.readFlagGroup (st : State) (s : List Char) : Except PatternError (State × List Char) :=
  readFlags false false [] s >>= fun p =>
    if p.1.2 then .ok (st.openGroup false p.1.1, p.2)
    else if p.1.1.isEmpty then .error .emptyFlags
    else .ok ({ st.push (.flags p.1.1) with verbose := st.verboseAfter p.1.1 }, p.2)

theorem readFlagGroup_inside (s : List Char) :
    (st.inside frame).readFlagGroup s = (st.readFlagGroup s).map (insideOf frame) := by
  unfold State.readFlagGroup
  cases readFlags false false [] s with
  | error e => rfl
  | ok p =>
    simp only [bind, Except.bind]
    split
    · rfl
    · split <;> rfl

/-- What is read of a group's opening once blanks are skipped. -/
def State.groupFrom (st : State) : List Char → Except PatternError (State × List Char)
  | '?' :: '=' :: _ | '?' :: '!' :: _ | '?' :: '<' :: '=' :: _ | '?' :: '<' :: '!' :: _ =>
    .error .lookAround
  | '?' :: 'P' :: '<' :: s | '?' :: '<' :: s => st.openNamed s
  | '?' :: s => st.readFlagGroup s
  | s => .ok (st.openGroup true [], s)

theorem readGroup_eq (st : State) (s : List Char) :
    st.readGroup s = st.groupFrom (skip st.verbose s) := rfl

theorem readGroup_inside (s : List Char) :
    (st.inside frame).readGroup s = (st.readGroup s).map (insideOf frame) := by
  rw [readGroup_eq, readGroup_eq, show (st.inside frame).verbose = st.verbose from rfl]
  fun_cases st.groupFrom (skip st.verbose s)
  case case5 s => exact openNamed_inside s
  case case6 s hequal hbang =>
    rw [State.groupFrom]
    exact openNamed_inside s
    all_goals assumption
  case case7 =>
    simp only [State.groupFrom, *]
    exact readFlagGroup_inside _
  case case8 =>
    simp only [State.groupFrom, *]
    rfl
  all_goals rfl

/-- Pushes a part that has been read. -/
def pushed (st : State) (p : Ast × List Char) : State × List Char := (st.push p.1, p.2)

theorem map_pushed_inside (x : Except PatternError (Ast × List Char)) :
    x.map (pushed (st.inside frame)) = (x.map (pushed st)).map (insideOf frame) := by
  cases x <;> rfl

/-- What is read of a repetition in braces after the opening brace. -/
def repeatCounted (st : State) (s : List Char) : Except PatternError (State × List Char) :=
  readCounts st.verbose s >>= fun p => repeatAs st p.1.1 p.1.2 (skip st.verbose p.2)

theorem repeatCounted_inside (s : List Char) :
    repeatCounted (st.inside frame) s = (repeatCounted st s).map (insideOf frame) := by
  unfold repeatCounted
  rw [show (st.inside frame).verbose = st.verbose from rfl]
  cases readCounts st.verbose s with
  | error e => rfl
  | ok p => exact repeatAs_inside p.1.1 p.1.2 _

/-- With the group `frame` around all that is open, `step` does the same, unless it closes that
group. -/
theorem step_inside {c : Char} (h : c = ')' → st.frames ≠ []) (s : List Char) :
    step (st.inside frame) c s = (step st c s).map (insideOf frame) := by
  fun_cases step st c s
  case case1 => exact readGroup_inside s
  case case2 =>
    rw [step, closeGroup_inside (h rfl)]
    cases st.closeGroup <;> rfl
  case case4 => exact map_pushed_inside (readClass st.verbose s)
  case case5 => exact repeatAs_inside 0 (some 1) s
  case case6 => exact repeatAs_inside 0 none s
  case case7 => exact repeatAs_inside 1 none s
  case case8 => exact map_pushed_inside (readEscape st.verbose s)
  case case12 hbrace =>
    simp only [step, if_pos hbrace]
    exact repeatCounted_inside s
  case case13 hbrace =>
    simp only [step, if_neg hbrace]
    rfl
  all_goals rfl

/-! ## Before the closing text -/

/-- The end of the group has been taken for something else, or a brace is to be read that has
nothing in it and is never closed. -/
def Lost (st : State) (v : List Char) : Prop :=
  v <:+ ['$'] ∨ ∃ c s, v = c :: s ∧ c.toNat = 0x7B ∧ skip st.verbose s = closing

theorem agree_repeatAs (st : State) (least : Nat) (most : Option Nat) (s : List Char) :
    Agree Never s (repeatAs st least most s)
      (repeatAs st least most (s ++ closing)) := by
  have hrepeat : ∀ (greedy : Bool) (u : List Char), Agree Never u
      ((st.repeatLast least most greedy).map (·, u))
      ((st.repeatLast least most greedy).map (·, u ++ closing)) := by
    intro greedy u
    cases st.repeatLast least most greedy with
    | error e => exact .error
    | ok st => exact .ok List.suffix_rfl
  by_cases hlazy : ∃ t, s = '?' :: t
  · obtain ⟨t, rfl⟩ := hlazy
    exact .mono (List.suffix_cons _ t) (hrepeat false t)
  · have hno : ∀ t, s = '?' :: t → False := fun t ht => hlazy ⟨t, ht⟩
    rw [repeatAs.eq_2 st least most s hno,
      repeatAs.eq_2 st least most _ (append_ne_cons (by decide) hno)]
    exact hrepeat true s

theorem agree_openNamed (st : State) (s : List Char) :
    Agree Eaten s (st.openNamed s) (st.openNamed (s ++ closing)) := by
  refine (agree_readName s).andThen (f := fun name =>
    if st.names.contains name then .error .groupNameDuplicate
    else .ok { st.openGroup true [] with names := name :: st.names }) fun name v => ?_
  simp only
  split <;> rfl

theorem agree_readFlagGroup (st : State) (s : List Char) :
    Agree Eaten s (st.readFlagGroup s) (st.readFlagGroup (s ++ closing)) := by
  refine (agree_readFlags false false [] s).andThen (f := fun p =>
    if p.2 then .ok (st.openGroup false p.1)
    else if p.1.isEmpty then .error .emptyFlags
    else .ok { st.push (.flags p.1) with verbose := st.verboseAfter p.1 }) fun p v => ?_
  simp only
  split
  · rfl
  · split <;> rfl

theorem agree_groupFrom (st : State) (s : List Char) :
    Agree Eaten s (st.groupFrom s) (st.groupFrom (s ++ closing)) := by
  fun_cases st.groupFrom s
  case case5 t =>
    refine .mono ?_ (agree_openNamed st t)
    exact List.suffix_append ['?', 'P', '<'] t
  case case6 t hequal hbang =>
    rw [List.cons_append, List.cons_append, State.groupFrom.eq_6]
    · exact .mono (List.suffix_append ['?', '<'] t) (agree_openNamed st t)
    · exact append_ne_cons (by decide) hequal
    · exact append_ne_cons (by decide) hbang
  case case7 t hequal hbang hequal' hbang' hnamed hopen =>
    rw [List.cons_append, State.groupFrom.eq_7]
    · exact .mono (List.suffix_cons _ t) (agree_readFlagGroup st t)
    · exact append_ne_cons (by decide) hequal
    · exact append_ne_cons (by decide) hbang
    · exact fun _ => append_ne_cons (by decide) hopen _
    · exact fun _ => append_ne_cons (by decide) hopen _
    · exact append_ne_cons₂ (by decide) (by decide) hnamed
    · exact append_ne_cons (by decide) hopen
  case case8 hquestion =>
    have hno := append_ne_cons (by decide) hquestion
    rw [State.groupFrom.eq_8 _ _ (fun _ => hno _) (fun _ => hno _) (fun _ => hno _)
      (fun _ => hno _) (fun _ => hno _) (fun _ => hno _) hno]
    exact .ok List.suffix_rfl
  all_goals exact .error

theorem agree_readGroup (st : State) (s : List Char) :
    Agree Eaten s (st.readGroup s) (st.readGroup (s ++ closing)) := by
  rw [readGroup_eq, readGroup_eq]
  refine .skip (fun u _ => agree_groupFrom st u) ?_
  rintro a v ⟨⟩
  exact eaten_nil _

theorem agree_repeatCounted (st : State) (s : List Char) :
    Agree Eaten s (repeatCounted st s) (repeatCounted st (s ++ closing)) := by
  refine (agree_readCounts st.verbose s).bind (fun counts u _ => ?_) fun _ _ hv => hv.elim
  refine .skip (fun w _ => (agree_repeatAs st counts.1 counts.2 w).imp fun _ _ => False.elim) ?_
  intro a v hv
  rw [show repeatAs st counts.1 counts.2 [] = (st.repeatLast counts.1 counts.2 true).map (·, [])
    from rfl] at hv
  rw [(eq_of_map_eq hv).2]
  exact eaten_nil a

/-- `step` reads what it would without `closing`, or takes `closing` for something else. -/
theorem agree_step (st : State) (c : Char) (s : List Char) :
    Agree Lost s (step st c s) (step st c (s ++ closing)) := by
  have heaten : ∀ (a : State) (v : List Char), Eaten a v → Lost a v := fun _ _ => .inl
  have hnever : ∀ (a : State) (v : List Char), Never a v → Lost a v := fun _ _ => False.elim
  fun_cases step st c s
  case case1 => exact (agree_readGroup st s).imp heaten
  case case2 =>
    simp only [step]
    cases st.closeGroup with
    | error e => exact .error
    | ok st => exact .ok List.suffix_rfl
  case case4 => exact (agree_readClass st.verbose s).map st.push fun _ _ => False.elim
  case case5 => exact (agree_repeatAs st 0 (some 1) s).imp hnever
  case case6 => exact (agree_repeatAs st 0 none s).imp hnever
  case case7 => exact (agree_repeatAs st 1 none s).imp hnever
  case case8 =>
    refine (agree_readEscape st.verbose s).map st.push fun a v hv => ?_
    exact hv.imp_right And.right
  case case12 hbrace =>
    simp only [step, if_pos hbrace]
    exact (agree_repeatCounted st s).imp heaten
  case case13 hbrace =>
    simp only [step, if_neg hbrace]
    exact .ok List.suffix_rfl
  all_goals exact .ok List.suffix_rfl

/-! ## Runs -/

theorem run_nil (n : Nat) (st : State) : run n st [] = .ok st := by
  cases n with
  | zero => rfl
  | succ n => rw [run, skip_nil]

theorem run_skipped {n : Nat} (st : State) (h : skip st.verbose s = []) : run n st s = .ok st := by
  cases n with
  | zero => rfl
  | succ n => rw [run, h]

theorem run_cons {n : Nat} {c : Char} (st : State) (h : skip st.verbose s = c :: u) :
    run (n + 1) st s = step st c u >>= fun p => run n p.1 p.2 := by
  rw [run, h]

/-- The next `step`, where a run ends. -/
theorem exists_step_of_run {n : Nat} {c : Char} {fin : State} (st : State)
    (h : skip st.verbose s = c :: u) (hrun : run (n + 1) st s = .ok fin) :
    ∃ st₁ v, step st c u = .ok (st₁, v) ∧ run n st₁ v = .ok fin := by
  rw [run_cons st h] at hrun
  obtain ⟨p, hstep, hrun⟩ := bind_eq_ok_iff.mp hrun
  exact ⟨p.1, p.2, hstep, hrun⟩

theorem run_dollar (n : Nat) (st : State) :
    run (n + 1) st ['$'] = .ok (st.push (.assertion .lineEnd)) := by
  rw [run_cons st (skip_dollar st.verbose)]
  exact run_nil n _

/-- Once `closing` is taken for something else, no run closes the group `frame`. -/
theorem run_of_lost {n : Nat} {fin : State} (h : Lost st v)
    (hrun : run n (st.inside frame) v = .ok fin) : fin.frames ≠ [] := by
  cases n with
  | zero =>
    cases hrun
    exact frames_inside_ne_nil st frame
  | succ n =>
    obtain hv | ⟨c, s, rfl, hc, hskip⟩ := h
    · obtain rfl | rfl := suffix_dollar_iff.mp hv
      · rw [run_dollar] at hrun
        cases hrun
        exact frames_inside_ne_nil (st.push _) frame
      · rw [run_nil] at hrun
        cases hrun
        exact frames_inside_ne_nil st frame
    · -- There are no counts in the braces.
      have hbrace : c = '\x7b' := Char.toNat_inj.mp hc
      subst hbrace
      have hrest : skip st.verbose ('\x7b' :: s) = '\x7b' :: s := by
        cases st.verbose <;> rfl
      have hcounts : readCounts st.verbose s = .error .countMissing := by
        rw [readCounts, hskip]
        cases st.verbose <;> rfl
      have hstep : step (st.inside frame) '\x7b' s = .error .countMissing := by
        show repeatCounted (st.inside frame) s = _
        rw [repeatCounted, show (st.inside frame).verbose = st.verbose from rfl, hcounts]
        rfl
      obtain ⟨st₁, u, hstep', -⟩ := exists_step_of_run (st.inside frame) hrest hrun
      rw [hstep] at hstep'
      cases hstep'

/-- The state after `closing`, where the group `frame` and nothing in it is open. -/
def State.closed (st : State) (frame : Frame) : State :=
  { st with
    verbose := frame.verbose
    branches := frame.branches
    parts := .assertion .lineEnd :: .group frame.index frame.settings st.body :: frame.parts
    frames := [] }

theorem run_close {n : Nat} (hskip : skip st.verbose s = closing) (hframes : st.frames = []) :
    run (n + 2) (st.inside frame) s = .ok (st.closed frame) := by
  have hclose : (st.inside frame).closeGroup = .ok { st with
      verbose := frame.verbose
      branches := frame.branches
      parts := .group frame.index frame.settings st.body :: frame.parts
      frames := [] } := by
    simp only [State.closeGroup, State.inside, hframes]
    rfl
  rw [run_cons (st.inside frame) hskip]
  simp only [step, hclose]
  exact run_dollar n _

theorem step_of_inside {c : Char} (hopen : c = ')' → st.frames ≠ [])
    (h : step (st.inside frame) c s = .ok (st₁, v)) :
    ∃ st₂, step st c s = .ok (st₂, v) ∧ st₁ = st₂.inside frame := by
  rw [step_inside hopen] at h
  obtain ⟨p, hstep, hpair⟩ := map_eq_ok_iff.mp h
  cases hpair
  exact ⟨p.1, hstep, rfl⟩

/-- The run over `s ++ closing` in the group `frame` follows the run over `s`, or `s` closes that
group. -/
theorem run_enclosed {m n : Nat} {fin : State} (hm : s.length ≤ m) (hn : s.length + 2 ≤ n)
    (hrun : run n (st.inside frame) (s ++ closing) = .ok fin) (hfin : fin.frames = []) :
    (∃ st', run m st s = .ok st' ∧ st'.frames = [] ∧ fin = st'.closed frame) ∨
      run m st s = .error .groupUnopened := by
  -- Each step takes a rune, so the fuel of both runs is enough for what is left.
  induction n generalizing m st s with
  | zero => omega
  | succ n ih =>
    obtain ⟨w, hw, h, h' | ⟨rfl, h'⟩⟩ := skip_cases st.verbose s
    · have hlen := hw.length_le
      cases w with
      | nil =>
        rw [run_skipped st h]
        by_cases hframes : st.frames = []
        · left
          obtain ⟨n, rfl⟩ : ∃ k, n = k + 1 := ⟨n - 1, by omega⟩
          rw [run_close h' hframes] at hrun
          exact ⟨st, rfl, hframes, (Except.ok.inj hrun).symm⟩
        · -- The closing text closes another group.
          obtain ⟨st₁, v, hstep, hrun⟩ := exists_step_of_run (st.inside frame) h' hrun
          obtain ⟨st₂, hstep, rfl⟩ := step_of_inside (fun _ => hframes) hstep
          have hdollar : v = ['$'] := by
            rw [step] at hstep
            exact (eq_of_map_eq hstep).2
          have hlost : Lost st₂ v := .inl (hdollar ▸ List.suffix_rfl)
          exact absurd hfin (run_of_lost hlost hrun)
      | cons c t =>
        rw [List.length_cons] at hlen
        obtain ⟨m, rfl⟩ : ∃ k, m = k + 1 := ⟨m - 1, by omega⟩
        rw [run_cons st h]
        by_cases hclose : c = ')' ∧ st.frames = []
        · obtain ⟨rfl, hframes⟩ := hclose
          right
          rw [step, State.closeGroup, hframes]
          rfl
        · have hopen : c = ')' → st.frames ≠ [] := fun hc hframes => hclose ⟨hc, hframes⟩
          obtain ⟨st₁, v, hinside, hrun⟩ := exists_step_of_run (st.inside frame) h' hrun
          obtain ⟨st₂, hstep, rfl⟩ := step_of_inside hopen hinside
          obtain hlost | ⟨u, hu, rfl, hown⟩ := agree_step st c t st₂ v hstep
          · exact absurd hfin (run_of_lost hlost hrun)
          · have hle := hu.length_le
            rw [hown]
            show (∃ st', run m st₂ u = .ok st' ∧ _) ∨ run m st₂ u = _
            exact ih (by omega) (by omega) hrun
    · rw [run_skipped (st.inside frame) h'] at hrun
      cases hrun
      exact absurd hfin (frames_inside_ne_nil st frame)

end LexTree.Pattern.Parser

namespace LexTree.Pattern

open LexTree.Pattern.Parser

theorem toList_enclose (pattern : String) :
    (AnchoredPattern.enclose pattern).toList =
      '^' :: '(' :: '?' :: ':' :: (pattern.toList ++ closing) := by
  simp [AnchoredPattern.enclose, closing]

/-- What surrounds a pattern that is put in a group between anchors. -/
def Parser.enclosure : Frame := ⟨none, [], false, [], [.assertion .lineStart]⟩

/-- `run` over an enclosed pattern has the `enclosure` around it when it comes to the pattern. -/
theorem run_enclose (n : Nat) (s : List Char) :
    run (n + 2) .start ('^' :: '(' :: '?' :: ':' :: s) =
      run n (State.start.inside enclosure) s := rfl

theorem Ast.parse_eq_ok_iff {pattern : String} {ast : Ast} :
    Ast.parse pattern = .ok ast ↔ ∃ st, run (pattern.length + 1) .start pattern.toList = .ok st ∧
      st.frames = [] ∧ st.body.depth ≤ nestLimit ∧ st.body = ast := by
  unfold Ast.parse
  cases run (pattern.length + 1) .start pattern.toList with
  | error e => simp [bind, Except.bind]
  | ok st =>
    simp only [bind, Except.bind, List.isEmpty_iff, Except.ok.injEq]
    by_cases hframes : st.frames = []
    · by_cases hdepth : st.body.depth ≤ nestLimit <;> simp [hframes, hdepth]
    · simp [hframes]

theorem Parser.State.body_closed (st : State) :
    (st.closed enclosure).body =
      .concat [.assertion .lineStart, .group none [] st.body, .assertion .lineEnd] := rfl

/-- An enclosed pattern is the group of `pattern` between the anchors, or `pattern` closes a group
that it does not open. -/
theorem Ast.parse_enclose {pattern : String} {whole : Ast}
    (h : Ast.parse (AnchoredPattern.enclose pattern) = .ok whole) :
    (∃ ast, Ast.parse pattern = .ok ast ∧
        whole = .concat [.assertion .lineStart, .group none [] ast, .assertion .lineEnd]) ∨
      Ast.parse pattern = .error .groupUnopened := by
  have hlength : (AnchoredPattern.enclose pattern).length = pattern.length + 6 := by
    have hlen := congrArg List.length (toList_enclose pattern)
    simp only [List.length_cons, List.length_append, String.length_toList, closing] at hlen
    exact hlen
  obtain ⟨fin, hrun, hframes, hdepth, rfl⟩ := Ast.parse_eq_ok_iff.mp h
  rw [toList_enclose, hlength, run_enclose] at hrun
  have hm : pattern.toList.length ≤ pattern.length + 1 := by
    rw [String.length_toList]
    omega
  have hn : pattern.toList.length + 2 ≤ pattern.length + 5 := by
    rw [String.length_toList]
    omega
  obtain ⟨st, hst, hopen, rfl⟩ | herror := run_enclosed hm hn hrun hframes
  · left
    refine ⟨st.body, Ast.parse_eq_ok_iff.mpr ⟨st, hst, hopen, ?_, rfl⟩, st.body_closed⟩
    rw [State.body_closed] at hdepth
    simp only [Ast.depth, Ast.depthAll] at hdepth
    omega
  · right
    rw [Ast.parse, herror]
    rfl

end LexTree.Pattern
