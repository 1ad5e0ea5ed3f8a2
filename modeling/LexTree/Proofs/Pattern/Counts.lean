import LexTree.Proofs.Pattern.Enclosed
import LexTree.Proofs.Pattern.Places
import LexTree.Proofs.Pattern.Row

/-!
# Counts in order

A pattern whose counts are the wrong way round is refused, so in all that is read and in
what it means no least count is above the most, and matching by sets of places finds
exactly the matches.

- `Ast.Counted` and `Expr.Counted` say that counts are in order.
- `Ast.parse_counted`: they are in a pattern that is read, by the invariant of `step_counted`
  and `run_counted`.
- `Ast.Counted.meaning`: the expression keeps them in order, and so does the regular
  expression (`Expr.Counted.bounded`).
-/

namespace LexTree.Pattern

/-- The count `least` is not above `most`. -/
def InOrder (least : Nat) (most : Option Nat) : Prop := ∀ m, most = some m → least ≤ m

mutual

/-- All counts of a pattern are `InOrder`. -/
def Ast.Counted : Ast → Prop
  | .repetition body least most _ => body.Counted ∧ InOrder least most
  | .group _ _ body => body.Counted
  | .alternation branches => Ast.AllCounted branches
  | .concat parts => Ast.AllCounted parts
  | _ => True

def Ast.AllCounted : List Ast → Prop
  | [] => True
  | part :: parts => part.Counted ∧ Ast.AllCounted parts

end

mutual

/-- All counts of an expression are `InOrder`. -/
def Expr.Counted : Expr → Prop
  | .repetition body least most _ => body.Counted ∧ InOrder least most
  | .capture _ body => body.Counted
  | .concat parts => Expr.AllCounted parts
  | .alternation branches => Expr.AllCounted branches
  | _ => True

def Expr.AllCounted : List Expr → Prop
  | [] => True
  | part :: parts => part.Counted ∧ Expr.AllCounted parts

end

theorem Ast.allCounted_iff {parts : List Ast} :
    Ast.AllCounted parts ↔ ∀ part ∈ parts, part.Counted := by
  induction parts with
  | nil => simp [Ast.AllCounted]
  | cons part parts ih => rw [Ast.AllCounted, ih, List.forall_mem_cons]

theorem Expr.allCounted_iff {parts : List Expr} :
    Expr.AllCounted parts ↔ ∀ part ∈ parts, part.Counted := by
  induction parts with
  | nil => simp [Expr.AllCounted]
  | cons part parts ih => rw [Expr.AllCounted, ih, List.forall_mem_cons]

/-! ## Reading -/

namespace Parser

variable {st st₁ : State} {s u : List Char} {ast : Ast}

theorem readHex_counted {verbose : Bool} {digits : Nat}
    (h : readHex verbose digits s = .ok (ast, u)) : ast.Counted := by
  rw [readHex_eq, hexLiteral] at h
  obtain ⟨p, -, h⟩ := bind_eq_ok_iff.mp h
  have hliteral := (eq_of_map_eq h).1
  unfold literalOf? at hliteral
  split at hliteral
  · cases hliteral
  · cases hliteral
    trivial

theorem readProperty_counted {verbose negated : Bool}
    (h : readProperty verbose negated s = .ok (ast, u)) : ast.Counted := by
  unfold readProperty at h
  split at h
  · cases h
  · cases h
  · split at h
    · split at h
      · cases h
      · cases h
        trivial
    · cases h
      trivial

theorem readBoundary_counted {verbose : Bool} (h : readBoundary verbose s = .ok (ast, u)) :
    ast.Counted := by
  have hassertion : ∃ a, ast = .assertion a := by
    unfold readBoundary at h
    grind
  obtain ⟨a, rfl⟩ := hassertion
  trivial

theorem readEscape_counted {verbose : Bool} (h : readEscape verbose s = .ok (ast, u)) :
    ast.Counted := by
  unfold readEscape at h
  split at h
  case h_1 => cases h
  case h_2 => exact readHex_counted h
  case h_3 => exact readHex_counted h
  case h_4 => exact readHex_counted h
  case h_11 => exact readProperty_counted h
  case h_12 => exact readProperty_counted h
  case h_22 => exact readBoundary_counted h
  case h_25 =>
    split at h
    · cases h
    · split at h
      · cases h
        trivial
      · cases h
  all_goals
    cases h
    trivial

theorem readItems_counted {verbose : Bool} {n : Nat} {cls : OpenClass} {outer : List OpenClass}
    (h : readItems verbose n cls outer s = .ok (ast, u)) : ast.Counted := by
  fun_induction readItems verbose n cls outer s with
  | case1 => cases h
  | case2 => cases h
  | case3 _ _ _ _ _ _ _ _ _ ih => exact ih h
  | case4 _ _ _ _ _ _ _ ih =>
    obtain ⟨p, -, h⟩ := bind_eq_ok_iff.mp h
    exact ih p.1 p.2 h
  | case5 =>
    cases h
    trivial
  | case6 _ _ _ _ _ _ _ ih => exact ih h
  | case7 _ _ _ _ _ _ ih => exact ih h
  | case8 _ _ _ _ _ _ ih => exact ih h
  | case9 _ _ _ _ _ _ ih => exact ih h
  | case10 _ _ _ _ _ _ _ _ _ _ ih =>
    obtain ⟨p, -, h⟩ := bind_eq_ok_iff.mp h
    exact ih p.1 p.2 h

theorem readClass_counted {verbose : Bool} (h : readClass verbose s = .ok (ast, u)) :
    ast.Counted := by
  obtain ⟨p, -, h⟩ := bind_eq_ok_iff.mp h
  exact readItems_counted h

theorem readCounts_inOrder {verbose : Bool} {least : Nat} {most : Option Nat}
    (h : readCounts verbose s = .ok ((least, most), u)) : InOrder least most := by
  rw [readCounts_eq] at h
  obtain ⟨p, -, h⟩ := bind_eq_ok_iff.mp h
  obtain ⟨q, -, h⟩ := bind_eq_ok_iff.mp h
  unfold closeCounts at h
  split at h
  · split at h
    · cases h
    · split at h
      · cases h
      · next hreversed =>
        cases h
        intro m hm
        simpa [hm] using hreversed
  · cases h

/-- All counts in what has been read are `InOrder`. -/
structure State.Counted (st : State) : Prop where
  parts : ∀ part ∈ st.parts, part.Counted
  branches : ∀ branch ∈ st.branches, branch.Counted
  frames : ∀ frame ∈ st.frames,
    (∀ part ∈ frame.parts, part.Counted) ∧ ∀ branch ∈ frame.branches, branch.Counted

theorem ofParts_counted {wrap : List Ast → Ast} {parts : List Ast}
    (hwrap : ∀ parts, (wrap parts).Counted ↔ Ast.AllCounted parts)
    (h : ∀ part ∈ parts, part.Counted) : (Ast.ofParts wrap parts).Counted := by
  unfold Ast.ofParts
  split
  · trivial
  · exact h _ (List.mem_singleton.mpr rfl)
  · exact (hwrap _).mpr (Ast.allCounted_iff.mpr h)

namespace State.Counted

theorem start : State.start.Counted := ⟨nofun, nofun, nofun⟩

theorem row (h : st.Counted) : (Ast.ofParts .concat st.parts.reverse).Counted :=
  ofParts_counted (fun _ => by rw [Ast.Counted]) fun part hpart =>
    h.parts part (List.mem_reverse.mp hpart)

theorem body (h : st.Counted) : st.body.Counted := by
  refine ofParts_counted (fun _ => by rw [Ast.Counted]) fun branch hbranch => ?_
  obtain rfl | hbranch := List.mem_cons.mp (List.mem_reverse.mp hbranch)
  · exact h.row
  · exact h.branches branch hbranch

theorem push (h : st.Counted) (hast : ast.Counted) : (st.push ast).Counted :=
  ⟨List.forall_mem_cons.mpr ⟨hast, h.parts⟩, h.branches, h.frames⟩

theorem branch (h : st.Counted) : st.branch.Counted :=
  ⟨nofun, List.forall_mem_cons.mpr ⟨h.row, h.branches⟩, h.frames⟩

theorem openGroup (h : st.Counted) (captures : Bool) (settings : List FlagSetting) :
    (st.openGroup captures settings).Counted :=
  ⟨nofun, nofun, List.forall_mem_cons.mpr ⟨⟨h.parts, h.branches⟩, h.frames⟩⟩

theorem closeGroup (h : st.Counted) (hclose : st.closeGroup = .ok st₁) : st₁.Counted := by
  unfold State.closeGroup at hclose
  split at hclose
  · cases hclose
  · next frame frames hframes =>
    cases hclose
    have hall := h.frames
    rw [hframes] at hall
    obtain ⟨⟨hparts, hbranches⟩, hframes⟩ := List.forall_mem_cons.mp hall
    exact ⟨List.forall_mem_cons.mpr ⟨by rw [Ast.Counted]; exact h.body, hparts⟩, hbranches, hframes⟩

theorem repeatLast (h : st.Counted) {least : Nat} {most : Option Nat} {greedy : Bool}
    (horder : InOrder least most) (hrepeat : st.repeatLast least most greedy = .ok st₁) :
    st₁.Counted := by
  unfold State.repeatLast at hrepeat
  split at hrepeat
  · cases hrepeat
  · cases hrepeat
  · cases hrepeat
  · next part parts _ _ hparts =>
    cases hrepeat
    have hall := h.parts
    rw [hparts] at hall
    obtain ⟨hpart, hothers⟩ := List.forall_mem_cons.mp hall
    refine ⟨List.forall_mem_cons.mpr ⟨?_, hothers⟩, h.branches, h.frames⟩
    rw [Ast.Counted]
    exact ⟨hpart, horder⟩

theorem repeatAs (h : st.Counted) {least : Nat} {most : Option Nat} (horder : InOrder least most)
    (hrepeat : Parser.repeatAs st least most s = .ok (st₁, u)) : st₁.Counted := by
  unfold Parser.repeatAs at hrepeat
  split at hrepeat
  · exact h.repeatLast horder (eq_of_map_eq hrepeat).1
  · exact h.repeatLast horder (eq_of_map_eq hrepeat).1

theorem openNamed (h : st.Counted) (hopen : st.openNamed s = .ok (st₁, u)) : st₁.Counted := by
  obtain ⟨⟨name, v⟩, -, hopen⟩ := bind_eq_ok_iff.mp hopen
  simp only at hopen
  split at hopen
  · cases hopen
  · cases hopen
    obtain ⟨hparts, hbranches, hframes⟩ := h.openGroup true []
    exact ⟨hparts, hbranches, hframes⟩

theorem readFlagGroup (h : st.Counted) (hopen : st.readFlagGroup s = .ok (st₁, u)) :
    st₁.Counted := by
  obtain ⟨p, -, hopen⟩ := bind_eq_ok_iff.mp hopen
  split at hopen
  · cases hopen
    exact h.openGroup _ _
  · split at hopen
    · cases hopen
    · cases hopen
      obtain ⟨hparts, hbranches, hframes⟩ := h.push (show (Ast.flags p.1.1).Counted from trivial)
      exact ⟨hparts, hbranches, hframes⟩

theorem readGroup (h : st.Counted) (hopen : st.readGroup s = .ok (st₁, u)) : st₁.Counted := by
  rw [readGroup_eq] at hopen
  unfold State.groupFrom at hopen
  split at hopen
  · cases hopen
  · cases hopen
  · cases hopen
  · cases hopen
  · exact h.openNamed hopen
  · exact h.openNamed hopen
  · exact h.readFlagGroup hopen
  · cases hopen
    exact h.openGroup _ _

/-- `pushed` puts a part that has been read into the state. -/
theorem pushed (h : st.Counted) {x : Except PatternError (Ast × List Char)}
    (hx : ∀ ast v, x = .ok (ast, v) → ast.Counted)
    (hpush : x.map (pushed st) = .ok (st₁, u)) : st₁.Counted := by
  cases x with
  | error e => cases hpush
  | ok p =>
    cases hpush
    exact h.push (hx p.1 p.2 rfl)

end State.Counted

/-- A `step` keeps counts in order. -/
theorem step_counted {c : Char} (h : st.Counted) (hstep : step st c s = .ok (st₁, u)) :
    st₁.Counted := by
  have hany : ∀ least, InOrder least none := fun _ => nofun
  unfold step at hstep
  split at hstep
  · exact h.readGroup hstep
  · exact h.closeGroup (eq_of_map_eq hstep).1
  · cases hstep
    exact h.branch
  · exact h.pushed (fun _ _ => readClass_counted) hstep
  · exact h.repeatAs (by rintro m ⟨⟩; exact Nat.zero_le _) hstep
  · exact h.repeatAs (hany 0) hstep
  · exact h.repeatAs (hany 1) hstep
  · exact h.pushed (fun _ _ => readEscape_counted) hstep
  · cases hstep
    exact h.push trivial
  · cases hstep
    exact h.push trivial
  · cases hstep
    exact h.push trivial
  · split at hstep
    · obtain ⟨p, hcounts, hstep⟩ := bind_eq_ok_iff.mp hstep
      exact h.repeatAs (readCounts_inOrder hcounts) hstep
    · cases hstep
      exact h.push trivial

theorem run_counted {n : Nat} (h : st.Counted) (hrun : run n st s = .ok st₁) : st₁.Counted := by
  induction n generalizing st s with
  | zero =>
    cases hrun
    exact h
  | succ n ih =>
    cases hskip : skip st.verbose s with
    | nil =>
      rw [run_skipped st hskip] at hrun
      cases hrun
      exact h
    | cons c t =>
      obtain ⟨st₂, v, hstep, hrun⟩ := exists_step_of_run st hskip hrun
      exact ih (step_counted h hstep) hrun

end Parser

/-- The counts of a pattern that `Ast.parse` reads are in order. -/
theorem Ast.parse_counted {pattern : String} {ast : Ast} (h : Ast.parse pattern = .ok ast) :
    ast.Counted := by
  obtain ⟨st, hrun, -, -, rfl⟩ := Ast.parse_eq_ok_iff.mp h
  exact (Parser.run_counted .start hrun).body

/-! ## Meaning -/

open LexTree.Pattern.Parser

namespace Expr.Counted

variable {r : Expr} {rs : List Expr}

theorem parts (h : r.Counted) : ∀ part ∈ r.parts, part.Counted := by
  unfold Expr.parts
  split
  · rw [Expr.Counted, Expr.allCounted_iff] at h
    exact h
  · exact nofun
  · simpa using h

theorem branches (h : r.Counted) : ∀ branch ∈ r.branches, branch.Counted := by
  unfold Expr.branches
  split
  · rw [Expr.Counted, Expr.allCounted_iff] at h
    exact h
  · simpa using h

theorem joinLiterals (h : ∀ r ∈ rs, r.Counted) : ∀ r ∈ joinLiterals rs, r.Counted := by
  fun_induction Expr.joinLiterals rs with
  | case1 => exact h
  | case2 s rest t others hjoin ih =>
    obtain ⟨-, hrest⟩ := List.forall_mem_cons.mp h
    rw [hjoin] at ih
    exact List.forall_mem_cons.mpr ⟨trivial, (List.forall_mem_cons.mp (ih hrest)).2⟩
  | case3 s rest hno ih =>
    obtain ⟨hliteral, hrest⟩ := List.forall_mem_cons.mp h
    exact List.forall_mem_cons.mpr ⟨hliteral, ih hrest⟩
  | case4 r rest hno ih =>
    obtain ⟨hr, hrest⟩ := List.forall_mem_cons.mp h
    exact List.forall_mem_cons.mpr ⟨hr, ih hrest⟩

theorem row (h : ∀ r ∈ rs, r.Counted) : (Expr.row rs).Counted := by
  have hparts : ∀ part ∈ Expr.joinLiterals (rs.flatMap Expr.parts), part.Counted := by
    refine Counted.joinLiterals fun part hpart => ?_
    obtain ⟨r, hr, hpart⟩ := List.mem_flatMap.mp hpart
    exact (h r hr).parts part hpart
  unfold Expr.row
  split
  · trivial
  · next r hrow =>
    exact hparts r (by rw [hrow]; exact List.mem_singleton.mpr rfl)
  · rw [Expr.Counted, Expr.allCounted_iff]
    exact hparts

theorem ofRunes (set : Text.RuneSet) (bytes : Bool) : (Expr.ofRunes set bytes).Counted := by
  unfold Expr.ofRunes
  split
  · trivial
  · split <;> trivial
  · trivial

theorem choiceOf (h : ∀ r ∈ rs, r.Counted) : (Expr.choiceOf rs).Counted := by
  have hbranches : ∀ branch ∈ rs.flatMap Expr.branches, branch.Counted := by
    intro branch hbranch
    obtain ⟨r, hr, hbranch⟩ := List.mem_flatMap.mp hbranch
    exact (h r hr).branches branch hbranch
  unfold Expr.choiceOf
  split
  · trivial
  · next r hchoice =>
    exact hbranches r (by rw [hchoice]; exact List.mem_singleton.mpr rfl)
  · split
    · exact ofRunes _ _
    · rw [Expr.Counted, Expr.allCounted_iff]
      exact hbranches

theorem row? {parts : List Expr} (h : r.Counted) (hrow : r.row? = some parts) :
    ∀ part ∈ parts, part.Counted := by
  unfold Expr.row? at hrow
  split at hrow
  · cases hrow
    rw [Expr.Counted, Expr.allCounted_iff] at h
    exact h
  · cases hrow

/-- The rows of a choice are made of what its branches `rs` are made of. -/
theorem rows (h : ∀ r ∈ rs, r.Counted) :
    ∀ parts ∈ (rs.mapM Expr.row?).getD [], ∀ part ∈ parts, part.Counted := by
  cases hrows : rs.mapM Expr.row? with
  | none => exact nofun
  | some rows =>
    show ∀ parts ∈ rows, _
    induction rs generalizing rows with
    | nil =>
      cases hrows
      exact nofun
    | cons r rs ih =>
      obtain ⟨hr, hrs⟩ := List.forall_mem_cons.mp h
      rw [List.mapM_cons, Option.bind_eq_bind, Option.bind_eq_some_iff] at hrows
      obtain ⟨parts, hparts, hrows⟩ := hrows
      rw [Option.bind_eq_bind, Option.bind_eq_some_iff] at hrows
      obtain ⟨others, hothers, hrows⟩ := hrows
      cases hrows
      exact List.forall_mem_cons.mpr ⟨hr.row? hparts, ih hrs others hothers⟩

theorem choice (h : ∀ r ∈ rs, r.Counted) : (Expr.choice rs).Counted := by
  have hbranches : ∀ branch ∈ rs.flatMap Expr.branches, branch.Counted := by
    intro branch hbranch
    obtain ⟨r, hr, hbranch⟩ := List.mem_flatMap.mp hbranch
    exact (h r hr).branches branch hbranch
  have hrows := rows hbranches
  unfold Expr.choice
  generalize ((rs.flatMap Expr.branches).mapM Expr.row?).getD [] = rows at hrows ⊢
  simp only
  split
  · exact choiceOf h
  · next n _ =>
    refine row fun r hr => ?_
    obtain hr | hr := List.mem_append.mp hr
    · -- What is common to the starts is there in the first of the rows.
      cases rows with
      | nil => simp at hr
      | cons first rows =>
        exact hrows first List.mem_cons_self r (List.mem_of_mem_take hr)
    · obtain rfl := List.mem_singleton.mp hr
      refine choiceOf fun r hr => ?_
      obtain ⟨parts, hparts, rfl⟩ := List.mem_map.mp hr
      exact row fun part hpart => hrows parts hparts part (List.mem_of_mem_drop hpart)

theorem repeated (h : r.Counted) {least : Nat} {most : Option Nat} (greedy : Bool)
    (horder : InOrder least most) : (r.repeated least most greedy).Counted := by
  have hbounds : ∀ bounds : Nat × Option Nat, InOrder bounds.1 bounds.2 →
      (if bounds.2 = some 0 then Expr.empty
        else if bounds.1 = 1 && bounds.2 = some 1 then r
        else .repetition r bounds.1 bounds.2 greedy).Counted := by
    intro bounds horder
    split
    · trivial
    · split
      · exact h
      · rw [Expr.Counted]
        exact ⟨h, horder⟩
  refine hbounds (if r.takesNothing then (min least 1, some (min (most.getD 1) 1))
    else (least, most)) ?_
  split
  · rintro m ⟨⟩
    cases most with
    | none => exact Nat.min_le_right _ _
    | some m =>
      have hle := horder m rfl
      show min least 1 ≤ min m 1
      omega
  · exact horder

end Expr.Counted

theorem Modes.ofClass_counted {modes : Modes} {runes : Except PatternError Text.RuneSet} {r : Expr}
    (h : modes.ofClass runes = .ok r) : r.Counted := by
  obtain ⟨set, -, rfl⟩ := map_eq_ok_iff.mp h
  exact .ofRunes _ _

theorem Modes.literal_counted {modes : Modes} {rune : Char} {byte : Bool} {r : Expr}
    (h : modes.literal rune byte = .ok r) : r.Counted := by
  have hliteral : ∀ {r}, Except.ok (Expr.literal [rune]) = (.ok r : Except PatternError Expr) →
      r.Counted := by
    rintro r ⟨⟩
    trivial
  unfold Modes.literal at h
  split at h
  · cases h
  · split at h
    · exact hliteral h
    · split at h
      · split at h
        · cases h
          exact .ofRunes _ _
        · exact hliteral h
      · split at h
        · cases h
          exact .ofRunes _ _
        · exact hliteral h

mutual

/-- `Ast.meaning` keeps counts in order. -/
theorem Ast.Counted.meaning : ∀ {ast : Ast} {modes after : Modes} {r : Expr}, ast.Counted →
    ast.meaning modes = .ok (r, after) → r.Counted
  | .empty, modes, _, _, _, hr => by
    cases hr
    trivial
  | .flags _, _, _, _, _, hr => by
    cases hr
    trivial
  | .literal rune byte, modes, _, _, _, hr => by
    rw [Ast.meaning] at hr
    exact Modes.literal_counted (eq_of_map_eq hr).1
  | .dot, modes, _, _, _, hr => by
    rw [Ast.meaning] at hr
    split at hr
    · cases hr
      exact .ofRunes _ _
    · cases hr
  | .assertion _, _, _, _, _, hr => by
    cases hr
    trivial
  | .shorthand cls negated, modes, _, _, _, hr => by
    rw [Ast.meaning] at hr
    exact Modes.ofClass_counted (eq_of_map_eq hr).1
  | .property cls, modes, _, _, _, hr => by
    rw [Ast.meaning] at hr
    exact Modes.ofClass_counted (eq_of_map_eq hr).1
  | .bracketed negated set, modes, _, _, _, hr => by
    rw [Ast.meaning] at hr
    exact Modes.ofClass_counted (eq_of_map_eq hr).1
  | .repetition body least most greedy, modes, _, _, h, hr => by
    rw [Ast.Counted] at h
    rw [Ast.meaning] at hr
    split at hr
    · cases hr
    · next hbody =>
      cases hr
      exact (Ast.Counted.meaning h.1 hbody).repeated _ h.2
  | .group index settings body, modes, _, _, h, hr => by
    rw [Ast.Counted] at h
    rw [Ast.meaning] at hr
    split at hr
    · cases hr
    · next hbody =>
      have hbody := Ast.Counted.meaning h hbody
      split at hr
      · cases hr
        exact hbody
      · cases hr
        rw [Expr.Counted]
        exact hbody
  | .alternation branches, modes, _, _, h, hr => by
    rw [Ast.Counted] at h
    rw [Ast.meaning] at hr
    obtain ⟨⟨rs, after⟩, hrs, hpair⟩ := map_eq_ok_iff.mp hr
    cases hpair
    exact .choice (Ast.Counted.meanings h hrs)
  | .concat parts, modes, _, _, h, hr => by
    rw [Ast.Counted] at h
    rw [Ast.meaning] at hr
    obtain ⟨⟨rs, after⟩, hrs, hpair⟩ := map_eq_ok_iff.mp hr
    cases hpair
    exact .row (Ast.Counted.meanings h hrs)

theorem Ast.Counted.meanings : ∀ {parts : List Ast} {modes after : Modes} {rs : List Expr},
    Ast.AllCounted parts → Ast.meanings modes parts = .ok (rs, after) → ∀ r ∈ rs, r.Counted
  | [], _, _, _, _, hrs => by
    cases hrs
    exact nofun
  | part :: parts, modes, _, _, h, hrs => by
    rw [Ast.AllCounted] at h
    rw [Ast.meanings] at hrs
    split at hrs
    · cases hrs
    · next hfirst =>
      obtain ⟨⟨others, after⟩, hothers, hpair⟩ := map_eq_ok_iff.mp hrs
      cases hpair
      exact List.forall_mem_cons.mpr
        ⟨Ast.Counted.meaning h.1 hfirst, Ast.Counted.meanings h.2 hothers⟩

end

/-! ## Regular expressions -/

theorem Regex.Bounded.repeated {body : Regex} {least : Nat} {most : Option Nat}
    (h : body.Bounded) (horder : InOrder least most) : (body.repeated least most).Bounded := by
  fun_cases Regex.repeated body least most with
  | case1 inner l hmerge => exact ⟨h.1, nofun⟩
  | case2 inner l hmerge => exact ⟨h, horder⟩
  | case3 inner m => exact ⟨h.1, fun _ _ => Nat.zero_le _⟩
  | case4 hunbounded hoptional => exact ⟨h, horder⟩

theorem Regex.bounded_ofRunes (runes : List Char) : (Regex.ofRunes runes).Bounded := by
  induction runes with
  | nil => trivial
  | cons c runes ih => exact ⟨trivial, ih⟩

mutual

/-- Where counts are in order, those of the `regex` are `Bounded`, and matching by sets of places
finds exactly the matches. -/
theorem Expr.Counted.bounded : ∀ {r : Expr}, r.Counted → r.regex.Bounded
  | .empty, _ => trivial
  | .literal runes, _ => Regex.bounded_ofRunes runes
  | .oneOf _ _, _ => trivial
  | .look _, _ => trivial
  | .repetition body least most greedy, h => by
    rw [Expr.Counted] at h
    rw [Expr.regex]
    exact h.1.bounded.repeated h.2
  | .capture _ body, h => by
    rw [Expr.Counted] at h
    rw [Expr.regex]
    exact h.bounded
  | .concat parts, h => by
    rw [Expr.Counted] at h
    rw [Expr.regex]
    exact (Expr.AllCounted.bounded h).1
  | .alternation branches, h => by
    rw [Expr.Counted] at h
    rw [Expr.regex]
    exact (Expr.AllCounted.bounded h).2

theorem Expr.AllCounted.bounded : ∀ {rs : List Expr}, Expr.AllCounted rs →
    (Expr.regexOfRow rs).Bounded ∧ (Expr.regexOfChoice rs).Bounded
  | [], _ => ⟨trivial, trivial⟩
  | r :: rs, h => by
    rw [Expr.AllCounted] at h
    have hr := h.1.bounded
    obtain ⟨hrow, hchoice⟩ := Expr.AllCounted.bounded h.2
    exact ⟨⟨hr, hrow⟩, hr, hchoice⟩

end

end LexTree.Pattern
