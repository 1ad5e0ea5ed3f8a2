import LexTree.Proofs.Pattern.Closing
import Mathlib.Data.List.TakeWhile

/-!
# Reading a class before the end of its group

In a class the end of a group is two runes like others. A class that is not closed before
them takes them for items, and is never closed.

- `agree_readClassRange`: an item of a class is read as it would be without the closing
  text, or nothing but some of that text is left.
- `readItems_closing`: a class is not closed in the closing text.
- `agree_readClass`: a class is closed before the closing text, or never.
-/

namespace LexTree.Pattern.Parser

open LexTree.Text

variable {s u v w : List Char}

/-- Nothing is left but `closing` or some of it. -/
def Stranded {α : Type} (_ : α) (v : List Char) : Prop := v <:+ closing

theorem eaten_stranded {α : Type} (a : α) (v : List Char) (h : Eaten a v) : Stranded a v :=
  h.trans (List.suffix_cons _ _)

/-! ## The start of a class -/

theorem agree_readHyphens (verbose : Bool) {m : Nat} (n : Nat) (items : List ClassSet)
    (hm : s.length < m) :
    Agree Stranded s (readHyphens verbose m items s)
      (readHyphens verbose n items (s ++ closing)) := by
  induction n generalizing m items s with
  | zero => exact .error
  | succ n ih =>
    cases s with
    | nil => exact .of_lost List.suffix_rfl
    | cons c s =>
      rw [List.length_cons] at hm
      obtain ⟨m, rfl⟩ : ∃ k, m = k + 1 := ⟨m - 1, by omega⟩
      rw [List.cons_append, readHyphens, readHyphens]
      split
      · refine .mono (List.suffix_cons c s) (.skip (fun u hu => ?_) ?_)
        · have hle := hu.length_le
          exact ih _ (by omega)
        · intro a v hv
          cases n <;> cases hv
      · exact .ok List.suffix_rfl

/-- Takes the closing bracket that may be the first item of a class. -/
def closeFirst (verbose negated : Bool) (p : List ClassSet × List Char) :
    Except PatternError (OpenClass × List Char) :=
  match p.1, p.2 with
  | [], ']' :: s =>
    if (skip verbose s).isEmpty then .error .classUnclosed
    else .ok (⟨negated, none, [.range ']' ']']⟩, skip verbose s)
  | items, s => .ok (⟨negated, none, items⟩, s)

/-- What is read of the start of a class after a caret. -/
def hyphensFrom (verbose negated : Bool) (s : List Char) :
    Except PatternError (OpenClass × List Char) :=
  readHyphens verbose (s.length + 1) [] s >>= closeFirst verbose negated

/-- What is read of the start of a class once blanks are skipped. -/
def classFrom (verbose : Bool) (s : List Char) : Except PatternError (OpenClass × List Char) :=
  if s.head? = some '^' then hyphensFrom verbose true (skip verbose s.tail)
  else hyphensFrom verbose false s

theorem readClassStart_eq (verbose : Bool) (s : List Char) :
    readClassStart verbose s = classFrom verbose (skip verbose s) := by
  simp only [readClassStart, classFrom]
  split
  · next h =>
    simp only [h, decide_true]
    rfl
  · next h =>
    simp only [h, decide_false]
    rfl

theorem agree_closeFirst (verbose negated : Bool) (items : List ClassSet) (s : List Char) :
    Agree Stranded s (closeFirst verbose negated (items, s))
      (closeFirst verbose negated (items, s ++ closing)) := by
  by_cases hfirst : items = [] ∧ ∃ t, s = ']' :: t
  · obtain ⟨rfl, t, rfl⟩ := hfirst
    simp only [closeFirst, List.cons_append]
    refine .mono (List.suffix_cons _ t) ?_
    obtain ⟨w, hw, h, h' | ⟨rfl, h'⟩⟩ := skip_cases verbose t
    · rw [h, h']
      cases w with
      | nil => exact .of_lost List.suffix_rfl
      | cons c w => exact .ok hw
    · rw [h']
      exact .error
  · have hown : ∀ u, (∀ t, items = [] → u = ']' :: t → False) →
        closeFirst verbose negated (items, u) = .ok (⟨negated, none, items⟩, u) := by
      intro u hu
      unfold closeFirst
      split
      · next t hitems hrest => exact (hu t hitems hrest).elim
      · rfl
    have hno : ∀ t, items = [] → s = ']' :: t → False :=
      fun t hitems ht => hfirst ⟨hitems, t, ht⟩
    rw [hown s hno, hown (s ++ closing) fun t hitems =>
      append_ne_cons (by decide) (fun u => hno u hitems) t]
    exact .ok List.suffix_rfl

theorem stranded_closeFirst {verbose negated : Bool} {items : List ClassSet} {cls : OpenClass}
    (hv : v <:+ closing) (h : closeFirst verbose negated (items, v) = .ok (cls, w)) :
    w <:+ closing := by
  obtain rfl | rfl | rfl := suffix_closing_iff.mp hv <;> cases items <;> cases h <;> exact hv

theorem agree_hyphensFrom (verbose negated : Bool) (s : List Char) :
    Agree Stranded s (hyphensFrom verbose negated s)
      (hyphensFrom verbose negated (s ++ closing)) :=
  (agree_readHyphens verbose _ [] (Nat.lt_succ_self _)).bind
    (fun items u _ => agree_closeFirst verbose negated items u)
    fun _ _ hv _ _ hw => stranded_closeFirst hv hw

theorem agree_classFrom (verbose : Bool) (s : List Char) :
    Agree Stranded s (classFrom verbose s) (classFrom verbose (s ++ closing)) := by
  by_cases hcaret : ∃ t, s = '^' :: t
  · obtain ⟨t, rfl⟩ := hcaret
    refine .mono (List.suffix_cons _ t) (.skip (fun u _ => agree_hyphensFrom verbose true u) ?_)
    rintro a v ⟨⟩
  · have hown : ∀ u, (∀ t, u = '^' :: t → False) →
        classFrom verbose u = hyphensFrom verbose false u := by
      intro u hu
      refine if_neg fun hhead => ?_
      obtain ⟨t, ht⟩ := List.head?_eq_some_iff.mp hhead
      exact hu t ht
    have hno : ∀ t, s = '^' :: t → False := fun t ht => hcaret ⟨t, ht⟩
    rw [hown s hno, hown (s ++ closing) (append_ne_cons (by decide) hno)]
    exact agree_hyphensFrom verbose false s

theorem agree_readClassStart (verbose : Bool) (s : List Char) :
    Agree Stranded s (readClassStart verbose s) (readClassStart verbose (s ++ closing)) := by
  rw [readClassStart_eq, readClassStart_eq]
  refine .skip (fun u _ => agree_classFrom verbose u) ?_
  rintro a v ⟨⟩

/-! ## Items -/

/-- The named class whose name, colon and bracket stand at the start of a text. -/
def closedName? (negated : Bool) (s : List Char) : Option (ClassSet × List Char) :=
  match s.dropWhile (· != ':') with
  | ':' :: ']' :: rest =>
    (NamedClass.ofName? (String.ofList (s.takeWhile (· != ':')))).map
      fun cls => (.named cls negated, rest)
  | _ => none

theorem closedName?_append (negated : Bool) (s : List Char) :
    closedName? negated (s ++ closing) =
      (closedName? negated s).map fun p => (p.1, p.2 ++ closing) := by
  unfold closedName?
  obtain ⟨hrest, hrest'⟩ | ⟨c, rest, hrest, hrest', htake⟩ :=
    dropWhile_append_cases (p := (· != ':')) rfl rfl s
  · rw [hrest, hrest']
    rfl
  · rw [hrest, hrest', htake]
    cases rest with
    | nil => simp [closing]
    | cons d rest =>
      simp only [List.cons_append]
      split
      · next heq =>
        cases heq
        cases NamedClass.ofName? _ <;> rfl
      · next hno =>
        split
        · next heq =>
          cases heq
          exact absurd rfl (hno _)
        · rfl

/-- The end of a group is no part of the name of a class. -/
theorem namedClass?_append (s : List Char) :
    namedClass? (s ++ closing) = (namedClass? s).map fun p => (p.1, p.2 ++ closing) := by
  by_cases hcolon : ∃ t, s = ':' :: t
  · obtain ⟨t, rfl⟩ := hcolon
    by_cases hcaret : ∃ u, t = '^' :: u
    · obtain ⟨u, rfl⟩ := hcaret
      exact closedName?_append true u
    · have hown : ∀ u, (∀ v, u = '^' :: v → False) →
          namedClass? (':' :: u) = closedName? false u := by
        intro u hu
        have hhead : u.head? ≠ some '^' := by
          intro h
          obtain ⟨v, hv⟩ := List.head?_eq_some_iff.mp h
          exact hu v hv
        simp only [namedClass?, hhead, if_false, decide_false]
        rfl
      have hno : ∀ u, t = '^' :: u → False := fun u hu => hcaret ⟨u, hu⟩
      rw [List.cons_append, hown t hno, hown (t ++ closing) (append_ne_cons (by decide) hno)]
      exact closedName?_append false t
  · have hno : ∀ t, s = ':' :: t → False := fun t ht => hcolon ⟨t, ht⟩
    rw [namedClass?.eq_2 s hno, namedClass?.eq_2 _ (append_ne_cons (by decide) hno)]
    rfl

theorem namedClass?_suffix {item : ClassSet} (h : namedClass? s = some (item, u)) : u <:+ s := by
  have hclosed : ∀ negated v, closedName? negated v = some (item, u) → u <:+ v := by
    intro negated v hv
    unfold closedName? at hv
    split at hv
    · next rest hrest =>
      have hdrop : ':' :: ']' :: rest <:+ v := hrest ▸ List.dropWhile_suffix _
      cases hname : NamedClass.ofName? (String.ofList (v.takeWhile (· != ':'))) with
      | none =>
        rw [hname] at hv
        cases hv
      | some cls =>
        rw [hname] at hv
        cases hv
        exact (List.suffix_append [':', ']'] u).trans hdrop
    · cases hv
  unfold namedClass? at h
  split at h
  · next t =>
    have htail := hclosed _ _ h
    refine (htail.trans ?_).trans (List.suffix_cons ':' t)
    split
    · exact List.tail_suffix t
    · exact List.suffix_rfl
  · cases h

/-- The item that is one rune or shorthand. -/
def singleItem : Ast → Except PatternError ClassSet
  | .literal c _ => .ok (.range c c)
  | .shorthand cls negated => .ok (.shorthand cls negated)
  | .property cls => .ok (.property cls)
  | _ => .error .classEscapeInvalid

/-- The item that is the runes from `first` to `last`. -/
def rangeItem (first last : Ast) : Except PatternError ClassSet :=
  match first, last with
  | .literal first _, .literal last _ =>
    if first ≤ last then .ok (.range first last) else .error .classRangeInvalid
  | _, _ => .error .classRangeInvalid

/-- What is read of a range after the hyphen. -/
def rangeTo (verbose : Bool) (first : Ast) (s : List Char) :
    Except PatternError (ClassSet × List Char) :=
  readClassItem verbose s >>= fun q => (rangeItem first q.1).map (·, q.2)

/-- What is read of an item after its first rune. -/
def rangeFrom (verbose : Bool) (p : Ast × List Char) :
    Except PatternError (ClassSet × List Char) :=
  match skip verbose p.2 with
  | [] => .error .classUnclosed
  | '-' :: rest =>
    if afterHyphen verbose rest = some ']' || afterHyphen verbose rest = some '-' then
      (singleItem p.1).map (·, '-' :: rest)
    else rangeTo verbose p.1 (skip verbose rest)
  | s => (singleItem p.1).map (·, s)

theorem readClassRange_eq (verbose : Bool) (s : List Char) :
    readClassRange verbose s = readClassItem verbose s >>= rangeFrom verbose := by
  unfold readClassRange
  refine bind_congr fun p => ?_
  obtain ⟨first, u⟩ := p
  unfold rangeFrom
  simp only
  generalize skip verbose u = w
  have hrange : ∀ q : Ast × List Char, (match first, q.1 with
      | .literal first _, .literal last _ =>
        if first ≤ last then Except.ok (ClassSet.range first last, q.2)
        else .error PatternError.classRangeInvalid
      | _, _ => .error .classRangeInvalid) = (rangeItem first q.1).map (·, q.2) := by
    rintro ⟨last, t⟩
    fun_cases rangeItem first last with
    | case1 _ _ _ _ hle => simp [hle, Except.map]
    | case2 _ _ _ _ hle => simp [hle, Except.map]
    | case3 hno =>
      simp only
      rfl
  cases w with
  | nil => rfl
  | cons c w =>
    by_cases hhyphen : c = '-'
    · subst hhyphen
      simp only
      split
      · cases first <;> rfl
      · exact bind_congr fun q => hrange q
    · simp only [hhyphen, List.cons.injEq, false_and, imp_self, implies_true]
      cases first <;> rfl

/-! ## Ranges -/

theorem skipComments_eq_nil (inComment : Bool) (h : ∀ c ∈ s, isBlank c = true) :
    skipComments inComment s = [] := by
  induction s generalizing inComment with
  | nil => rfl
  | cons c s ih =>
    obtain ⟨hc, hs⟩ := List.forall_mem_cons.mp h
    rw [skipComments, if_pos hc]
    split <;> exact ih _ hs

theorem skipComments_dropWhile (s : List Char) :
    skipComments false (s.dropWhile isBlank) = skipComments false s := by
  induction s with
  | nil => rfl
  | cons c s ih =>
    rw [List.dropWhile_cons, skipComments]
    split
    · simpa using ih
    · next h => simp [skipComments, h]

/-- `afterHyphen` is the same before `closing`, or it is the end of the group. -/
theorem afterHyphen_append (verbose : Bool) (s : List Char) :
    afterHyphen verbose (s ++ closing) = afterHyphen verbose s ∨
      afterHyphen verbose (s ++ closing) = some ')' ∧ skip verbose s = [] := by
  cases verbose with
  | false =>
    cases s with
    | nil => exact .inr ⟨rfl, rfl⟩
    | cons c s => exact .inl rfl
  | true =>
    simp only [afterHyphen, if_true, dropWhile_append_closing (p := isBlank) (by decide)]
    have hskip : skip true s = skipComments false (s.dropWhile isBlank) :=
      (skipComments_dropWhile s).symm
    rw [hskip]
    cases s.dropWhile isBlank with
    | nil => exact .inr ⟨rfl, rfl⟩
    | cons c t =>
      by_cases hhash : c = '#'
      · subst hhash
        simp only [List.cons_append, List.head?_cons, if_true, List.tail_cons,
          dropWhile_append_closing (p := isBlank) (by decide)]
        cases ht : t.dropWhile isBlank with
        | nil =>
          refine .inr ⟨rfl, ?_⟩
          exact skipComments_eq_nil true (List.dropWhile_eq_nil_iff.mp ht)
        | cons d t => exact .inl rfl
      · left
        simp [hhash]

/-- `readClassItem` reads a rune or an escape in a class as it does without `closing`. -/
theorem agree_readClassItem_cons (verbose : Bool) (c : Char) (s : List Char) :
    Agree (Adrift verbose) s (readClassItem verbose (c :: s))
      (readClassItem verbose (c :: (s ++ closing))) := by
  by_cases hbackslash : c = '\\'
  · subst hbackslash
    exact agree_readEscape verbose s
  · have hown : ∀ u, readClassItem verbose (c :: u) = .ok (.literal c false, u) := by
      intro u
      exact readClassItem.eq_3 verbose c u hbackslash
    rw [hown, hown]
    exact .ok List.suffix_rfl

theorem agree_readClassItem (verbose : Bool) (s : List Char) :
    Agree (Adrift verbose) s (readClassItem verbose s) (readClassItem verbose (s ++ closing)) := by
  cases s with
  | nil => exact .of_lost (.inl List.suffix_rfl)
  | cons c s => exact .mono (List.suffix_cons c s) (agree_readClassItem_cons verbose c s)

theorem rangeItem_assertion (first : Ast) (a : Assertion) :
    rangeItem first (.assertion a) = .error .classRangeInvalid := by
  cases first <;> rfl

theorem stranded_rangeFrom {verbose : Bool} {first : Ast} {item : ClassSet} (hv : v <:+ closing)
    (h : rangeFrom verbose (first, v) = .ok (item, w)) : w <:+ closing := by
  have hsingle : v ≠ [] → rangeFrom verbose (first, v) = (singleItem first).map (·, v) := by
    intro hne
    obtain rfl | rfl | rfl := suffix_closing_iff.mp hv
    · cases verbose <;> rfl
    · cases verbose <;> rfl
    · exact absurd rfl hne
  cases v with
  | nil => cases verbose <;> cases h
  | cons c v =>
    rw [hsingle (List.cons_ne_nil c v)] at h
    rw [(eq_of_map_eq h).2]
    exact hv

theorem rangeFrom_assertion {verbose : Bool} {a : Assertion} {item : ClassSet} :
    rangeFrom verbose (.assertion a, v) ≠ .ok (item, w) := by
  unfold rangeFrom
  intro h
  split at h
  · cases h
  · split at h
    · cases h
    · obtain ⟨q, -, h⟩ := bind_eq_ok_iff.mp h
      cases h
  · cases h

theorem readClassItem_stranded {verbose : Bool} {last : Ast} (hv : v <:+ closing)
    (h : readClassItem verbose v = .ok (last, w)) : w <:+ closing := by
  obtain rfl | rfl | rfl := suffix_closing_iff.mp hv
  · cases h
    exact List.suffix_cons _ _
  · cases h
    exact List.nil_suffix
  · cases h

/-- `rangeTo` reads the end of a range as it does without `closing`, or takes `closing` for it. -/
theorem agree_rangeTo (verbose : Bool) (first : Ast) (s : List Char) :
    Agree Stranded s (rangeTo verbose first (skip verbose s))
      (rangeTo verbose first (skip verbose (s ++ closing))) := by
  refine .skip (fun u _ => ?_) ?_
  · refine (agree_readClassItem verbose u).bind (fun last v _ => ?_) fun last v hv item w hw => ?_
    · simp only
      cases rangeItem first last with
      | error e => exact .error
      | ok item => exact .ok List.suffix_rfl
    · obtain hv | ⟨rfl, -⟩ := hv
      · rw [(eq_of_map_eq hw).2]
        exact eaten_stranded item v hv
      · rw [rangeItem_assertion] at hw
        cases hw
  · rintro a v ⟨⟩

/-- Where nothing but blanks is left, `closing` is taken for the end of a range. -/
theorem stranded_rangeTo {verbose : Bool} {first : Ast}
    {x : Except PatternError (ClassSet × List Char)} (h : skip verbose s = []) :
    Agree Stranded u x (rangeTo verbose first (skip verbose (s ++ closing))) := by
  have hskip : skip verbose (s ++ closing) <:+ closing := by
    obtain ⟨w, -, hw, h' | ⟨-, h'⟩⟩ := skip_cases verbose s
    · rw [h', ← hw, h]
      exact List.suffix_rfl
    · rw [h']
      exact List.nil_suffix
  intro item v hv
  left
  obtain ⟨⟨last, w⟩, hlast, hv⟩ := bind_eq_ok_iff.mp hv
  rw [(eq_of_map_eq hv).2]
  exact readClassItem_stranded hskip hlast

theorem agree_rangeFrom (verbose : Bool) (first : Ast) (s : List Char) :
    Agree Stranded s (rangeFrom verbose (first, s)) (rangeFrom verbose (first, s ++ closing)) := by
  have hsingle : ∀ u : List Char, Agree Stranded u ((singleItem first).map (·, u))
      ((singleItem first).map (·, u ++ closing)) := by
    intro u
    cases singleItem first with
    | error e => exact .error
    | ok item => exact .ok List.suffix_rfl
  unfold rangeFrom
  simp only
  obtain ⟨w, hw, h, h' | ⟨rfl, h'⟩⟩ := skip_cases verbose s
  · rw [h, h']
    refine .mono hw ?_
    cases w with
    | nil =>
      have hlost := hsingle []
      cases hitem : singleItem first with
      | error e => exact .error
      | ok item => exact .of_lost List.suffix_rfl
    | cons c w =>
      by_cases hhyphen : c = '-'
      · subst hhyphen
        simp only [List.cons_append]
        obtain hnext | ⟨hnext, hskip⟩ := afterHyphen_append verbose w
        · rw [hnext]
          split
          · exact hsingle ('-' :: w)
          · exact .mono (List.suffix_cons _ w) (agree_rangeTo verbose first w)
        · rw [hnext]
          exact stranded_rangeTo hskip
      · simp only [List.cons_append, hhyphen, List.cons.injEq, false_and, imp_self, implies_true]
        exact hsingle (c :: w)
  · rw [h']
    exact .error

/-- `readClassRange` reads an item of a class as it does without `closing`, or takes `closing` for
some of it. -/
theorem agree_readClassRange (verbose : Bool) (c : Char) (s : List Char) :
    Agree Stranded s (readClassRange verbose (c :: s))
      (readClassRange verbose (c :: (s ++ closing))) := by
  rw [readClassRange_eq, readClassRange_eq]
  refine (agree_readClassItem_cons verbose c s).bind
    (fun first u _ => agree_rangeFrom verbose first u) fun first v hv item w hw => ?_
  obtain hv | ⟨rfl, -⟩ := hv
  · exact stranded_rangeFrom (eaten_stranded first v hv) hw
  · exact absurd hw rangeFrom_assertion

/-! ## Whole classes -/

/-- A class is not closed in `closing`. -/
theorem readItems_closing (verbose : Bool) (n : Nat) (cls : OpenClass) (outer : List OpenClass)
    (hv : v <:+ closing) : readItems verbose n cls outer v = .error .classUnclosed := by
  obtain rfl | rfl | rfl := suffix_closing_iff.mp hv
  · match n with
    | 0 => rfl
    | 1 => cases verbose <;> rfl
    | 2 => cases verbose <;> rfl
    | n + 3 => cases verbose <;> rfl
  · match n with
    | 0 => rfl
    | 1 => cases verbose <;> rfl
    | n + 2 => cases verbose <;> rfl
  · cases n with
    | zero => rfl
    | succ n => cases verbose <;> rfl

/-- Reading goes on with `f` and `g` after an item, or the start of a class in the class. -/
theorem agree_items {α : Type} {f g : α × List Char → Except PatternError (Ast × List Char)}
    {x y : Except PatternError (α × List Char)} {verbose : Bool} {n : Nat}
    (reading : α → OpenClass × List OpenClass) (h : Agree Stranded s x y)
    (hf : ∀ a u, u <:+ s → Agree Never u (f (a, u)) (g (a, u ++ closing)))
    (hg : ∀ a v, g (a, v) = readItems verbose n (reading a).1 (reading a).2 v) :
    Agree Never s (x >>= f) (y >>= g) := by
  refine h.bind hf fun a v hv b w hw => ?_
  rw [hg, readItems_closing verbose n _ _ hv] at hw
  cases hw

theorem agree_readItems (verbose : Bool) {m : Nat} (n : Nat) (cls : OpenClass)
    (outer : List OpenClass) (hm : s.length < m) :
    Agree Never s (readItems verbose m cls outer s)
      (readItems verbose n cls outer (s ++ closing)) := by
  induction n generalizing m cls outer s with
  | zero => exact .error
  | succ n ih =>
    obtain ⟨m, rfl⟩ : ∃ k, m = k + 1 := ⟨m - 1, by omega⟩
    -- Whatever stands first takes a rune, so the fuel is enough for what follows it.
    have hnext : ∀ {t u : List Char} (cls : OpenClass) (outer : List OpenClass),
        t.length < s.length → u <:+ t → Agree Never u (readItems verbose m cls outer u)
          (readItems verbose n cls outer (u ++ closing)) := by
      intro t u cls outer ht hu
      have hle := hu.length_le
      exact ih cls outer (by omega)
    have hoperator : ∀ {c d : Char} {t : List Char} {op : SetOp},
        (c :: d :: t).length ≤ s.length → Agree Never (c :: d :: t)
          (readItems verbose m (cls.operator op) outer t)
          (readItems verbose n (cls.operator op) outer (t ++ closing)) := by
      intro c d t op hlen
      simp only [List.length_cons] at hlen
      refine .mono (List.suffix_append [c, d] t) ?_
      exact hnext _ _ (by omega) List.suffix_rfl
    rw [readItems, readItems]
    obtain ⟨w, hw, h, h' | ⟨rfl, h'⟩⟩ := skip_cases verbose s
    · have hlen := hw.length_le
      have hclosing := readItems_closing verbose (n + 1) cls outer (v := closing) List.suffix_rfl
      rw [readItems, skip_closing] at hclosing
      rw [h, h']
      refine .mono hw ?_
      split
      · rw [List.nil_append, hclosing]
        exact .error
      · next t =>
        rw [List.length_cons] at hlen
        refine .mono (List.suffix_cons _ t) ?_
        simp only [List.cons_append, namedClass?_append]
        cases hnamed : namedClass? t with
        | some p =>
          have hsuffix := namedClass?_suffix hnamed
          exact .mono hsuffix (hnext _ _ (by omega) hsuffix)
        | none =>
          refine agree_items (fun inner => (inner, cls :: outer))
            (agree_readClassStart verbose t) (fun inner u hu => ?_) fun _ _ => rfl
          exact hnext _ _ (by omega) hu
      · next t =>
        rw [List.length_cons] at hlen
        refine .mono (List.suffix_cons _ t) ?_
        cases outer with
        | nil => exact .ok List.suffix_rfl
        | cons parent outer => exact hnext _ _ (by omega) List.suffix_rfl
      · exact hoperator hlen
      · exact hoperator hlen
      · exact hoperator hlen
      · next hnil hopen hclose hand hminus htilde =>
        split
        · exact .error
        · next heq => exact (append_ne_cons (by decide) hopen _ heq).elim
        · next heq => exact (append_ne_cons (by decide) hclose _ heq).elim
        · next heq => exact (append_ne_cons₂ (by decide) (by decide) hand _ heq).elim
        · next heq => exact (append_ne_cons₂ (by decide) (by decide) hminus _ heq).elim
        · next heq => exact (append_ne_cons₂ (by decide) (by decide) htilde _ heq).elim
        · cases w with
          | nil => exact absurd rfl hnil
          | cons c t =>
            rw [List.length_cons] at hlen
            refine .mono (List.suffix_cons c t) ?_
            refine agree_items (fun item => (cls.push item, outer))
              (agree_readClassRange verbose c t) (fun item u hu => ?_) fun _ _ => rfl
            exact hnext _ _ (by omega) hu
    · rw [h']
      exact .error

/-- A class is closed before `closing`, or never. -/
theorem agree_readClass (verbose : Bool) (s : List Char) :
    Agree Never s (readClass verbose s) (readClass verbose (s ++ closing)) := by
  unfold readClass
  refine agree_items (fun cls => (cls, [])) (agree_readClassStart verbose s)
    (fun cls u hu => ?_) fun _ _ => rfl
  have hle := hu.length_le
  exact agree_readItems verbose _ cls [] (by omega)

end LexTree.Pattern.Parser
