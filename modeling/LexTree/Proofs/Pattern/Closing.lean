import LexTree.Pattern.Parser

/-!
# Reading a pattern before the end of its group

A pattern that is put in a group of its own is followed by the end of the group and of
the text. Each of its parts is then read as it would be without them, or what follows
is taken for more of the part, and the group is never closed.

- `Agree` compares what is read of a text with what is read of the text and `closing`.
- `skip_cases`: a comment goes on through `closing`, and all else that is skipped ends
  before it.
- `agree_readFlags`, `agree_readName`, `agree_readCounts`, `agree_readEscape`: the parts
  of a pattern other than classes.
-/

namespace LexTree.Pattern.Parser

open LexTree.Text

/-- What follows a pattern in a group of its own: the ends of the group and of the text. -/
def closing : List Char := [')', '$']

variable {α β : Type} {lost : α → List Char → Prop} {lost' : β → List Char → Prop}
  {s t u w : List Char} {x y : Except PatternError (α × List Char)}

theorem bind_eq_ok_iff {r : Except PatternError α} {f : α → Except PatternError β} {b : β} :
    r >>= f = .ok b ↔ ∃ a, r = .ok a ∧ f a = .ok b := by
  cases r with
  | error e => simp [bind, Except.bind]
  | ok a => simp [bind, Except.bind]

theorem map_eq_ok_iff {r : Except PatternError α} {f : α → β} {b : β} :
    r.map f = .ok b ↔ ∃ a, r = .ok a ∧ f a = b := by
  cases r <;> simp [Except.map]

theorem eq_of_map_eq {r : Except PatternError α} {a : α} {v w : β}
    (h : r.map (·, w) = .ok (a, v)) : r = .ok a ∧ v = w := by
  obtain ⟨b, rfl, hpair⟩ := map_eq_ok_iff.mp h
  cases hpair
  exact ⟨rfl, rfl⟩

/-- `Agree lost s x y` compares `x`, which is read of `s`, with `y`, which is read of `s` with the
closing text after it. A result of `y` is one of `x`, and leaves the closing text as it is, or else
`lost` holds of it. -/
def Agree (lost : α → List Char → Prop) (s : List Char)
    (x y : Except PatternError (α × List Char)) : Prop :=
  ∀ a v, y = .ok (a, v) → lost a v ∨ ∃ u, u <:+ s ∧ v = u ++ closing ∧ x = .ok (a, u)

/-- `closing` is always left as it is. -/
abbrev Never : α → List Char → Prop := fun _ _ => False

/-- The end of the group has been taken for something else. -/
def Eaten (_ : α) (v : List Char) : Prop := v <:+ ['$']

namespace Agree

theorem ok {a : α} (h : u <:+ s) : Agree lost s (.ok (a, u)) (.ok (a, u ++ closing)) := by
  rintro b v ⟨⟩
  exact .inr ⟨u, h, rfl, rfl⟩

theorem error {e : PatternError} : Agree lost s x (.error e) := by
  rintro a v ⟨⟩

theorem of_lost {a : α} {v : List Char} (h : lost a v) : Agree lost s x (.ok (a, v)) := by
  rintro b w ⟨⟩
  exact .inl h

theorem mono (hs : t <:+ s) (h : Agree lost t x y) : Agree lost s x y := by
  intro a v hy
  obtain hl | ⟨u, hu, hv, hx⟩ := h a v hy
  · exact .inl hl
  · exact .inr ⟨u, hu.trans hs, hv, hx⟩

theorem imp {lost₂ : α → List Char → Prop} (hl : ∀ a v, lost a v → lost₂ a v)
    (h : Agree lost s x y) : Agree lost₂ s x y := fun a v hy => (h a v hy).imp_left (hl a v)

/-- Reading goes on with `f` after `x` and with `g` after `y`. -/
theorem bind {f g : α × List Char → Except PatternError (β × List Char)}
    (h : Agree lost s x y)
    (hf : ∀ a u, u <:+ s → Agree lost' u (f (a, u)) (g (a, u ++ closing)))
    (hl : ∀ a v, lost a v → ∀ b w, g (a, v) = .ok (b, w) → lost' b w) :
    Agree lost' s (x >>= f) (y >>= g) := by
  intro b w hy
  obtain ⟨⟨a, v⟩, hy', hy⟩ := bind_eq_ok_iff.mp hy
  obtain hlost | ⟨u, hu, rfl, rfl⟩ := h a v hy'
  · exact .inl (hl a v hlost b w hy)
  · exact (hf a u hu).mono hu b w hy

theorem map (f : α → β) (h : Agree lost s x y) (hl : ∀ a v, lost a v → lost' (f a) v) :
    Agree lost' s (x.map fun p => (f p.1, p.2)) (y.map fun p => (f p.1, p.2)) := by
  intro b w hy
  obtain ⟨⟨a, v⟩, hy', hpair⟩ := map_eq_ok_iff.mp hy
  cases hpair
  exact (h a v hy').imp (hl a v) fun ⟨u, hu, hv, hx⟩ => ⟨u, hu, hv, by rw [hx]; rfl⟩

end Agree

/-! ## Blanks and comments -/

theorem skipComments_append (inComment : Bool) (s : List Char) :
    skipComments inComment (s ++ closing) = skipComments inComment s ++ closing ∨
      skipComments inComment s = [] ∧ skipComments inComment (s ++ closing) = [] := by
  induction s generalizing inComment with
  | nil =>
    cases inComment with
    | false => exact .inl rfl
    | true => exact .inr ⟨rfl, rfl⟩
  | cons c s ih =>
    rw [List.cons_append, skipComments, skipComments]
    split
    · exact ih _
    · split
      · exact ih _
      · split
        · exact ih _
        · exact .inl rfl

theorem skipComments_suffix (inComment : Bool) (s : List Char) :
    skipComments inComment s <:+ s := by
  induction s generalizing inComment with
  | nil => exact List.suffix_rfl
  | cons c s ih =>
    rw [skipComments]
    split
    · exact (ih _).trans (List.suffix_cons c s)
    · split
      · exact (ih _).trans (List.suffix_cons c s)
      · split
        · exact (ih _).trans (List.suffix_cons c s)
        · exact List.suffix_rfl

/-- What `skip` drops ends before `closing`, or else a comment goes on through it. -/
theorem skip_cases (verbose : Bool) (s : List Char) :
    ∃ w, w <:+ s ∧ skip verbose s = w ∧
      (skip verbose (s ++ closing) = w ++ closing ∨ w = [] ∧ skip verbose (s ++ closing) = []) := by
  cases verbose with
  | false => exact ⟨s, List.suffix_rfl, rfl, .inl rfl⟩
  | true =>
    refine ⟨skipComments false s, skipComments_suffix false s, rfl, ?_⟩
    exact skipComments_append false s

@[simp] theorem skip_nil (verbose : Bool) : skip verbose [] = [] := by
  cases verbose <;> rfl

@[simp] theorem skip_dollar (verbose : Bool) : skip verbose ['$'] = ['$'] := by
  cases verbose <;> rfl

@[simp] theorem skip_closing (verbose : Bool) : skip verbose closing = closing := by
  cases verbose <;> rfl

theorem suffix_dollar_iff {v : List Char} : v <:+ ['$'] ↔ v = ['$'] ∨ v = [] := by
  rw [List.suffix_cons_iff, List.suffix_nil]

theorem suffix_closing_iff {v : List Char} : v <:+ closing ↔ v = closing ∨ v = ['$'] ∨ v = [] := by
  rw [closing, List.suffix_cons_iff, suffix_dollar_iff]

theorem eaten_nil (a : α) : Eaten a [] := List.nil_suffix

theorem eaten_dollar (a : α) : Eaten a ['$'] := List.suffix_rfl

namespace Agree

/-- Reading goes on with `f` and `g` after what is skipped. -/
theorem skip {f g : List Char → Except PatternError (α × List Char)} {verbose : Bool}
    (hf : ∀ u, u <:+ s → Agree lost u (f u) (g (u ++ closing)))
    (hnil : ∀ a v, g [] = .ok (a, v) → lost a v) :
    Agree lost s (f (Parser.skip verbose s)) (g (Parser.skip verbose (s ++ closing))) := by
  obtain ⟨w, hw, h, h' | ⟨rfl, h'⟩⟩ := skip_cases verbose s
  · rw [h, h']
    exact (hf w hw).mono hw
  · rw [h']
    exact fun a v hv => .inl (hnil a v hv)

theorem ok_skip {a : α} {verbose : Bool} (h : u <:+ s) :
    Agree Eaten s (.ok (a, Parser.skip verbose u))
      (.ok (a, Parser.skip verbose (u ++ closing))) := by
  refine Agree.mono h (Agree.skip (f := fun u => .ok (a, u)) (g := fun u => .ok (a, u))
    (fun _ _ => .ok List.suffix_rfl) ?_)
  rintro b v ⟨⟩
  exact eaten_nil a

end Agree

theorem any_head?_append {p : Char → Bool} (hp : p ')' = false) (s : List Char) :
    (s ++ closing).head?.any p = s.head?.any p := by
  cases s with
  | nil => simp [closing, hp]
  | cons c s => rfl

theorem append_ne_cons {c : Char} (hc : c ≠ ')') (h : ∀ t, s = c :: t → False) (t : List Char) :
    s ++ closing = c :: t → False := by
  intro heq
  cases s with
  | nil =>
    cases heq
    exact hc rfl
  | cons d s =>
    cases heq
    exact h s rfl

theorem append_ne_cons₂ {c d : Char} (hc : c ≠ ')') (hd : d ≠ ')')
    (h : ∀ t, s = c :: d :: t → False) (t : List Char) : s ++ closing = c :: d :: t → False := by
  intro heq
  cases s with
  | nil =>
    cases heq
    exact hc rfl
  | cons e s =>
    obtain ⟨rfl, htail⟩ := List.cons.inj heq
    refine append_ne_cons hd (fun u hu => ?_) t htail
    exact h u (congrArg _ hu)

theorem dropWhile_append_closing {p : Char → Bool} (hp : p ')' = false) (s : List Char) :
    (s ++ closing).dropWhile p = s.dropWhile p ++ closing := by
  induction s with
  | nil => simp [closing, hp]
  | cons c s ih =>
    rw [List.cons_append, List.dropWhile_cons, List.dropWhile_cons, ih]
    split <;> rfl

/-- What `dropWhile` drops ends before `closing`, or goes on through it. -/
theorem dropWhile_append_cases {p : Char → Bool} (hparen : p ')' = true) (hdollar : p '$' = true)
    (s : List Char) :
    s.dropWhile p = [] ∧ (s ++ closing).dropWhile p = [] ∨
      ∃ c rest, s.dropWhile p = c :: rest ∧ (s ++ closing).dropWhile p = c :: (rest ++ closing) ∧
        (s ++ closing).takeWhile p = s.takeWhile p := by
  induction s with
  | nil => exact .inl ⟨rfl, by simp [closing, hparen, hdollar]⟩
  | cons c s ih =>
    by_cases hc : p c = true
    · simp only [List.cons_append, List.dropWhile_cons, List.takeWhile_cons, hc, if_true,
        List.cons.injEq, true_and]
      exact ih
    · refine .inr ⟨c, s, ?_, ?_, ?_⟩ <;> simp [hc]

/-! ## Flags and names -/

theorem agree_readFlags (negated dangling : Bool) (settings : List FlagSetting) (s : List Char) :
    Agree Eaten s (readFlags negated dangling settings s)
      (readFlags negated dangling settings (s ++ closing)) := by
  induction s generalizing negated dangling settings with
  | nil =>
    show Agree Eaten [] _ (if dangling then _ else _)
    split
    · exact .error
    · exact .of_lost (eaten_dollar _)
  | cons c s ih =>
    rw [List.cons_append]
    have hsuffix : s <:+ c :: s := List.suffix_cons c s
    by_cases hparen : c = ')'
    · subst hparen
      simp only [readFlags]
      split
      · exact .error
      · exact .ok hsuffix
    by_cases hcolon : c = ':'
    · subst hcolon
      simp only [readFlags]
      split
      · exact .error
      · exact .ok hsuffix
    by_cases hminus : c = '-'
    · subst hminus
      simp only [readFlags]
      split
      · exact .error
      · exact (ih _ _ _).mono hsuffix
    simp only [readFlags]
    cases Flag.ofLetter? c with
    | none => exact .error
    | some flag =>
      simp only
      split
      · exact .error
      · exact (ih _ _ _).mono hsuffix

/-- The name of a group ends before `closing`, or it is none. -/
theorem agree_readName (s : List Char) : Agree Eaten s (readName s) (readName (s ++ closing)) := by
  unfold readName
  obtain ⟨hrest, hrest'⟩ | ⟨c, rest, hrest, hrest', htake⟩ :=
    dropWhile_append_cases (p := (· != '>')) rfl rfl s
  · rw [hrest']
    cases (s ++ closing).takeWhile (· != '>') <;> exact .error
  · have hsuffix : c :: rest <:+ s := hrest ▸ List.dropWhile_suffix _
    rw [hrest, hrest', htake]
    cases s.takeWhile (· != '>') with
    | nil => exact .error
    | cons first others =>
      simp only
      split
      · exact .ok ((List.suffix_cons c rest).trans hsuffix)
      · exact .error

/-! ## Escapes -/

theorem agree_readHexDigits (verbose : Bool) (count value : Nat) (s : List Char) :
    Agree Eaten s (readHexDigits verbose count value s)
      (readHexDigits verbose count value (s ++ closing)) := by
  induction count generalizing value s with
  | zero => exact .ok List.suffix_rfl
  | succ count ih =>
    cases s with
    | nil => exact .error
    | cons c s =>
      rw [List.cons_append, readHexDigits, readHexDigits]
      cases hexDigit? c with
      | none => exact .error
      | some digit =>
        refine .mono (List.suffix_cons c s) (.skip (fun u _ => ih _ u) ?_)
        cases count with
        | zero =>
          rintro a v ⟨⟩
          exact eaten_nil _
        | succ count => rintro a v ⟨⟩

theorem agree_readHexBrace (verbose : Bool) {m : Nat} (n : Nat) (value : Option Nat)
    {s : List Char} (hm : s.length < m) :
    Agree Eaten s (readHexBrace verbose m value s)
      (readHexBrace verbose n value (s ++ closing)) := by
  induction n generalizing m value s with
  | zero => exact .error
  | succ n ih =>
    obtain ⟨m, rfl⟩ : ∃ k, m = k + 1 := ⟨m - 1, by omega⟩
    rw [readHexBrace, readHexBrace]
    obtain ⟨w, hw, h, h' | ⟨rfl, h'⟩⟩ := skip_cases verbose s
    · rw [h, h']
      cases w with
      | nil => exact .error
      | cons c w =>
        have hlen := hw.length_le
        have hsuffix : w <:+ s := (List.suffix_cons c w).trans hw
        rw [List.length_cons] at hlen
        simp only [List.cons_append]
        split
        · cases value with
          | none => exact .error
          | some value => exact .ok_skip hsuffix
        · cases hexDigit? c with
          | none => exact .error
          | some digit => exact (ih _ (by omega)).mono hsuffix
    · rw [h']
      exact .error

/-- `g` turns a result into another one by `f`, and leaves the rest of the text. -/
theorem Agree.andThen {f : α → Except PatternError β}
    {g : α × List Char → Except PatternError (β × List Char)}
    (hg : ∀ a v, g (a, v) = (f a).map (·, v)) (h : Agree Eaten s x y) :
    Agree Eaten s (x >>= g) (y >>= g) := by
  refine h.bind (fun a u _ => ?_) fun a v hv b w hw => ?_
  · rw [hg, hg]
    cases f a with
    | error e => exact .error
    | ok b => exact .ok List.suffix_rfl
  · rw [hg] at hw
    rw [(eq_of_map_eq hw).2]
    exact hv

/-- The literal with the code point `code`, if that is one of a rune. -/
def literalOf? (byte : Bool) (code : Nat) : Except PatternError Ast :=
  match rune? code with
  | none => .error .hexInvalid
  | some rune => .ok (.literal rune byte)

/-- The digits of a code point, in braces or not. -/
def hexDigits (verbose : Bool) (digits : Nat) (s : List Char) :
    Except PatternError (Nat × List Char) :=
  if s.head?.any (·.toNat = 0x7B) then readHexBrace verbose (s.length + 1) none s.tail
  else readHexDigits verbose digits 0 s

/-- What is read of a hexadecimal escape once blanks are skipped. -/
def hexLiteral (verbose : Bool) (digits : Nat) (s : List Char) :
    Except PatternError (Ast × List Char) :=
  hexDigits verbose digits s >>= fun p =>
    (literalOf? (digits = 2 && !s.head?.any (·.toNat = 0x7B)) p.1).map (·, p.2)

theorem readHex_eq (verbose : Bool) (digits : Nat) (s : List Char) :
    readHex verbose digits s = hexLiteral verbose digits (skip verbose s) := by
  simp only [readHex, hexLiteral, hexDigits, literalOf?]
  split <;>
  · refine bind_congr fun p => ?_
    cases rune? p.1 <;> rfl

theorem agree_hexDigits (verbose : Bool) (digits : Nat) (s : List Char) :
    Agree Eaten s (hexDigits verbose digits s) (hexDigits verbose digits (s ++ closing)) := by
  rw [hexDigits, hexDigits, any_head?_append (by decide)]
  cases s with
  | nil => exact agree_readHexDigits verbose digits 0 []
  | cons c s =>
    split
    · refine .mono (List.suffix_cons c s) (agree_readHexBrace verbose _ none ?_)
      exact Nat.lt_succ_of_le (Nat.le_succ _)
    · exact agree_readHexDigits verbose digits 0 (c :: s)

theorem agree_readHex (verbose : Bool) (digits : Nat) (s : List Char) :
    Agree Eaten s (readHex verbose digits s) (readHex verbose digits (s ++ closing)) := by
  rw [readHex_eq, readHex_eq]
  refine .skip (fun w _ => ?_) fun a v hv => ?_
  · rw [hexLiteral, hexLiteral, any_head?_append (by decide)]
    exact (agree_hexDigits verbose digits w).andThen fun _ _ => rfl
  · cases digits with
    | zero =>
      have hmap : (literalOf? _ 0).map (·, []) = .ok (a, v) := hv
      rw [(eq_of_map_eq hmap).2]
      exact eaten_nil a
    | succ digits => cases hv

/-! ## Names in braces -/

/-- The runes that `accepts` allows, with what is skipped between them, and the text after them. -/
def takeRunes (accepts : Char → Bool) (verbose : Bool) :
    Nat → List Char → List Char → List Char × List Char
  | 0, taken, s => (taken.reverse, s)
  | _, taken, [] => (taken.reverse, [])
  | fuel + 1, taken, c :: s =>
    if accepts c then takeRunes accepts verbose fuel (c :: taken) (skip verbose s)
    else (taken.reverse, c :: s)

theorem takeRunes_nil (accepts : Char → Bool) (verbose : Bool) (n : Nat) (taken : List Char) :
    takeRunes accepts verbose n taken [] = (taken.reverse, []) := by
  cases n <;> rfl

theorem agree_takeRunes (accepts : Char → Bool) (hp : accepts ')' = false) (verbose : Bool)
    {m n : Nat} (taken : List Char) {s : List Char} (hm : s.length ≤ m) (hn : s.length < n) :
    Agree Eaten s (.ok (takeRunes accepts verbose m taken s))
      (.ok (takeRunes accepts verbose n taken (s ++ closing))) := by
  induction n generalizing m taken s with
  | zero => omega
  | succ n ih =>
    cases s with
    | nil =>
      have hstop : takeRunes accepts verbose (n + 1) taken closing = (taken.reverse, closing) := by
        simp [takeRunes, closing, hp]
      rw [takeRunes_nil, List.nil_append, hstop]
      exact .ok (u := []) List.suffix_rfl
    | cons c s =>
      rw [List.length_cons] at hm hn
      obtain ⟨m, rfl⟩ : ∃ k, m = k + 1 := ⟨m - 1, by omega⟩
      rw [List.cons_append, takeRunes, takeRunes]
      split
      · refine .mono (List.suffix_cons c s) (Agree.skip
          (f := fun s => .ok (takeRunes accepts verbose m (c :: taken) s))
          (g := fun s => .ok (takeRunes accepts verbose n (c :: taken) s)) (fun u hu => ?_) ?_)
        · have hle := hu.length_le
          exact ih _ (by omega) (by omega)
        · intro a v hv
          rw [takeRunes_nil] at hv
          cases hv
          exact eaten_nil _
      · exact .ok List.suffix_rfl

theorem takeBoundaryName_eq (verbose : Bool) (n : Nat) (name s : List Char) :
    takeBoundaryName verbose n name s =
      takeRunes (fun c => isAsciiLetter c || c = '-') verbose n name s := by
  fun_induction takeBoundaryName verbose n name s <;> simp_all [takeRunes]

theorem takeDigits_eq (verbose : Bool) (n : Nat) (digits s : List Char) :
    takeDigits verbose n digits s = takeRunes isAsciiDigit verbose n digits s := by
  fun_induction takeDigits verbose n digits s <;> simp_all [takeRunes]

/-- What is read of a word boundary's name, with the closing brace. -/
def namedBoundary (verbose : Bool) (s : List Char) : Except PatternError (Ast × List Char) :=
  let (name, rest) := takeBoundaryName verbose s.length [] s
  if rest.head?.any (·.toNat = 0x7D) then
    match String.ofList name with
    | "start" => .ok (.assertion .wordStart, rest.tail)
    | "end" => .ok (.assertion .wordEnd, rest.tail)
    | "start-half" => .ok (.assertion .wordStartHalf, rest.tail)
    | "end-half" => .ok (.assertion .wordEndHalf, rest.tail)
    | _ => .error .wordBoundaryUnknown
  else .error .wordBoundaryUnknown

theorem readBoundary_eq (verbose : Bool) (s : List Char) :
    readBoundary verbose s =
      if s.head?.any (·.toNat = 0x7B) then
        match skip verbose s.tail with
        | [] => .error .wordBoundaryUnknown
        | c :: w =>
          if isAsciiLetter c || c = '-' then namedBoundary verbose (c :: w)
          else .ok (.assertion .wordBoundary, s)
      else .ok (.assertion .wordBoundary, s) := rfl

theorem agree_namedBoundary (verbose : Bool) (s : List Char) :
    Agree Eaten s (namedBoundary verbose s) (namedBoundary verbose (s ++ closing)) := by
  unfold namedBoundary
  simp only [takeBoundaryName_eq]
  have hlen : s.length < (s ++ closing).length := by simp [closing]
  have htake := agree_takeRunes (fun c => isAsciiLetter c || c = '-') (by decide) verbose []
    (Nat.le_refl _) hlen
  cases hy : takeRunes (fun c => isAsciiLetter c || c = '-') verbose (s ++ closing).length []
    (s ++ closing) with
  | mk name v =>
    rw [hy] at htake
    obtain hv | ⟨u, hu, rfl, hx⟩ := htake name v rfl
    · obtain rfl | rfl := suffix_dollar_iff.mp hv <;> exact .error
    · rw [Except.ok.inj hx]
      simp only [any_head?_append (p := fun c => decide (c.toNat = 0x7D)) (by decide)]
      cases u with
      | nil => exact .error
      | cons c u =>
        have hsuffix : u <:+ s := (List.suffix_cons c u).trans hu
        split
        · simp only [List.cons_append, List.tail_cons]
          split
          case h_5 => exact .error
          all_goals exact .ok hsuffix
        · exact .error

/-- The end of the group has been taken for something else, or a brace stands after `\b` that has
nothing in it and is never closed. -/
def Adrift (verbose : Bool) (a : Ast) (v : List Char) : Prop :=
  v <:+ ['$'] ∨ a = .assertion .wordBoundary ∧
    ∃ c s, v = c :: s ∧ c.toNat = 0x7B ∧ skip verbose s = closing

theorem agree_readBoundary (verbose : Bool) (s : List Char) :
    Agree (Adrift verbose) s (readBoundary verbose s) (readBoundary verbose (s ++ closing)) := by
  rw [readBoundary_eq, readBoundary_eq, any_head?_append (by decide)]
  cases s with
  | nil => exact .ok List.suffix_rfl
  | cons c s =>
    have hsuffix : s <:+ c :: s := List.suffix_cons c s
    split
    · next hbrace =>
      rw [List.head?_cons, Option.any_some, decide_eq_true_eq] at hbrace
      obtain ⟨w, hw, h, h' | ⟨rfl, h'⟩⟩ := skip_cases verbose s
      · rw [List.cons_append, List.tail_cons, List.tail_cons, h, h']
        cases w with
        | nil => exact .of_lost (.inr ⟨rfl, c, s ++ closing, rfl, hbrace, h'⟩)
        | cons d w =>
          simp only [List.cons_append]
          split
          · exact .mono (hw.trans hsuffix)
              ((agree_namedBoundary verbose (d :: w)).imp fun _ _ => .inl)
          · exact .ok (u := c :: s) List.suffix_rfl
      · rw [List.cons_append, List.tail_cons, List.tail_cons, h']
        exact .error
    · exact .ok List.suffix_rfl

theorem takeBraced_nil (verbose : Bool) (n : Nat) (name : List Char) :
    takeBraced verbose n name [] = none := by
  cases n with
  | zero => rfl
  | succ n => rw [takeBraced, skip_nil]

theorem takeBraced_dollar (verbose : Bool) (n : Nat) (name : List Char) :
    takeBraced verbose n name ['$'] = none := by
  cases n with
  | zero => rfl
  | succ n =>
    rw [takeBraced, skip_dollar]
    exact takeBraced_nil verbose n ('$' :: name)

/-- The name of a property in braces is closed before `closing`, or never. -/
theorem takeBraced_append (verbose : Bool) {m : Nat} (n : Nat) (name : List Char)
    {s a v : List Char} (hm : s.length < m)
    (h : takeBraced verbose n name (s ++ closing) = some (a, v)) :
    ∃ u, u <:+ s ∧ v = u ++ closing ∧ takeBraced verbose m name s = some (a, u) := by
  induction n generalizing m name s with
  | zero => cases h
  | succ n ih =>
    obtain ⟨m, rfl⟩ : ∃ k, m = k + 1 := ⟨m - 1, by omega⟩
    rw [takeBraced] at h ⊢
    obtain ⟨w, hw, hskip, h' | ⟨rfl, h'⟩⟩ := skip_cases verbose s
    · rw [h'] at h
      rw [hskip]
      cases w with
      | nil =>
        have h : takeBraced verbose n (')' :: name) ['$'] = some (a, v) := h
        rw [takeBraced_dollar] at h
        cases h
      | cons c w =>
        have hlen := hw.length_le
        have hsuffix : w <:+ s := (List.suffix_cons c w).trans hw
        rw [List.length_cons] at hlen
        simp only [List.cons_append] at h ⊢
        split at h
        · cases h
          exact ⟨w, hsuffix, rfl, by simp [*]⟩
        · obtain ⟨u, hu, hv, hx⟩ := ih (m := m) _ (by omega) h
          exact ⟨u, hu.trans hsuffix, hv, by simp [*]⟩
    · rw [h'] at h
      cases h

theorem agree_readProperty (verbose negated : Bool) (s : List Char) :
    Agree Eaten s (readProperty verbose negated s)
      (readProperty verbose negated (s ++ closing)) := by
  unfold readProperty
  obtain ⟨w, hw, h, h' | ⟨rfl, h'⟩⟩ := skip_cases verbose s
  · rw [h, h']
    refine .mono hw ?_
    cases w with
    | nil => exact .of_lost (eaten_dollar _)
    | cons c w =>
      have hsuffix : w <:+ c :: w := List.suffix_cons c w
      rw [List.cons_append]
      by_cases hbackslash : c = '\\'
      · subst hbackslash
        exact .error
      simp only
      split
      · cases hy : takeBraced verbose ((w ++ closing).length + 1) [] (w ++ closing) with
        | none => exact .error
        | some p =>
          obtain ⟨name, v⟩ := p
          obtain ⟨u, hu, rfl, hx⟩ := takeBraced_append verbose _ [] (Nat.lt_succ_self w.length) hy
          rw [hx]
          exact .ok (hu.trans hsuffix)
      · exact .ok hsuffix
  · rw [h']
    exact .error

/-- `readEscape`, for what follows a backslash, leaves `closing` as it is unless the text is
`Adrift`. -/
theorem agree_readEscape (verbose : Bool) (s : List Char) :
    Agree (Adrift verbose) s (readEscape verbose s) (readEscape verbose (s ++ closing)) := by
  have heaten : ∀ (a : Ast) (v : List Char), Eaten a v → Adrift verbose a v := fun _ _ => .inl
  fun_cases readEscape verbose s
  case case1 => exact .of_lost (.inl List.suffix_rfl)
  case case2 s => exact .mono (List.suffix_cons _ s) ((agree_readHex verbose 2 s).imp heaten)
  case case3 s => exact .mono (List.suffix_cons _ s) ((agree_readHex verbose 4 s).imp heaten)
  case case4 s => exact .mono (List.suffix_cons _ s) ((agree_readHex verbose 8 s).imp heaten)
  case case11 s =>
    exact .mono (List.suffix_cons _ s) ((agree_readProperty verbose false s).imp heaten)
  case case12 s =>
    exact .mono (List.suffix_cons _ s) ((agree_readProperty verbose true s).imp heaten)
  case case22 s => exact .mono (List.suffix_cons _ s) (agree_readBoundary verbose s)
  case case25 =>
    simp only [List.cons_append, readEscape, *]
    exact .error
  case case26 =>
    simp only [List.cons_append, readEscape, *]
    exact .ok (List.suffix_cons _ _)
  case case27 =>
    simp only [List.cons_append, readEscape, *]
    exact .error
  all_goals exact .ok (List.suffix_cons _ _)

/-! ## Counts -/

theorem skipBlanks_cases (verbose : Bool) (s : List Char) :
    ∃ w, w <:+ s ∧ skipBlanks verbose s = w ∧ (skipBlanks verbose (s ++ closing) = w ++ closing ∨
      w = [] ∧ skipBlanks verbose (s ++ closing) = []) := by
  unfold skipBlanks
  rw [dropWhile_append_closing (by decide)]
  obtain ⟨w, hw, hskip⟩ := skip_cases verbose (s.dropWhile isBlank)
  exact ⟨w, hw.trans (List.dropWhile_suffix _), hskip⟩

/-- The number that `digits` stand for. -/
def countOf (digits : List Char) : Except PatternError Nat :=
  if digits.isEmpty then .error .countMissing
  else
    let value := digits.foldl (fun value c => value * 10 + (c.toNat - '0'.toNat)) 0
    if value < 0x100000000 then .ok value else .error .countTooLarge

/-- The digits of a number and the text after them are turned into the number and what follows
it. -/
def afterDigits (verbose : Bool) (p : List Char × List Char) :
    Except PatternError (Nat × List Char) :=
  (countOf p.1).map (·, if p.2.head?.any isBlank then skipBlanks verbose p.2 else p.2)

theorem readDecimal_eq (verbose : Bool) (s : List Char) :
    readDecimal verbose s =
      .ok (takeRunes isAsciiDigit verbose (s.length + 1) [] (s.dropWhile isBlank)) >>=
        afterDigits verbose := by
  show _ = afterDigits verbose (takeRunes isAsciiDigit verbose (s.length + 1) [] _)
  simp only [readDecimal, takeDigits_eq, afterDigits, countOf]
  split
  · rfl
  · split <;> rfl

theorem agree_afterDigits (verbose : Bool) (digits s : List Char) :
    Agree Eaten s (afterDigits verbose (digits, s))
      (afterDigits verbose (digits, s ++ closing)) := by
  unfold afterDigits
  cases countOf digits with
  | error e => exact .error
  | ok value =>
    simp only [any_head?_append (p := isBlank) (by decide)]
    split
    · obtain ⟨w, hw, h, h' | ⟨rfl, h'⟩⟩ := skipBlanks_cases verbose s
      · rw [h, h']
        exact .ok hw
      · rw [h']
        exact .of_lost (eaten_nil _)
    · exact .ok List.suffix_rfl

theorem eaten_afterDigits {verbose : Bool} {digits v w : List Char} {value : Nat}
    (hv : v <:+ ['$']) (h : afterDigits verbose (digits, v) = .ok (value, w)) : w <:+ ['$'] := by
  have hblank : v.head?.any isBlank = false := by
    obtain rfl | rfl := suffix_dollar_iff.mp hv <;> decide
  rw [afterDigits, hblank] at h
  rw [(eq_of_map_eq h).2]
  exact hv

theorem agree_readDecimal (verbose : Bool) (s : List Char) :
    Agree Eaten s (readDecimal verbose s) (readDecimal verbose (s ++ closing)) := by
  rw [readDecimal_eq, readDecimal_eq, dropWhile_append_closing (by decide)]
  have hsuffix : s.dropWhile isBlank <:+ s := List.dropWhile_suffix _
  have hle := hsuffix.length_le
  have hlen : (s.dropWhile isBlank).length < (s ++ closing).length + 1 := by
    rw [List.length_append]
    omega
  have htake := agree_takeRunes isAsciiDigit (by decide) verbose [] (Nat.le_succ_of_le hle) hlen
  refine .mono hsuffix (htake.bind (fun digits u _ => agree_afterDigits verbose digits u)
    fun digits v hv value w hw => ?_)
  exact eaten_afterDigits hv hw

/-- What is read of a repetition's counts after the least one. -/
def readMost (verbose : Bool) (least : Nat) : List Char →
    Except PatternError (Option Nat × List Char)
  | ',' :: s =>
    if (skip verbose s).head?.any (·.toNat = 0x7D) then .ok (none, skip verbose s)
    else (readDecimal verbose (skip verbose s)).map fun p => (some p.1, p.2)
  | s => .ok (some least, s)

/-- Takes the closing brace after the counts of a repetition. -/
def closeCounts (least : Nat) (p : Option Nat × List Char) :
    Except PatternError ((Nat × Option Nat) × List Char) :=
  match p.2 with
  | c :: s =>
    if c.toNat ≠ 0x7D then .error .countUnclosed
    else if p.1.any (· < least) then .error .countsReversed
    else .ok ((least, p.1), s)
  | [] => .error .countUnclosed

theorem readCounts_eq (verbose : Bool) (s : List Char) :
    readCounts verbose s =
      readDecimal verbose (skip verbose s) >>= fun p =>
        readMost verbose p.1 p.2 >>= closeCounts p.1 := by
  unfold readCounts
  refine bind_congr fun p => ?_
  obtain ⟨least, u⟩ := p
  fun_cases readMost verbose least u with
  | case1 u hbrace =>
    simp only [hbrace]
    rfl
  | case2 u hbrace =>
    simp only [hbrace]
    cases readDecimal verbose (skip verbose u) <;> rfl
  | case3 u hcomma =>
    simp only
    rfl

theorem agree_readMost (verbose : Bool) (least : Nat) (s : List Char) :
    Agree Eaten s (readMost verbose least s) (readMost verbose least (s ++ closing)) := by
  by_cases hcomma : ∃ t, s = ',' :: t
  · obtain ⟨t, rfl⟩ := hcomma
    let most (u : List Char) : Except PatternError (Option Nat × List Char) :=
      if u.head?.any (·.toNat = 0x7D) then .ok (none, u)
      else (readDecimal verbose u).map fun p => (some p.1, p.2)
    refine .mono (List.suffix_cons _ t) (Agree.skip (f := most) (g := most) (fun u _ => ?_) ?_)
    · simp only [most, any_head?_append (p := fun c => decide (c.toNat = 0x7D)) (by decide)]
      split
      · exact .ok List.suffix_rfl
      · exact (agree_readDecimal verbose u).map some fun _ _ => id
    · rintro a v ⟨⟩
  · have hno : ∀ t, s = ',' :: t → False := fun t ht => hcomma ⟨t, ht⟩
    rw [readMost.eq_2 verbose least s hno,
      readMost.eq_2 verbose least _ (append_ne_cons (by decide) hno)]
    exact .ok List.suffix_rfl

theorem agree_closeCounts (least : Nat) (most : Option Nat) (s : List Char) :
    Agree Never s (closeCounts least (most, s))
      (closeCounts least (most, s ++ closing)) := by
  cases s with
  | nil => exact .error
  | cons c s =>
    simp only [closeCounts, List.cons_append]
    split
    · exact .error
    · split
      · exact .error
      · exact .ok (List.suffix_cons c s)

theorem closeCounts_eaten {least : Nat} {most : Option Nat} {v : List Char} (hv : v <:+ ['$']) :
    closeCounts least (most, v) = .error .countUnclosed := by
  obtain rfl | rfl := suffix_dollar_iff.mp hv <;> rfl

/-- The counts of a repetition are closed before `closing`, or never. -/
theorem agree_readCounts (verbose : Bool) (s : List Char) :
    Agree Never s (readCounts verbose s) (readCounts verbose (s ++ closing)) := by
  rw [readCounts_eq, readCounts_eq]
  have hleast : Agree Eaten s (readDecimal verbose (skip verbose s))
      (readDecimal verbose (skip verbose (s ++ closing))) := by
    refine .skip (fun u _ => agree_readDecimal verbose u) ?_
    rintro a v ⟨⟩
  refine hleast.bind (fun least u _ => ?_) fun least v hv counts w hw => ?_
  · refine (agree_readMost verbose least u).bind
      (fun most v _ => agree_closeCounts least most v) fun most v hv counts w hw => ?_
    rw [closeCounts_eaten hv] at hw
    cases hw
  · have hmost : readMost verbose least v = .ok (some least, v) := by
      obtain rfl | rfl := suffix_dollar_iff.mp hv <;> rfl
    simp only [hmost] at hw
    rw [show (Except.ok (some least, v) >>= closeCounts least) = closeCounts least (some least, v)
      from rfl, closeCounts_eaten hv] at hw
    cases hw

end LexTree.Pattern.Parser
