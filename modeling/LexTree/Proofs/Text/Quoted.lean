import LexTree.Proofs.Text.Pieces
import LexTree.Text.Digits
import LexTree.Text.Quoted

/-!
# Quoted text read back

What stands for a rune in quoted text can be read without knowing what follows it,
and is never a quote that could be taken for the end of the text.

- `addDigits?_toDigits`: the hexadecimal digits of a number have its value.
- `unescape?_escape`: each rune is read from what stands for it.
- `quote_append_inj`: the text between the quotes, and what stands behind them, are
  determined by the whole.
- `newline_not_mem_quote`: quoted text is all on one line.
-/

namespace LexTree.Text

/-! ## Hexadecimal numbers -/

theorem digit?_digitChar : ∀ d < 16, digit? 16 d.digitChar = some d := by decide

theorem addDigits?_append (base n : Nat) (before digits : List Char) :
    addDigits? base n (before ++ digits) =
      (addDigits? base n before).bind fun m => addDigits? base m digits := by
  induction before generalizing n with
  | nil => rfl
  | cons c before ih =>
    rw [List.cons_append, addDigits?, addDigits?]
    cases digit? base c with
    | none => rfl
    | some d => exact ih _

/-- `addDigits?` gives the digits of `n` the value `n`. -/
theorem addDigits?_toDigits (n : Nat) : addDigits? 16 0 (Nat.toDigits 16 n) = some n := by
  induction n using Nat.strongRecOn with
  | ind n ih =>
    have hlast {m d : Nat} (hd : d < 16) : addDigits? 16 m [d.digitChar] = some (16 * m + d) := by
      rw [addDigits?, digit?_digitChar d hd]
      rfl
    rcases Nat.lt_or_ge n 16 with hlt | hge
    · rw [Nat.toDigits_of_lt_base hlt, hlast hlt, Nat.mul_zero, Nat.zero_add]
    · rw [Nat.toDigits_of_base_le (by decide) hge, addDigits?_append,
        ih (n / 16) (Nat.div_lt_self (by omega) (by decide)), Option.bind_some,
        hlast (Nat.mod_lt n (by decide)), Nat.div_add_mod]

/-- A row that has a value by `addDigits?` is one of digits. -/
theorem isSome_digit?_of_mem {base n m : Nat} {digits : List Char} {c : Char}
    (h : addDigits? base n digits = some m) (hc : c ∈ digits) : (digit? base c).isSome := by
  induction digits generalizing n with
  | nil => cases hc
  | cons d digits ih =>
    rw [addDigits?] at h
    cases hd : digit? base d with
    | none =>
      rw [hd] at h
      cases h
    | some v =>
      rw [hd] at h
      rcases List.mem_cons.mp hc with rfl | hc
      · rw [hd]
        rfl
      · exact ih h hc

theorem not_mem_toDigits {c : Char} (hc : digit? 16 c = none) (n : Nat) :
    c ∉ Nat.toDigits 16 n := fun hmem => by
  have := isSome_digit?_of_mem (addDigits?_toDigits n) hmem
  rw [hc] at this
  cases this

/-! ## Runes -/

/-- Reads the rune that `escape` writes. A quote stands for none. -/
def unescape? : List Char → Option (Char × List Char)
  | '\\' :: '0' :: rest => some ('\x00', rest)
  | '\\' :: 't' :: rest => some ('\t', rest)
  | '\\' :: 'n' :: rest => some ('\n', rest)
  | '\\' :: 'r' :: rest => some ('\r', rest)
  | '\\' :: '"' :: rest => some ('"', rest)
  | '\\' :: '\\' :: rest => some ('\\', rest)
  | '\\' :: 'u' :: '\x7b' :: rest =>
    (natOfDigits? 16 (rest.takeWhile (· ≠ '\x7d'))).map fun code =>
      (Char.ofNat code, (rest.dropWhile (· ≠ '\x7d')).tail)
  | '"' :: _ => none
  | rune :: rest => some (rune, rest)
  | [] => none

theorem unescape?_cons {c : Char} (hquote : c ≠ '"') (hslash : c ≠ '\\') (w : List Char) :
    unescape? (c :: w) = some (c, w) := by
  unfold unescape?
  split <;> simp_all

/-- `unescape?` reads a rune that is written as its code point. -/
theorem unescape?_code (c : Char) (w : List Char) :
    unescape? ('\\' :: 'u' :: '\x7b' :: (Nat.toDigits 16 c.toNat ++ '\x7d' :: w)) =
      some (c, w) := by
  have hdigits : ∀ d ∈ Nat.toDigits 16 c.toNat, decide (d ≠ '\x7d') = true := fun d hd =>
    decide_eq_true fun heq => not_mem_toDigits rfl _ (heq ▸ hd)
  have hvalue : natOfDigits? 16 (Nat.toDigits 16 c.toNat) = some c.toNat := by
    rw [natOfDigits?, if_neg (by simp), addDigits?_toDigits]
  have htake : (Nat.toDigits 16 c.toNat ++ '\x7d' :: w).takeWhile (· ≠ '\x7d') =
      Nat.toDigits 16 c.toNat := by
    rw [List.takeWhile_append_of_pos hdigits, List.takeWhile_cons_of_neg (by decide),
      List.append_nil]
  have hdrop : (Nat.toDigits 16 c.toNat ++ '\x7d' :: w).dropWhile (· ≠ '\x7d') = '\x7d' :: w := by
    rw [List.dropWhile_append_of_pos hdigits, List.dropWhile_cons_of_neg (by decide)]
  rw [unescape?, htake, hdrop, hvalue, Option.map_some, Char.ofNat_toNat]
  rfl

/-- `unescape?` reads each rune from what `escape` writes of it, whatever follows. -/
theorem unescape?_escape (c : Char) (w : List Char) :
    unescape? ((escape c).toList ++ w) = some (c, w) := by
  unfold escape
  split
  case h_7 _ _ _ _ hquote hslash =>
    split
    · rw [show c.toString.toList = [c] from String.toList_singleton c]
      exact unescape?_cons hquote hslash w
    · have hcode : ("\\u\x7b" ++ hexDigits c.toNat ++ "\x7d").toList ++ w =
          '\\' :: 'u' :: '\x7b' :: (Nat.toDigits 16 c.toNat ++ '\x7d' :: w) := by
        simp [hexDigits]
      rw [hcode]
      exact unescape?_code c w
  all_goals rfl

/-- What `escape` writes of a rune is all on one line. -/
theorem newline_not_mem_escape (c : Char) : '\n' ∉ (escape c).toList := by
  unfold escape
  split
  case h_7 _ _ hnewline _ _ _ =>
    split
    · rw [show c.toString.toList = [c] from String.toList_singleton c, List.mem_singleton]
      exact Ne.symm hnewline
    · have hdigits : '\n' ∉ Nat.toDigits 16 c.toNat := not_mem_toDigits rfl _
      simpa [hexDigits] using hdigits
  all_goals decide

/-! ## Texts -/

/-- What `escape` writes of some runes. -/
def escapeAll (runes : List Char) : List Char := runes.flatMap fun c => (escape c).toList

theorem toList_quote (text : String) :
    (quote text).toList = '"' :: (escapeAll text.toList ++ ['"']) := by
  rw [quote, String.toList_push, String.foldl_eq_foldl_toList, toList_foldl_append]
  rfl

/-- Runes up to a quote are determined by `escapeAll`, and so is what follows the quote. -/
theorem escapeAll_append_inj {s t x y : List Char}
    (h : escapeAll s ++ '"' :: x = escapeAll t ++ '"' :: y) : s = t ∧ x = y := by
  have hnil (x : List Char) : unescape? (escapeAll [] ++ '"' :: x) = none := rfl
  have hcons (c : Char) (s x : List Char) :
      unescape? (escapeAll (c :: s) ++ '"' :: x) = some (c, escapeAll s ++ '"' :: x) := by
    rw [escapeAll, List.flatMap_cons, List.append_assoc, unescape?_escape]
    rfl
  induction s generalizing t with
  | nil =>
    cases t with
    | nil => exact ⟨rfl, (List.cons.inj h).2⟩
    | cons d t =>
      have hread := hcons d t y
      rw [← h, hnil] at hread
      cases hread
  | cons c s ih =>
    cases t with
    | nil =>
      have hread := hcons c s x
      rw [h, hnil] at hread
      cases hread
    | cons d t =>
      have hread := hcons c s x
      rw [h, hcons] at hread
      obtain ⟨rfl, hrest⟩ := Prod.mk.inj (Option.some.inj hread)
      obtain ⟨rfl, rfl⟩ := ih hrest.symm
      exact ⟨rfl, rfl⟩

/-- A text `s` is determined by any text that begins with `quote s`, and so is what follows it. -/
theorem quote_append_inj {s t : String} {x y : List Char}
    (h : (quote s).toList ++ x = (quote t).toList ++ y) : s = t ∧ x = y := by
  rw [toList_quote, toList_quote, List.cons_append, List.cons_append, List.append_assoc,
    List.append_assoc] at h
  obtain ⟨hruns, hrest⟩ := escapeAll_append_inj (List.cons.inj h).2
  exact ⟨String.toList_inj.mp hruns, hrest⟩

/-- What `quote` writes is all on one line. -/
theorem newline_not_mem_quote (text : String) : '\n' ∉ (quote text).toList := by
  rw [toList_quote, escapeAll]
  simp only [List.mem_cons, List.mem_append, List.mem_flatMap, List.not_mem_nil, or_false, not_or,
    not_exists, not_and]
  exact ⟨by decide, fun c _ => newline_not_mem_escape c, by decide⟩

end LexTree.Text
