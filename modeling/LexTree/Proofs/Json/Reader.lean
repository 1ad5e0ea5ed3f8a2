import LexTree.Format.Json
import LexTree.Text.Digits

/-!
# Reading JSON

A reader of JSON texts made of lists, records, strings and natural numbers. What
documents cannot hold, such as `null` or a fraction, it refuses, and so it does
what is no JSON at all.

- `Json.symbols?` splits a text into the symbols of the grammar, between which any
  blanks may stand.
- `Json.value?` and `Json.after?` read a document from symbols, with what is open
  around it on a stack.
- `Json.read?` is the document of a whole text.
-/

namespace LexTree.Format.Json

/-! ## Strings -/

/-- The code unit of four hexadecimal digits, and what follows them. -/
def codeUnit? : List Char → Option (Nat × List Char)
  | a :: b :: c :: d :: rest => (Text.natOfDigits? 16 [a, b, c, d]).map (·, rest)
  | _ => none

/-- The second code unit of a pair, which has `\u` before it, and what follows it. -/
def lowUnit? : List Char → Option (Nat × List Char)
  | '\\' :: 'u' :: rest => (codeUnit? rest).filter fun x => 0xDC00 ≤ x.1 && x.1 ≤ 0xDFFF
  | _ => none

/-- The rune behind `\u`, and what follows it. Runes beyond U+FFFF take a pair of code units, and
half of a pair is no rune. -/
def unicode? (runes : List Char) : Option (Char × List Char) :=
  match codeUnit? runes with
  | none => none
  | some (unit, rest) =>
    if unit < 0xD800 || 0xDFFF < unit then some (Char.ofNat unit, rest)
    else if 0xDBFF < unit then none
    else
      match lowUnit? rest with
      | none => none
      | some (low, rest) =>
        some (Char.ofNat (0x10000 + (unit - 0xD800) * 0x400 + (low - 0xDC00)), rest)

/-- The rune that an escape stands for, read from behind the backslash, and what follows. -/
def escaped? : List Char → Option (Char × List Char)
  | '"' :: rest => some ('"', rest)
  | '\\' :: rest => some ('\\', rest)
  | '/' :: rest => some ('/', rest)
  | 'b' :: rest => some ('\x08', rest)
  | 'f' :: rest => some ('\x0C', rest)
  | 'n' :: rest => some ('\n', rest)
  | 'r' :: rest => some ('\r', rest)
  | 't' :: rest => some ('\t', rest)
  | 'u' :: rest => unicode? rest
  | _ => none

/-- The first rune inside a string, escaped or not, and what follows. Controls must be escaped. -/
def rune? : List Char → Option (Char × List Char)
  | [] => none
  | '"' :: _ => none
  | '\\' :: rest => escaped? rest
  | rune :: rest => if rune.toNat < 0x20 then none else some (rune, rest)

theorem length_of_codeUnit? {runes rest : List Char} {unit : Nat}
    (h : codeUnit? runes = some (unit, rest)) : rest.length < runes.length := by
  unfold codeUnit? at h
  split at h
  · next a b c d tail =>
    obtain ⟨_, -, heq⟩ := Option.map_eq_some_iff.mp h
    cases heq
    simp only [List.length_cons]
    omega
  · cases h

theorem length_of_lowUnit? {runes rest : List Char} {unit : Nat}
    (h : lowUnit? runes = some (unit, rest)) : rest.length < runes.length := by
  unfold lowUnit? at h
  split at h
  · have hlt := length_of_codeUnit? (Option.filter_eq_some_iff.mp h).1
    simp only [List.length_cons]
    omega
  · cases h

theorem length_of_unicode? {runes rest : List Char} {rune : Char}
    (h : unicode? runes = some (rune, rest)) : rest.length < runes.length := by
  unfold unicode? at h
  split at h
  · cases h
  · next unit tail hunit =>
    have hlt := length_of_codeUnit? hunit
    split at h
    · obtain ⟨-, rfl⟩ := Prod.mk.inj (Option.some.inj h)
      exact hlt
    · split at h
      · cases h
      · split at h
        · cases h
        · next low after hlow =>
          obtain ⟨-, rfl⟩ := Prod.mk.inj (Option.some.inj h)
          exact Nat.lt_trans (length_of_lowUnit? hlow) hlt

theorem length_of_escaped? {runes rest : List Char} {rune : Char}
    (h : escaped? runes = some (rune, rest)) : rest.length < runes.length := by
  unfold escaped? at h
  split at h
  case h_9 =>
    have hlt := length_of_unicode? h
    simp only [List.length_cons]
    omega
  case h_10 => cases h
  all_goals
    cases h
    exact Nat.lt_succ_self _

/-- `rune?` leaves less to read. -/
theorem length_of_rune? {runes rest : List Char} {rune : Char}
    (h : rune? runes = some (rune, rest)) : rest.length < runes.length := by
  unfold rune? at h
  split at h
  · cases h
  · cases h
  · have hlt := length_of_escaped? h
    simp only [List.length_cons]
    omega
  · split at h
    · cases h
    · cases h
      exact Nat.lt_succ_self _

/-- The runes of a string up to the quote that closes it, and what follows that quote. -/
def string? (runes : List Char) : Option (List Char × List Char) :=
  match runes with
  | '"' :: rest => some ([], rest)
  | runes =>
    match _ : rune? runes with
    | none => none
    | some (rune, rest) => (string? rest).map fun x => (rune :: x.1, x.2)
termination_by runes.length
decreasing_by exact length_of_rune? ‹_›

/-- `string?` leaves less to read. -/
theorem length_of_string? {runes value rest : List Char} (h : string? runes = some (value, rest)) :
    rest.length < runes.length := by
  fun_induction string? runes generalizing value with
  | case1 rest =>
    cases h
    exact Nat.lt_succ_self _
  | case2 => cases h
  | case3 runes hquote rune tail hrune ih =>
    obtain ⟨⟨value, after⟩, hvalue, heq⟩ := Option.map_eq_some_iff.mp h
    cases heq
    exact Nat.lt_trans (ih hvalue) (length_of_rune? hrune)

/-! ## Symbols -/

/-- What a JSON text is made of, beside blanks. -/
inductive Symbol where
  | openList
  | closeList
  | openRecord
  | closeRecord
  | comma
  | colon
  | text (value : String)
  | number (value : Nat)
deriving DecidableEq, Repr

/-- The value of a row of digits, which has a leading zero only if that is all of it. -/
def numeral? (digits : List Char) : Option Nat :=
  match digits with
  | [] => none
  | '0' :: _ :: _ => none
  | digits => some (Nat.ofDigitChars 10 digits 0)

/-- The symbol at the start of a text, and what follows it. A number goes on as long as there are
digits. -/
def symbol? : List Char → Option (Symbol × List Char)
  | '[' :: rest => some (.openList, rest)
  | ']' :: rest => some (.closeList, rest)
  | '\x7b' :: rest => some (.openRecord, rest)
  | '\x7d' :: rest => some (.closeRecord, rest)
  | ',' :: rest => some (.comma, rest)
  | ':' :: rest => some (.colon, rest)
  | '"' :: rest => (string? rest).map fun x => (.text (String.ofList x.1), x.2)
  | runes =>
    (numeral? (runes.takeWhile Char.isDigit)).map fun n => (.number n, runes.dropWhile Char.isDigit)

/-- `symbol?` leaves less to read. -/
theorem length_of_symbol? {runes rest : List Char} {symbol : Symbol}
    (h : symbol? runes = some (symbol, rest)) : rest.length < runes.length := by
  unfold symbol? at h
  split at h
  case h_7 =>
    obtain ⟨⟨value, after⟩, hvalue, heq⟩ := Option.map_eq_some_iff.mp h
    cases heq
    exact Nat.lt_succ_of_lt (length_of_string? hvalue)
  case h_8 =>
    obtain ⟨n, hn, heq⟩ := Option.map_eq_some_iff.mp h
    cases heq
    have hne : runes.takeWhile Char.isDigit ≠ [] := by
      intro hnil
      rw [hnil] at hn
      cases hn
    have hpos := List.length_pos_iff.mpr hne
    have hsplit : runes.takeWhile Char.isDigit ++ runes.dropWhile Char.isDigit = runes :=
      List.takeWhile_append_dropWhile
    have hlength := congrArg List.length hsplit
    rw [List.length_append] at hlength
    omega
  all_goals
    cases h
    exact Nat.lt_succ_self _

/-- The runes that may stand between symbols. -/
def isBlank (rune : Char) : Bool :=
  rune == ' ' || rune == '\t' || rune == '\n' || rune == '\r'

/-- The symbols of a text. -/
def symbols? (runes : List Char) : Option (List Symbol) :=
  match runes with
  | [] => some []
  | rune :: rest =>
    if isBlank rune then symbols? rest
    else
      match _ : symbol? (rune :: rest) with
      | none => none
      | some (symbol, rest) => (symbols? rest).map (symbol :: ·)
termination_by runes.length
decreasing_by
  · exact Nat.lt_succ_self _
  · exact length_of_symbol? ‹_›

/-- An escaped rune beyond U+FFFF, and a slash that need not have been escaped. -/
example : symbols? "[10 , \"\\ud83d\\ude00\\/\"]".toList =
    some [.openList, .number 10, .comma, .text "😀/", .closeList] := by decide +kernel

/-! ## The grammar -/

/-- A list or a record with what has been read of it. -/
inductive Frame where
  | list (items : List Document)
  /-- The next field has its name already. -/
  | record (fields : List (String × Document)) (name : String)

mutual

/-- Reads a value behind the frames of `stack`, and what follows it up to the end. -/
def value? (stack : List Frame) : List Symbol → Option Document
  | .text value :: rest => after? stack (.text value) rest
  | .number value :: rest => after? stack (.number value) rest
  | .openList :: .closeList :: rest => after? stack (.list []) rest
  | .openList :: rest => value? (.list [] :: stack) rest
  | .openRecord :: .closeRecord :: rest => after? stack (.record []) rest
  | .openRecord :: .text name :: .colon :: rest => value? (.record [] name :: stack) rest
  | _ => none

/-- Reads on behind a value, which belongs to the topmost frame. Outside of all frames the text must
be at its end. -/
def after? : List Frame → Document → List Symbol → Option Document
  | [], value, [] => some value
  | .list items :: stack, value, .comma :: rest => value? (.list (items ++ [value]) :: stack) rest
  | .list items :: stack, value, .closeList :: rest => after? stack (.list (items ++ [value])) rest
  | .record fields name :: stack, value, .comma :: .text next :: .colon :: rest =>
    value? (.record (fields ++ [(name, value)]) next :: stack) rest
  | .record fields name :: stack, value, .closeRecord :: rest =>
    after? stack (.record (fields ++ [(name, value)])) rest
  | _, _, _ => none

end

/-- The document that a JSON text stands for, if its `symbols?` are those of one. -/
def read? (text : String) : Option Document := (symbols? text.toList).bind (value? [])

end LexTree.Format.Json
