import LexTree.Proofs.Json.Reader
import LexTree.Proofs.Text.Pieces

/-!
# Reading what the pretty printer writes

A document is read back from its text, whatever runes its strings have.

- `Json.rune?_escape` and `Json.string?_escapeAll`: escapes stand for their runes.
- `Json.symbol?_toDigits`: a number ends where its digits end.
- `Json.symbolsOf` is what a document's text is made of, and `Json.reads_written`
  says that the printer writes just that, with blanks in between.
- `Json.value?_symbols`: these symbols are read as that document.
- `Json.read?_pretty`: the whole text.
-/

namespace LexTree.Format.Json

/-! ## Strings -/

theorem hexDigit?_hexDigit : ∀ d < 16, Text.hexDigit? (Text.hexDigit 'a' d) = some d := by decide

theorem digit?_hexDigit {d : Nat} (h : d < 16) : Text.digit? 16 (Text.hexDigit 'a' d) = some d := by
  rw [Text.digit?, hexDigit?_hexDigit d h]
  exact if_pos (decide_eq_true h)

/-- `codeUnit?` reads the four digits that `Text.hexPadded` writes of a code unit. -/
theorem codeUnit?_hexPadded {n : Nat} (h : n < 0x10000) (w : List Char) :
    codeUnit? ((Text.hexPadded 'a' 4 n).toList ++ w) = some (n, w) := by
  have hdigits : (Text.hexPadded 'a' 4 n).toList =
      [Text.hexDigit 'a' (n / 4096 % 16), Text.hexDigit 'a' (n / 256 % 16),
        Text.hexDigit 'a' (n / 16 % 16), Text.hexDigit 'a' (n / 1 % 16)] := String.toList_ofList
  have hsum : 16 * (16 * (16 * (16 * 0 + n / 4096 % 16) + n / 256 % 16) + n / 16 % 16) +
      n / 1 % 16 = n := by omega
  have hdigit : ∀ m : Nat, Text.digit? 16 (Text.hexDigit 'a' (m % 16)) = some (m % 16) :=
    fun m => digit?_hexDigit (Nat.mod_lt m (by decide))
  rw [hdigits]
  simp only [List.cons_append, List.nil_append, codeUnit?, Text.natOfDigits?, List.isEmpty_cons,
    Bool.false_eq_true, if_false, Text.addDigits?, hdigit, hsum, Option.map_some]

theorem rune?_control {c : Char} (hc : c.toNat < 0x20) (w : List Char) :
    rune? (("\\u" ++ Text.hexPadded 'a' 4 c.toNat).toList ++ w) = some (c, w) := by
  have hcode := codeUnit?_hexPadded (Nat.lt_trans hc (by decide)) w
  have hlow : (decide (c.toNat < 0xD800) || decide (0xDFFF < c.toNat)) = true := by
    rw [decide_eq_true (Nat.lt_trans hc (by decide)), Bool.true_or]
  rw [String.toList_append]
  show unicode? ((Text.hexPadded 'a' 4 c.toNat).toList ++ w) = some (c, w)
  rw [unicode?, hcode]
  simp only [hlow, if_true, Char.ofNat_toNat]

theorem rune?_cons {c : Char} (hquote : c ≠ '"') (hslash : c ≠ '\\') (hc : ¬ c.toNat < 0x20)
    (w : List Char) : rune? (c :: w) = some (c, w) := by
  unfold rune?
  split
  · next heq => cases heq
  · next heq => exact absurd (List.cons.inj heq).1 hquote
  · next heq => exact absurd (List.cons.inj heq).1 hslash
  · next heq =>
    obtain ⟨rfl, rfl⟩ := List.cons.inj heq
    rw [if_neg hc]

/-- `rune?` reads what `escape` writes of a rune as that rune. -/
theorem rune?_escape (c : Char) (w : List Char) : rune? ((escape c).toList ++ w) = some (c, w) := by
  unfold escape
  split
  case h_8 hquote hslash _ _ _ _ _ =>
    split
    · next hc => exact rune?_control hc w
    · next hc =>
      have hrune : c.toString.toList = [c] := String.toList_singleton c
      rw [hrune]
      exact rune?_cons hquote hslash hc w
  all_goals rfl

theorem string?_of_rune? {runes rest : List Char} {c : Char} (h : rune? runes = some (c, rest)) :
    string? runes = (string? rest).map fun x => (c :: x.1, x.2) := by
  rw [string?.eq_def]
  split
  · cases h
  · split
    · next hnone =>
      rw [h] at hnone
      cases hnone
    · next hsome =>
      rw [h] at hsome
      cases hsome
      rfl

/-- The runes of a string as they stand between the quotes. -/
def escapeAll (value : List Char) : List Char := value.flatMap fun c => (escape c).toList

/-- `string?` reads the runes back from `escapeAll`, up to the quote. -/
theorem string?_escapeAll (value w : List Char) :
    string? (escapeAll value ++ '"' :: w) = some (value, w) := by
  induction value with
  | nil =>
    rw [escapeAll, List.flatMap_nil, List.nil_append, string?.eq_def]
    rfl
  | cons c value ih =>
    rw [escapeAll, List.flatMap_cons, List.append_assoc, string?_of_rune? (rune?_escape c _)]
    rw [escapeAll] at ih
    rw [ih, Option.map_some]

theorem toList_quote (text : String) :
    (quote text).toList = '"' :: (escapeAll text.toList ++ ['"']) := by
  rw [quote, String.toList_push, String.foldl_eq_foldl_toList, Text.toList_foldl_append]
  rfl

/-! ## Numbers -/

theorem isDigit_of_mem_toDigits {n : Nat} {c : Char} (hc : c ∈ Nat.toDigits 10 n) :
    c.isDigit = true :=
  Nat.isDigit_of_mem_toDigits (by decide) (by decide) hc

theorem head?_toDigits {n : Nat} (hn : 0 < n) : (Nat.toDigits 10 n).head? ≠ some '0' := by
  induction n using Nat.strongRecOn with
  | ind n ih =>
    rcases Nat.lt_or_ge n 10 with hlt | hge
    · rw [Nat.toDigits_of_lt_base hlt]
      intro h
      exact Nat.ne_of_gt hn (Nat.digitChar_eq_zero.mp (Option.some.inj h))
    · have hhead := ih (n / 10) (Nat.div_lt_self hn (by decide)) (Nat.div_pos hge (by decide))
      rw [Nat.toDigits_of_base_le (by decide) hge, List.head?_append, Ne, Option.or_eq_some_iff]
      rintro (h | ⟨h, -⟩)
      · exact hhead h
      · exact Nat.toDigits_ne_nil (List.head?_eq_none_iff.mp h)

theorem numeral?_toDigits (n : Nat) : numeral? (Nat.toDigits 10 n) = some n := by
  have hvalue : Nat.ofDigitChars 10 (Nat.toDigits 10 n) 0 = n := Nat.ofDigitChars_ten_toDigits
  unfold numeral?
  split
  · next h => exact absurd h Nat.toDigits_ne_nil
  · next h =>
    -- More than one digit, so the number is not zero.
    rcases Nat.eq_zero_or_pos n with rfl | hpos
    · rw [Nat.toDigits_zero] at h
      cases h
    · exact absurd (congrArg List.head? h) (head?_toDigits hpos)
  · rw [hvalue]

/-- Text at which a number ends. -/
def Ends (w : List Char) : Prop := ∀ c ∈ w.head?, c.isDigit = false

theorem Ends.runs {w : List Char} (h : Ends w) :
    w.takeWhile Char.isDigit = [] ∧ w.dropWhile Char.isDigit = w := by
  cases w with
  | nil => exact ⟨rfl, rfl⟩
  | cons c w => simp [h c rfl]

theorem symbol?_of_isDigit {c : Char} (hc : c.isDigit = true) (w : List Char) :
    symbol? (c :: w) = (numeral? ((c :: w).takeWhile Char.isDigit)).map fun n =>
      (.number n, (c :: w).dropWhile Char.isDigit) := by
  unfold symbol?
  split
  case h_8 => rfl
  all_goals
    next heq =>
      obtain ⟨rfl, -⟩ := List.cons.inj heq
      cases hc

/-- `symbol?` reads a number to the end of its digits. -/
theorem symbol?_toDigits (n : Nat) {w : List Char} (hw : Ends w) :
    symbol? (Nat.toDigits 10 n ++ w) = some (.number n, w) := by
  have hdigits : ∀ c ∈ Nat.toDigits 10 n, c.isDigit = true := fun _ => isDigit_of_mem_toDigits
  obtain ⟨htake, hdrop⟩ := hw.runs
  obtain ⟨c, v, hcons⟩ := List.exists_cons_of_ne_nil (Nat.toDigits_ne_nil (n := n) (b := 10))
  have hc := hdigits c (by rw [hcons]; exact List.mem_cons_self)
  have hsymbol := symbol?_of_isDigit hc (v ++ w)
  rw [← List.cons_append, ← hcons, List.takeWhile_append_of_pos hdigits,
    List.dropWhile_append_of_pos hdigits, htake, hdrop, List.append_nil,
    numeral?_toDigits] at hsymbol
  exact hsymbol

theorem isBlank_of_isDigit {c : Char} (hc : c.isDigit = true) : isBlank c = false := by
  have hne : ∀ blank : Char, blank.isDigit = false → (c == blank) = false := by
    intro blank hblank
    refine beq_eq_false_iff_ne.mpr ?_
    rintro rfl
    rw [hc] at hblank
    cases hblank
  rw [isBlank, hne ' ' rfl, hne '\t' rfl, hne '\n' rfl, hne '\r' rfl]
  rfl

/-! ## Pieces of a text -/

/-- Before `rest`, the piece `w` is read as `symbols`. -/
def Reads (rest w : List Char) (symbols : List Symbol) : Prop :=
  symbols? (w ++ rest) = (symbols? rest).map (symbols ++ ·)

namespace Reads

variable {rest w v : List Char} {symbols others : List Symbol}

theorem nil (rest : List Char) : Reads rest [] [] := Option.map_id'.symm

theorem append (h : Reads (v ++ rest) w symbols) (h' : Reads rest v others) :
    Reads rest (w ++ v) (symbols ++ others) := by
  rw [Reads, List.append_assoc, h, h', Option.map_map]
  congr 1
  funext x
  exact (List.append_assoc symbols others x).symm

/-- A piece without blanks that is one symbol. -/
theorem symbol {c : Char} {s : Symbol} (hc : isBlank c = false)
    (h : symbol? (c :: w ++ rest) = some (s, rest)) : Reads rest (c :: w) [s] := by
  rw [Reads, List.cons_append, symbols?, if_neg (by rw [hc]; exact Bool.false_ne_true)]
  split
  · next hnone =>
    rw [List.cons_append, hnone] at h
    cases h
  · next hsome =>
    rw [List.cons_append, hsome] at h
    cases h
    rfl

theorem blanks (hw : ∀ c ∈ w, isBlank c = true) (rest : List Char) : Reads rest w [] := by
  refine Eq.trans ?_ Option.map_id'.symm
  induction w with
  | nil => rfl
  | cons c w ih =>
    obtain ⟨hc, hw⟩ := List.forall_mem_cons.mp hw
    rw [List.cons_append, symbols?, if_pos hc, ih hw]

theorem text (value : String) (rest : List Char) :
    Reads rest ('"' :: (escapeAll value.toList ++ ['"'])) [.text value] := by
  refine symbol (by decide) ?_
  have hstring := string?_escapeAll value.toList rest
  rw [List.cons_append, List.append_assoc, List.singleton_append, symbol?, hstring, Option.map_some,
    String.ofList_toList]

theorem number (n : Nat) {rest : List Char} (hrest : Ends rest) :
    Reads rest (Nat.toDigits 10 n) [.number n] := by
  have hsymbol := symbol?_toDigits n hrest
  cases hdigits : Nat.toDigits 10 n with
  | nil => exact absurd hdigits Nat.toDigits_ne_nil
  | cons c v =>
    have hc : c ∈ Nat.toDigits 10 n := by
      rw [hdigits]
      exact List.mem_cons_self
    rw [hdigits] at hsymbol
    exact symbol (isBlank_of_isDigit (isDigit_of_mem_toDigits hc)) hsymbol

end Reads

/-! ## What the printer writes -/

/-- The start of a line at some `level`, after a comma unless it is the first. -/
def lineStart (first : Bool) (level : Nat) : List Char :=
  (if first then [] else [',']) ++ '\n' :: List.replicate (2 * level) ' '

/-- What stands before the bracket that closes a list or a record, which is a line of its own unless
nothing is in there. -/
def lineEnd (empty : Bool) (level : Nat) : List Char := if empty then [] else lineStart true level

mutual

/-- A document as `pretty` writes it at some `level`. -/
def written (level : Nat) : Document → List Char
  | .text value => '"' :: (escapeAll value.toList ++ ['"'])
  | .number value => Nat.toDigits 10 value
  | .list items =>
    '[' :: (writtenItems (level + 1) true items ++ (lineEnd items.isEmpty level ++ [']']))
  | .record fields =>
    '\x7b' :: (writtenFields (level + 1) true fields ++ (lineEnd fields.isEmpty level ++ ['\x7d']))

/-- The items of a list, each on a line. -/
def writtenItems (level : Nat) (first : Bool) : List Document → List Char
  | [] => []
  | item :: items => lineStart first level ++ (written level item ++ writtenItems level false items)

/-- The fields of a record, each on a line. -/
def writtenFields (level : Nat) (first : Bool) : List (String × Document) → List Char
  | [] => []
  | (name, value) :: fields =>
    lineStart first level ++ ('"' :: (escapeAll name.toList ++ ['"']) ++
      (':' :: ' ' :: (written level value ++ writtenFields level false fields)))

end

theorem toList_newLine (out : String) (first : Bool) (level : Nat) :
    (newLine out first level).toList = out.toList ++ lineStart first level := by
  have hpushn : ∀ (n : Nat) (out : String),
      (out.pushn ' ' n).toList = out.toList ++ List.replicate n ' ' := by
    intro n out
    induction n with
    | zero => simp [String.pushn_eq_repeat_push, Nat.repeat]
    | succ n ih =>
      rw [String.pushn_eq_repeat_push] at ih ⊢
      rw [Nat.repeat, String.toList_push, ih, List.append_assoc, ← List.replicate_succ']
  rw [newLine, hpushn, lineStart]
  cases first <;> simp

mutual

theorem toList_addPretty (level : Nat) (out : String) : ∀ d : Document,
    (addPretty level out d).toList = out.toList ++ written level d
  | .text value => by rw [addPretty, String.toList_append, toList_quote, written]
  | .number value => by
    rw [addPretty, String.toList_append, written]
    exact congrArg (out.toList ++ ·) Nat.toList_repr
  | .list [] => by
    rw [addPretty, String.toList_append, written, writtenItems]
    rfl
  | .list (item :: items) => by
    simp only [addPretty, String.toList_push, toList_newLine, toList_addPrettyItems, written,
      lineEnd, List.isEmpty_cons, Bool.false_eq_true, if_false, List.append_assoc]
    rfl
  | .record [] => by
    rw [addPretty, String.toList_append, written, writtenFields]
    rfl
  | .record (field :: fields) => by
    simp only [addPretty, String.toList_append, toList_newLine, toList_addPrettyFields, written,
      lineEnd, List.isEmpty_cons, Bool.false_eq_true, if_false, List.append_assoc]
    rfl

theorem toList_addPrettyItems (level : Nat) (out : String) (first : Bool) : ∀ items : List Document,
    (addPrettyItems level out first items).toList = out.toList ++ writtenItems level first items
  | [] => by rw [addPrettyItems, writtenItems, List.append_nil]
  | item :: items => by
    rw [addPrettyItems, toList_addPrettyItems, toList_addPretty, toList_newLine, writtenItems]
    simp only [List.append_assoc]

theorem toList_addPrettyFields (level : Nat) (out : String) (first : Bool) :
    ∀ fields : List (String × Document),
    (addPrettyFields level out first fields).toList = out.toList ++ writtenFields level first fields
  | [] => by rw [addPrettyFields, writtenFields, List.append_nil]
  | (name, value) :: fields => by
    rw [addPrettyFields, toList_addPrettyFields, toList_addPretty, String.toList_append,
      String.toList_append, toList_quote, toList_newLine, writtenFields]
    simp

end

/-! ## Documents as symbols -/

/-- The comma before all items and fields but the first. -/
def separator (first : Bool) : List Symbol := if first then [] else [.comma]

mutual

/-- The symbols of a document. -/
def symbolsOf : Document → List Symbol
  | .text value => [.text value]
  | .number value => [.number value]
  | .list items => .openList :: (itemSymbols true items ++ [.closeList])
  | .record fields => .openRecord :: (fieldSymbols true fields ++ [.closeRecord])

/-- The symbols of the items of a list. -/
def itemSymbols (first : Bool) : List Document → List Symbol
  | [] => []
  | item :: items => separator first ++ (symbolsOf item ++ itemSymbols false items)

/-- The symbols of the fields of a record. -/
def fieldSymbols (first : Bool) : List (String × Document) → List Symbol
  | [] => []
  | (name, value) :: fields =>
    separator first ++ (.text name :: .colon :: (symbolsOf value ++ fieldSymbols false fields))

end

theorem Reads.lineStart (first : Bool) (level : Nat) (rest : List Char) :
    Reads rest (lineStart first level) (separator first) := by
  have hblanks : Reads rest ('\n' :: List.replicate (2 * level) ' ') [] := by
    refine .blanks (fun c hc => ?_) rest
    rcases List.mem_cons.mp hc with rfl | hc
    · rfl
    · rw [List.eq_of_mem_replicate hc]
      rfl
  cases first with
  | true => exact hblanks
  | false => exact (Reads.symbol (w := []) rfl rfl).append hblanks

theorem Reads.lineEnd (empty : Bool) (level : Nat) {bracket : Char} {s : Symbol} {rest : List Char}
    (hb : isBlank bracket = false) (h : symbol? (bracket :: rest) = some (s, rest)) :
    Reads rest (lineEnd empty level ++ [bracket]) [s] := by
  have hbracket : Reads rest [bracket] [s] := .symbol hb h
  cases empty with
  | true => exact hbracket
  | false => exact (Reads.lineStart true level _).append hbracket

theorem ends_lineStart (first : Bool) (level : Nat) (rest : List Char) :
    Ends (lineStart first level ++ rest) := by
  intro c hc
  cases first <;> cases hc <;> rfl

/-- No bracket goes on with a number, and no line does. -/
theorem ends_lineEnd (empty : Bool) (level : Nat) {bracket : Char} (hb : bracket.isDigit = false)
    (rest : List Char) : Ends (lineEnd empty level ++ [bracket] ++ rest) := by
  rw [List.append_assoc]
  cases empty with
  | true =>
    intro c hc
    cases hc
    exact hb
  | false => exact ends_lineStart true level _

theorem ends_writtenItems (level : Nat) (first : Bool) (items : List Document) {rest : List Char}
    (hrest : Ends rest) : Ends (writtenItems level first items ++ rest) := by
  cases items with
  | nil => exact hrest
  | cons item items =>
    rw [writtenItems, List.append_assoc]
    exact ends_lineStart first level _

theorem ends_writtenFields (level : Nat) (first : Bool) (fields : List (String × Document))
    {rest : List Char} (hrest : Ends rest) : Ends (writtenFields level first fields ++ rest) := by
  cases fields with
  | nil => exact hrest
  | cons field fields =>
    rw [writtenFields, List.append_assoc]
    exact ends_lineStart first level _

mutual

/-- What is `written` of `d` is read as `symbolsOf d`, with blanks between them. -/
theorem reads_written (level : Nat) : ∀ (d : Document) {rest : List Char}, Ends rest →
    Reads rest (written level d) (symbolsOf d)
  | .text value, rest, _ => by
    rw [written, symbolsOf]
    exact .text value rest
  | .number value, rest, hrest => by
    rw [written, symbolsOf]
    exact .number value hrest
  | .list items, rest, _ => by
    rw [written, symbolsOf]
    -- The last item may be a number, which ends where the line of the bracket starts.
    have hitems := reads_writtenItems (level + 1) true items (ends_lineEnd items.isEmpty level
      (rfl : (']').isDigit = false) rest)
    have hend : Reads rest (lineEnd items.isEmpty level ++ [']']) [.closeList] :=
      .lineEnd items.isEmpty level rfl rfl
    exact (Reads.symbol (w := []) rfl rfl).append (hitems.append hend)
  | .record fields, rest, _ => by
    rw [written, symbolsOf]
    have hfields := reads_writtenFields (level + 1) true fields (ends_lineEnd fields.isEmpty level
      (rfl : ('\x7d').isDigit = false) rest)
    have hend : Reads rest (lineEnd fields.isEmpty level ++ ['\x7d']) [.closeRecord] :=
      .lineEnd fields.isEmpty level rfl rfl
    exact (Reads.symbol (w := []) rfl rfl).append (hfields.append hend)

theorem reads_writtenItems (level : Nat) (first : Bool) :
    ∀ (items : List Document) {rest : List Char}, Ends rest →
    Reads rest (writtenItems level first items) (itemSymbols first items)
  | [], rest, _ => by
    rw [writtenItems, itemSymbols]
    exact .nil rest
  | item :: items, rest, hrest => by
    rw [writtenItems, itemSymbols]
    have hitem := reads_written level item (ends_writtenItems level false items hrest)
    have hitems := reads_writtenItems level false items hrest
    exact (Reads.lineStart first level _).append (hitem.append hitems)

theorem reads_writtenFields (level : Nat) (first : Bool) :
    ∀ (fields : List (String × Document)) {rest : List Char}, Ends rest →
    Reads rest (writtenFields level first fields) (fieldSymbols first fields)
  | [], rest, _ => by
    rw [writtenFields, fieldSymbols]
    exact .nil rest
  | (name, value) :: fields, rest, hrest => by
    rw [writtenFields, fieldSymbols]
    have hvalue := reads_written level value (ends_writtenFields level false fields hrest)
    have hfields := reads_writtenFields level false fields hrest
    have hspace : ∀ rest : List Char, Reads rest [' '] [] :=
      .blanks (List.forall_mem_singleton.mpr rfl)
    have hcolon : ∀ rest : List Char, Reads rest [':'] [.colon] := fun _ => .symbol rfl rfl
    exact (Reads.lineStart first level _).append ((Reads.text name _).append
      ((hcolon _).append ((hspace _).append (hvalue.append hfields))))

end

/-! ## Symbols of documents -/

/-- Behind its bracket, what starts with a value is a list of at least one item. -/
theorem value?_openList (stack : List Frame) (d : Document) (rest : List Symbol) :
    value? stack (.openList :: (symbolsOf d ++ rest)) =
      value? (.list [] :: stack) (symbolsOf d ++ rest) := by
  cases d <;> rw [symbolsOf] <;> rfl

mutual

/-- `value?` reads `symbolsOf d` as `d`, whatever is open around it. -/
theorem value?_symbols : ∀ (d : Document) (stack : List Frame) (rest : List Symbol),
    value? stack (symbolsOf d ++ rest) = after? stack d rest
  | .text value, stack, rest => by
    rw [symbolsOf]
    rfl
  | .number value, stack, rest => by
    rw [symbolsOf]
    rfl
  | .list [], stack, rest => by
    rw [symbolsOf, itemSymbols]
    rfl
  | .list (item :: items), stack, rest => by
    have hsymbols : symbolsOf (.list (item :: items)) ++ rest =
        .openList :: (symbolsOf item ++ (itemSymbols false items ++ .closeList :: rest)) := by
      rw [symbolsOf, itemSymbols]
      simp [separator]
    -- The first item is read inside a frame for the list, to which the others are added.
    rw [hsymbols, value?_openList, value?_symbols, after?_items, List.nil_append]
  | .record [], stack, rest => by
    rw [symbolsOf, fieldSymbols]
    rfl
  | .record ((name, value) :: fields), stack, rest => by
    have hsymbols : symbolsOf (.record ((name, value) :: fields)) ++ rest =
        .openRecord :: .text name :: .colon ::
          (symbolsOf value ++ (fieldSymbols false fields ++ .closeRecord :: rest)) := by
      rw [symbolsOf, fieldSymbols]
      simp [separator]
    rw [hsymbols, value?, value?_symbols, after?_fields, List.nil_append]

theorem after?_items : ∀ (items done : List Document) (value : Document) (stack : List Frame)
    (rest : List Symbol),
    after? (.list done :: stack) value (itemSymbols false items ++ .closeList :: rest) =
      after? stack (.list (done ++ value :: items)) rest
  | [], done, value, stack, rest => by
    rw [itemSymbols]
    rfl
  | item :: items, done, value, stack, rest => by
    have hsymbols : itemSymbols false (item :: items) ++ .closeList :: rest =
        .comma :: (symbolsOf item ++ (itemSymbols false items ++ .closeList :: rest)) := by
      rw [itemSymbols]
      simp [separator]
    rw [hsymbols, after?, value?_symbols, after?_items, List.append_assoc, List.singleton_append]

theorem after?_fields : ∀ (fields done : List (String × Document)) (name : String)
    (value : Document) (stack : List Frame) (rest : List Symbol),
    after? (.record done name :: stack) value (fieldSymbols false fields ++ .closeRecord :: rest) =
      after? stack (.record (done ++ (name, value) :: fields)) rest
  | [], done, name, value, stack, rest => by
    rw [fieldSymbols]
    rfl
  | (next, d) :: fields, done, name, value, stack, rest => by
    have hsymbols : fieldSymbols false ((next, d) :: fields) ++ .closeRecord :: rest =
        .comma :: .text next :: .colon ::
          (symbolsOf d ++ (fieldSymbols false fields ++ .closeRecord :: rest)) := by
      rw [fieldSymbols]
      simp [separator]
    rw [hsymbols, after?, value?_symbols, after?_fields, List.append_assoc, List.singleton_append]

end

/-- `read?` reads every document back from what `pretty` writes. -/
theorem read?_pretty (d : Document) : read? (pretty d) = some d := by
  have htext : (pretty d).toList = written 0 d := by
    rw [pretty, toList_addPretty]
    rfl
  have hends : Ends [] := fun _ hc => nomatch hc
  have hsymbols : symbols? (written 0 d ++ []) = (symbols? []).map (symbolsOf d ++ ·) :=
    reads_written 0 d hends
  rw [List.append_nil, symbols?, Option.map_some] at hsymbols
  rw [read?, htext, hsymbols, Option.bind_some, value?_symbols]
  rfl

end LexTree.Format.Json
