/-!
# Backtracking rune readers

A reader stands at an offset of a fixed text and keeps a stack of marks, the
offsets it may go back to.

- `Reader.read` returns the rune at the offset and steps over it; at the end of
  the input it returns `Reader.replacement` and stays.
- `Reader.mark` remembers the offset, `Reader.rewind` goes back to the latest
  mark and `Reader.commit` forgets it. With no marks both do nothing.
- `Reader.read_offset_lt` bounds every loop that reads until the end.
-/

namespace LexTree

/-- A place in a text, and the places to go back to, latest first. -/
structure Reader where
  runes : Array Char
  offset : Nat
  marks : List Nat
deriving DecidableEq, Repr, Inhabited

namespace Reader

/-- The rune read once the input is exhausted. -/
def replacement : Char := '\uFFFD'

/-- A reader at the start of `source`, without marks. -/
def ofString (source : String) : Reader := ⟨source.toList.toArray, 0, []⟩

/-- A reader over the text that `bytes` encode, if they are well-formed UTF-8. -/
def ofUtf8? (bytes : ByteArray) : Option Reader := (String.fromUTF8? bytes).map ofString

/-- Number of runes in the text. -/
def size (r : Reader) : Nat := r.runes.size

def isEmpty (r : Reader) : Bool := r.runes.isEmpty

/-- Number of runes from the offset to the end of the text. -/
def remaining (r : Reader) : Nat := r.size - r.offset

/-- Whether the offset has reached the end of the text. -/
def atEnd (r : Reader) : Bool := decide (r.size ≤ r.offset)

/-- The rune at the offset, or `replacement` at the end. -/
def peek (r : Reader) : Char := (r.runes[r.offset]?).getD replacement

/-- The rune at the offset and the reader past it; at the end, `replacement`
and the reader as it was. -/
def read (r : Reader) : Char × Reader :=
  match r.runes[r.offset]? with
  | some rune => (rune, { r with offset := r.offset + 1 })
  | none => (replacement, r)

/-- Pushes the offset onto the marks and returns it. -/
def mark (r : Reader) : Nat × Reader := (r.offset, { r with marks := r.offset :: r.marks })

/-- Takes the latest mark off and goes back to it. -/
def rewind (r : Reader) : Reader :=
  match r.marks with
  | [] => r
  | mark :: marks => { r with offset := mark, marks }

/-- Takes the latest mark off and stays. -/
def commit (r : Reader) : Reader := { r with marks := r.marks.tail }

/-! ## What a read leaves -/

theorem read_fst (r : Reader) : r.read.1 = r.peek := by
  unfold read peek
  cases r.runes[r.offset]? <;> rfl

theorem read_snd_of_lt {r : Reader} (h : r.offset < r.size) :
    r.read.2 = { r with offset := r.offset + 1 } := by
  have h' : r.offset < r.runes.size := h
  simp [read, h']

theorem atEnd_eq_false_iff {r : Reader} : r.atEnd = false ↔ r.offset < r.size := by
  simp [atEnd]

/-- Reading before the end leaves fewer runes to read. -/
theorem read_remaining_lt {r : Reader} (h : ¬ r.atEnd = true) :
    r.read.2.remaining < r.remaining := by
  have h : r.offset < r.size := atEnd_eq_false_iff.1 (by simpa using h)
  rw [read_snd_of_lt h]
  simp only [remaining, size] at h ⊢
  omega

/-! ## Runs of runes -/

/-- Adds to `value` the runes up to the first that `accepts` refuses, which is
not read, or to the end. -/
def readWhile (accepts : Char → Bool) (value : String) (r : Reader) : String × Reader :=
  if _ : r.atEnd then (value, r)
  else if accepts r.peek then readWhile accepts (value.push r.read.1) r.read.2
  else (value, r)
termination_by r.remaining
decreasing_by exact read_remaining_lt ‹_›

/-- Adds to `value` all runes up to the end. -/
def readToEnd (value : String) (r : Reader) : String × Reader :=
  readWhile (fun _ => true) value r

end Reader

end LexTree
