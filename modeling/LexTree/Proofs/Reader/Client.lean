import LexTree.Consumer

/-!
# Clients of a reader

A client knows a reader by its calls alone: what it does next depends on the
answers to its calls so far, and on nothing else of the reader. It is written as
a program of calls with jumps, and a run of it on a reader is a finite sequence
of calls that ends in a result.

- `Prog.Run.atop`: a run that takes off no mark but those it has set is the same
  run over any other marks, which stay below its own.
- `Prog.Run.within`: it never gets behind its start, and neither do its marks.
- `Consumer.Respectful` and `Consumer.Balanced` are the consumers with such
  programs; the second kind leaves no marks behind.
- `Consumer.Respectful.atop`, `Consumer.Respectful.within` and
  `Consumer.Balanced.atop` say what one attempt of such a consumer does.
-/

namespace LexTree

/-- A call of a reader's interface. -/
inductive Call where
  | mark
  | offset
  | read
  | peek
  | rewind
  | commit
  | atEnd
deriving DecidableEq, Repr

namespace Call

/-- What a call answers. -/
abbrev Answer : Call → Type
  | mark | offset => Nat
  | read | peek => Char
  | rewind | commit => Unit
  | atEnd => Bool

/-- Whether a call takes a mark off. -/
def pops : Call → Bool
  | rewind | commit => true
  | mark | offset | read | peek | atEnd => false

end Call

namespace Reader

/-- The answer of `r` to a call, and the reader after it. -/
def perform (r : Reader) : (c : Call) → c.Answer × Reader
  | .mark => r.mark
  | .offset => (r.offset, r)
  | .read => r.read
  | .peek => (r.peek, r)
  | .rewind => ((), r.rewind)
  | .commit => ((), r.commit)
  | .atEnd => (r.atEnd, r)

/-- The reader `r` with the marks `below` under its own. -/
def atop (r : Reader) (below : List Nat) : Reader := { r with marks := r.marks ++ below }

@[simp] theorem atop_runes (r : Reader) (below : List Nat) : (r.atop below).runes = r.runes := rfl
@[simp] theorem atop_offset (r : Reader) (below : List Nat) :
    (r.atop below).offset = r.offset := rfl
@[simp] theorem atop_marks (r : Reader) (below : List Nat) :
    (r.atop below).marks = r.marks ++ below := rfl
@[simp] theorem atop_size (r : Reader) (below : List Nat) : (r.atop below).size = r.size := rfl

theorem atop_nil (r : Reader) : r.atop [] = r := by simp [atop]

/-- `read` does not look at the marks. -/
theorem read_atop (r : Reader) (below : List Nat) :
    (r.atop below).read = (r.read.1, r.read.2.atop below) := by
  unfold read
  simp only [atop_runes, atop_offset]
  cases r.runes[r.offset]? <;> rfl

/-- A call that takes no mark off, or finds one of its own, does not see the marks `below`. -/
theorem perform_atop {r : Reader} {c : Call} (h : c.pops = true → r.marks ≠ [])
    (below : List Nat) :
    (r.atop below).perform c = ((r.perform c).1, (r.perform c).2.atop below) := by
  obtain ⟨runes, offset, marks⟩ := r
  cases c with
  | mark | offset | peek | atEnd => rfl
  | read => exact read_atop _ below
  | rewind | commit =>
    cases marks with
    | nil => exact absurd rfl (h rfl)
    | cons mark marks => rfl

/-- The offset and the marks lie between `start` and the end of the text. -/
structure Within (start : Nat) (r : Reader) : Prop where
  start_le : start ≤ r.offset
  le_size : r.offset ≤ r.size
  marks : ∀ m ∈ r.marks, start ≤ m ∧ m ≤ r.size

/-- `read` takes the offset one place on, unless the text has ended. -/
theorem read_snd (r : Reader) :
    r.read.2 = if r.offset < r.size then { r with offset := r.offset + 1 } else r := by
  split
  · next h => exact read_snd_of_lt h
  · next h =>
    have : ¬ r.offset < r.runes.size := h
    simp [read, this]

theorem perform_runes (r : Reader) (c : Call) : (r.perform c).2.runes = r.runes := by
  cases c with
  | mark | offset | peek | commit | atEnd => rfl
  | read => simp only [perform, read_snd]; split <;> rfl
  | rewind => simp only [perform, rewind]; split <;> rfl

theorem Within.perform {start : Nat} {r : Reader} (h : r.Within start) (c : Call) :
    (r.perform c).2.Within start := by
  cases c with
  | offset | peek | atEnd => exact h
  | mark =>
    refine ⟨h.start_le, h.le_size, fun m hm => ?_⟩
    rcases List.mem_cons.mp hm with rfl | hm
    · exact ⟨h.start_le, h.le_size⟩
    · exact h.marks m hm
  | read =>
    simp only [Reader.perform, read_snd]
    split
    · next hlt => exact ⟨Nat.le_succ_of_le h.start_le, hlt, h.marks⟩
    · exact h
  | rewind =>
    simp only [Reader.perform, rewind]
    split
    · exact h
    · next mark marks hm =>
      obtain ⟨h₁, h₂⟩ := h.marks mark (by simp [hm])
      exact ⟨h₁, h₂, fun m hmem => h.marks m (by simp [hm, hmem])⟩
  | commit => exact ⟨h.start_le, h.le_size, fun m hm => h.marks m (List.mem_of_mem_tail hm)⟩

end Reader

/-! ## Programs of calls -/

/-- A program of calls on a reader. A loop is a jump to a label, which stands for a block of the
program. -/
inductive Prog (σ α : Type) where
  | finish (result : α)
  | goto (label : σ)
  | call (c : Call) (next : c.Answer → Prog σ α)

namespace Prog

variable {σ α β : Type} {blocks : σ → Prog σ α}

/-- `Run blocks base p r a r'`: on `r` the program `p` ends with the result `a` and leaves `r'`.
No call takes off any of the `base` lowest marks. -/
inductive Run (blocks : σ → Prog σ α) (base : Nat) : Prog σ α → Reader → α → Reader → Prop where
  | finish {a r} : Run blocks base (.finish a) r a r
  | goto {label r a r'} : Run blocks base (blocks label) r a r' →
      Run blocks base (.goto label) r a r'
  | call {c next r a r'} : (c.pops = true → base < r.marks.length) →
      Run blocks base (next (r.perform c).1) (r.perform c).2 a r' →
      Run blocks base (.call c next) r a r'

section
variable {base : Nat} {r r' : Reader} {a : α}

theorem Run.atEnd {next : Bool → Prog σ α} (h : Run blocks base (next r.atEnd) r a r') :
    Run blocks base (.call .atEnd next) r a r' :=
  .call (by simp [Call.pops]) h

theorem Run.peek {next : Char → Prog σ α} (h : Run blocks base (next r.peek) r a r') :
    Run blocks base (.call .peek next) r a r' :=
  .call (by simp [Call.pops]) h

theorem Run.read {next : Char → Prog σ α} (h : Run blocks base (next r.read.1) r.read.2 a r') :
    Run blocks base (.call .read next) r a r' :=
  .call (by simp [Call.pops]) h

end

/-- What a program does is settled by the reader `r` that it is given. -/
theorem Run.det {base : Nat} {p : Prog σ α} {r r₁ r₂ : Reader} {a₁ a₂ : α}
    (h₁ : Run blocks base p r a₁ r₁) (h₂ : Run blocks base p r a₂ r₂) : a₁ = a₂ ∧ r₁ = r₂ := by
  induction h₁ with
  | finish => cases h₂; exact ⟨rfl, rfl⟩
  | goto _ ih =>
    cases h₂ with
    | goto h₂ => exact ih h₂
  | call _ _ ih =>
    cases h₂ with
    | call _ h₂ => exact ih h₂

/-- The marks that a run started with are below its own at every moment, so that it does the same
`atop` any others. -/
theorem Run.atop {base : Nat} {p : Prog σ α} {r r' : Reader} {a : α}
    (h : Run blocks base p r a r') {s : Reader} {below : List Nat} (hr : r = s.atop below)
    (hb : base = below.length) :
    ∃ s' : Reader, r' = s'.atop below ∧
      ∀ other, Run blocks other.length p (s.atop other) a (s'.atop other) := by
  induction h generalizing s with
  | finish => exact ⟨s, hr, fun _ => .finish⟩
  | goto _ ih =>
    obtain ⟨s', hs', ih⟩ := ih hr
    exact ⟨s', hs', fun other => .goto (ih other)⟩
  | @call c next r a r' hpop _ ih =>
    have hown : c.pops = true → s.marks ≠ [] := by
      intro hc hnil
      have := hpop hc
      rw [hr, Reader.atop_marks, hnil, hb] at this
      exact absurd this (by simp)
    have hc := Reader.perform_atop hown
    obtain ⟨s', hs', ih⟩ := ih (s := (s.perform c).2) (by rw [hr, hc])
    refine ⟨s', hs', fun other => .call (fun hp => ?_) ?_⟩
    · have := List.length_pos_iff.mpr (hown hp)
      rw [Reader.atop_marks, List.length_append]
      omega
    · have := ih other
      rw [hr, hc] at this
      rw [hc]
      exact this

theorem Run.runes {base : Nat} {p : Prog σ α} {r r' : Reader} {a : α}
    (h : Run blocks base p r a r') : r'.runes = r.runes := by
  induction h with
  | finish => rfl
  | goto _ ih => exact ih
  | call _ _ ih => rw [ih, Reader.perform_runes]

theorem Run.within {base start : Nat} {p : Prog σ α} {r r' : Reader} {a : α}
    (h : Run blocks base p r a r') (hr : r.Within start) : r'.Within start := by
  induction h with
  | finish => exact hr
  | goto _ ih => exact ih hr
  | call _ _ ih => exact ih (hr.perform _)

/-- The program with `f` of its result. -/
def map (f : α → β) : Prog σ α → Prog σ β
  | .finish a => .finish (f a)
  | .goto label => .goto label
  | .call c next => .call c fun answer => (next answer).map f

theorem Run.map {base : Nat} {p : Prog σ α} {r r' : Reader} {a : α} (f : α → β)
    (h : Run blocks base p r a r') :
    Run (fun label => (blocks label).map f) base (p.map f) r (f a) r' := by
  induction h with
  | finish => exact .finish
  | goto _ ih => exact .goto ih
  | call hpop _ ih => exact .call hpop ih

end Prog

/-! ## Consumers that are clients -/

namespace Consumer

/-- A consumer that is a program of calls, ends wherever it is asked, and never takes off a mark
that it has not set. -/
def Respectful (c : Consumer) : Prop :=
  ∃ (σ : Type) (blocks : σ → Prog σ (Option Token)) (start : Prog σ (Option Token)),
    ∀ r : Reader, r.offset ≤ r.size → Prog.Run blocks r.marks.length start r (c r).1 (c r).2

/-- A `Respectful` consumer that leaves none of its own marks behind. -/
def Balanced (c : Consumer) : Prop :=
  c.Respectful ∧ ∀ r : Reader, r.offset ≤ r.size → (c r).2.marks.length = r.marks.length

variable {c : Consumer} {text : Array Char} {offset : Nat}

/-- Marks `below` that are there already change nothing, and stay where they are. -/
theorem Respectful.atop (h : c.Respectful) (ho : offset ≤ text.size) (below : List Nat) :
    c ⟨text, offset, below⟩ =
      ((c ⟨text, offset, []⟩).1, (c ⟨text, offset, []⟩).2.atop below) := by
  obtain ⟨σ, blocks, start, run⟩ := h
  have h₀ := run ⟨text, offset, []⟩ ho
  obtain ⟨s', hs', hall⟩ := h₀.atop (Reader.atop_nil _).symm rfl
  rw [Reader.atop_nil] at hs'
  obtain ⟨h₁, h₂⟩ := (run ⟨text, offset, below⟩ ho).det (hall below)
  rw [hs', ← h₁, ← h₂]

/-- A `Respectful` consumer stays in `text`, and neither it nor its marks get behind `offset`. -/
theorem Respectful.within (h : c.Respectful) (ho : offset ≤ text.size) :
    (c ⟨text, offset, []⟩).2.runes = text ∧ (c ⟨text, offset, []⟩).2.Within offset := by
  obtain ⟨σ, blocks, start, run⟩ := h
  have h₀ := run ⟨text, offset, []⟩ ho
  exact ⟨h₀.runes, h₀.within ⟨Nat.le_refl _, ho, by simp⟩⟩

/-- A `Balanced` consumer changes nothing of the reader but the offset. -/
theorem Balanced.atop (h : c.Balanced) (ho : offset ≤ text.size) (below : List Nat) :
    c ⟨text, offset, below⟩ =
      ((c ⟨text, offset, []⟩).1, ⟨text, (c ⟨text, offset, []⟩).2.offset, below⟩) := by
  have hmarks : (c ⟨text, offset, []⟩).2.marks = [] :=
    List.eq_nil_of_length_eq_zero (h.2 ⟨text, offset, []⟩ ho)
  rw [h.1.atop ho below]
  simp only [Reader.atop, hmarks, (h.1.within ho).1, List.nil_append]

end Consumer

end LexTree
