import LexTree.Proofs.Reader.Client

/-!
# Trying something from a mark

A client that marks its place may read on to see what comes, and then go back or
stay. What it does in between may mark places, too, as long as it takes its own
marks off again.

- `Reader.performAll` makes any calls, one after the other; the readers that it
  leads to are within their text by `Reader.Within.performAll`.
- `Speculation` are the calls in which each mark is taken off again.
- `Reader.performAll_calls`: a speculation moves on by its reads that are not
  undone, as far as the text goes, and keeps the marks.
- `Reader.answers_calls`: its answers do not depend on the marks.
- `Reader.performAll_speculation`: the state of a reader after any calls, and what
  a speculation makes of it that is undone or kept.
-/

namespace LexTree

/-- A call with what it has answered. -/
abbrev Call.Answered := (c : Call) × c.Answer

namespace Reader

/-- What each of some calls on `r` answers, one after the other, and the reader after them. -/
def performAll (r : Reader) : List Call → List Call.Answered × Reader
  | [] => ([], r)
  | c :: calls =>
    let (answer, next) := r.perform c
    let (answers, last) := next.performAll calls
    (⟨c, answer⟩ :: answers, last)

theorem performAll_cons (r : Reader) (c : Call) (calls : List Call) :
    r.performAll (c :: calls) =
      (⟨c, (r.perform c).1⟩ :: ((r.perform c).2.performAll calls).1,
        ((r.perform c).2.performAll calls).2) := rfl

theorem performAll_append (r : Reader) (before calls : List Call) :
    r.performAll (before ++ calls) =
      ((r.performAll before).1 ++ ((r.performAll before).2.performAll calls).1,
        ((r.performAll before).2.performAll calls).2) := by
  induction before generalizing r with
  | nil => rfl
  | cons c before ih => rw [List.cons_append, performAll_cons, ih, performAll_cons]; rfl

/-- Calls between a `mark` and a `last` call. -/
theorem performAll_mark (r : Reader) (calls : List Call) (last : Call) :
    r.performAll (.mark :: (calls ++ [last])) =
      (⟨.mark, r.offset⟩ :: ((r.mark.2.performAll calls).1 ++
          [⟨last, ((r.mark.2.performAll calls).2.perform last).1⟩]),
        ((r.mark.2.performAll calls).2.perform last).2) := by
  rw [performAll_cons, performAll_append]
  rfl

/-- No calls lead out of the text. -/
theorem Within.performAll {start : Nat} {r : Reader} (h : r.Within start) (calls : List Call) :
    (r.performAll calls).2.Within start := by
  induction calls generalizing r with
  | nil => exact h
  | cons c calls ih => exact ih (h.perform c)

theorem performAll_runes (r : Reader) (calls : List Call) :
    (r.performAll calls).2.runes = r.runes := by
  induction calls generalizing r with
  | nil => rfl
  | cons c calls ih => rw [performAll_cons, ih, perform_runes]

/-- Before the end of the text `read` reads its next rune; at the end it reads `replacement`, and
the reader stays. -/
theorem read_eq (r : Reader) :
    r.read = if h : r.offset < r.runes.size
      then (r.runes[r.offset], { r with offset := r.offset + 1 }) else (replacement, r) := by
  unfold read
  split
  · next rune h =>
    obtain ⟨hlt, rfl⟩ := Array.getElem?_eq_some_iff.mp h
    rw [dif_pos hlt]
  · next h => rw [dif_neg (Nat.not_lt.mpr (Array.getElem?_eq_none_iff.mp h))]

end Reader

/-- Calls in which each mark is taken off again after what was tried from it. -/
inductive Speculation where
  | nothing
  | read
  | peek
  | andThen (first second : Speculation)
  /-- Goes back from where a speculation ends to where it began. -/
  | undone (tried : Speculation)
  /-- Stays where a speculation ends. -/
  | kept (tried : Speculation)
deriving DecidableEq, Repr

namespace Speculation

def calls : Speculation → List Call
  | nothing => []
  | read => [.read]
  | peek => [.peek]
  | andThen first second => first.calls ++ second.calls
  | undone tried => .mark :: (tried.calls ++ [.rewind])
  | kept tried => .mark :: (tried.calls ++ [.commit])

/-- The number of reads that are not undone. -/
def reads : Speculation → Nat
  | nothing | peek | undone _ => 0
  | read => 1
  | andThen first second => first.reads + second.reads
  | kept tried => tried.reads

end Speculation

namespace Reader

/-! ## What a speculation does -/

/-- The reader `n` places on, or at the end of the text if that is nearer. -/
def onward (r : Reader) (n : Nat) : Reader := { r with offset := min (r.offset + n) r.size }

theorem onward_zero {r : Reader} (hr : r.offset ≤ r.size) : r.onward 0 = r := by
  rw [onward, Nat.add_zero, Nat.min_eq_left hr]

theorem onward_onward (r : Reader) (m n : Nat) : (r.onward m).onward n = r.onward (m + n) := by
  have hoffset : min (min (r.offset + m) r.size + n) r.size = min (r.offset + (m + n)) r.size := by
    omega
  exact congrArg (Reader.mk r.runes · r.marks) hoffset

theorem offset_onward_le (r : Reader) (n : Nat) : (r.onward n).offset ≤ (r.onward n).size :=
  Nat.min_le_right _ _

theorem read_snd_eq_onward {r : Reader} (hr : r.offset ≤ r.size) : r.read.2 = r.onward 1 := by
  rw [read_snd, onward]
  split
  · next h => rw [Nat.min_eq_left h]
  · next h =>
    have hend : min (r.offset + 1) r.size = r.offset := by omega
    rw [hend]

/-- The calls of `b` move on by the `reads` that are not undone, as far as the text goes, and leave
the marks as they are. -/
theorem performAll_calls (b : Speculation) {r : Reader} (hr : r.offset ≤ r.size) :
    (r.performAll b.calls).2 = r.onward b.reads := by
  induction b generalizing r with
  | nothing | peek => exact (onward_zero hr).symm
  | read => exact read_snd_eq_onward hr
  | andThen first second ihfirst ihsecond =>
    rw [Speculation.calls, performAll_append, ihfirst hr, ihsecond (r.offset_onward_le _),
      onward_onward, Speculation.reads]
  | undone tried ih =>
    have htried : (r.mark.2.performAll tried.calls).2 = r.mark.2.onward tried.reads := ih hr
    rw [Speculation.calls, performAll_mark, htried]
    -- The mark that is gone back to is the one that was set before.
    exact (onward_zero hr).symm
  | kept tried ih =>
    have htried : (r.mark.2.performAll tried.calls).2 = r.mark.2.onward tried.reads := ih hr
    rw [Speculation.calls, performAll_mark, htried]
    rfl

/-- What the calls of `b` answer does not depend on the marks that are there. -/
theorem answers_calls (b : Speculation) {text : Array Char} {offset : Nat}
    (ho : offset ≤ text.size) (marks others : List Nat) :
    ((Reader.mk text offset marks).performAll b.calls).1 =
      ((Reader.mk text offset others).performAll b.calls).1 := by
  induction b generalizing offset marks others with
  | nothing | peek => rfl
  | read =>
    have hread : (Reader.mk text offset marks).read.1 = (Reader.mk text offset others).read.1 := by
      rw [read_fst, read_fst]
      rfl
    exact congrArg (fun rune : Char => [(⟨.read, rune⟩ : Call.Answered)]) hread
  | andThen first second ihfirst ihsecond =>
    have hfirst (marks : List Nat) :=
      performAll_calls first (r := Reader.mk text offset marks) ho
    rw [Speculation.calls, performAll_append, performAll_append, hfirst, hfirst,
      ihfirst ho marks others]
    exact congrArg (_ ++ ·) (ihsecond (Nat.min_le_right _ _) marks others)
  | undone tried ih | kept tried ih =>
    have htried := ih ho (offset :: marks) (offset :: others)
    rw [Speculation.calls, performAll_mark, performAll_mark]
    exact congrArg (fun answers => ⟨.mark, offset⟩ :: (answers ++ [_])) htried

/-- A reader on `source` stays within it with its marks, whatever `calls` are made: it is `atEnd` if
and only if its offset is the length of `source`, and it reads `source` rune by rune up to there,
and `replacement` from then on. From wherever it is, a `rewind` after the speculation `b` leads to
exactly the reader that there was; a `commit` leads to where `b` alone would, with the marks that
there were. After the `rewind`, `b` answers once more what it has answered before, and what it would
have answered without a mark. -/
theorem performAll_speculation (source : String) (calls : List Call) (b : Speculation) :
    let r := ((ofString source).performAll calls).2
    r.runes = source.toList.toArray ∧
      r.offset ≤ source.length ∧ (∀ m ∈ r.marks, m ≤ source.length) ∧
      (r.atEnd = true ↔ r.offset = source.length) ∧
      (r.read = if h : r.offset < r.runes.size
        then (r.runes[r.offset], { r with offset := r.offset + 1 }) else ('\uFFFD', r)) ∧
      (r.performAll b.undone.calls).2 = r ∧
      (r.performAll b.kept.calls).2 = { r with offset := (r.performAll b.calls).2.offset } ∧
      (r.performAll (b.undone.andThen b).calls).1 =
        ⟨.mark, r.offset⟩ :: ((r.performAll b.calls).1 ++ [⟨.rewind, ()⟩]) ++
          (r.performAll b.calls).1 := by
  intro r
  have hrunes : r.runes = source.toList.toArray := performAll_runes (ofString source) calls
  have hsize : r.size = source.length := by
    rw [size, hrunes, List.size_toArray, String.length_toList]
  have hstart : (ofString source).Within 0 :=
    ⟨Nat.le_refl _, Nat.zero_le _, fun _ hm => absurd hm List.not_mem_nil⟩
  have hwithin : r.Within 0 := hstart.performAll calls
  have hr : r.offset ≤ r.size := hwithin.le_size
  have hundone : (r.performAll b.undone.calls).2 = r := by
    rw [performAll_calls _ hr]
    exact onward_zero hr
  refine ⟨hrunes, hsize ▸ hr, fun m hm => hsize ▸ (hwithin.marks m hm).2, ?_, r.read_eq, hundone,
    ?_, ?_⟩
  · rw [atEnd, decide_eq_true_iff, ← hsize]
    omega
  · rw [performAll_calls _ hr, performAll_calls _ hr]
    rfl
  · have htried : (r.mark.2.performAll b.calls).1 = (r.performAll b.calls).1 :=
      answers_calls b hr (r.offset :: r.marks) r.marks
    rw [Speculation.calls, performAll_append, hundone, Speculation.calls, performAll_mark, htried]

end Reader

end LexTree
