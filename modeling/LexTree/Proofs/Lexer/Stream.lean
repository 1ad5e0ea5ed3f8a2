import LexTree.Lexer

/-!
# Token streams and scans

What is true of every scan, whatever its consumers do.

- `Stream` is what a scan emits: ordinary tokens, and the token that ends it.
- `Sink.feed` hands tokens to a sink one after the other.
- `firstMatch_cons` is one attempt, and `firstMatch_log` says that the log of a
  position is only written to.
- `Lexer.scan_of_le`: a scan that has ended is the same with more rounds.
-/

namespace LexTree

/-- What a scan emits, and how it ends. -/
structure Stream where
  tokens : List Token
  last : Token
  status : ScanStatus
deriving DecidableEq, Repr

namespace Stream

/-- All tokens in order, `last` included. -/
def all (s : Stream) : List Token := s.tokens ++ [s.last]

/-- The stream `s` with `token` in front. -/
def cons (token : Token) (s : Stream) : Stream := { s with tokens := token :: s.tokens }

/-- A stream of the token `last` alone. -/
def ofLast (last : Token) (status : ScanStatus) : Stream := ⟨[], last, status⟩

@[simp] theorem all_cons (token : Token) (s : Stream) : (s.cons token).all = token :: s.all := rfl
@[simp] theorem all_ofLast (last : Token) (status : ScanStatus) :
    (ofLast last status).all = [last] := rfl

theorem all_ne_nil (s : Stream) : s.all ≠ [] := List.concat_ne_nil _ _

end Stream

/-- What `sink` makes of `tokens`, one after the other. -/
def Sink.feed {σ : Type} (sink : Sink σ) (output : σ) (tokens : List Token) : σ :=
  tokens.foldl (fun output token => (sink.visit output token).1) output

/-- `Sink.collect` puts the tokens behind those there were. -/
theorem Sink.feed_collect (output : Array Token) (tokens : List Token) :
    Sink.collect.feed output tokens = output ++ tokens.toArray := by
  induction tokens generalizing output with
  | nil => simp [feed]
  | cons token tokens ih =>
    have := ih (output.push token)
    simp only [feed, Sink.collect] at this
    simp [feed, Sink.collect, this]

/-! ## One position -/

/-- One attempt: a token past the mark ends the search, and after anything else the reader goes back
to the latest mark. -/
theorem firstMatch_cons (c : Consumer) (cs : List Consumer) (index : Nat) (r : Reader) (log : Log) :
    firstMatch (c :: cs) index r log =
      match c r.mark.2 with
      | (some token, after) =>
        if r.offset < after.offset then
          (some (index, token.placedAt r.offset), after.commit, log)
        else firstMatch cs (index + 1) after.rewind (log.push (.matchedNothing index r.offset))
      | (none, after) => firstMatch cs (index + 1) after.rewind log := rfl

/-- `firstMatch` only writes to its log. -/
theorem firstMatch_log (cs : List Consumer) (index : Nat) (r : Reader) (log : Log) :
    firstMatch cs index r log =
      ((firstMatch cs index r #[]).1, (firstMatch cs index r #[]).2.1,
        log ++ (firstMatch cs index r #[]).2.2) := by
  induction cs generalizing index r log with
  | nil => simp [firstMatch]
  | cons c cs ih =>
    rw [firstMatch_cons, firstMatch_cons]
    rcases c r.mark.2 with ⟨_ | token, after⟩
    · exact ih _ _ _
    · by_cases h : r.offset < after.offset
      · simp [h]
      · simp only [h, if_false]
        rw [ih, ih (index + 1) after.rewind (Array.push #[] _)]
        simp

/-! ## Rounds -/

namespace Lexer

variable {σ : Type} {l : Lexer} {sink : Sink σ}

/-- The end of the text ends a scan. -/
theorem scan_of_atEnd {r : Reader} (h : r.atEnd = true) (rounds : Nat) (output : σ) (log : Log) :
    l.scan sink (rounds + 1) r output log =
      finish sink l.endType "" .complete (.reachedEnd r.offset) r output log := by
  rw [scan, if_pos h]

/-- A position where no consumer matches ends a scan. -/
theorem scan_of_none {r r' : Reader} {log log' : Log} (h : ¬ r.atEnd = true)
    (hm : firstMatch l.consumers 0 r log = (none, r', log')) (rounds : Nat) (output : σ) :
    l.scan sink (rounds + 1) r output log =
      finish sink l.errorType errorText (.failed r'.offset) (.noneMatched r'.offset) r' output
        log' := by
  rw [scan, if_neg h, hm]

/-- A match goes to `sink`, and the scan goes on from where it ended. -/
theorem scan_of_some {r r' : Reader} {log log' : Log} {index : Nat} {token : Token}
    (h : ¬ r.atEnd = true)
    (hm : firstMatch l.consumers 0 r log = (some (index, token), r', log')) (rounds : Nat)
    (output : σ) :
    l.scan sink (rounds + 1) r output log =
      l.scan sink rounds r' (sink.visit output token).1
        (log'.push (.emitted index token.type token.value token.offset) ++
          (sink.visit output token).2) := by
  rw [scan, if_neg h, hm]

/-- A scan that has ended is the same with more rounds. -/
theorem scan_of_le {rounds more : Nat} {r : Reader} {output : σ} {log : Log}
    (h : (l.scan sink rounds r output log).status ≠ .endless) (hle : rounds ≤ more) :
    l.scan sink more r output log = l.scan sink rounds r output log := by
  induction rounds generalizing more r output log with
  | zero => exact absurd rfl h
  | succ rounds ih =>
    obtain ⟨more, rfl⟩ : ∃ k, more = k + 1 := ⟨more - 1, by omega⟩
    by_cases hend : r.atEnd = true
    · rw [scan_of_atEnd hend, scan_of_atEnd hend]
    · obtain ⟨hit, r', log', hm⟩ :
          ∃ hit r' log', firstMatch l.consumers 0 r log = (hit, r', log') := ⟨_, _, _, rfl⟩
      cases hit with
      | none => rw [scan_of_none hend hm, scan_of_none hend hm]
      | some hit =>
        rw [scan_of_some hend hm] at h ⊢
        rw [scan_of_some hend hm, ih h (by omega)]

end Lexer

end LexTree
