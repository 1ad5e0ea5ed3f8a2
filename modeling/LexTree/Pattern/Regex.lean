/-!
# Regular expressions

What a pattern means, once its flags are applied: a condition on stretches of a
text, given by where they start and stop.

- `Matches` is the meaning: which stretches of a text an expression matches.
- `Motion.after` computes it for many starts at once: sets of places are
  numbers, with a bit for each place.
- `Regex.occursIn` asks for a match anywhere in a text.
-/

namespace LexTree.Pattern

/-- A regular expression over runes. -/
inductive Regex where
  /-- The empty text, anywhere. -/
  | empty
  /-- One rune that is accepted. -/
  | rune (accepts : Char → Bool)
  /-- The empty text, where the runes before and after it are right. -/
  | look (holds : Option Char → Option Char → Bool)
  | seq (first second : Regex)
  | alt (left right : Regex)
  /-- At least so many times, and at most so many if there is a bound. -/
  | times (body : Regex) (least : Nat) (most : Option Nat)

/-- The rune before a place. -/
def before (text : Array Char) (place : Nat) : Option Char :=
  if place = 0 then none else text[place - 1]?

mutual
/-- `Matches text r i j`: the expression matches the stretch from `i` to `j`. -/
inductive Matches (text : Array Char) : Regex → Nat → Nat → Prop where
  | empty {i} : Matches text .empty i i
  | rune {accepts i c} : text[i]? = some c → accepts c = true →
      Matches text (.rune accepts) i (i + 1)
  | look {holds i} : holds (before text i) text[i]? = true → Matches text (.look holds) i i
  | seq {r s i j k} : Matches text r i j → Matches text s j k → Matches text (.seq r s) i k
  | left {r s i j} : Matches text r i j → Matches text (.alt r s) i j
  | right {r s i j} : Matches text s i j → Matches text (.alt r s) i j
  | times {r least most count i j} : least ≤ count → (∀ m, most = some m → count ≤ m) →
      MatchesTimes text r count i j → Matches text (.times r least most) i j

/-- `MatchesTimes text r n i j`: `n` matches in a row lead from `i` to `j`. -/
inductive MatchesTimes (text : Array Char) : Regex → Nat → Nat → Nat → Prop where
  | zero {r i} : MatchesTimes text r 0 i i
  | succ {r n i j k} : Matches text r i j → MatchesTimes text r n j k →
      MatchesTimes text r (n + 1) i k
end

/-! ## Sets of places -/

/-- The set of the places below `size` with a property. -/
def placesWhere (holds : Nat → Bool) : Nat → Nat
  | 0 => 0
  | size + 1 =>
    if holds size then placesWhere holds size ||| (1 <<< size) else placesWhere holds size

/-- A regular expression with the places of one text at which its runes and
conditions hold. -/
inductive Motion where
  | stay
  /-- One place on, from certain places. -/
  | step (places : Nat)
  /-- Nowhere else, at certain places. -/
  | keep (places : Nat)
  | seq (first second : Motion)
  | alt (left right : Motion)
  | times (body : Motion) (least : Nat) (most : Option Nat)

/-- An expression on a text. -/
def Regex.on (text : Array Char) : Regex → Motion
  | .empty => .stay
  | .rune accepts => .step (placesWhere (fun i => text[i]?.any accepts) text.size)
  | .look holds => .keep (placesWhere (fun i => holds (before text i) text[i]?) (text.size + 1))
  | .seq first second => .seq (first.on text) (second.on text)
  | .alt left right => .alt (left.on text) (right.on text)
  | .times body least most => .times (body.on text) least most

/-- Applies `move` so many times, or until nothing changes. -/
def iterate (move : Nat → Nat) : Nat → Nat → Nat
  | 0, places => places
  | count + 1, places =>
    let moved := move places
    if moved = places then places else iterate move count moved

/-- The places of one set that are not in another. -/
def without (places others : Nat) : Nat := places ^^^ (places &&& others)

/-- The places that can be reached from `frontier` in so many moves, with those of `reached`.
Only places that are new lead to others that are. -/
def spread (move : Nat → Nat) : Nat → Nat → Nat → Nat
  | 0, reached, _ => reached
  | count + 1, reached, frontier =>
    let fresh := without (move frontier) reached
    if fresh = 0 then reached else spread move count (reached ||| fresh) fresh

/-- The places to which matches lead from any of `places`, in a text of `size`
runes. Since no match leads back, counts beyond `size + 1` change nothing. -/
def Motion.after (size : Nat) (m : Motion) (places : Nat) : Nat :=
  if places = 0 then 0
  else
    match m with
    | .stay => places
    | .step allowed => (places &&& allowed) <<< 1
    | .keep allowed => places &&& allowed
    | .seq first second => second.after size (first.after size places)
    | .alt left right => left.after size places ||| right.after size places
    | .times body least most =>
      let start := iterate (body.after size) (min least (size + 1)) places
      let more :=
        match most with
        | none => size + 1
        | some most => min (most - least) (size + 1)
      spread (body.after size) more start start

/-- Whether the expression matches some stretch of the text. -/
def Regex.occursIn (r : Regex) (text : Array Char) : Bool :=
  (r.on text).after text.size (Nat.pow 2 (text.size + 1) - 1) != 0

end LexTree.Pattern
