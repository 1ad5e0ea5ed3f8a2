import LexTree.Pattern.Expr
import LexTree.Pattern.Machine.RuneClass
import LexTree.Pattern.Machine.Trie

/-!
# The machine for an expression

An expression stands for two machines that read texts byte by byte, one from the
start of the text and one from its end. Patterns with a machine that would take
more than ten megabytes are refused.

- `Expr.piece` is the part of a machine for an expression.
- `Expr.fits` says whether both machines are small enough.
-/

namespace LexTree.Pattern

open Machine

/-- The bytes of some runes. -/
def bytesOf (runes : List Char) : List UInt8 := runes.flatMap String.utf8EncodeChar

/-- The words of a choice of words alone. -/
def Expr.words? (branches : List Expr) : Option (List (List UInt8)) :=
  if branches.length ≤ 1 then none
  else branches.mapM fun
    | .literal runes => some (bytesOf runes)
    | _ => none

mutual
/-- The part of a machine for an expression. Groups are noted by the forward one alone. -/
def Expr.piece (backwards : Bool) : Expr → Piece
  | .empty | .look _ => .single
  | .literal runes => .plain (Expr.byteLength runes) 0
  | .oneOf set _ => .ofRunes backwards set
  | .repetition body least most _ =>
    (body.piece backwards).repeated (body.leastLength?.any (0 < ·)) least most
  | .capture _ body => if backwards then body.piece backwards else (body.piece backwards).noted
  | .concat parts =>
    let pieces := Expr.pieces backwards parts
    .row (if backwards then pieces.reverse else pieces)
  | .alternation branches =>
    match Expr.words? branches with
    | some words => .ofWords (if backwards then words.map List.reverse else words)
    | none => .choice (Expr.pieces backwards branches)

def Expr.pieces (backwards : Bool) : List Expr → List Piece
  | [] => []
  | part :: parts => part.piece backwards :: Expr.pieces backwards parts
end

/-- What a machine does before the expression: nothing if matches are at the end where it
starts, else it skips any bytes. -/
def startPiece (anchored : Bool) : Piece :=
  if anchored then .single else (Piece.ofAscii 1).anyTimes true

/-- Whether the machine that reads from one end is small enough. -/
def Expr.fitsOneWay (backwards : Bool) (r : Expr) : Bool :=
  let anchored := if backwards then r.endsAtEnd else r.startsAtStart
  let body := r.piece backwards
  ((Piece.row [startPiece anchored, if backwards then body else body.noted, .single]).build
    .empty).isSome

/-- Whether both machines are small enough. -/
def Expr.fits (r : Expr) : Bool := r.fitsOneWay false && r.fitsOneWay true

end LexTree.Pattern
