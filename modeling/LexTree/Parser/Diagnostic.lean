import LexTree.Tree

/-!
# Diagnostics

Building a tree never fails: a token that cannot be placed is skipped, and a
diagnostic says which token and why.
-/

namespace LexTree

/-- Why a token was skipped. -/
inductive Diagnostic.Cause where
  /-- No factory is registered for the token's type. -/
  | unmappedTokenType
  /-- The factory returned a node that is not part of the tree. -/
  | unknownNode (id : NodeId)
deriving DecidableEq, Repr

/-- A token that was skipped. -/
structure Diagnostic where
  cause : Diagnostic.Cause
  token : Token
deriving DecidableEq, Repr

namespace Diagnostic

/-- Name of the kind of cause. -/
def kind (d : Diagnostic) : String :=
  match d.cause with
  | .unmappedTokenType => "unmapped-token-type"
  | .unknownNode _ => "unknown-node"

def message (d : Diagnostic) : String :=
  match d.cause with
  | .unmappedTokenType => "no factory found for token type " ++ d.token.type.name
  | .unknownNode id =>
    "factory for token type " ++ d.token.type.name ++ " returned unknown node " ++ toString id

/-- The message with the place. -/
def display (d : Diagnostic) : String := d.message ++ " at offset " ++ toString d.token.offset

end Diagnostic

end LexTree
