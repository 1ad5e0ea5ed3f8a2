import LexTree.Proofs.Parser.Run
import LexTree.Proofs.Parser.Step

/-!
# Skipped tokens

A factory works on the tree before the parser looks at the id that it returns, and
no call takes a node away again. What a factory attaches therefore stays, also when
its token is skipped.

- `Parser.refusal?_cases` is what a refusal says about the factory.
- `Factory.Careful` are the factories that leave the tree alone whenever they return
  an id that is not in it. By `Factory.Modelled.careful` all of `LexTree.Factory` are of
  this kind, of which `Factory.BuiltIn` are those of nested lists.
- `Parser.step_of_skipped`: a parser after a step that skips the token.
- `Parser.after_taken`: with careful factories, tokens that are skipped could as well
  not be there.
-/

namespace LexTree

/-- The last node of `appendChain` under a node of the tree is in the tree. -/
theorem Tree.exists_appendChain_of_lt {t : Tree} {p : NodeId} (hp : p < t.size) (node : Node)
    (count : Nat) :
    ∃ last < (t.appendChain p node count).2.size, (t.appendChain p node count).1 = .ok last := by
  induction count generalizing t p with
  | zero => exact ⟨p, hp, rfl⟩
  | succ count ih =>
    have hnew : t.size < (t.grow p node).size := by
      rw [size_grow hp]
      exact Nat.lt_succ_self _
    rw [appendChain, append_of_lt hp]
    exact ih hnew

namespace Factory

/-- A factory that changes no tree for which it returns an id that is not in it. -/
def Careful (f : Factory) : Prop :=
  ∀ (t : Tree) (current : NodeId) (token : Token) (id : NodeId) (u : Tree),
    f t current token = (some id, u) → u.size ≤ id → u = t

theorem careful_of_reads {f : Factory}
    (hf : ∀ t current token, (f t current token).2 = t) : f.Careful := by
  intro t current token id u hcall _
  rw [← hf t current token, hcall]

/-- The id that `appendTo` returns for a node attached to the tree is in the tree. -/
theorem careful_appendTo (parent : NodeId) (moves : Bool) (make : Token → Node) :
    (appendTo parent moves make).Careful := by
  intro t current token id u hcall hid
  rcases Nat.lt_or_ge parent t.size with hlt | hge
  · rw [appendTo, Tree.append_of_lt hlt] at hcall
    obtain ⟨hnew, hu⟩ := Prod.mk.inj hcall
    cases moves with
    | false => cases hnew
    | true =>
      have hnew : t.size = id := Option.some.inj hnew
      rw [← hu, Tree.size_grow hlt] at hid
      omega
  · rw [appendTo, Tree.append_of_size_le hge] at hcall
    exact (Prod.mk.inj hcall).2.symm

theorem careful_chain (make : Token → Node) (count : Nat) : (chain make count).Careful := by
  intro t current token id u hcall hid
  obtain ⟨hlast, hu⟩ := Prod.mk.inj hcall
  rcases Nat.lt_or_ge current t.size with hlt | hge
  · obtain ⟨last, hlt, hok⟩ := Tree.exists_appendChain_of_lt hlt (make token) count
    rw [hok] at hlast
    have hlast : last = id := Option.some.inj hlast
    rw [hu] at hlt
    omega
  · cases count with
    | zero => exact hu.symm
    | succ count =>
      rw [Tree.appendChain, Tree.append_of_size_le hge] at hlast
      cases hlast

/-- No factory of `LexTree.Factory` attaches anything and then returns an id that is not in the
tree. -/
theorem Modelled.careful {f : Factory} (hf : f.Modelled) : f.Careful := by
  cases hf with
  | ignore | ascend | goto | toRoot | up => exact careful_of_reads fun _ _ _ => rfl
  | descend make => exact fun t current => careful_appendTo current true make t current
  | leaf make => exact fun t current => careful_appendTo current false make t current
  | appendTo parent moves make => exact careful_appendTo parent moves make
  | chain make count => exact careful_chain make count

/-- The factories of nested lists. -/
inductive BuiltIn : Factory → Prop where
  | ignore : BuiltIn ignore
  | ascend : BuiltIn ascend
  | descend (make : Token → Node) : BuiltIn (descend make)
  | leaf (make : Token → Node) : BuiltIn (leaf make)

theorem BuiltIn.modelled {f : Factory} (hf : f.BuiltIn) : f.Modelled := by
  cases hf with
  | ignore => exact .ignore
  | ascend => exact .ascend
  | descend make => exact .descend make
  | leaf make => exact .leaf make

end Factory

namespace Parser

variable {p : Parser} {token : Token} {d : Diagnostic}

/-! ## One step -/

/-- A token is refused for want of a factory, or for an `id` that is not in the tree that the
factory has left. -/
theorem refusal?_cases (h : p.refusal? token = some d) :
    (p.factory? token.type = none ∧ d = ⟨.unmappedTokenType, token⟩) ∨
    ∃ factory id, p.factory? token.type = some factory ∧
      factory p.tree p.current token = (some id, (p.call token).2) ∧
      (p.call token).2.size ≤ id ∧ d = ⟨.unknownNode id, token⟩ := by
  rw [refusal?] at h
  rw [call]
  cases hf : p.factory? token.type with
  | none =>
    rw [hf] at h
    exact .inl ⟨rfl, (Option.some.inj h).symm⟩
  | some factory =>
    rw [hf] at h
    dsimp only at h ⊢
    rcases hcall : factory p.tree p.current token with ⟨_ | id, tree⟩ <;> rw [hcall] at h
    · cases h
    · dsimp only at h
      split at h
      · cases h
      · next hid =>
        exact .inr ⟨factory, id, rfl, hcall, Nat.not_lt.mp hid, (Option.some.inj h).symm⟩

theorem refusal?_of_skipped (h : (p.step token).outcome = .skipped d) :
    p.refusal? token = some d := by
  obtain ⟨d', hd', ho, -⟩ | ⟨-, ho, -⟩ | ⟨next, -, -, ho, -⟩ := p.step_cases token
  · rw [ho] at h
    rw [hd', Step.skipped.inj h]
  · rw [ho] at h
    cases h
  · rw [ho] at h
    cases h

/-- A step that skips `token` leaves the cursor and the factories, and adds the diagnostic `d` to
those there are. Without a factory for the token the tree is left too. A factory that has returned
an `id` outside the tree has done with the tree what it does: by `KeptIn` the old nodes keep their
ids, nodes and parents, and their children at the start of those they have; and the tree is as it
was if and only if the factory has attached nothing, as with all that are `BuiltIn`. -/
theorem step_of_skipped (htable : ∀ x ∈ p.factories, x.2.Attaching)
    (hskipped : (p.step token).outcome = .skipped d) :
    (p.step token).parser.current = p.current ∧
      (p.step token).parser.factories = p.factories ∧
      (p.step token).parser.diagnostics = p.diagnostics.push d ∧
      ((p.factory? token.type = none ∧ d = ⟨.unmappedTokenType, token⟩ ∧
          (p.step token).parser.tree = p.tree) ∨
        ∃ factory id, p.factory? token.type = some factory ∧
          factory p.tree p.current token = (some id, (p.step token).parser.tree) ∧
          (p.step token).parser.tree.contains id = false ∧ d = ⟨.unknownNode id, token⟩ ∧
          p.tree.KeptIn (p.step token).parser.tree ∧
          ((p.step token).parser.tree = p.tree ↔
            (p.step token).parser.tree.size = p.tree.size) ∧
          (factory.BuiltIn → (p.step token).parser.tree = p.tree)) := by
  have hrefusal : p.refusal? token = some d := refusal?_of_skipped hskipped
  refine ⟨?_, p.factories_step token, ?_, ?_⟩
  · rw [current_step, hskipped]
  · rw [← Array.toList_inj, diagnostics_step, hrefusal, Array.toList_push]
    rfl
  · have hgrows := p.grows_step htable token
    rw [tree_step] at hgrows ⊢
    obtain ⟨hf, hd⟩ | ⟨factory, id, hf, hcall, hid, hd⟩ := refusal?_cases hrefusal
    · refine .inl ⟨hf, hd, ?_⟩
      rw [call, hf]
    · refine .inr ⟨factory, id, hf, hcall, decide_eq_false (Nat.not_lt.mpr hid), hd, hgrows.keptIn,
        hgrows.eq_iff_size_eq, fun hbuiltIn => ?_⟩
      exact hbuiltIn.modelled.careful p.tree p.current token id _ hcall hid

/-- The last factory of `strayTable` attaches two nodes and then returns an id far behind them. The
token is skipped, and the nodes stay. -/
theorem step_of_skipped_strayTable :
    let p : Parser := { ofRoot default with factories := strayTable }
    let token : Token := ⟨⟨"STRAY"⟩, "s", 0, 0, 0⟩
    (∀ x ∈ p.factories, x.2.Attaching) ∧
      (p.step token).outcome = .skipped ⟨.unknownNode 99, token⟩ ∧
      (p.step token).parser.current = Tree.root ∧
      (p.step token).parser.diagnostics = #[⟨.unknownNode 99, token⟩] ∧
      (p.step token).parser.tree.node? Tree.root = some default := by
  intro p token
  have hskipped : (p.step token).outcome = .skipped ⟨.unknownNode 99, token⟩ := by decide
  obtain ⟨hcurrent, -, hdiagnostics, ⟨hf, -⟩ | ⟨factory, id, -, -, -, -, hkept, -⟩⟩ :=
    step_of_skipped (p := p) strayTable_attaching hskipped
  · cases hf
  · exact ⟨strayTable_attaching, hskipped, hcurrent, hdiagnostics,
      hkept.node_eq Tree.root Nat.one_pos⟩

/-- A token may be skipped and the tree be another one after it. -/
theorem tree_step_of_skipped_ne :
    let p : Parser := { ofRoot default with factories := strayTable }
    let token : Token := ⟨⟨"STRAY"⟩, "s", 0, 0, 0⟩
    (∀ x ∈ p.factories, x.2.Attaching) ∧
      (p.step token).outcome = .skipped ⟨.unknownNode 99, token⟩ ∧
      p.tree.size = 1 ∧ (p.step token).parser.tree.size = 3 ∧
      (p.step token).parser.tree ≠ p.tree :=
  ⟨strayTable_attaching, by decide, rfl, by decide, by decide⟩

/-! ## Any number of steps -/

/-- The parser with no diagnostics. -/
def cleared (p : Parser) : Parser := { p with diagnostics := #[] }

/-- The tokens that are not skipped, by the parser as it is when it comes to them. -/
def taken (p : Parser) : List Token → List Token
  | [] => []
  | token :: tokens =>
    match p.refusal? token with
    | none => token :: (p.step token).parser.taken tokens
    | some _ => (p.step token).parser.taken tokens

/-- A step with a token that it takes does the same on `p.cleared`. -/
theorem step_cleared (h : p.refusal? token = none) :
    (p.cleared.step token).parser = (p.step token).parser.cleared := by
  rw [refusal?] at h
  cases hf : p.factory? token.type with
  | none =>
    rw [hf] at h
    cases h
  | some factory =>
    rw [hf] at h
    dsimp only at h
    have hf' : p.cleared.factory? token.type = some factory := hf
    rcases hcall : factory p.tree p.current token with ⟨_ | id, tree⟩ <;> rw [hcall] at h
    · have hcall' : factory p.cleared.tree p.cleared.current token = (none, tree) := hcall
      rw [step_of_none hf hcall, step_of_none hf' hcall']
      rfl
    · dsimp only at h
      split at h
      · next hid =>
        have hcall' : factory p.cleared.tree p.cleared.current token = (some id, tree) := hcall
        rw [step_of_move hf hcall hid, step_of_move hf' hcall' hid]
        rfl
      · cases h

/-- With `Careful` factories a token that is refused leaves nothing but a diagnostic. -/
theorem cleared_step (hcareful : ∀ x ∈ p.factories, x.2.Careful)
    (h : p.refusal? token = some d) : (p.step token).parser.cleared = p.cleared := by
  have htree : (p.call token).2 = p.tree := by
    obtain ⟨hf, -⟩ | ⟨factory, id, hf, hcall, hid, -⟩ := refusal?_cases h
    · rw [call, hf]
    · exact hcareful _ (mem_of_factory? hf) p.tree p.current token id _ hcall hid
  obtain ⟨d', -, -, hp⟩ | ⟨hnone, -, -⟩ | ⟨next, -, hnone, -, -⟩ := p.step_cases token
  · rw [hp, htree]
    rfl
  · rw [hnone] at h
    cases h
  · rw [hnone] at h
    cases h

theorem after_cons (p : Parser) (token : Token) (tokens : List Token) :
    p.after (token :: tokens) = (p.step token).parser.after tokens := by
  rw [after_eq_foldl, after_eq_foldl, List.foldl_cons]

/-- With `Careful` factories a run comes to the same tree and cursor with the tokens that are
`taken`, and then there is nothing to report. -/
theorem after_taken (hcareful : ∀ x ∈ p.factories, x.2.Careful) (tokens : List Token) :
    p.cleared.after (p.taken tokens) = (p.after tokens).cleared := by
  induction tokens generalizing p with
  | nil => rfl
  | cons token tokens ih =>
    have hnext : ∀ x ∈ (p.step token).parser.factories, x.2.Careful := by
      rw [factories_step]
      exact hcareful
    rw [taken, after_cons]
    cases hrefusal : p.refusal? token with
    | none =>
      dsimp only
      rw [after_cons, step_cleared hrefusal]
      exact ih hnext
    | some d =>
      dsimp only
      rw [← cleared_step hcareful hrefusal]
      exact ih hnext

end Parser

end LexTree
