import LexTree.Outlet

/-!
# Calls of outlets

Writing all of some bytes to an outlet is a row of calls of `Outlet.write`. To say
which calls are made, and which are not, the same code runs on an outlet that
notes them.

- `Outlet.noting` does what an outlet does, and notes the calls and their answers.
- `Outlet.StopAt` are calls of which the last one alone may have failed.
- `Outlet.exists_noting_writeAll`: no call follows a write that failed.
-/

namespace LexTree

namespace Outlet

/-- A call of `Outlet.write` or `Outlet.flush`, and the answer to it. -/
inductive Call where
  | write (offered : ByteArray) (answer : Except WriteError Nat)
  | flush (answer : Except WriteError Unit)

/-- Why a call has failed. A write that is answered `.ok 0` has failed too, with `tookNothing`. -/
def Call.error? : Call → Option WriteError
  | write _ (.error e) => some e
  | write _ (.ok 0) => some .tookNothing
  | write _ (.ok (_ + 1)) => none
  | flush (.error e) => some e
  | flush (.ok ()) => none

/-- No call of a list has failed but the last one, and that one fails with `e` for `some e` and not
at all for `none`. -/
def StopAt : Option WriteError → List Call → Prop
  | none, calls => ∀ call ∈ calls, call.error? = none
  | some e, calls => ∃ before last, calls = before ++ [last] ∧
      (∀ call ∈ before, call.error? = none) ∧ last.error? = some e

theorem StopAt.append {before calls : List Call} {error : Option WriteError}
    (hbefore : StopAt none before) (h : StopAt error calls) : StopAt error (before ++ calls) := by
  cases error with
  | none => exact List.forall_mem_append.mpr ⟨hbefore, h⟩
  | some e =>
    obtain ⟨middle, last, rfl, hmiddle, hlast⟩ := h
    exact ⟨before ++ middle, last, (List.append_assoc _ _ _).symm,
      List.forall_mem_append.mpr ⟨hbefore, hmiddle⟩, hlast⟩

/-- The `e` of an answer `.error e`. -/
def errorOf : Except WriteError Unit → Option WriteError
  | .error e => some e
  | .ok () => none

variable {σ : Type} (o : Outlet σ)

/-- The outlet `o`, with a state that also has the calls that are made of it. -/
def noting : Outlet (σ × List Call) where
  write := fun (s, calls) bytes =>
    let (answer, s) := o.write s bytes
    (answer, s, calls ++ [.write bytes answer])
  flush := fun (s, calls) =>
    let (answer, s) := o.flush s
    (answer, s, calls ++ [.flush answer])

/-- `noting` changes neither the answer nor the state of `writeRounds`, and no call that it notes
follows a write that failed. -/
theorem exists_noting_writeRounds (rounds : Nat) (s : σ) (calls : List Call)
    (bytes : ByteArray) :
    ∃ more, StopAt (errorOf (o.writeRounds rounds s bytes).1) more ∧
      o.noting.writeRounds rounds (s, calls) bytes =
        ((o.writeRounds rounds s bytes).1, (o.writeRounds rounds s bytes).2, calls ++ more) := by
  have hnone : StopAt none [] := fun _ h => nomatch h
  induction rounds generalizing s calls bytes with
  | zero => exact ⟨[], hnone, by rw [List.append_nil]; rfl⟩
  | succ rounds ih =>
    rw [writeRounds, writeRounds]
    by_cases hempty : bytes.isEmpty = true
    · rw [if_pos hempty, if_pos hempty]
      exact ⟨[], hnone, by rw [List.append_nil]⟩
    rw [if_neg hempty, if_neg hempty]
    have hnoted : o.noting.write (s, calls) bytes =
        ((o.write s bytes).1, (o.write s bytes).2, calls ++ [.write bytes (o.write s bytes).1]) :=
      rfl
    rw [hnoted]
    rcases o.write s bytes with ⟨e | _ | count, next⟩
    · exact ⟨[.write bytes (.error e)], ⟨[], _, rfl, hnone, rfl⟩, rfl⟩
    · exact ⟨[.write bytes (.ok 0)], ⟨[], _, rfl, hnone, rfl⟩, rfl⟩
    · -- The write has taken some bytes, and the other calls are made for what is left.
      have hfirst : StopAt none [.write bytes (.ok (count + 1))] :=
        List.forall_mem_singleton.mpr rfl
      obtain ⟨more, hmore, hrest⟩ := ih next (calls ++ [.write bytes (.ok (count + 1))])
        (bytes.extract (count + 1) bytes.size)
      refine ⟨.write bytes (.ok (count + 1)) :: more, hfirst.append hmore, ?_⟩
      rw [← List.append_cons] at hrest
      exact hrest

theorem exists_noting_writeAll (s : σ) (calls : List Call) (bytes : ByteArray) :
    ∃ more, StopAt (errorOf (o.writeAll s bytes).1) more ∧
      o.noting.writeAll (s, calls) bytes =
        ((o.writeAll s bytes).1, (o.writeAll s bytes).2, calls ++ more) :=
  o.exists_noting_writeRounds (bytes.size + 1) s calls bytes

end Outlet

end LexTree
