import LexTree.Consumer.Script
import LexTree.Proofs.Reader.Client
import LexTree.Proofs.Reader.Rest

/-!
# Scripts as clients

A script is a program of calls, with what is left of it as the label. It leaves
the marks of others alone if it takes off no more marks than it has set.

- `Script.minds` checks that, action by action.
- `Script.respectful`: such a script is a respectful consumer, whether or not it
  takes off all the marks that it has set.
-/

namespace LexTree.Script

open Reader

/-- Whether some actions, after which `own` marks of the script are on the stack, never take off
another mark. -/
def minds : Nat → List Action → Bool
  | _, [] | _, .fail :: _ => true
  | own, .mark :: rest => minds (own + 1) rest
  | 0, .rewind :: _ | 0, .commit :: _ => false
  | own + 1, .rewind :: rest | own + 1, .commit :: rest => minds own rest
  | own, .read :: rest | own, .peek :: rest | own, .skip :: rest | own, .clear :: rest
  | own, .readToEnd :: rest | own, .failAtEnd :: rest => minds own rest

variable {α : Type} {base : Nat}

/-- The program of a script, which ends with `done` of its value. -/
def program (done : Option String → α) :
    List Action × String → Prog (List Action × String) α
  | ([], value) => .finish (done (some value))
  | (.read :: rest, value) => .call .read fun rune => .goto (rest, value.push rune)
  | (.peek :: rest, value) => .call .peek fun rune => .goto (rest, value.push rune)
  | (.skip :: rest, value) => .call .read fun _ => .goto (rest, value)
  | (.mark :: rest, value) => .call .mark fun _ => .goto (rest, value)
  | (.rewind :: rest, value) => .call .rewind fun _ => .goto (rest, value)
  | (.commit :: rest, value) => .call .commit fun _ => .goto (rest, value)
  | (.clear :: rest, _) => .goto (rest, "")
  | (.readToEnd :: rest, value) => .call .atEnd fun ended =>
    if ended then .goto (rest, value)
    else .call .read fun rune => .goto (.readToEnd :: rest, value.push rune)
  | (.failAtEnd :: rest, value) => .call .atEnd fun ended =>
    if ended then .finish (done none) else .goto (rest, value)
  | (.fail :: _, _) => .finish (done none)

/-- The loop of `readToEnd`, and what comes after it. -/
theorem run_readToEnd {done : Option String → α} {rest : List Action} {a : α} {value : String}
    {r r' : Reader}
    (h : Prog.Run (program done) base (.goto (rest, (r.readToEnd value).1)) (r.readToEnd value).2
      a r') :
    Prog.Run (program done) base (.goto (.readToEnd :: rest, value)) r a r' := by
  unfold Reader.readToEnd at h
  fun_induction Reader.readWhile (fun _ => true) value r with
  | case1 value r hend =>
    refine .goto (.atEnd ?_)
    rw [if_pos hend]
    exact h
  | case2 value r hend _ ih =>
    refine .goto (.atEnd ?_)
    rw [if_neg hend]
    exact .read (ih h)
  | case3 value r _ hc => exact absurd rfl hc

/-- A script does what its `program` does, which takes off no mark but its own if `minds own
actions`. -/
theorem run_program (done : Option String → α) {actions : List Action} {own : Nat}
    (h : minds own actions = true) (value : String) {r : Reader}
    (hown : base + own ≤ r.marks.length) :
    Prog.Run (program done) base (.goto (actions, value)) r (done (run actions value r).1)
      (run actions value r).2 := by
  induction actions generalizing own value r with
  | nil => exact .goto .finish
  | cons action rest ih =>
    cases action with
    | read =>
      obtain ⟨n, hn⟩ := r.exists_advance_read
      exact .goto (.read (ih h _ (by rw [hn]; exact hown)))
    | skip =>
      obtain ⟨n, hn⟩ := r.exists_advance_read
      exact .goto (.read (ih h _ (by rw [hn]; exact hown)))
    | peek => exact .goto (.peek (ih h _ hown))
    | mark =>
      refine .goto (.call (by simp [Call.pops]) (ih h value ?_))
      simp only [perform, mark, List.length_cons]
      omega
    | clear => exact .goto (ih h _ hown)
    | readToEnd =>
      refine .goto ?_
      have hmarks : (r.readToEnd value).2.marks = r.marks := by
        rw [Reader.readToEnd, readWhile_eq]; rfl
      have := run_readToEnd (ih h (r.readToEnd value).1 (r := (r.readToEnd value).2)
        (by rw [hmarks]; exact hown))
      cases this with
      | goto this => exact this
    | failAtEnd =>
      refine .goto (.atEnd ?_)
      rw [run]
      by_cases hend : r.atEnd = true
      · rw [if_pos hend, if_pos hend]; exact .finish
      · rw [if_neg hend, if_neg hend]; exact ih h _ hown
    | fail => exact .goto .finish
    | rewind =>
      cases own with
      | zero => exact absurd h (by simp [minds])
      | succ own =>
        refine .goto (.call (fun _ => by omega) (ih h value ?_))
        simp only [perform, rewind]
        split
        · next hm =>
          rw [hm] at hown
          exact absurd hown (by simp)
        · next mark marks hm =>
          rw [hm, List.length_cons] at hown
          show base + own ≤ marks.length
          omega
    | commit =>
      cases own with
      | zero => exact absurd h (by simp [minds])
      | succ own =>
        refine .goto (.call (fun _ => by omega) (ih h value ?_))
        simp only [perform, commit, List.length_tail]
        omega

/-- A script with `minds 0`, which takes off no more marks than it has set, is a respectful
consumer. -/
theorem respectful {s : Script} (h : minds 0 s.actions = true) : s.consumer.Respectful :=
  ⟨_, _, _, fun _ _ => run_program (fun value => value.map fun value => { s.draft with value }) h ""
    (Nat.le_refl _)⟩

end LexTree.Script
