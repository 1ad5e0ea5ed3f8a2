import LexTree.Proofs.Channel.Write
import LexTree.Tree.Stream

/-!
# Listings in memory and on channels

The listing of a tree is built as one text, and written piece by piece without
that text. A channel holds the same bytes after either, as far as it takes them.

- `Node.line` is the line of a node, of which `Node.linePieces` are the pieces.
- `Tree.dump_eq_join`: the listing is the lines of the walk, one after the other.
- `Tree.writeLines_eq_put`: writing lines puts their bytes.
- `Tree.writeDump_eq_prefix`: what a channel holds when a listing has been written
  to it, and what the writing answers.
-/

namespace LexTree

/-! ## Lines -/

/-- The line of the node `n` at `depth`. -/
def Node.line (n : Node) (depth : Nat) : String := String.join (n.linePieces depth)

/-- Two spaces for each level may be pushed one by one or written level by level. -/
theorem pushn_eq_append_join (out : String) (depth : Nat) :
    out.pushn ' ' (2 * depth) = out ++ String.join (List.replicate depth "  ") := by
  induction depth with
  | zero => simp [String.pushn_eq_repeat_push, Nat.repeat]
  | succ depth ih =>
    have htwice : out.pushn ' ' (2 * (depth + 1)) =
        ((out.pushn ' ' (2 * depth)).push ' ').push ' ' := by
      rw [Nat.mul_succ, String.pushn_eq_repeat_push, String.pushn_eq_repeat_push]
      rfl
    rw [htwice, ih, List.replicate_succ', String.join_append, ← String.toList_inj]
    simp

/-- What `Tree.dump` has for a node is `Node.line`. -/
theorem Node.push_label_eq_append_line (n : Node) (depth : Nat) (out : String) :
    (out.pushn ' ' (2 * depth) ++ n.label).push '\n' = out ++ n.line depth := by
  have hpieces : n.line depth =
      String.join (List.replicate depth "  ") ++ (n.label ++ "\n") := by
    rw [line, linePieces, String.join_append, String.join_append, String.append_assoc, label,
      ← String.toList_inj]
    split <;> simp
  rw [pushn_eq_append_join, hpieces, ← String.toList_inj]
  simp

namespace Tree

/-- The lines of the nodes of `entries`, one after the other. -/
def lines (t : Tree) (entries : List (NodeId × Nat)) : String :=
  String.join (entries.map fun x => (t.nodeAt x.1).line x.2)

theorem lines_cons (t : Tree) (id : NodeId) (depth : Nat) (entries : List (NodeId × Nat)) :
    t.lines ((id, depth) :: entries) = (t.nodeAt id).line depth ++ t.lines entries := by
  rw [lines, List.map_cons, String.join_cons, lines]

theorem foldl_label_eq_append_lines (t : Tree) (entries : List (NodeId × Nat)) (out : String) :
    entries.foldl (fun out x =>
      ((out.pushn ' ' (2 * x.2)) ++ (t.nodeAt x.1).label).push '\n') out =
      out ++ t.lines entries := by
  induction entries generalizing out with
  | nil =>
    rw [lines, List.map_nil, String.join_nil, String.append_empty]
    rfl
  | cons x entries ih =>
    rw [List.foldl_cons, ih, Node.push_label_eq_append_line, lines_cons, String.append_assoc]

theorem dump_eq_lines (t : Tree) : t.dump = t.lines t.walk.toList := by
  have hfoldl := t.foldl_label_eq_append_lines t.walk.toList ""
  rw [String.empty_append, Array.foldl_toList] at hfoldl
  exact hfoldl

/-! ## Channels -/

variable {c : Channel}

/-- `writeLines` puts the bytes of `lines`, up to the first that is refused. -/
theorem writeLines_eq_put (hc : c.Advancing) (t : Tree) (entries : List (NodeId × Nat)) :
    t.writeLines entries c = c.put (t.lines entries).toUTF8 := by
  induction entries generalizing c with
  | nil =>
    have hempty : (t.lines []).toUTF8.size = 0 := rfl
    rw [writeLines, Channel.put_of_size_eq_zero hempty]
  | cons x entries ih =>
    obtain ⟨id, depth⟩ := x
    have hbytes : (t.lines ((id, depth) :: entries)).toUTF8 =
        ((t.nodeAt id).line depth).toUTF8 ++ (t.lines entries).toUTF8 := by
      rw [lines_cons]
      exact String.toByteArray_append
    have hline : c.writeTexts ((t.nodeAt id).linePieces depth) =
        c.put ((t.nodeAt id).line depth).toUTF8 := Channel.writeTexts_eq_put hc _
    rw [writeLines, hline, hbytes, Channel.put_append]
    rcases hput : c.put ((t.nodeAt id).line depth).toUTF8 with ⟨_ | _, next⟩
    · rfl
    · obtain rfl : c.taking ((t.nodeAt id).line depth).toUTF8 = next := congrArg Prod.snd hput
      exact ih hc

/-- `writeDump` puts the bytes of `dump`, and if all of them are taken it flushes `c`. -/
theorem writeDump_eq (hc : c.Advancing) (t : Tree) :
    t.writeDump c =
      (if c.accepts t.dump.toUTF8.size < t.dump.toUTF8.size then
          .error (c.taking t.dump.toUTF8).refusal
        else c.flush,
        c.taking t.dump.toUTF8) := by
  rw [writeDump, writeLines_eq_put hc, ← dump_eq_lines]
  by_cases hlt : c.accepts t.dump.toUTF8.size < t.dump.toUTF8.size
  · rw [if_pos hlt, Channel.put_of_lt hlt]
  · rw [if_neg hlt, Channel.put_of_le (Nat.not_lt.mp hlt)]
    rfl

/-- Whatever number of bytes each write takes, `writeDump` writes the `listing` of `t` as far as
there is `room`: `c` holds that many of its bytes behind those that it held, and nothing else of `c`
is changed. It answers `.ok ()` if and only if there is room for all of them and the flush succeeds.
If there is not, it fails as the full channel does, with `tookNothing` or `closed`, and otherwise
with `flushFailed`. -/
theorem writeDump_eq_prefix (t : Tree) (hc : c.Advancing) :
    let listing := t.dump.toUTF8
    let room := c.accepts listing.size
    let written := t.writeDump c
    written.2 = c.holding (c.held ++ listing.extract 0 room) ∧
      (written.1 = .ok () ↔ listing.size ≤ room ∧ c.flushFails = false) ∧
      (room < listing.size → written.1 =
        .error (if c.silent then .tookNothing else .closed written.2.held.size)) ∧
      (listing.size ≤ room → c.flushFails = true → written.1 = .error .flushFailed) := by
  dsimp only
  rw [writeDump_eq hc]
  rcases Nat.lt_or_ge (c.accepts t.dump.toUTF8.size) t.dump.toUTF8.size with hlt | hge
  · rw [if_pos hlt]
    refine ⟨rfl, ?_, fun _ => rfl, fun hle => absurd hlt (Nat.not_lt.mpr hle)⟩
    constructor
    · intro h
      cases h
    · rintro ⟨hle, -⟩
      exact absurd hlt (Nat.not_lt.mpr hle)
  · rw [if_neg (Nat.not_lt.mpr hge), Channel.flush]
    refine ⟨rfl, ?_, fun hlt => absurd hlt (Nat.not_lt.mpr hge), fun _ hfails => if_pos hfails⟩
    cases c.flushFails with
    | false => exact ⟨fun _ => ⟨hge, rfl⟩, fun _ => rfl⟩
    | true => exact iff_of_false (fun h => nomatch h) fun h => nomatch h.2

/-- A root, and a symbol under it whose text takes up two bytes. -/
def symbolTree : Tree :=
  ((singleton (.bare ⟨"ROOT"⟩ .zero)).append root ⟨⟨"SYMBOL"⟩, .text "é", ⟨0, 1⟩⟩).2

end Tree

/-- The channel is full in the middle of a rune. -/
theorem Tree.writeDump_eq_prefix_narrow :
    Channel.narrow.Advancing ∧ symbolTree.dump = "[ROOT]\n  [SYMBOL] é\n" ∧
      (symbolTree.writeDump .narrow).2.held = "[ROOT]\n  [SYMBOL] é\n".toUTF8.extract 0 19 ∧
      (symbolTree.writeDump .narrow).1 = .error .tookNothing := by
  have hdump : symbolTree.dump = "[ROOT]\n  [SYMBOL] é\n" := by decide +kernel
  obtain ⟨hheld, -, hrefused, -⟩ := writeDump_eq_prefix symbolTree Channel.narrow_advancing
  rw [hdump] at hheld hrefused
  refine ⟨Channel.narrow_advancing, hdump, ?_, ?_⟩
  · rw [hheld]
    exact ByteArray.empty_append
  · exact hrefused (by decide +kernel)

end LexTree
