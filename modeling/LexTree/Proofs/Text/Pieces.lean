/-!
# Texts put together from pieces

The printers add a piece of text for each of some things to what there is already.

- `toList_foldl_append`: the runes of such a text.
- `foldl_append_eq`: what there is already stays in front.
-/

namespace LexTree.Text

variable {α : Type}

theorem toList_foldl_append (piece : α → String) (xs : List α) (out : String) :
    (xs.foldl (fun out x => out ++ piece x) out).toList =
      out.toList ++ xs.flatMap fun x => (piece x).toList := by
  induction xs generalizing out with
  | nil => exact (List.append_nil _).symm
  | cons x xs ih =>
    rw [List.foldl_cons, ih, String.toList_append, List.append_assoc, List.flatMap_cons]

theorem foldl_append_eq (piece : α → String) (xs : List α) (out : String) :
    xs.foldl (fun out x => out ++ piece x) out =
      out ++ xs.foldl (fun out x => out ++ piece x) "" := by
  rw [← String.toList_inj, String.toList_append, toList_foldl_append, toList_foldl_append]
  rfl

end LexTree.Text
