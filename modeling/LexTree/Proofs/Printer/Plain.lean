import LexTree.Format
import LexTree.Proofs.Printer.Write
import LexTree.Proofs.Text.Quoted
import Mathlib.Data.List.Forall2

/-!
# Tokens read off their lines

A line says where each of its parts ends: the name of the type at the first colon,
the value at the first quote that is not escaped, and the offset at the first rune
that is no digit.

- `TokenPrinter.plain_append_inj`: the type, the value and the offset are determined
  by any text that begins with the line, and so is what follows it.
- `TokenPrinter.count_plain`: a line has one line break, which is at its end.
- `TokenFormat.render_plain_eq_iff`: the lines of some tokens are those of others if
  and only if the tokens are alike.
-/

namespace LexTree

/-- What is in front of the first `c`, and what is behind it, are determined by the whole. -/
theorem append_cons_inj_of_not_mem {α : Type} {c : α} {u v x y : List α} (hu : c ∉ u) (hv : c ∉ v)
    (h : u ++ c :: x = v ++ c :: y) : u = v ∧ x = y := by
  induction u generalizing v with
  | nil =>
    cases v with
    | nil => exact ⟨rfl, (List.cons.inj h).2⟩
    | cons b v => exact absurd ((List.cons.inj h).1 ▸ List.mem_cons_self) hv
  | cons a u ih =>
    cases v with
    | nil => exact absurd ((List.cons.inj h).1 ▸ List.mem_cons_self) hu
    | cons b v =>
      obtain ⟨rfl, htail⟩ := List.cons.inj h
      obtain ⟨rfl, rfl⟩ := ih (fun hc => hu (List.mem_cons_of_mem _ hc))
        (fun hc => hv (List.mem_cons_of_mem _ hc)) htail
      exact ⟨rfl, rfl⟩

/-- Tokens of the same type and the same value at the same offset. -/
def Token.Alike (t u : Token) : Prop :=
  t.type = u.type ∧ t.value = u.value ∧ t.offset = u.offset

namespace TokenPrinter

/-- `toString n` is written in digits. -/
theorem not_mem_toList_toString {c : Char} (hc : c.isDigit = false) (n : Nat) :
    c ∉ (toString n).toList := fun hmem => by
  rw [Nat.toString_eq_ofList_toDigits, String.toList_ofList] at hmem
  rw [Nat.isDigit_of_mem_toDigits (by decide) (by decide) hmem] at hc
  cases hc

theorem toList_toString_inj {m n : Nat} (h : (toString m).toList = (toString n).toList) :
    m = n := by
  rw [Nat.toString_eq_ofList_toDigits, Nat.toString_eq_ofList_toDigits, String.toList_ofList,
    String.toList_ofList] at h
  have hvalue := congrArg (Nat.ofDigitChars 10 · 0) h
  rwa [Nat.ofDigitChars_ten_toDigits, Nat.ofDigitChars_ten_toDigits] at hvalue

theorem toList_plain (t : Token) :
    (plain t).toList = t.type.name.toList ++ ':' :: (" '".toList ++
      ((Text.quote t.value).toList ++ ("'  [".toList ++ ((toString t.offset).toList ++
        ':' :: ((toString t.stop).toList ++ "]\n".toList))))) := by
  simp [plain]

/-- A line determines the type, the value and the offset of its token, and where it ends. -/
theorem plain_append_inj {t u : Token} (ht : ':' ∉ t.type.name.toList)
    (hu : ':' ∉ u.type.name.toList) {x y : List Char}
    (h : (plain t).toList ++ x = (plain u).toList ++ y) :
    t.Alike u ∧ x = y := by
  simp only [toList_plain, List.append_assoc, List.cons_append] at h
  obtain ⟨hname, hvalue⟩ := append_cons_inj_of_not_mem ht hu h
  obtain ⟨hvalue, hrange⟩ := Text.quote_append_inj (List.append_cancel_left hvalue)
  obtain ⟨hoffset, hstop⟩ := append_cons_inj_of_not_mem (not_mem_toList_toString (by decide) _)
    (not_mem_toList_toString (by decide) _) (List.append_cancel_left hrange)
  have hoffset : t.offset = u.offset := toList_toString_inj hoffset
  -- The place where the token stops is known from the other two, and is the same.
  have hstops : t.stop = u.stop := by
    rw [Token.stop, Token.stop, Token.length, hvalue, hoffset]
    rfl
  rw [hstops] at hstop
  have hrest := List.append_cancel_left (List.append_cancel_left hstop)
  exact ⟨⟨congrArg TokenType.mk (String.toList_inj.mp hname), hvalue, hoffset⟩, hrest⟩

/-- The only line break of a line of `plain` is the one at its end. -/
theorem count_plain {t : Token} (ht : '\n' ∉ t.type.name.toList) :
    (plain t).toList.count '\n' = 1 := by
  have hquote := List.count_eq_zero.mpr (Text.newline_not_mem_quote t.value)
  have hnumber (n : Nat) : (toString n).toList.count '\n' = 0 :=
    List.count_eq_zero.mpr (not_mem_toList_toString (by decide) n)
  rw [toList_plain]
  simp only [List.count_append, List.count_cons, hquote, hnumber, List.count_eq_zero.mpr ht]
  rfl

theorem count_printAll {tokens : List Token} (h : ∀ t ∈ tokens, '\n' ∉ t.type.name.toList) :
    (plain.printAll tokens).toList.count '\n' = tokens.length := by
  rw [toList_printAll]
  induction tokens with
  | nil => rfl
  | cons t tokens ih =>
    obtain ⟨ht, htokens⟩ := List.forall_mem_cons.mp h
    rw [List.flatMap_cons, List.count_append, count_plain ht, ih htokens, List.length_cons,
      Nat.add_comm]

/-- Two rows of lines are the same only if they are line by line. -/
theorem alike_of_printAll_eq {ts us : List Token} (hts : ∀ t ∈ ts, ':' ∉ t.type.name.toList)
    (hus : ∀ u ∈ us, ':' ∉ u.type.name.toList) (h : plain.printAll ts = plain.printAll us) :
    List.Forall₂ Token.Alike ts us := by
  have hne (t : Token) (x : List Char) : (plain t).toList ++ x ≠ [] := by simp [toList_plain]
  rw [← String.toList_inj, toList_printAll, toList_printAll] at h
  induction ts generalizing us with
  | nil =>
    cases us with
    | nil => exact .nil
    | cons u us => exact absurd h.symm (hne u _)
  | cons t ts ih =>
    cases us with
    | nil => exact absurd h (hne t _)
    | cons u us =>
      obtain ⟨ht, hts⟩ := List.forall_mem_cons.mp hts
      obtain ⟨hu, hus⟩ := List.forall_mem_cons.mp hus
      obtain ⟨hsame, hrest⟩ := plain_append_inj ht hu h
      exact .cons hsame (ih hts hus hrest)

theorem printAll_eq_of_alike {ts us : List Token} (h : List.Forall₂ Token.Alike ts us) :
    plain.printAll ts = plain.printAll us := by
  induction h with
  | nil => rfl
  | @cons t u _ _ hsame _ ih =>
    obtain ⟨htype, hvalue, hoffset⟩ := hsame
    have hline : plain t = plain u := by
      simp only [plain, Token.stop, Token.length, htype, hvalue, hoffset]
    rw [printAll_cons, printAll_cons, hline, ih]

end TokenPrinter

/-- Of tokens whose types have no colon and no line break in their names, `TokenFormat.plain` shows
as many lines as there are tokens, whatever their values are. It shows `ts` and `us` the same way if
and only if there are as many tokens in the one as in the other, and they are, one by one, of the
same type and the same value at the same offset. -/
theorem TokenFormat.render_plain_eq_iff {ts us : List Token}
    (hts : ∀ t ∈ ts, ':' ∉ t.type.name.toList ∧ '\n' ∉ t.type.name.toList)
    (hus : ∀ u ∈ us, ':' ∉ u.type.name.toList ∧ '\n' ∉ u.type.name.toList) (p q : Palette) :
    (TokenFormat.plain.render ts p).toList.count '\n' = ts.length ∧
      (TokenFormat.plain.render us q).toList.count '\n' = us.length ∧
      (TokenFormat.plain.render ts p = TokenFormat.plain.render us q ↔
        ts.length = us.length ∧ List.Forall₂ Token.Alike ts us) := by
  have hrender (tokens : List Token) (palette : Palette) :
      TokenFormat.plain.render tokens palette = TokenPrinter.plain.printAll tokens := rfl
  rw [hrender, hrender]
  refine ⟨TokenPrinter.count_printAll fun t ht => (hts t ht).2,
    TokenPrinter.count_printAll fun u hu => (hus u hu).2, fun h => ?_, fun h => ?_⟩
  · have halike := TokenPrinter.alike_of_printAll_eq (fun t ht => (hts t ht).1)
      (fun u hu => (hus u hu).1) h
    exact ⟨halike.length_eq, halike⟩
  · exact TokenPrinter.printAll_eq_of_alike h.2

/-- A token whose value reads as the end of its line and the line of another one. -/
theorem TokenFormat.render_plain_eq_iff_forged :
    let forged : List Token := [⟨⟨"WORD"⟩, "a\"'  [0:1]\nWORD: '\"b", 0, 0, 0⟩]
    let honest : List Token := [⟨⟨"WORD"⟩, "a", 0, 0, 0⟩, ⟨⟨"WORD"⟩, "b", 1, 0, 0⟩]
    (∀ t ∈ forged, ':' ∉ t.type.name.toList ∧ '\n' ∉ t.type.name.toList) ∧
      (∀ t ∈ honest, ':' ∉ t.type.name.toList ∧ '\n' ∉ t.type.name.toList) ∧
      (TokenFormat.plain.render forged .empty).toList.count '\n' = 1 ∧
      (TokenFormat.plain.render honest .empty).toList.count '\n' = 2 ∧
      TokenFormat.plain.render forged .empty ≠ TokenFormat.plain.render honest .empty := by
  intro forged honest
  have hforged : ∀ t ∈ forged, ':' ∉ t.type.name.toList ∧ '\n' ∉ t.type.name.toList := by
    simp [forged]
  have hhonest : ∀ t ∈ honest, ':' ∉ t.type.name.toList ∧ '\n' ∉ t.type.name.toList := by
    simp [honest]
  obtain ⟨hone, htwo, hiff⟩ := render_plain_eq_iff hforged hhonest .empty .empty
  exact ⟨hforged, hhonest, hone, htwo, fun h => absurd (hiff.mp h).1 (by decide)⟩

end LexTree
