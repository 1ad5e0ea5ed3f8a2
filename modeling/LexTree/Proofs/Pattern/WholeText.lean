import LexTree.Proofs.Pattern.Counts
import LexTree.Proofs.Pattern.Words

/-!
# Patterns for whole texts

A pattern that is asked of whole texts is put in a group between anchors, as it is written.

- `Expr.ofPattern` is what a pattern means on its own.
- `regex_of_compile`: a pattern that can be asked of whole texts means something on its own, and
  that is asked between the ends of the text, unless it closes a group that it does not open.
- `accepts_iff_matches_whole`: then, and only then, is it a pattern, and exactly the texts are
  accepted that it matches from start to end.
- `accepts_unopened_group`: a text that is no pattern on its own can be one between the anchors,
  and then texts are accepted that go on after a match.
-/

namespace LexTree

open LexTree.Pattern LexTree.Pattern.Parser

namespace Pattern

/-- The expression that `pattern` stands for on its own. -/
def Expr.ofPattern (pattern : String) : Except PatternError Expr := do
  let ast ← Ast.parse pattern
  let (expr, _) ← ast.meaning .default
  .ok expr

/-- The group of `ast` between the anchors means what `ast` means, between the ends of the text. -/
theorem meaning_enclosed {ast : Ast} {p : Expr × Modes}
    (h : Ast.meaning .default (.concat [.assertion .lineStart, .group none [] ast,
      .assertion .lineEnd]) = .ok p) :
    ∃ expr after, ast.meaning .default = .ok (expr, after) ∧
      p.1 = .row [.look .textStart, expr, .look .textEnd] := by
  cases hast : ast.meaning .default with
  | error e =>
    simp only [Ast.meaning, Ast.meanings, Modes.setAll, List.foldl_nil, hast] at h
    cases h
  | ok q =>
    simp only [Ast.meaning, Ast.meanings, Modes.setAll, List.foldl_nil, hast] at h
    cases h
    exact ⟨q.1, q.2, rfl, rfl⟩

end Pattern

namespace AnchoredPattern

/-- What `compile` makes of a pattern that it accepts. -/
theorem compile_eq_ok_iff {pattern : String} {m : AnchoredPattern} :
    compile pattern = .ok m ↔ ∃ ast p, Ast.parse (enclose pattern) = .ok ast ∧
      ast.meaning .default = .ok p ∧ p.1.fits = true ∧ m = ⟨enclose pattern, p.1.regex⟩ := by
  unfold compile
  simp only [bind_eq_ok_iff]
  constructor
  · rintro ⟨ast, hast, p, hp, h⟩
    split at h
    · next hfits =>
      cases h
      exact ⟨ast, p, hast, hp, hfits, rfl⟩
    · cases h
  · rintro ⟨ast, p, hast, hp, hfits, rfl⟩
    exact ⟨ast, hast, p, hp, by rw [if_pos hfits]⟩

/-- A pattern that `compile` accepts stands for an expression `expr` on its own, which is asked
between the ends of the text, unless it closes a group that it does not open. -/
theorem regex_of_compile {pattern : String} {m : AnchoredPattern} (h : compile pattern = .ok m) :
    (∃ expr, Expr.ofPattern pattern = .ok expr ∧
        m.regex = (Expr.row [.look .textStart, expr, .look .textEnd]).regex) ∨
      Ast.parse pattern = .error .groupUnopened := by
  obtain ⟨whole, p, hwhole, hp, -, rfl⟩ := compile_eq_ok_iff.mp h
  obtain ⟨ast, hast, rfl⟩ | hopen := Ast.parse_enclose hwhole
  · left
    obtain ⟨expr, after, hexpr, hrow⟩ := meaning_enclosed hp
    refine ⟨expr, ?_, congrArg Expr.regex hrow⟩
    simp only [Expr.ofPattern, hast, hexpr, bind, Except.bind]
  · exact .inr hopen

/-- `accepts` holds of a text if and only if `m.regex` matches somewhere in it. -/
theorem accepts_iff_of_compile {pattern : String} {m : AnchoredPattern}
    (h : compile pattern = .ok m) (text : String) :
    m.accepts text = true ↔ ∃ i j, i ≤ text.toList.toArray.size ∧
      Matches text.toList.toArray m.regex i j := by
  obtain ⟨whole, p, hwhole, hp, -, rfl⟩ := compile_eq_ok_iff.mp h
  exact occursIn_iff ((Ast.parse_counted hwhole).meaning hp).bounded

/-- A pattern that `compile` accepts is one that `Expr.ofPattern` accepts if and only if it does not
close a group that it does not open. Then `m` accepts exactly the texts that the pattern matches
from start to end. -/
theorem accepts_iff_matches_whole {pattern : String} {m : AnchoredPattern}
    (h : compile pattern = .ok m) :
    ((∃ expr, Expr.ofPattern pattern = .ok expr) ↔ Ast.parse pattern ≠ .error .groupUnopened) ∧
      ∀ expr, Expr.ofPattern pattern = .ok expr → ∀ text : String,
        (m.accepts text = true ↔ Matches text.toList.toArray expr.regex 0 text.length) := by
  have hunopened : Ast.parse pattern = .error .groupUnopened →
      ∀ expr, Expr.ofPattern pattern ≠ .ok expr := by
    intro hopen expr hexpr
    rw [Expr.ofPattern, hopen] at hexpr
    cases hexpr
  obtain ⟨expr, hexpr, hregex⟩ | hopen := regex_of_compile h
  · refine ⟨⟨fun _ hopen => hunopened hopen expr hexpr, fun _ => ⟨expr, hexpr⟩⟩, ?_⟩
    intro expr' hexpr' text
    rw [hexpr] at hexpr'
    cases hexpr'
    have hrow := Expr.alike_row [.look .textStart, expr, .look .textEnd] text.toList.toArray
    rw [accepts_iff_of_compile h, hregex, ← String.length_toList, ← List.size_toArray]
    simp only [hrow]
    exact matches_anchored_iff
  · refine ⟨⟨fun ⟨expr, hexpr⟩ => ?_, fun hno => absurd hopen hno⟩, fun expr hexpr => ?_⟩
    · exact absurd hexpr (hunopened hopen expr)
    · exact absurd hexpr (hunopened hopen expr)

/-- A pattern of two branches is asked for the texts that are one of them. -/
theorem accepts_iff_matches_whole_branches :
    ∃ m expr, compile "a|bc" = .ok m ∧ Expr.ofPattern "a|bc" = .ok expr ∧
      ∀ text : String,
        m.accepts text = true ↔ Matches text.toList.toArray expr.regex 0 text.length := by
  have hcompile : ∃ m, compile "a|bc" = .ok m := ⟨_, rfl⟩
  obtain ⟨m, hm⟩ := hcompile
  have hparse : Ast.parse "a|bc" ≠ .error .groupUnopened := nofun
  obtain ⟨expr, hexpr⟩ := (accepts_iff_matches_whole hm).1.mpr hparse
  exact ⟨m, expr, hm, hexpr, (accepts_iff_matches_whole hm).2 expr hexpr⟩

/-- A text that is no pattern on its own, but one between the anchors: there it is the choice of a
start and an end, and a text is accepted that goes on after that start. -/
theorem accepts_unopened_group :
    ∃ m, compile "a)|(b" = .ok m ∧ m.accepts "ax" = true ∧
      ¬ ∃ expr, Expr.ofPattern "a)|(b" = .ok expr ∧
        Matches "ax".toList.toArray expr.regex 0 "ax".length := by
  have hcompile : ∃ m, compile "a)|(b" = .ok m ∧ m.accepts "ax" = true :=
    ⟨_, rfl, by decide +kernel⟩
  obtain ⟨m, hm, haccepts⟩ := hcompile
  refine ⟨m, hm, haccepts, ?_⟩
  rintro ⟨expr, hexpr, -⟩
  cases hexpr

end AnchoredPattern

end LexTree
