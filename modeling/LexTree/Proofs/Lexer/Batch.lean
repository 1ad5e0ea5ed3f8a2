import LexTree.Format
import LexTree.Proofs.Lexer.Progress
import LexTree.Proofs.Lexer.Tiling
import LexTree.Proofs.Parser.Run
import LexTree.Proofs.Printer.Write
import LexTree.Proofs.Sexp.Listing

/-!
# Streaming and batching

It makes no difference whether a sink is fed while a text is scanned or with the
tokens of the text afterwards.

- `Lexer.lex_eq_feed_tokenize`: all sinks are fed the tokens of the text.
- `TokenWriter.feed_of_accepting`: a token writer writes what its printer makes of
  all tokens, one after the other.
- `streaming_eq_batching`: any sink and, in particular, trees and printed tokens.
-/

namespace LexTree

/-! ## Any sink -/

/-- Scanning `source` with `lex` ends by itself, and as `tokenize` does. What it makes of `output`
is what the tokens of `tokenize` make of it, one after the other. -/
theorem Lexer.lex_eq_feed_tokenize {l : Lexer} (hl : ∀ c ∈ l.consumers, c.Respectful)
    (source : String) :
    (l.tokenize source).status ≠ .endless ∧
      ∀ {σ : Type} (sink : Sink σ) (output : σ),
        (l.lex sink (.ofString source) output).output =
            sink.feed output (l.tokenize source).output.toList ∧
          (l.lex sink (.ofString source) output).status = (l.tokenize source).status ∧
          (l.lex sink (.ofString source) output).reader = (l.tokenize source).reader := by
  obtain ⟨tokens, status, reader, hended, hlex⟩ :=
    exists_lex_eq hl (r := .ofString source) (Nat.zero_le _)
  obtain ⟨_, hcollected⟩ := hlex .collect #[]
  have htokens : (Sink.collect.feed #[] tokens).toList = tokens := by
    rw [Sink.feed_collect, Array.empty_append]
  rw [tokenize, hcollected, htokens]
  refine ⟨hended, fun sink output => ?_⟩
  obtain ⟨_, hstreamed⟩ := hlex sink output
  rw [hstreamed]
  exact ⟨rfl, rfl, rfl⟩

/-! ## Printed tokens -/

theorem TokenFormat.render_plain (tokens : List Token) (palette : Palette) :
    TokenFormat.plain.render tokens palette = TokenPrinter.plain.printAll tokens := rfl

/-- A channel that takes all bytes that it is ever offered, however few at a time. -/
structure Channel.Accepting (c : Channel) : Prop where
  limit_eq : c.limit = none
  advancing : c.Advancing

theorem Channel.Accepting.fits {c : Channel} (hc : c.Accepting) (size : Nat) : c.Fits size := by
  intro limit hlimit
  rw [hc.limit_eq] at hlimit
  cases hlimit

theorem Channel.unlimited_accepting : unlimited.Accepting := ⟨rfl, fun _ h => nomatch h⟩

namespace TokenWriter

variable {c : Channel} {printer : TokenPrinter}

/-- A channel that refuses nothing holds what `printer` makes of `tokens` behind what it held. -/
theorem feed_of_accepting (hc : c.Accepting) (tokens : List Token) :
    sink.feed (new c printer) tokens =
      new (c.holding (c.held ++ (printer.printAll tokens).toUTF8)) printer := by
  have haccepts := Channel.accepts_of_fits (hc.fits (printer.printAll tokens).toUTF8.size)
  have hput : c.put (printer.printAll tokens).toUTF8 =
      (.ok (), c.holding (c.held ++ (printer.printAll tokens).toUTF8)) := by
    rw [Channel.put_of_le (Nat.le_of_eq haccepts.symm), Channel.taking_of_accepts haccepts]
  rw [feed_eq_put hc.advancing, hput]
  rfl

end TokenWriter

/-! ## All together -/

/-- With consumers that leave the marks of others alone, `lex` ends by itself for any `sink`, with
the status and the reader of `tokenize`; what it makes of `output` is what the tokens of `tokenize`
make of it, one after the other. So `TokenWriter.sink` on a channel that refuses nothing writes what
`TokenFormat.render` makes of the tokens, and `Sexp.parse` reads `source` as the tree that the
parser makes of them. -/
theorem streaming_eq_batching (source : String) :
    (∀ l : Lexer, (∀ c ∈ l.consumers, c.Respectful) →
      (l.tokenize source).status ≠ .endless ∧
      (∀ {σ : Type} (sink : Sink σ) (output : σ),
        let session := l.lex sink (.ofString source) output
        session.output = sink.feed output (l.tokenize source).output.toList ∧
          session.status = (l.tokenize source).status ∧
          session.reader = (l.tokenize source).reader) ∧
      ∀ (c : Channel) (palette : Palette), c.Accepting →
        (l.lex TokenWriter.sink (.ofString source) (.new c .plain)).output =
          .new (c.holding (c.held ++
            (TokenFormat.plain.render (l.tokenize source).output.toList palette).toUTF8)) .plain) ∧
    let p := (Sexp.parser.parse (Sexp.tokenize source).output.toList).1
    (Sexp.parse source).tree = p.tree ∧ (Sexp.parse source).diagnostics = p.diagnostics ∧
      (Sexp.parse source).unclosed = p.tree.depth p.current ∧
      (Sexp.parse source).status = (Sexp.tokenize source).status := by
  refine ⟨fun l hl => ?_, ?_⟩
  · obtain ⟨hended, hlex⟩ := Lexer.lex_eq_feed_tokenize hl source
    refine ⟨hended, hlex, fun c palette hc => ?_⟩
    rw [(hlex TokenWriter.sink _).1, TokenWriter.feed_of_accepting hc, TokenFormat.render_plain]
  · obtain ⟨log, hparse⟩ := Sexp.parse_eq_feed source
    obtain ⟨_, _, htokens⟩ := Sexp.exists_tokenize_eq source
    have hparser : (Sexp.parser.parse (Sexp.stream 0 source.toList).all).1 =
        Parser.sink.feed Sexp.parser (Sexp.stream 0 source.toList).all :=
      Sexp.parser.after_eq_feed _
    rw [hparse, htokens, hparser]
    exact ⟨rfl, rfl, rfl, rfl⟩

/-- A channel that takes one byte at a time. -/
def Channel.byteByByte : Channel := { Channel.unlimited with chunk := fun _ => some 1 }

theorem Channel.byteByByte_accepting : byteByByte.Accepting :=
  ⟨rfl, fun _ h => absurd (Option.some.inj h) Nat.one_ne_zero⟩

/-- Two tokens, and the error at the rune where the scan fails, are written byte by byte. -/
theorem streaming_eq_batching_wordLexer :
    (∀ c ∈ Lexer.wordLexer.consumers, c.Respectful) ∧ Channel.byteByByte.Accepting ∧
      (Lexer.wordLexer.lex TokenWriter.sink (.ofString "(ab'")
        (.new .byteByByte .plain)).output.channel.held =
        (TokenPrinter.plain ⟨⟨"OPEN"⟩, "(", 0, 0, 0⟩ ++
          TokenPrinter.plain ⟨⟨"WORD"⟩, "ab", 1, 0, 0⟩ ++
          TokenPrinter.plain ⟨⟨"ERR"⟩, "No valid token found", 3, 0, 0⟩).toUTF8 := by
  have hrespectful : ∀ c ∈ Lexer.wordLexer.consumers, c.Respectful :=
    fun c hc => (Lexer.wordLexer_balanced c hc).1
  have htokens : (Lexer.wordLexer.tokenize "(ab'").output.toList =
      [⟨⟨"OPEN"⟩, "(", 0, 0, 0⟩, ⟨⟨"WORD"⟩, "ab", 1, 0, 0⟩,
        ⟨⟨"ERR"⟩, "No valid token found", 3, 0, 0⟩] := by
    rw [(Lexer.tokenize_eq_isolatedScan Lexer.wordLexer_balanced _).1]
    decide +kernel
  obtain ⟨-, -, hwritten⟩ := (streaming_eq_batching "(ab'").1 Lexer.wordLexer hrespectful
  refine ⟨hrespectful, Channel.byteByByte_accepting, ?_⟩
  rw [hwritten _ .empty Channel.byteByByte_accepting, htokens, TokenFormat.render_plain]
  simp only [TokenPrinter.printAll, List.foldl_cons, List.foldl_nil, String.empty_append]
  exact ByteArray.empty_append

end LexTree
