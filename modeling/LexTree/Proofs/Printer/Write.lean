import LexTree.Printer
import LexTree.Proofs.Channel.Outlet
import LexTree.Proofs.Channel.Write
import LexTree.Proofs.Lexer.Stream
import LexTree.Proofs.Text.Pieces

/-!
# Writing printed tokens

A token writer writes what its printer makes of the tokens, one after the other,
until the channel refuses some of it. After that it writes nothing any more.

- `TokenPrinter.printAll` is what a printer makes of some tokens.
- `TokenWriter.feed_eq_put`: feeding tokens puts what the printer makes of them.
- `Outlet.print` is `Outlet.printToken` for each of some tokens, on any outlet, so that
  the calls of a token writer can be noted (`Outlet.exists_noting_print`).
- `TokenWriter.feed_stops`: what the channel holds after any tokens, which calls
  were made of it, and how the writer finishes.
-/

namespace LexTree

/-! ## Printed tokens -/

namespace TokenPrinter

/-- What `printer` makes of `tokens`, one after the other. -/
def printAll (printer : TokenPrinter) (tokens : List Token) : String :=
  tokens.foldl (fun out t => out ++ printer t) ""

theorem foldl_eq_append_printAll (printer : TokenPrinter) (tokens : List Token) (out : String) :
    tokens.foldl (fun out t => out ++ printer t) out = out ++ printer.printAll tokens :=
  Text.foldl_append_eq printer tokens out

theorem printAll_cons (printer : TokenPrinter) (t : Token) (tokens : List Token) :
    printer.printAll (t :: tokens) = printer t ++ printer.printAll tokens := by
  rw [printAll, List.foldl_cons, foldl_eq_append_printAll, String.empty_append]

theorem toUTF8_printAll_cons (printer : TokenPrinter) (t : Token) (tokens : List Token) :
    (printer.printAll (t :: tokens)).toUTF8 =
      (printer t).toUTF8 ++ (printer.printAll tokens).toUTF8 := by
  rw [printAll_cons]
  exact String.toByteArray_append

theorem toList_printAll (printer : TokenPrinter) (tokens : List Token) :
    (printer.printAll tokens).toList = tokens.flatMap fun t => (printer t).toList := by
  rw [printAll, Text.toList_foldl_append]
  rfl

end TokenPrinter

/-! ## What is put -/

namespace TokenWriter

variable {c : Channel} {printer : TokenPrinter}

/-- The token writer that has tried to write something, with this `outcome`. -/
def after (printer : TokenPrinter) (outcome : Except WriteError Unit × Channel) : TokenWriter :=
  ⟨outcome.2, printer, Outlet.errorOf outcome.1⟩

/-- `write` puts what `printer` makes of a token, also if that is nothing. -/
theorem write_eq_put (hc : c.Advancing) (token : Token) :
    (new c printer).write token = after printer (c.put (printer token).toUTF8) := by
  have hput : Channel.outlet.writeAll c (printer token).toUTF8 = c.put (printer token).toUTF8 :=
    Channel.writeAll_eq_put hc _
  rw [new, write, Outlet.printToken]
  by_cases hempty : (printer token).isEmpty = true
  · have hsize : (printer token).toUTF8.size = 0 := by
      rw [String.isEmpty_iff.mp hempty]
      rfl
    simp only [hempty, if_true]
    rw [Channel.put_of_size_eq_zero hsize]
    rfl
  · simp only [hempty, hput]
    rcases c.put (printer token).toUTF8 with ⟨_ | _, next⟩ <;> rfl

/-- A writer with an error drops all tokens, whatever `c` would take. -/
theorem feed_of_error (e : WriteError) (c : Channel) (tokens : List Token) :
    sink.feed ⟨c, printer, some e⟩ tokens = ⟨c, printer, some e⟩ := by
  induction tokens with
  | nil => rfl
  | cons token tokens ih => exact ih

/-- Without an error, `finish` is up to the flush. -/
theorem finish_new (c : Channel) (printer : TokenPrinter) :
    (new c printer).finish = if c.flushFails then .error .flushFailed else .ok c := by
  have hflushed : Channel.outlet.finish ((new c printer).channel, (new c printer).error) =
      (c.flush, c) := rfl
  rw [finish, hflushed, Channel.flush]
  cases c.flushFails with
  | false => rfl
  | true => rfl

/-- Feeding `tokens` puts what `printer` makes of them. -/
theorem feed_eq_put (hc : c.Advancing) (tokens : List Token) :
    sink.feed (new c printer) tokens =
      after printer (c.put (printer.printAll tokens).toUTF8) := by
  induction tokens generalizing c with
  | nil =>
    have hsize : (printer.printAll []).toUTF8.size = 0 := rfl
    rw [Channel.put_of_size_eq_zero hsize]
    rfl
  | cons token tokens ih =>
    have hfirst : sink.feed (new c printer) (token :: tokens) =
        sink.feed ((new c printer).write token) tokens := rfl
    rw [hfirst, write_eq_put hc, TokenPrinter.toUTF8_printAll_cons, Channel.put_append]
    rcases hput : c.put (printer token).toUTF8 with ⟨e | _, next⟩
    · exact feed_of_error e next tokens
    · obtain rfl : c.taking (printer token).toUTF8 = next := congrArg Prod.snd hput
      exact ih hc

end TokenWriter

/-! ## Calls -/

namespace Outlet

variable {σ : Type} (o : Outlet σ)

/-- Writes `tokens` to the outlet one after the other, by `printToken`. -/
def print (printer : TokenPrinter) (session : σ × Option WriteError) (tokens : List Token) :
    σ × Option WriteError :=
  tokens.foldl (o.printToken printer) session

/-- `noting` changes nothing about `printToken`. Its calls go on after others only if all of those
have succeeded. -/
theorem exists_noting_printToken (printer : TokenPrinter) (s : σ) (error : Option WriteError)
    (calls : List Call) (h : StopAt error calls) (token : Token) :
    ∃ all, StopAt (o.printToken printer (s, error) token).2 all ∧
      o.noting.printToken printer ((s, calls), error) token =
        (((o.printToken printer (s, error) token).1, all),
          (o.printToken printer (s, error) token).2) := by
  cases error with
  | some e => exact ⟨calls, h, rfl⟩
  | none =>
    rw [printToken, printToken]
    by_cases hempty : (printer token).isEmpty = true
    · simp only [hempty, if_true]
      exact ⟨calls, h, rfl⟩
    · obtain ⟨more, hmore, hnoted⟩ := o.exists_noting_writeAll s calls (printer token).toUTF8
      refine ⟨calls ++ more, ?_⟩
      simp only [hempty, hnoted]
      rcases hwritten : o.writeAll s (printer token).toUTF8 with ⟨e | _, next⟩
      · rw [hwritten] at hmore
        exact ⟨h.append hmore, rfl⟩
      · rw [hwritten] at hmore
        exact ⟨h.append hmore, rfl⟩

/-- `noting` changes nothing about `print`, and no call that it notes follows one that failed. -/
theorem exists_noting_print (printer : TokenPrinter) (s : σ) (error : Option WriteError)
    (calls : List Call) (h : StopAt error calls) (tokens : List Token) :
    ∃ all, StopAt (o.print printer (s, error) tokens).2 all ∧
      o.noting.print printer ((s, calls), error) tokens =
        (((o.print printer (s, error) tokens).1, all),
          (o.print printer (s, error) tokens).2) := by
  induction tokens generalizing s error calls with
  | nil => exact ⟨calls, h, rfl⟩
  | cons token tokens ih =>
    obtain ⟨all, hall, hnoted⟩ := o.exists_noting_printToken printer s error calls h token
    rw [print, print, List.foldl_cons, List.foldl_cons, hnoted]
    exact ih _ _ all hall

end Outlet

namespace TokenWriter

variable {c : Channel} {printer : TokenPrinter}

/-- On `Channel.outlet`, `print` is what a token writer does. -/
theorem outlet_print (c : Channel) (printer : TokenPrinter) (error : Option WriteError)
    (tokens : List Token) :
    Channel.outlet.print printer (c, error) tokens =
      ((sink.feed ⟨c, printer, error⟩ tokens).channel,
        (sink.feed ⟨c, printer, error⟩ tokens).error) := by
  induction tokens generalizing c error with
  | nil => rfl
  | cons token tokens ih => exact ih _ _

/-- Whatever number of bytes each write takes, after `tokens` the channel of `v` holds as much of
`printed` as there is `room` for, behind what it held, and nothing else of it is changed. If there
is not room for all of it, `v` keeps the error of the full channel. That is the error of the first
of the noted `calls` that failed, and no call was made after it. `finish` then makes no call either,
and gives this error; otherwise it makes one more, the flush, and gives the error of that, or the
channel. -/
theorem feed_stops (printer : TokenPrinter) (tokens : List Token) (hc : c.Advancing) :
    let printed := (printer.printAll tokens).toUTF8
    let room := c.accepts printed.size
    let v := sink.feed (new c printer) tokens
    v.channel = c.holding (c.held ++ printed.extract 0 room) ∧
      v.error = (if room < printed.size then
        some (if c.silent then .tookNothing else .closed v.channel.held.size) else none) ∧
      v.finish = (if room < printed.size then
          .error (if c.silent then .tookNothing else .closed v.channel.held.size)
        else if c.flushFails then .error .flushFailed else .ok v.channel) ∧
      ∃ calls, Channel.outlet.noting.print printer ((c, []), none) tokens =
          ((v.channel, calls), v.error) ∧
        Outlet.StopAt v.error calls ∧
        Channel.outlet.noting.finish ((v.channel, calls), v.error) =
          (v.finish.map fun _ => (), v.channel,
            if room < printed.size then calls else calls ++ [.flush c.flush]) := by
  dsimp only
  have hstart : Outlet.StopAt none [] := fun _ h => nomatch h
  have hfeed : sink.feed (new c printer) tokens =
      after printer (c.put (printer.printAll tokens).toUTF8) := feed_eq_put hc tokens
  obtain ⟨calls, hstop, hnoted⟩ :=
    Channel.outlet.exists_noting_print printer c none [] hstart tokens
  have hsame : Channel.outlet.print printer (c, none) tokens =
      ((sink.feed (new c printer) tokens).channel, (sink.feed (new c printer) tokens).error) :=
    outlet_print c printer none tokens
  rw [hsame, hfeed] at hnoted hstop
  rw [hfeed, hnoted]
  generalize (printer.printAll tokens).toUTF8 = printed at hstop ⊢
  by_cases hlt : c.accepts printed.size < printed.size
  · rw [Channel.put_of_lt hlt] at hstop ⊢
    simp only [if_pos hlt]
    exact ⟨rfl, rfl, rfl, calls, rfl, hstop, rfl⟩
  · have hflush : (c.taking printed).flush = c.flush := rfl
    rw [Channel.put_of_le (Nat.not_lt.mp hlt)] at hstop ⊢
    simp only [if_neg hlt]
    refine ⟨rfl, rfl, finish_new (c.taking printed) printer, calls, rfl, hstop, ?_⟩
    have hfinish : (after printer (.ok (), c.taking printed)).finish.map (fun _ => ()) =
        c.flush := by
      show ((new (c.taking printed) printer).finish.map fun _ => ()) = _
      rw [← hflush, finish_new, Channel.flush]
      split
      · rfl
      · rfl
    rw [hfinish, ← hflush]
    rfl

/-- A token that is too long for `Channel.narrow`, after one that is left out, and a short one
behind it. -/
def longToken : List Token :=
  [⟨⟨"SYMBOL"⟩, "ab", 0, 0, 0⟩, ⟨⟨"WS"⟩, " ", 2, 0, 0⟩, ⟨⟨"STRING"⟩, "'much too long'", 3, 0, 0⟩,
    ⟨⟨"END"⟩, ")", 18, 0, 0⟩]

/-- The long token is cut off, the short one behind it is dropped, and nothing is flushed. -/
theorem feed_stops_narrow :
    let v := sink.feed (new .narrow (.angled [⟨"WS"⟩])) longToken
    Channel.narrow.Advancing ∧ v.channel.held = "<ab><'much too long".toUTF8 ∧
      v.finish = .error .tookNothing ∧
      ∃ calls, Channel.outlet.noting.print (.angled [⟨"WS"⟩]) ((.narrow, []), none) longToken =
          ((v.channel, calls), v.error) ∧
        Outlet.StopAt (some .tookNothing) calls ∧
        (Channel.outlet.noting.finish ((v.channel, calls), v.error)).2.2 = calls := by
  dsimp only
  obtain ⟨hchannel, herror, hfinish, calls, hnoted, hstop, hcalls⟩ :=
    feed_stops (.angled [⟨"WS"⟩]) longToken Channel.narrow_advancing
  have hprinted : TokenPrinter.printAll (.angled [⟨"WS"⟩]) longToken =
      "<ab><'much too long'><)>" := by decide +kernel
  have hroom : Channel.narrow.accepts "<ab><'much too long'><)>".toUTF8.size <
      "<ab><'much too long'><)>".toUTF8.size := by decide +kernel
  rw [hprinted] at hchannel herror hfinish hcalls
  rw [if_pos hroom] at herror hfinish hcalls
  refine ⟨Channel.narrow_advancing, ?_, hfinish, calls, hnoted, ?_, by rw [hcalls]⟩
  · rw [hchannel]
    decide +kernel
  · rw [herror] at hstop
    exact hstop

end TokenWriter

end LexTree
