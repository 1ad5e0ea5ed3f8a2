import LexTree.Proofs.Sexp.Form

/-!
# Cutting texts between tokens

A text that is read to its end may be cut where a token starts: the tokens of the
two parts are those before the cut and those behind it.

- `lexeme?_take`: a lexeme is not changed by what follows it, unless that is a
  point, which numbers look at and only numbers go on with.
- `stream_add`: the stream of a text that starts elsewhere.
- `exists_cut`: the streams of both parts, for every token of a complete stream.
- `tokenize_split`: the tokens of both parts of a text.
-/

namespace LexTree

/-! ## Runs and closing quotes of a cut text -/

/-- `takeWhile` does not look behind a rune that is not accepted. -/
theorem takeWhile_append_of_head {p : Char → Bool} {rest : List Char} (w : List Char)
    (hrest : ∀ c ∈ rest.head?, p c = false) : (w ++ rest).takeWhile p = w.takeWhile p := by
  induction w with
  | nil => exact Sexp.takeWhile_eq_nil hrest
  | cons c w ih => rw [List.cons_append, List.takeWhile_cons, List.takeWhile_cons, ih]

theorem head?_dropWhile_eq_false (p : Char → Bool) (w : List Char) :
    ∀ c ∈ (w.dropWhile p).head?, p c = false := by
  intro c hc
  have hnot := List.head?_dropWhile_not p w
  rw [Option.mem_def.mp hc] at hnot
  exact hnot

/-- `takeWhile` is the same without what is cut off behind it. -/
theorem takeWhile_take {p : Char → Bool} {w : List Char} {n : Nat}
    (hn : (w.takeWhile p).length ≤ n) : (w.take n).takeWhile p = w.takeWhile p := by
  rw [← List.take_takeWhile, List.take_of_length_le hn]

/-- A literal that ends before a cut ends there without what is cut off. -/
theorem Reader.closing?_take {q : Char} {w : List Char} {j n : Nat} (h : closing? q w = some j)
    (hn : j < n) : closing? q (w.take n) = some j := by
  have hlt := (closing?_bounds h).2
  rw [closing?, List.find?_range_eq_some] at h ⊢
  obtain ⟨hj, -, hleast⟩ := h
  have hsame : ∀ i ≤ j, (w.take n)[i]? = w[i]? := by
    intro i hi
    rw [List.getElem?_take_of_lt (by omega)]
  refine ⟨?_, ?_, fun i hi => ?_⟩
  · rw [hsame j (Nat.le_refl j), hsame (j - 1) (Nat.sub_le j 1)]
    exact hj
  · rw [List.mem_range, List.length_take]
    omega
  · rw [hsame i (Nat.le_of_lt hi), hsame (i - 1) (by omega)]
    exact hleast i hi

/-- `quoted?` is the same without what is cut off behind the literal. -/
theorem Lexeme.quoted?_take {type : TokenType} {q : Char} {w : List Char} {x : Lexeme} {n : Nat}
    (h : quoted? type q w = some x) (hn : x.length ≤ n + 1) :
    quoted? type q (w.take n) = some x := by
  obtain ⟨j, hj, rfl⟩ := Option.map_eq_some_iff.mp h
  have hclose : Reader.closing? q (q :: w.take n) = some j :=
    Reader.closing?_take (n := n + 1) hj hn
  have htake : (q :: w.take n).take (j + 1) = (q :: w).take (j + 1) := by
    rw [List.take_succ_cons, List.take_succ_cons, List.take_take,
      Nat.min_eq_left (Nat.le_of_succ_le_succ hn)]
  rw [quoted?, hclose, Option.map_some, htake]

namespace Sexp

/-! ## One lexeme -/

/-- What stands behind a lexeme starts no run of digits and points: a symbol ends before a rune that
is neither of its own kind nor, in a text that goes on with lexemes, a point. -/
theorem isNumberRune_of_head? {w : List Char}
    (hpoint : (w.dropWhile isSymbolRune).head? ≠ some '.') :
    ∀ c ∈ (w.dropWhile isSymbolRune).head?, isNumberRune c = false := by
  intro c hc
  have hsymbol := head?_dropWhile_eq_false isSymbolRune w c hc
  have hdigit : Text.isAsciiDigit c = false := by
    rw [← Bool.not_eq_true]
    intro hd
    rw [isSymbolRune_of_isAsciiDigit hd] at hsymbol
    cases hsymbol
  have hne : c ≠ '.' := by
    rintro rfl
    exact hpoint hc
  rw [isNumberRune, hdigit, beq_eq_false_iff_ne.mpr hne]
  rfl

/-- The digits at the start of a symbol that no point follows are part of it. -/
theorem length_takeWhile_isNumberRune_le {w : List Char}
    (hpoint : (w.dropWhile isSymbolRune).head? ≠ some '.') :
    (w.takeWhile isNumberRune).length ≤ (w.takeWhile isSymbolRune).length := by
  have hrun : w.takeWhile isNumberRune = (w.takeWhile isSymbolRune).takeWhile isNumberRune := by
    conv_lhs => rw [← List.takeWhile_append_dropWhile (p := isSymbolRune) (l := w)]
    exact takeWhile_append_of_head _ (isNumberRune_of_head? hpoint)
  rw [hrun]
  exact (List.takeWhile_prefix _).length_le

theorem drop_length_run (type : TokenType) (p : Char → Bool) (c : Char) (w : List Char) :
    (c :: w).drop (Lexeme.run type p c w).length = w.dropWhile p := by
  have hdrop : (w.takeWhile p ++ w.dropWhile p).drop (w.takeWhile p).length = w.dropWhile p :=
    List.drop_left
  rw [List.takeWhile_append_dropWhile] at hdrop
  exact hdrop

theorem run_take {type : TokenType} {p : Char → Bool} {c : Char} {w : List Char} {n : Nat}
    (hn : (Lexeme.run type p c w).length ≤ n + 1) :
    Lexeme.run type p c (w.take n) = Lexeme.run type p c w := by
  have hrun := takeWhile_take (Nat.le_of_succ_le_succ hn)
  simp only [Lexeme.run, hrun]

/-- `lexeme?` is the same without what is cut off behind the lexeme, if no point follows it. -/
theorem lexeme?_take {w : List Char} {x : Lexeme} (h : lexeme? w = some x)
    (hpoint : (w.drop x.length).head? ≠ some '.') {n : Nat} (hn : x.length ≤ n) :
    lexeme? (w.take n) = some x := by
  cases w with
  | nil => cases h
  | cons c w =>
    obtain ⟨n, rfl⟩ : ∃ m, n = m + 1 := ⟨n - 1, by have := x.length_pos; omega⟩
    rw [List.take_succ_cons]
    rw [lexeme?] at h ⊢
    split at h
    · next hstart => rw [if_pos hstart, h]
    next hstart =>
    rw [if_neg hstart]
    split at h
    · next hstop => rw [if_pos hstop, h]
    next hstop =>
    rw [if_neg hstop]
    split at h
    · next hblank =>
      cases h
      rw [if_pos hblank, run_take hn]
    next hblank =>
    rw [if_neg hblank]
    split at h
    · next hnumber =>
      cases h
      rw [takeWhile_take (Nat.le_of_succ_le_succ hn), if_pos hnumber, run_take hn]
    next hnumber =>
    split at h
    · -- The digits and points that are no number together are not fewer without what is cut off.
      next hsymbol =>
      cases h
      rw [drop_length_run] at hpoint
      have hle := length_takeWhile_isNumberRune_le hpoint
      rw [takeWhile_take (Nat.le_trans hle (Nat.le_of_succ_le_succ hn)), if_neg hnumber,
        if_pos hsymbol, run_take hn]
    next hsymbol =>
    split at h
    · next hquote =>
      -- Neither a quote nor what follows it is a number.
      have hdigit : Text.isAsciiDigit c = false := by
        rw [← Bool.not_eq_true]
        exact fun hd => hsymbol (isSymbolRune_of_isAsciiDigit hd)
      rw [hdigit, Bool.false_and, if_neg Bool.false_ne_true, if_neg hsymbol, if_pos hquote]
      exact Lexeme.quoted?_take h hn
    · cases h

/-! ## Streams -/

/-- The `stream` from `offset + k` has the tokens of that from `offset`, each `k` runes on, and ends
alike. -/
theorem stream_add (offset k : Nat) (w : List Char) :
    (stream (offset + k) w).all =
        (stream offset w).all.map (fun t => { t with offset := t.offset + k }) ∧
      ((stream (offset + k) w).status = .complete ↔ (stream offset w).status = .complete) := by
  induction offset, w using stream.induct with
  | case1 offset =>
    rw [stream, stream]
    exact ⟨rfl, Iff.rfl⟩
  | case2 offset c w x hx ih =>
    obtain ⟨hall, hstatus⟩ := ih
    rw [stream, stream, hx]
    rw [Nat.add_right_comm] at hall hstatus
    refine ⟨?_, hstatus⟩
    rw [Stream.all_cons, Stream.all_cons, hall, List.map_cons]
    rfl
  | case3 offset c w hx =>
    rw [stream, stream, hx]
    exact ⟨rfl, iff_of_false ScanStatus.noConfusion ScanStatus.noConfusion⟩

/-- No token of `stream` is before its `offset`. -/
theorem le_offset_of_mem_stream (offset : Nat) (w : List Char) :
    ∀ t ∈ (stream offset w).all, offset ≤ t.offset := by
  induction offset, w using stream.induct with
  | case1 offset =>
    rw [stream]
    exact List.forall_mem_singleton.mpr (Nat.le_refl offset)
  | case2 offset c w x hx ih =>
    rw [stream, hx]
    exact List.forall_mem_cons.mpr ⟨Nat.le_refl offset, fun t ht =>
      Nat.le_trans (Nat.le_add_right _ _) (ih t ht)⟩
  | case3 offset c w hx =>
    rw [stream, hx]
    exact List.forall_mem_singleton.mpr (Nat.le_refl offset)

/-- No lexeme starts with a point, so that a complete stream does not go on with one. -/
theorem head?_ne_point {offset : Nat} {w : List Char}
    (h : (stream offset w).status = .complete) : w.head? ≠ some '.' := by
  intro hpoint
  obtain ⟨w, rfl⟩ := List.head?_eq_some_iff.mp hpoint
  have hnone : lexeme? ('.' :: w) = none := by
    have hdigit : Text.isAsciiDigit '.' = false := by decide
    rw [lexeme?, if_neg (by decide), if_neg (by decide), if_neg (by decide), hdigit,
      Bool.false_and, if_neg Bool.false_ne_true, if_neg (by decide), if_neg (by decide)]
  rw [stream, hnone] at h
  cases h

/-- A stream cut after `n` runes of its text, at `place`: it falls into the tokens `before` the
cut, which but for the end are all that these runes give alone, and the stream of what is left. -/
structure Cut (offset : Nat) (w : List Char) (place n : Nat) (before : List Token) : Prop where
  place_eq : place = offset + n
  before_lt : ∀ u ∈ before, u.offset < place
  all_eq : (stream offset w).all = before ++ (stream place (w.drop n)).all
  rest_complete : (stream place (w.drop n)).status = .complete
  take_eq : stream offset (w.take n) =
    ⟨before, ⟨endType, "", place, 0, 0⟩, .complete⟩

namespace Cut

/-- Nothing is before the start. -/
theorem start {offset : Nat} {w : List Char} (h : (stream offset w).status = .complete) :
    Cut offset w offset 0 [] where
  place_eq := rfl
  before_lt := fun u hu => (nomatch hu)
  all_eq := rfl
  rest_complete := h
  take_eq := by
    rw [List.take_zero, stream]
    rfl

/-- A cut behind the lexeme `x` leaves it as it is. -/
theorem cons {offset place n : Nat} {c : Char} {w : List Char} {before : List Token} {x : Lexeme}
    (hx : lexeme? (c :: w) = some x)
    (hrest : (stream (offset + x.length) ((c :: w).drop x.length)).status = .complete)
    (h : Cut (offset + x.length) ((c :: w).drop x.length) place n before) :
    Cut offset (c :: w) place (x.length + n) (x.token offset :: before) where
  place_eq := by rw [h.place_eq, Nat.add_assoc]
  before_lt := by
    have hpos := x.length_pos
    have hplace := h.place_eq
    refine List.forall_mem_cons.mpr ⟨?_, h.before_lt⟩
    show offset < place
    omega
  all_eq := by
    rw [stream, hx, Stream.all_cons, h.all_eq, List.drop_drop, List.cons_append]
  rest_complete := by
    rw [← List.drop_drop]
    exact h.rest_complete
  take_eq := by
    obtain ⟨m, hm⟩ : ∃ m, x.length + n = m + 1 := ⟨x.length + n - 1, by
      have := x.length_pos
      omega⟩
    have hlexeme : lexeme? ((c :: w).take (x.length + n)) = some x :=
      lexeme?_take hx (head?_ne_point hrest) (Nat.le_add_right x.length n)
    have hdrop : ((c :: w).take (x.length + n)).drop x.length =
        ((c :: w).drop x.length).take n := by
      rw [List.drop_take, Nat.add_sub_cancel_left]
    rw [hm, List.take_succ_cons] at hlexeme hdrop ⊢
    rw [stream, hlexeme]
    simp only [hdrop, h.take_eq, Stream.cons]

end Cut

/-- A complete stream can be cut where any of its tokens starts. -/
theorem exists_cut {offset : Nat} {w : List Char} (h : (stream offset w).status = .complete)
    {t : Token} (ht : t ∈ (stream offset w).all) :
    ∃ n before, Cut offset w t.offset n before := by
  induction offset, w using stream.induct with
  | case1 offset =>
    rw [stream] at ht
    rw [List.mem_singleton.mp ht]
    exact ⟨0, [], .start h⟩
  | case2 offset c w x hx ih =>
    have hrest : (stream (offset + x.length) ((c :: w).drop x.length)).status = .complete := by
      rw [stream, hx] at h
      exact h
    rw [stream, hx, Stream.all_cons] at ht
    rcases List.mem_cons.mp ht with rfl | ht
    · exact ⟨0, [], .start h⟩
    · obtain ⟨n, before, hcut⟩ := ih hrest ht
      exact ⟨x.length + n, x.token offset :: before, hcut.cons hx hrest⟩
  | case3 offset c w hx =>
    rw [stream, hx] at h
    cases h

/-! ## Whole texts -/

/-- If `tokenize` reads `source` to its end, then `source` may be cut at the offset `k` of any
token. Each part is read to its end. The tokens of the `first` are those before `k`, and the end
there; the tokens of the second are those from `k` on, as far from its start as they were from
`k`. -/
theorem tokenize_split {source : String} (h : (tokenize source).status = .complete) {k : Nat}
    (hk : k ∈ (tokenize source).output.toList.map (·.offset)) :
    let first := tokenize (String.ofList (source.toList.take k))
    let second := tokenize (String.ofList (source.toList.drop k))
    first.status = .complete ∧
      first.output.toList = (tokenize source).output.toList.filter (·.offset < k) ++
        [⟨endType, "", k, 0, 0⟩] ∧
      second.status = .complete ∧
      second.output.toList = ((tokenize source).output.toList.filter (k ≤ ·.offset)).map
        fun t => { t with offset := t.offset - k } := by
  obtain ⟨_, _, hsource⟩ := exists_tokenize_eq source
  obtain ⟨_, _, hfirst⟩ := exists_tokenize_eq (String.ofList (source.toList.take k))
  obtain ⟨_, _, hsecond⟩ := exists_tokenize_eq (String.ofList (source.toList.drop k))
  rw [hsource] at h hk
  simp only [hsource, hfirst, hsecond, String.toList_ofList]
  obtain ⟨t, ht, rfl⟩ := List.mem_map.mp hk
  obtain ⟨n, before, hcut⟩ := exists_cut h ht
  obtain rfl : t.offset = n := hcut.place_eq.trans (Nat.zero_add n)
  obtain ⟨hmoved, hcomplete⟩ := stream_add 0 t.offset (source.toList.drop t.offset)
  rw [Nat.zero_add] at hmoved hcomplete
  have hbehind := le_offset_of_mem_stream t.offset (source.toList.drop t.offset)
  refine ⟨by rw [hcut.take_eq], ?_, hcomplete.mp hcut.rest_complete, ?_⟩
  · have hnone : (stream t.offset (source.toList.drop t.offset)).all.filter
        (·.offset < t.offset) = [] := by
      refine List.filter_eq_nil_iff.mpr fun u hu => ?_
      have := hbehind u hu
      simpa using this
    have hall : before.filter (·.offset < t.offset) = before :=
      List.filter_eq_self.mpr fun u hu => decide_eq_true (hcut.before_lt u hu)
    rw [hcut.take_eq, hcut.all_eq, List.filter_append, hall, hnone, List.append_nil]
    rfl
  · have hnone : before.filter (t.offset ≤ ·.offset) = [] := by
      refine List.filter_eq_nil_iff.mpr fun u hu => ?_
      have := hcut.before_lt u hu
      simpa using this
    have hall : (stream t.offset (source.toList.drop t.offset)).all.filter
        (t.offset ≤ ·.offset) = (stream t.offset (source.toList.drop t.offset)).all :=
      List.filter_eq_self.mpr fun u hu => decide_eq_true (hbehind u hu)
    rw [hcut.all_eq, List.filter_append, hnone, hall, List.nil_append, hmoved, List.map_map]
    refine (List.map_id _).symm.trans (List.map_congr_left fun u _ => ?_)
    simp

/-- Cut behind digits that numbers look at and leave to a symbol. -/
theorem tokenize_split_symbol :
    (tokenize "05a 1.5").status = .complete ∧
      3 ∈ (tokenize "05a 1.5").output.toList.map (·.offset) ∧
      (tokenize "05a").output.toList =
        [⟨symbolType, "05a", 0, 0, 0⟩, ⟨endType, "", 3, 0, 0⟩] ∧
      (tokenize " 1.5").output.toList = [⟨blankType, " ", 0, 0, 0⟩, ⟨numberType, "1.5", 1, 0, 0⟩,
        ⟨endType, "", 4, 0, 0⟩] := by
  have hstream : stream 0 "05a 1.5".toList = ⟨[⟨symbolType, "05a", 0, 0, 0⟩,
      ⟨blankType, " ", 3, 0, 0⟩, ⟨numberType, "1.5", 4, 0, 0⟩], ⟨endType, "", 7, 0, 0⟩,
      .complete⟩ := by decide +kernel
  obtain ⟨_, _, hsource⟩ := exists_tokenize_eq "05a 1.5"
  rw [hstream] at hsource
  have hstatus : (tokenize "05a 1.5").status = .complete := by rw [hsource]
  have houtput : (tokenize "05a 1.5").output = #[⟨symbolType, "05a", 0, 0, 0⟩,
      ⟨blankType, " ", 3, 0, 0⟩, ⟨numberType, "1.5", 4, 0, 0⟩, ⟨endType, "", 7, 0, 0⟩] := by
    rw [hsource]
    rfl
  have hmem : 3 ∈ (tokenize "05a 1.5").output.toList.map (·.offset) := by
    rw [houtput]
    decide
  obtain ⟨-, hfirst, -, hsecond⟩ := tokenize_split hstatus hmem
  rw [houtput] at hfirst hsecond
  exact ⟨hstatus, hmem, hfirst, hsecond⟩

end Sexp

end LexTree
