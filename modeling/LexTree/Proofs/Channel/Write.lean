import LexTree.Channel

/-!
# Writing to channels

However few bytes a channel takes at a time, what is written to it arrives as far
as there is room, in order, and the first write that fails is the last one.

- `Channel.holding` is a channel with other bytes in it.
- `Channel.Advancing` are the channels of which every write takes a byte at least
  until they are full.
- `Channel.put` is what becomes of some bytes: those for which there is room are
  put behind what there was, and all others are refused.
- `put_append`: bytes may as well be put in parts, up to the first that is refused.
- `writeAll_eq_put` and `writeTexts_eq_put`: writing puts bytes, in any number of
  writes.
-/

namespace LexTree.Channel

/-- The channel `c` with the bytes `held` in it. -/
def holding (c : Channel) (held : ByteArray) : Channel := { c with held }

@[simp] theorem held_holding (c : Channel) (held : ByteArray) : (c.holding held).held = held := rfl

theorem holding_held (c : Channel) : c.holding c.held = c := rfl

/-- No write takes nothing where there is room. As `c.chunk` depends on the bytes held, every write
may take a number of its own. -/
def Advancing (c : Channel) : Prop := ∀ held, c.chunk held ≠ some 0

/-- There is room for `size` more bytes. -/
def Fits (c : Channel) (size : Nat) : Prop := ∀ limit ∈ c.limit, c.held.size + size ≤ limit

/-- For how many of `size` bytes there is room. -/
def accepts (c : Channel) (size : Nat) : Nat :=
  match c.limit with
  | some limit => min size (limit - c.held.size)
  | none => size

/-- The channel with those of `bytes` in it for which there was room. -/
def taking (c : Channel) (bytes : ByteArray) : Channel :=
  c.holding (c.held ++ bytes.extract 0 (c.accepts bytes.size))

/-- The error that a full channel ends `writeAll` with. -/
def refusal (c : Channel) : WriteError := if c.silent then .tookNothing else .closed c.held.size

/-- What becomes of `bytes` that are written: all of them are taken, or `refusal` ends the writing
behind the last one for which there was room. -/
def put (c : Channel) (bytes : ByteArray) : Except WriteError Unit × Channel :=
  (if c.accepts bytes.size < bytes.size then .error (c.taking bytes).refusal else .ok (),
    c.taking bytes)

variable {c : Channel} {bytes a b : ByteArray}

/-! ## Room -/

theorem accepts_le (c : Channel) (size : Nat) : c.accepts size ≤ size := by
  rw [accepts]
  split
  · exact Nat.min_le_left _ _
  · exact Nat.le_refl _

theorem accepts_of_fits {size : Nat} (h : c.Fits size) : c.accepts size = size := by
  rw [accepts]
  split
  · next limit hlimit =>
    have hle : c.held.size + size ≤ limit := h limit hlimit
    omega
  · rfl

theorem room_eq (c : Channel) (size : Nat) :
    c.room size =
      match c.chunk c.held.size with
      | some chunk => min (c.accepts size) chunk
      | none => c.accepts size := rfl

/-- `isFull` holds if and only if there is room for none of `size` bytes. -/
theorem isFull_iff {size : Nat} (hpos : 0 < size) : c.isFull = true ↔ c.accepts size = 0 := by
  rw [isFull, accepts]
  cases c.limit with
  | none => simp [Nat.ne_of_gt hpos]
  | some limit =>
    show decide (limit ≤ c.held.size) = true ↔ min size (limit - c.held.size) = 0
    rw [decide_eq_true_eq]
    omega

/-- `write` takes at least one byte and at most as many as there is room for. -/
theorem room_bounds (hc : c.Advancing) {size : Nat} (h : 0 < c.accepts size) :
    0 < c.room size ∧ c.room size ≤ c.accepts size := by
  rw [room_eq]
  cases hchunk : c.chunk c.held.size with
  | none => exact ⟨h, Nat.le_refl _⟩
  | some chunk =>
    have hpos : 0 < chunk := by
      refine Nat.pos_of_ne_zero fun hzero => hc c.held.size ?_
      rw [hchunk, hzero]
    exact ⟨Nat.lt_min.mpr ⟨h, hpos⟩, Nat.min_le_left _ _⟩

theorem size_held_taking (c : Channel) (bytes : ByteArray) :
    (c.taking bytes).held.size = c.held.size + c.accepts bytes.size := by
  have hle := c.accepts_le bytes.size
  rw [taking, held_holding, ByteArray.size_append, ByteArray.size_extract]
  omega

/-- What `taking bytes` leaves room for is what there was room for behind `bytes`. -/
theorem accepts_taking (c : Channel) (bytes : ByteArray) (size : Nat) :
    (c.taking bytes).accepts size = c.accepts (bytes.size + size) - c.accepts bytes.size := by
  have hheld := c.size_held_taking bytes
  have hlimit : (c.taking bytes).limit = c.limit := rfl
  rw [accepts, hlimit, hheld]
  cases hc : c.limit with
  | none => simp [accepts, hc]
  | some limit =>
    simp only [accepts, hc]
    omega

theorem taking_of_accepts (h : c.accepts bytes.size = bytes.size) :
    c.taking bytes = c.holding (c.held ++ bytes) := by
  rw [taking, h, ByteArray.extract_zero_size]

theorem taking_of_full (h : c.accepts bytes.size = 0) : c.taking bytes = c := by
  rw [taking, h, ByteArray.extract_same, ByteArray.append_empty, holding_held]

/-! ## Putting bytes in parts -/

theorem put_of_le (h : bytes.size ≤ c.accepts bytes.size) :
    c.put bytes = (.ok (), c.taking bytes) := by
  rw [put, if_neg (Nat.not_lt.mpr h)]

theorem put_of_lt (h : c.accepts bytes.size < bytes.size) :
    c.put bytes = (.error (c.taking bytes).refusal, c.taking bytes) := by
  rw [put, if_pos h]

theorem put_of_size_eq_zero (h : bytes.size = 0) : c.put bytes = (.ok (), c) := by
  have haccepts : c.accepts bytes.size = bytes.size := by
    have := c.accepts_le bytes.size
    omega
  rw [put_of_le (Nat.le_of_eq haccepts.symm), taking_of_accepts haccepts,
    ByteArray.size_eq_zero_iff.mp h, ByteArray.append_empty, holding_held]

/-- Where all of `a` is taken, `b` is put behind it. -/
theorem put_append_of_accepts (h : c.accepts a.size = a.size) (b : ByteArray) :
    c.put (a ++ b) = (c.taking a).put b := by
  have hrest : (c.taking a).accepts b.size = c.accepts (a.size + b.size) - a.size := by
    rw [accepts_taking, h]
  have hmore : a.size ≤ c.accepts (a.size + b.size) := by
    cases hc : c.limit with
    | none => simp [accepts, hc]
    | some limit =>
      simp only [accepts, hc] at h ⊢
      omega
  have hextract : (a ++ b).extract 0 (c.accepts (a.size + b.size)) =
      a ++ b.extract 0 ((c.taking a).accepts b.size) := by
    rw [ByteArray.extract_append, hrest, Nat.zero_sub]
    have hnone : a.extract a.size (c.accepts (a.size + b.size)) = .empty :=
      ByteArray.extract_eq_empty_iff.mpr (Nat.min_le_right _ _)
    rw [ByteArray.extract_eq_extract_append_extract a.size (Nat.zero_le _) hmore,
      ByteArray.extract_zero_size, hnone, ByteArray.append_empty]
  have hheld : (c.taking a).held = c.held ++ a := by rw [taking_of_accepts h, held_holding]
  have htaking : c.taking (a ++ b) = (c.taking a).taking b :=
    calc c.taking (a ++ b)
      _ = c.holding (c.held ++ (a ++ b.extract 0 ((c.taking a).accepts b.size))) := by
        rw [taking, ByteArray.size_append, hextract]
      _ = c.holding ((c.taking a).held ++ b.extract 0 ((c.taking a).accepts b.size)) := by
        rw [hheld, ByteArray.append_assoc]
      _ = (c.taking a).taking b := rfl
  have hiff : c.accepts (a.size + b.size) < a.size + b.size ↔
      (c.taking a).accepts b.size < b.size := by
    rw [hrest]
    omega
  rw [put, put, htaking, ByteArray.size_append]
  simp only [hiff]

/-- Where not all of `a` is taken, nothing of `b` is. -/
theorem put_append_of_lt (h : c.accepts a.size < a.size) (b : ByteArray) :
    c.put (a ++ b) = c.put a := by
  have hsame : c.accepts (a.size + b.size) = c.accepts a.size := by
    cases hc : c.limit with
    | none => simp [accepts, hc] at h
    | some limit =>
      simp only [accepts, hc] at h ⊢
      omega
  have hextract : (a ++ b).extract 0 (c.accepts a.size) = a.extract 0 (c.accepts a.size) := by
    have hnone : b.extract (0 - a.size) (c.accepts a.size - a.size) = .empty :=
      ByteArray.extract_eq_empty_iff.mpr (by omega)
    rw [ByteArray.extract_append, hnone, ByteArray.append_empty]
  have htaking : c.taking (a ++ b) = c.taking a := by
    rw [taking, ByteArray.size_append, hsame, hextract, taking]
  have hlt : c.accepts (a ++ b).size < (a ++ b).size := by
    rw [ByteArray.size_append, hsame]
    exact Nat.lt_add_right _ h
  rw [put_of_lt hlt, put_of_lt h, htaking]

/-- `a ++ b` may be put in two parts, of which `b` is not put if `a` is refused. -/
theorem put_append (c : Channel) (a b : ByteArray) :
    c.put (a ++ b) =
      match c.put a with
      | (.error e, c) => (.error e, c)
      | (.ok (), c) => c.put b := by
  rcases Nat.lt_or_ge (c.accepts a.size) a.size with hlt | hge
  · rw [put_append_of_lt hlt, put_of_lt hlt]
  · rw [put_append_of_accepts (Nat.le_antisymm (c.accepts_le _) hge), put_of_le hge]

/-! ## One write -/

theorem write_of_not_refusing (h : (c.isFull && !c.silent) = false) :
    c.write bytes = (.ok (c.room bytes.size),
      c.holding (c.held ++ bytes.extract 0 (c.room bytes.size))) := by
  rw [write, h]
  rfl

/-- Where there is room, `write` takes the first `count + 1` of `bytes`, and there was room for
these. -/
theorem exists_write_of_accepts (hc : c.Advancing) (h : 0 < c.accepts bytes.size) :
    ∃ count, count < bytes.size ∧
      c.accepts (bytes.extract 0 (count + 1)).size = (bytes.extract 0 (count + 1)).size ∧
      c.write bytes = (.ok (count + 1), c.taking (bytes.extract 0 (count + 1))) := by
  have hpos : 0 < bytes.size := Nat.lt_of_lt_of_le h (c.accepts_le _)
  have hfull : c.isFull = false :=
    Bool.eq_false_iff.mpr fun hfull => Nat.ne_of_gt h ((isFull_iff hpos).mp hfull)
  have hwrite : c.write bytes = (.ok (c.room bytes.size),
      c.holding (c.held ++ bytes.extract 0 (c.room bytes.size))) :=
    write_of_not_refusing (by rw [hfull, Bool.false_and])
  obtain ⟨hroom, hle⟩ := room_bounds hc h
  have hsize := Nat.le_trans hle (c.accepts_le bytes.size)
  generalize c.room bytes.size = taken at hwrite hroom hle hsize
  obtain ⟨count, rfl⟩ : ∃ n, taken = n + 1 := ⟨taken - 1, by omega⟩
  have haccepts : c.accepts (bytes.extract 0 (count + 1)).size =
      (bytes.extract 0 (count + 1)).size := by
    rw [ByteArray.size_extract]
    cases hlimit : c.limit with
    | none => simp [accepts, hlimit]
    | some limit =>
      simp only [accepts, hlimit] at hle ⊢
      omega
  exact ⟨count, hsize, haccepts, by rw [hwrite, taking_of_accepts haccepts]⟩

/-- Where there is none, `write` answers with an error, or `.ok 0` if `c` is silent. -/
theorem write_of_full (h : c.accepts bytes.size = 0) (hpos : 0 < bytes.size) :
    c.write bytes = (if c.silent then .ok 0 else .error (.closed c.held.size), c) := by
  have hfull : c.isFull = true := (isFull_iff hpos).mpr h
  have hroom : c.room bytes.size = 0 := by
    rw [room_eq, h]
    cases c.chunk c.held.size with
    | none => rfl
    | some chunk => exact Nat.zero_min chunk
  cases hsilent : c.silent with
  | false =>
    rw [write, hfull, hsilent]
    rfl
  | true =>
    rw [write_of_not_refusing (by rw [hsilent, Bool.not_true, Bool.and_false]), hroom,
      ByteArray.extract_same, ByteArray.append_empty, holding_held]
    rfl

/-! ## All bytes -/

@[simp] theorem outlet_write (c : Channel) (bytes : ByteArray) :
    outlet.write c bytes = c.write bytes := rfl

/-- `writeRounds` offers `bytes` until all are taken or `c` is full, which `put` does at once. -/
theorem writeRounds_eq_put (hc : c.Advancing) {rounds : Nat} (hrounds : bytes.size < rounds) :
    outlet.writeRounds rounds c bytes = c.put bytes := by
  induction rounds generalizing c bytes with
  | zero => exact absurd hrounds (Nat.not_lt_zero _)
  | succ rounds ih =>
    rw [Outlet.writeRounds, outlet_write]
    rcases Nat.eq_zero_or_pos bytes.size with hzero | hpos
    · have hempty : bytes.isEmpty = true := beq_iff_eq.mpr hzero
      rw [if_pos hempty, put_of_size_eq_zero hzero]
    have hempty : ¬ bytes.isEmpty = true := fun h => Nat.ne_of_gt hpos (beq_iff_eq.mp h)
    rw [if_neg hempty]
    rcases Nat.eq_zero_or_pos (c.accepts bytes.size) with hfull | haccepts
    · -- The channel stays as it is, and refuses the bytes in one way or the other.
      rw [write_of_full hfull hpos, put_of_lt (hfull ▸ hpos), taking_of_full hfull, refusal]
      cases c.silent <;> rfl
    · obtain ⟨count, hcount, hfirst, hwrite⟩ := exists_write_of_accepts hc haccepts
      have hwhole :
          bytes.extract 0 (count + 1) ++ bytes.extract (count + 1) bytes.size = bytes := by
        rw [← ByteArray.extract_eq_extract_append_extract _ (Nat.zero_le _) hcount,
          ByteArray.extract_zero_size]
      have hrest : (bytes.extract (count + 1) bytes.size).size < rounds := by
        rw [ByteArray.size_extract]
        omega
      rw [hwrite]
      show outlet.writeRounds rounds _ _ = _
      rw [ih (c := c.taking _) hc hrest, ← put_append_of_accepts hfirst, hwhole]

/-- `writeAll` puts `bytes`, however many writes it takes. -/
theorem writeAll_eq_put (hc : c.Advancing) (bytes : ByteArray) : c.writeAll bytes = c.put bytes :=
  writeRounds_eq_put hc (Nat.lt_succ_self _)

/-- `writeTexts` puts the bytes of `String.join texts`. -/
theorem writeTexts_eq_put (hc : c.Advancing) (texts : List String) :
    c.writeTexts texts = c.put (String.join texts).toUTF8 := by
  induction texts generalizing c with
  | nil =>
    have hempty : (String.join []).toUTF8.size = 0 := rfl
    rw [put_of_size_eq_zero hempty, writeTexts, Outlet.writeTexts]
  | cons text texts ih =>
    have hbytes : (String.join (text :: texts)).toUTF8 =
        text.toUTF8 ++ (String.join texts).toUTF8 := by
      rw [String.join_cons]
      exact String.toByteArray_append
    have hfirst : outlet.writeAll c text.toUTF8 = c.put text.toUTF8 := writeAll_eq_put hc _
    rw [hbytes, put_append, writeTexts, Outlet.writeTexts, hfirst]
    rcases hput : c.put text.toUTF8 with ⟨_ | _, next⟩
    · rfl
    · obtain rfl : c.taking text.toUTF8 = next := congrArg Prod.snd hput
      exact ih hc

/-- A channel with room for 19 bytes that takes five at a time, and nothing when it is full. -/
def narrow : Channel := ⟨some 19, fun _ => some 5, true, true, .empty⟩

theorem narrow_advancing : narrow.Advancing := by
  intro held h
  cases h

end LexTree.Channel
