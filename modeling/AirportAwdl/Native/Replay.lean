import AirportAwdl.Lib.SlidingWindow
import AirportAwdl.Native.Peers

/-!
# Duplicate windows

`DataReplayWindow` drops frames that were already received. Senders number their frames with a
counter of 16 or of 12 bits and do not say which; the window learns the width from what it sees.
Here a sender's counter is unbounded, a window sees it reduced, and a verdict is right if it is
`true` exactly for numbers that did not arrive before.

A window that knows the width is right for every stream that stays near its highest number. A
window that does not know yet takes 12-bit numbers for 16-bit ones, which is right as long as
nothing from before a rollover arrives.
-/

namespace AirportAwdl.Native

open SlidingWindow

/-- A frame with the number `value` arrives. -/
structure Arrival where
  value : ℤ
  time : ℕ
deriving DecidableEq, Repr

/-- The sequence field of a sender whose counter has `bits` bits. -/
def Arrival.sequence (a : Arrival) (bits : ℕ) : UInt16 := UInt16.ofNat (a.value % 2 ^ bits).toNat

/-- `a` comes at most three seconds after the last arrival, is at most 63 below and at most `ahead`
above the highest number that arrived. -/
structure Near (ahead : ℤ) (earlier : List Arrival) (a : Arrival) : Prop where
  time : ∀ last ∈ earlier.getLast?, last.time ≤ a.time ∧ a.time - last.time ≤ 3000000
  value : ∀ m ∈ earlier, (∀ b ∈ earlier, b.value ≤ m.value) →
    m.value - 63 ≤ a.value ∧ a.value ≤ m.value + ahead

/-- Arrivals, oldest first, each near the ones before it. -/
inductive Stream (ahead : ℤ) : List Arrival → Prop
  | nil : Stream ahead []
  | snoc {earlier : List Arrival} {a : Arrival} (h : Stream ahead earlier)
      (hnear : Near ahead earlier a) : Stream ahead (earlier ++ [a])

/-- The numbers that arrived. -/
def values (arrivals : List Arrival) : Set ℤ := {x | ∃ b ∈ arrivals, b.value = x}

lemma Stream.of_snoc {ahead : ℤ} {earlier : List Arrival} {a : Arrival}
    (h : Stream ahead (earlier ++ [a])) : Stream ahead earlier ∧ Near ahead earlier a := by
  generalize heq : earlier ++ [a] = arrivals at h
  cases h with
  | nil => simp at heq
  | snoc h hnear =>
    simp_all

lemma values_snoc (earlier : List Arrival) (a : Arrival) :
    values (earlier ++ [a]) = insert a.value (values earlier) := by
  grind [values]

lemma not_mem_values {arrivals : List Arrival} {x : ℤ} :
    x ∉ values arrivals ↔ ∀ b ∈ arrivals, b.value ≠ x := by
  simp [values]

namespace DataReplayWindow

/-- A window that was fresh, after the arrivals. -/
def fed (bits : ℕ) (arrivals : List Arrival) : DataReplayWindow :=
  arrivals.foldl (fun w a => (w.accept (a.sequence bits) a.time).2) {}

/-- The verdict on `a` after the earlier arrivals. -/
def verdict (bits : ℕ) (earlier : List Arrival) (a : Arrival) : Bool :=
  ((fed bits earlier).accept (a.sequence bits) a.time).1

/-- Number of bits that the window compares. -/
def width (w : DataReplayWindow) : ℕ := if w.sequenceBits = 12 then 12 else 16

/-- The window after it had a look at the width of `seq`. -/
def learn (w : DataReplayWindow) (seq : UInt16) (now : ℕ) : DataReplayWindow :=
  { w with
    lastRx := now
    sequenceBits :=
      if seq > 0xfff then 16
      else if w.sequenceBits = 0 ∧ w.sequence ≥ 0xfc0 ∧ seq < 0x800 then 12
      else w.sequenceBits }

variable {w : DataReplayWindow} {a : Arrival} {earlier arrivals : List Arrival}
  {top ahead block : ℤ}

lemma accept_of_timely {now : ℕ} (hactive : w.active = true)
    (hfrom : w.lastRx ≤ now) (hto : now - w.lastRx ≤ 3000000) (seq : UInt16) :
    w.accept seq now = (w.learn seq now).advance seq := by
  unfold accept
  rw [if_neg]
  · rfl
  grind

lemma mask_spec (w : DataReplayWindow) :
    let mask : UInt32 := if w.sequenceBits = 12 then 0xfff else 0xffff
    mask.toNat = 2 ^ w.width - 1 ∧ (mask / 2).toNat = 2 ^ (w.width - 1) - 1 ∧
      (w.width = 12 ∨ w.width = 16) := by
  unfold width
  by_cases h : w.sequenceBits = 12
  · simp only [if_pos h]
    decide
  · simp only [if_neg h]
    decide

section
variable {w : DataReplayWindow} {seq : UInt16} {top a : ℤ} {seen : Set ℤ}

lemma advance_ahead (hmarks : Marks w.bitmap top seen) (hle : ∀ x ∈ seen, x ≤ top)
    (hapart : ((seq.toNat : ℤ) - w.sequence.toNat) % 2 ^ w.width = (a - top) % 2 ^ w.width)
    (hlow : top < a) (hhigh : a - top < 2 ^ (w.width - 1)) :
    ∃ bitmap, w.advance seq = (true, { w with bitmap, sequence := seq }) ∧
      Marks bitmap a (insert a seen) := by
  obtain ⟨hmask, hhalf, hwidth⟩ := w.mask_spec
  have hforward := toNat_sub_and (x := seq) (y := w.sequence) (by omega : w.width ≤ 32) hmask
  have hpow : (2 : ℤ) ^ (w.width - 1) = 2 ^ w.width / 2 := by
    rcases hwidth with h | h <;> rw [h] <;> rfl
  rw [hapart, Int.emod_eq_of_lt (by omega) (by omega)] at hforward
  unfold advance
  dsimp only
  generalize (if w.sequenceBits = 12 then 0xfff else 0xffff : UInt32) = mask at *
  generalize (seq.toUInt32 - w.sequence.toUInt32) &&& mask = forward at *
  have hle_half : forward ≤ mask / 2 := by
    rw [UInt32.le_iff_toNat_le, hhalf]
    grind
  have hne : forward ≠ 0 := by
    rintro rfl
    simp at hforward
    omega
  rw [if_pos ⟨hle_half, hne⟩]
  refine ⟨_, rfl, ?_⟩
  by_cases hfar : forward ≥ 64
  · rw [if_pos hfar]
    have : 64 ≤ forward.toNat := UInt32.le_iff_toNat_le.mp hfar
    exact marks_jump hle (by omega)
  · rw [if_neg hfar]
    have hnear : forward.toNat < 64 := by
      rw [ge_iff_le, UInt32.le_iff_toNat_le, not_le] at hfar
      exact hfar
    have hshift : top + (forward.toUInt64.toNat : ℤ) = a := by
      rw [UInt32.toNat_toUInt64]
      omega
    have := hmarks.advance hle (s := forward.toUInt64) (by rw [UInt32.toNat_toUInt64]; omega)
      (by rw [UInt32.toNat_toUInt64]; exact hnear)
    rwa [hshift] at this

lemma advance_behind (hmarks : Marks w.bitmap top seen)
    (hapart : ((seq.toNat : ℤ) - w.sequence.toNat) % 2 ^ w.width = (a - top) % 2 ^ w.width)
    (hlow : top - 63 ≤ a) (hhigh : a ≤ top) :
    ∃ fresh bitmap, w.advance seq = (fresh, { w with bitmap }) ∧ (fresh = true ↔ a ∉ seen) ∧
      Marks bitmap top (insert a seen) := by
  obtain ⟨hmask, hhalf, hwidth⟩ := w.mask_spec
  have hforward := toNat_sub_and (x := seq) (y := w.sequence) (by omega : w.width ≤ 32) hmask
  have hback := toNat_sub_and (x := w.sequence) (y := seq) (by omega : w.width ≤ 32) hmask
  have hopposite : ((w.sequence.toNat : ℤ) - seq.toNat) % 2 ^ w.width =
      (top - a) % 2 ^ w.width := by
    rw [← neg_sub, ← neg_sub a top]
    exact Int.ModEq.neg hapart
  have hpow : (2 : ℤ) ^ w.width = 2 * 2 ^ (w.width - 1) ∧ (2 : ℤ) ^ (w.width - 1) ≥ 2048 := by
    rcases hwidth with h | h <;> rw [h] <;> decide
  rw [hopposite, Int.emod_eq_of_lt (by omega) (by omega)] at hback
  unfold advance
  dsimp only
  generalize (if w.sequenceBits = 12 then 0xfff else 0xffff : UInt32) = mask at *
  generalize (seq.toUInt32 - w.sequence.toUInt32) &&& mask = forward at *
  generalize (w.sequence.toUInt32 - seq.toUInt32) &&& mask = back at *
  -- A step back is a step forward by more than half of the range.
  have hnot : ¬ (forward ≤ mask / 2 ∧ forward ≠ 0) := by
    rintro ⟨hle, hne⟩
    rw [UInt32.le_iff_toNat_le, hhalf] at hle
    have hzero : forward.toNat ≠ 0 := fun h => hne (UInt32.toNat_inj.mp h)
    grind
  have hreach : back.toUInt64.toNat < 64 := by
    rw [UInt32.toNat_toUInt64]
    omega
  have hshift : top - (back.toUInt64.toNat : ℤ) = a := by
    rw [UInt32.toNat_toUInt64]
    omega
  have htest := hmarks.test hreach
  have hmark := hmarks.mark hreach
  have hnear : ¬ back ≥ 64 := by
    grind [UInt32.le_iff_toNat_le]
  rw [hshift] at htest hmark
  rw [if_neg hnot]
  by_cases hseen : a ∈ seen
  · rw [if_pos (.inr (htest.mpr hseen))]
    refine ⟨false, w.bitmap, rfl, by simp [hseen], ?_⟩
    rwa [Set.insert_eq_of_mem hseen]
  · rw [if_neg (not_or.mpr ⟨hnear, fun h => hseen (htest.mp h)⟩)]
    exact ⟨true, _, rfl, by simp [hseen], hmark⟩

end

/-- The window holds what arrived, and `top` is the highest number. -/
structure Tracks (w : DataReplayWindow) (arrivals : List Arrival) (top : ℤ) : Prop where
  active : w.active = true
  lastRx : ∃ last ∈ arrivals.getLast?, last.time = w.lastRx
  mem : top ∈ values arrivals
  le : ∀ x ∈ values arrivals, x ≤ top
  marks : Marks w.bitmap top (values arrivals)

lemma Tracks.near (h : Tracks w earlier top) (hnear : Near ahead earlier a) :
    (w.lastRx ≤ a.time ∧ a.time - w.lastRx ≤ 3000000) ∧
      top - 63 ≤ a.value ∧ a.value ≤ top + ahead := by
  obtain ⟨last, hlast, htime⟩ := h.lastRx
  obtain ⟨m, hm, hvalue⟩ := h.mem
  have hmax : ∀ b ∈ earlier, b.value ≤ m.value := by
    intro b hb
    rw [hvalue]
    exact h.le b.value ⟨b, hb, rfl⟩
  rw [← htime, ← hvalue]
  exact ⟨hnear.time last hlast, hnear.value m hm hmax⟩

lemma tracks_first (a : Arrival) (seq : UInt16) :
    (({} : DataReplayWindow).accept seq a.time).1 = true ∧
      Tracks (({} : DataReplayWindow).accept seq a.time).2 [a] a.value ∧
      (({} : DataReplayWindow).accept seq a.time).2.sequence = seq ∧
      (({} : DataReplayWindow).accept seq a.time).2.sequenceBits =
        if seq > 0xfff then 16 else 0 := by
  have hvalues : values [a] = {a.value} := by
    simp [values, eq_comm]
  refine ⟨rfl, ⟨rfl, ⟨a, rfl, rfl⟩, ?_, ?_, ?_⟩, rfl, rfl⟩
  · rw [hvalues]
    exact Set.mem_singleton _
  · rw [hvalues]
    rintro x rfl
    exact le_refl _
  · rw [hvalues]
    exact marks_one _

lemma Tracks.accept
    (h : Tracks w earlier top) (hnear : Near ahead earlier a) {seq : UInt16} {learned : ℕ}
    (hlearned : (w.learn seq a.time).width = learned)
    (hapart : ((seq.toNat : ℤ) - w.sequence.toNat) % 2 ^ learned = (a.value - top) % 2 ^ learned)
    (hahead : ahead < 2 ^ (learned - 1)) :
    ((w.accept seq a.time).1 = true ↔ a.value ∉ values earlier) ∧
      Tracks (w.accept seq a.time).2 (earlier ++ [a]) (max top a.value) ∧
      (w.accept seq a.time).2.sequence = (if top < a.value then seq else w.sequence) ∧
      (w.accept seq a.time).2.sequenceBits = (w.learn seq a.time).sequenceBits := by
  subst hlearned
  obtain ⟨⟨hfrom, hto⟩, hlow, hhigh⟩ := h.near hnear
  have hlast : ∃ last ∈ (earlier ++ [a]).getLast?, last.time = (w.learn seq a.time).lastRx :=
    ⟨a, by simp, rfl⟩
  have hmem : max top a.value ∈ values (earlier ++ [a]) := by
    rw [values_snoc]
    rcases max_choice top a.value with heq | heq
    · rw [heq]
      exact .inr h.mem
    · rw [heq]
      exact .inl rfl
  have hle : ∀ x ∈ values (earlier ++ [a]), x ≤ max top a.value := by
    rw [values_snoc]
    rintro x (rfl | hx)
    · exact le_max_right _ _
    · exact (h.le x hx).trans (le_max_left _ _)
  rw [accept_of_timely h.active hfrom hto]
  by_cases habove : top < a.value
  · obtain ⟨bitmap, heq, hmarks⟩ := advance_ahead (w := w.learn seq a.time) h.marks h.le hapart
      habove (by omega)
    have hnew : a.value ∉ values earlier := fun hseen => absurd (h.le _ hseen) (by omega)
    rw [heq, if_pos habove]
    refine ⟨by simp [hnew], ⟨h.active, hlast, hmem, hle, ?_⟩, rfl, rfl⟩
    rw [values_snoc, max_eq_right habove.le]
    exact hmarks
  · obtain ⟨fresh, bitmap, heq, hfresh, hmarks⟩ := advance_behind (w := w.learn seq a.time)
      h.marks hapart hlow (not_lt.mp habove)
    rw [heq, if_neg habove]
    refine ⟨hfresh, ⟨h.active, hlast, hmem, hle, ?_⟩, rfl, rfl⟩
    rw [values_snoc, max_eq_left (not_lt.mp habove)]
    exact hmarks

lemma fed_snoc (bits : ℕ) (earlier : List Arrival) (a : Arrival) :
    fed bits (earlier ++ [a]) = ((fed bits earlier).accept (a.sequence bits) a.time).2 := by
  rw [fed, List.foldl_append]
  rfl

lemma toNat_sequence (a : Arrival) {bits : ℕ} (hbits : bits ≤ 16) :
    ((a.sequence bits).toNat : ℤ) = a.value % 2 ^ bits := by
  have hpos : (0 : ℤ) < 2 ^ bits := by positivity
  have hlt : a.value % 2 ^ bits < 2 ^ 16 :=
    (Int.emod_lt_of_pos _ hpos).trans_le (pow_le_pow_right₀ (by decide) hbits)
  show (((a.value % 2 ^ bits).toNat % 2 ^ 16 : ℕ) : ℤ) = a.value % 2 ^ bits
  omega

lemma toNat_max {bits : ℕ} {sequence : UInt16} (hbits : bits ≤ 16)
    (h : (sequence.toNat : ℤ) = top % 2 ^ bits) :
    ((if top < a.value then a.sequence bits else sequence).toNat : ℤ) =
      max top a.value % 2 ^ bits := by
  by_cases habove : top < a.value
  · rw [if_pos habove, max_eq_right habove.le]
    exact toNat_sequence a hbits
  · rw [if_neg habove, max_eq_left (not_lt.mp habove)]
    exact h

lemma sequence_gt_iff (a : Arrival) {bits : ℕ} (hbits : bits ≤ 16) :
    a.sequence bits > 0xfff ↔ 0xfff < a.value % 2 ^ bits := by
  rw [gt_iff_lt, UInt16.lt_iff_toNat_lt, ← toNat_sequence a hbits]
  exact Nat.cast_lt.symm

/-- The window compares 16 bits. It has not learned so only as long as no number needs more
than 12. -/
structure Wide (w : DataReplayWindow) (top : ℤ) : Prop where
  sequence : (w.sequence.toNat : ℤ) = top % 2 ^ 16
  bits : w.sequenceBits = 16 ∨ w.sequenceBits = 0 ∧ top % 2 ^ 16 ≤ 0xfff

lemma Wide.learn (h : Wide w top) (hlow : top - 63 ≤ a.value) (hhigh : a.value ≤ top + 32767) :
    (w.learn (a.sequence 16) a.time).sequenceBits = 16 ∨
      (w.learn (a.sequence 16) a.time).sequenceBits = 0 ∧ top % 2 ^ 16 ≤ 0xfff ∧
        a.value % 2 ^ 16 ≤ 0xfff := by
  have hseq := toNat_sequence a (le_refl 16)
  have hold := h.sequence
  simp only [DataReplayWindow.learn]
  by_cases hwide : a.sequence 16 > 0xfff
  · exact .inl (if_pos hwide)
  · have hnarrow : a.value % 2 ^ 16 ≤ 0xfff := by
      rwa [sequence_gt_iff a (le_refl 16), not_lt] at hwide
    rw [if_neg hwide]
    rcases h.bits with hbits | ⟨hbits, htop⟩
    · grind
    · rw [if_neg]
      · exact .inr ⟨hbits, htop, hnarrow⟩
      · rintro ⟨-, hfrom, hto⟩
        rw [ge_iff_le, UInt16.le_iff_toNat_le] at hfrom
        rw [UInt16.lt_iff_toNat_lt] at hto
        grind

lemma width_of_bits (h : w.sequenceBits ≠ 12) : w.width = 16 := if_neg h

lemma accept_wide (h : Tracks w earlier top) (hwide : Wide w top) (hnear : Near 32767 earlier a) :
    ((w.accept (a.sequence 16) a.time).1 = true ↔ a.value ∉ values earlier) ∧
      Tracks (w.accept (a.sequence 16) a.time).2 (earlier ++ [a]) (max top a.value) ∧
      Wide (w.accept (a.sequence 16) a.time).2 (max top a.value) := by
  obtain ⟨-, hlow, hhigh⟩ := h.near hnear
  have hbits := hwide.learn hlow hhigh
  have hwidth : (w.learn (a.sequence 16) a.time).width = 16 := by
    grind [width_of_bits]
  have hapart : (((a.sequence 16).toNat : ℤ) - w.sequence.toNat) % 2 ^ 16 =
      (a.value - top) % 2 ^ 16 := by
    rw [toNat_sequence a (le_refl 16), hwide.sequence, ← Int.sub_emod]
  obtain ⟨hverdict, htracks, hsequence, hsame⟩ := h.accept hnear hwidth hapart (by decide)
  refine ⟨hverdict, htracks, ?_, ?_⟩
  · rw [hsequence]
    exact toNat_max (le_refl 16) hwide.sequence
  grind

lemma wide_of_stream (h : Stream 32767 arrivals) :
    arrivals = [] ∨ ∃ top, Tracks (fed 16 arrivals) arrivals top ∧ Wide (fed 16 arrivals) top := by
  induction h with
  | nil => exact .inl rfl
  | @snoc earlier a _ hnear ih =>
    refine .inr ?_
    rw [fed_snoc]
    rcases ih with rfl | ⟨top, htracks, hwide⟩
    · obtain ⟨-, hfirst, hsequence, hbits⟩ := tracks_first a (a.sequence 16)
      refine ⟨a.value, hfirst, ?_, ?_⟩
      · show ((({} : DataReplayWindow).accept (a.sequence 16) a.time).2.sequence.toNat : ℤ) = _
        exact toNat_sequence a (le_refl 16)
      · show (({} : DataReplayWindow).accept (a.sequence 16) a.time).2.sequenceBits = 16 ∨ _
        by_cases hhigh : a.sequence 16 > 0xfff
        · exact .inl (if_pos hhigh)
        · refine .inr ⟨if_neg hhigh, ?_⟩
          rwa [sequence_gt_iff a (le_refl 16), not_lt] at hhigh
    · obtain ⟨-, htracks', hwide'⟩ := accept_wide htracks hwide hnear
      exact ⟨_, htracks', hwide'⟩

/-- A counter of 16 bits: a frame passes if and only if its number did not arrive before, and the
window never takes the counter for a shorter one. -/
theorem verdict_iff_new {earlier : List Arrival} {a : Arrival}
    (h : Stream 32767 (earlier ++ [a])) :
    (verdict 16 earlier a = true ↔ ∀ b ∈ earlier, b.value ≠ a.value) ∧
      (fed 16 (earlier ++ [a])).sequenceBits ≠ 12 := by
  obtain ⟨hearlier, hnear⟩ := h.of_snoc
  constructor
  · rw [← not_mem_values]
    rcases wide_of_stream hearlier with rfl | ⟨top, htracks, hwide⟩
    · simp only [verdict, fed, List.foldl_nil, (tracks_first a (a.sequence 16)).1, true_iff]
      simp [values]
    · exact (accept_wide htracks hwide hnear).1
  · rcases wide_of_stream h with hnil | ⟨top, -, hwide⟩
    · simp at hnil
    · rcases hwide.bits with heq | ⟨heq, -⟩ <;> rw [heq] <;> decide

/-- A late frame from before a wrap passes, and does not pass again. -/
theorem verdict_late_wrap :
    verdict 16 [⟨65530, 0⟩, ⟨65540, 1⟩] ⟨65535, 2⟩ = true ∧
      ¬ verdict 16 [⟨65530, 0⟩, ⟨65540, 1⟩, ⟨65535, 2⟩] ⟨65535, 3⟩ = true := by
  have hstream : Stream 32767 ([⟨65530, 0⟩, ⟨65540, 1⟩] ++ [⟨65535, 2⟩]) :=
    ((Stream.nil.snoc ⟨by decide, by decide⟩).snoc ⟨by decide, by decide⟩).snoc
      ⟨by decide, by decide⟩
  have hagain : Stream 32767 ([⟨65530, 0⟩, ⟨65540, 1⟩, ⟨65535, 2⟩] ++ [⟨65535, 3⟩]) :=
    hstream.snoc ⟨by decide, by decide⟩
  constructor
  · exact (verdict_iff_new hstream).1.mpr (by decide)
  · rw [(verdict_iff_new hagain).1]
    decide

/-- The window compares 12 bits, or it does not know and nothing left the first `block` of 4096
numbers. -/
structure Narrow (w : DataReplayWindow) (block top : ℤ) : Prop where
  sequence : (w.sequence.toNat : ℤ) = top % 2 ^ 12
  bits : w.sequenceBits = 12 ∨ w.sequenceBits = 0 ∧ top / 2 ^ 12 = block

lemma Narrow.learn (h : Narrow w block top)
    (hblock : block * 2 ^ 12 ≤ a.value) (hhigh : a.value ≤ top + 64) :
    (w.learn (a.sequence 12) a.time).sequenceBits = 12 ∨
      (w.learn (a.sequence 12) a.time).sequenceBits = 0 ∧ top / 2 ^ 12 = block ∧
        a.value / 2 ^ 12 = block := by
  have hseq := toNat_sequence a (by decide : 12 ≤ 16)
  have hold := h.sequence
  have hshort : ¬ a.sequence 12 > 0xfff := by
    rw [sequence_gt_iff a (by decide)]
    omega
  simp only [DataReplayWindow.learn]
  rw [if_neg hshort]
  rcases h.bits with hbits | ⟨hbits, htop⟩
  · grind
  · by_cases hrule : w.sequence ≥ 0xfc0 ∧ a.sequence 12 < 0x800
    · exact .inl (if_pos ⟨hbits, hrule⟩)
    · rw [if_neg (fun h => hrule h.2)]
      refine .inr ⟨hbits, htop, ?_⟩
      by_contra hleft
      apply hrule
      rw [ge_iff_le, UInt16.le_iff_toNat_le, UInt16.lt_iff_toNat_lt]
      grind

lemma accept_narrow
    (h : Tracks w earlier top) (hnarrow : Narrow w block top) (hnear : Near 64 earlier a)
    (hblock : block * 2 ^ 12 ≤ a.value) :
    ((w.accept (a.sequence 12) a.time).1 = true ↔ a.value ∉ values earlier) ∧
      Tracks (w.accept (a.sequence 12) a.time).2 (earlier ++ [a]) (max top a.value) ∧
      Narrow (w.accept (a.sequence 12) a.time).2 block (max top a.value) := by
  obtain ⟨-, hlow, hhigh⟩ := h.near hnear
  have hseq := toNat_sequence a (by decide : 12 ≤ 16)
  have hbits := hnarrow.learn hblock hhigh
  have hspec : ((w.accept (a.sequence 12) a.time).1 = true ↔ a.value ∉ values earlier) ∧
      Tracks (w.accept (a.sequence 12) a.time).2 (earlier ++ [a]) (max top a.value) ∧
      (w.accept (a.sequence 12) a.time).2.sequence =
        (if top < a.value then a.sequence 12 else w.sequence) ∧
      (w.accept (a.sequence 12) a.time).2.sequenceBits =
        (w.learn (a.sequence 12) a.time).sequenceBits := by
    rcases hbits with heq | ⟨heq, htop, hvalue⟩
    · -- Twelve bits: the distance is right modulo 4096.
      refine h.accept hnear (if_pos heq) ?_ (by decide)
      rw [hseq, hnarrow.sequence, ← Int.sub_emod]
    · -- Both numbers are in one block: the distance is right as it is.
      refine h.accept hnear (width_of_bits (by rw [heq]; decide)) ?_ (by decide)
      rw [hseq, hnarrow.sequence]
      omega
  obtain ⟨hverdict, htracks, hsequence, hsame⟩ := hspec
  refine ⟨hverdict, htracks, ?_, ?_⟩
  · rw [hsequence]
    exact toNat_max (by decide) hnarrow.sequence
  grind

/-- Nothing arrives that was sent before the rollover that came last before the first arrival. -/
def FromFirstBlock (arrivals : List Arrival) : Prop :=
  ∀ first ∈ arrivals.head?, ∀ b ∈ arrivals, first.value / 2 ^ 12 * 2 ^ 12 ≤ b.value

lemma FromFirstBlock.of_snoc (h : FromFirstBlock (earlier ++ [a])) : FromFirstBlock earlier := by
  intro first hfirst b hb
  have hhead : first ∈ (earlier ++ [a]).head? := by
    rw [List.head?_append, hfirst]
    rfl
  exact h first hhead b (List.mem_append_left _ hb)

lemma narrow_of_stream (h : Stream 64 arrivals) (hblock : FromFirstBlock arrivals) :
    arrivals = [] ∨ ∃ first ∈ arrivals.head?, ∃ top, Tracks (fed 12 arrivals) arrivals top ∧
      Narrow (fed 12 arrivals) (first.value / 2 ^ 12) top := by
  induction h with
  | nil => exact .inl rfl
  | @snoc earlier a _ hnear ih =>
    refine .inr ?_
    rw [fed_snoc]
    cases earlier with
    | nil =>
      obtain ⟨-, hfirst, hsequence, hbits⟩ := tracks_first a (a.sequence 12)
      have hshort : ¬ a.sequence 12 > 0xfff := by
        rw [sequence_gt_iff a (by decide)]
        omega
      refine ⟨a, rfl, a.value, hfirst, ?_, ?_⟩
      · show ((({} : DataReplayWindow).accept (a.sequence 12) a.time).2.sequence.toNat : ℤ) = _
        exact toNat_sequence a (by decide)
      · show (({} : DataReplayWindow).accept (a.sequence 12) a.time).2.sequenceBits = 12 ∨ _
        exact .inr ⟨if_neg hshort, rfl⟩
    | cons first rest =>
      rcases ih hblock.of_snoc with hnil | ⟨_, ⟨rfl⟩, top, htracks, hnarrow⟩
      · simp at hnil
      · obtain ⟨-, htracks', hnarrow'⟩ := accept_narrow htracks hnarrow hnear
          (hblock _ rfl a (by simp))
        exact ⟨_, rfl, _, htracks', hnarrow'⟩

/-- A counter of 12 bits: a frame passes if and only if its number did not arrive before, in every
stream without frames from before the first block. -/
theorem verdict_narrow_iff_new {earlier : List Arrival} {a : Arrival}
    (h : Stream 64 (earlier ++ [a])) (hblock : FromFirstBlock (earlier ++ [a])) :
    verdict 12 earlier a = true ↔ ∀ b ∈ earlier, b.value ≠ a.value := by
  obtain ⟨hearlier, hnear⟩ := h.of_snoc
  rw [← not_mem_values]
  cases earlier with
  | nil =>
    simp only [verdict, fed, List.foldl_nil, (tracks_first a (a.sequence 12)).1, true_iff]
    simp [values]
  | cons first rest =>
    rcases narrow_of_stream hearlier hblock.of_snoc with hnil | ⟨_, ⟨rfl⟩, top, htracks, hnarrow⟩
    · simp at hnil
    · exact (accept_narrow htracks hnarrow hnear (hblock _ rfl a (by simp))).1

/-- A late frame from before a rollover passes after it, and does not pass again. -/
theorem verdict_late_rollover :
    verdict 12 [⟨4090, 0⟩, ⟨4097, 1⟩] ⟨4095, 2⟩ = true ∧
      ¬ verdict 12 [⟨4090, 0⟩, ⟨4097, 1⟩, ⟨4095, 2⟩] ⟨4095, 3⟩ = true := by
  have hstream : Stream 64 ([⟨4090, 0⟩, ⟨4097, 1⟩] ++ [⟨4095, 2⟩]) :=
    ((Stream.nil.snoc ⟨by decide, by decide⟩).snoc ⟨by decide, by decide⟩).snoc
      ⟨by decide, by decide⟩
  have hagain : Stream 64 ([⟨4090, 0⟩, ⟨4097, 1⟩, ⟨4095, 2⟩] ++ [⟨4095, 3⟩]) :=
    hstream.snoc ⟨by decide, by decide⟩
  constructor
  · exact (verdict_narrow_iff_new hstream (by unfold FromFirstBlock; decide)).mpr (by decide)
  · rw [verdict_narrow_iff_new hagain (by unfold FromFirstBlock; decide)]
    decide

/-- The first frame comes just after a rollover, the second was sent just before it. A window that
does not know the width takes the second for one far ahead and forgets the first, which then passes
again. -/
theorem verdict_narrow_duplicate :
    Stream 64 [⟨4101, 0⟩, ⟨4091, 1⟩, ⟨4101, 2⟩] ∧
      ¬ (verdict 12 [⟨4101, 0⟩, ⟨4091, 1⟩] ⟨4101, 2⟩ = true ↔
        ∀ b ∈ ([⟨4101, 0⟩, ⟨4091, 1⟩] : List Arrival), b.value ≠ 4101) := by
  refine ⟨?_, by decide +kernel⟩
  exact ((Stream.nil.snoc ⟨by decide, by decide⟩).snoc ⟨by decide, by decide⟩).snoc
    ⟨by decide, by decide⟩

end DataReplayWindow

end AirportAwdl.Native
