import Mathlib.Data.Nat.Bitwise
import Mathlib.Tactic

/-!
# Sliding windows

A receiver that sees numbers of an unbounded counter, in any order, keeps the highest number and
64 bits: bit `k` says whether the number `k` below the highest one was seen. `Marks` ties such a
bitmap to the set it stands for; the lemmas say how the map follows when a number is seen.

Counters arrive reduced to a power of two. `toNat_sub_and` reads a masked difference of two reduced
values as the difference of the unbounded ones.
-/

namespace SlidingWindow

/-- Bit `k` of the map is set if and only if `top - k` was seen. -/
def Marks (bitmap : UInt64) (top : ℤ) (seen : Set ℤ) : Prop :=
  ∀ k < 64, bitmap.toNat.testBit k ↔ top - k ∈ seen

lemma testBit_or (a b : UInt64) (k : ℕ) :
    (a ||| b).toNat.testBit k = (a.toNat.testBit k || b.toNat.testBit k) := by
  rw [UInt64.toNat_or, Nat.testBit_or]

lemma testBit_one (k : ℕ) : (1 : UInt64).toNat.testBit k = decide (k = 0) := by
  show (2 ^ 0 : ℕ).testBit k = decide (k = 0)
  rw [Nat.testBit_two_pow]
  exact decide_eq_decide.mpr eq_comm

lemma testBit_shiftLeft (a s : UInt64) (hs : s.toNat < 64) {k : ℕ} (hk : k < 64) :
    (a <<< s).toNat.testBit k = (decide (s.toNat ≤ k) && a.toNat.testBit (k - s.toNat)) := by
  rw [UInt64.toNat_shiftLeft, Nat.mod_eq_of_lt hs, Nat.testBit_mod_two_pow, Nat.testBit_shiftLeft]
  simp [hk]

lemma and_shiftLeft_ne_zero (a s : UInt64) (hs : s.toNat < 64) :
    a &&& (1 <<< s) ≠ 0 ↔ a.toNat.testBit s.toNat = true := by
  have hpow : (2 : ℕ) ^ s.toNat < 2 ^ 64 := Nat.pow_lt_pow_right (by decide) hs
  have hone : ((1 : UInt64) <<< s).toNat = 2 ^ s.toNat := by
    rw [UInt64.toNat_shiftLeft, Nat.mod_eq_of_lt hs, Nat.shiftLeft_eq]
    show 1 * 2 ^ s.toNat % 2 ^ 64 = 2 ^ s.toNat
    rw [one_mul, Nat.mod_eq_of_lt hpow]
  rw [ne_eq, ← UInt64.toNat_inj, UInt64.toNat_and, hone, Nat.and_two_pow]
  cases a.toNat.testBit s.toNat <;> simp

variable {bitmap : UInt64} {top : ℤ} {seen : Set ℤ}

lemma marks_one (top : ℤ) : Marks 1 top {top} := by
  intro k hk
  rw [testBit_one, decide_eq_true_eq, Set.mem_singleton_iff]
  omega

lemma Marks.advance (h : Marks bitmap top seen) (htop : ∀ x ∈ seen, x ≤ top) {s : UInt64}
    (hpos : 0 < s.toNat) (hs : s.toNat < 64) :
    Marks ((bitmap <<< s) ||| 1) (top + s.toNat) (insert (top + s.toNat) seen) := by
  intro k hk
  rw [testBit_or, testBit_shiftLeft _ _ hs hk, testBit_one]
  simp only [Bool.or_eq_true, Bool.and_eq_true, decide_eq_true_eq, Set.mem_insert_iff]
  rw [h (k - s.toNat) (by omega)]
  constructor
  · rintro (⟨hle, hseen⟩ | rfl)
    · refine .inr ?_
      rw [Nat.cast_sub hle] at hseen
      rwa [show top + (s.toNat : ℤ) - k = top - (k - s.toNat) by ring]
    · exact .inl (by simp)
  · rintro (heq | hseen)
    · exact .inr (by omega)
    · have hle := htop _ hseen
      refine .inl ⟨by omega, ?_⟩
      rw [Nat.cast_sub (by omega)]
      rwa [show top - ((k : ℤ) - s.toNat) = top + s.toNat - k by ring]

lemma marks_jump (htop : ∀ x ∈ seen, x ≤ top) {a : ℤ} (ha : top + 64 ≤ a) :
    Marks 1 a (insert a seen) := by
  intro k hk
  rw [testBit_one, decide_eq_true_eq, Set.mem_insert_iff]
  constructor
  · intro hzero
    exact .inl (by omega)
  · rintro (heq | hseen)
    · omega
    · have := htop _ hseen
      omega

lemma Marks.mark (h : Marks bitmap top seen) {s : UInt64} (hs : s.toNat < 64) :
    Marks (bitmap ||| (1 <<< s)) top (insert (top - s.toNat) seen) := by
  intro k hk
  rw [testBit_or, testBit_shiftLeft _ _ hs hk, testBit_one]
  simp only [Bool.or_eq_true, Bool.and_eq_true, decide_eq_true_eq, Set.mem_insert_iff]
  rw [h k hk]
  constructor
  · rintro (hseen | ⟨hle, hzero⟩)
    · exact .inr hseen
    · exact .inl (by omega)
  · rintro (heq | hseen)
    · exact .inr (by omega)
    · exact .inl hseen

lemma Marks.test (h : Marks bitmap top seen) {s : UInt64} (hs : s.toNat < 64) :
    bitmap &&& (1 <<< s) ≠ 0 ↔ top - s.toNat ∈ seen := by
  rw [and_shiftLeft_ne_zero _ _ hs, h _ hs]

lemma toNat_sub_and {x y : UInt16} {mask : UInt32} {n : ℕ} (hn : n ≤ 32)
    (hmask : mask.toNat = 2 ^ n - 1) :
    (((x.toUInt32 - y.toUInt32) &&& mask).toNat : ℤ) = ((x.toNat : ℤ) - y.toNat) % 2 ^ n := by
  have hy : y.toNat < 2 ^ 32 := y.toNat_lt.trans (by decide)
  have hdvd : (2 : ℤ) ^ n ∣ 2 ^ 32 := pow_dvd_pow 2 hn
  rw [UInt32.toNat_and, hmask, Nat.and_two_pow_sub_one_eq_mod, UInt32.toNat_sub,
    UInt16.toNat_toUInt32, UInt16.toNat_toUInt32]
  have hcast : ((2 ^ 32 - y.toNat : ℕ) : ℤ) = 2 ^ 32 - y.toNat := by
    rw [Nat.cast_sub hy.le]
    norm_num
  obtain ⟨k, hk⟩ := hdvd
  have hshift : (2 : ℤ) ^ 32 - y.toNat + x.toNat = (x.toNat - y.toNat) + 2 ^ n * k := by
    rw [hk]
    ring
  have hdvd : 2 ^ n ∣ 2 ^ 32 := pow_dvd_pow 2 hn
  rw [Nat.mod_mod_of_dvd _ hdvd, Int.natCast_mod, Nat.cast_add, hcast, hshift, Nat.cast_pow,
    Nat.cast_ofNat, Int.add_mul_emod_self_left]

end SlidingWindow
