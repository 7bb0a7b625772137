import Mathlib.Tactic

/-!
# Wrapping timelines

A *timeline* is a counter that advances by one every `unit` time steps from an
anchor `(epoch, base)` and is only ever observed modulo `wrap`. This file knows
how such a counter is re-anchored and how it is cut into frames of `n` ticks:

* `reading`, the counter and its sub-tick phase as one number modulo `wrap * unit`;
* `reading_rebase`: re-anchoring at a later instant does not move the reading;
* `frameOffset` / `frameIndex`, the position inside and the number of the current
  frame, with `frameOffset_of_mem` saying that both are what they should be over a
  whole frame and `frame_next` what they are at its end;
* `reading_frame_anchor`: a line rebuilt from the frame's counter and a rounded position
  trails the original by the rounding.
-/

namespace Timeline

/-- A counter that showed `base` at time `epoch`. -/
structure Line where
  epoch : ℕ
  base : ℕ
deriving DecidableEq, Repr

namespace Line

/-- Ticks counted up to `t`, not wrapped. Before the epoch the line stands still. -/
def ticks (unit : ℕ) (L : Line) (t : ℕ) : ℕ := L.base + (t - L.epoch) / unit

/-- Time shown by the line at `t`, not wrapped. -/
def absolute (unit : ℕ) (L : Line) (t : ℕ) : ℕ := L.base * unit + (t - L.epoch)

/-- Time shown by the line at `t`, modulo the wrap of the counter. -/
def reading (unit wrap : ℕ) (L : Line) (t : ℕ) : ℕ := L.absolute unit t % (wrap * unit)

variable {unit wrap : ℕ} {L : Line} {t u n : ℕ}

lemma absolute_div (hu : 0 < unit) (t : ℕ) : L.absolute unit t / unit = L.ticks unit t := by
  rw [absolute, ticks, Nat.add_comm, Nat.add_mul_div_right _ _ hu, Nat.add_comm]

lemma absolute_mod (t : ℕ) : L.absolute unit t % unit = (t - L.epoch) % unit := by
  rw [absolute, Nat.add_comm, Nat.add_mul_mod_self_right]

lemma reading_eq (hu : 0 < unit) (t : ℕ) :
    L.reading unit wrap t = L.ticks unit t % wrap * unit + (t - L.epoch) % unit := by
  rw [reading, Nat.mul_comm wrap unit, Nat.mod_mul, absolute_div hu, absolute_mod]
  ring

lemma absolute_of_le (ht : L.epoch ≤ t) (htu : t ≤ u) :
    L.absolute unit u = L.absolute unit t + (u - t) := by
  simp only [absolute]
  omega

lemma reading_of_le (ht : L.epoch ≤ t) (htu : t ≤ u) :
    L.reading unit wrap u = (L.reading unit wrap t + (u - t)) % (wrap * unit) := by
  rw [reading, absolute_of_le ht htu, reading, Nat.mod_add_mod]

lemma reading_eq_of_eq_at {M : Line} (hL : L.epoch ≤ t) (hM : M.epoch ≤ t)
    (h : L.reading unit wrap t = M.reading unit wrap t) (htu : t ≤ u) :
    L.reading unit wrap u = M.reading unit wrap u := by
  rw [reading_of_le hL htu, reading_of_le hM htu, h]

/-- Anchor the line at the start of the tick that contains `t`. -/
def rebase (unit wrap : ℕ) (L : Line) (t : ℕ) : Line where
  epoch := t - (t - L.epoch) % unit
  base := L.ticks unit t % wrap

lemma epoch_rebase_le (t : ℕ) : (L.rebase unit wrap t).epoch ≤ t := Nat.sub_le _ _

lemma reading_rebase (hu : 0 < unit) (ht : L.epoch ≤ t) (htu : t ≤ u) :
    (L.rebase unit wrap t).reading unit wrap u = L.reading unit wrap u := by
  refine reading_eq_of_eq_at (epoch_rebase_le t) ht ?_ htu
  have hphase : (t - L.epoch) % unit ≤ t := (Nat.mod_le _ _).trans (Nat.sub_le _ _)
  have hlt : (t - L.epoch) % unit < unit := Nat.mod_lt _ hu
  have hback : t - (t - (t - L.epoch) % unit) = (t - L.epoch) % unit := by omega
  rw [reading_eq hu, reading_eq hu, ticks, rebase]
  simp_all

/-- Position inside the current frame of `n` ticks. -/
def frameOffset (unit n : ℕ) (L : Line) (t : ℕ) : ℕ := L.absolute unit t % (n * unit)

/-- Number of the current frame of `n` ticks. -/
def frameIndex (unit n : ℕ) (L : Line) (t : ℕ) : ℕ := L.absolute unit t / (n * unit)

lemma frameOffset_lt (hn : 0 < n) (hu : 0 < unit) (t : ℕ) :
    L.frameOffset unit n t < n * unit := Nat.mod_lt _ (Nat.mul_pos hn hu)

lemma frameIndex_eq (hu : 0 < unit) (n t : ℕ) :
    L.frameIndex unit n t = L.ticks unit t / n := by
  rw [frameIndex, Nat.mul_comm n unit, ← Nat.div_div_eq_div_mul, absolute_div hu]

lemma frameOffset_eq_residues (n t : ℕ) :
    L.frameOffset unit n t = (L.base % n * unit + (t - L.epoch) % (n * unit)) % (n * unit) := by
  rw [frameOffset, absolute, Nat.add_mod, ← Nat.mul_mod_mul_right, Nat.add_mod_mod,
    Nat.add_mod (L.base * unit % (n * unit)), Nat.mod_mod, Nat.mod_add_mod, Nat.add_mod_mod]

lemma frameOffset_eq (hu : 0 < unit) (n t : ℕ) :
    L.frameOffset unit n t = L.ticks unit t % n * unit + (t - L.epoch) % unit := by
  rw [frameOffset, Nat.mul_comm n unit, Nat.mod_mul, absolute_div hu, absolute_mod]
  ring

lemma ticks_wrap_mod (hdvd : n ∣ wrap) (t : ℕ) :
    L.ticks unit t % wrap % n = L.ticks unit t % n := Nat.mod_mod_of_dvd _ hdvd

lemma wrapped_frame_start (hu : 0 < unit) (hdvd : n ∣ wrap) (t : ℕ) :
    L.ticks unit t % wrap - L.ticks unit t % wrap % n
      = (L.frameIndex unit n t * n) % wrap := by
  obtain ⟨k, rfl⟩ := hdvd
  rw [frameIndex_eq hu, Nat.mod_mod_of_dvd _ (Nat.dvd_mul_right n k), Nat.mod_mul,
    Nat.add_sub_cancel_left, Nat.mul_comm (_ / n) n, Nat.mul_mod_mul_left]

lemma frameOffset_of_mem (hn : 0 < n) (hu : 0 < unit) (ht : L.epoch ≤ t) (hLu : L.epoch ≤ u)
    (hlo : t ≤ u + L.frameOffset unit n t)
    (hhi : u + L.frameOffset unit n t < t + n * unit) :
    L.frameIndex unit n u = L.frameIndex unit n t ∧
      L.frameOffset unit n u + t = u + L.frameOffset unit n t := by
  have hP : 0 < n * unit := Nat.mul_pos hn hu
  have hA : L.absolute unit u + t = L.absolute unit t + u := by
    simp only [absolute]; omega
  have hdm := Nat.div_add_mod (L.absolute unit t) (n * unit)
  simp only [frameOffset, frameIndex] at *
  set P := n * unit
  set A := L.absolute unit t
  set B := L.absolute unit u
  -- `B` lies in the same multiple of `P` as `A`
  have hB : B = P * (A / P) + (u + A % P - t) := by omega
  have hlt : u + A % P - t < P := by omega
  have hdiv : B / P = A / P := by
    rw [hB, Nat.mul_add_div hP, Nat.div_eq_of_lt hlt, Nat.add_zero]
  have hmod : B % P = u + A % P - t := by
    rw [hB, Nat.mul_add_mod, Nat.mod_eq_of_lt hlt]
  exact ⟨hdiv, by omega⟩

lemma frame_next (hn : 0 < n) (hu : 0 < unit) (ht : L.epoch ≤ t) :
    L.frameIndex unit n (t + (n * unit - L.frameOffset unit n t)) = L.frameIndex unit n t + 1 ∧
      L.frameOffset unit n (t + (n * unit - L.frameOffset unit n t)) = 0 := by
  have hP : 0 < n * unit := Nat.mul_pos hn hu
  have hlt := L.frameOffset_lt hn hu t
  have hdm : n * unit * L.frameIndex unit n t + L.frameOffset unit n t = L.absolute unit t :=
    Nat.div_add_mod _ _
  have hend : L.absolute unit (t + (n * unit - L.frameOffset unit n t)) =
      n * unit * (L.frameIndex unit n t + 1) := by
    rw [absolute_of_le ht (Nat.le_add_right _ _), Nat.mul_succ]
    omega
  constructor
  · rw [frameIndex, hend, Nat.mul_div_cancel_left _ hP]
  · rw [frameOffset, hend, Nat.mul_mod_right]

lemma reading_frame_anchor {n δ t u : ℕ} (hu : 0 < unit) (hdvd : n ∣ wrap)
    (hδ : L.epoch + δ ≤ t) (hpos : δ ≤ L.frameOffset unit n t)
    (hyoung : L.frameOffset unit n t - δ ≤ t) (htu : t ≤ u) :
    (Line.mk (t - (L.frameOffset unit n t - δ))
      (L.ticks unit t % wrap - L.ticks unit t % wrap % n)).reading unit wrap u =
    L.reading unit wrap (u - δ) := by
  have hdm : n * unit * L.frameIndex unit n t + L.frameOffset unit n t = L.absolute unit t :=
    Nat.div_add_mod _ _
  have hM : u - (t - (L.frameOffset unit n t - δ)) = u - t + (L.frameOffset unit n t - δ) := by
    omega
  have hL : L.absolute unit (u - δ) =
      L.frameIndex unit n t * n * unit + (u - t + (L.frameOffset unit n t - δ)) := by
    have habs : L.absolute unit (u - δ) + δ = L.absolute unit t + (u - t) := by
      simp only [absolute]
      omega
    grind
  simp only [reading, hL]
  rw [wrapped_frame_start hu hdvd, absolute]
  simp only [hM]
  rw [← Nat.mul_mod_mul_right, Nat.mod_add_mod]

end Line
end Timeline
