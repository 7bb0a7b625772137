import Mathlib.Algebra.BigOperators.Group.Finset.Basic
import Mathlib.Data.Fintype.Card
import Mathlib.Tactic

/-!
# Counting processes

Finitely many processes, each in some local state, take steps one at a time. `tally` is the number
of processes whose state has a property; a step of one process changes it by at most one.
-/

namespace Tally

variable {ι S : Type} [Fintype ι]

/-- The number of processes in a state with `P`. -/
def tally (P : S → Prop) [DecidablePred P] (f : ι → S) : ℕ :=
  (Finset.univ.filter fun i => P (f i)).card

variable {P : S → Prop} [DecidablePred P] {f : ι → S}

lemma tally_update [DecidableEq ι] (i : ι) (s : S) :
    tally P (Function.update f i s) + (if P (f i) then 1 else 0) =
      tally P f + (if P s then 1 else 0) := by
  have hrest : ∑ j ∈ Finset.univ.erase i, (if P (Function.update f i s j) then 1 else 0) =
      ∑ j ∈ Finset.univ.erase i, (if P (f j) then 1 else 0) := by
    apply Finset.sum_congr rfl
    intro j hj
    rw [Function.update_of_ne (Finset.ne_of_mem_erase hj)]
  rw [tally, tally, Finset.card_filter, Finset.card_filter,
    ← Finset.add_sum_erase _ _ (Finset.mem_univ i), hrest,
    ← Finset.add_sum_erase _ (fun j => if P (f j) then 1 else 0) (Finset.mem_univ i),
    Function.update_self]
  omega

lemma tally_congr {g : ι → S} (h : ∀ i, P (g i) ↔ P (f i)) : tally P g = tally P f := by
  unfold tally
  congr 1
  exact Finset.filter_congr fun i _ => h i

lemma tally_pos {i : ι} (h : P (f i)) : 0 < tally P f :=
  Finset.card_pos.mpr ⟨i, by simp [h]⟩

lemma tally_eq_zero (h : ∀ i, ¬ P (f i)) : tally P f = 0 := by
  rw [tally, Finset.card_eq_zero, Finset.filter_eq_empty_iff]
  exact fun i _ => h i

end Tally
