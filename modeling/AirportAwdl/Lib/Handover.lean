import Mathlib.Tactic

/-!
# Handing things over in batches

Things are collected in batches that are offered to a taker. The taker accepts a batch as a
whole; when it refuses one, the things in it are given back one by one. `Settled n log ps` says
that a log of these calls hands over exactly the list `ps`, in consecutive batches of at most
`n`.
-/

variable {P : Type*}

/-- A batch is offered, or one thing is given back. -/
inductive Handover (P : Type*) where
  | complete (batch : List P) (accepted : Bool)
  | release (p : P)

namespace Handover

/-- The calls that settle one batch. -/
def settle (batch : List P) (accepted : Bool) : List (Handover P) :=
  .complete batch accepted :: if accepted then [] else batch.map .release

/-- The log settles the list `ps` in consecutive batches of at most `n`. -/
inductive Settled (n : ℕ) : List (Handover P) → List P → Prop
  | nil : Settled n [] []
  | batch {log : List (Handover P)} {ps : List P} (h : Settled n log ps) {batch : List P}
      (hne : batch ≠ []) (hle : batch.length ≤ n) (accepted : Bool) :
      Settled n (log ++ settle batch accepted) (ps ++ batch)

/-- How often a call hands over `p`. -/
def handled [DecidableEq P] (p : P) : Handover P → ℕ
  | .complete batch true => batch.countP (· = p)
  | .complete _ false => 0
  | .release q => if q = p then 1 else 0

variable [DecidableEq P]

lemma handled_settle (p : P) (batch : List P) (accepted : Bool) :
    ((settle batch accepted).map (handled p)).sum = batch.countP (· = p) := by
  cases accepted with
  | true => simp [settle, handled]
  | false =>
    have hreleases : ((batch.map Handover.release).map (handled p)).sum =
        batch.countP (· = p) := by
      induction batch with
      | nil => rfl
      | cons q batch ih =>
        rw [List.map_cons, List.map_cons, List.sum_cons, ih, List.countP_cons, handled]
        by_cases hq : q = p
        · simp [hq, Nat.add_comm]
        · simp [hq]
    rw [settle, List.map_cons, List.sum_cons, handled, Nat.zero_add]
    exact hreleases

lemma Settled.handled_eq {n : ℕ} {log : List (Handover P)} {ps : List P} (h : Settled n log ps)
    (p : P) : (log.map (handled p)).sum = ps.countP (· = p) := by
  induction h with
  | nil => rfl
  | batch _ _ _ accepted ih =>
    rw [List.map_append, List.sum_append, ih, handled_settle, List.countP_append]

end Handover
