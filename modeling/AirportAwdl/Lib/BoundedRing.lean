import Mathlib.Tactic

/-!
# Bounded rings

A fixed array with a head and a count, used as a first-in first-out queue. The bounds are
fields, so an index out of range cannot be formed. `toList` is the queue the ring stands for,
oldest element first; every operation is described by what it does to that list.
-/

universe u

/-- A queue of at most `n` elements in `n` slots; slot `head` holds the oldest. -/
structure BoundedRing (α : Type u) (n : ℕ) where
  slots : Vector α n
  head : ℕ
  count : ℕ
  head_lt : head < n
  count_le : count ≤ n

namespace BoundedRing

variable {α : Type u} {n : ℕ}

/-- A ring with nothing in it. The slots hold some value or other. -/
def empty (a : α) (hn : 0 < n) : BoundedRing α n := ⟨.replicate n a, 0, 0, hn, n.zero_le⟩

/-- The slot `i` places behind the head. -/
def slot (r : BoundedRing α n) (i : ℕ) : Fin n :=
  ⟨(r.head + i) % n, Nat.mod_lt _ (r.head.zero_le.trans_lt r.head_lt)⟩

/-- The queued elements, oldest first. -/
def toList (r : BoundedRing α n) : List α := (List.range r.count).map fun i => r.slots.get (r.slot i)

/-- Append an element, unless the ring is full. -/
def push? (r : BoundedRing α n) (a : α) : Option (BoundedRing α n) :=
  if h : r.count < n then
    some { r with slots := r.slots.set (r.slot r.count) a, count := r.count + 1, count_le := h }
  else none

/-- The oldest element. -/
def front (r : BoundedRing α n) : α := r.slots.get (r.slot 0)

/-- Forget the oldest element, if there is one. -/
def drop (r : BoundedRing α n) : BoundedRing α n :=
  if r.count = 0 then r
  else
    { r with
      head := (r.head + 1) % n
      count := r.count - 1
      head_lt := Nat.mod_lt _ (r.head.zero_le.trans_lt r.head_lt)
      count_le := r.count.pred_le.trans r.count_le }

/-- Forget everything that is queued, and leave the head where it is. -/
def clear (r : BoundedRing α n) : BoundedRing α n := { r with count := 0, count_le := n.zero_le }

@[simp] lemma length_toList (r : BoundedRing α n) : r.toList.length = r.count := by simp [toList]

lemma slot_ne (r : BoundedRing α n) {i j : ℕ} (hij : i < j) (hj : j < n) : r.slot i ≠ r.slot j := by
  intro h
  have hmod : (r.head + i) ≡ (r.head + j) [MOD n] := congrArg Fin.val h
  have hlt := Nat.ModEq.add_left_cancel' r.head hmod
  rw [Nat.ModEq, Nat.mod_eq_of_lt (by omega), Nat.mod_eq_of_lt hj] at hlt
  omega

lemma push?_eq_none {r : BoundedRing α n} {a : α} : r.push? a = none ↔ r.count = n := by
  have := r.count_le
  unfold push?
  split
  · simp only [reduceCtorEq, false_iff]
    omega
  · simp only [true_iff]
    omega

lemma toList_push? {r r' : BoundedRing α n} {a : α} (h : r.push? a = some r') :
    r'.toList = r.toList ++ [a] := by
  unfold push? at h
  split at h
  case isFalse => cases h
  rename_i hlt
  obtain rfl := Option.some.inj h
  show (List.range (r.count + 1)).map (fun i => (r.slots.set (r.slot r.count) a).get (r.slot i)) = _
  rw [List.range_succ, List.map_append, List.map_singleton]
  congr 1
  · refine List.map_congr_left fun i hi => ?_
    have hne := r.slot_ne (List.mem_range.mp hi) hlt
    exact Vector.getElem_set_ne _ _ fun h => hne (Fin.ext h.symm)
  · exact congrArg (· :: []) (Vector.getElem_set_self _)

lemma toList_drop {r : BoundedRing α n} (h : r.count ≠ 0) : r.toList = r.front :: r.drop.toList := by
  obtain ⟨k, hk⟩ : ∃ k, r.count = k + 1 := Nat.exists_eq_succ_of_ne_zero h
  have hdrop : r.drop.count = k := by
    unfold drop
    rw [if_neg h]
    show r.count - 1 = k
    omega
  have hslot : ∀ i, r.drop.slot i = r.slot (i + 1) := by
    intro i
    unfold drop slot
    rw [if_neg h]
    refine Fin.ext ?_
    show ((r.head + 1) % n + i) % n = (r.head + (i + 1)) % n
    rw [Nat.mod_add_mod]
    congr 1
    omega
  have hslots : r.drop.slots = r.slots := by
    unfold drop
    rw [if_neg h]
  rw [toList, toList, hk, hdrop, List.range_succ_eq_map, List.map_cons, List.map_map, hslots]
  simp only [Function.comp_def, hslot]
  rfl

end BoundedRing
