import Mathlib.Data.List.Basic
import Mathlib.Tactic

/-!
# Fields that are set at most once

A pass over a list that fills the fields of a record, each at most once, as decoders of tagged
fields do. A `Slot` is one such field: `fill` fails if the field is set already or the value is
bad. Filling two different fields commutes (`Slot.fill_comm`) and filling one of them twice fails
in either order, so the outcome of the whole pass does not depend on the order of the list
(`foldl_perm`).
-/

namespace SetOnce

/-- A field of `σ` with values `α` that can be set once. -/
structure Slot (σ α : Type*) where
  isSet : σ → Bool
  put : α → σ → σ
  isSet_put : ∀ x s, isSet (put x s) = true

variable {σ α β : Type*}

/-- Set the field to a value that was decoded, or fail. -/
def Slot.fill (f : Slot σ α) (x : Option α) (s : σ) : Option σ :=
  if f.isSet s then none else x.map fun a => f.put a s

lemma Slot.fill_twice (f : Slot σ α) (x y : Option α) (s : σ) :
    (f.fill x s).bind (f.fill y) = none := by
  unfold fill
  by_cases hset : f.isSet s
  · rw [if_pos hset]
    rfl
  · rw [if_neg hset]
    cases x with
    | none => rfl
    | some a => exact if_pos (f.isSet_put a s)

/-- Neither field sees what is put into the other. -/
structure Slot.Independent (f : Slot σ α) (g : Slot σ β) : Prop where
  left : ∀ b s, f.isSet (g.put b s) = f.isSet s
  right : ∀ a s, g.isSet (f.put a s) = g.isSet s
  put_comm : ∀ a b s, g.put b (f.put a s) = f.put a (g.put b s)

lemma Slot.fill_comm {f : Slot σ α} {g : Slot σ β} (h : f.Independent g) (x : Option α)
    (y : Option β) (s : σ) : (f.fill x s).bind (g.fill y) = (g.fill y s).bind (f.fill x) := by
  unfold fill
  by_cases hf : f.isSet s <;> by_cases hg : g.isSet s
  · rw [if_pos hf, if_pos hg]
    rfl
  · rw [if_pos hf, if_neg hg]
    cases y with
    | none => rfl
    | some b => exact (if_pos ((h.left b s).trans hf)).symm
  · rw [if_neg hf, if_pos hg]
    cases x with
    | none => rfl
    | some a => exact if_pos ((h.right a s).trans hg)
  · rw [if_neg hf, if_neg hg]
    cases x with
    | none => cases y with
      | none => rfl
      | some b => exact (if_neg (by rwa [h.left])).symm
    | some a => cases y with
      | none => exact if_neg (by rwa [h.right])
      | some b =>
        show (if g.isSet (f.put a s) then none else some (g.put b (f.put a s))) =
          if f.isSet (g.put b s) then none else some (f.put a (g.put b s))
        rw [if_neg (by rwa [h.right]), if_neg (by rwa [h.left]), h.put_comm]

/-- One step of a pass that may have failed. -/
def advance (step : σ → α → Option σ) (o : Option σ) (a : α) : Option σ := o.bind (step · a)

lemma foldl_none (step : σ → α → Option σ) (l : List α) : l.foldl (advance step) none = none := by
  induction l with
  | nil => rfl
  | cons a l ih => exact ih

lemma foldl_perm {step : σ → α → Option σ}
    (hcomm : ∀ s a b, (step s a).bind (step · b) = (step s b).bind (step · a)) {l l' : List α}
    (h : l.Perm l') (o : Option σ) : l.foldl (advance step) o = l'.foldl (advance step) o := by
  refine h.foldl_eq' (fun a _ b _ o => ?_) o
  cases o with
  | none => rfl
  | some s => exact hcomm s a b

lemma foldl_filter {step : σ → α → Option σ} {p : α → Bool}
    (hskip : ∀ s a, p a = false → step s a = some s) (l : List α) (o : Option σ) :
    l.foldl (advance step) o = (l.filter p).foldl (advance step) o := by
  induction l generalizing o with
  | nil => rfl
  | cons a l ih =>
    rw [List.foldl_cons, ih]
    by_cases ha : p a = true
    · rw [List.filter_cons_of_pos ha, List.foldl_cons]
    · have hsame : advance step o a = o := by
        cases o with
        | none => rfl
        | some s => exact hskip s a (Bool.eq_false_iff.mpr ha)
      rw [List.filter_cons_of_neg ha, hsame]

end SetOnce
