import Mathlib.Tactic

/-!
# Transactions over a list of calls

A store takes calls. While a *hold* is in force it takes them on a copy, which a *commit* makes
the live one and an *abort* throws away. `calls` says from the history alone which calls a store
has kept; a store that `Follows` it shows exactly the effect of those.
-/

namespace Transaction

variable {C Q : Type*}

inductive Act (C : Type*) where
  | call (c : C)
  | hold
  | commit
  | abort

/-- The calls kept so far and, during a hold, those it may still add. -/
structure Calls (C : Type*) where
  kept : List C := []
  held : Option (List C) := none

/-- A hold during a hold, and a commit or an abort outside one, change nothing. -/
def Calls.step (calls : Calls C) : Act C → Calls C
  | .call c =>
    match calls.held with
    | none => { calls with kept := calls.kept ++ [c] }
    | some held => { calls with held := some (held ++ [c]) }
  | .hold => { calls with held := some (calls.held.getD []) }
  | .commit => ⟨calls.kept ++ calls.held.getD [], none⟩
  | .abort => { calls with held := none }

/-- An act, or none. -/
def Calls.advance (calls : Calls C) (a : Option (Act C)) : Calls C := a.elim calls calls.step

/-- What a history has kept. -/
def calls (acts : List (Act C)) : Calls C := acts.foldl Calls.step {}

lemma calls_concat (acts : List (Act C)) (a : Act C) :
    calls (acts ++ [a]) = (calls acts).step a := List.foldl_concat ..

lemma calls_filterMap_concat {E : Type*} (act : E → Option (Act C)) (events : List E) (e : E) :
    calls ((events ++ [e]).filterMap act) = (calls (events.filterMap act)).advance (act e) := by
  rw [List.filterMap_append]
  cases h : act e with
  | none => simp [h, Calls.advance]
  | some a => simp [h, Calls.advance, calls_concat]

/-- The call that an act makes. -/
def Act.call? : Act C → Option C
  | .call c => some c
  | _ => none

/-- Without an abort no call is lost. -/
theorem calls_of_no_abort {acts : List (Act C)} (h : .abort ∉ acts) :
    (calls acts).kept ++ (calls acts).held.getD [] = acts.filterMap Act.call? := by
  induction acts using List.reverseRecOn with
  | nil => rfl
  | append_singleton acts a ih =>
    rw [List.mem_append, not_or] at h
    have hih := ih h.1
    rw [calls_concat, List.filterMap_append, ← hih]
    cases a with
    | call c =>
      rcases hheld : (calls acts).held with - | held <;> simp [Calls.step, Act.call?, hheld]
    | hold => simp [Calls.step, Act.call?]
    | commit => simp [Calls.step, Act.call?]
    | abort => exact absurd (List.mem_singleton_self _) h.2

/-- A store that started with `start` and now has the live value `live` and, during a hold, the
copy `pending`, shows the calls of a history. -/
structure Follows (apply : Q → C → Q) (start : Q) (calls : Calls C) (live : Q)
    (pending : Option Q) : Prop where
  live_eq : live = calls.kept.foldl apply start
  pending_eq : pending = calls.held.map fun held => held.foldl apply live

namespace Follows

variable {apply : Q → C → Q} {start live copy : Q} {calls : Calls C} {pending : Option Q}

lemma held_none (h : Follows apply start calls live none) : calls.held = none :=
  Option.map_eq_none_iff.mp h.pending_eq.symm

lemma held_some (h : Follows apply start calls live (some copy)) :
    ∃ held, calls.held = some held ∧ held.foldl apply live = copy :=
  Option.map_eq_some_iff.mp h.pending_eq.symm

lemma call_free (h : Follows apply start calls live none) (c : C) :
    Follows apply start (calls.step (.call c)) (apply live c) none := by
  have hfree := h.held_none
  simp only [Calls.step, hfree]
  exact ⟨by rw [List.foldl_concat, ← h.live_eq], by rw [Option.map_none]⟩

lemma call_held (h : Follows apply start calls live (some copy)) (c : C) :
    Follows apply start (calls.step (.call c)) live (some (apply copy c)) := by
  obtain ⟨held, hheld, rfl⟩ := h.held_some
  simp only [Calls.step, hheld]
  exact ⟨h.live_eq, by rw [Option.map_some, List.foldl_concat]⟩

lemma hold (h : Follows apply start calls live pending) :
    Follows apply start (calls.step .hold) live (some (pending.getD live)) := by
  refine ⟨h.live_eq, ?_⟩
  cases pending with
  | none => simp [Calls.step, h.held_none]
  | some copy =>
    obtain ⟨held, hheld, rfl⟩ := h.held_some
    simp [Calls.step, hheld]

lemma commit (h : Follows apply start calls live pending) :
    Follows apply start (calls.step .commit) (pending.getD live) none := by
  refine ⟨?_, rfl⟩
  cases pending with
  | none => simp [Calls.step, h.held_none, h.live_eq]
  | some copy =>
    obtain ⟨held, hheld, rfl⟩ := h.held_some
    simp [Calls.step, hheld, h.live_eq, List.foldl_append]

lemma abort (h : Follows apply start calls live pending) :
    Follows apply start (calls.step .abort) live none := ⟨h.live_eq, rfl⟩

end Follows

lemma foldl_last {P : Type*} (apply : Q → C → Q) (part : Q → P) {calls before rest : List C} {c : C}
    {value : P} (h : calls = before ++ c :: rest) (hset : ∀ q, part (apply q c) = value)
    (hkeep : ∀ q, ∀ c' ∈ rest, part (apply q c') = part q) (start : Q) :
    part (calls.foldl apply start) = value := by
  rw [h, List.foldl_append, List.foldl_cons]
  have hrest : ∀ (q : Q) (l : List C), (∀ c' ∈ l, c' ∈ rest) → part (l.foldl apply q) = part q := by
    intro q l
    induction l generalizing q with
    | nil => exact fun _ => rfl
    | cons c' l ih =>
      intro hl
      rw [List.foldl_cons, ih _ fun c'' hc'' => hl c'' (List.mem_cons_of_mem _ hc''),
        hkeep _ _ (hl c' List.mem_cons_self)]
  rw [hrest _ rest fun _ => id, hset]

end Transaction
