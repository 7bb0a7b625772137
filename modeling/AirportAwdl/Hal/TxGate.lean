import AirportAwdl.Lib.Tally

/-!
# The gate between primary traffic and visits

Primary producers pass `TxGate` with a `TxGuard`; the owner of the radio pauses the gate and waits
until it is drained before a visit. Each step of a process is one atomic access. All accesses are
sequentially consistent, so steps interleave, except for the first load of `users`, which may find
any value.

The driver decides how a visit starts and ends. `holding` is no part of the source: the drain loop
saw the gate empty and the gate was not opened since.
-/

namespace AirportAwdl.Hal

open Tally

/-- Where a producer is in `TxGuard`. -/
inductive Producer where
  | outside
  /-- `enter` saw no pause. -/
  | checked
  /-- The value that the next exchange expects in `users`. -/
  | loaded (count : UInt32)
  /-- The producer is counted; it has not looked at the pause again. -/
  | counted
  /-- It saw a pause and is about to leave. -/
  | refused
  /-- `enter` succeeded. -/
  | inside
deriving DecidableEq, Repr

/-- Where the owner is in `rtw89LinuxAwdlReserve` or `rtw89LinuxAwdlRestore`. -/
inductive Owner where
  | idle
  /-- The loop of reserve, after `wait` turns. -/
  | draining (wait : ℕ)
  /-- The loop gave up. -/
  | timedOut
  /-- The driver starts the visit. -/
  | starting
  /-- The visit failed without a debt, or it ended. -/
  | opening
deriving DecidableEq, Repr

/-- What the owner does next where it has a choice: which call is made, and what the driver
answers. -/
structure Choice where
  restore : Bool
  failed : Bool
  recovery : Bool
deriving DecidableEq, Repr

/-- `TxGate` with its users. -/
structure TxGate (ι : Type) where
  paused : Bool := false
  users : UInt32 := 0
  producers : ι → Producer := fun _ => .outside
  owner : Owner := .idle
  holding : Bool := false

inductive GateEvent (ι : Type) where
  /-- A producer takes a step; `stale` is what a relaxed load finds. -/
  | producer (i : ι) (stale : UInt32)
  | owner (choice : Choice)

namespace TxGate

variable {ι : Type} [DecidableEq ι]

/-- One step of `TxGuard`. -/
def producerStep (g : TxGate ι) (i : ι) (stale : UInt32) : TxGate ι :=
  let become (p : Producer) := Function.update g.producers i p
  match g.producers i with
  | .outside => if g.paused then g else { g with producers := become .checked }
  | .checked => { g with producers := become (.loaded stale) }
  | .loaded count =>
    if count = 0xffffffff then { g with producers := become .outside }
    else if g.users = count then { g with users := count + 1, producers := become .counted }
    else { g with producers := become (.loaded g.users) }
  | .counted => { g with producers := become (if g.paused then .refused else .inside) }
  | .refused | .inside => { g with users := g.users - 1, producers := become .outside }

/-- One step of the owner. -/
def ownerStep (g : TxGate ι) (choice : Choice) : TxGate ι :=
  match g.owner with
  | .idle =>
    if choice.restore then { g with owner := if choice.failed then .idle else .opening }
    else if g.paused then g
    else { g with paused := true, owner := .draining 0 }
  | .draining wait =>
    if g.users = 0 then { g with owner := .starting, holding := true }
    else { g with owner := if wait = 100 then .timedOut else .draining (wait + 1) }
  | .starting =>
    { g with owner := if choice.failed ∧ !choice.recovery then .opening else .idle }
  | .timedOut | .opening => { g with paused := false, owner := .idle, holding := false }

def step (g : TxGate ι) : GateEvent ι → TxGate ι
  | .producer i stale => g.producerStep i stale
  | .owner choice => g.ownerStep choice

def run (g : TxGate ι) (events : List (GateEvent ι)) : TxGate ι := events.foldl step g

/-- The producer has added itself to `users`. -/
def Counts (p : Producer) : Prop := p = .counted ∨ p = .refused ∨ p = .inside

instance : DecidablePred Counts := fun _ => inferInstanceAs (Decidable (_ ∨ _ ∨ _))

variable [Fintype ι]

/-- `users` is the number of producers that count, and nobody is inside during a visit. -/
structure Ok (g : TxGate ι) : Prop where
  users : g.users.toNat = tally Counts g.producers
  waiting : ∀ wait, g.owner = .draining wait → g.paused = true
  starting : g.owner = .starting → g.holding = true
  paused : g.holding = true → g.paused = true
  exclusive : g.holding = true → ∀ i, g.producers i ≠ .inside

variable {g : TxGate ι} {i : ι}

omit [DecidableEq ι] in
lemma ok_initial : Ok ({} : TxGate ι) where
  users := by
    have hnone : tally Counts (fun _ : ι => Producer.outside) = 0 :=
      tally_eq_zero fun _ => by decide
    exact hnone.symm
  waiting := nofun
  starting := nofun
  paused := nofun
  exclusive := nofun

lemma Ok.become (h : Ok g) {p : Producer} {users : UInt32}
    (husers : users.toNat + (if Counts (g.producers i) then 1 else 0) =
      g.users.toNat + (if Counts p then 1 else 0))
    (hinside : p = .inside → g.paused = false) :
    Ok { g with users := users, producers := Function.update g.producers i p } where
  users := by
    have hmoved := tally_update (P := Counts) (f := g.producers) i p
    have hcount := h.users
    grind
  waiting := h.waiting
  starting := h.starting
  paused := h.paused
  exclusive := by
    intro hhold j
    have hpaused : g.paused = true := h.paused hhold
    by_cases hj : j = i
    · grind
    · show Function.update g.producers i p j ≠ .inside
      rw [Function.update_of_ne hj]
      exact h.exclusive hhold j

omit [DecidableEq ι] in
lemma Ok.toNat_leave (h : Ok g) (hi : Counts (g.producers i)) :
    (g.users - 1).toNat + 1 = g.users.toNat := by
  have hpos : 0 < g.users.toNat := h.users ▸ tally_pos hi
  have hone : (1 : UInt32).toNat = 1 := rfl
  rw [UInt32.toNat_sub_of_le _ _ (UInt32.le_iff_toNat_le.mpr (by omega))]
  omega

lemma toNat_enter {count : UInt32} (h : count ≠ 0xffffffff) :
    (count + 1).toNat = count.toNat + 1 := by
  have hlt : count.toNat < 2 ^ 32 := count.toNat_lt
  have hne : count.toNat ≠ 0xffffffff := fun he => h (UInt32.toNat.inj he)
  have hone : (1 : UInt32).toNat = 1 := rfl
  rw [UInt32.toNat_add]
  omega

/-- A producer's step keeps the gate sound. -/
lemma ok_producerStep (h : Ok g) (i : ι) (stale : UInt32) : Ok (g.producerStep i stale) := by
  unfold producerStep
  cases hi : g.producers i with
  | outside =>
    show Ok (if g.paused = true then g else _)
    by_cases hp : g.paused = true
    · rwa [if_pos hp]
    · rw [if_neg hp]
      exact h.become (by simp [hi, Counts]) nofun
  | checked => exact h.become (by simp [hi, Counts]) nofun
  | loaded count =>
    show Ok (if count = 0xffffffff then _ else if g.users = count then _ else _)
    by_cases hmax : count = 0xffffffff
    · rw [if_pos hmax]
      exact h.become (by simp [hi, Counts]) nofun
    rw [if_neg hmax]
    by_cases heq : g.users = count
    · -- The exchange succeeds.
      rw [if_pos heq]
      exact h.become (by simp [hi, Counts, heq, toNat_enter hmax]) nofun
    · rw [if_neg heq]
      exact h.become (by simp [hi, Counts]) nofun
  | counted =>
    -- Still counted, whichever way the second look at the pause goes.
    refine h.become (p := if g.paused then .refused else .inside) ?_ ?_
    · by_cases hp : g.paused = true <;> simp [hi, hp, Counts]
    · intro hin
      by_contra hp
      simp [hp] at hin
  | refused | inside =>
    have hleave := h.toNat_leave (i := i) (by simp [hi, Counts])
    exact h.become (by simp [hi, Counts, hleave]) nofun

omit [DecidableEq ι] in
lemma Ok.goes (h : Ok g) {o : Owner} (hwait : ∀ wait, o = .draining wait → g.paused = true)
    (hstart : o ≠ .starting) : Ok { g with owner := o } :=
  ⟨h.users, hwait, fun ho => absurd ho hstart, h.paused, h.exclusive⟩

omit [DecidableEq ι] in
/-- So does the owner's: a visit starts after `users` was seen at zero. -/
lemma ok_ownerStep (h : Ok g) (choice : Choice) : Ok (g.ownerStep choice) := by
  unfold ownerStep
  cases ho : g.owner with
  | idle =>
    by_cases hr : choice.restore = true
    · grind [h.goes]
    rw [if_neg hr]
    by_cases hp : g.paused = true
    · rwa [if_pos hp]
    · rw [if_neg hp]
      exact ⟨h.users, fun _ _ => rfl, nofun, fun _ => rfl, h.exclusive⟩
  | draining wait =>
    have hp : g.paused = true := h.waiting wait ho
    show Ok (if g.users = 0 then _ else _)
    by_cases hz : g.users = 0
    · -- No producer counts, so nobody is inside; the gate is paused from here on.
      have hnone : ∀ i, g.producers i ≠ .inside := by
        intro i hi
        have hpos : 0 < tally Counts g.producers := tally_pos (i := i) (.inr (.inr hi))
        rw [← h.users, hz] at hpos
        simp at hpos
      rw [if_pos hz]
      exact ⟨h.users, nofun, fun _ => rfl, fun _ => hp, fun _ => hnone⟩
    grind [h.goes]
  | starting => refine h.goes (fun _ => ?_) ?_ <;> split <;> nofun
  | timedOut | opening => exact ⟨h.users, nofun, nofun, nofun, nofun⟩

/-- Every event keeps the gate sound. -/
lemma ok_step (h : Ok g) (e : GateEvent ι) : Ok (g.step e) := by
  cases e with
  | producer i stale => exact ok_producerStep h i stale
  | owner choice => exact ok_ownerStep h choice

/-- `users` moves by one at most. -/
lemma toNat_step (h : Ok g) (e : GateEvent ι) :
    (g.step e).users.toNat ≤ g.users.toNat + 1 ∧
      g.users.toNat ≤ (g.step e).users.toNat + 1 := by
  cases e with
  | owner choice =>
    have hkeep : (g.ownerStep choice).users = g.users := by
      unfold ownerStep
      split <;> (try split) <;> (try split) <;> rfl
    show (g.ownerStep choice).users.toNat ≤ _ ∧ _ ≤ (g.ownerStep choice).users.toNat + 1
    rw [hkeep]
    omega
  | producer i stale =>
    -- Producers other than `i` stay where they are, so the tally moves by one at most.
    have hmoved : ∃ p, (g.producerStep i stale).producers = Function.update g.producers i p := by
      unfold producerStep
      split <;> (try split) <;> (try split) <;>
        first
        | exact ⟨_, rfl⟩
        | exact ⟨g.producers i, (Function.update_eq_self i g.producers).symm⟩
    obtain ⟨p, hp⟩ := hmoved
    have hbefore := h.users
    have hafter := (ok_producerStep h i stale).users
    have htally := tally_update (P := Counts) (f := g.producers) i p
    rw [hp] at hafter
    show (g.producerStep i stale).users.toNat ≤ _ ∧ _ ≤ (g.producerStep i stale).users.toNat + 1
    split at htally <;> split at htally <;> omega

/-- The gate is sound in every interleaving. -/
lemma ok_run (h : Ok g) (events : List (GateEvent ι)) : Ok (g.run events) := by
  induction events generalizing g with
  | nil => exact h
  | cons e events ih => exact ih (ok_step h e)

/-- In every interleaving of any producers with the owner, from the moment the drain loop sees the
gate empty until the gate is opened, the gate is paused and no producer is inside. `users` is
always the number of producers that are inside, before their second look at the pause, or refused
there and not yet gone; it moves by one at most, so it neither underflows nor wraps. -/
theorem primary_excluded_from_visit (events : List (GateEvent ι)) :
    let g := ({} : TxGate ι).run events
    (g.owner = .starting → g.holding = true) ∧
    (g.holding = true → g.paused = true ∧ ∀ i, g.producers i ≠ .inside) ∧
    g.users.toNat = tally Counts g.producers ∧
    ∀ e, (g.step e).users.toNat ≤ g.users.toNat + 1 ∧
      g.users.toNat ≤ (g.step e).users.toNat + 1 := by
  intro g
  have h : Ok g := ok_run ok_initial events
  refine ⟨h.starting, fun hhold => ⟨h.paused hhold, h.exclusive hhold⟩, h.users, ?_⟩
  intro e
  exact toNat_step h e

/-- The owner pauses the gate with a producer inside, waits until it has left and starts a visit. -/
def visit : List (GateEvent (Fin 1)) :=
  List.replicate 4 (.producer (Fin.last 0) 0) ++ List.replicate 2 (.owner ⟨false, false, false⟩) ++
    [.producer (Fin.last 0) 0, .owner ⟨false, false, false⟩]

theorem primary_excluded_from_visit_held :
    (TxGate.run {} visit).owner = .starting ∧
      ∀ i, (TxGate.run {} visit).producers i ≠ .inside := by
  obtain ⟨hstarting, hheld, -⟩ := primary_excluded_from_visit visit
  have howner : (TxGate.run {} visit).owner = .starting := by decide
  exact ⟨howner, (hheld (hstarting howner)).2⟩

/-! ## A producer that is turned away

It looked before the pause, was counted after it, and saw it then. Until it has left again `users`
counts it, although it is neither inside nor before its second look. -/

def turnedAway : TxGate (Fin 1) :=
  TxGate.run {} [.producer 0 0, .producer 0 0, .owner ⟨false, false, false⟩, .producer 0 0,
    .producer 0 0]

theorem turnedAway_counted :
    ¬ turnedAway.users.toNat =
      tally (fun p => p = Producer.inside ∨ p = Producer.counted) turnedAway.producers := by
  decide +kernel

end TxGate

end AirportAwdl.Hal
