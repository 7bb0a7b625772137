import Mathlib.Tactic

/-!
# Managed thread calls

`RTWManagedCall.h` counts the instances of a thread call that are pending or running, so that a
cancel can wait for the last of them. Each step below is one section under the lock, or one step
outside of it; the steps of all threads interleave in any order. XNU is what its contract says: an
enter reports whether the call was pending before, a cancel whether it removed a pending call, and
at most one instance is pending and at most one is running. It starts a pending call at any time,
whether it was entered with a deadline or without.

The trampoline is over with the section in which it drops its reference. `entered`, the time of the
enter that an instance stems from, is no part of the source.
-/

namespace AirportAwdl.Hal

/-- A pending instance. -/
structure PendingCall where
  entered : ℕ
  deadline : Option UInt64
deriving DecidableEq, Repr

/-- Where the trampoline is. -/
inductive Trampoline where
  /-- Before its first section. -/
  | begun
  /-- `function` is running. -/
  | executing
  /-- Before its second section. -/
  | leaving
deriving DecidableEq, Repr

/-- A running instance. -/
structure RunningCall where
  entered : ℕ
  stage : Trampoline
deriving DecidableEq, Repr

/-- `thread_call_t` of a call that runs once at a time. -/
structure ThreadCall where
  pending : Option PendingCall := none
  running : Option RunningCall := none
deriving DecidableEq, Repr

namespace ThreadCall

/-- An enter, and whether the call was pending. -/
def enterAt (t : ThreadCall) (now : ℕ) (deadline : Option UInt64) : Bool × ThreadCall :=
  match t.pending with
  | some p => (true, { t with pending := some { p with deadline := deadline } })
  | none => (false, { t with pending := some ⟨now, deadline⟩ })

/-- `thread_call_enter` -/
def enter (t : ThreadCall) (now : ℕ) : Bool × ThreadCall := t.enterAt now none

/-- `thread_call_enter_delayed` -/
def enterDelayed (t : ThreadCall) (now : ℕ) (deadline : UInt64) : Bool × ThreadCall :=
  t.enterAt now (some deadline)

/-- `thread_call_cancel` -/
def cancel (t : ThreadCall) : Bool × ThreadCall := (t.pending.isSome, { t with pending := none })

/-- XNU starts the pending call. -/
def start (t : ThreadCall) : ThreadCall :=
  match t.pending, t.running with
  | some p, none => { pending := none, running := some ⟨p.entered, .begun⟩ }
  | _, _ => t

/-- The instances, by the times of their enters. -/
def instances (t : ThreadCall) : List ℕ :=
  (t.pending.map PendingCall.entered).toList ++ (t.running.map RunningCall.entered).toList

lemma length_instances_le (t : ThreadCall) : t.instances.length ≤ 2 := by
  have hpending : (t.pending.map PendingCall.entered).toList.length ≤ 1 := Option.length_toList_le
  have hrunning : (t.running.map RunningCall.entered).toList.length ≤ 1 := Option.length_toList_le
  rw [instances, List.length_append]
  omega

lemma mem_instances_of_running {t : ThreadCall} {r : RunningCall} (h : t.running = some r) :
    r.entered ∈ t.instances := by
  simp [instances, h]

lemma eq_of_instances_nil {t : ThreadCall} (h : t.instances = []) : t = {} := by
  obtain ⟨pending, running⟩ := t
  cases pending with
  | some p => simp [instances] at h
  | none =>
    cases running with
    | some r => simp [instances] at h
    | none => rfl

end ThreadCall

/-- Where a thread is in `rtw_managed_cancel` or `rtw_managed_free`. -/
inductive Canceler where
  /-- Outside; what the last call returned. -/
  | outside (result : Option Bool)
  /-- In the loop of a cancel, which a free may have called. -/
  | canceling (wait free removed : Bool)
  /-- A free whose cancel has returned. -/
  | releasing
  /-- A free whose thread call is gone, before it clears `raw`. -/
  | clearing
deriving DecidableEq, Repr

/-- `rtw_managed_call` with the threads that cancel or free it. -/
structure ManagedCall (ι : Type) where
  /-- `raw` is not null. -/
  raw : Bool := true
  threadCall : ThreadCall := {}
  outstanding : UInt32 := 0
  canceling : UInt32 := 0
  retired : Bool := false
  threads : ι → Canceler := fun _ => .outside none

inductive CallEvent (ι : Type) where
  /-- Anybody enters the call, the running function included. -/
  | enter (deadline : UInt64) (delayed : Bool)
  /-- A thread calls `rtw_managed_cancel`. -/
  | cancel (i : ι) (wait retire : Bool)
  /-- A thread calls `rtw_managed_free`. -/
  | free (i : ι)
  /-- A thread goes on; `freed` is the answer of `thread_call_free`. -/
  | thread (i : ι) (freed : Bool)
  | start
  | trampoline

namespace ManagedCall

variable {ι : Type} [DecidableEq ι]

omit [DecidableEq ι] in
/-- `rtw_managed_enter` -/
def enter (c : ManagedCall ι) (now : ℕ) (deadline : UInt64) (delayed : Bool) :
    Bool × ManagedCall ι :=
  if c.retired ∨ c.canceling ≠ 0 then (false, c)
  else
    let (pending, threadCall) :=
      if delayed then c.threadCall.enterDelayed now deadline else c.threadCall.enter now
    (pending, { c with
      threadCall := threadCall
      outstanding := if pending then c.outstanding else c.outstanding + 1 })

def goes (c : ManagedCall ι) (i : ι) (place : Canceler) : ManagedCall ι :=
  { c with threads := Function.update c.threads i place }

/-- The first section of `rtw_managed_cancel`. -/
def cancel (c : ManagedCall ι) (i : ι) (wait retire free : Bool) : ManagedCall ι :=
  let (removed, threadCall) := if c.raw then c.threadCall.cancel else (false, c.threadCall)
  { c with
    canceling := c.canceling + 1
    retired := c.retired || retire
    threadCall := threadCall
    outstanding := if removed then c.outstanding - 1 else c.outstanding }.goes i
      (.canceling wait free removed)

/-- A call of a thread that is not inside another one. -/
def call (c : ManagedCall ι) (i : ι) (wait retire free : Bool) : ManagedCall ι :=
  match c.threads i with
  | .outside _ => c.cancel i wait retire free
  | _ => c

/-- The next step of a thread. -/
def threadStep (c : ManagedCall ι) (i : ι) (freed : Bool) : ManagedCall ι :=
  match c.threads i with
  | .outside _ => c
  | .canceling wait free removed =>
    if !wait ∨ c.outstanding = 0 then
      { c with canceling := c.canceling - 1 }.goes i
        (if free then .releasing else .outside (some removed))
    else c
  | .releasing =>
    if !c.raw then c.goes i (.outside (some true))
    else if !freed then c.goes i (.outside (some false))
    else c.goes i .clearing
  | .clearing => { c with raw := false }.goes i (.outside (some true))

omit [DecidableEq ι] in
/-- The next step of `rtw_managed_trampoline`. -/
def trampoline (c : ManagedCall ι) : ManagedCall ι :=
  match c.threadCall.running with
  | none => c
  | some r =>
    match r.stage with
    | .begun =>
      let execute := c.canceling = 0 ∧ !c.retired
      { c with threadCall.running := some { r with stage := if execute then .executing else .leaving } }
    | .executing => { c with threadCall.running := some { r with stage := .leaving } }
    | .leaving => { c with threadCall.running := none, outstanding := c.outstanding - 1 }

def step (c : ManagedCall ι) (now : ℕ) : CallEvent ι → ManagedCall ι
  | .enter deadline delayed => (c.enter now deadline delayed).2
  | .cancel i wait retire => c.call i wait retire false
  | .free i => c.call i true true true
  | .thread i freed => c.threadStep i freed
  | .start => { c with threadCall := c.threadCall.start }
  | .trampoline => c.trampoline

/-- The state after the first events of a schedule. -/
def history (σ : ℕ → CallEvent ι) : ℕ → ManagedCall ι
  | 0 => {}
  | k + 1 => (history σ k).step k (σ k)

/-- An enter makes an instance now. -/
structure Accepts (c : ManagedCall ι) : Prop where
  retired : c.retired = false
  canceling : c.canceling = 0
  pending : c.threadCall.pending = none

/-- The changes of a step. -/
inductive Moves (now : ℕ) (e : CallEvent ι) (c c' : ManagedCall ι) : Prop where
  | same (h : c'.threadCall.instances = c.threadCall.instances)
      (ho : c'.outstanding = c.outstanding)
  | entered (he : ∃ deadline delayed, e = .enter deadline delayed) (ha : c.Accepts)
      (h : c'.threadCall.instances = now :: c.threadCall.instances)
      (ho : c'.outstanding = c.outstanding + 1)
  | dropped (n : ℕ) (h : c.threadCall.instances.Perm (n :: c'.threadCall.instances))
      (ho : c'.outstanding = c.outstanding - 1)

variable {c : ManagedCall ι} {now : ℕ} {i : ι} {n m k : ℕ} {e : CallEvent ι} {c' : ManagedCall ι}
  {σ : ℕ → CallEvent ι} {start stop : ℕ}

omit [DecidableEq ι] in
lemma moves_enter (deadline : UInt64) (delayed : Bool) :
    Moves now (.enter deadline delayed) c (c.enter now deadline delayed).2 := by
  unfold enter
  by_cases hrefused : c.retired = true ∨ c.canceling ≠ 0
  · rw [if_pos hrefused]
    exact .same rfl rfl
  rw [if_neg hrefused]
  rw [not_or, Bool.not_eq_true, not_not] at hrefused
  obtain ⟨due, hdue⟩ : ∃ due, (if delayed then c.threadCall.enterDelayed now deadline
      else c.threadCall.enter now) = c.threadCall.enterAt now due := by
    cases delayed with
    | true => exact ⟨some deadline, rfl⟩
    | false => exact ⟨none, rfl⟩
  rw [hdue]
  unfold ThreadCall.enterAt
  cases hp : c.threadCall.pending with
  | some p =>
    refine .same ?_ rfl
    simp [ThreadCall.instances, hp]
  | none =>
    refine .entered ⟨deadline, delayed, rfl⟩ ⟨hrefused.1, hrefused.2, hp⟩ ?_ rfl
    simp [ThreadCall.instances, hp]

lemma call_cases (i : ι) (wait retire free : Bool) :
    ((∃ result, c.threads i = .outside result) ∧
      c.call i wait retire free = c.cancel i wait retire free) ∨
    (¬∃ result, c.threads i = .outside result) ∧ c.call i wait retire free = c := by
  unfold call
  grind

lemma moves_cancel (e : CallEvent ι) (wait retire free : Bool) :
    Moves now e c (c.cancel i wait retire free) := by
  unfold cancel ThreadCall.cancel
  cases c.raw with
  | false => exact .same rfl rfl
  | true =>
    cases hp : c.threadCall.pending with
    | none =>
      refine .same ?_ rfl
      simp [goes, ThreadCall.instances, hp]
    | some p =>
      refine .dropped p.entered ?_ rfl
      simp [goes, ThreadCall.instances, hp]

lemma moves_call (e : CallEvent ι) (wait retire free : Bool) :
    Moves now e c (c.call i wait retire free) := by
  rcases c.call_cases i wait retire free with ⟨-, heq⟩ | ⟨-, heq⟩
  · rw [heq]
    exact moves_cancel e wait retire free
  · rw [heq]
    exact .same rfl rfl

lemma moves_threadStep (e : CallEvent ι) (freed : Bool) : Moves now e c (c.threadStep i freed) := by
  unfold threadStep
  cases c.threads i with
  | outside result => exact .same rfl rfl
  | canceling wait free removed =>
    dsimp only
    split
    · exact .same rfl rfl
    · exact .same rfl rfl
  | releasing =>
    dsimp only
    split
    · exact .same rfl rfl
    · split
      · exact .same rfl rfl
      · exact .same rfl rfl
  | clearing => exact .same rfl rfl

omit [DecidableEq ι] in
lemma moves_start (e : CallEvent ι) :
    Moves now e c { c with threadCall := c.threadCall.start } := by
  refine .same ?_ rfl
  unfold ThreadCall.start
  cases hp : c.threadCall.pending with
  | none => rfl
  | some p =>
    cases hr : c.threadCall.running with
    | none => simp [ThreadCall.instances, hp, hr]
    | some r => rfl

omit [DecidableEq ι] in
lemma moves_trampoline (e : CallEvent ι) : Moves now e c c.trampoline := by
  unfold trampoline
  cases hr : c.threadCall.running with
  | none => exact .same rfl rfl
  | some r =>
    dsimp only
    cases r.stage with
    | begun =>
      refine .same ?_ rfl
      simp [ThreadCall.instances, hr]
    | executing =>
      refine .same ?_ rfl
      simp [ThreadCall.instances, hr]
    | leaving =>
      refine .dropped r.entered ?_ rfl
      simp [ThreadCall.instances, hr]

/-- Every event moves the instances in one of these ways. -/
lemma moves_step (e : CallEvent ι) : Moves now e c (c.step now e) := by
  cases e with
  | enter deadline delayed => exact moves_enter deadline delayed
  | cancel i wait retire => exact moves_call _ wait retire false
  | free i => exact moves_call _ true true true
  | thread i freed => exact moves_threadStep _ freed
  | start => exact moves_start _
  | trampoline => exact moves_trampoline _

omit [DecidableEq ι] in
lemma Moves.mem (h : Moves now e c c')
    (hn : n ∈ c'.threadCall.instances) : n ∈ c.threadCall.instances ∨
      n = now ∧ (∃ deadline delayed, e = .enter deadline delayed) ∧ c.Accepts := by
  cases h with
  | same h _ => exact .inl (h ▸ hn)
  | entered he ha h _ =>
    grind
  | dropped m h _ => exact .inl (h.symm.subset (List.mem_cons_of_mem m hn))

omit [DecidableEq ι] in
lemma Moves.length_le (h : Moves now e c c') :
    c'.threadCall.instances.length ≤ c.threadCall.instances.length + 1 ∧
      c.threadCall.instances.length ≤ c'.threadCall.instances.length + 1 := by
  cases h with
  | same h _ =>
    rw [h]
    omega
  | entered _ _ h _ =>
    rw [h, List.length_cons]
    omega
  | dropped n h _ =>
    rw [h.length_eq, List.length_cons]
    omega

/-- Every instance holds one reference. -/
def Counted (c : ManagedCall ι) : Prop := c.outstanding.toNat = c.threadCall.instances.length

omit [DecidableEq ι] in
lemma Counted.moves (h : Counted c) (hm : Moves now e c c') : Counted c' := by
  have hone : (1 : UInt32).toNat = 1 := rfl
  have hle := c.threadCall.length_instances_le
  unfold Counted at h ⊢
  cases hm with
  | same hi ho => rw [hi, ho, h]
  | entered _ _ hi ho =>
    rw [hi, ho, List.length_cons, UInt32.toNat_add]
    omega
  | dropped n hi ho =>
    have hlength := hi.length_eq
    rw [List.length_cons] at hlength
    rw [ho, UInt32.toNat_sub_of_le _ _ (UInt32.le_iff_toNat_le.mpr (by omega))]
    omega

omit [DecidableEq ι] in
lemma Counted.idle (h : Counted c) (hzero : c.outstanding = 0) : c.threadCall = {} := by
  unfold Counted at h
  rw [hzero] at h
  exact ThreadCall.eq_of_instances_nil (List.eq_nil_of_length_eq_zero h.symm)

/-- A retired call stays retired. -/
lemma retired_step (e : CallEvent ι) (h : c.retired = true) : (c.step now e).retired = true := by
  have hcall : ∀ i wait retire free, (c.call i wait retire free).retired = true := by
    intro i wait retire free
    rcases c.call_cases i wait retire free with ⟨-, heq⟩ | ⟨-, heq⟩
    · rw [heq]
      show (c.retired || retire) = true
      rw [h, Bool.true_or]
    · rwa [heq]
  cases e with
  | enter deadline delayed =>
    show (c.enter now deadline delayed).2.retired = true
    rwa [enter, if_pos (.inl h)]
  | cancel i wait retire => exact hcall i wait retire false
  | free i => exact hcall i true true true
  | thread i freed =>
    show (c.threadStep i freed).retired = true
    unfold threadStep
    split
    · exact h
    · split
      · exact h
      · exact h
    · split
      · exact h
      · split
        · exact h
        · exact h
    · exact h
  | start => exact h
  | trampoline =>
    show c.trampoline.retired = true
    grind [trampoline]

/-- A thread that waits stays in its loop until there is no instance. -/
lemma waiting_step (now : ℕ) {free removed : Bool}
    (h : c.threads i = .canceling true free removed) (e : CallEvent ι) :
    (c.step now e).threads i = .canceling true free removed ∨
      c.outstanding = 0 ∧ (c.step now e).threadCall = c.threadCall ∧
        (c.step now e).threads i = if free then .releasing else .outside (some removed) := by
  have hcall : ∀ j wait retire free', (c.call j wait retire free').threads i =
      .canceling true free removed := by
    intro j wait retire free'
    rcases c.call_cases j wait retire free' with ⟨⟨result, hj⟩, heq⟩ | ⟨-, heq⟩
    · have hne : i ≠ j := by
        rintro rfl
        rw [h] at hj
        cases hj
      rw [heq]
      exact (Function.update_of_ne hne _ _).trans h
    · rwa [heq]
  cases e with
  | enter deadline delayed =>
    left
    show (c.enter now deadline delayed).2.threads i = _
    unfold enter
    split
    · exact h
    · exact h
  | cancel j wait retire => exact .inl (hcall j wait retire false)
  | free j => exact .inl (hcall j true true true)
  | thread j freed =>
    show (c.threadStep j freed).threads i = _ ∨ _ ∧ (c.threadStep j freed).threadCall = _ ∧
      (c.threadStep j freed).threads i = _
    by_cases hij : i = j
    · subst hij
      unfold threadStep
      rw [h]
      dsimp only
      by_cases hzero : c.outstanding = 0
      · right
        rw [if_pos (.inr hzero)]
        exact ⟨hzero, rfl, Function.update_self i _ _⟩
      grind
    · left
      have hother : ∀ (c' : ManagedCall ι) (place : Canceler), c'.threads = c.threads →
          (c'.goes j place).threads i = .canceling true free removed := by
        intro c' place hthreads
        show Function.update c'.threads j place i = _
        rw [Function.update_of_ne hij, hthreads, h]
      grind [threadStep]
  | start => exact .inl h
  | trampoline =>
    left
    show c.trampoline.threads i = _
    unfold trampoline
    grind

lemma threads_call {result : Option Bool} (h : c.threads i = .outside result)
    (wait retire free : Bool) :
    ∃ removed, (c.call i wait retire free).threads i = .canceling wait free removed := by
  rcases c.call_cases i wait retire free with ⟨-, heq⟩ | ⟨hnot, -⟩
  · rw [heq]
    exact ⟨_, Function.update_self i _ _⟩
  · exact absurd ⟨result, h⟩ hnot

lemma retired_call {result : Option Bool} (h : c.threads i = .outside result) (wait free : Bool) :
    (c.call i wait true free).retired = true := by
  rcases c.call_cases i wait true free with ⟨-, heq⟩ | ⟨hnot, -⟩
  · rw [heq]
    exact Bool.or_true _
  · exact absurd ⟨result, h⟩ hnot

/-- In every interleaving `outstanding` counts the instances. -/
lemma counted_history (k : ℕ) : Counted (history σ k) := by
  induction k with
  | zero => rfl
  | succ k ih => exact ih.moves (moves_step _)

/-- The enter at this time is accepted and makes an instance. -/
def Enters (σ : ℕ → CallEvent ι) (n : ℕ) : Prop :=
  (∃ deadline delayed, σ n = .enter deadline delayed) ∧ (history σ n).Accepts

lemma entered_after (hidle : (history σ m).threadCall = {}) (hk : m ≤ k)
    (hn : n ∈ (history σ k).threadCall.instances) : m ≤ n ∧ Enters σ n := by
  induction k, hk using Nat.le_induction with
  | base =>
    rw [hidle] at hn
    cases hn
  | succ k hk ih =>
    rcases (moves_step (σ k)).mem hn with hold | ⟨rfl, henter, haccepts⟩
    · exact ih hold
    · exact ⟨hk, henter, haccepts⟩

lemma retired_history (hretired : (history σ m).retired = true) (hk : m ≤ k) :
    (history σ k).retired = true := by
  induction k, hk using Nat.le_induction with
  | base => exact hretired
  | succ k hk ih => exact retired_step _ ih

/-- A retired call without an instance gets none. -/
lemma dead_history (hretired : (history σ m).retired = true)
    (hidle : (history σ m).threadCall = {}) (hk : m ≤ k) : (history σ k).threadCall = {} := by
  refine ThreadCall.eq_of_instances_nil (List.eq_nil_iff_forall_not_mem.mpr fun n hn => ?_)
  obtain ⟨hle, -, haccepts⟩ := entered_after hidle hk hn
  have hstill := retired_history hretired hle
  rw [haccepts.retired] at hstill
  cases hstill

/-- A call of a thread from its first step to its last one. -/
structure Call (σ : ℕ → CallEvent ι) (i : ι) (start stop : ℕ) : Prop where
  order : start < stop
  before : ∃ result, (history σ start).threads i = .outside result
  inside : ∀ k, start < k → k ≤ stop → ∀ result, (history σ k).threads i ≠ .outside result
  after : ∃ result, (history σ (stop + 1)).threads i = .outside result

section
variable {retire free : Bool}

lemma Call.waits (h : Call σ i start stop)
    (hcall : history σ (start + 1) = (history σ start).call i true retire free) {k : ℕ}
    (hk : start < k) (hstop : k ≤ stop) :
    (∃ removed, (history σ k).threads i = .canceling true free removed) ∨
      free = true ∧ ∃ m, start < m ∧ m < k ∧ (history σ m).threadCall = {} ∧
        (history σ (m + 1)).threadCall = {} := by
  induction k, hk using Nat.le_induction with
  | base =>
    obtain ⟨result, hbefore⟩ := h.before
    rw [Nat.succ_eq_add_one, hcall]
    exact .inl (threads_call hbefore true retire free)
  | succ k hk ih =>
    rcases ih (by omega) with ⟨removed, hwaits⟩ | ⟨hfree, m, hm, hmk, hidle⟩
    · rcases waiting_step k hwaits (σ k) with hstill | ⟨hzero, hsame, hgone⟩
      · exact .inl ⟨removed, hstill⟩
      · have hidle := (counted_history k).idle hzero
        cases free with
        | true => exact .inr ⟨rfl, k, hk, Nat.lt_succ_self k, hidle, hsame.trans hidle⟩
        | false => exact absurd hgone (h.inside (k + 1) (by omega) hstop (some removed))
    · exact .inr ⟨hfree, m, hm, Nat.lt_succ_of_lt hmk, hidle⟩

lemma Call.drained (h : Call σ i start stop)
    (hcall : history σ (start + 1) = (history σ start).call i true retire free) :
    ∃ m, start < m ∧ m ≤ stop ∧ (history σ m).threadCall = {} ∧
      (history σ (m + 1)).threadCall = {} ∧ (free = false → m = stop) := by
  rcases h.waits hcall h.order (le_refl stop) with ⟨removed, hwaits⟩ | ⟨hfree, m, hm, hms, hidle⟩
  · rcases waiting_step stop hwaits (σ stop) with hstill | ⟨hzero, hsame, -⟩
    · -- it has left the loop
      grind [h.after, history]
    · have hidle := (counted_history stop).idle hzero
      exact ⟨stop, h.order, le_refl stop, hidle, hsame.trans hidle, fun _ => rfl⟩
  grind

end

/-- What `RTWManagedCall.h` is for. In every schedule:
* `outstanding` is the number of instances, and moves by one at most, so it does not wrap;
* a cancel that waits and a free return after a time at which there is no instance;
* whatever runs after such a cancel stems from an enter behind its last step;
* after a free the function does not run and every enter is refused. -/
theorem managedCall_waits (σ : ℕ → CallEvent ι) :
    (∀ k, (history σ k).outstanding.toNat = (history σ k).threadCall.instances.length ∧
      (history σ (k + 1)).outstanding.toNat ≤ (history σ k).outstanding.toNat + 1 ∧
      (history σ k).outstanding.toNat ≤ (history σ (k + 1)).outstanding.toNat + 1) ∧
    (∀ i start stop, Call σ i start stop →
      (∃ retire, σ start = .cancel i true retire) ∨ σ start = .free i →
        ∃ m, start < m ∧ m ≤ stop ∧ (history σ m).threadCall = {}) ∧
    (∀ i retire start stop, Call σ i start stop → σ start = .cancel i true retire →
      ∀ k r, stop < k → (history σ k).threadCall.running = some r → stop < r.entered ∧
        Enters σ r.entered) ∧
    (∀ i start stop, Call σ i start stop → σ start = .free i → ∀ k, stop < k →
      (history σ k).threadCall = {} ∧
        ∀ deadline delayed, (history σ k).enter k deadline delayed = (false, history σ k)) := by
  have hcancel : ∀ {i start retire}, σ start = .cancel i true retire →
      history σ (start + 1) = (history σ start).call i true retire false := by
    intro i start retire hcall
    rw [history, hcall]
    rfl
  have hfree : ∀ {i start}, σ start = .free i →
      history σ (start + 1) = (history σ start).call i true true true := by
    intro i start hcall
    rw [history, hcall]
    rfl
  refine ⟨?_, ?_, ?_, ?_⟩
  · intro k
    have hbefore := counted_history (σ := σ) k
    have hafter := counted_history (σ := σ) (k + 1)
    refine ⟨hbefore, ?_⟩
    have hmoves : Moves k (σ k) (history σ k) (history σ (k + 1)) := moves_step (σ k)
    have hlength := hmoves.length_le
    unfold Counted at hbefore hafter
    omega
  · rintro i start stop h (⟨retire, hcall⟩ | hcall)
    · obtain ⟨m, hm, hstop, hidle, -⟩ := h.drained (hcancel hcall)
      exact ⟨m, hm, hstop, hidle⟩
    · obtain ⟨m, hm, hstop, hidle, -⟩ := h.drained (hfree hcall)
      exact ⟨m, hm, hstop, hidle⟩
  · intro i retire start stop h hcall k r hk hr
    obtain ⟨m, -, -, -, hidle, hm⟩ := h.drained (hcancel hcall)
    rw [hm rfl] at hidle
    exact entered_after hidle hk (ThreadCall.mem_instances_of_running hr)
  · intro i start stop h hcall k hk
    obtain ⟨m, hm, hstop, hidle, -⟩ := h.drained (hfree hcall)
    obtain ⟨result, hbefore⟩ := h.before
    have hretired : (history σ (start + 1)).retired = true := by
      rw [hfree hcall]
      exact retired_call hbefore true true
    refine ⟨dead_history (retired_history hretired hm) hidle (by omega), ?_⟩
    intro deadline delayed
    exact if_pos (.inl (retired_history hretired (by omega)))

/-- A cancel meets a running instance. -/
def waitingCancel (k : ℕ) : CallEvent Unit :=
  [.enter 0 false, .start, .cancel () true false, .trampoline, .thread () false, .trampoline,
    .thread () false].getD k .start

/-- It waits until the trampoline has left, and returns. -/
theorem managedCall_waits_waitingCancel :
    (history waitingCancel 5).threads () = .canceling true false false ∧
      (history waitingCancel 7).threads () = .outside (some false) ∧
      ∃ m, 2 < m ∧ m ≤ 6 ∧ (history waitingCancel m).threadCall = {} := by
  have hwaits : ∀ k : Fin 7, 2 < k → (history waitingCancel k).threads () =
    .canceling true false false := by decide
  have hcall : Call waitingCancel () 2 6 := by
    refine ⟨by decide, ⟨none, by decide⟩, fun k hk hstop result => ?_, ⟨some false, by decide⟩⟩
    rw [hwaits ⟨k, by omega⟩ hk]
    exact nofun
  exact ⟨hwaits 5 (by decide), by decide,
    (managedCall_waits waitingCancel).2.1 () 2 6 hcall (.inl ⟨false, rfl⟩)⟩

end ManagedCall

end AirportAwdl.Hal
