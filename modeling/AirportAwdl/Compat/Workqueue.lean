import AirportAwdl.Lib.LeadsTo
import AirportAwdl.Lib.Tally
import AirportAwdl.Lib.TicketQueue

/-!
# Work queues

A work queue of `rtw88_compat.c`: one worker thread, and any threads that queue work items, cancel
them or wait for them. Each step below is one section under the queue's lock, or one atomic operation
outside of it; the steps of all threads interleave in any order. `queue_work` looks at `canceling`
inside its section and changes it without the lock elsewhere, so its section is two steps, between
which it holds the lock and every other section has to wait.

All sleepers wait for one event, and `IOLockWakeup` wakes all of them. The queue is not being
destroyed, and every item has a function. A callback may free its own item, which nobody else is using
then; nothing is asked of an item that was freed.

The tickets, the times at which a cancel began, and the books (`queued`, `started`, `finished`,
`removed`) are no part of the source.
-/

namespace AirportAwdl.Compat

open TicketQueue Progress Tally

variable {ι W : Type}

inductive Worker (W : Type) where
  /-- Awake, before its section at the head of the loop. -/
  | ready
  | asleep
  /-- It has unlinked the item and not yet called its function. -/
  | popped (w : W) (ticket : ℕ)
  /-- The callback is running. -/
  | running (w : W) (ticket : ℕ)
  /-- The callback has returned, `current_work` is still set. -/
  | returned (w : W) (ticket : ℕ)
deriving DecidableEq

namespace Worker

def currentWork : Worker W → Option W
  | .popped w _ | .running w _ | .returned w _ => some w
  | .ready | .asleep => none

def hand : Worker W → Option (W × ℕ)
  | .popped w ticket => some (w, ticket)
  | _ => none

def busy : Worker W → Option (W × ℕ)
  | .running w ticket => some (w, ticket)
  | _ => none

def wake : Worker W → Worker W
  | .asleep => .ready
  | worker => worker

@[simp] lemma currentWork_wake (worker : Worker W) : worker.wake.currentWork = worker.currentWork := by
  cases worker <;> rfl

@[simp] lemma hand_wake (worker : Worker W) : worker.wake.hand = worker.hand := by
  cases worker <;> rfl

@[simp] lemma busy_wake (worker : Worker W) : worker.wake.busy = worker.busy := by
  cases worker <;> rfl

lemma wake_ne_asleep (worker : Worker W) : worker.wake ≠ .asleep := by
  cases worker <;> simp [wake]

end Worker

/-- Where another thread is. -/
inductive Caller (W : Type) where
  /-- Outside; what its last cancel returned. -/
  | outside (result : Option Bool)
  /-- `cancel_work_sync`: before it loads `owner`, -/
  | loads (w : W) (begun : ℕ)
  /-- before its section, -/
  | locks (w : W) (begun : ℕ)
  /-- in its loop, -/
  | waits (w : W) (begun : ℕ) (removed asleep : Bool)
  /-- before it lowers `canceling` and returns `removed`. -/
  | leaves (w : W) (begun : ℕ) (removed : Bool)
  /-- In the loop of `flush_work`, or of `flush_workqueue` where there is no item. -/
  | flushes (target : Option W) (asleep : Bool)
deriving DecidableEq

namespace Caller

def wake : Caller W → Caller W
  | .waits w begun removed _ => .waits w begun removed false
  | .flushes target _ => .flushes target false
  | c => c

/-- The item of a cancel that is in progress, and when it began. -/
def cancel : Caller W → Option (W × ℕ)
  | .loads w begun | .locks w begun | .waits w begun _ _ | .leaves w begun _ => some (w, begun)
  | .outside _ | .flushes _ _ => none

def asleep : Caller W → Bool
  | .waits _ _ _ asleep | .flushes _ asleep => asleep
  | _ => false

def Cancels (w : W) (c : Caller W) : Prop := c.cancel.map Prod.fst = some w

instance instDecidablePredCancels [DecidableEq W] (w : W) : DecidablePred (Cancels w) := fun c =>
  inferInstanceAs (Decidable (c.cancel.map Prod.fst = some w))

@[simp] lemma cancel_wake (c : Caller W) : c.wake.cancel = c.cancel := by
  cases c <;> rfl

@[simp] lemma asleep_wake (c : Caller W) : c.wake.asleep = false := by
  cases c <;> rfl

end Caller

/-- `workqueue_struct`, with its items and the threads that use it. -/
structure Workqueue (ι W : Type) where
  /-- `queue`, with the tickets of its items. -/
  queue : List (W × ℕ) := []
  worker : Worker W := .ready
  /-- `work->pending` -/
  pending : W → Bool := fun _ => false
  /-- `work->canceling` -/
  canceling : W → ℕ := fun _ => 0
  /-- `work->owner` is this queue. -/
  owner : W → Bool := fun _ => false
  /-- The item's memory was freed. -/
  freed : W → Bool := fun _ => false
  /-- The item of a `queue_work` that has made its checks and holds the lock. -/
  committing : Option W := none
  threads : ι → Caller W := fun _ => .outside none
  queued : List (W × ℕ) := []
  started : List ℕ := []
  finished : List ℕ := []
  /-- The tickets that were removed, by which cancel. -/
  removed : List (ℕ × ι × ℕ) := []

inductive WqEvent (ι W : Type) where
  /-- The checks of `queue_work`, by any thread or callback. -/
  | queue (w : W)
  /-- The rest of the `queue_work` that holds the lock. -/
  | commit
  /-- `cancel_work_sync` raises `canceling`. -/
  | cancel (i : ι) (w : W)
  /-- `flush_work` loads `owner`. -/
  | flushWork (i : ι) (w : W)
  /-- `flush_workqueue` is called. -/
  | flushWorkqueue (i : ι)
  /-- The thread takes its next step. -/
  | step (i : ι)
  /-- The worker takes its next step. -/
  | worker
  /-- The callback returns. -/
  | callbackReturns
  /-- The callback frees its item. -/
  | free

namespace Workqueue

def currentWork (s : Workqueue ι W) : Option W := s.worker.currentWork

/-- `IOLockWakeup` for all threads. -/
def wake (s : Workqueue ι W) : Workqueue ι W :=
  { s with worker := s.worker.wake, threads := fun i => (s.threads i).wake }

variable [DecidableEq ι] [DecidableEq W]

/-- The thread stands before another step. -/
def goes (s : Workqueue ι W) (i : ι) (c : Caller W) : Workqueue ι W :=
  { s with threads := Function.update s.threads i c }

/-- `queue_work` up to its checks. -/
def queueWork (s : Workqueue ι W) (w : W) : Workqueue ι W :=
  if s.committing.isSome || s.freed w then s
  else if s.pending w || s.canceling w != 0 then s
  else { s with committing := some w }

/-- The rest of `queue_work`. -/
def commit (s : Workqueue ι W) (now : ℕ) : Workqueue ι W :=
  match s.committing with
  | none => s
  | some w =>
    { s with
      committing := none
      owner := Function.update s.owner w true
      pending := Function.update s.pending w true
      queue := s.queue ++ [(w, now)]
      queued := s.queued ++ [(w, now)] }.wake

/-- The link of an item. -/
def entry (s : Workqueue ι W) (w : W) : Option (W × ℕ) := s.queue.find? fun e => e.1 = w

/-- `cancel_work_pending` unlinks a pending item. -/
def remove (s : Workqueue ι W) (i : ι) (w : W) (begun : ℕ) : Workqueue ι W :=
  { s with
    queue := s.queue.eraseP fun e => e.1 = w
    pending := Function.update s.pending w false
    removed := s.removed ++ ((s.entry w).map fun e : W × ℕ => (e.2, i, begun)).toList }.wake

/-- The loop of a cancel, with the lock held. -/
def awaitCurrent (s : Workqueue ι W) (i : ι) (w : W) (begun : ℕ) (removed : Bool) : Workqueue ι W :=
  if s.currentWork = some w then s.goes i (.waits w begun removed true)
  else s.goes i (.leaves w begun removed)

/-- The condition of the loop of a flush. -/
def Unflushed (s : Workqueue ι W) : Option W → Prop
  | some w => s.pending w = true ∨ s.currentWork = some w
  | none => s.queue ≠ [] ∨ s.currentWork ≠ none

instance instDecidablePredUnflushed (s : Workqueue ι W) : DecidablePred s.Unflushed
  | some w => inferInstanceAs (Decidable (s.pending w = true ∨ s.currentWork = some w))
  | none => inferInstanceAs (Decidable (s.queue ≠ [] ∨ s.currentWork ≠ none))

/-- The next step of a thread; a section waits for the lock. -/
def threadStep (s : Workqueue ι W) (i : ι) : Workqueue ι W :=
  match s.threads i with
  | .outside _ => s
  | .loads w begun =>
    if s.owner w then s.goes i (.locks w begun) else s.goes i (.leaves w begun false)
  | .locks w begun =>
    if s.committing.isSome then s
    else if s.pending w then (s.remove i w begun).awaitCurrent i w begun true
    else s.awaitCurrent i w begun false
  | .waits w begun removed asleep =>
    if asleep || s.committing.isSome then s else s.awaitCurrent i w begun removed
  | .leaves w _ removed =>
    { s with canceling := Function.update s.canceling w (s.canceling w - 1) }.goes i
      (.outside (some removed))
  | .flushes target asleep =>
    if asleep || s.committing.isSome then s
    else if s.Unflushed target then s.goes i (.flushes target true)
    else s.goes i (.outside none)

/-- The head of the worker's loop, with the lock held. -/
def next (s : Workqueue ι W) : Workqueue ι W :=
  match s.queue with
  | [] => { s with worker := .asleep }
  | (w, ticket) :: rest =>
    { s with
      queue := rest
      pending := Function.update s.pending w false
      worker := .popped w ticket }

/-- The next step of the worker. -/
def workerStep (s : Workqueue ι W) : Workqueue ι W :=
  match s.worker with
  | .ready => if s.committing.isSome then s else s.next
  | .popped w ticket => { s with worker := .running w ticket, started := s.started ++ [ticket] }
  | .returned _ _ =>
    if s.committing.isSome then s else ({ s with worker := .ready } : Workqueue ι W).wake.next
  | .asleep | .running _ _ => s

/-- Somebody else than the callback uses the item. -/
def InUse (s : Workqueue ι W) (w : W) : Prop :=
  s.pending w = true ∨ s.canceling w ≠ 0 ∨ s.committing = some w ∨
    ∃ i, s.threads i = .flushes (some w) true ∨ s.threads i = .flushes (some w) false

variable [Fintype ι]

instance instDecidablePredInUse (s : Workqueue ι W) : DecidablePred s.InUse := fun w =>
  inferInstanceAs (Decidable (s.pending w = true ∨ s.canceling w ≠ 0 ∨ s.committing = some w ∨
    ∃ i, s.threads i = .flushes (some w) true ∨ s.threads i = .flushes (some w) false))

/-- The callback frees its item. -/
def free (s : Workqueue ι W) : Workqueue ι W :=
  match s.worker with
  | .running w _ => if s.InUse w then s else { s with freed := Function.update s.freed w true }
  | _ => s

def step (s : Workqueue ι W) (now : ℕ) : WqEvent ι W → Workqueue ι W
  | .queue w => s.queueWork w
  | .commit => s.commit now
  | .cancel i w =>
    match s.threads i with
    | .outside _ =>
      if s.freed w then s
      else
        { s with canceling := Function.update s.canceling w (s.canceling w + 1) }.goes i
          (.loads w now)
    | _ => s
  | .flushWork i w =>
    match s.threads i with
    | .outside _ => if s.freed w || !s.owner w then s else s.goes i (.flushes (some w) false)
    | _ => s
  | .flushWorkqueue i =>
    match s.threads i with
    | .outside _ => s.goes i (.flushes none false)
    | _ => s
  | .step i => s.threadStep i
  | .worker => s.workerStep
  | .callbackReturns =>
    match s.worker with
    | .running w ticket =>
      { s with worker := .returned w ticket, finished := s.finished ++ [ticket] }
    | _ => s
  | .free => s.free

/-- The queue after `n` events. -/
def history (σ : ℕ → WqEvent ι W) : ℕ → Workqueue ι W
  | 0 => {}
  | n + 1 => (history σ n).step n (σ n)

/-- The queue as a line with tickets. -/
def line (s : Workqueue ι W) : Line W where
  waiting := s.queue
  hand := s.worker.hand
  busy := s.worker.busy
  queued := s.queued
  started := s.started
  finished := s.finished
  removed := s.removed.map Prod.fst

/-- `pending` says which items are linked, and an item is linked once. -/
structure Linked (s : Workqueue ι W) : Prop where
  pending : ∀ w, s.pending w = true ↔ ∃ ticket, (w, ticket) ∈ s.queue
  once : (s.queue.map Prod.fst).Nodup
  committing : ∀ w, s.committing = some w → s.pending w = false

section Books

omit [DecidableEq ι] [DecidableEq W] [Fintype ι]

@[simp] lemma line_wake (s : Workqueue ι W) : s.wake.line = s.line := by
  simp [line, wake]

lemma Linked.wake {s : Workqueue ι W} (h : s.Linked) : s.wake.Linked :=
  ⟨h.pending, h.once, h.committing⟩

end Books

omit [Fintype ι] [DecidableEq W] in
@[simp] lemma line_goes (s : Workqueue ι W) (i : ι) (c : Caller W) : (s.goes i c).line = s.line := rfl

variable {s : Workqueue ι W}

omit [Fintype ι] [DecidableEq W] in
lemma Linked.goes (h : s.Linked) (i : ι) (c : Caller W) : (s.goes i c).Linked :=
  ⟨h.pending, h.once, h.committing⟩

omit [Fintype ι] in
lemma awaitCurrent_line (s : Workqueue ι W) (i : ι) (w : W) (begun : ℕ) (removed : Bool) :
    (s.awaitCurrent i w begun removed).line = s.line := by
  unfold awaitCurrent
  split_ifs <;> rfl

omit [Fintype ι] in
lemma Linked.awaitCurrent (h : s.Linked) (i : ι) (w : W) (begun : ℕ)
    (removed : Bool) : (s.awaitCurrent i w begun removed).Linked := by
  unfold Workqueue.awaitCurrent
  split_ifs <;> exact h.goes _ _

omit [Fintype ι] [DecidableEq ι] in
lemma Linked.split (h : s.Linked) {w : W} (hw : s.pending w = true) :
    ∃ l ticket r, s.queue = l ++ (w, ticket) :: r ∧ (∀ e ∈ l ++ r, e.1 ≠ w) ∧
      s.entry w = some (w, ticket) ∧
      (s.queue.eraseP fun e => e.1 = w) = l ++ r := by
  obtain ⟨ticket, hmem⟩ := (h.pending w).1 hw
  obtain ⟨l, r, hqueue, hothers, hentry, herase⟩ := split_of_nodup h.once hmem
  exact ⟨l, ticket, r, hqueue, hothers, hentry, herase⟩

omit [Fintype ι] [DecidableEq ι] in
lemma Linked.line_remove (h : s.Linked) {w : W} (hw : s.pending w = true)
    (now : ℕ) (i : ι) (begun : ℕ) : Line.Moves now s.line (s.remove i w begun).line := by
  obtain ⟨l, ticket, r, hqueue, -, hfind, herase⟩ := h.split hw
  have hline : (s.remove i w begun).line =
      { s.line with waiting := l ++ r, removed := s.line.removed ++ [ticket] } := by
    rw [remove, line_wake, hfind, herase]
    simp [line]
  rw [hline]
  exact .remove l (w, ticket) r hqueue

omit [Fintype ι] [DecidableEq ι] in
lemma Linked.remove (h : s.Linked) {w : W} (hw : s.pending w = true) (i : ι)
    (begun : ℕ) : (s.remove i w begun).Linked := by
  obtain ⟨l, ticket, r, hqueue, hothers, hfind, herase⟩ := h.split hw
  have hrest : (s.remove i w begun).queue = l ++ r := herase
  exact {
    pending := fun v => by
      show Function.update s.pending w false v = true ↔ _
      by_cases hv : v = w
      · grind
      grind [h.pending]
    once := by
      rw [hrest]
      have hsub : (l ++ r).Sublist s.queue := by
        grind
      exact h.once.sublist (hsub.map _)
    committing := fun v hv => by
      show Function.update s.pending w false v = false
      by_cases hvw : v = w
      · rw [hvw, Function.update_self]
      · rw [Function.update_of_ne hvw]
        exact h.committing v hv }

section Next

omit [Fintype ι] [DecidableEq ι]

variable {s : Workqueue ι W}

lemma next_nil (h : s.queue = []) : s.next = { s with worker := .asleep } := by
  simp only [next, h]

lemma next_cons {e : W × ℕ} {rest : List (W × ℕ)} (h : s.queue = e :: rest) : s.next = { s with
      queue := rest
      pending := Function.update s.pending e.1 false
      worker := .popped e.1 e.2 } := by
  simp only [next, h]

lemma line_next (s : Workqueue ι W) (now : ℕ) (hhand : s.worker.hand = none)
    (hbusy : s.worker.busy = none) : Line.Moves now s.line s.next.line := by
  cases hqueue : s.queue with
  | nil =>
    have hline : s.next.line = s.line := by
      rw [next_nil hqueue, line, line, hhand, hbusy]
      rfl
    rw [hline]
    exact .same
  | cons e rest =>
    have hline : s.next.line = { s.line with waiting := rest, hand := some e } := by
      rw [next_cons hqueue, line, line, hbusy]
      rfl
    rw [hline]
    exact .take e rest hqueue hhand

lemma Linked.next (h : s.Linked) : s.next.Linked := by
  cases hqueue : s.queue with
  | nil =>
    rw [next_nil hqueue]
    exact ⟨h.pending, h.once, h.committing⟩
  | cons e rest =>
    rw [next_cons hqueue]
    obtain ⟨w, ticket⟩ := e
    have honce := h.once
    rw [hqueue, List.map_cons, List.nodup_cons] at honce
    exact {
      pending := fun v => by
        by_cases hv : v = w
        · grind
        grind [h.pending]
      once := honce.2
      committing := fun v hv => by
        show Function.update s.pending w false v = false
        by_cases hvw : v = w
        · rw [hvw, Function.update_self]
        · rw [Function.update_of_ne hvw]
          exact h.committing v hv }

lemma line_commit (s : Workqueue ι W) (now : ℕ) : Line.Moves now s.line (s.commit now).line := by
  unfold commit
  cases s.committing with
  | none => exact .same
  | some w =>
    rw [line_wake]
    exact .enqueue w

lemma Linked.commit (h : s.Linked) (now : ℕ) : (s.commit now).Linked := by
  unfold Workqueue.commit
  cases hcommit : s.committing with
  | none => exact h
  | some w =>
    have hpending := h.committing w hcommit
    have hnew : ∀ t, (w, t) ∉ s.queue := by
      intro t ht
      exact Bool.false_ne_true (hpending.symm.trans ((h.pending w).2 ⟨t, ht⟩))
    refine Linked.wake ⟨fun v => ?_, ?_, fun v hv => absurd hv.symm (Option.some_ne_none v)⟩
    · show Function.update s.pending w true v = true ↔ ∃ t, (v, t) ∈ s.queue ++ [(w, now)]
      by_cases hv : v = w
      · grind
      · rw [Function.update_of_ne hv, h.pending]
        simp [hv]
    · show ((s.queue ++ [(w, now)]).map Prod.fst).Nodup
      rw [List.map_append]
      refine h.once.append (List.nodup_singleton _) (List.disjoint_singleton.mpr ?_)
      grind

/-- A step of the worker moves the line by its rules. -/
lemma line_workerStep (s : Workqueue ι W) (now : ℕ) : Line.Moves now s.line s.workerStep.line := by
  unfold workerStep
  cases hworker : s.worker with
  | ready =>
    split_ifs
    · exact .same
    · exact line_next s now (by rw [hworker]; rfl) (by rw [hworker]; rfl)
  | asleep => exact .same
  | running w ticket => exact .same
  | popped w ticket =>
    have hline : line { s with worker := .running w ticket, started := s.started ++ [ticket] } =
        { s.line with
          hand := none, busy := some (w, ticket), started := s.line.started ++ [(w, ticket).2] } := rfl
    exact .start (w, ticket) (by rw [line, hworker]; rfl) (by rw [line, hworker]; rfl)
  | returned w ticket =>
    split_ifs
    · exact .same
    · have hline : s.line = (({ s with worker := .ready } : Workqueue ι W).wake).line := by
        rw [line_wake]
        simp [line, hworker, Worker.hand, Worker.busy]
      rw [hline]
      exact line_next _ now rfl rfl

lemma Linked.workerStep (h : s.Linked) : s.workerStep.Linked := by
  unfold Workqueue.workerStep
  cases s.worker with
  | ready =>
    split_ifs
    · exact h
    · exact h.next
  | asleep => exact h
  | running w ticket => exact h
  | popped w ticket => exact ⟨h.pending, h.once, h.committing⟩
  | returned w ticket =>
    split_ifs
    · exact h
    · have hready : Linked { s with worker := .ready } := ⟨h.pending, h.once, h.committing⟩
      exact hready.wake.next

end Next

omit [Fintype ι] in
/-- So does a step of another thread. -/
lemma Linked.line_threadStep (h : s.Linked) (now : ℕ) (i : ι) :
    Line.Moves now s.line (s.threadStep i).line := by
  unfold threadStep
  cases s.threads i with
  | outside result => exact .same
  | loads w begun =>
    dsimp only
    split_ifs <;> exact .same
  | locks w begun =>
    dsimp only
    split_ifs with hlock hpending
    · exact .same
    · rw [awaitCurrent_line]
      exact h.line_remove hpending now i begun
    · rw [awaitCurrent_line]
      exact .same
  | waits w begun removed asleep =>
    dsimp only
    split_ifs
    · exact .same
    · rw [awaitCurrent_line]
      exact .same
  | leaves w begun removed => exact .same
  | flushes target asleep =>
    dsimp only
    split_ifs <;> exact .same

omit [Fintype ι] in
lemma Linked.threadStep (h : s.Linked) (i : ι) : (s.threadStep i).Linked := by
  unfold Workqueue.threadStep
  cases s.threads i with
  | outside result => exact h
  | loads w begun =>
    dsimp only
    split_ifs <;> exact h.goes _ _
  | locks w begun =>
    dsimp only
    split_ifs with hlock hpending
    · exact h
    · exact (h.remove hpending i begun).awaitCurrent _ _ _ _
    · exact h.awaitCurrent _ _ _ _
  | waits w begun removed asleep =>
    dsimp only
    split_ifs
    · exact h
    · exact h.awaitCurrent _ _ _ _
  | leaves w begun removed => exact ⟨h.pending, h.once, h.committing⟩
  | flushes target asleep =>
    dsimp only
    split_ifs
    · exact h
    · exact h.goes _ _
    · exact h.goes _ _

/-- Every event moves the line by its rules. -/
lemma Linked.line_step (h : s.Linked) (now : ℕ) (e : WqEvent ι W) :
    Line.Moves now s.line (s.step now e).line := by
  cases e with
  | queue w =>
    simp only [step, queueWork]
    split_ifs <;> exact .same
  | commit => exact line_commit s now
  | cancel i w =>
    simp only [step]
    split
    · split_ifs <;> exact .same
    · exact .same
  | flushWork i w =>
    simp only [step]
    split
    · split_ifs <;> exact .same
    · exact .same
  | flushWorkqueue i =>
    simp only [step]
    split <;> exact .same
  | step i => exact h.line_threadStep now i
  | worker => exact line_workerStep s now
  | callbackReturns =>
    simp only [step]
    cases hworker : s.worker with
    | running w ticket =>
      have hline : line { s with
            worker := .returned w ticket, finished := s.finished ++ [ticket] } =
          { s.line with busy := none, finished := s.line.finished ++ [(w, ticket).2] } := by
        simp [line, hworker, Worker.hand, Worker.busy]
      rw [hline]
      exact .finish (w, ticket) (by rw [line, hworker]; rfl)
    | ready | asleep | popped _ _ | returned _ _ => exact .same
  | free =>
    simp only [step, free]
    split
    · split_ifs <;> exact .same
    · exact .same

/-- Every event keeps `pending` and the links in step. -/
lemma Linked.step (h : s.Linked) (now : ℕ) (e : WqEvent ι W) : (s.step now e).Linked := by
  cases e with
  | queue w =>
    simp only [Workqueue.step, queueWork]
    split_ifs with hlock hno
    · exact h
    · exact h
    · refine ⟨h.pending, h.once, fun v hv => ?_⟩
      grind
  | commit => exact h.commit now
  | cancel i w =>
    simp only [Workqueue.step]
    split
    · split_ifs
      · exact h
      · exact ⟨h.pending, h.once, h.committing⟩
    · exact h
  | flushWork i w =>
    grind [Workqueue.step, h.goes]
  | flushWorkqueue i =>
    simp only [Workqueue.step]
    split
    · exact h.goes _ _
    · exact h
  | step i => exact h.threadStep i
  | worker => exact h.workerStep
  | callbackReturns =>
    simp only [Workqueue.step]
    split
    · exact ⟨h.pending, h.once, h.committing⟩
    · exact h
  | free =>
    simp only [Workqueue.step, Workqueue.free]
    split
    · split_ifs
      · exact h
      · exact ⟨h.pending, h.once, h.committing⟩
    · exact h

/-- So they are in every interleaving. -/
lemma linked_history (σ : ℕ → WqEvent ι W) (n : ℕ) : (history σ n).Linked := by
  induction n with
  | zero => exact ⟨fun w => by simp [history], List.nodup_nil, fun w hw => absurd hw.symm (Option.some_ne_none w)⟩
  | succ n ih => exact ih.step n (σ n)

/-- In every interleaving each ticket is in one place. -/
lemma kept_history (σ : ℕ → WqEvent ι W) (n : ℕ) : (history σ n).line.Kept n := by
  induction n with
  | zero => exact Line.kept_empty 0
  | succ n ih => exact ih.moves ((linked_history σ n).line_step n (σ n))

end Workqueue

end AirportAwdl.Compat
