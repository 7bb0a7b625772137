import AirportAwdl.Compat.Workqueue

/-!
# Cancelling and waiting

What holds of a work queue across all threads: `canceling` counts the cancels in progress, nobody
sleeps whose condition has come true, and a cancel leaves only when the item is neither linked nor
running. With the books of the queue these give the whole of `workqueue_ordered`.
-/

namespace AirportAwdl.Compat.Workqueue

open TicketQueue Progress Tally

variable {ι W : Type}

/-- What an event does to the cancels in progress. -/
inductive Turns [DecidableEq ι] [DecidableEq W] (now : ℕ) (e : WqEvent ι W)
    (s s' : Workqueue ι W) : Prop where
  | steady (hcount : s'.canceling = s.canceling)
      (hcalls : ∀ j, (s'.threads j).cancel = (s.threads j).cancel)
  | begins (i : ι) (w : W) (he : e = .cancel i w) (hout : (s.threads i).cancel = none)
      (hcount : s'.canceling = Function.update s.canceling w (s.canceling w + 1))
      (hcalls : s'.threads = Function.update s.threads i (.loads w now))
  | ends (i : ι) (w : W) (begun : ℕ) (removed : Bool) (he : e = .step i)
      (hin : s.threads i = .leaves w begun removed)
      (hcount : s'.canceling = Function.update s.canceling w (s.canceling w - 1))
      (hcalls : s'.threads = Function.update s.threads i (.outside (some removed)))

section Turns

variable {s : Workqueue ι W} {now : ℕ} {e : WqEvent ι W}

variable [DecidableEq ι]

lemma goes_self (s : Workqueue ι W) (i : ι) (c : Caller W) : (s.goes i c).threads i = c :=
  Function.update_self _ _ _

lemma goes_of_ne (s : Workqueue ι W) {i j : ι} (h : j ≠ i) (c : Caller W) :
    (s.goes i c).threads j = s.threads j := Function.update_of_ne h _ _

lemma cancel_goes {i : ι} {c : Caller W} (hsame : c.cancel = (s.threads i).cancel) (j : ι) :
    ((s.goes i c).threads j).cancel = (s.threads j).cancel := by
  by_cases hj : j = i
  · subst hj
    rw [goes_self, hsame]
  · rw [goes_of_ne s hj]

variable [DecidableEq W]

lemma awaitCurrent_frame (s : Workqueue ι W) (i : ι) (w : W) (begun : ℕ) (removed : Bool) :
    ∃ c, s.awaitCurrent i w begun removed = s.goes i c ∧ c.cancel = some (w, begun) := by
  unfold awaitCurrent
  split_ifs
  · exact ⟨_, rfl, rfl⟩
  · exact ⟨_, rfl, rfl⟩

omit [DecidableEq ι] in
lemma next_frame (s : Workqueue ι W) : s.next.canceling = s.canceling ∧ s.next.threads = s.threads ∧
    s.next.owner = s.owner ∧ s.next.freed = s.freed ∧ s.next.committing = s.committing := by
  unfold next
  split <;> exact ⟨rfl, rfl, rfl, rfl, rfl⟩

lemma turns_threadStep (s : Workqueue ι W) (now : ℕ) (i : ι) :
    Turns now (.step i) s (s.threadStep i) := by
  unfold threadStep
  cases hi : s.threads i with
  | outside result => exact .steady rfl fun _ => rfl
  | loads w begun =>
    dsimp only
    split_ifs
    · exact .steady rfl (cancel_goes (by rw [hi]; rfl))
    · exact .steady rfl (cancel_goes (by rw [hi]; rfl))
  | locks w begun =>
    dsimp only
    split_ifs
    · exact .steady rfl fun _ => rfl
    · obtain ⟨c, hc, hcancel⟩ := awaitCurrent_frame (s.remove i w begun) i w begun true
      rw [hc]
      have hwake : ∀ j, ((s.remove i w begun).threads j).cancel = (s.threads j).cancel := fun j =>
        Caller.cancel_wake _
      refine .steady rfl fun j => (cancel_goes ?_ j).trans (hwake j)
      rw [hcancel, hwake, hi]
      rfl
    · obtain ⟨c, hc, hcancel⟩ := awaitCurrent_frame s i w begun false
      rw [hc]
      exact .steady rfl (cancel_goes (by rw [hcancel, hi]; rfl))
  | waits w begun removed asleep =>
    dsimp only
    split_ifs
    · exact .steady rfl fun _ => rfl
    · obtain ⟨c, hc, hcancel⟩ := awaitCurrent_frame s i w begun removed
      rw [hc]
      exact .steady rfl (cancel_goes (by rw [hcancel, hi]; rfl))
  | leaves w begun removed => exact .ends i w begun removed rfl hi rfl rfl
  | flushes target asleep =>
    dsimp only
    split_ifs
    · exact .steady rfl fun _ => rfl
    · exact .steady rfl (cancel_goes (by rw [hi]; rfl))
    · exact .steady rfl (cancel_goes (by rw [hi]; rfl))

lemma turns_workerStep (s : Workqueue ι W) (now : ℕ) (e : WqEvent ι W) :
    Turns now e s s.workerStep := by
  unfold workerStep
  cases s.worker with
  | ready =>
    split_ifs
    · exact .steady rfl fun _ => rfl
    · exact .steady (next_frame s).1 fun j => by rw [(next_frame s).2.1]
  | asleep => exact .steady rfl fun _ => rfl
  | running w ticket => exact .steady rfl fun _ => rfl
  | popped w ticket => exact .steady rfl fun _ => rfl
  | returned w ticket =>
    split_ifs
    · exact .steady rfl fun _ => rfl
    · obtain ⟨hcount, hthreads, -⟩ := next_frame ({ s with worker := .ready } : Workqueue ι W).wake
      refine .steady hcount fun j => ?_
      rw [hthreads]
      exact Caller.cancel_wake _

variable [Fintype ι]

/-- Every event turns the cancels in one of these ways. -/
lemma turns_step (s : Workqueue ι W) (now : ℕ) (e : WqEvent ι W) : Turns now e s (s.step now e) := by
  cases e with
  | queue w =>
    simp only [step, queueWork]
    split_ifs <;> exact .steady rfl fun _ => rfl
  | commit =>
    simp only [step, commit]
    split
    · exact .steady rfl fun _ => rfl
    · exact .steady rfl fun j => Caller.cancel_wake _
  | cancel i w =>
    simp only [step]
    split
    · rename_i result hout
      split_ifs
      · exact .steady rfl fun _ => rfl
      · exact .begins i w rfl (by rw [hout]; rfl) rfl rfl
    · exact .steady rfl fun _ => rfl
  | flushWork i w =>
    simp only [step]
    split
    · rename_i result hout
      split_ifs
      · exact .steady rfl fun _ => rfl
      · exact .steady rfl (cancel_goes (by rw [hout]; rfl))
    · exact .steady rfl fun _ => rfl
  | flushWorkqueue i =>
    simp only [step]
    split
    · rename_i result hout
      exact .steady rfl (cancel_goes (by rw [hout]; rfl))
    · exact .steady rfl fun _ => rfl
  | step i => exact turns_threadStep s now i
  | worker => exact turns_workerStep s now _
  | callbackReturns =>
    simp only [step]
    split <;> exact .steady rfl fun _ => rfl
  | free =>
    simp only [step, free]
    split
    · split_ifs <;> exact .steady rfl fun _ => rfl
    · exact .steady rfl fun _ => rfl

/-- `canceling` counts the cancels of an item that are in progress. -/
def Counted (s : Workqueue ι W) : Prop := ∀ w, s.canceling w = tally (Caller.Cancels w) s.threads

/-- Every event keeps the count of the cancels. -/
lemma Counted.step {s : Workqueue ι W} (h : s.Counted) (now : ℕ) (e : WqEvent ι W) :
    (s.step now e).Counted := by
  intro v
  cases turns_step s now e with
  | steady hcount hcalls =>
    rw [hcount, h v]
    refine (tally_congr fun j => ?_).symm
    rw [Caller.Cancels, Caller.Cancels, hcalls]
  | begins i w he hout hcount hcalls =>
    have hmove := tally_update (P := Caller.Cancels v) (f := s.threads) i (.loads w now)
    have hwas : ¬Caller.Cancels v (s.threads i) := by
      rw [Caller.Cancels, hout]
      exact (Option.some_ne_none v).symm
    rw [if_neg hwas, ← h v] at hmove
    rw [hcount, hcalls]
    by_cases hv : v = w
    · subst hv
      rw [Function.update_self]
      rw [if_pos (show Caller.Cancels v (.loads v now) from rfl)] at hmove
      omega
    · have hnot : ¬Caller.Cancels v (.loads w now) := fun heq => hv (Option.some.inj heq).symm
      grind
  | ends i w begun removed he hin hcount hcalls =>
    have hmove := tally_update (P := Caller.Cancels v) (f := s.threads) i (.outside (some removed))
    have hnow : ¬Caller.Cancels v (.outside (some removed)) := (Option.some_ne_none v).symm
    rw [if_neg hnow, ← h v, hin] at hmove
    rw [hcount, hcalls]
    by_cases hv : v = w
    · subst hv
      rw [Function.update_self]
      rw [if_pos (show Caller.Cancels v (.leaves v begun removed) from rfl)] at hmove
      omega
    · have hnot : ¬Caller.Cancels v (.leaves w begun removed) := fun heq =>
        hv (Option.some.inj heq).symm
      grind

/-- In every interleaving `canceling` counts the cancels in progress. -/
lemma counted_history (σ : ℕ → WqEvent ι W) (n : ℕ) : (history σ n).Counted := by
  induction n with
  | zero => exact fun w => (tally_eq_zero fun i => (Option.some_ne_none w).symm).symm
  | succ n ih => exact ih.step n (σ n)

/-- `canceling` has 32 bits in the source; it never exceeds the number of threads. -/
theorem canceling_le (σ : ℕ → WqEvent ι W) (n : ℕ) (w : W) :
    (history σ n).canceling w ≤ Fintype.card ι := by
  rw [counted_history σ n w]
  exact Finset.card_le_univ _

/-- The caller has to wait. -/
def MustWait (s : Workqueue ι W) : Caller W → Prop
  | .waits w _ _ _ => s.currentWork = some w
  | .flushes target _ => s.Unflushed target
  | _ => True

/-- Nobody sleeps whose condition has come true. -/
structure Alert (s : Workqueue ι W) : Prop where
  worker : s.worker = .asleep → s.queue = []
  callers : ∀ i, (s.threads i).asleep = true → s.MustWait (s.threads i)

end Turns

section Alert

variable {s s' : Workqueue ι W}

lemma alert_wake (s : Workqueue ι W) : s.wake.Alert :=
  ⟨fun h => absurd h (Worker.wake_ne_asleep _), fun i hi => by
    have hno : (s.wake.threads i).asleep = false := Caller.asleep_wake _
    exact absurd (hno.symm.trans hi) Bool.false_ne_true⟩

lemma MustWait.congr {c : Caller W} (h : s.MustWait c) (hqueue : s'.queue = s.queue)
    (hpending : s'.pending = s.pending) (hcurrent : s'.currentWork = s.currentWork) :
    s'.MustWait c := by
  cases c with
  | waits w begun removed asleep => exact hcurrent.trans h
  | flushes target asleep =>
    cases target with
    | none =>
      show s'.queue ≠ [] ∨ s'.currentWork ≠ none
      rw [hqueue, hcurrent]
      exact h
    | some w =>
      show s'.pending w = true ∨ s'.currentWork = some w
      rw [hpending, hcurrent]
      exact h
  | outside result => trivial
  | loads w begun => trivial
  | locks w begun => trivial
  | leaves w begun removed => trivial

lemma Alert.frame (h : s.Alert) (hworker : s'.worker = .asleep → s.worker = .asleep)
    (hthreads : s'.threads = s.threads) (hqueue : s'.queue = s.queue)
    (hpending : s'.pending = s.pending) (hcurrent : s'.currentWork = s.currentWork) : s'.Alert where
  worker ha := hqueue.trans (h.worker (hworker ha))
  callers i hi := by
    rw [hthreads] at hi ⊢
    exact (h.callers i hi).congr hqueue hpending hcurrent

variable [DecidableEq ι]

lemma Alert.goes (h : s.Alert) (i : ι) {c : Caller W} (hc : c.asleep = true → s.MustWait c) :
    (s.goes i c).Alert where
  worker := h.worker
  callers j hj := by
    by_cases hji : j = i
    · subst hji
      rw [goes_self] at hj ⊢
      exact (hc hj).congr rfl rfl rfl
    · rw [goes_of_ne s hji] at hj ⊢
      exact (h.callers j hj).congr rfl rfl rfl

variable [DecidableEq W]

lemma Alert.awaitCurrent (h : s.Alert) (i : ι) (w : W) (begun : ℕ) (removed : Bool) :
    (s.awaitCurrent i w begun removed).Alert := by
  unfold Workqueue.awaitCurrent
  split_ifs with hcurrent
  · exact h.goes i fun _ => hcurrent
  · exact h.goes i fun _ => trivial

omit [DecidableEq ι] in
lemma Alert.next (h : s.Alert) (hcurrent : s.currentWork = none) : s.next.Alert := by
  cases hqueue : s.queue with
  | nil =>
    rw [next_nil hqueue]
    refine ⟨fun _ => hqueue, fun i hi => (h.callers i hi).congr rfl rfl ?_⟩
    rw [hcurrent]
    rfl
  | cons e rest =>
    rw [next_cons hqueue]
    obtain ⟨w, ticket⟩ := e
    refine ⟨fun ha => by simp at ha, fun i hi => ?_⟩
    have hwas := h.callers i hi
    cases hc : s.threads i with
    | waits v begun removed asleep =>
      rw [hc] at hwas
      cases hwas.symm.trans hcurrent
    | flushes target asleep =>
      rw [hc] at hwas
      cases target with
      | none => exact .inr (Option.some_ne_none w)
      | some v =>
        by_cases hv : v = w
        · exact .inr (by rw [hv]; rfl)
        · refine .inl ?_
          grind [hwas.resolve_right]
    | outside result => trivial
    | loads v begun => trivial
    | locks v begun => trivial
    | leaves v begun removed => trivial

lemma Alert.threadStep (h : s.Alert) (i : ι) : (s.threadStep i).Alert := by
  unfold Workqueue.threadStep
  cases s.threads i with
  | outside result => exact h
  | loads w begun =>
    dsimp only
    split_ifs
    · exact h.goes i fun _ => trivial
    · exact h.goes i fun _ => trivial
  | locks w begun =>
    dsimp only
    split_ifs
    · exact h
    · exact (alert_wake _).awaitCurrent i w begun true
    · exact h.awaitCurrent i w begun false
  | waits w begun removed asleep =>
    dsimp only
    split_ifs
    · exact h
    · exact h.awaitCurrent i w begun removed
  | leaves w begun removed =>
    have hlower : Alert { s with canceling := Function.update s.canceling w (s.canceling w - 1) } :=
      h.frame id rfl rfl rfl rfl
    exact hlower.goes i fun _ => trivial
  | flushes target asleep =>
    dsimp only
    split_ifs with hlock hunflushed
    · exact h
    · exact h.goes i fun _ => hunflushed
    · exact h.goes i fun _ => trivial

omit [DecidableEq ι] in
lemma Alert.workerStep (h : s.Alert) : s.workerStep.Alert := by
  unfold Workqueue.workerStep
  cases hworker : s.worker with
  | ready =>
    split_ifs
    · exact h
    · exact h.next (by rw [currentWork, hworker]; rfl)
  | asleep => exact h
  | running w ticket => exact h
  | popped w ticket =>
    exact h.frame (fun ha => by simp at ha) rfl rfl rfl (by rw [currentWork, currentWork, hworker]; rfl)
  | returned w ticket =>
    split_ifs
    · exact h
    · exact (alert_wake _).next rfl

variable [Fintype ι]

/-- A step that makes a condition true wakes those who sleep on it. -/
lemma Alert.step (h : s.Alert) (now : ℕ) (e : WqEvent ι W) : (s.step now e).Alert := by
  cases e with
  | queue w =>
    simp only [Workqueue.step, queueWork]
    split_ifs
    · exact h
    · exact h
    · exact h.frame id rfl rfl rfl rfl
  | commit =>
    simp only [Workqueue.step, Workqueue.commit]
    split
    · exact h
    · exact alert_wake _
  | cancel i w =>
    simp only [Workqueue.step]
    split
    · split_ifs
      · exact h
      · have hraise : Alert { s with
            canceling := Function.update s.canceling w (s.canceling w + 1) } :=
          h.frame id rfl rfl rfl rfl
        exact hraise.goes i fun _ => trivial
    · exact h
  | flushWork i w =>
    simp only [Workqueue.step]
    split
    · split_ifs
      · exact h
      · exact h.goes i fun ha => by cases ha
    · exact h
  | flushWorkqueue i =>
    simp only [Workqueue.step]
    split
    · exact h.goes i fun ha => by cases ha
    · exact h
  | step i => exact h.threadStep i
  | worker => exact h.workerStep
  | callbackReturns =>
    simp only [Workqueue.step]
    cases hworker : s.worker with
    | running w ticket =>
      exact h.frame (fun ha => by simp at ha) rfl rfl rfl
        (by rw [currentWork, currentWork, hworker]; rfl)
    | ready | asleep | popped _ _ | returned _ _ => exact h
  | free =>
    simp only [Workqueue.step, Workqueue.free]
    split
    · split_ifs
      · exact h
      · exact h.frame id rfl rfl rfl rfl
    · exact h

/-- In every interleaving nobody sleeps whose condition has come true. -/
lemma alert_history (σ : ℕ → WqEvent ι W) (n : ℕ) : (history σ n).Alert := by
  induction n with
  | zero => exact ⟨fun _ => rfl, fun i hi => absurd hi Bool.false_ne_true⟩
  | succ n ih => exact ih.step n (σ n)

/-- What a step leaves alone outside of the line. -/
structure Frames (s s' : Workqueue ι W) : Prop where
  owner : s'.owner = s.owner
  freed : s'.freed = s.freed
  committing : s'.committing = s.committing
  queued : s'.queued = s.queued

end Alert

section Frames

variable [DecidableEq ι] [DecidableEq W]

lemma awaitCurrent_frames (s : Workqueue ι W) (i : ι) (w : W) (begun : ℕ) (removed : Bool) :
    Frames s (s.awaitCurrent i w begun removed) := by
  obtain ⟨c, hc, -⟩ := awaitCurrent_frame s i w begun removed
  rw [hc]
  exact ⟨rfl, rfl, rfl, rfl⟩

lemma threadStep_frames (s : Workqueue ι W) (i : ι) : Frames s (s.threadStep i) := by
  unfold threadStep
  cases s.threads i with
  | outside result => exact ⟨rfl, rfl, rfl, rfl⟩
  | loads w begun =>
    dsimp only
    split_ifs <;> exact ⟨rfl, rfl, rfl, rfl⟩
  | locks w begun =>
    dsimp only
    split_ifs
    · exact ⟨rfl, rfl, rfl, rfl⟩
    · obtain ⟨howner, hfreed, hcommitting, hqueued⟩ :=
        awaitCurrent_frames (s.remove i w begun) i w begun true
      exact ⟨howner, hfreed, hcommitting, hqueued⟩
    · exact awaitCurrent_frames s i w begun false
  | waits w begun removed asleep =>
    dsimp only
    split_ifs
    · exact ⟨rfl, rfl, rfl, rfl⟩
    · exact awaitCurrent_frames s i w begun removed
  | leaves w begun removed => exact ⟨rfl, rfl, rfl, rfl⟩
  | flushes target asleep =>
    dsimp only
    split_ifs <;> exact ⟨rfl, rfl, rfl, rfl⟩

omit [DecidableEq ι] in
lemma next_frames (s : Workqueue ι W) : Frames s s.next := by
  cases hqueue : s.queue with
  | nil =>
    rw [next_nil hqueue]
    exact ⟨rfl, rfl, rfl, rfl⟩
  | cons e rest =>
    rw [next_cons hqueue]
    exact ⟨rfl, rfl, rfl, rfl⟩

omit [DecidableEq ι] in
lemma workerStep_frames (s : Workqueue ι W) : Frames s s.workerStep := by
  unfold workerStep
  cases s.worker with
  | ready =>
    split_ifs
    · exact ⟨rfl, rfl, rfl, rfl⟩
    · exact next_frames s
  | asleep => exact ⟨rfl, rfl, rfl, rfl⟩
  | running w ticket => exact ⟨rfl, rfl, rfl, rfl⟩
  | popped w ticket => exact ⟨rfl, rfl, rfl, rfl⟩
  | returned w ticket =>
    split_ifs
    · exact ⟨rfl, rfl, rfl, rfl⟩
    · obtain ⟨howner, hfreed, hcommitting, hqueued⟩ :=
        next_frames ({ s with worker := .ready } : Workqueue ι W).wake
      exact ⟨howner, hfreed, hcommitting, hqueued⟩

/-- Every item that was queued has its owner, and no item that is still to be started was freed. -/
structure Items (s : Workqueue ι W) : Prop where
  owned : ∀ e ∈ s.queued, s.owner e.1 = true
  live : ∀ e ∈ s.line.ahead, s.freed e.1 = false
  fresh : ∀ w, s.committing = some w → s.freed w = false

end Frames

section Items

variable {s s' : Workqueue ι W} {now : ℕ}

lemma Items.frames (h : s.Items) (hf : Frames s s') (hm : Line.Moves now s.line s'.line) :
    s'.Items where
  owned e he := by
    rw [hf.queued] at he
    rw [hf.owner]
    exact h.owned e he
  live e he := by
    rw [hf.freed]
    exact h.live e (hm.mem_ahead hf.queued he)
  fresh w hw := by
    rw [hf.committing] at hw
    rw [hf.freed]
    exact h.fresh w hw

variable [DecidableEq W]

lemma Items.commit (h : s.Items) (now : ℕ) : (s.commit now).Items := by
  unfold Workqueue.commit
  cases hcommit : s.committing with
  | none => exact h
  | some w =>
    have hfresh := h.fresh w hcommit
    refine ⟨fun e he => ?_, fun e he => ?_, fun v hv => absurd hv.symm (Option.some_ne_none v)⟩
    · show Function.update s.owner w true e.1 = true
      by_cases hw : e.1 = w
      · rw [hw, Function.update_self]
      · rw [Function.update_of_ne hw]
        obtain he | he := List.mem_append.mp he
        · exact h.owned e he
        · rw [List.mem_singleton.mp he] at hw
          exact absurd rfl hw
    · dsimp only at he
      rw [line_wake] at he
      have he' : e ∈ s.worker.hand.toList ++ (s.queue ++ [(w, now)]) := he
      rw [← List.append_assoc, List.mem_append, List.mem_singleton] at he'
      obtain he' | rfl := he'
      · exact h.live e he'
      · exact hfresh

variable [DecidableEq ι] [Fintype ι]

/-- No event frees an item that is still to be started. -/
lemma Items.step (h : s.Items) (hl : s.Linked) (now : ℕ) (e : WqEvent ι W) :
    (s.step now e).Items := by
  have hm := hl.line_step now e
  cases e with
  | queue w =>
    simp only [Workqueue.step, queueWork]
    split_ifs with hlock hno
    · exact h
    · exact h
    · refine ⟨h.owned, h.live, fun v hv => ?_⟩
      grind
  | commit => exact h.commit now
  | cancel i w =>
    refine h.frames ?_ hm
    simp only [Workqueue.step]
    split
    · split_ifs <;> exact ⟨rfl, rfl, rfl, rfl⟩
    · exact ⟨rfl, rfl, rfl, rfl⟩
  | flushWork i w =>
    refine h.frames ?_ hm
    simp only [Workqueue.step]
    split
    · split_ifs <;> exact ⟨rfl, rfl, rfl, rfl⟩
    · exact ⟨rfl, rfl, rfl, rfl⟩
  | flushWorkqueue i =>
    refine h.frames ?_ hm
    simp only [Workqueue.step]
    split <;> exact ⟨rfl, rfl, rfl, rfl⟩
  | step i => exact h.frames (threadStep_frames s i) hm
  | worker => exact h.frames (workerStep_frames s) hm
  | callbackReturns =>
    refine h.frames ?_ hm
    simp only [Workqueue.step]
    split <;> exact ⟨rfl, rfl, rfl, rfl⟩
  | free =>
    simp only [Workqueue.step, Workqueue.free]
    cases hworker : s.worker with
    | running w ticket =>
      dsimp only
      split_ifs with huse
      · exact h
      · simp only [InUse, not_or] at huse
        -- an item in use by nobody is neither linked nor about to be
        refine ⟨h.owned, fun e he => ?_, fun v hv => ?_⟩
        · have hqueue : e ∈ s.queue := he
          have hne : e.1 ≠ w := by
            grind [hl.pending]
          show Function.update s.freed w true e.1 = false
          rw [Function.update_of_ne hne]
          exact h.live e (List.mem_append_right _ hqueue)
        · have hne : v ≠ w := by
            rintro rfl
            exact huse.2.2.1 hv
          show Function.update s.freed w true v = false
          rw [Function.update_of_ne hne]
          exact h.fresh v hv
    | ready | asleep | popped _ _ | returned _ _ => exact h

/-- In every interleaving such items are there. -/
lemma items_history (σ : ℕ → WqEvent ι W) (n : ℕ) : (history σ n).Items := by
  induction n with
  | zero =>
    exact ⟨fun e he => absurd he List.not_mem_nil, fun e he => absurd he List.not_mem_nil,
      fun w hw => absurd hw.symm (Option.some_ne_none w)⟩
  | succ n ih => exact ih.step (linked_history σ n) n (σ n)

/-- The queueings of the item before `begun` are removed, or their callbacks have returned. -/
def Settled (s : Workqueue ι W) (w : W) (begun : ℕ) : Prop :=
  ∀ ticket, (w, ticket) ∈ s.queued → ticket < begun →
    ticket ∈ s.removed.map Prod.fst ∨ ticket ∈ s.finished

/-- The cancel has removed a ticket. -/
def Removed (s : Workqueue ι W) (i : ι) (begun : ℕ) : Prop := ∃ ticket, (ticket, i, begun) ∈ s.removed

/-- What holds of a thread in a cancel. -/
def Due (s : Workqueue ι W) (i : ι) : Caller W → Prop
  | .loads _ begun | .locks _ begun => ¬s.Removed i begun
  | .waits w begun removed _ =>
    (∀ ticket, (w, ticket) ∈ s.queue → begun ≤ ticket) ∧ (removed = true ↔ s.Removed i begun)
  | .leaves w begun removed => s.Settled w begun ∧ (removed = true ↔ s.Removed i begun)
  | .outside _ | .flushes _ _ => True

end Items

section Due

variable {s s' : Workqueue ι W} {now : ℕ}

lemma Due.grows {i : ι} {c : Caller W} (h : s.Due i c) (hg : Line.Grows now s.line s'.line)
    (hbegun : ∀ w begun, c.cancel = some (w, begun) → begun ≤ now)
    (hremoved : ∀ w begun, c.cancel = some (w, begun) → (s'.Removed i begun ↔ s.Removed i begun)) :
    s'.Due i c := by
  cases c with
  | outside result => trivial
  | flushes target asleep => trivial
  | loads w begun => exact fun hr => h ((hremoved w begun rfl).1 hr)
  | locks w begun => exact fun hr => h ((hremoved w begun rfl).1 hr)
  | waits w begun removed asleep =>
    refine ⟨fun ticket ht => ?_, h.2.trans (hremoved w begun rfl).symm⟩
    obtain ht | hnow := hg.waiting _ ht
    · exact h.1 ticket ht
    · have hnow' : ticket = now := hnow
      rw [hnow']
      exact hbegun w begun rfl
  | leaves w begun removed =>
    refine ⟨fun ticket ht hlt => ?_, h.2.trans (hremoved w begun rfl).symm⟩
    obtain ht | hnow := hg.queued _ ht
    · exact (h.1 ticket ht hlt).imp (fun hr => hg.removed hr) fun hf => hg.finished hf
    · have hle := hbegun w begun rfl
      omega

lemma Due.wake {i : ι} {c : Caller W} (h : s.Due i c) : s.Due i c.wake := by
  cases c <;> exact h

lemma settled_of_kept (hk : s.line.Kept now) {w : W} {begun : ℕ}
    (hqueue : ∀ ticket, (w, ticket) ∈ s.queue → begun ≤ ticket) (hcurrent : s.currentWork ≠ some w) :
    s.Settled w begun := by
  intro ticket ht hlt
  obtain hahead | hstarted | hremoved := hk.place ht
  · obtain hhand | hwaiting := List.mem_append.mp hahead
    · have hworker : s.worker.hand = some (w, ticket) := Option.mem_toList.mp hhand
      refine absurd ?_ hcurrent
      rw [currentWork]
      cases hw : s.worker with
      | popped v t =>
        rw [hw] at hworker
        rw [(Prod.mk.inj (Option.some.inj hworker)).1]
        rfl
      | ready | asleep | running _ _ | returned _ _ =>
        rw [hw] at hworker
        cases hworker.symm
    · exact absurd (hqueue ticket hwaiting) (Nat.not_le.mpr hlt)
  · obtain hfinished | hbusy := hk.finished_or_busy ht hstarted
    · exact .inr hfinished
    · have hworker : s.worker.busy = some (w, ticket) := hbusy
      refine absurd ?_ hcurrent
      rw [currentWork]
      cases hw : s.worker with
      | running v t =>
        rw [hw] at hworker
        rw [(Prod.mk.inj (Option.some.inj hworker)).1]
        rfl
      | ready | asleep | popped _ _ | returned _ _ =>
        rw [hw] at hworker
        cases hworker.symm
  · exact .inl hremoved

variable [DecidableEq ι] [DecidableEq W]

lemma due_awaitCurrent (hk : s.line.Kept now) {i : ι} {w : W} {begun : ℕ} {removed : Bool}
    (hqueue : ∀ ticket, (w, ticket) ∈ s.queue → begun ≤ ticket)
    (hremoved : removed = true ↔ s.Removed i begun) :
    (s.awaitCurrent i w begun removed).Due i ((s.awaitCurrent i w begun removed).threads i) := by
  unfold awaitCurrent
  split_ifs with hcurrent
  · rw [goes_self]
    exact ⟨hqueue, hremoved⟩
  · rw [goes_self]
    exact ⟨settled_of_kept hk hqueue hcurrent, hremoved⟩

/-- Every thread in a cancel has what is due to it. -/
structure Callers (now : ℕ) (s : Workqueue ι W) : Prop where
  began : ∀ i w begun, (s.threads i).cancel = some (w, begun) → begun < now
  dated : ∀ x ∈ s.removed, x.2.2 < now
  due : ∀ i, s.Due i (s.threads i)

end Due

section Callers

variable {s s' : Workqueue ι W} {now : ℕ}

lemma due_of_cancel_none {i : ι} {c : Caller W} (h : c.cancel = none) : s.Due i c := by
  cases c with
  | outside _ | flushes _ _ => trivial
  | loads _ _ | locks _ _ | waits _ _ _ _ | leaves _ _ _ => cases h

lemma Callers.calm (h : s.Callers now) (hg : Line.Grows now s.line s'.line)
    (hremoved : s'.removed = s.removed)
    (hthreads : ∀ j, s'.threads j = s.threads j ∨ s'.threads j = (s.threads j).wake ∨
      (s'.threads j).cancel = none) : s'.Callers (now + 1) := by
  have hdue : ∀ j, s'.Due j (s.threads j) := fun j =>
    (h.due j).grows hg (fun w begun hc => (h.began j w begun hc).le) fun w begun _ => by
      rw [Removed, Removed, hremoved]
  refine ⟨fun j w begun hc => ?_, fun x hx => ?_, fun j => ?_⟩
  · obtain hj | hj | hj := hthreads j
    · rw [hj] at hc
      exact Nat.lt_succ_of_lt (h.began j w begun hc)
    · rw [hj, Caller.cancel_wake] at hc
      exact Nat.lt_succ_of_lt (h.began j w begun hc)
    · cases hc.symm.trans hj
  · rw [hremoved] at hx
    exact Nat.lt_succ_of_lt (h.dated x hx)
  · obtain hj | hj | hj := hthreads j
    · rw [hj]
      exact hdue j
    · rw [hj]
      exact (hdue j).wake
    · exact due_of_cancel_none hj

variable [DecidableEq ι]

lemma goes_cases (s : Workqueue ι W) (i j : ι) {c : Caller W} (hc : c.cancel = none) :
    (s.goes i c).threads j = s.threads j ∨ (s.goes i c).threads j = (s.threads j).wake ∨
      ((s.goes i c).threads j).cancel = none := by
  by_cases hj : j = i
  · subst hj
    rw [goes_self]
    exact .inr (.inr hc)
  · exact .inl (goes_of_ne s hj c)

variable [DecidableEq W]

omit [DecidableEq ι] in
lemma next_calm (s : Workqueue ι W) : s.next.removed = s.removed ∧ s.next.threads = s.threads := by
  cases hqueue : s.queue with
  | nil =>
    rw [next_nil hqueue]
    exact ⟨rfl, rfl⟩
  | cons e rest =>
    rw [next_cons hqueue]
    exact ⟨rfl, rfl⟩

omit [DecidableEq ι] in
lemma workerStep_others (s : Workqueue ι W) : s.workerStep.removed = s.removed ∧
    ∀ j, s.workerStep.threads j = s.threads j ∨ s.workerStep.threads j = (s.threads j).wake := by
  unfold Workqueue.workerStep
  cases s.worker with
  | ready =>
    grind [next_calm]
  | returned w ticket =>
    split_ifs
    · exact ⟨rfl, fun _ => .inl rfl⟩
    · obtain ⟨hremoved, hthreads⟩ := next_calm ({ s with worker := .ready } : Workqueue ι W).wake
      exact ⟨hremoved, fun j => .inr (by rw [hthreads]; rfl)⟩
  | asleep | running _ _ | popped _ _ => exact ⟨rfl, fun _ => .inl rfl⟩

lemma threadStep_others (s : Workqueue ι W) (i : ι) :
    (∀ j, j ≠ i → (s.threadStep i).threads j = s.threads j ∨
      (s.threadStep i).threads j = (s.threads j).wake) ∧
    ∃ l, (s.threadStep i).removed = s.removed ++ l ∧
      ∀ x ∈ l, x.2.1 = i ∧ ∃ w, (s.threads i).cancel = some (w, x.2.2) ∧ (w, x.1) ∈ s.queue := by
  have hgoes : ∀ c, (∀ j, j ≠ i → (s.goes i c).threads j = s.threads j ∨
      (s.goes i c).threads j = (s.threads j).wake) ∧
      ∃ l, (s.goes i c).removed = s.removed ++ l ∧
        ∀ x ∈ l, x.2.1 = i ∧ ∃ w, (s.threads i).cancel = some (w, x.2.2) ∧ (w, x.1) ∈ s.queue := fun c =>
    ⟨fun j hj => .inl (goes_of_ne s hj c), [], (List.append_nil _).symm,
      fun x hx => absurd hx List.not_mem_nil⟩
  have hsame : (∀ j, j ≠ i → s.threads j = s.threads j ∨ s.threads j = (s.threads j).wake) ∧
      ∃ l, s.removed = s.removed ++ l ∧
        ∀ x ∈ l, x.2.1 = i ∧ ∃ w, (s.threads i).cancel = some (w, x.2.2) ∧ (w, x.1) ∈ s.queue :=
    ⟨fun _ _ => .inl rfl, [], (List.append_nil _).symm, fun x hx => absurd hx List.not_mem_nil⟩
  unfold threadStep
  cases hi : s.threads i with
  | outside result =>
    rw [hi] at hsame
    exact hsame
  | loads w begun =>
    dsimp only
    rw [hi] at hgoes
    split_ifs <;> exact hgoes _
  | locks w begun =>
    dsimp only
    rw [hi] at hgoes hsame
    split_ifs
    · exact hsame
    · obtain ⟨c, hc, -⟩ := awaitCurrent_frame (s.remove i w begun) i w begun true
      rw [hc]
      refine ⟨fun j hj => .inr (goes_of_ne _ hj c), _, rfl, fun x hx => ?_⟩
      obtain ⟨e, he, rfl⟩ := Option.mem_map.mp (Option.mem_toList.mp hx)
      have hitem : e.1 = w := by simpa using List.find?_some he
      exact ⟨rfl, w, rfl, hitem ▸ List.mem_of_find?_eq_some he⟩
    · obtain ⟨c, hc, -⟩ := awaitCurrent_frame s i w begun false
      rw [hc]
      exact hgoes c
  | waits w begun removed asleep =>
    dsimp only
    rw [hi] at hgoes hsame
    split_ifs
    · exact hsame
    · obtain ⟨c, hc, -⟩ := awaitCurrent_frame s i w begun removed
      rw [hc]
      exact hgoes c
  | leaves w begun removed =>
    rw [hi] at hgoes
    exact hgoes _
  | flushes target asleep =>
    dsimp only
    rw [hi] at hgoes hsame
    split_ifs
    · exact hsame
    · exact hgoes _
    · exact hgoes _

/-- The thread that took a step has what is due to it. -/
lemma due_threadStep (h : s.Callers now) (hk : s.line.Kept now) (hl : s.Linked) (hitems : s.Items)
    (i : ι) : (s.threadStep i).Due i ((s.threadStep i).threads i) := by
  have hdue := h.due i
  unfold threadStep
  cases hi : s.threads i with
  | outside result =>
    trivial
  | loads w begun =>
    rw [hi] at hdue
    dsimp only
    split_ifs with howner
    · rw [goes_self]
      exact hdue
    · rw [goes_self]
      refine ⟨fun ticket ht _ => absurd (hitems.owned _ ht) howner,
        fun hfalse => absurd hfalse Bool.false_ne_true, fun hr => absurd hr hdue⟩
  | locks w begun =>
    rw [hi] at hdue
    dsimp only
    split_ifs with hlock hpending
    · rw [hi]
      exact hdue
    · obtain ⟨l, ticket, r, hqueue, hothers, hentry, herase⟩ := hl.split hpending
      refine due_awaitCurrent (hk.moves (hl.line_remove hpending now i begun)) (fun t ht => ?_)
        ⟨fun _ => ⟨ticket, ?_⟩, fun _ => rfl⟩
      · have ht' : (w, t) ∈ l ++ r := herase ▸ ht
        exact absurd rfl (hothers _ ht')
      · show (ticket, i, begun) ∈ s.removed ++ _
        grind
    · refine due_awaitCurrent hk (fun t ht => absurd ((hl.pending w).2 ⟨t, ht⟩) hpending)
        ⟨fun hfalse => absurd hfalse Bool.false_ne_true, fun hr => absurd hr hdue⟩
  | waits w begun removed asleep =>
    rw [hi] at hdue
    dsimp only
    split_ifs with hlock
    · rw [hi]
      exact hdue
    · exact due_awaitCurrent hk hdue.1 hdue.2
  | leaves w begun removed =>
    rw [goes_self]
    trivial
  | flushes target asleep =>
    dsimp only
    split_ifs
    · rw [hi]
      trivial
    · rw [goes_self]
      trivial
    · rw [goes_self]
      trivial

lemma Callers.threadStep (h : s.Callers now) (hk : s.line.Kept now) (hl : s.Linked)
    (hitems : s.Items) (i : ι) : (s.threadStep i).Callers (now + 1) := by
  obtain ⟨hothers, l, hremoved, hnew⟩ := threadStep_others s i
  have hg := (hl.line_threadStep now i).grows
  refine ⟨fun j w begun hc => ?_, fun x hx => ?_, fun j => ?_⟩
  · cases turns_threadStep s now i with
    | steady hcount hcalls =>
      rw [hcalls] at hc
      exact Nat.lt_succ_of_lt (h.began j w begun hc)
    | begins k v he => cases he
    | ends k v b r he hin hcount hcalls =>
      rw [hcalls] at hc
      by_cases hjk : j = k
      · subst hjk
        rw [Function.update_self] at hc
        cases hc.symm
      · rw [Function.update_of_ne hjk] at hc
        exact Nat.lt_succ_of_lt (h.began j w begun hc)
  · rw [hremoved] at hx
    obtain hx | hx := List.mem_append.mp hx
    · exact Nat.lt_succ_of_lt (h.dated x hx)
    · obtain ⟨-, w, hc, -⟩ := hnew x hx
      exact Nat.lt_succ_of_lt (h.began i w _ hc)
  · by_cases hj : j = i
    · subst hj
      exact due_threadStep h hk hl hitems j
    · have hdue : (s.threadStep i).Due j (s.threads j) := by
        refine (h.due j).grows hg (fun w begun hc => (h.began j w begun hc).le) fun w begun _ => ?_
        rw [Removed, Removed, hremoved]
        grind
      grind [hdue.wake]

variable [Fintype ι]

/-- Every event keeps what is due to the threads in a cancel. -/
lemma Callers.step (h : s.Callers now) (hk : s.line.Kept now) (hl : s.Linked) (hitems : s.Items)
    (e : WqEvent ι W) : (s.step now e).Callers (now + 1) := by
  have hg := (hl.line_step now e).grows
  cases e with
  | queue w =>
    refine h.calm hg ?_ fun j => .inl ?_ <;>
      · simp only [Workqueue.step, queueWork]
        split_ifs <;> rfl
  | commit =>
    refine h.calm hg ?_ fun j => ?_
    · simp only [Workqueue.step, Workqueue.commit]
      split <;> rfl
    · simp only [Workqueue.step, Workqueue.commit]
      split
      · exact .inl rfl
      · exact .inr (.inl rfl)
  | cancel i w =>
    simp only [Workqueue.step]
    split
    · rename_i result hout
      split_ifs
      · exact h.calm Line.Moves.same.grows rfl fun _ => .inl rfl
      · refine ⟨fun j v begun hc => ?_, fun x hx => Nat.lt_succ_of_lt (h.dated x hx), fun j => ?_⟩
        · by_cases hj : j = i
          · subst hj
            rw [goes_self] at hc
            rw [← (Prod.mk.inj (Option.some.inj hc)).2]
            exact Nat.lt_succ_self now
          · rw [goes_of_ne _ hj] at hc
            exact Nat.lt_succ_of_lt (h.began j v begun hc)
        · by_cases hj : j = i
          · subst hj
            rw [goes_self]
            rintro ⟨ticket, ht⟩
            exact Nat.lt_irrefl now (h.dated _ ht)
          · rw [goes_of_ne _ hj]
            exact (h.due j).grows Line.Moves.same.grows
              (fun v begun hc => (h.began j v begun hc).le) fun _ _ _ => Iff.rfl
    · exact h.calm Line.Moves.same.grows rfl fun _ => .inl rfl
  | flushWork i w =>
    simp only [Workqueue.step]
    split
    · split_ifs
      · exact h.calm Line.Moves.same.grows rfl fun _ => .inl rfl
      · exact h.calm Line.Moves.same.grows rfl fun j => goes_cases s i j rfl
    · exact h.calm Line.Moves.same.grows rfl fun _ => .inl rfl
  | flushWorkqueue i =>
    simp only [Workqueue.step]
    split
    · exact h.calm Line.Moves.same.grows rfl fun j => goes_cases s i j rfl
    · exact h.calm Line.Moves.same.grows rfl fun _ => .inl rfl
  | step i => exact h.threadStep hk hl hitems i
  | worker =>
    exact h.calm hg (workerStep_others s).1 fun j => ((workerStep_others s).2 j).imp_right .inl
  | callbackReturns =>
    refine h.calm hg ?_ fun j => .inl ?_ <;>
      · simp only [Workqueue.step]
        split <;> rfl
  | free =>
    refine h.calm hg ?_ fun j => .inl ?_ <;>
      · simp only [Workqueue.step, Workqueue.free]
        split
        · split_ifs <;> rfl
        · rfl

/-- They have it in every interleaving. -/
lemma callers_history (σ : ℕ → WqEvent ι W) (n : ℕ) : (history σ n).Callers n := by
  induction n with
  | zero =>
    exact ⟨fun i w begun hc => absurd hc.symm (Option.some_ne_none _),
      fun x hx => absurd hx List.not_mem_nil, fun i => trivial⟩
  | succ n ih => exact ih.step (kept_history σ n) (linked_history σ n) (items_history σ n) (σ n)

lemma cancel_begun (σ : ℕ → WqEvent ι W) {n : ℕ} {i : ι} {w : W} {begun : ℕ}
    (h : ((history σ n).threads i).cancel = some (w, begun)) :
    σ begun = .cancel i w ∧
      ∀ m, begun < m → m ≤ n → ((history σ m).threads i).cancel = some (w, begun) := by
  induction n with
  | zero => cases h.symm
  | succ n ih =>
    -- it was in progress before, too, unless this is the step in which it began
    have hlast : ((history σ n).threads i).cancel = some (w, begun) →
        σ begun = .cancel i w ∧
          ∀ m, begun < m → m ≤ n + 1 → ((history σ m).threads i).cancel = some (w, begun) := by
      grind
    cases turns_step (history σ n) n (σ n) with
    | steady hcount hcalls => exact hlast ((hcalls i).symm.trans h)
    | begins j v he hout hcount hcalls =>
      have hthreads : (history σ (n + 1)).threads = _ := hcalls
      rw [hthreads] at h
      by_cases hij : i = j
      · subst hij
        rw [Function.update_self] at h
        obtain ⟨rfl, rfl⟩ := Prod.mk.inj (Option.some.inj h)
        refine ⟨he, fun m hn hm => ?_⟩
        obtain rfl : m = n + 1 := by omega
        rw [hthreads, Function.update_self]
        rfl
      grind
    | ends j v begun' removed he hin hcount hcalls =>
      have hthreads : (history σ (n + 1)).threads = _ := hcalls
      rw [hthreads] at h
      by_cases hij : i = j
      · subst hij
        rw [Function.update_self] at h
        cases h.symm
      grind

lemma leaves_of_returns (s : Workqueue ι W) (now : ℕ) (e : WqEvent ι W) {i : ι} {w : W} {begun : ℕ}
    {result : Bool} (hin : (s.threads i).cancel = some (w, begun))
    (hout : (s.step now e).threads i = .outside (some result)) :
    s.threads i = .leaves w begun result := by
  have hnone : ((s.step now e).threads i).cancel = none := by rw [hout]; rfl
  cases turns_step s now e with
  | steady hcount hcalls =>
    grind
  | begins j v he hwas hcount hcalls =>
    have hij : i ≠ j := by
      grind
    simp_all
  | ends j v begun' removed he hleaves hcount hcalls =>
    by_cases hij : i = j
    · subst hij
      rw [hcalls, Function.update_self] at hout
      rw [hleaves] at hin ⊢
      obtain ⟨rfl, rfl⟩ := Prod.mk.inj (Option.some.inj hin)
      rw [Option.some.inj (Caller.outside.inj hout)]
    simp_all

/-- A step removes tickets for the cancel that takes it. -/
lemma removed_step (s : Workqueue ι W) (now : ℕ) (e : WqEvent ι W) :
    ∃ l, (s.step now e).removed = s.removed ++ l ∧
      ∀ x ∈ l, ∃ w, (s.threads x.2.1).cancel = some (w, x.2.2) ∧ (w, x.1) ∈ s.queue := by
  have hsame : (s.step now e).removed = s.removed → ∃ l, (s.step now e).removed = s.removed ++ l ∧
      ∀ x ∈ l, ∃ w, (s.threads x.2.1).cancel = some (w, x.2.2) ∧ (w, x.1) ∈ s.queue := fun h =>
    ⟨[], by rw [h, List.append_nil], fun x hx => absurd hx List.not_mem_nil⟩
  cases e with
  | step i =>
    obtain ⟨-, l, hl, hnew⟩ := threadStep_others s i
    refine ⟨l, hl, fun x hx => ?_⟩
    obtain ⟨hi, w, hc⟩ := hnew x hx
    exact ⟨w, hi ▸ hc⟩
  | worker => exact hsame (workerStep_others s).1
  | queue w =>
    refine hsame ?_
    simp only [step, queueWork]
    split_ifs <;> rfl
  | commit =>
    refine hsame ?_
    simp only [step, commit]
    split <;> rfl
  | cancel i w =>
    refine hsame ?_
    simp only [step]
    split
    · split_ifs <;> rfl
    · rfl
  | flushWork i w =>
    refine hsame ?_
    simp only [step]
    split
    · split_ifs <;> rfl
    · rfl
  | flushWorkqueue i =>
    refine hsame ?_
    simp only [step]
    split <;> rfl
  | callbackReturns =>
    refine hsame ?_
    simp only [step]
    split <;> rfl
  | free =>
    refine hsame ?_
    simp only [step, free]
    split
    · split_ifs <;> rfl
    · rfl

/-- Tickets are removed by cancels of their item. -/
lemma removed_history (σ : ℕ → WqEvent ι W) (n : ℕ) : ∀ x ∈ (history σ n).removed,
    ∃ w, (w, x.1) ∈ (history σ n).queued ∧ σ x.2.2 = .cancel x.2.1 w := by
  induction n with
  | zero => exact fun x hx => absurd hx List.not_mem_nil
  | succ n ih =>
    intro x hx
    have hqueued : (history σ n).queued ⊆ (history σ (n + 1)).queued :=
      ((linked_history σ n).line_step n (σ n)).grows.given
    obtain ⟨l, hl, hnew⟩ := removed_step (history σ n) n (σ n)
    have hremoved : (history σ (n + 1)).removed = (history σ n).removed ++ l := hl
    rw [hremoved, List.mem_append] at hx
    obtain hx | hx := hx
    · grind
    · obtain ⟨w, hc, hmem⟩ := hnew x hx
      have hahead : (w, x.1) ∈ (history σ n).line.ahead := List.mem_append_right _ hmem
      exact ⟨w, hqueued ((kept_history σ n).known _ (List.mem_append_left _ hahead)),
        (cancel_begun σ hc).1⟩

/-- The event takes the worker to its next section or callback, or the worker has nothing to do. -/
def Served (s : Workqueue ι W) (e : WqEvent ι W) : Prop :=
  match s.worker with
  | .ready | .returned _ _ => e = .worker ∧ s.committing = none
  | .popped _ _ => e = .worker
  | .running _ _ => e = .callbackReturns
  | .asleep => True

/-- The worker always gets the lock in the end, and callbacks return. -/
def Fair (σ : ℕ → WqEvent ι W) : Prop := Leads (fun _ => True) fun n => (history σ n).Served (σ n)

/-- The steps the worker takes before it is at the head of its loop. -/
def stage : Worker W → ℕ
  | .popped _ _ => 2
  | .running _ _ => 1
  | .ready | .asleep | .returned _ _ => 0

end Callers

section Progress

variable {s : Workqueue ι W} {now : ℕ} {e : WqEvent ι W}

lemma wake_of_not_served (h : ¬s.Served e) : s.worker.wake = s.worker := by
  cases hworker : s.worker with
  | asleep =>
    rw [Served, hworker] at h
    exact absurd trivial h
  | ready | popped _ _ | running _ _ | returned _ _ => rfl

variable [DecidableEq ι] [DecidableEq W] [Fintype ι]

lemma worker_of_not_served (h : ¬s.Served e) : (s.step now e).worker = s.worker := by
  have hwake := wake_of_not_served h
  cases e with
  | queue w =>
    simp only [step, queueWork]
    split_ifs <;> rfl
  | commit =>
    simp only [step, commit]
    split
    · rfl
    · exact hwake
  | cancel i w =>
    simp only [step]
    split
    · split_ifs <;> rfl
    · rfl
  | flushWork i w =>
    simp only [step]
    split
    · split_ifs <;> rfl
    · rfl
  | flushWorkqueue i =>
    simp only [step]
    split <;> rfl
  | step i =>
    have hawait : ∀ (s : Workqueue ι W) w begun removed,
        (s.awaitCurrent i w begun removed).worker = s.worker := by
      intro s w begun removed
      obtain ⟨c, hc, -⟩ := awaitCurrent_frame s i w begun removed
      rw [hc]
      rfl
    simp only [step, threadStep]
    split
    · rfl
    · split_ifs <;> rfl
    · split_ifs
      · rfl
      · exact (hawait _ _ _ _).trans hwake
      · exact hawait _ _ _ _
    · split_ifs
      · rfl
      · exact hawait _ _ _ _
    · rfl
    · split_ifs <;> rfl
  | worker =>
    simp only [Served] at h
    simp only [step, workerStep]
    cases hworker : s.worker with
    | ready | returned _ _ =>
      simp only [hworker, true_and] at h
      dsimp only
      rw [if_pos (Option.isSome_iff_ne_none.mpr h), hworker]
    | popped w ticket =>
      simp only [hworker, not_true_eq_false] at h
    | asleep | running _ _ => exact hworker
  | callbackReturns =>
    simp only [Served] at h
    simp only [step]
    grind
  | free =>
    grind [step, free]

variable {x : W × ℕ}

omit [DecidableEq ι] [Fintype ι] in
lemma next_place {l r : List (W × ℕ)} (hqueue : s.queue = l ++ x :: r) :
    s.next.worker.hand = some x ∨
      ∃ l', l.length = l'.length + 1 ∧ s.next.queue = l' ++ x :: r ∧ stage s.next.worker = 2 := by
  cases l with
  | nil =>
    rw [next_cons hqueue]
    exact .inl rfl
  | cons y l =>
    rw [next_cons (List.cons_append ▸ hqueue)]
    exact .inr ⟨l, rfl, rfl, rfl⟩

/-- The entry is in the worker's hand, or it waits and the worker has at most `r` steps to take. -/
def Nears (x : W × ℕ) (r : ℕ) (s : Workqueue ι W) : Prop :=
  s.worker.hand = some x ∨
    ∃ l tail, s.queue = l ++ x :: tail ∧ 3 * l.length + stage s.worker + 1 ≤ r

/-- The ticket was started or removed. -/
def Done (x : W × ℕ) (s : Workqueue ι W) : Prop :=
  x.2 ∈ s.started ∨ x.2 ∈ s.removed.map Prod.fst

lemma Nears.waits {r : ℕ} (h : s.Nears x r) (hl : s.Linked) (hserved : ¬s.Served e) :
    (s.step now e).Nears x r ∨ (s.step now e).Done x := by
  have hworker : (s.step now e).worker = s.worker := worker_of_not_served hserved
  obtain hhand | ⟨l, tail, hqueue, hrank⟩ := h
  · exact .inl (.inl (by rw [hworker, hhand]))
  obtain ⟨l', tail', hqueue', hle⟩ | hhand | hremoved := (hl.line_step now e).place hqueue
  · refine .inl (.inr ⟨l', tail', hqueue', ?_⟩)
    rw [hworker]
    omega
  · exact .inl (.inl hhand)
  · exact .inr (.inr hremoved)

omit [DecidableEq ι] [Fintype ι] in
lemma nears_next {r : ℕ} {l tail : List (W × ℕ)} (hqueue : s.queue = l ++ x :: tail)
    (hrank : 3 * l.length + 1 ≤ r) : ∃ r' < r, s.next.Nears x r' := by
  obtain hhand | ⟨l', hlength, hqueue', hstage⟩ := next_place hqueue
  · exact ⟨0, by omega, .inl hhand⟩
  · refine ⟨3 * l'.length + 3, by omega, .inr ⟨l', tail, hqueue', ?_⟩⟩
    rw [hstage]

lemma Nears.served {r : ℕ} (h : s.Nears x r) (ha : s.Alert) (hserved : s.Served e) :
    (∃ r' < r, (s.step now e).Nears x r') ∨ (s.step now e).Done x := by
  obtain hhand | ⟨l, tail, hqueue, hrank⟩ := h
  · -- the worker has the item in hand and calls its function
    cases hworker : s.worker with
    | popped w ticket =>
      rw [hworker] at hhand
      simp only [Served, hworker] at hserved
      subst hserved
      refine .inr (.inl ?_)
      simp only [step, workerStep, hworker, ← Option.some.inj hhand]
      exact List.mem_append_right _ (List.mem_singleton_self _)
    | ready | asleep | running _ _ | returned _ _ =>
      rw [hworker] at hhand
      cases hhand.symm
  · refine .inl ?_
    cases hworker : s.worker with
    | asleep =>
      have hempty := ha.worker hworker
      rw [hqueue] at hempty
      exact absurd hempty (by simp)
    | ready =>
      simp only [Served, hworker] at hserved
      obtain ⟨rfl, hlock⟩ := hserved
      simp only [step, workerStep, hworker, hlock, Option.isSome_none, Bool.false_eq_true, if_false]
      exact nears_next hqueue (by omega)
    | returned w ticket =>
      simp only [Served, hworker] at hserved
      obtain ⟨rfl, hlock⟩ := hserved
      simp only [step, workerStep, hworker, hlock, Option.isSome_none, Bool.false_eq_true, if_false]
      have hwaiting : (({ s with worker := .ready } : Workqueue ι W).wake).queue = l ++ x :: tail :=
        hqueue
      exact nears_next hwaiting (by omega)
    | popped w ticket =>
      simp only [Served, hworker] at hserved
      subst hserved
      refine ⟨r - 1, ?_, .inr ⟨l, tail, ?_, ?_⟩⟩
      · simp only [stage] at hrank
        omega
      · simp only [step, workerStep, hworker]
        exact hqueue
      · simp only [step, workerStep, hworker, stage] at hrank ⊢
        omega
    | running w ticket =>
      simp only [Served, hworker] at hserved
      subst hserved
      refine ⟨r - 1, ?_, .inr ⟨l, tail, ?_, ?_⟩⟩
      · simp only [stage] at hrank
        omega
      · simp only [step, hworker]
        exact hqueue
      · simp only [step, hworker, stage] at hrank ⊢
        omega

lemma done_of_fair {σ : ℕ → WqEvent ι W} (hfair : Fair σ) {n : ℕ}
    (hx : x ∈ (history σ n).queued) : ∃ m, n ≤ m ∧ (history σ m).Done x := by
  have hleads : ∀ r, Leads (fun n => (history σ n).Nears x r) fun n => (history σ n).Done x :=
    leads_of_rank (P := fun r n => (history σ n).Nears x r) hfair
      (fun r n hnear hnot => hnear.waits (linked_history σ n) hnot)
      (fun r n hnear hserved => hnear.served (alert_history σ n) hserved)
  obtain hahead | hdone := (kept_history σ n).place hx
  · obtain hhand | hwaiting := List.mem_append.mp hahead
    · exact hleads 0 n (.inl (Option.mem_toList.mp hhand))
    · obtain ⟨l, tail, hqueue⟩ := List.append_of_mem hwaiting
      exact hleads _ n (.inr ⟨l, tail, hqueue, le_rfl⟩)
  · exact ⟨n, le_rfl, hdone⟩

/-- The items the worker's next step reads or writes. Unlinking an item writes its neighbour. -/
def touches (s : Workqueue ι W) : List W :=
  match s.worker with
  | .ready | .returned _ _ => if s.committing.isSome then [] else (s.queue.take 2).map Prod.fst
  | .popped w _ => [w]
  | .asleep | .running _ _ => []

omit [DecidableEq ι] [DecidableEq W] [Fintype ι] in
lemma ahead_of_touches {s : Workqueue ι W} {w : W} (h : w ∈ s.touches) :
    ∃ ticket, (w, ticket) ∈ s.line.ahead := by
  have hqueue : w ∈ (s.queue.take 2).map Prod.fst → ∃ ticket, (w, ticket) ∈ s.line.ahead := by
    intro hmem
    obtain ⟨e, he, rfl⟩ := List.mem_map.mp hmem
    exact ⟨e.2, List.mem_append_right _ (List.mem_of_mem_take he)⟩
  unfold touches at h
  cases hworker : s.worker with
  | ready | returned _ _ =>
    grind
  | popped v ticket =>
    simp only [hworker, List.mem_singleton] at h
    refine ⟨ticket, List.mem_append_left _ (Option.mem_toList.mpr ?_)⟩
    rw [h, line, hworker]
    rfl
  | asleep | running _ _ =>
    grind

omit [DecidableEq ι] in
lemma queueWork_of_cancels {s : Workqueue ι W} (hc : s.Counted) {i : ι} {w : W}
    (h : Caller.Cancels w (s.threads i)) : s.queueWork w = s := by
  have hcount : s.canceling w ≠ 0 := by
    rw [hc w]
    exact (tally_pos h).ne'
  have hrefuse : (s.pending w || s.canceling w != 0) = true := by
    rw [Bool.or_eq_true]
    exact .inr (bne_iff_ne.mpr hcount)
  rw [queueWork, if_pos hrefuse, ite_self]

/-- In every interleaving items are started in the order in which they were queued, and each ticket is
started or removed by a cancel of its item, at most one of these and, if the worker gets on, one in
the end. A cancel returns when all that was queued before it is settled, and says whether it removed a
ticket; meanwhile nobody queues the item. The worker touches an item only for a ticket that was not
started, and nobody sleeps whose condition has come true. -/
theorem workqueue_ordered (σ : ℕ → WqEvent ι W) :
    (∀ n, (history σ n).started.Pairwise (· < ·) ∧
      (Line.tickets (history σ n).queued).Nodup ∧
      (Line.tickets (history σ n).queued).Perm ((history σ n).started ++
        Line.tickets (history σ n).line.ahead ++ (history σ n).removed.map Prod.fst) ∧
      ∀ x ∈ (history σ n).removed,
        ∃ w, (w, x.1) ∈ (history σ n).queued ∧ σ x.2.2 = .cancel x.2.1 w) ∧
    (Fair σ → ∀ n, ∀ x ∈ (history σ n).queued, ∃ m, n ≤ m ∧
      (x.2 ∈ (history σ m).started ∨ x.2 ∈ (history σ m).removed.map Prod.fst)) ∧
    (∀ n i w begun result, ((history σ n).threads i).cancel = some (w, begun) →
      (history σ (n + 1)).threads i = .outside (some result) →
      σ begun = .cancel i w ∧ (history σ n).Settled w begun ∧
        (result = true ↔ (history σ n).Removed i begun)) ∧
    (∀ n w, σ n = .queue w → (∃ i, Caller.Cancels w ((history σ n).threads i)) →
      history σ (n + 1) = history σ n) ∧
    (∀ n, ∀ w ∈ (history σ n).touches, (history σ n).freed w = false ∧
      ∃ ticket, (w, ticket) ∈ (history σ n).queued ∧ ticket ∉ (history σ n).started) ∧
    (∀ n i, (history σ n).MustWait ((history σ n).threads i) ∨
      ((history σ n).threads i).asleep = false) := by
  refine ⟨fun n => ?_, fun hfair n x hx => done_of_fair hfair hx, fun n i w begun result hin hout => ?_,
    fun n w hqueue hcancel => ?_, fun n w hw => ?_, fun n i => ?_⟩
  · have hk := kept_history σ n
    exact ⟨(List.pairwise_append.mp hk.ordered).1, hk.distinct, hk.account, removed_history σ n⟩
  · have hleaves := leaves_of_returns _ n (σ n) hin hout
    have hdue := (callers_history σ n).due i
    rw [hleaves] at hdue
    exact ⟨(cancel_begun σ hin).1, hdue⟩
  · obtain ⟨i, hi⟩ := hcancel
    rw [history, hqueue]
    exact queueWork_of_cancels (counted_history σ n) hi
  · obtain ⟨ticket, hahead⟩ := ahead_of_touches hw
    have hk := kept_history σ n
    exact ⟨(items_history σ n).live _ hahead, ticket, hk.known _ (List.mem_append_left _ hahead),
      hk.not_started hahead⟩
  · cases hasleep : ((history σ n).threads i).asleep with
    | false => exact .inr rfl
    | true => exact .inl ((alert_history σ n).callers i hasleep)

/-- Two items are queued and the second is cancelled; then the worker and its callback get their
turns. -/
def cancelled : ℕ → WqEvent (Fin 1) (Fin 2)
  | 0 => .queue (Fin.last 1).rev
  | 1 => .commit
  | 2 => .queue (Fin.last 1)
  | 3 => .commit
  | 4 => .cancel (Fin.last 0) (Fin.last 1)
  | 5 | 6 | 7 => .step (Fin.last 0)
  | n + 8 => if n % 2 = 0 then .worker else .callbackReturns

lemma cancelled_committing (n : ℕ) : (history cancelled (n + 8)).committing = none := by
  induction n with
  | zero => decide
  | succ n ih =>
    have hstep : history cancelled (n + 1 + 8) =
      (history cancelled (n + 8)).step (n + 8) (cancelled (n + 8)) := rfl
    rw [hstep, cancelled]
    split_ifs
    · exact (workerStep_frames _).committing.trans ih
    · simp only [step]
      split <;> exact ih

lemma cancelled_fair : Fair cancelled := by
  intro n _
  by_cases hserved : (history cancelled (n + 8)).Served (cancelled (n + 8))
  · exact ⟨n + 8, by omega, hserved⟩
  -- otherwise it is the turn of the other one, who is waited for
  refine ⟨n + 1 + 8, by omega, ?_⟩
  have hworker : (history cancelled (n + 1 + 8)).worker = (history cancelled (n + 8)).worker :=
    worker_of_not_served hserved
  have hlock := cancelled_committing n
  have hlock' := cancelled_committing (n + 1)
  simp only [Served, cancelled] at hserved ⊢
  grind

/-- The first item is started or removed in the end, and the cancel that returns true removed the
second. -/
theorem workqueue_ordered_cancelled :
    (∃ m, 1 ∈ (history cancelled m).started ∨ 1 ∈ (history cancelled m).removed.map Prod.fst) ∧
      (history cancelled 7).Settled (Fin.last 1) 4 ∧
      (history cancelled 7).Removed (Fin.last 0) 4 := by
  obtain ⟨-, hdone, hreturns, -⟩ := workqueue_ordered cancelled
  obtain ⟨m, -, hsettled⟩ := hdone cancelled_fair 2 ((Fin.last 1).rev, 1) (by decide)
  obtain ⟨-, hsecond, hremoved⟩ := hreturns 7 (Fin.last 0) (Fin.last 1) 4 true (by decide) (by decide)
  exact ⟨⟨m, hsettled⟩, hsecond, hremoved.mp rfl⟩

end Progress

end AirportAwdl.Compat.Workqueue
