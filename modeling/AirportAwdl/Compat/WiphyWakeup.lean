import AirportAwdl.Compat.WiphyShutdown

/-!
# Wiphy work: wakeups

`Awake` says where the next wakeup of the dispatcher is while nodes are pending; no event loses it. With
the books and the shutdown this gives the whole of `wiphy_work_runs`.
-/

namespace AirportAwdl.Compat

open Hal

variable {ι N : Type}

namespace WiphyQueue

/-- The dispatcher has its last scan still ahead. -/
def ScanAhead : Dispatcher → Bool
  | .waits => true
  | .loops budget _ | .chosen budget | .calls budget => budget != 0
  | _ => false

/-- The dispatcher has used up its budget and will queue itself again. -/
def QueuesItself : Dispatcher → Bool
  | .loops budget again => budget == 0 && again
  | .chosen budget | .calls budget => budget == 0
  | .unlocks again | .requeues again => again
  | _ => false

/-- A call of the timer that is at this stage will queue the dispatcher. -/
def comes : Option Trampoline → TimerFn → Bool → Bool
  | some .begun, _, active | some .executing, .checks, active => active
  | some .executing, .clears, _ | some .executing, .queues, _ => true
  | _, _, _ => false

/-- The timer's call is running and will queue the dispatcher. -/
def TimerComes (s : WiphyQueue ι N) : Bool :=
  comes (s.call.threadCall.running.map RunningCall.stage) s.timerFn s.timer.active

lemma comes_active {stage : Option Trampoline} {fn : TimerFn} {active : Bool}
    (h : comes stage fn active = true) : comes stage fn true = true := by
  cases stage with
  | none => exact h
  | some stage => cases stage <;> cases fn <;> first | rfl | exact h

/-- Somebody is about to queue the dispatcher: a thread or the code under the mutex, in
`rtw89_wiphy_queue`, or the timer's call. -/
def AboutToQueue (s : WiphyQueue ι N) : Prop :=
  (∃ i, s.threads i = true) ∨ s.client = .queues ∨ s.TimerComes = true

/-- The deadline is no later than when a pending node is due, or than the next millisecond after the
timer was programmed. -/
def InTime (s : WiphyQueue ι N) (deadline : UInt64) : Prop :=
  ∀ x ∈ s.nodes.pending, s.timer.expires.toNat ≤ x.due ∧
    deadline.toNat ≤ max x.due (s.timer.programmed + 1)

/-- The timer is armed in time. -/
def Armed (s : WiphyQueue ι N) : Prop :=
  s.timer.active = true ∧ ∃ p deadline, s.call.threadCall.pending = some p ∧
    p.deadline = some deadline ∧ s.InTime deadline

/-- A scan is sure to come. -/
def Poked (s : WiphyQueue ι N) : Prop :=
  s.work.pending = true ∨ ScanAhead s.dispatcher = true ∨ QueuesItself s.dispatcher = true ∨
    s.AboutToQueue

/-- Where no scan is sure to come, the timer is armed, or is being programmed, for the pending nodes. -/
def Rests (s : WiphyQueue ι N) : Prop :=
  match s.dispatcher with
  | .programs earliest => ∀ x ∈ s.nodes.pending, earliest.toNat ≤ x.due
  | .enters deadline => s.timer.active = true ∧ s.InTime deadline
  | _ => s.Armed

/-- Pending nodes are not forgotten. -/
def Awake (s : WiphyQueue ι N) : Prop := s.nodes.pending = [] ∨ s.Poked ∨ s.Rests

section Awake

variable {s s' : WiphyQueue ι N} {now : ℕ} {e : WiphyEvent ι N}

lemma InTime.subset {deadline : UInt64} (h : s.InTime deadline) (htimer : s'.timer = s.timer)
    (hpending : s'.nodes.pending ⊆ s.nodes.pending) : s'.InTime deadline := by
  intro x hx
  rw [htimer]
  exact h x (hpending hx)

lemma Rests.subset (h : s.Rests) (hdispatcher : s'.dispatcher = s.dispatcher)
    (htimer : s'.timer = s.timer) (hcall : s'.call = s.call)
    (hpending : s'.nodes.pending ⊆ s.nodes.pending) : s'.Rests := by
  have harmed : s.Armed → s'.Armed := by
    rintro ⟨hactive, p, deadline, hp, hdeadline, hin⟩
    exact ⟨by rw [htimer]; exact hactive, p, deadline, by rw [hcall]; exact hp, hdeadline,
      hin.subset htimer hpending⟩
  unfold Rests at h ⊢
  rw [hdispatcher]
  cases hphase : s.dispatcher with
  | programs earliest =>
    rw [hphase] at h
    exact fun x hx => h x (hpending hx)
  | enters deadline =>
    rw [hphase] at h
    dsimp only
    rw [htimer]
    exact ⟨h.1, h.2.subset htimer hpending⟩
  | idle | waits | loops _ _ | chosen _ | calls _ | unlocks _ | requeues _ | returns =>
    rw [hphase] at h
    exact harmed h

lemma timerComes_congr (hcall : s'.call = s.call) (htimer : s'.timer = s.timer)
    (htimerFn : s'.timerFn = s.timerFn) : s'.TimerComes = s.TimerComes := by
  rw [TimerComes, TimerComes, hcall, htimer, htimerFn]

/-- A step that at most takes nodes away. -/
lemma Awake.frame (h : s.Awake) (hwork : s'.work = s.work) (hdispatcher : s'.dispatcher = s.dispatcher)
    (htimer : s'.timer = s.timer) (hcall : s'.call = s.call) (htimerFn : s'.timerFn = s.timerFn)
    (hthreads : s'.threads = s.threads) (hclient : s.client = .queues → s'.client = .queues)
    (hpending : s'.nodes.pending ⊆ s.nodes.pending) : s'.Awake := by
  obtain hnil | hpoked | hrests := h
  · rw [hnil] at hpending
    exact .inl (List.subset_nil.mp hpending)
  · refine .inr (.inl ?_)
    rw [Poked, AboutToQueue, hwork, hdispatcher, hthreads, timerComes_congr hcall htimer htimerFn]
    exact hpoked.imp_right (.imp_right (.imp_right (.imp_right (.imp_left hclient))))
  · exact .inr (.inr (hrests.subset hdispatcher htimer hcall hpending))

lemma Awake.dispatches (h : s.Awake) (place : Dispatcher)
    (hscan : ScanAhead s.dispatcher = true → ScanAhead place = true ∨ QueuesItself place = true)
    (hagain : QueuesItself s.dispatcher = true → ScanAhead place = true ∨ QueuesItself place = true)
    (hrests : s.Rests → ({ s with dispatcher := place } : WiphyQueue ι N).Rests)
    (mutex : Option (Holder ι)) : ({ s with dispatcher := place, mutex := mutex } : WiphyQueue ι N).Awake := by
  obtain hnil | hpoked | hr := h
  · exact .inl hnil
  · refine .inr (.inl ?_)
    obtain hwork | hs | hq | habout := hpoked
    · exact .inl hwork
    · exact (hscan hs).elim (fun hp => .inr (.inl hp)) fun hp => .inr (.inr (.inl hp))
    · exact (hagain hq).elim (fun hp => .inr (.inl hp)) fun hp => .inr (.inr (.inl hp))
    · exact .inr (.inr (.inr habout))
  · exact .inr (.inr (hrests hr))

lemma look_rests {lags : List ℕ} (hstop : s.nodes.stopping = false) (hclock : s.clock ≤ lastMs)
    (hmade : ∀ x ∈ s.nodes.pending, x.Made s.clock ∧ x.Sane) (hnone : (s.look lags).2.1 = none) :
    (s.nodes.pending = [] ∧ (s.look lags).2.2 = none) ∨
      ∃ y, (s.look lags).2.2 = some y ∧ ∀ x ∈ s.nodes.pending, y.toNat ≤ x.due := by
  have hgo : ¬s.nodes.stopping = true := by rw [hstop]; exact Bool.false_ne_true
  rw [look, if_neg hgo] at hnone ⊢
  obtain hnil | ⟨y, hy, hall, -⟩ := scan_earliest hclock le_rfl lags _ none hmade
    (fun x hx => absurd hx.symm (Option.some_ne_none x)) hnone
  · exact .inl hnil
  · exact .inr ⟨y, hy, hall⟩

lemma awake_of_ahead (h : ScanAhead s.dispatcher = true ∨ QueuesItself s.dispatcher = true) : s.Awake :=
  .inr (.inl (h.elim (fun hp => .inr (.inl hp)) fun hp => .inr (.inr (.inl hp))))

/-- The timer is programmed for the earliest deadline. -/
lemma Awake.programs (h : s.Awake) (hclock : s.clock ≤ lastMs) {earliest : UInt64}
    (hphase : s.dispatcher = .programs earliest) :
    ({ s with
      timer := { active := true, expires := earliest, programmed := s.clock }
      dispatcher := .enters (callDeadline s.clock earliest) } : WiphyQueue ι N).Awake := by
  obtain hnil | hpoked | hrests := h
  · exact .inl hnil
  · refine .inr (.inl ?_)
    obtain hwork | hscan | hagain | hthread | hclient | htimer := hpoked
    · exact .inl hwork
    · rw [hphase] at hscan
      cases hscan
    · rw [hphase] at hagain
      cases hagain
    · exact .inr (.inr (.inr (.inl hthread)))
    · exact .inr (.inr (.inr (.inr (.inl hclient))))
    · -- a call that was coming still finds the timer active
      exact .inr (.inr (.inr (.inr (.inr (comes_active htimer)))))
  · refine .inr (.inr ⟨rfl, fun x hx => ?_⟩)
    grind [Rests, toNat_callDeadline_le]

lemma Awake.enters (h : s.Awake) (hcall : s.CallBooks) (hfree : s.call.canceling = 0)
    {deadline : UInt64} (hphase : s.dispatcher = .enters deadline) :
    ({ s with call := (s.call.enter now deadline true).2, dispatcher := .unlocks false } :
      WiphyQueue ι N).Awake := by
  obtain ⟨p, outstanding, heq, hdeadline⟩ := enter_eq hcall.retired hfree now deadline
  rw [heq]
  obtain hnil | hpoked | hrests := h
  · exact .inl hnil
  · refine .inr (.inl ?_)
    obtain hwork | hscan | hagain | habout := hpoked
    · exact .inl hwork
    · rw [hphase] at hscan
      cases hscan
    · rw [hphase] at hagain
      cases hagain
    · exact .inr (.inr (.inr habout))
  · rw [Rests, hphase] at hrests
    exact .inr (.inr ⟨hrests.1, p, deadline, rfl, hdeadline, hrests.2⟩)

lemma Awake.fire (h : s.Awake) :
    ({ s with call.threadCall := s.call.threadCall.start } : WiphyQueue ι N).Awake := by
  cases hpending : s.call.threadCall.pending with
  | none =>
    have hsame : s.call.threadCall.start = s.call.threadCall := by
      rw [ThreadCall.start, hpending]
    rw [hsame]
    exact h
  | some p =>
    cases hrunning : s.call.threadCall.running with
    | some r =>
      have hsame : s.call.threadCall.start = s.call.threadCall := by
        rw [ThreadCall.start, hpending, hrunning]
      rw [hsame]
      exact h
    | none =>
      have hstart : s.call.threadCall.start = { pending := none, running := some ⟨p.entered, .begun⟩ } := by
        rw [ThreadCall.start, hpending, hrunning]
      have hno : s.TimerComes = false := by
        rw [TimerComes, hrunning]
        rfl
      rw [hstart]
      obtain hnil | hpoked | hrests := h
      · exact .inl hnil
      · refine .inr (.inl ?_)
        obtain hwork | hscan | hagain | hthread | hclient | htimer := hpoked
        · exact .inl hwork
        · exact .inr (.inl hscan)
        · exact .inr (.inr (.inl hagain))
        · exact .inr (.inr (.inr (.inl hthread)))
        · exact .inr (.inr (.inr (.inr (.inl hclient))))
        · cases hno.symm.trans htimer
      · unfold Rests at hrests
        cases hphase : s.dispatcher with
        | programs earliest =>
          rw [hphase] at hrests
          exact .inr (.inr hrests)
        | enters deadline =>
          rw [hphase] at hrests
          exact .inr (.inr hrests)
        | idle | waits | loops _ _ | chosen _ | calls _ | unlocks _ | requeues _ | returns =>
          rw [hphase] at hrests
          exact .inr (.inl (.inr (.inr (.inr (.inr (.inr hrests.1))))))

lemma Awake.goesOn (h : s.Awake) {call : ManagedCall Unit} {timerFn : TimerFn}
    (hpending : call.threadCall.pending = s.call.threadCall.pending)
    (hcomes : s.TimerComes = true →
      comes (call.threadCall.running.map RunningCall.stage) timerFn s.timer.active = true) :
    ({ s with call := call, timerFn := timerFn } : WiphyQueue ι N).Awake := by
  obtain hnil | hpoked | hrests := h
  · exact .inl hnil
  · exact .inr (.inl (hpoked.imp_right (.imp_right (.imp_right (.imp_right (.imp_right hcomes))))))
  · refine .inr (.inr ?_)
    unfold Rests at hrests ⊢
    cases hphase : s.dispatcher with
    | programs earliest =>
      rw [hphase] at hrests
      exact hrests
    | enters deadline =>
      rw [hphase] at hrests
      exact hrests
    | idle | waits | loops _ _ | chosen _ | calls _ | unlocks _ | requeues _ | returns =>
      rw [hphase] at hrests
      obtain ⟨hactive, p, deadline, hp, hdeadline, hin⟩ := hrests
      exact ⟨hactive, p, deadline, hpending.trans hp, hdeadline, hin⟩

/-- The timer's call queues the dispatcher. -/
lemma Awake.trampoline (h : s.Awake) (hcall : s.CallBooks) (hfree : s.call.canceling = 0)
    (hwork : s.work.canceling = 0) : s.trampoline.Awake := by
  obtain ⟨-, -, -, hpending, -⟩ := call_trampoline_frame s.call
  unfold WiphyQueue.trampoline
  cases hrunning : s.call.threadCall.running with
  | none =>
    refine h.goesOn hpending fun hcomes => ?_
    rw [TimerComes, hrunning] at hcomes
    cases hcomes
  | some r =>
    cases hstage : r.stage with
    | begun =>
      -- the call executes, as it was not cancelled
      have hnext : s.call.trampoline.threadCall.running = some { r with stage := .executing } := by
        simp only [ManagedCall.trampoline, hrunning, hstage, hfree, hcall.retired]
        rfl
      simp only [Option.map_some, hstage]
      refine h.goesOn hpending fun hcomes => ?_
      rw [TimerComes, hrunning, Option.map_some, hstage] at hcomes
      rw [hnext]
      exact hcomes
    | executing =>
      simp only [Option.map_some, hstage]
      cases hfn : s.timerFn with
      | checks =>
        refine h.goesOn rfl fun hcomes => ?_
        rw [TimerComes, hrunning, Option.map_some, hstage, hfn] at hcomes
        have hactive : s.timer.active = true := hcomes
        rw [hrunning, Option.map_some, hstage, hactive]
        rfl
      | clears =>
        refine .inr (.inl (.inr (.inr (.inr (.inr (.inr ?_))))))
        rw [TimerComes]
        rw [hrunning, Option.map_some, hstage]
        rfl
      | queues => exact .inr (.inl (.inl (queueWork_pending hwork)))
      | returns =>
        refine h.goesOn hpending fun hcomes => ?_
        rw [TimerComes, hrunning, Option.map_some, hstage, hfn] at hcomes
        cases hcomes
    | leaving =>
      simp only [Option.map_some, hstage]
      refine h.goesOn hpending fun hcomes => ?_
      rw [TimerComes, hrunning, Option.map_some, hstage] at hcomes
      cases hcomes

/-- A dispatcher that comes to the head of its loop without budget has called a function. -/
def Spent (s : WiphyQueue ι N) : Prop := ∀ again, s.dispatcher = .loops 0 again → again = true

lemma Queues.sane {x : Entry N} (h : Queues e x.node x.delay) (hsane : e.delay.toNat ≤ 2 ^ 63) :
    x.Sane := by
  obtain rfl | ⟨i, rfl⟩ := h <;> exact hsane

/-- A thread or the dispatcher holds the mutex. -/
def Held (s : WiphyQueue ι N) : Prop :=
  (∃ i, s.mutex = some (.thread i)) ∨ s.mutex = some .dispatcher

lemma held_of_not_free {s : WiphyQueue ι N} (h : ¬(s.mutex = none ∨ s.mutex = some .shutdown)) :
    s.Held := by
  cases hmutex : s.mutex with
  | none => exact absurd (.inl hmutex) h
  | some holder =>
    cases holder with
    | dispatcher => exact .inr hmutex
    | thread i => exact .inl ⟨i, hmutex⟩
    | shutdown => exact absurd (.inr hmutex) h

/-- The events of a list, and then none. -/
def scripted (l : List (WiphyEvent (Fin 1) (Fin 65))) : ℕ → WiphyEvent (Fin 1) (Fin 65) := fun n =>
  l.getD n (.tick 0)

variable [DecidableEq N] [Fintype ι]

/-- Before it stops the list, the shutdown touches nothing. -/
lemma Awake.shutdownStep (h : s.Awake) (hearly : ¬3 ≤ rank s.shutdownStep.shutdown) :
    s.shutdownStep.Awake := by
  unfold WiphyQueue.shutdownStep at hearly ⊢
  cases hphase : s.shutdown with
  | outside | locks =>
    grind [h.frame]
  | stops | unlocks | clears | cancels | raises | lowers =>
    rw [hphase] at hearly
    exact absurd (by simp [rank]) hearly
  | loads | removes =>
    grind [rank]
  | awaitsTimer | awaitsWork =>
    refine absurd ?_ hearly
    split_ifs <;> simp [rank, hphase]
  | returned =>
    omega

variable [DecidableEq ι]

lemma Awake.plain (h : s.Awake) (hfree : s.work.canceling = 0) (hplain : Plain e = true) :
    (s.step now e).Awake := by
  cases e with
  | worker _ | fire | trampoline | shutdown => cases hplain
  | tick lag => exact h.frame rfl rfl rfl rfl rfl rfl id (List.Subset.refl _)
  | lock _ | clientFree _ | callbackReturns =>
    simp only [WiphyQueue.step]
    grind [h.frame]
  | unlock =>
    simp only [WiphyQueue.step]
    split
    · grind [h.frame]
    · exact h
  | queue i w delay =>
    simp only [WiphyQueue.step]
    split_ifs
    · -- the thread that has linked a node is about to queue the dispatcher
      exact .inr (.inl (.inr (.inr (.inr (.inl ⟨i, Function.update_self i _ _⟩)))))
    · exact h
  | clientQueue w delay =>
    simp only [WiphyQueue.step]
    split_ifs
    · exact .inr (.inl (.inr (.inr (.inr (.inr (.inl rfl))))))
    · exact h
  | step i =>
    simp only [WiphyQueue.step]
    split_ifs
    · exact .inr (.inl (.inl (queueWork_pending hfree)))
    · exact h
  | clientCancel w =>
    simp only [WiphyQueue.step]
    split_ifs
    · refine h.frame rfl rfl rfl rfl rfl rfl id ?_
      unfold Nodes.cancel
      split_ifs
      · exact List.eraseP_sublist.subset
      · exact List.Subset.refl _
    · exact h
  | clientFlush w =>
    simp only [WiphyQueue.step]
    by_cases hacts : s.Acts
    · rw [if_pos hacts]
      refine h.frame rfl rfl rfl rfl rfl rfl (fun hqueues => ?_) ?_
      · rw [hacts.1] at hqueues
        cases hqueues
      · dsimp only
        unfold Nodes.flush Nodes.cancel
        split_ifs
        · exact List.eraseP_sublist.subset
        · exact List.eraseP_sublist.subset
        · exact List.Subset.refl _
    · rw [if_neg hacts]
      exact h
  | clientStep =>
    simp only [WiphyQueue.step]
    cases hclient : s.client with
    | acts => exact h
    | queues => exact .inr (.inl (.inl (queueWork_pending hfree)))
    | flushes =>
      grind [h.frame, Nodes.start]

lemma ahead_of_budget (budget : ℕ) : (budget != 0) = true ∨ (budget == 0) = true := by
  grind

omit [DecidableEq ι] [Fintype ι] in
lemma awake_search {lags : List ℕ} {budget : ℕ} (hstop : s.nodes.stopping = false)
    (hclock : s.clock ≤ lastMs) (hmade : ∀ x ∈ s.nodes.pending, x.Made s.clock ∧ x.Sane) :
    (s.search lags budget).Awake := by
  obtain ⟨x, -, heq⟩ | ⟨earliest, hnone, hearliest, heq⟩ | ⟨hnone, hearliest, heq⟩ :=
    search_cases s lags budget
  · rw [heq]
    exact awake_of_ahead (ahead_of_budget budget)
  · rw [heq]
    obtain ⟨hnil, -⟩ | ⟨y, hy, hall⟩ := look_rests hstop hclock hmade hnone
    · exact .inl hnil
    · obtain rfl := Option.some.inj (hy.symm.trans hearliest)
      exact .inr (.inr hall)
  · rw [heq]
    obtain ⟨hnil, -⟩ | ⟨y, hy, -⟩ := look_rests hstop hclock hmade hnone
    · exact .inl hnil
    · cases hy.symm.trans hearliest

omit [DecidableEq ι] [Fintype ι] in
/-- The dispatcher leaves its loop with the timer programmed for what is pending. -/
lemma Awake.workerStep (h : s.Awake) (hstop : s.nodes.stopping = false) (hclock : s.clock ≤ lastMs)
    (hmade : ∀ x ∈ s.nodes.pending, x.Made s.clock ∧ x.Sane) (hcall : s.CallBooks)
    (hfree : s.call.canceling = 0) (hwork : s.work.canceling = 0)
    (hagain : ∀ again, s.dispatcher = .loops 0 again → again = true) (lags : List ℕ) :
    (s.workerStep now lags).Awake := by
  unfold WiphyQueue.workerStep
  cases hphase : s.dispatcher with
  | idle =>
    dsimp only
    split_ifs
    · exact awake_of_ahead (.inl rfl)
    · exact h
  | waits =>
    dsimp only
    split_ifs
    · exact awake_of_ahead (.inl rfl)
    · exact h
  | loops budget again =>
    cases budget with
    | zero =>
      obtain rfl := hagain again hphase
      exact awake_of_ahead (.inr rfl)
    | succ budget => exact awake_search hstop hclock hmade
  | chosen budget => exact awake_of_ahead (ahead_of_budget budget)
  | calls budget =>
    dsimp only
    split_ifs
    · refine awake_of_ahead ((ahead_of_budget budget).imp_right fun hzero => ?_)
      rw [QueuesItself, hzero, Bool.and_true]
    · exact h
  | programs earliest => exact h.programs hclock hphase
  | enters deadline => exact h.enters hcall hfree hphase
  | unlocks again =>
    exact h.dispatches (.requeues again) (by simp [hphase, ScanAhead])
      (fun hq => .inr (by rw [hphase] at hq; exact hq))
      (fun hr => by rw [Rests, hphase] at hr; exact hr) none
  | requeues again =>
    cases again with
    | true => exact .inr (.inl (.inl (queueWork_pending hwork)))
    | false =>
      exact h.dispatches .returns (by simp [hphase, ScanAhead]) (by simp [hphase, QueuesItself])
        (fun hr => by rw [Rests, hphase] at hr; exact hr) s.mutex
  | returns =>
    exact h.dispatches .idle (by simp [hphase, ScanAhead]) (by simp [hphase, QueuesItself])
      (fun hr => by rw [Rests, hphase] at hr; exact hr) s.mutex

lemma Spent.step (h : s.Spent) (e : WiphyEvent ι N) : (s.step now e).Spent := by
  by_cases hworker : ∃ lags, e = .worker lags
  · obtain ⟨lags, rfl⟩ := hworker
    intro again hagain
    have hstep : (s.workerStep now lags).dispatcher = .loops 0 again := hagain
    unfold workerStep at hstep
    cases hphase : s.dispatcher with
    | loops budget again' =>
      rw [hphase] at hstep
      cases budget with
      | zero => cases hstep
      | succ budget =>
        obtain ⟨x, -, heq⟩ | ⟨y, -, -, heq⟩ | ⟨-, -, heq⟩ := search_cases s lags budget
        all_goals
          grind
    | calls budget =>
      grind
    | waits =>
      grind
    | idle =>
      grind
    | chosen _ | programs _ | enters _ | unlocks _ | requeues _ | returns =>
      rw [hphase] at hstep
      cases hstep
  · intro again hagain
    rw [dispatcher_step fun lags hlags => hworker ⟨lags, hlags⟩] at hagain
    exact h again hagain

lemma spent_history (σ : ℕ → WiphyEvent ι N) (n : ℕ) : (history σ n).Spent := by
  induction n with
  | zero => exact fun again hagain => absurd hagain (by simp [history])
  | succ n ih => exact ih.step (σ n)

/-- The shutdown does not go back. -/
lemma rank_le_step (s : WiphyQueue ι N) (now : ℕ) (e : WiphyEvent ι N) :
    rank s.shutdown ≤ rank (s.step now e).shutdown := by
  by_cases hne : e = .shutdown
  · subst hne
    simp only [step, shutdownStep]
    cases hphase : s.shutdown with
    | outside | locks | awaitsTimer | awaitsWork =>
      split_ifs <;> simp [rank, hphase]
    | loads | removes =>
      split_ifs <;> simp [rank]
    | stops | unlocks | clears | cancels | raises | lowers | returned => simp [rank, hphase]
  · rw [shutdown_step hne]

/-- While the list is not stopped, pending nodes are not forgotten. -/
lemma awake_history {σ : ℕ → WiphyEvent ι N} (hsane : ∀ n, (σ n).delay.toNat ≤ 2 ^ 63) (n : ℕ)
    (hstop : (history σ n).nodes.stopping = false) : (history σ n).Awake := by
  induction n with
  | zero => exact .inl rfl
  | succ n ih =>
    have hearly : ¬3 ≤ rank (history σ (n + 1)).shutdown := fun hrank =>
      Bool.false_ne_true (hstop.symm.trans ((stopped_history σ (n + 1)).stopping.2 hrank))
    have hrank : ¬3 ≤ rank (history σ n).shutdown := fun hrank =>
      hearly (hrank.trans (rank_le_step (history σ n) n (σ n)))
    have hwas : (history σ n).nodes.stopping = false := by
      rw [← Bool.not_eq_true, (stopped_history σ n).stopping]
      exact hrank
    have hawake := ih hwas
    have hcall := callBooks_history σ n
    have hfree := (hcall.free (by omega)).1
    have hwork : (history σ n).work.canceling = 0 := by
      rw [(workBooks_history σ n).canceling, if_neg (by omega)]
    show ((history σ n).step n (σ n)).Awake
    have hearly' : ¬3 ≤ rank ((history σ n).step n (σ n)).shutdown := hearly
    cases he : σ n with
    | worker lags =>
      refine hawake.workerStep hwas (clock_history σ n) (fun x hx => ?_) hcall hfree hwork
        (spent_history σ n) lags
      obtain ⟨hmade, hqueues⟩ := (timely_history σ n).made x (List.mem_append_left _ hx)
      exact ⟨hmade, hqueues.sane (hsane x.ticket)⟩
    | fire => exact hawake.fire
    | trampoline => exact hawake.trampoline hcall hfree hwork
    | shutdown =>
      rw [he] at hearly'
      exact hawake.shutdownStep hearly'
    | tick _ | queue _ _ _ | step _ | lock _ | unlock | clientQueue _ _ | clientCancel _
    | clientFlush _ | clientFree _ | clientStep | callbackReturns => exact hawake.plain hwork rfl

/-- In every interleaving a node's function is called at most once for each queueing, by a holder of
the mutex and, unless a flush calls it, not before it is due, for delays up to half the range of `jiffies`. After
a cancel it is not called for an earlier queueing. While the queue is not stopping and delays are in that
range, a pending node has a dispatcher's run queued, or one with its last scan or the timer's
programming ahead or that will queue itself again, or somebody about to queue one, or the timer armed
in time. After the shutdown nothing runs, and neither the timer's call nor the dispatcher is queued or
running. -/
theorem wiphy_work_runs (σ : ℕ → WiphyEvent ι N) :
    (∀ n, ((history σ n).nodes.runs.map fun r => r.entry.ticket).Nodup ∧
      (∀ r ∈ (history σ n).nodes.runs, Queues (σ r.entry.ticket) r.entry.node r.entry.delay ∧
        (r.flushed = false → r.entry.delay.toNat ≤ 2 ^ 63 → r.entry.due ≤ r.started)) ∧
      ((history σ n).callbacks ≠ [] → (history σ n).Held) ∧
      ((history σ (n + 1)).nodes.runs ≠ (history σ n).nodes.runs → (history σ n).Held)) ∧
    (∀ n w, σ n = .clientCancel w → (history σ n).Acts → ∀ m, n < m →
      ∀ r ∈ (history σ m).nodes.runs, r ∉ (history σ n).nodes.runs → r.entry.node = w →
        n < r.entry.ticket) ∧
    ((∀ n, (σ n).delay.toNat ≤ 2 ^ 63) → ∀ n, (history σ n).nodes.stopping = false →
      (history σ n).nodes.pending ≠ [] →
      (history σ n).work.pending = true ∨
      (ScanAhead (history σ n).dispatcher = true ∨
        (∃ earliest, (history σ n).dispatcher = .programs earliest) ∨
        ∃ deadline, (history σ n).dispatcher = .enters deadline) ∨
      QueuesItself (history σ n).dispatcher = true ∨
      (history σ n).AboutToQueue ∨ (history σ n).Armed) ∧
    (∀ n, (history σ n).shutdown = .returned → ∀ m, n ≤ m →
      (history σ m).nodes.runs = (history σ n).nodes.runs ∧ (history σ m).callbacks = [] ∧
      (history σ m).call.threadCall = {} ∧ (history σ m).work.pending = false ∧
      (history σ m).dispatcher = .idle) := by
  refine ⟨fun n => ⟨?_, (timely_history σ n).runs, fun hne => ?_, fun hne => ?_⟩,
    fun n w hcancel hacts m hm => (later_of_cancel σ hcancel hacts hm).2,
    fun hsane n hstop hpending => ?_, fun n hreturned m hm => ?_⟩
  · have hdistinct := (books_history σ n).distinct
    rw [Nodes.tickets, List.append_assoc] at hdistinct
    exact (List.nodup_append.mp (List.nodup_append.mp hdistinct).2.1).1
  · exact held_of_not_free fun hfree => hne ((control_history σ n).outside_of_free hfree).1
  · -- whoever starts a function has a node in hand, and so the mutex
    refine held_of_not_free fun hfree => ?_
    obtain ⟨-, hclient, hlocked⟩ := (control_history σ n).outside_of_free hfree
    obtain hsame | ⟨x, flushed, -, -, ⟨-, hflushes⟩ | ⟨-, b, hchosen⟩⟩ :=
      (nodes_step (history σ n) n (σ n)).runs
    · exact hne hsame
    · rw [hclient] at hflushes
      cases hflushes
    · exact hlocked (by rw [hchosen]; trivial)
  · obtain hnil | hpoked | hrests := awake_history hsane n hstop
    · exact absurd hnil hpending
    · obtain hwork | hscan | hagain | habout := hpoked
      · exact .inl hwork
      · exact .inr (.inl (.inl hscan))
      · exact .inr (.inr (.inl hagain))
      · exact .inr (.inr (.inr (.inl habout)))
    · unfold Rests at hrests
      cases hphase : (history σ n).dispatcher with
      | programs earliest => exact .inr (.inl (.inr (.inl ⟨earliest, rfl⟩)))
      | enters deadline => exact .inr (.inl (.inr (.inr ⟨deadline, rfl⟩)))
      | idle | waits | loops _ _ | chosen _ | calls _ | unlocks _ | requeues _ | returns =>
        rw [hphase] at hrests
        exact .inr (.inr (.inr (.inr hrests)))
  · obtain ⟨hphase, hruns⟩ := quiet_of_returned σ hreturned hm
    have hdrained := (stopped_history σ m).drained (by simp [hphase, rank])
    exact ⟨hruns, hdrained.callbacks, (callBooks_history σ m).stopped (by simp [hphase, rank]),
      (workBooks_history σ m).removed (by simp [hphase, rank]),
      (workBooks_history σ m).idle (by simp [hphase, rank])⟩

/-- One node more is queued than the dispatcher's budget; it calls as many as it may. -/
def crowd : List (WiphyEvent (Fin 1) (Fin 65)) :=
  (List.finRange 65).flatMap (fun w => [.queue (Fin.last 0) w 0, .step (Fin.last 0)]) ++ [.worker [], .worker []] ++
    (List.replicate 64 [.worker [], .worker [], .callbackReturns, .worker []]).flatten ++ [.worker []]

/-- A node is queued with more than half the range for its delay. -/
def hasty : List (WiphyEvent (Fin 1) (Fin 65)) :=
  [.queue (Fin.last 0) 0 0x8000000000000001, .step (Fin.last 0), .worker [], .worker [], .worker [], .worker []]

/-- A dispatcher that has used up its budget has no scan and no programming of the timer ahead, and
nobody else is about to queue it, until it queues itself. A delay of more than half the range has
passed at once. -/
theorem wiphy_work_gap :
    ((history (scripted crowd) 389).nodes.stopping = false ∧
      (history (scripted crowd) 389).nodes.pending ≠ [] ∧
      (history (scripted crowd) 389).work.pending = false ∧
      (history (scripted crowd) 389).dispatcher = .unlocks true ∧
      ¬(history (scripted crowd) 389).AboutToQueue ∧ ¬(history (scripted crowd) 389).Armed) ∧
    ∃ r ∈ (history (scripted hasty) 6).nodes.runs, r.flushed = false ∧ r.started < r.entry.due := by
  have hcrowd : (history (scripted crowd) 389).nodes.stopping = false ∧
      (history (scripted crowd) 389).nodes.pending ≠ [] ∧
      (history (scripted crowd) 389).work.pending = false ∧
      (history (scripted crowd) 389).dispatcher = .unlocks true ∧
      (∀ i, (history (scripted crowd) 389).threads i = false) ∧
      (history (scripted crowd) 389).client = .acts ∧
      (history (scripted crowd) 389).TimerComes = false ∧
      (history (scripted crowd) 389).timer.active = false := by decide +kernel
  have hhasty : ∃ r ∈ (history (scripted hasty) 6).nodes.runs,
      r.flushed = false ∧ r.started < r.entry.due := by decide +kernel
  generalize history (scripted crowd) 389 = s at hcrowd ⊢
  obtain ⟨hstopping, hpending, hwork, hdispatcher, hthreads, hclient, htimer, hactive⟩ := hcrowd
  refine ⟨⟨hstopping, hpending, hwork, hdispatcher, ?_, ?_⟩, hhasty⟩
  · rintro (⟨i, hi⟩ | hqueues | hcomes)
    · exact Bool.false_ne_true ((hthreads i).symm.trans hi)
    · rw [hclient] at hqueues
      cases hqueues
    · exact Bool.false_ne_true (htimer.symm.trans hcomes)
  · rintro ⟨harmed, -⟩
    exact Bool.false_ne_true (hactive.symm.trans harmed)

end Awake

end WiphyQueue

end AirportAwdl.Compat
