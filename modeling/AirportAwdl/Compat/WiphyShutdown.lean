import AirportAwdl.Compat.WiphyBooks

/-!
# Wiphy work: the shutdown

What the shutdown has stopped so far, by how far it has come: the nodes and all who could queue or call
one (`Stopped`), the timer's thread call (`CallBooks`), and the dispatcher's item (`WorkBooks`). When it
returns, nothing is left.
-/

namespace AirportAwdl.Compat

open Hal

variable {ι N : Type}

namespace WiphyQueue

/-- How far the shutdown has come. -/
def rank : Shutdown → ℕ
  | .outside => 0
  | .locks => 1
  | .stops => 2
  | .unlocks => 3
  | .clears => 4
  | .cancels => 5
  | .awaitsTimer => 6
  | .raises => 7
  | .loads => 8
  | .removes => 9
  | .awaitsWork => 10
  | .lowers => 11
  | .returned => 12

/-- The dispatcher has no node and does not touch the timer. -/
def Harmless : Dispatcher → Prop
  | .chosen _ | .calls _ | .programs _ | .enters _ => False
  | .idle | .waits | .loops _ _ | .unlocks _ | .requeues _ | .returns => True

/-- Nothing is left to be called, and nobody is left who could change that. -/
structure Drained (s : WiphyQueue ι N) : Prop where
  pending : s.nodes.pending = []
  hand : s.nodes.hand = none
  callbacks : s.callbacks = []
  client : s.client = .acts
  mutex : ∀ i, s.mutex ≠ some (.thread i)
  dispatcher : Harmless s.dispatcher

/-- What the shutdown has stopped of the nodes. -/
structure Stopped (s : WiphyQueue ι N) : Prop where
  stopping : s.nodes.stopping = true ↔ 3 ≤ rank s.shutdown
  still : 1 ≤ rank s.shutdown → ∀ i, s.threads i = false
  drained : 3 ≤ rank s.shutdown → s.Drained

section Stopped

variable {s s' : WiphyQueue ι N} {now : ℕ} {e : WiphyEvent ι N}

lemma Drained.not_inside (h : s.Drained) : ¬s.inside = true := by
  intro hin
  obtain ⟨i, hi⟩ | ⟨-, hne⟩ := inside_iff.mp hin
  · exact h.mutex i hi
  · exact hne h.callbacks

lemma Drained.not_acts (h : s.Drained) : ¬s.Acts := fun hacts => h.not_inside hacts.2

/-- What the shutdown has stopped of the timer's call. -/
structure CallBooks (s : WiphyQueue ι N) : Prop where
  retired : s.call.retired = false
  counted : s.call.Counted
  waiting : rank s.shutdown = 6 →
    s.call.canceling = 1 ∧ ∃ removed, s.call.threads () = .canceling true false removed
  free : rank s.shutdown ≠ 6 → s.call.canceling = 0 ∧ ∃ result, s.call.threads () = .outside result
  stopped : 7 ≤ rank s.shutdown → s.call.threadCall = {}

variable [DecidableEq N]

lemma NodeMoves.stopping {l : Nodes N} (hm : NodeMoves now e s l) (hne : e ≠ .shutdown) :
    l.stopping = s.nodes.stopping := by
  have hcancel : ∀ w, (s.nodes.cancel w).stopping = s.nodes.stopping := by
    intro w
    unfold Nodes.cancel
    split_ifs <;> rfl
  have hstart : ∀ flushed, (s.nodes.start s.clock flushed).stopping = s.nodes.stopping := by
    intro flushed
    unfold Nodes.start
    split <;> rfl
  cases hm with
  | same => rfl
  | accept w delay he hfreed =>
    unfold Nodes.accept
    split_ifs <;> rfl
  | cancel w he hacts => exact hcancel w
  | flush w hacts =>
    unfold Nodes.flush
    split_ifs
    · rfl
    · exact hcancel w
  | free w hacts hidle => rfl
  | take y lags budget again hphase hlook => rfl
  | start budget hphase => exact hstart false
  | startFlushed hphase => exact hstart true
  | drain he hphase => exact absurd he hne

lemma NodeMoves.drained {l : Nodes N} (hm : NodeMoves now e s l) (h : s.Drained)
    (hstopping : s.nodes.stopping = true) (hclock : s.clock ≤ lastMs) :
    l.pending = [] ∧ l.hand = none := by
  have hstart : ∀ flushed, s.nodes.start s.clock flushed = s.nodes := by
    intro flushed
    unfold Nodes.start
    rw [h.hand]
  cases hm with
  | same => exact ⟨h.pending, h.hand⟩
  | accept w delay he hfreed =>
    unfold Nodes.accept
    rw [hstopping]
    exact ⟨h.pending, h.hand⟩
  | cancel w he hacts => exact absurd hacts h.not_acts
  | flush w hacts => exact absurd hacts h.not_acts
  | free w hacts hidle => exact absurd hacts h.not_acts
  | take x lags budget again hphase hlook =>
    have hmem := (mem_of_look hclock hlook).1
    rw [h.pending] at hmem
    exact absurd hmem List.not_mem_nil
  | start budget hphase =>
    rw [hstart]
    exact ⟨h.pending, h.hand⟩
  | startFlushed hphase =>
    rw [hstart]
    exact ⟨h.pending, h.hand⟩
  | drain he hphase => exact ⟨rfl, h.hand⟩

lemma Drained.workerStep (h : s.Drained) (hstopping : s.nodes.stopping = true)
    (hclock : s.clock ≤ lastMs) (lags : List ℕ) : (s.workerStep now lags).Drained := by
  obtain ⟨hpending, hhand⟩ := (nodes_workerStep s now (.worker lags) lags).drained h hstopping hclock
  have hrest : (s.workerStep now lags).callbacks = [] ∧ (s.workerStep now lags).client = .acts ∧
      (∀ i, (s.workerStep now lags).mutex ≠ some (.thread i)) ∧
      Harmless (s.workerStep now lags).dispatcher := by
    have hharmless := h.dispatcher
    unfold WiphyQueue.workerStep
    cases hphase : s.dispatcher with
    | idle =>
      dsimp only
      split_ifs
      · exact ⟨h.callbacks, h.client, h.mutex, trivial⟩
      · exact ⟨h.callbacks, h.client, h.mutex, hharmless⟩
    | waits =>
      dsimp only
      split_ifs
      · exact ⟨h.callbacks, h.client, fun i heq => absurd heq (by simp), trivial⟩
      · exact ⟨h.callbacks, h.client, h.mutex, hharmless⟩
    | loops budget again =>
      cases budget with
      | zero => exact ⟨h.callbacks, h.client, h.mutex, trivial⟩
      | succ budget =>
        -- a list that is stopped shows the dispatcher nothing
        have hlook : s.look lags = (s.clock, none, none) := by rw [look, if_pos hstopping]
        dsimp only
        rw [search, hlook]
        exact ⟨h.callbacks, h.client, h.mutex, trivial⟩
    | chosen _ | calls _ | programs _ | enters _ =>
      rw [hphase] at hharmless
      exact hharmless.elim
    | unlocks again => exact ⟨h.callbacks, h.client, fun i heq => absurd heq (by simp), trivial⟩
    | requeues _ | returns => exact ⟨h.callbacks, h.client, h.mutex, trivial⟩
  exact ⟨hpending, hhand, hrest.1, hrest.2.1, hrest.2.2.1, hrest.2.2.2⟩

lemma Control.drained (hc : s.Control) (hphase : s.shutdown = .stops) :
    ({ s with nodes := s.nodes.drain, shutdown := .unlocks } : WiphyQueue ι N).Drained := by
  have hmutex := hc.shutdown.2 (.inl hphase)
  obtain ⟨hcallbacks, hclient, hlocked⟩ := hc.outside_of_free (.inr hmutex)
  refine ⟨rfl, ?_, hcallbacks, hclient, fun i => ?_, ?_⟩
  · by_contra hsome
    obtain hflushes | ⟨b, hb⟩ := hc.hand (Option.isSome_iff_ne_none.mpr hsome)
    · rw [hclient] at hflushes
      exact absurd hflushes (by simp)
    · exact hlocked (by rw [hb]; trivial)
  · show s.mutex ≠ _
    rw [hmutex]
    simp
  · show Harmless s.dispatcher
    cases hd : s.dispatcher with
    | chosen _ | calls _ | programs _ | enters _ => exact hlocked (by rw [hd]; trivial)
    | idle | waits | loops _ _ | unlocks _ | requeues _ | returns => trivial

variable [Fintype ι]

lemma Stopped.shutdownStep (h : s.Stopped) (hc : s.Control) : s.shutdownStep.Stopped := by
  have hstopping := h.stopping
  have hstill := h.still
  have hdrained := h.drained
  -- from here on the shutdown leaves the nodes alone
  have hgoes : ∀ (place : Shutdown) (work : WorkItem) (timer : WiphyTimer) (call : ManagedCall Unit),
      3 ≤ rank s.shutdown → 3 ≤ rank place →
      ({ s with work := work, timer := timer, call := call, shutdown := place } :
        WiphyQueue ι N).Stopped := by
    intro place work timer call hwas hplace
    have hd := hdrained hwas
    exact ⟨⟨fun _ => hplace, fun _ => hstopping.2 hwas⟩, fun _ => hstill (by omega), fun _ =>
      ⟨hd.pending, hd.hand, hd.callbacks, hd.client, hd.mutex, hd.dispatcher⟩⟩
  unfold WiphyQueue.shutdownStep
  cases hphase : s.shutdown with
  | outside =>
    rw [hphase] at hstopping
    dsimp only
    split_ifs with hthreads
    · exact ⟨hstopping.trans (by simp [rank]), fun _ => hthreads, fun hrank => absurd hrank (by simp [rank])⟩
    · exact h
  | locks =>
    rw [hphase] at hstopping hstill
    dsimp only
    split_ifs
    · exact ⟨hstopping.trans (by simp [rank]), fun _ => hstill (by simp [rank]),
        fun hrank => absurd hrank (by simp [rank])⟩
    · exact h
  | stops =>
    rw [hphase] at hstill
    exact ⟨⟨fun _ => by simp [rank], fun _ => rfl⟩, fun _ => hstill (by simp [rank]),
      fun _ => hc.drained hphase⟩
  | unlocks =>
    have hd := hdrained (by simp [hphase, rank])
    exact ⟨⟨fun _ => by simp [rank], fun _ => hstopping.2 (by simp [hphase, rank])⟩,
      fun _ => hstill (by simp [hphase, rank]), fun _ =>
      ⟨hd.pending, hd.hand, hd.callbacks, hd.client, fun i heq => absurd heq (by simp), hd.dispatcher⟩⟩
  | clears | cancels | raises | lowers =>
    exact hgoes _ _ _ _ (by simp [hphase, rank]) (by simp [rank])
  | loads | removes =>
    grind [rank]
  | awaitsTimer | awaitsWork =>
    grind [rank]
  | returned => exact h

variable [DecidableEq ι]

/-- Only the shutdown itself goes on. -/
lemma shutdown_step (hne : e ≠ .shutdown) : (s.step now e).shutdown = s.shutdown := by
  cases e with
  | shutdown => exact absurd rfl hne
  | fire => rfl
  | trampoline => exact (trampoline_frame s).1
  | worker lags => exact (workerStep_frame s now lags).1
  | tick _ | queue _ _ _ | step _ | lock _ | unlock | clientQueue _ _ | clientCancel _
  | clientFlush _ | clientFree _ | clientStep | callbackReturns => exact (plain_step s now rfl).1

/-- Threads call `rtw89_wiphy_queue` before the shutdown only. -/
lemma threads_step (houtside : s.shutdown ≠ .outside) (i : ι) (h : (s.step now e).threads i = true) :
    s.threads i = true := by
  cases e with
  | queue j w delay =>
    grind [step]
  | step j =>
    simp only [step] at h
    split_ifs at h
    · grind
    · exact h
  | tick _ | fire => exact h
  | lock _ | clientQueue _ _ | clientCancel _ | clientFlush _ | clientFree _ | callbackReturns =>
    simp only [step] at h
    split_ifs at h <;> exact h
  | unlock =>
    grind [step]
  | clientStep =>
    simp only [step] at h
    split at h <;> exact h
  | trampoline => exact (trampoline_frame s).2.2.1 ▸ h
  | worker lags => exact (workerStep_frame s now lags).2.1 ▸ h
  | shutdown => exact (shutdownStep_frame s).2.1 ▸ h

/-- What was drained stays so. -/
lemma Drained.step (h : s.Drained) (hstopping : s.nodes.stopping = true) (hclock : s.clock ≤ lastMs)
    (houtside : s.shutdown ≠ .outside) (hne : e ≠ .shutdown) : (s.step now e).Drained := by
  obtain ⟨hpending, hhand⟩ := (nodes_step s now e).drained h hstopping hclock
  have hacts := h.not_acts
  cases e with
  | shutdown => exact absurd rfl hne
  | worker lags => exact h.workerStep hstopping hclock lags
  | tick _ | fire => exact ⟨hpending, hhand, h.callbacks, h.client, h.mutex, h.dispatcher⟩
  | queue i w delay =>
    have hsame : s.step now (.queue i w delay) = s := if_neg fun hfree => houtside hfree.2.2
    rw [hsame]
    exact h
  | lock i =>
    have hsame : s.step now (.lock i) = s := if_neg fun hfree => houtside hfree.2
    rw [hsame]
    exact h
  | step i =>
    simp only [WiphyQueue.step]
    split_ifs
    · exact ⟨h.pending, h.hand, h.callbacks, h.client, h.mutex, h.dispatcher⟩
    · exact h
  | unlock =>
    simp only [WiphyQueue.step]
    split
    · rename_i i hmutex
      exact absurd hmutex (h.mutex i)
    · exact h
  | clientQueue w delay =>
    have hsame : s.step now (.clientQueue w delay) = s := if_neg fun hfree => hacts hfree.1
    rw [hsame]
    exact h
  | clientCancel w =>
    have hsame : s.step now (.clientCancel w) = s := if_neg hacts
    rw [hsame]
    exact h
  | clientFlush w =>
    have hsame : s.step now (.clientFlush w) = s := if_neg hacts
    rw [hsame]
    exact h
  | clientFree w =>
    have hsame : s.step now (.clientFree w) = s := if_neg fun hfree => hacts hfree.1
    rw [hsame]
    exact h
  | callbackReturns =>
    have hsame : s.step now .callbackReturns = s := if_neg hacts
    rw [hsame]
    exact h
  | clientStep =>
    simp only [WiphyQueue.step]
    rw [h.client]
    exact h
  | trampoline =>
    simp only [WiphyQueue.step, WiphyQueue.trampoline]
    split
    · split <;> exact ⟨h.pending, h.hand, h.callbacks, h.client, h.mutex, h.dispatcher⟩
    · exact ⟨h.pending, h.hand, h.callbacks, h.client, h.mutex, h.dispatcher⟩

/-- Every event keeps what the shutdown has stopped. -/
lemma Stopped.step (h : s.Stopped) (hc : s.Control) (hclock : s.clock ≤ lastMs) (e : WiphyEvent ι N) :
    (s.step now e).Stopped := by
  by_cases hne : e = .shutdown
  · subst hne
    exact h.shutdownStep hc
  have hshutdown : (s.step now e).shutdown = s.shutdown := shutdown_step hne
  refine ⟨?_, fun hrank i => ?_, fun hrank => ?_⟩
  · rw [(nodes_step s now e).stopping hne, hshutdown]
    exact h.stopping
  · rw [hshutdown] at hrank
    have houtside : s.shutdown ≠ .outside := by
      intro heq
      rw [heq] at hrank
      exact absurd hrank (by simp [rank])
    by_contra htrue
    rw [Bool.not_eq_false] at htrue
    exact Bool.false_ne_true ((h.still hrank i).symm.trans (threads_step houtside i htrue))
  · rw [hshutdown] at hrank
    have houtside : s.shutdown ≠ .outside := by
      intro heq
      rw [heq] at hrank
      exact absurd hrank (by simp [rank])
    exact (h.drained hrank).step (h.stopping.2 hrank) hclock houtside hne

/-- In every interleaving the nodes are stopped as far as the shutdown has come. -/
lemma stopped_history (σ : ℕ → WiphyEvent ι N) (n : ℕ) : (history σ n).Stopped := by
  induction n with
  | zero =>
    exact ⟨by simp [history, rank], fun hrank => absurd hrank (by simp [history, rank]),
      fun hrank => absurd hrank (by simp [history, rank])⟩
  | succ n ih => exact ih.step (control_history σ n) (clock_history σ n) (σ n)

end Stopped

section CallBooks

variable {s s' : WiphyQueue ι N} {now : ℕ} {e : WiphyEvent ι N}

lemma CallBooks.frame (h : s.CallBooks) (hcall : s'.call = s.call)
    (hshutdown : s'.shutdown = s.shutdown) : s'.CallBooks where
  retired := hcall ▸ h.retired
  counted := hcall ▸ h.counted
  waiting hrank := hcall ▸ h.waiting (hshutdown ▸ hrank)
  free hrank := hcall ▸ h.free (hshutdown ▸ hrank)
  stopped hrank := hcall ▸ h.stopped (hshutdown ▸ hrank)

/-- What the shutdown has stopped of the dispatcher's item. -/
structure WorkBooks (s : WiphyQueue ι N) : Prop where
  canceling : s.work.canceling = if 8 ≤ rank s.shutdown ∧ rank s.shutdown ≤ 11 then 1 else 0
  owner : s.work.owner = false → s.work.pending = false ∧ s.dispatcher = .idle
  removed : 10 ≤ rank s.shutdown → s.work.pending = false
  idle : 11 ≤ rank s.shutdown → s.dispatcher = .idle

variable [DecidableEq N] [Fintype ι]

lemma CallBooks.shutdownStep (h : s.CallBooks) : s.shutdownStep.CallBooks := by
  -- the steps that leave the call alone
  have hgoes : ∀ (place : Shutdown) (nodes : Nodes N) (mutex : Option (Holder ι)) (work : WorkItem)
      (timer : WiphyTimer), rank s.shutdown ≠ 6 → rank place ≠ 6 →
      (7 ≤ rank place → 7 ≤ rank s.shutdown) →
      ({ s with nodes := nodes, mutex := mutex, work := work, timer := timer, shutdown := place } :
        WiphyQueue ι N).CallBooks := by
    intro place nodes mutex work timer hwas hplace hlate
    exact ⟨h.retired, h.counted, fun hsix => absurd hsix hplace, fun _ => h.free hwas,
      fun hseven => h.stopped (hlate hseven)⟩
  unfold WiphyQueue.shutdownStep
  cases hphase : s.shutdown with
  | outside | locks =>
    grind [rank]
  | stops | unlocks | clears | raises | lowers =>
    exact hgoes _ _ _ _ _ (by simp [hphase, rank]) (by simp [rank]) (by simp [hphase, rank])
  | cancels =>
    obtain ⟨hfree, result, houtside⟩ := h.free (by simp [hphase, rank])
    have hmoves : ManagedCall.Moves 0 (.cancel () true false) s.call (s.call.call () true false false) :=
      ManagedCall.moves_call _ true false false
    have hcall : s.call.call () true false false = s.call.cancel () true false false := by
      rw [ManagedCall.call, houtside]
    have hretired : (s.call.retired || false) = false := by rw [h.retired]; rfl
    refine ⟨?_, h.counted.moves hmoves, fun _ => ?_, fun hsix => absurd rfl hsix,
      fun hseven => absurd hseven (by simp [rank])⟩
    · dsimp only
      rw [hcall]
      exact hretired
    · refine ⟨?_, ManagedCall.threads_call houtside true false false⟩
      rw [hcall]
      show s.call.canceling + 1 = 1
      rw [hfree]
      rfl
  | awaitsTimer =>
    dsimp only
    split_ifs with hzero
    · obtain ⟨hone, removed, hthread⟩ := h.waiting (by simp [hphase, rank])
      have hstep : s.call.threadStep () false =
          { s.call with canceling := s.call.canceling - 1 }.goes () (.outside (some removed)) := by
        rw [ManagedCall.threadStep, hthread]
        simp [hzero]
      have hidle := h.counted.idle hzero
      rw [hstep]
      refine ⟨h.retired, h.counted, fun hsix => absurd hsix (by simp [rank]), fun _ => ⟨?_, ?_⟩,
        fun _ => hidle⟩
      · show s.call.canceling - 1 = 0
        rw [hone]
        rfl
      · exact ⟨some removed, by simp [ManagedCall.goes]⟩
    · exact h
  | loads | removes =>
    grind [rank]
  | awaitsWork =>
    grind [rank]
  | returned => exact h

variable [DecidableEq ι]

lemma enter_eq {c : ManagedCall Unit} (hretired : c.retired = false) (hfree : c.canceling = 0)
    (now : ℕ) (deadline : UInt64) :
    ∃ p outstanding, (c.enter now deadline true).2 =
        { c with threadCall.pending := some p, outstanding := outstanding } ∧
      p.deadline = some deadline := by
  unfold ManagedCall.enter
  rw [if_neg (by simp [hretired, hfree])]
  simp only [if_true, ThreadCall.enterDelayed, ThreadCall.enterAt]
  cases c.threadCall.pending with
  | none => exact ⟨_, _, rfl, rfl⟩
  | some p => exact ⟨_, _, rfl, rfl⟩

lemma call_trampoline_frame (c : ManagedCall Unit) : c.trampoline.retired = c.retired ∧
    c.trampoline.canceling = c.canceling ∧ c.trampoline.threads = c.threads ∧
    c.trampoline.threadCall.pending = c.threadCall.pending ∧
    (c.threadCall = {} → c.trampoline.threadCall = {}) := by
  unfold ManagedCall.trampoline
  grind

omit [DecidableEq ι] [DecidableEq N] [Fintype ι] in
lemma CallBooks.trampoline (h : s.CallBooks) : s.trampoline.CallBooks := by
  have hgoes : ∀ timerFn : TimerFn,
      ({ s with call := s.call.trampoline, timerFn := timerFn } : WiphyQueue ι N).CallBooks := by
    intro timerFn
    obtain ⟨hretired, hcanceling, hthreads, -, hidle⟩ := call_trampoline_frame s.call
    have hmoves : ManagedCall.Moves 0 .trampoline s.call s.call.trampoline :=
      ManagedCall.moves_trampoline _
    exact ⟨hretired.trans h.retired, h.counted.moves hmoves,
      fun hrank => by
        rw [hcanceling, hthreads]
        exact h.waiting hrank,
      fun hrank => by
        rw [hcanceling, hthreads]
        exact h.free hrank,
      fun hrank => hidle (h.stopped hrank)⟩
  grind [WiphyQueue.trampoline, h.frame]

omit [DecidableEq ι] [Fintype ι] in
lemma CallBooks.workerStep (h : s.CallBooks) (hstopped : s.Stopped) (lags : List ℕ) :
    (s.workerStep now lags).CallBooks := by
  have hsame : (s.workerStep now lags).call = s.call → (s.workerStep now lags).CallBooks := fun hcall =>
    h.frame hcall (workerStep_frame s now lags).1
  revert hsame
  unfold WiphyQueue.workerStep
  cases hphase : s.dispatcher with
  | enters deadline =>
    intro _
    -- nothing was stopped yet, so the call is entered
    have hrank : ¬3 ≤ rank s.shutdown := fun hrank => by
      have hharmless := (hstopped.drained hrank).dispatcher
      rw [hphase] at hharmless
      exact hharmless
    have hfree := (h.free (by omega)).1
    have hmoves : ManagedCall.Moves now (.enter deadline true) s.call (s.call.enter now deadline true).2 :=
      ManagedCall.moves_enter deadline true
    have hcounted := h.counted.moves hmoves
    obtain ⟨p, outstanding, heq, -⟩ := enter_eq h.retired hfree now deadline
    dsimp only
    rw [heq] at hcounted ⊢
    exact ⟨h.retired, hcounted, fun hsix => h.waiting hsix, fun hsix => h.free hsix,
      fun hseven => absurd hseven (by dsimp only; omega)⟩
  | loops budget again =>
    intro hsame
    cases budget with
    | zero => exact hsame rfl
    | succ budget =>
      refine hsame ?_
      dsimp only
      obtain ⟨x, -, heq⟩ | ⟨y, -, -, heq⟩ | ⟨-, -, heq⟩ := search_cases s lags budget
      all_goals rw [heq]
  | idle | waits | calls _ =>
    intro hsame
    refine hsame ?_
    dsimp only
    split_ifs <;> rfl
  | chosen _ | programs _ | unlocks _ | requeues _ | returns => exact fun hsame => hsame rfl

/-- Every event keeps what the shutdown has stopped of the timer's call. -/
lemma CallBooks.step (h : s.CallBooks) (hstopped : s.Stopped) (e : WiphyEvent ι N) :
    (s.step now e).CallBooks := by
  cases e with
  | worker lags => exact h.workerStep hstopped lags
  | trampoline => exact h.trampoline
  | shutdown => exact h.shutdownStep
  | fire =>
    have hmoves : ManagedCall.Moves 0 .start s.call { s.call with threadCall := s.call.threadCall.start } :=
      ManagedCall.moves_start _
    refine ⟨h.retired, h.counted.moves hmoves, h.waiting, h.free, fun hseven => ?_⟩
    show s.call.threadCall.start = {}
    rw [h.stopped hseven]
    rfl
  | tick _ | queue _ _ _ | step _ | lock _ | unlock | clientQueue _ _ | clientCancel _
  | clientFlush _ | clientFree _ | clientStep | callbackReturns =>
    exact h.frame (plain_step s now rfl).2.2.1 (plain_step s now rfl).1

lemma callBooks_history (σ : ℕ → WiphyEvent ι N) (n : ℕ) : (history σ n).CallBooks := by
  induction n with
  | zero =>
    exact ⟨rfl, rfl, fun hsix => absurd hsix (by simp [history, rank]), fun _ => ⟨rfl, none, rfl⟩,
      fun hseven => absurd hseven (by simp [history, rank])⟩
  | succ n ih => exact ih.step (stopped_history σ n) (σ n)

end CallBooks

section WorkBooks

variable {s s' : WiphyQueue ι N} {now : ℕ} {e : WiphyEvent ι N}

lemma WorkBooks.frame (h : s.WorkBooks) (hwork : s'.work = s.work)
    (hshutdown : s'.shutdown = s.shutdown) (hdispatcher : s'.dispatcher = s.dispatcher) :
    s'.WorkBooks where
  canceling := by rw [hwork, hshutdown]; exact h.canceling
  owner hno := by rw [hwork] at hno ⊢; rw [hdispatcher]; exact h.owner hno
  removed hrank := by rw [hwork]; exact h.removed (hshutdown ▸ hrank)
  idle hrank := hdispatcher.trans (h.idle (hshutdown ▸ hrank))

variable [DecidableEq N] [Fintype ι]

lemma WorkBooks.shutdownStep (h : s.WorkBooks) : s.shutdownStep.WorkBooks := by
  have hcanceling := h.canceling
  -- the steps before the item is cancelled
  have hgoes : ∀ (place : Shutdown) (nodes : Nodes N) (mutex : Option (Holder ι)) (timer : WiphyTimer)
      (call : ManagedCall Unit), rank s.shutdown < 8 → rank place < 8 →
      ({ s with nodes := nodes, mutex := mutex, timer := timer, call := call, shutdown := place } :
        WiphyQueue ι N).WorkBooks := by
    intro place nodes mutex timer call hwas hplace
    refine ⟨?_, h.owner, fun hten => ?_, fun heleven => ?_⟩
    · grind
    · dsimp only at hten
      omega
    · dsimp only at heleven
      omega
  unfold WiphyQueue.shutdownStep
  cases hphase : s.shutdown with
  | outside | locks | awaitsTimer =>
    grind [rank]
  | stops | unlocks | clears | cancels =>
    exact hgoes _ _ _ _ _ (by simp [hphase, rank]) (by simp [rank])
  | raises =>
    rw [hphase] at hcanceling
    refine ⟨?_, h.owner, fun hten => absurd hten (by simp [rank]),
      fun heleven => absurd heleven (by simp [rank])⟩
    rw [hcanceling]
    simp [rank]
  | loads =>
    rw [hphase] at hcanceling
    cases howner : s.work.owner with
    | true =>
      exact ⟨hcanceling, h.owner, fun hten => absurd hten (by simp [rank]),
        fun heleven => absurd heleven (by simp [rank])⟩
    | false =>
      exact ⟨hcanceling, h.owner, fun _ => (h.owner howner).1, fun _ => (h.owner howner).2⟩
  | removes =>
    rw [hphase] at hcanceling
    dsimp only
    split_ifs with hidle
    · exact ⟨hcanceling, fun hno => ⟨rfl, hidle⟩, fun _ => rfl, fun _ => hidle⟩
    · exact ⟨hcanceling, fun hno => ⟨rfl, (h.owner hno).2⟩, fun _ => rfl,
        fun heleven => absurd heleven (by simp [rank])⟩
  | awaitsWork =>
    rw [hphase] at hcanceling
    dsimp only
    split_ifs with hidle
    · exact ⟨hcanceling, h.owner, fun _ => h.removed (by simp [hphase, rank]), fun _ => hidle⟩
    · exact h
  | lowers =>
    rw [hphase] at hcanceling
    refine ⟨?_, h.owner, fun _ => h.removed (by simp [hphase, rank]),
      fun _ => h.idle (by simp [hphase, rank])⟩
    rw [hcanceling]
    simp [rank]
  | returned => exact h

variable [DecidableEq ι]

lemma queueWork_cases (item : WorkItem) : item.queueWork = item ∨
    item.canceling = 0 ∧ item.queueWork = { item with pending := true, owner := true } := by
  unfold WorkItem.queueWork
  grind

lemma queueWork_pending {item : WorkItem} (h : item.canceling = 0) : item.queueWork.pending = true := by
  unfold WorkItem.queueWork
  split_ifs with hrefuse
  · simpa [h] using hrefuse
  · rfl

omit [DecidableEq ι] [DecidableEq N] [Fintype ι] in
lemma WorkBooks.queues (h : s.WorkBooks) (hrank : rank s.shutdown ≠ 12)
    (hwork : s'.work = s.work.queueWork) (hshutdown : s'.shutdown = s.shutdown)
    (hdispatcher : s'.dispatcher = .idle ↔ s.dispatcher = .idle) : s'.WorkBooks := by
  obtain hsame | ⟨hzero, hnew⟩ := queueWork_cases s.work
  · rw [hsame] at hwork
    exact ⟨by rw [hwork, hshutdown]; exact h.canceling,
      fun hno => by rw [hwork] at hno ⊢; rw [hdispatcher]; exact h.owner hno,
      fun hten => by rw [hwork]; exact h.removed (hshutdown ▸ hten),
      fun heleven => hdispatcher.2 (h.idle (hshutdown ▸ heleven))⟩
  · rw [hnew] at hwork
    have hcanceling := h.canceling
    have hearly : ¬8 ≤ rank s.shutdown := by
      have hle : rank s.shutdown ≤ 12 := by cases s.shutdown <;> simp [rank]
      grind
    refine ⟨?_, fun hno => ?_, fun hten => ?_, fun heleven => ?_⟩
    · rw [hwork, hshutdown]
      exact h.canceling
    · grind
    · rw [hshutdown] at hten
      omega
    · rw [hshutdown] at heleven
      omega

omit [DecidableEq ι] [Fintype ι] in
lemma WorkBooks.workerStep (h : s.WorkBooks) (lags : List ℕ) : (s.workerStep now lags).WorkBooks := by
  have hcanceling := h.canceling
  -- a dispatcher that is running is owned, and the shutdown still waits for it
  have hrunning : ∀ place : Dispatcher, s.dispatcher ≠ .idle → place ≠ .idle →
      ∀ s' : WiphyQueue ι N, s'.work = s.work → s'.shutdown = s.shutdown → s'.dispatcher = place →
      s'.WorkBooks := by
    intro place hwas hplace s' hwork hshutdown hdispatcher
    refine ⟨by rw [hwork, hshutdown]; exact hcanceling, fun hno => ?_, fun hten => ?_, fun heleven => ?_⟩
    · rw [hwork] at hno
      exact absurd (h.owner hno).2 hwas
    · rw [hwork]
      exact h.removed (hshutdown ▸ hten)
    · exact absurd (h.idle (hshutdown ▸ heleven)) hwas
  unfold WiphyQueue.workerStep
  cases hphase : s.dispatcher with
  | idle =>
    dsimp only
    split_ifs with hpending
    · refine ⟨hcanceling, fun hno => ?_, fun _ => rfl, fun heleven => ?_⟩
      · cases (h.owner hno).1.symm.trans hpending
      · have hten : 10 ≤ rank s.shutdown := by
          dsimp only at heleven
          omega
        cases (h.removed hten).symm.trans hpending
    · exact h
  | waits =>
    dsimp only
    split_ifs
    · exact hrunning _ (by simp [hphase]) (by simp) _ rfl rfl rfl
    · exact h
  | loops budget again =>
    cases budget with
    | zero => exact hrunning _ (by simp [hphase]) (by simp) _ rfl rfl rfl
    | succ budget =>
      dsimp only
      obtain ⟨x, -, heq⟩ | ⟨y, -, -, heq⟩ | ⟨-, -, heq⟩ := search_cases s lags budget
      all_goals
        rw [heq]
        exact hrunning _ (by simp [hphase]) (by simp) _ rfl rfl rfl
  | calls budget =>
    dsimp only
    split_ifs
    · exact hrunning _ (by simp [hphase]) (by simp) _ rfl rfl rfl
    · exact h
  | chosen _ | programs _ | enters _ | unlocks _ =>
    exact hrunning _ (by simp [hphase]) (by simp) _ rfl rfl rfl
  | requeues again =>
    cases again with
    | false => exact hrunning _ (by simp [hphase]) (by simp) _ rfl rfl rfl
    | true =>
      grind [h.queues, h.idle]
  | returns =>
    refine ⟨hcanceling, fun hno => ⟨(h.owner hno).1, rfl⟩, h.removed, fun _ => rfl⟩

omit [DecidableEq ι] [DecidableEq N] [Fintype ι] in
lemma WorkBooks.trampoline (h : s.WorkBooks) (hcall : s.CallBooks) : s.trampoline.WorkBooks := by
  unfold WiphyQueue.trampoline
  split
  · rename_i hexecuting
    split
    · exact h.frame rfl rfl rfl
    · exact h.frame rfl rfl rfl
    · -- a call that is running was not stopped
      refine h.queues (fun htwelve => ?_) rfl rfl Iff.rfl
      rw [hcall.stopped (by omega)] at hexecuting
      exact absurd hexecuting (by simp)
    · exact h.frame rfl rfl rfl
  · exact h.frame rfl rfl rfl

/-- The same for the dispatcher's item. -/
lemma WorkBooks.step (h : s.WorkBooks) (hstopped : s.Stopped) (hcall : s.CallBooks)
    (e : WiphyEvent ι N) : (s.step now e).WorkBooks := by
  cases e with
  | worker lags => exact h.workerStep lags
  | trampoline => exact h.trampoline hcall
  | shutdown => exact h.shutdownStep
  | step i =>
    simp only [WiphyQueue.step]
    split_ifs with hthread
    · refine h.queues (fun htwelve => ?_) rfl rfl Iff.rfl
      exact Bool.false_ne_true ((hstopped.still (by omega) i).symm.trans hthread)
    · exact h
  | clientStep =>
    simp only [WiphyQueue.step]
    cases hclient : s.client with
    | acts => exact h
    | queues =>
      refine h.queues (fun htwelve => ?_) rfl rfl Iff.rfl
      rw [(hstopped.drained (by omega)).client] at hclient
      exact absurd hclient (by simp)
    | flushes => exact h.frame rfl rfl rfl
  | tick _ | fire => exact h.frame rfl rfl rfl
  | queue _ _ _ | lock _ | clientQueue _ _ | clientCancel _ | clientFlush _ | clientFree _
  | callbackReturns =>
    simp only [WiphyQueue.step]
    split_ifs <;> exact h.frame rfl rfl rfl
  | unlock =>
    simp only [WiphyQueue.step]
    split
    · split_ifs <;> exact h.frame rfl rfl rfl
    · exact h

lemma workBooks_history (σ : ℕ → WiphyEvent ι N) (n : ℕ) : (history σ n).WorkBooks := by
  induction n with
  | zero => exact ⟨rfl, fun _ => ⟨rfl, rfl⟩, fun _ => rfl, fun _ => rfl⟩
  | succ n ih => exact ih.step (stopped_history σ n) (callBooks_history σ n) (σ n)

/-- A shutdown that has returned stays so. -/
lemma returned_step {s : WiphyQueue ι N} {now : ℕ} {e : WiphyEvent ι N}
    (h : s.shutdown = .returned) : (s.step now e).shutdown = .returned := by
  by_cases hne : e = .shutdown
  · subst hne
    simp only [step, shutdownStep, h]
  · rw [shutdown_step hne, h]

lemma quiet_of_returned (σ : ℕ → WiphyEvent ι N) {n m : ℕ} (h : (history σ n).shutdown = .returned)
    (hm : n ≤ m) : (history σ m).shutdown = .returned ∧
      (history σ m).nodes.runs = (history σ n).nodes.runs := by
  induction m, hm using Nat.le_induction with
  | base => exact ⟨h, rfl⟩
  | succ m hm ih =>
    refine ⟨returned_step ih.1, ?_⟩
    have hdrained := (stopped_history σ m).drained (by simp [ih.1, rank])
    obtain hsame | ⟨x, flushed, hhand, -⟩ := (nodes_step (history σ m) m (σ m)).runs
    · exact hsame.trans ih.2
    · rw [hdrained.hand] at hhand
      exact absurd hhand.symm (Option.some_ne_none x)

end WorkBooks

end WiphyQueue

end AirportAwdl.Compat
