import AirportAwdl.Compat.WiphyNodes

/-!
# Wiphy work: runs

What an event does to the nodes, and who holds the mutex meanwhile. From these follow that a node runs
once for each queueing, under the mutex and in time, and that a cancelled node is gone.
-/

namespace AirportAwdl.Compat

open Hal

variable {ι N : Type}

namespace WiphyQueue

section Moves

/-- What an event does to the nodes. -/
inductive NodeMoves [DecidableEq N] (now : ℕ) (e : WiphyEvent ι N) (s : WiphyQueue ι N) :
    Nodes N → Prop where
  | same : NodeMoves now e s s.nodes
  | accept (w : N) (delay : UInt64)
      (he : e = .clientQueue w delay ∨ ∃ i, e = .queue i w delay)
      (hfreed : s.nodes.freed w = false) : NodeMoves now e s (s.nodes.accept now s.clock w delay)
  | cancel (w : N) (he : e = .clientCancel w) (hacts : s.Acts) : NodeMoves now e s (s.nodes.cancel w)
  | flush (w : N) (hacts : s.Acts) : NodeMoves now e s (s.nodes.flush w)
  | free (w : N) (hacts : s.Acts) (hidle : s.nodes.queued w = false) :
      NodeMoves now e s { s.nodes with freed := Function.update s.nodes.freed w true }
  | take (x : Entry N) (lags : List ℕ) (budget : ℕ) (again : Bool)
      (hphase : s.dispatcher = .loops (budget + 1) again)
      (hlook : (s.look lags).2.1 = some x) : NodeMoves now e s (s.nodes.take x)
  | start (budget : ℕ) (hphase : s.dispatcher = .chosen budget) :
      NodeMoves now e s (s.nodes.start s.clock false)
  | startFlushed (hphase : s.client = .flushes) : NodeMoves now e s (s.nodes.start s.clock true)
  | drain (he : e = .shutdown) (hphase : s.shutdown = .stops) : NodeMoves now e s s.nodes.drain

lemma nodes_trampoline (s : WiphyQueue ι N) : s.trampoline.nodes = s.nodes := by
  unfold trampoline
  split
  · split <;> rfl
  · rfl

/-- The event is no step of the dispatcher, of the timer or of the shutdown. -/
def Plain : WiphyEvent ι N → Bool
  | .worker _ | .fire | .trampoline | .shutdown => false
  | _ => true

variable [DecidableEq N]

lemma search_cases (s : WiphyQueue ι N) (lags : List ℕ) (budget : ℕ) :
    (∃ x, (s.look lags).2.1 = some x ∧ s.search lags budget =
      { s with clock := (s.look lags).1, nodes := s.nodes.take x, dispatcher := .chosen budget }) ∨
    (∃ earliest, (s.look lags).2.1 = none ∧ (s.look lags).2.2 = some earliest ∧
      s.search lags budget =
        { s with clock := (s.look lags).1, dispatcher := .programs earliest }) ∨
    ((s.look lags).2.1 = none ∧ (s.look lags).2.2 = none ∧
      s.search lags budget = { s with clock := (s.look lags).1, dispatcher := .unlocks false }) := by
  unfold search
  grind

lemma nodes_workerStep (s : WiphyQueue ι N) (now : ℕ) (e : WiphyEvent ι N) (lags : List ℕ) :
    NodeMoves now e s (s.workerStep now lags).nodes := by
  unfold workerStep
  cases hphase : s.dispatcher with
  | loops budget again =>
    cases budget with
    | zero => exact .same
    | succ budget =>
      dsimp only
      obtain ⟨x, hlook, heq⟩ | ⟨y, -, -, heq⟩ | ⟨-, -, heq⟩ := search_cases s lags budget
      · rw [heq]
        exact .take x lags budget again hphase hlook
      · rw [heq]
        exact .same
      · rw [heq]
        exact .same
  | chosen budget => exact .start budget hphase
  | idle | waits | calls _ =>
    split_ifs <;> exact .same
  | programs _ | enters _ | unlocks _ | requeues _ | returns => exact .same

variable [DecidableEq ι] [Fintype ι]

/-- Every event moves the nodes in one of these ways. -/
lemma nodes_step (s : WiphyQueue ι N) (now : ℕ) (e : WiphyEvent ι N) :
    NodeMoves now e s (s.step now e).nodes := by
  cases e with
  | queue i w delay =>
    simp only [step]
    split_ifs with hfree
    · exact .accept w delay (.inr ⟨i, rfl⟩) hfree.2.1
    · exact .same
  | clientQueue w delay =>
    simp only [step]
    split_ifs with hfree
    · exact .accept w delay (.inl rfl) hfree.2
    · exact .same
  | clientCancel w =>
    simp only [step]
    split_ifs with hacts
    · exact .cancel w rfl hacts
    · exact .same
  | clientFlush w =>
    simp only [step]
    by_cases hacts : s.Acts
    · rw [if_pos hacts]
      exact .flush w hacts
    · rw [if_neg hacts]
      exact .same
  | clientFree w =>
    simp only [step]
    split_ifs with hacts
    · exact .free w hacts.1 hacts.2
    · exact .same
  | clientStep =>
    simp only [step]
    cases hclient : s.client with
    | acts | queues => exact .same
    | flushes => exact .startFlushed hclient
  | worker lags => exact nodes_workerStep s now _ lags
  | trampoline =>
    have hnodes : (s.step now .trampoline).nodes = s.nodes := nodes_trampoline s
    rw [hnodes]
    exact .same
  | shutdown =>
    simp only [step, shutdownStep]
    cases hphase : s.shutdown with
    | stops => exact .drain rfl hphase
    | outside | locks | awaitsTimer | awaitsWork =>
      split_ifs <;> exact .same
    | unlocks | clears | cancels | raises | loads | removes | lowers | returned => exact .same
  | step i | lock i | callbackReturns =>
    simp only [step]
    split_ifs <;> exact .same
  | unlock =>
    simp only [step]
    split
    · split_ifs <;> exact .same
    · exact .same
  | tick lag => exact .same
  | fire => exact .same

end Moves

section Frames

variable (s : WiphyQueue ι N) (now : ℕ)

lemma trampoline_frame : s.trampoline.shutdown = s.shutdown ∧ s.trampoline.dispatcher = s.dispatcher ∧
    s.trampoline.threads = s.threads ∧ s.trampoline.client = s.client := by
  grind [trampoline]

/-- The dispatcher holds the mutex. -/
def Locked : Dispatcher → Prop
  | .loops _ _ | .chosen _ | .calls _ | .programs _ | .enters _ | .unlocks _ => True
  | .idle | .waits | .requeues _ | .returns => False

/-- The mutex is held by whom the phases say, and nobody else has a callback running, is inside a call
or has a node in hand. -/
structure Control (s : WiphyQueue ι N) : Prop where
  dispatcher : s.mutex = some .dispatcher ↔ Locked s.dispatcher
  shutdown : s.mutex = some .shutdown ↔ s.shutdown = .stops ∨ s.shutdown = .unlocks
  callbacks : s.callbacks ≠ [] → (∃ i, s.mutex = some (.thread i)) ∨ ∃ b, s.dispatcher = .calls b
  client : s.client ≠ .acts → s.inside = true
  hand : s.nodes.hand.isSome = true → s.client = .flushes ∨ ∃ b, s.dispatcher = .chosen b

variable [DecidableEq N]

lemma workerStep_frame (lags : List ℕ) : (s.workerStep now lags).shutdown = s.shutdown ∧
    (s.workerStep now lags).threads = s.threads ∧ (s.workerStep now lags).client = s.client ∧
    (s.workerStep now lags).timerFn = s.timerFn := by
  unfold workerStep
  cases s.dispatcher with
  | loops budget again =>
    cases budget with
    | zero => exact ⟨rfl, rfl, rfl, rfl⟩
    | succ budget =>
      dsimp only
      obtain ⟨x, -, heq⟩ | ⟨y, -, -, heq⟩ | ⟨-, -, heq⟩ := search_cases s lags budget
      all_goals
        rw [heq]
        exact ⟨rfl, rfl, rfl, rfl⟩
  | idle | waits | calls _ =>
    dsimp only
    split_ifs <;> exact ⟨rfl, rfl, rfl, rfl⟩
  | chosen _ | programs _ | enters _ | unlocks _ | requeues _ | returns => exact ⟨rfl, rfl, rfl, rfl⟩

variable [Fintype ι]

lemma shutdownStep_frame : s.shutdownStep.dispatcher = s.dispatcher ∧
    s.shutdownStep.threads = s.threads ∧ s.shutdownStep.client = s.client ∧
    s.shutdownStep.timerFn = s.timerFn := by
  grind [shutdownStep]

variable [DecidableEq ι]

/-- Other events leave the dispatcher, the timer and the shutdown alone. -/
lemma plain_step {e : WiphyEvent ι N} (h : Plain e = true) :
    (s.step now e).shutdown = s.shutdown ∧ (s.step now e).dispatcher = s.dispatcher ∧
    (s.step now e).call = s.call ∧ (s.step now e).timer = s.timer ∧
    (s.step now e).timerFn = s.timerFn := by
  cases e with
  | worker _ | fire | trampoline | shutdown => cases h
  | tick _ => exact ⟨rfl, rfl, rfl, rfl, rfl⟩
  | queue _ _ _ | step _ | lock _ | clientQueue _ _ | clientCancel _ | clientFlush _ | clientFree _
  | callbackReturns =>
    grind [step]
  | unlock =>
    grind [step]
  | clientStep =>
    grind [step]

end Frames

section Control

variable {s s' : WiphyQueue ι N} {now : ℕ}

lemma inside_iff : s.inside = true ↔
    (∃ i, s.mutex = some (.thread i)) ∨ s.mutex = some .dispatcher ∧ s.callbacks ≠ [] := by
  unfold inside
  grind

lemma Control.inside (h : s.Control) (hin : s.inside = true) :
    (∃ i, s.mutex = some (.thread i)) ∨ ∃ b, s.dispatcher = .calls b := by
  obtain hthread | ⟨-, hcallbacks⟩ := inside_iff.mp hin
  · exact .inl hthread
  · exact h.callbacks hcallbacks

lemma Control.hand_of_acts (h : s.Control) (hacts : s.Acts) : s.nodes.hand = none := by
  by_contra hsome
  obtain hflushes | ⟨b, hchosen⟩ := h.hand (Option.isSome_iff_ne_none.mpr hsome)
  · rw [hacts.1] at hflushes
    exact absurd hflushes (by simp)
  · have hmutex : s.mutex = some .dispatcher := h.dispatcher.2 (by rw [hchosen]; trivial)
    obtain ⟨i, hthread⟩ | ⟨c, hcalls⟩ := h.inside hacts.2
    · rw [hmutex] at hthread
      exact absurd hthread (by simp)
    · rw [hchosen] at hcalls
      exact absurd hcalls (by simp)

lemma Control.outside_of_locked (h : s.Control) (hlocked : Locked s.dispatcher)
    (hcalls : ∀ b, s.dispatcher ≠ .calls b) : s.callbacks = [] ∧ s.client = .acts := by
  have hmutex := h.dispatcher.2 hlocked
  have hcallbacks : s.callbacks = [] := by
    by_contra hne
    obtain ⟨i, hthread⟩ | ⟨b, hb⟩ := h.callbacks hne
    · rw [hmutex] at hthread
      exact absurd hthread (by simp)
    · exact hcalls b hb
  refine ⟨hcallbacks, ?_⟩
  by_contra hclient
  obtain ⟨i, hthread⟩ | ⟨-, hne⟩ := inside_iff.mp (h.client hclient)
  · rw [hmutex] at hthread
    exact absurd hthread (by simp)
  · exact hne hcallbacks

lemma Control.outside_of_free (h : s.Control) (hmutex : s.mutex = none ∨ s.mutex = some .shutdown) :
    s.callbacks = [] ∧ s.client = .acts ∧ ¬Locked s.dispatcher := by
  have hnot : ¬Locked s.dispatcher := fun hlocked => by
    have hheld := h.dispatcher.2 hlocked
    grind
  have hthread : ¬∃ i, s.mutex = some (.thread i) := by
    grind
  have hcallbacks : s.callbacks = [] := by
    by_contra hne
    obtain hi | ⟨b, hb⟩ := h.callbacks hne
    · exact hthread hi
    · exact hnot (by rw [hb]; trivial)
  refine ⟨hcallbacks, ?_, hnot⟩
  by_contra hclient
  obtain hi | ⟨-, hne⟩ := inside_iff.mp (h.client hclient)
  · exact hthread hi
  · exact hne hcallbacks

lemma Control.frame (h : s.Control) (hmutex : s'.mutex = s.mutex)
    (hdispatcher : s'.dispatcher = s.dispatcher) (hshutdown : s'.shutdown = s.shutdown)
    (hcallbacks : s'.callbacks = s.callbacks) (hclient : s'.client = s.client)
    (hhand : s'.nodes.hand = s.nodes.hand) : s'.Control where
  dispatcher := by rw [hmutex, hdispatcher]; exact h.dispatcher
  shutdown := by rw [hmutex, hshutdown]; exact h.shutdown
  callbacks := by rw [hcallbacks, hmutex, hdispatcher]; exact h.callbacks
  client := by rw [hclient, inside_iff, hmutex, hcallbacks, ← inside_iff]; exact h.client
  hand := by rw [hhand, hclient, hdispatcher]; exact h.hand

lemma Control.dispatches (h : s.Control) (hlocked : Locked s.dispatcher)
    (houtside : s.callbacks = [] ∧ s.client = .acts) (hmutex : s'.mutex = s.mutex)
    (hlocked' : Locked s'.dispatcher) (hshutdown : s'.shutdown = s.shutdown)
    (hcallbacks : s'.callbacks = [] ∨ ∃ b, s'.dispatcher = .calls b) (hclient : s'.client = s.client)
    (hhand : s'.nodes.hand.isSome = true → ∃ b, s'.dispatcher = .chosen b) : s'.Control where
  dispatcher := by
    rw [hmutex]
    exact ⟨fun _ => hlocked', fun _ => h.dispatcher.2 hlocked⟩
  shutdown := by rw [hmutex, hshutdown]; exact h.shutdown
  callbacks hne := .inr (hcallbacks.resolve_left hne)
  client hne := absurd (hclient.trans houtside.2) hne
  hand hsome := .inr (hhand hsome)

lemma Control.trampoline (h : s.Control) : s.trampoline.Control := by
  grind [WiphyQueue.trampoline, h.frame]

/-- The list is sound, and every ticket is in one place. -/
structure Books (now : ℕ) (s : WiphyQueue ι N) : Prop where
  listed : s.nodes.Listed
  distinct : s.nodes.tickets.Nodup
  past : ∀ t ∈ s.nodes.tickets, t < now

variable [DecidableEq N]

/-- The dispatcher holds the mutex where its phase says so. -/
lemma Control.workerStep (h : s.Control) (lags : List ℕ) : (s.workerStep now lags).Control := by
  -- with the mutex, outside of a callback, nobody else is inside and only a chosen node is in hand
  have hhand : Locked s.dispatcher → (∀ b, s.dispatcher ≠ .chosen b) →
      (∀ b, s.dispatcher ≠ .calls b) → s.nodes.hand = none := by
    intro hlocked hchosen hcalls
    by_contra hsome
    obtain hflushes | ⟨b, hb⟩ := h.hand (Option.isSome_iff_ne_none.mpr hsome)
    · rw [(h.outside_of_locked hlocked hcalls).2] at hflushes
      cases hflushes
    · exact hchosen b hb
  unfold WiphyQueue.workerStep
  cases hphase : s.dispatcher with
  | idle =>
    dsimp only
    split_ifs
    · refine ⟨?_, h.shutdown, fun hne => ?_, h.client, fun hsome => ?_⟩
      · rw [h.dispatcher, hphase]
        exact Iff.rfl
      · refine (h.callbacks hne).imp_right fun hb => ?_
        grind
      grind [h.hand]
    · exact h
  | waits =>
    dsimp only
    split_ifs with hmutex
    · obtain ⟨hcallbacks, hclient, -⟩ := h.outside_of_free (.inl hmutex)
      refine ⟨⟨fun _ => trivial, fun _ => rfl⟩, ?_, fun hne => absurd hcallbacks hne,
        fun hne => absurd hclient hne, fun hsome => ?_⟩
      · grind [h.shutdown]
      grind [h.hand]
    · exact h
  | loops budget again =>
    have hlocked : Locked s.dispatcher := by rw [hphase]; trivial
    have houtside := h.outside_of_locked hlocked (by simp [hphase])
    cases budget with
    | zero =>
      refine h.dispatches hlocked houtside rfl trivial rfl (.inl houtside.1) rfl fun hsome => ?_
      grind
    | succ budget =>
      dsimp only
      obtain ⟨x, -, heq⟩ | ⟨y, -, -, heq⟩ | ⟨-, -, heq⟩ := search_cases s lags budget
      · rw [heq]
        exact h.dispatches hlocked houtside rfl trivial rfl (.inl houtside.1) rfl fun _ => ⟨_, rfl⟩
      all_goals
        rw [heq]
        refine h.dispatches hlocked houtside rfl trivial rfl (.inl houtside.1) rfl fun hsome => ?_
        grind
  | chosen budget =>
    have hlocked : Locked s.dispatcher := by rw [hphase]; trivial
    have houtside := h.outside_of_locked hlocked (by simp [hphase])
    refine h.dispatches hlocked houtside rfl trivial rfl (.inr ⟨_, rfl⟩) rfl fun hsome => ?_
    simp_all
  | calls budget =>
    dsimp only
    split_ifs with hcallbacks
    · have hlocked : Locked s.dispatcher := by rw [hphase]; trivial
      have hmutex := h.dispatcher.2 hlocked
      have hclient : s.client = .acts := by
        by_contra hne
        obtain ⟨i, hthread⟩ | ⟨-, hcalls⟩ := inside_iff.mp (h.client hne)
        · grind
        · exact hcalls hcallbacks
      refine h.dispatches hlocked ⟨hcallbacks, hclient⟩ rfl trivial rfl (.inl hcallbacks) rfl
        fun hsome => ?_
      grind [h.hand]
    · exact h
  | programs earliest | enters deadline =>
    have hlocked : Locked s.dispatcher := by rw [hphase]; trivial
    have houtside := h.outside_of_locked hlocked (by simp [hphase])
    refine h.dispatches hlocked houtside rfl trivial rfl (.inl houtside.1) rfl fun hsome => ?_
    grind
  | unlocks again =>
    have hlocked : Locked s.dispatcher := by rw [hphase]; trivial
    obtain ⟨hcallbacks, hclient⟩ := h.outside_of_locked hlocked (by simp [hphase])
    have hmutex := h.dispatcher.2 hlocked
    refine ⟨⟨fun heq => absurd heq (by simp), fun hfalse => hfalse.elim⟩, ?_,
      fun hne => absurd hcallbacks hne, fun hne => absurd hclient hne, fun hsome => ?_⟩
    · grind [h.shutdown]
    grind
  | requeues _ | returns =>
    refine ⟨?_, h.shutdown, fun hne => ?_, h.client, fun hsome => ?_⟩
    · rw [h.dispatcher, hphase]
      exact Iff.rfl
    · refine (h.callbacks hne).imp_right fun hb => ?_
      rw [hphase] at hb
      exact absurd hb (by simp)
    grind [h.hand]

variable [Fintype ι]

lemma Control.shutdownStep (h : s.Control) : s.shutdownStep.Control := by
  -- the shutdown goes on without touching the mutex
  have hgoes : ∀ (place : Shutdown) (nodes : Nodes N) (work : WorkItem) (timer : WiphyTimer)
      (call : ManagedCall Unit), nodes.hand = s.nodes.hand →
      (s.shutdown = .stops ∨ s.shutdown = .unlocks ↔ place = .stops ∨ place = .unlocks) →
      ({ s with nodes := nodes, work := work, timer := timer, call := call, shutdown := place } :
        WiphyQueue ι N).Control := by
    intro place nodes work timer call hhand hplace
    refine ⟨h.dispatcher, h.shutdown.trans hplace, h.callbacks, h.client, fun hsome => ?_⟩
    exact h.hand (hhand ▸ hsome)
  unfold WiphyQueue.shutdownStep
  cases hphase : s.shutdown with
  | outside =>
    grind
  | locks =>
    dsimp only
    split_ifs with hmutex
    · obtain ⟨hcallbacks, hclient, hlocked⟩ := h.outside_of_free (.inl hmutex)
      exact ⟨⟨fun heq => absurd heq (by simp), fun hl => absurd hl hlocked⟩,
        ⟨fun _ => .inl rfl, fun _ => rfl⟩, fun hne => absurd hcallbacks hne,
        fun hne => absurd hclient hne, h.hand⟩
    · exact h
  | stops => exact hgoes _ _ _ _ _ rfl (by simp [hphase])
  | unlocks =>
    have hmutex := h.shutdown.2 (.inr hphase)
    obtain ⟨hcallbacks, hclient, hlocked⟩ := h.outside_of_free (.inr hmutex)
    exact ⟨⟨fun heq => absurd heq (by simp), fun hl => absurd hl hlocked⟩,
      ⟨fun heq => absurd heq (by simp), fun heq => absurd heq (by simp)⟩,
      fun hne => absurd hcallbacks hne, fun hne => absurd hclient hne, h.hand⟩
  | clears | cancels | raises | lowers => exact hgoes _ _ _ _ _ rfl (by simp [hphase])
  | loads | removes =>
    grind
  | awaitsTimer | awaitsWork =>
    grind
  | returned => exact h

variable [DecidableEq ι]

/-- Every event keeps the mutex with whom the phases name. -/
lemma Control.step (h : s.Control) (e : WiphyEvent ι N) : (s.step now e).Control := by
  cases e with
  | tick lag => exact h.frame rfl rfl rfl rfl rfl rfl
  | queue i w delay =>
    grind [WiphyQueue.step, h.frame, Nodes.accept_hand]
  | step i =>
    grind [WiphyQueue.step, h.frame]
  | lock i =>
    simp only [WiphyQueue.step]
    split_ifs with hfree
    · obtain ⟨hcallbacks, hclient, hlocked⟩ := h.outside_of_free (.inl hfree.1)
      have hshutdown := h.shutdown
      rw [hfree.1] at hshutdown
      exact ⟨⟨fun heq => absurd heq (by simp), fun hl => absurd hl hlocked⟩,
        ⟨fun heq => absurd heq (by simp), fun hphase => absurd (hshutdown.2 hphase) (by simp)⟩,
        fun hne => absurd hcallbacks hne, fun hne => absurd hclient hne, h.hand⟩
    · exact h
  | unlock =>
    simp only [WiphyQueue.step]
    split
    · rename_i i hmutex
      split_ifs with hdone
      · have hdispatcher := h.dispatcher
        have hshutdown := h.shutdown
        rw [hmutex] at hdispatcher hshutdown
        exact ⟨⟨fun heq => absurd heq (by simp), fun hl => absurd (hdispatcher.2 hl) (by simp)⟩,
          ⟨fun heq => absurd heq (by simp), fun hphase => absurd (hshutdown.2 hphase) (by simp)⟩,
          fun hne => absurd hdone.2 hne, fun hne => absurd hdone.1 hne, h.hand⟩
      · exact h
    · exact h
  | clientQueue w delay =>
    simp only [WiphyQueue.step]
    split_ifs with hacts
    · refine ⟨h.dispatcher, h.shutdown, h.callbacks, fun _ => hacts.1.2, fun hsome => ?_⟩
      grind [Nodes.accept_hand, h.hand_of_acts]
    · exact h
  | clientCancel w =>
    simp only [WiphyQueue.step]
    grind [h.frame, Nodes.cancel_hand]
  | clientFlush w =>
    simp only [WiphyQueue.step]
    by_cases hacts : s.Acts
    · rw [if_pos hacts]
      refine ⟨h.dispatcher, h.shutdown, h.callbacks, fun _ => hacts.2, fun hsome => .inl ?_⟩
      exact if_pos hsome
    · rw [if_neg hacts]
      exact h
  | clientFree w =>
    grind [WiphyQueue.step, h.frame]
  | clientStep =>
    simp only [WiphyQueue.step]
    cases hclient : s.client with
    | acts => exact h
    | queues =>
      refine ⟨h.dispatcher, h.shutdown, h.callbacks, fun hne => absurd rfl hne, fun hsome => ?_⟩
      grind [h.hand]
    | flushes =>
      have hinside := h.client (by rw [hclient]; simp)
      refine ⟨h.dispatcher, h.shutdown, fun _ => h.inside hinside, fun hne => absurd rfl hne,
        fun hsome => ?_⟩
      simp_all
  | callbackReturns =>
    simp only [WiphyQueue.step]
    split_ifs with hacts
    · refine ⟨h.dispatcher, h.shutdown, fun hne => h.callbacks fun hnil => hne ?_,
        fun hne => absurd hacts.1 hne, h.hand⟩
      grind
    · exact h
  | worker lags => exact h.workerStep lags
  | fire => exact h.frame rfl rfl rfl rfl rfl rfl
  | trampoline => exact h.trampoline
  | shutdown => exact h.shutdownStep

/-- So it is in every interleaving. -/
lemma control_history (σ : ℕ → WiphyEvent ι N) (n : ℕ) : (history σ n).Control := by
  induction n with
  | zero =>
    exact ⟨⟨fun heq => absurd heq (by simp [history]), fun hfalse => hfalse.elim⟩,
      ⟨fun heq => absurd heq (by simp [history]), fun heq => absurd heq (by simp [history])⟩,
      fun hne => absurd rfl hne, fun hne => absurd rfl hne,
      fun hsome => absurd hsome Bool.false_ne_true⟩
  | succ n ih => exact ih.step (σ n)

end Control

section Books

variable {s : WiphyQueue ι N} {now : ℕ} {e : WiphyEvent ι N}

lemma mem_of_look {lags : List ℕ} {x : Entry N} (hclock : s.clock ≤ lastMs)
    (hlook : (s.look lags).2.1 = some x) : x ∈ s.nodes.pending ∧
      timeAfterEq (jiffies (s.look lags).1) x.deadline = true := by
  by_cases hstop : s.nodes.stopping = true
  · grind [look]
  · rw [look, if_neg hstop] at hlook ⊢
    exact (scan_found hclock lags _ none).2.2 x hlook

lemma clock_look (hclock : s.clock ≤ lastMs) (lags : List ℕ) :
    s.clock ≤ (s.look lags).1 ∧ (s.look lags).1 ≤ lastMs := by
  unfold look
  split_ifs
  · exact ⟨le_rfl, hclock⟩
  · exact ⟨(scan_found hclock lags _ none).1, (scan_found hclock lags _ none).2.1⟩

lemma Control.hand_of_loops (h : s.Control) {budget : ℕ} {again : Bool}
    (hphase : s.dispatcher = .loops budget again) : s.nodes.hand = none := by
  have hlocked : Locked s.dispatcher := by rw [hphase]; trivial
  by_contra hsome
  obtain hflushes | ⟨b, hb⟩ := h.hand (Option.isSome_iff_ne_none.mpr hsome)
  · rw [(h.outside_of_locked hlocked (by simp [hphase])).2] at hflushes
    exact absurd hflushes (by simp)
  · rw [hphase] at hb
    exact absurd hb (by simp)

/-- The event queues the node. -/
def Queues (e : WiphyEvent ι N) (w : N) (delay : UInt64) : Prop :=
  e = .clientQueue w delay ∨ ∃ i, e = .queue i w delay

variable [DecidableEq N]

lemma Books.moves (h : s.Books now) (hc : s.Control) (hclock : s.clock ≤ lastMs) {l : Nodes N}
    (hm : NodeMoves now e s l) :
    l.Listed ∧ (l.tickets.Perm s.nodes.tickets ∨ l.tickets.Perm (now :: s.nodes.tickets)) := by
  cases hm with
  | same => exact ⟨h.listed, .inl (List.Perm.refl _)⟩
  | accept w delay he hfreed =>
    exact ⟨h.listed.accept hfreed now s.clock delay, s.nodes.tickets_accept now s.clock w delay⟩
  | cancel w he hacts => exact ⟨h.listed.cancel w, .inl (h.listed.tickets_cancel w)⟩
  | flush w hacts =>
    exact ⟨h.listed.flush w, .inl (h.listed.tickets_flush (hc.hand_of_acts hacts) w)⟩
  | free w hacts hidle =>
    exact ⟨h.listed.free hidle (hc.hand_of_acts hacts), .inl (List.Perm.refl _)⟩
  | take x lags budget again hphase hlook =>
    obtain ⟨hx, -⟩ := mem_of_look hclock hlook
    exact ⟨h.listed.take hx, .inl (h.listed.tickets_take (hc.hand_of_loops hphase) hx)⟩
  | start budget hphase => exact ⟨h.listed.start _ _, .inl (s.nodes.tickets_start _ _)⟩
  | startFlushed hphase => exact ⟨h.listed.start _ _, .inl (s.nodes.tickets_start _ _)⟩
  | drain he hphase => exact ⟨h.listed.drain, .inl s.nodes.tickets_drain⟩

lemma clock_workerStep (hclock : s.clock ≤ lastMs) (lags : List ℕ) :
    s.clock ≤ (s.workerStep now lags).clock ∧ (s.workerStep now lags).clock ≤ lastMs := by
  unfold workerStep
  cases s.dispatcher with
  | loops budget again =>
    cases budget with
    | zero => exact ⟨le_rfl, hclock⟩
    | succ budget =>
      dsimp only
      obtain ⟨x, -, heq⟩ | ⟨y, -, -, heq⟩ | ⟨-, -, heq⟩ := search_cases s lags budget
      all_goals
        rw [heq]
        exact clock_look hclock lags
  | idle | waits | calls _ =>
    dsimp only
    split_ifs <;> exact ⟨le_rfl, hclock⟩
  | chosen _ | programs _ | enters _ | unlocks _ | requeues _ | returns => exact ⟨le_rfl, hclock⟩

variable [DecidableEq ι] [Fintype ι]

/-- Every event keeps the list sound and the tickets in one place. -/
lemma Books.step (h : s.Books now) (hc : s.Control) (hclock : s.clock ≤ lastMs)
    (e : WiphyEvent ι N) : (s.step now e).Books (now + 1) := by
  obtain ⟨hlisted, hsame | hnew⟩ := h.moves hc hclock (nodes_step s now e)
  · exact ⟨hlisted, hsame.nodup_iff.mpr h.distinct,
      fun t ht => Nat.lt_succ_of_lt (h.past t (hsame.mem_iff.mp ht))⟩
  · refine ⟨hlisted, hnew.nodup_iff.mpr (List.nodup_cons.mpr ⟨?_, h.distinct⟩), fun t ht => ?_⟩
    · exact fun hmem => Nat.lt_irrefl now (h.past now hmem)
    · obtain rfl | ht := List.mem_cons.mp (hnew.mem_iff.mp ht)
      · exact Nat.lt_succ_self t
      · exact Nat.lt_succ_of_lt (h.past t ht)

lemma clock_step (hclock : s.clock ≤ lastMs) (e : WiphyEvent ι N) :
    s.clock ≤ (s.step now e).clock ∧ (s.step now e).clock ≤ lastMs := by
  cases e with
  | tick lag => exact ⟨le_advance _ _, advance_le hclock⟩
  | worker lags => exact clock_workerStep hclock lags
  | queue _ _ _ | step _ | lock _ | clientQueue _ _ | clientCancel _ | clientFlush _ | clientFree _
  | callbackReturns =>
    grind [step]
  | unlock =>
    grind [step]
  | clientStep =>
    grind [step]
  | fire => exact ⟨le_rfl, hclock⟩
  | trampoline =>
    grind [step, trampoline]
  | shutdown =>
    grind [step, shutdownStep]

/-- The clock stays below the last millisecond. -/
lemma clock_history (σ : ℕ → WiphyEvent ι N) (n : ℕ) : (history σ n).clock ≤ lastMs := by
  induction n with
  | zero => exact Nat.zero_le _
  | succ n ih => exact (clock_step ih (σ n)).2

/-- In every interleaving the list is sound. -/
lemma books_history (σ : ℕ → WiphyEvent ι N) (n : ℕ) : (history σ n).Books n := by
  induction n with
  | zero =>
    refine ⟨⟨fun w => ?_, List.nodup_nil, fun e he => absurd he List.not_mem_nil⟩, List.nodup_nil,
      fun t ht => absurd ht List.not_mem_nil⟩
    grind [history]
  | succ n ih => exact ih.step (control_history σ n) (clock_history σ n) (σ n)

end Books

section Runs

variable {s : WiphyQueue ι N} {now : ℕ} {e : WiphyEvent ι N} {l : Nodes N}

variable [DecidableEq N]

lemma NodeMoves.entries (hm : NodeMoves now e s l) (hclock : s.clock ≤ lastMs) {x : Entry N}
    (hx : x ∈ l.entries) : x ∈ s.nodes.entries ∨
      x.ticket = now ∧ x.queuedAt = s.clock ∧ x.deadline = jiffies s.clock + x.delay ∧
        Queues e x.node x.delay := by
  cases hm with
  | same => exact .inl hx
  | accept w delay he hfreed =>
    refine (Nodes.mem_entries_accept hx).imp_right ?_
    rintro rfl
    exact ⟨rfl, rfl, rfl, he⟩
  | cancel w he hacts => exact .inl (s.nodes.entries_cancel w hx)
  | flush w hacts => exact .inl (s.nodes.entries_flush w hx)
  | free w hacts hidle => exact .inl hx
  | take y lags budget again hphase hlook =>
    exact .inl (Nodes.entries_take (mem_of_look hclock hlook).1 hx)
  | start budget hphase => exact .inl (s.nodes.entries_start _ _ hx)
  | startFlushed hphase => exact .inl (s.nodes.entries_start _ _ hx)
  | drain he hphase => exact .inl (List.mem_append_right _ hx)

lemma NodeMoves.runs (hm : NodeMoves now e s l) : l.runs = s.nodes.runs ∨
    ∃ x flushed, s.nodes.hand = some x ∧ l.runs = s.nodes.runs ++ [⟨x, s.clock, flushed⟩] ∧
      (flushed = true ∧ s.client = .flushes ∨ flushed = false ∧ ∃ b, s.dispatcher = .chosen b) := by
  have hstart : ∀ flushed, (s.nodes.start s.clock flushed).runs = s.nodes.runs ∨
      ∃ x, s.nodes.hand = some x ∧
        (s.nodes.start s.clock flushed).runs = s.nodes.runs ++ [⟨x, s.clock, flushed⟩] := by
    unfold Nodes.start
    grind
  have hcancel : ∀ w, (s.nodes.cancel w).runs = s.nodes.runs := by
    intro w
    unfold Nodes.cancel
    split_ifs <;> rfl
  cases hm with
  | same => exact .inl rfl
  | accept w delay he hfreed =>
    left
    unfold Nodes.accept
    split_ifs <;> rfl
  | cancel w he hacts => exact .inl (hcancel w)
  | flush w hacts =>
    left
    unfold Nodes.flush
    split_ifs
    · rfl
    · exact hcancel w
  | free w hacts hidle => exact .inl rfl
  | take y lags budget again hphase hlook => exact .inl rfl
  | start budget hphase =>
    grind
  | startFlushed hphase =>
    grind
  | drain he hphase => exact .inl rfl

/-- What is known of the nodes that are still to be called, and of the runs. -/
structure Timely (σ : ℕ → WiphyEvent ι N) (s : WiphyQueue ι N) : Prop where
  made : ∀ x ∈ s.nodes.entries, x.Made s.clock ∧ Queues (σ x.ticket) x.node x.delay
  due : ∀ b, s.dispatcher = .chosen b → ∀ x, s.nodes.hand = some x → x.Sane → x.due ≤ s.clock
  runs : ∀ r ∈ s.nodes.runs, Queues (σ r.entry.ticket) r.entry.node r.entry.delay ∧
    (r.flushed = false → r.entry.Sane → r.entry.due ≤ r.started)

/-- The dispatcher chooses nodes that are due. -/
lemma chosen_workerStep {σ : ℕ → WiphyEvent ι N} (h : s.Timely σ) (hclock : s.clock ≤ lastMs)
    {lags : List ℕ} {b : ℕ} (hphase : (s.workerStep now lags).dispatcher = .chosen b) {x : Entry N}
    (hx : (s.workerStep now lags).nodes.hand = some x) (hsane : x.Sane) :
    x.due ≤ (s.workerStep now lags).clock := by
  unfold workerStep at hphase hx ⊢
  cases hwas : s.dispatcher with
  | loops budget again =>
    cases budget with
    | zero =>
      rw [hwas] at hphase
      exact absurd hphase (by simp)
    | succ budget =>
      rw [hwas] at hphase hx
      dsimp only at hphase hx ⊢
      obtain ⟨y, hlook, heq⟩ | ⟨y, -, -, heq⟩ | ⟨-, -, heq⟩ := search_cases s lags budget
      · rw [heq] at hx ⊢
        obtain rfl : y = x := Option.some.inj hx
        obtain ⟨hmem, hdue⟩ := mem_of_look hclock hlook
        obtain ⟨hle, hlast⟩ := clock_look hclock lags
        exact (h.made y (List.mem_append_left _ hmem)).1.due_of_timeAfterEq hle hlast hsane hdue
      · rw [heq] at hphase
        exact absurd hphase (by simp)
      · rw [heq] at hphase
        exact absurd hphase (by simp)
  | chosen budget =>
    rw [hwas] at hphase
    exact absurd hphase (by simp)
  | idle | waits | calls _ =>
    rw [hwas] at hphase
    dsimp only at hphase
    split_ifs at hphase
    all_goals simp_all
  | programs _ | enters _ | unlocks _ | requeues _ | returns =>
    rw [hwas] at hphase
    exact absurd hphase (by simp)

lemma NodeMoves.hand_of_chosen (hm : NodeMoves now e s l) (hc : s.Control) {b : ℕ}
    (hchosen : s.dispatcher = .chosen b) : l.hand = s.nodes.hand ∨ l.hand = none := by
  have hlocked : Locked s.dispatcher := by rw [hchosen]; trivial
  obtain ⟨hcallbacks, hclient⟩ := hc.outside_of_locked hlocked (by simp [hchosen])
  have hacts : ¬s.Acts := fun hacts => by
    obtain ⟨i, hi⟩ | ⟨-, hne⟩ := inside_iff.mp hacts.2
    · rw [hc.dispatcher.2 hlocked] at hi
      cases hi
    · exact hne hcallbacks
  cases hm with
  | same => exact .inl rfl
  | accept w delay he hfreed => exact .inl (Nodes.accept_hand _ _ _ _ _)
  | cancel w he h => exact absurd h hacts
  | flush w h => exact absurd h hacts
  | free w h hidle => exact absurd h hacts
  | take y lags budget again hphase hlook =>
    grind
  | start budget hphase => exact .inr (Nodes.start_hand _ _ _)
  | startFlushed hphase => exact .inr (Nodes.start_hand _ _ _)
  | drain he hphase => exact .inl rfl

variable [DecidableEq ι] [Fintype ι]

/-- Only the worker moves the dispatcher. -/
lemma dispatcher_step (hworker : ∀ lags, e ≠ .worker lags) :
    (s.step now e).dispatcher = s.dispatcher := by
  cases e with
  | worker lags => exact absurd rfl (hworker lags)
  | fire => rfl
  | trampoline => exact (trampoline_frame s).2.1
  | shutdown => exact (shutdownStep_frame s).1
  | tick _ | queue _ _ _ | step _ | lock _ | unlock | clientQueue _ _ | clientCancel _
  | clientFlush _ | clientFree _ | clientStep | callbackReturns => exact (plain_step s now rfl).2.1

/-- A call stems from a queueing, and comes when the node is due unless it is flushed. -/
lemma Timely.step {σ : ℕ → WiphyEvent ι N} (h : s.Timely σ) (hc : s.Control)
    (hclock : s.clock ≤ lastMs) : (s.step now (σ now)).Timely σ := by
  have hm := nodes_step s now (σ now)
  have hlater : s.clock ≤ (s.step now (σ now)).clock := (clock_step hclock (σ now)).1
  refine ⟨fun x hx => ?_, fun b hchosen x hx hsane => ?_, fun r hr => ?_⟩
  · obtain hold | ⟨hticket, hqueued, hdeadline, hevent⟩ := hm.entries hclock hx
    · exact ⟨(h.made x hold).1.later hlater, (h.made x hold).2⟩
    · refine ⟨⟨hqueued ▸ hdeadline, hqueued ▸ hlater⟩, ?_⟩
      rw [hticket]
      exact hevent
  · by_cases hworker : ∃ lags, σ now = .worker lags
    · obtain ⟨lags, hlags⟩ := hworker
      rw [hlags] at hchosen hx ⊢
      exact chosen_workerStep h hclock hchosen hx hsane
    · rw [dispatcher_step fun lags hlags => hworker ⟨lags, hlags⟩] at hchosen
      obtain hsame | hnone := hm.hand_of_chosen hc hchosen
      · rw [hsame] at hx
        exact (h.due b hchosen x hx hsane).trans hlater
      grind
  · obtain hsame | ⟨x, flushed, hhand, hruns, hwho⟩ := hm.runs
    · rw [hsame] at hr
      exact h.runs r hr
    · rw [hruns] at hr
      obtain hr | hr := List.mem_append.mp hr
      · exact h.runs r hr
      · obtain rfl := List.mem_singleton.mp hr
        have hentry : x ∈ s.nodes.entries :=
          List.mem_append_right _ (Option.mem_toList.mpr hhand)
        refine ⟨(h.made x hentry).2, fun hflushed hsane => ?_⟩
        obtain ⟨htrue, -⟩ | ⟨-, b, hchosen⟩ := hwho
        · cases hflushed.symm.trans htrue
        · exact h.due b hchosen x hhand hsane

/-- So it is in every interleaving. -/
lemma timely_history (σ : ℕ → WiphyEvent ι N) (n : ℕ) : (history σ n).Timely σ := by
  induction n with
  | zero =>
    exact ⟨fun x hx => absurd hx List.not_mem_nil, fun b hb => absurd hb (by simp [history]),
      fun r hr => absurd hr List.not_mem_nil⟩
  | succ n ih => exact ih.step (control_history σ n) (clock_history σ n)

lemma later_of_cancel (σ : ℕ → WiphyEvent ι N) {n : ℕ} {w : N} (hcancel : σ n = .clientCancel w)
    (hacts : (history σ n).Acts) {m : ℕ} (hm : n < m) :
    (∀ x ∈ (history σ m).nodes.entries, x.node = w → n < x.ticket) ∧
      ∀ r ∈ (history σ m).nodes.runs, r ∉ (history σ n).nodes.runs → r.entry.node = w →
        n < r.entry.ticket := by
  induction m with
  | zero => exact absurd hm (Nat.not_lt_zero n)
  | succ m ih =>
    obtain hlt | rfl := Nat.lt_succ_iff_lt_or_eq.mp hm
    · have hmoves := nodes_step (history σ m) m (σ m)
      obtain ⟨hentries, hruns⟩ := ih hlt
      refine ⟨fun x hx hnode => ?_, fun r hr hnew hnode => ?_⟩
      · obtain hold | ⟨hticket, -⟩ := hmoves.entries (clock_history σ m) hx
        · exact hentries x hold hnode
        · rw [hticket]
          exact hlt
      · obtain hsame | ⟨x, flushed, hhand, hadds, -⟩ := hmoves.runs
        · exact hruns r (hsame ▸ hr) hnew hnode
        · have hr' : r ∈ (history σ m).nodes.runs ++ [_] := hadds ▸ hr
          obtain hr' | hr' := List.mem_append.mp hr'
          · exact hruns r hr' hnew hnode
          · rw [List.mem_singleton.mp hr'] at hnode ⊢
            exact hentries x (List.mem_append_right _ (Option.mem_toList.mpr hhand)) hnode
    · -- the cancel itself unlinks the node, and whoever cancels has nothing in hand
      have hnodes : (history σ (n + 1)).nodes = (history σ n).nodes.cancel w := by
        grind [history, step]
      have hlisted := (books_history σ n).listed
      have hhand := (control_history σ n).hand_of_acts hacts
      rw [hnodes]
      refine ⟨fun x hx hnode => absurd hnode ?_, fun r hr hnew => absurd ?_ hnew⟩
      · grind [Nodes.entries, Nodes.cancel_hand, Nodes.cancel, hlisted.split, hlisted.queued]
      · unfold Nodes.cancel at hr
        split_ifs at hr <;> exact hr

end Runs

end WiphyQueue

end AirportAwdl.Compat
