import AirportAwdl.Hal.ManagedCall

/-!
# Wiphy work

`RTWWiphyWork.c.inc`: work nodes of a wiphy, which one dispatcher runs under the wiphy mutex. Nodes are
queued with a delay by any thread, with or without the mutex, and are cancelled or flushed by whoever
holds the mutex: a thread, or a callback. The dispatcher is one item of a work queue, and one timer,
which the dispatcher alone programs, queues it again for the next deadline. The timer runs on a managed
thread call.

Each step below is one section under a lock or one access outside of it; the steps of all threads
interleave in any order. `queue_work` is one step: its item is the dispatcher's, whose `canceling` only
the shutdown raises. The clock advances at any time, also within a scan. It counts milliseconds, and
its nanoseconds fit 64 bits. The two readings of the clock in `mod_timer` are one, and XNU may start a
pending call at any time.

Nobody uses a node that was freed, and none is freed while it is queued. The shutdown is called when no
thread is in `rtw89_wiphy_queue`, and no thread starts anything after it. The tickets, the times at
which nodes were queued, their delays, and the books (`runs`, `removed`) are no part of the source.
-/

namespace AirportAwdl.Compat

open Hal

variable {ι N : Type}

/-- The last millisecond whose nanoseconds fit 64 bits. -/
def lastMs : ℕ := (2 ^ 64 - 1) / 1000000

def advance (clock lag : ℕ) : ℕ := if clock + lag ≤ lastMs then clock + lag else clock

def jiffies (clock : ℕ) : UInt64 := .ofNat clock

/-- `time_after_eq`: the difference is not negative as a `long`. -/
def timeAfterEq (a b : UInt64) : Bool := (a - b).toNat < 2 ^ 63

/-- `time_before`: the difference is negative as a `long`. -/
def timeBefore (a b : UInt64) : Bool := 2 ^ 63 ≤ (a - b).toNat

/-- A node in the list. -/
structure Entry (N : Type) where
  node : N
  deadline : UInt64
  ticket : ℕ
  queuedAt : ℕ
  delay : UInt64
deriving DecidableEq

/-- When the node is due, were there no limit to the numbers. -/
def Entry.due (e : Entry N) : ℕ := e.queuedAt + e.delay.toNat

/-- A call of a node's function. -/
structure Run (N : Type) where
  entry : Entry N
  /-- When it was called, -/
  started : ℕ
  /-- and whether by a flush. -/
  flushed : Bool
deriving DecidableEq

/-- The list of nodes. -/
structure Nodes (N : Type) where
  stopping : Bool := false
  pending : List (Entry N) := []
  queued : N → Bool := fun _ => false
  /-- The memory of the node was freed. -/
  freed : N → Bool := fun _ => false
  /-- The node that was unlinked to be called. -/
  hand : Option (Entry N) := none
  runs : List (Run N) := []
  removed : List ℕ := []

/-- The loop of the dispatcher's section, with the time that passes before each reading of the clock.
What it finds is the time in the end, the node that is due, and the earliest of the other deadlines. -/
def scan : ℕ → List ℕ → List (Entry N) → Option UInt64 → ℕ × Option (Entry N) × Option UInt64
  | clock, _, [], earliest => (clock, none, earliest)
  | clock, lags, e :: rest, earliest =>
    let clock := advance clock (lags.headD 0)
    if timeAfterEq (jiffies clock) e.deadline then (clock, some e, earliest)
    else
      let sooner := earliest.all fun x => timeBefore e.deadline x
      scan clock lags.tail rest (if sooner then some e.deadline else earliest)

namespace Nodes

variable [DecidableEq N]

/-- The section of `rtw89_wiphy_queue`. -/
def accept (l : Nodes N) (now clock : ℕ) (w : N) (delay : UInt64) : Nodes N :=
  if !l.stopping && !l.queued w then
    { l with
      pending := l.pending ++ [⟨w, jiffies clock + delay, now, clock, delay⟩]
      queued := Function.update l.queued w true }
  else l

/-- The link of a node. -/
def entry (l : Nodes N) (w : N) : Option (Entry N) := l.pending.find? fun e => e.node = w

/-- A node leaves the list. -/
def unlink (l : Nodes N) (w : N) : Nodes N :=
  { l with
    pending := l.pending.eraseP fun e => e.node = w
    queued := Function.update l.queued w false }

/-- The section of `rtw89_wiphy_cancel`. -/
def cancel (l : Nodes N) (w : N) : Nodes N :=
  if l.queued w then
    { l.unlink w with removed := l.removed ++ ((l.entry w).map Entry.ticket).toList }
  else l

/-- The section of `rtw89_wiphy_flush`. -/
def flush (l : Nodes N) (w : N) : Nodes N :=
  if l.queued w && !l.stopping then { l.unlink w with hand := l.entry w } else l.cancel w

/-- The dispatcher unlinks the node that is due. -/
def take (l : Nodes N) (e : Entry N) : Nodes N := { l.unlink e.node with hand := some e }

omit [DecidableEq N] in
/-- The node's function is called. -/
def start (l : Nodes N) (clock : ℕ) (flushed : Bool) : Nodes N :=
  match l.hand with
  | none => l
  | some e => { l with hand := none, runs := l.runs ++ [⟨e, clock, flushed⟩] }

/-- The section of `rtw89_wiphy_queue_shutdown`. -/
def drain (l : Nodes N) : Nodes N :=
  { l with
    stopping := true
    pending := []
    queued := fun w => l.queued w && !l.pending.any fun e => e.node = w
    removed := l.removed ++ l.pending.map Entry.ticket }

end Nodes

/-- The dispatcher as an item of the work queue. -/
structure WorkItem where
  pending : Bool := false
  owner : Bool := false
  canceling : ℕ := 0
deriving DecidableEq

def WorkItem.queueWork (item : WorkItem) : WorkItem :=
  if item.pending || item.canceling != 0 then item else { item with pending := true, owner := true }

/-- Where `rtw89_wiphy_dispatch` is; it is the queue's current item unless `idle`. -/
inductive Dispatcher where
  | idle
  /-- Before it has the mutex. -/
  | waits
  /-- At the head of its loop. -/
  | loops (budget : ℕ) (again : Bool)
  /-- It has unlinked a node. -/
  | chosen (budget : ℕ)
  /-- The node's function is running. -/
  | calls (budget : ℕ)
  /-- Before `mod_timer`. -/
  | programs (earliest : UInt64)
  /-- In `mod_timer`, before it enters the thread call. -/
  | enters (deadline : UInt64)
  | unlocks (again : Bool)
  /-- Before it queues itself again, if it has to. -/
  | requeues (again : Bool)
  | returns
deriving DecidableEq

/-- `timer_list` -/
structure WiphyTimer where
  active : Bool := false
  expires : UInt64 := 0
  /-- When it was programmed; no part of the source. -/
  programmed : ℕ := 0
deriving DecidableEq

/-- Where `timer_call_fn` is. -/
inductive TimerFn where
  /-- Before it reads `active`, -/
  | checks
  /-- before it clears `active`, -/
  | clears
  /-- in `rtw89_wiphy_timer`, before `queue_work`. -/
  | queues
  | returns
deriving DecidableEq

/-- The delay of `mod_timer`. -/
def delayMs (clock : ℕ) (expires : UInt64) : ℕ :=
  let d := (expires - jiffies clock).toNat
  if d = 0 ∨ 2 ^ 63 ≤ d then 1 else d

/-- The deadline that `mod_timer` gives to the thread call, in milliseconds. -/
def callDeadline (clock : ℕ) (expires : UInt64) : UInt64 :=
  .ofNat (clock + delayMs clock expires % 2 ^ 32)

/-- Who holds the wiphy mutex. -/
inductive Holder (ι : Type) where
  | dispatcher
  | thread (i : ι)
  | shutdown
deriving DecidableEq

/-- Where the code is that runs under the mutex: a thread's own, or the innermost callback. -/
inductive Client where
  | acts
  /-- In `rtw89_wiphy_queue`, before `queue_work`. -/
  | queues
  /-- In `rtw89_wiphy_flush`, before it calls the function. -/
  | flushes
deriving DecidableEq

/-- Where `rtw89_wiphy_queue_shutdown` is. -/
inductive Shutdown where
  | outside
  | locks
  | stops
  | unlocks
  /-- In `del_timer_sync`: before it clears `active`, -/
  | clears
  /-- before the cancel of the thread call, -/
  | cancels
  /-- waiting for its last instance. -/
  | awaitsTimer
  /-- In `cancel_work_sync`: before it raises `canceling`, -/
  | raises
  /-- before it loads `owner`, -/
  | loads
  /-- before its section, -/
  | removes
  /-- in its loop, -/
  | awaitsWork
  /-- before it lowers `canceling`. -/
  | lowers
  | returned
deriving DecidableEq

/-- `rtw89_wiphy_queue`, with the threads that use it. -/
structure WiphyQueue (ι N : Type) where
  clock : ℕ := 0
  nodes : Nodes N := {}
  mutex : Option (Holder ι) := none
  work : WorkItem := {}
  dispatcher : Dispatcher := .idle
  client : Client := .acts
  /-- The callbacks that are running, the innermost first. -/
  callbacks : List N := []
  timer : WiphyTimer := {}
  call : ManagedCall Unit := {}
  timerFn : TimerFn := .returns
  /-- The thread is in `rtw89_wiphy_queue`, before `queue_work`. -/
  threads : ι → Bool := fun _ => false
  shutdown : Shutdown := .outside

inductive WiphyEvent (ι N : Type) where
  | tick (lag : ℕ)
  /-- A thread calls `rtw89_wiphy_queue`, -/
  | queue (i : ι) (w : N) (delay : UInt64)
  /-- and goes on. -/
  | step (i : ι)
  | lock (i : ι)
  | unlock
  /-- The code under the mutex queues a node, cancels, flushes or frees one, -/
  | clientQueue (w : N) (delay : UInt64)
  | clientCancel (w : N)
  | clientFlush (w : N)
  | clientFree (w : N)
  /-- and goes on. -/
  | clientStep
  | callbackReturns
  /-- The worker takes the dispatcher's next step. -/
  | worker (lags : List ℕ)
  /-- XNU starts the timer's call. -/
  | fire
  /-- The timer's call goes on. -/
  | trampoline
  /-- The shutdown is called, and goes on. -/
  | shutdown

/-- The delay an event queues a node with. -/
def WiphyEvent.delay : WiphyEvent ι N → UInt64
  | .queue _ _ delay | .clientQueue _ delay => delay
  | _ => 0

namespace WiphyQueue

/-- Code other than the dispatcher's own runs under the mutex. -/
def inside (s : WiphyQueue ι N) : Bool :=
  match s.mutex with
  | some (.thread _) => true
  | some .dispatcher => !s.callbacks.isEmpty
  | some .shutdown | none => false

/-- It may make its next call. -/
def Acts (s : WiphyQueue ι N) : Prop := s.client = .acts ∧ s.inside = true

instance instDecidableActs (s : WiphyQueue ι N) : Decidable s.Acts :=
  inferInstanceAs (Decidable (_ ∧ _))

variable [DecidableEq N]

/-- What the dispatcher's section finds. -/
def look (s : WiphyQueue ι N) (lags : List ℕ) : ℕ × Option (Entry N) × Option UInt64 :=
  if s.nodes.stopping then (s.clock, none, none) else scan s.clock lags s.nodes.pending none

/-- The dispatcher's section. -/
def search (s : WiphyQueue ι N) (lags : List ℕ) (budget : ℕ) : WiphyQueue ι N :=
  match s.look lags with
  | (clock, some e, _) =>
    { s with clock := clock, nodes := s.nodes.take e, dispatcher := .chosen budget }
  | (clock, none, some earliest) => { s with clock := clock, dispatcher := .programs earliest }
  | (clock, none, none) => { s with clock := clock, dispatcher := .unlocks false }

variable [DecidableEq ι]

/-- The dispatcher's next step. -/
def workerStep (s : WiphyQueue ι N) (now : ℕ) (lags : List ℕ) : WiphyQueue ι N :=
  match s.dispatcher with
  | .idle =>
    if s.work.pending then { s with work.pending := false, dispatcher := .waits } else s
  | .waits =>
    if s.mutex = none then { s with mutex := some .dispatcher, dispatcher := .loops 64 false } else s
  | .loops 0 again => { s with dispatcher := .unlocks again }
  | .loops (budget + 1) _ => s.search lags budget
  | .chosen budget =>
    { s with
      nodes := s.nodes.start s.clock false
      callbacks := (s.nodes.hand.map Entry.node).toList
      dispatcher := .calls budget }
  | .calls budget => if s.callbacks = [] then { s with dispatcher := .loops budget true } else s
  | .programs earliest =>
    { s with
      timer := { active := true, expires := earliest, programmed := s.clock }
      dispatcher := .enters (callDeadline s.clock earliest) }
  | .enters deadline =>
    { s with call := (s.call.enter now deadline true).2, dispatcher := .unlocks false }
  | .unlocks again => { s with mutex := none, dispatcher := .requeues again }
  | .requeues again =>
    { s with work := if again then s.work.queueWork else s.work, dispatcher := .returns }
  | .returns => { s with dispatcher := .idle }

omit [DecidableEq N] [DecidableEq ι] in
/-- The next step of the timer's call. -/
def trampoline (s : WiphyQueue ι N) : WiphyQueue ι N :=
  match s.call.threadCall.running.map RunningCall.stage with
  | some .executing =>
    match s.timerFn with
    | .checks => { s with timerFn := if s.timer.active then .clears else .returns }
    | .clears => { s with timer.active := false, timerFn := .queues }
    | .queues => { s with work := s.work.queueWork, timerFn := .returns }
    | .returns => { s with call := s.call.trampoline }
  | _ => { s with call := s.call.trampoline, timerFn := .checks }

variable [Fintype ι]

/-- The next step of the shutdown. -/
def shutdownStep (s : WiphyQueue ι N) : WiphyQueue ι N :=
  match s.shutdown with
  | .outside => if ∀ i, s.threads i = false then { s with shutdown := .locks } else s
  | .locks =>
    if s.mutex = none then { s with mutex := some .shutdown, shutdown := .stops } else s
  | .stops => { s with nodes := s.nodes.drain, shutdown := .unlocks }
  | .unlocks => { s with mutex := none, shutdown := .clears }
  | .clears => { s with timer.active := false, shutdown := .cancels }
  | .cancels => { s with call := s.call.call () true false false, shutdown := .awaitsTimer }
  | .awaitsTimer =>
    if s.call.outstanding = 0 then
      { s with call := s.call.threadStep () false, shutdown := .raises }
    else s
  | .raises => { s with work.canceling := s.work.canceling + 1, shutdown := .loads }
  | .loads => { s with shutdown := if s.work.owner then .removes else .lowers }
  | .removes =>
    { s with
      work.pending := false
      shutdown := if s.dispatcher = .idle then .lowers else .awaitsWork }
  | .awaitsWork => if s.dispatcher = .idle then { s with shutdown := .lowers } else s
  | .lowers => { s with work.canceling := s.work.canceling - 1, shutdown := .returned }
  | .returned => s

def step (s : WiphyQueue ι N) (now : ℕ) : WiphyEvent ι N → WiphyQueue ι N
  | .tick lag => { s with clock := advance s.clock lag }
  | .queue i w delay =>
    if s.threads i = false ∧ s.nodes.freed w = false ∧ s.shutdown = .outside then
      { s with
        nodes := s.nodes.accept now s.clock w delay
        threads := Function.update s.threads i true }
    else s
  | .step i =>
    if s.threads i then
      { s with work := s.work.queueWork, threads := Function.update s.threads i false }
    else s
  | .lock i =>
    if s.mutex = none ∧ s.shutdown = .outside then { s with mutex := some (.thread i) } else s
  | .unlock =>
    match s.mutex with
    | some (.thread _) => if s.client = .acts ∧ s.callbacks = [] then { s with mutex := none } else s
    | _ => s
  | .clientQueue w delay =>
    if s.Acts ∧ s.nodes.freed w = false then
      { s with nodes := s.nodes.accept now s.clock w delay, client := .queues }
    else s
  | .clientCancel w => if s.Acts then { s with nodes := s.nodes.cancel w } else s
  | .clientFlush w =>
    if s.Acts then
      { s with
        nodes := s.nodes.flush w
        client := if (s.nodes.flush w).hand.isSome then .flushes else .acts }
    else s
  | .clientFree w =>
    if s.Acts ∧ s.nodes.queued w = false then
      { s with nodes.freed := Function.update s.nodes.freed w true }
    else s
  | .clientStep =>
    match s.client with
    | .acts => s
    | .queues => { s with work := s.work.queueWork, client := .acts }
    | .flushes =>
      { s with
        nodes := s.nodes.start s.clock true
        callbacks := (s.nodes.hand.map Entry.node).toList ++ s.callbacks
        client := .acts }
  | .callbackReturns => if s.Acts then { s with callbacks := s.callbacks.tail } else s
  | .worker lags => s.workerStep now lags
  | .fire => { s with call.threadCall := s.call.threadCall.start }
  | .trampoline => s.trampoline
  | .shutdown => s.shutdownStep

/-- The queue after `n` events. -/
def history (σ : ℕ → WiphyEvent ι N) : ℕ → WiphyQueue ι N
  | 0 => {}
  | n + 1 => (history σ n).step n (σ n)

end WiphyQueue

end AirportAwdl.Compat
