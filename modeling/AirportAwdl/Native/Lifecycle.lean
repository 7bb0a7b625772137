import AirportAwdl.Lib.Program
import AirportAwdl.Native.Runtime

/-!
# The life of the runtime

Runs of `Runtime` over any backend whose operations may call back into the runtime, to any
depth. What a backend operation does is a tree: it returns, or it makes a call of the runtime
and goes on with the answer.

The argument has two halves. While a `Call` is open, no piece of the runtime can close the
backend, so every piece keeps `Sound` (`Keeps`). Once the runtime is stopped, every entry point
returns at once (`perform_stopped`), so the last steps of a shutdown run undisturbed.
-/

namespace AirportAwdl.Native

open ByteBuffer StateProgram

/-- The entry points of the runtime. -/
inductive RuntimeCall where
  | prepare (interface : Option ℕ) (mac : Mac)
  | enable (value : Bool)
  | shutdown
  | setAddress (mac : Mac)
  | transmitEthernet (bytes : Bytes)
  | receiveRadioData (frame metadata : Bytes)
  | observeRadioAction (frame metadata : Bytes)
  | timerFired
  | request (payload : Option Runtime.Control)
deriving DecidableEq, Repr

/-- What an entry point returns. -/
inductive CallResult where
  | done
  | io (result : IOReturn)
  | flag (value : Bool)
  | reply (result : IOReturn) (reply : Option Reply)
deriving DecidableEq, Repr

def RuntimeCall.run {σ : Type} (backend : RuntimeBackend σ) : RuntimeCall → StateM σ CallResult
  | .prepare interface mac => .io <$> Runtime.prepare backend interface mac
  | .enable value => .io <$> Runtime.enable backend value
  | .shutdown => (fun _ => .done) <$> Runtime.shutdown backend
  | .setAddress mac => .io <$> Runtime.setAddress backend mac
  | .transmitEthernet bytes => .flag <$> Runtime.transmitEthernet backend bytes
  | .receiveRadioData frame metadata => .flag <$> Runtime.receiveRadioData backend frame metadata
  | .observeRadioAction frame metadata =>
    (fun _ => .done) <$> Runtime.observeRadioAction backend frame metadata
  | .timerFired => (fun _ => .done) <$> Runtime.timerFired backend
  | .request payload => (fun r => .reply r.1 r.2) <$> Runtime.request backend payload

inductive LifeEvent where
  | returned (c : RuntimeCall)
  | began (op : BackendOp)
  | ended (op : BackendOp)
  | retain (interface : ℕ)
  | release (interface : ℕ)
deriving DecidableEq, Repr

structure LifeWorld (B : Type) where
  runtime : Runtime := {}
  backend : B
  log : List LifeEvent := []

/-- What a backend operation does, with the backend's own state `B`. -/
inductive Behaviour (B R : Type) : Type where
  | done (result : R) (b : B)
  | call (c : RuntimeCall) (b : B) (next : CallResult → B → Behaviour B R)

/-- Any backend: what its operations do, and what its queries answer. -/
structure AnyBackend (B : Type) where
  invoke : (op : BackendOp) → B → Behaviour B op.Result
  query : (q : BackendQuery) → B → q.Result × B

section
variable {B : Type} {w w' w'' : LifeWorld B} {backend : AnyBackend B}

def LifeWorld.record (e : LifeEvent) : StateM (LifeWorld B) Unit :=
  modify fun w => { w with log := w.log ++ [e] }

open LifeWorld (record)

def Behaviour.run {R : Type} (nested : RuntimeCall → StateM (LifeWorld B) CallResult) :
    Behaviour B R → StateM (LifeWorld B) R
  | .done result b => do
    modify fun w => { w with backend := b }
    pure result
  | .call c b next => do
    modify fun w => { w with backend := b }
    let result ← nested c
    let w ← get
    (next result w.backend).run nested

/-- The backend as the runtime sees it, with the calls it makes run by `nested`. -/
def AnyBackend.over (backend : AnyBackend B)
    (nested : RuntimeCall → StateM (LifeWorld B) CallResult) : RuntimeBackend (LifeWorld B) where
  runtime := LifeWorld.runtime
  setRuntime r w := { w with runtime := r }
  invoke op := do
    record (.began op)
    let w ← get
    let result ← (backend.invoke op w.backend).run nested
    record (.ended op)
    pure result
  query q := fun w =>
    ((backend.query q w.backend).1, { w with backend := (backend.query q w.backend).2 })
  retain interface := record (.retain interface)
  release interface := record (.release interface)

/-- A call of the runtime with calls nested at most `depth` deep; a call from deeper down is not
made. -/
def AnyBackend.perform (backend : AnyBackend B) : ℕ → RuntimeCall → StateM (LifeWorld B) CallResult
  | 0, _ => pure .done
  | depth + 1, c => do
    let result ← c.run (backend.over (backend.perform depth))
    record (.returned c)
    pure result

/-- Reachable worlds between outermost calls. -/
inductive LifeRun (backend : AnyBackend B) : LifeWorld B → Prop where
  | start (b : B) : LifeRun backend { backend := b }
  | call {w : LifeWorld B} (depth : ℕ) (c : RuntimeCall) :
      LifeRun backend w → LifeRun backend ((backend.perform depth c).run w).2
  | environment {w : LifeWorld B} (b : B) :
      LifeRun backend w → LifeRun backend { w with backend := b }

def LifeEvent.isBegan : LifeEvent → Bool
  | .began _ => true
  | _ => false

def LifeEvent.isEnded : LifeEvent → Bool
  | .ended _ => true
  | _ => false

def LifeEvent.isOpen : LifeEvent → Bool
  | .began (.open_ ..) => true
  | _ => false

/-- Backend operations that are still running. -/
def running (log : List LifeEvent) : ℤ :=
  log.countP LifeEvent.isBegan - log.countP LifeEvent.isEnded

/-- References to an interface that were taken and not given back. -/
def references (interface : ℕ) (log : List LifeEvent) : ℤ :=
  log.count (.retain interface) - log.count (.release interface)

/-- The peers were revoked, and later abandoned. -/
def Fenced (log : List LifeEvent) : Prop :=
  ∃ a b c, log = a ++ .ended .revokePeers :: b ++ .ended .abandonPeers :: c

/-- A close starts alone, after the peers are fenced, and nothing starts after it. -/
def Orderly (log : List LifeEvent) : Prop :=
  ∀ first rest, log = first ++ .began .close :: rest →
    running first = 0 ∧ Fenced first ∧ ∀ e ∈ rest, e.isBegan = false

@[simp] lemma running_append (a b : List LifeEvent) :
    running (a ++ b) = running a + running b := by
  simp only [running, List.countP_append]
  push_cast
  ring

@[simp] lemma references_append (i : ℕ) (a b : List LifeEvent) :
    references i (a ++ b) = references i a + references i b := by
  simp only [references, List.count_append]
  push_cast
  ring

lemma Orderly.snoc {log : List LifeEvent} {e : LifeEvent} (h : Orderly log)
    (hstart : e.isBegan = true → .began .close ∉ log)
    (hclose : e = .began .close → running log = 0 ∧ Fenced log) : Orderly (log ++ [e]) := by
  intro first rest heq
  rcases List.eq_nil_or_concat rest with rfl | ⟨rest, last, rfl⟩
  · simp_all
  · have heq' : log ++ [e] = (first ++ .began .close :: rest) ++ [last] := by simpa using heq
    obtain ⟨hlog, hlast⟩ := List.append_inj' heq' rfl
    obtain ⟨hrunning, hfenced, hrest⟩ := h first rest hlog
    grind

lemma Orderly.append {log : List LifeEvent} (h : Orderly log) (more : List LifeEvent)
    (hmore : ∀ e ∈ more, e.isBegan = false) : Orderly (log ++ more) := by
  induction more generalizing log with
  | nil => simpa using h
  | cons e more ih =>
    have he := hmore e (by simp)
    have hsnoc : Orderly (log ++ [e]) := by
      refine h.snoc (fun hbegan => absurd (he.symm.trans hbegan) (by decide)) ?_
      rintro rfl
      cases he
    simpa using ih hsnoc fun e' he' => hmore e' (by simp [he'])

/-- What holds whenever the runtime's own code is about to run, with calls open or not. -/
structure Sound (w : LifeWorld B) : Prop where
  unopened : w.runtime.stopped = true → w.runtime.opened = false ∧ w.runtime.enabled = false
  attempted : w.runtime.attempted = true ↔
    (∃ e ∈ w.log, e.isOpen = true) ∧ .began .close ∉ w.log
  closed : .began .close ∈ w.log → w.runtime.stopped = true ∧ w.runtime.calls = 0
  returned : .returned .shutdown ∈ w.log → w.runtime.stopped = true
  revoked : w.runtime.stopped = true → .ended .revokePeers ∈ w.log
  orderly : Orderly w.log

/-- What a piece of the runtime that runs within a call leaves as it was. -/
structure Kept (w w' : LifeWorld B) : Prop where
  sound : Sound w'
  calls : w'.runtime.calls = w.runtime.calls
  running : running w'.log = running w.log
  references : ∀ i, references i w'.log = references i w.log

lemma Kept.refl (h : Sound w) : Kept w w := ⟨h, rfl, rfl, fun _ => rfl⟩

lemma Kept.trans (h : Kept w w') (h' : Kept w' w'') : Kept w w'' :=
  ⟨h'.sound, h'.calls.trans h.calls, h'.running.trans h.running,
    fun i => (h'.references i).trans (h.references i)⟩

/-- What a piece of the runtime does when it runs within a call. -/
def Within (w w' : LifeWorld B) : Prop := Sound w → 0 < w.runtime.calls → Kept w w'

instance : IsPreorder (LifeWorld B) Within where
  refl _ h _ := Kept.refl h
  trans _ _ _ h h' hsound hcalls :=
    have hkept := h hsound hcalls
    hkept.trans (h' hkept.sound (hkept.calls ▸ hcalls))

abbrev Keeps {α : Type} (m : StateM (LifeWorld B) α) : Prop := Preserves Within m

lemma keeps_iff {α : Type} {m : StateM (LifeWorld B) α} :
    Keeps m ↔ ∀ w, Sound w → 0 < w.runtime.calls → wp m (fun _ w' => Kept w w') w := Iff.rfl

/-- What a piece of the runtime does that only asks the backend. -/
structure AskedOnly (w w' : LifeWorld B) : Prop where
  runtime : w'.runtime = w.runtime
  log : w'.log = w.log

instance : IsPreorder (LifeWorld B) AskedOnly where
  refl _ := ⟨rfl, rfl⟩
  trans _ _ _ h h' := ⟨h'.runtime.trans h.runtime, h'.log.trans h.log⟩

lemma Sound.update (h : Sound w) {r : Runtime} (hcalls : r.calls = w.runtime.calls)
    (hattempted : r.attempted = w.runtime.attempted) (hstopped : r.stopped = w.runtime.stopped)
    (hopened : w.runtime.stopped = true → r.opened = false ∧ r.enabled = false) (b : B) :
    Sound { w with runtime := r, backend := b } where
  unopened hs := hopened (hstopped ▸ hs)
  attempted := by
    rw [hattempted]
    exact h.attempted
  closed hclose := by
    rw [hstopped, hcalls]
    exact h.closed hclose
  returned hreturned := hstopped.trans (h.returned hreturned)
  revoked hs := h.revoked (hstopped ▸ hs)
  orderly := h.orderly

lemma Sound.not_closed (h : Sound w) (hcalls : 0 < w.runtime.calls) : .began .close ∉ w.log :=
  fun hclose => absurd (h.closed hclose).2 hcalls.ne'

lemma Sound.snoc (h : Sound w) {e : LifeEvent}
    (hstart : e.isBegan = true → .began .close ∉ w.log)
    (hopen : e.isOpen = true → w.runtime.attempted = true) (hclose : e ≠ .began .close)
    (hshutdown : e = .returned .shutdown → w.runtime.stopped = true) :
    Sound { w with log := w.log ++ [e] } where
  unopened := h.unopened
  attempted := by
    constructor
    · intro hattempted
      obtain ⟨⟨e', he', hopen'⟩, hnot⟩ := h.attempted.mp hattempted
      exact ⟨⟨e', by simp [he'], hopen'⟩, by simp [hnot, hclose.symm]⟩
    · rintro ⟨⟨e', he', hopen'⟩, hnot⟩
      grind [h.attempted.mpr]
  closed hmem := by
    grind [h.closed]
  returned hmem := by
    grind [h.returned]
  revoked hs := by
    simp [h.revoked hs]
  orderly := h.orderly.snoc hstart fun heq => absurd heq hclose

/-- A stopped runtime stays as it is: the entry points only return. -/
def Frozen {α : Type} (m : StateM (LifeWorld B) α) : Prop :=
  ∀ w : LifeWorld B, w.runtime.stopped = true → w.runtime.opened = false →
    wp m (fun _ w' => w'.runtime = w.runtime ∧
      ∃ more, w'.log = w.log ++ more ∧ ∀ e ∈ more, ∃ c, e = .returned c) w

section
variable {backend : AnyBackend B} {nested : RuntimeCall → StateM (LifeWorld B) CallResult}
  {Q : Unit → LifeWorld B → Prop} {f : Runtime → Runtime} {T α : Type} {more : List LifeEvent}

lemma wp_readRuntime {Q : Runtime → LifeWorld B → Prop} :
    wp (Runtime.read (backend.over nested)) Q w ↔ Q w.runtime w := Iff.rfl

lemma wp_updateRuntime :
    wp (Runtime.update (backend.over nested) f) Q w ↔ Q () { w with runtime := f w.runtime } :=
  Iff.rfl

lemma wp_invoke {op : BackendOp} {Q : op.Result → LifeWorld B → Prop} :
    wp ((backend.over nested).invoke op) Q w ↔
      wp ((backend.invoke op w.backend).run nested)
        (fun result v => Q result { v with log := v.log ++ [.ended op] })
        { w with log := w.log ++ [.began op] } := Iff.rfl

lemma wp_behaviour_call {c : RuntimeCall} {b : B}
    {next : CallResult → B → Behaviour B T} {Q : T → LifeWorld B → Prop} :
    wp ((Behaviour.call c b next).run nested) Q w ↔
      wp (nested c) (fun result v => wp ((next result v.backend).run nested) Q v)
        { w with backend := b } := Iff.rfl

lemma keeps_read : Keeps (Runtime.read (backend.over nested)) := fun _ h _ => Kept.refl h

lemma keeps_query (q : BackendQuery) : Keeps ((backend.over nested).query q) :=
  fun _ h _ => ⟨h.update rfl rfl rfl h.unopened _, rfl, rfl, fun _ => rfl⟩

/-- A change of the runtime's fields that its life does not depend on. -/
structure Harmless (r r' : Runtime) : Prop where
  calls : r'.calls = r.calls
  attempted : r'.attempted = r.attempted
  stopped : r'.stopped = r.stopped

lemma keeps_update (hf : ∀ r, Harmless r (f r))
    (hopened : ∀ r, r.opened = false ∧ r.enabled = false →
      (f r).opened = false ∧ (f r).enabled = false) :
    Keeps (Runtime.update (backend.over nested) f) := by
  intro w h _
  have hw := hf w.runtime
  exact ⟨h.update hw.calls hw.attempted hw.stopped (fun hs => hopened _ (h.unopened hs)) _,
    hw.calls, rfl, fun _ => rfl⟩

lemma keeps_behaviour (hnested : ∀ c, Keeps (nested c)) (t : Behaviour B T) :
    Keeps (t.run nested) := by
  induction t with
  | done result b =>
    exact fun _ h _ => ⟨h.update rfl rfl rfl h.unopened _, rfl, rfl, fun _ => rfl⟩
  | call c b next ih =>
    have hset : Keeps (modify fun w : LifeWorld B => { w with backend := b }) :=
      fun _ h _ => ⟨h.update rfl rfl rfl h.unopened _, rfl, rfl, fun _ => rfl⟩
    have hget : Keeps (get : StateM (LifeWorld B) (LifeWorld B)) := fun _ h _ => Kept.refl h
    exact hset.bind fun _ => (hnested c).bind fun result => hget.bind fun v => ih result v.backend

/-- An operation that is running counts as one; it ends before the runtime goes on. -/
lemma invoke_kept (hnested : ∀ c, Keeps (nested c)) {op : BackendOp}
    (h : Sound { w with log := w.log ++ [.began op] }) (hcalls : 0 < w.runtime.calls) :
    wp ((backend.over nested).invoke op) (fun _ w' => Kept w w') w := by
  rw [wp_invoke]
  refine wp_mono (keeps_iff.mp (keeps_behaviour hnested _) _ h hcalls) fun result v hv => ?_
  have hended : Sound { v with log := v.log ++ [.ended op] } :=
    hv.sound.snoc nofun nofun nofun nofun
  refine ⟨hended, hv.calls, ?_, fun i => ?_⟩
  · show running (v.log ++ [.ended op]) = _
    rw [running_append, hv.running, running_append]
    simp [running, LifeEvent.isBegan, LifeEvent.isEnded]
  · show references i (v.log ++ [.ended op]) = _
    rw [references_append, hv.references, references_append]
    simp [references]

lemma keeps_invoke (hnested : ∀ c, Keeps (nested c)) (op : BackendOp) (hclose : op ≠ .close)
    (hopen : (LifeEvent.began op).isOpen = false) : Keeps ((backend.over nested).invoke op) :=
  fun _ h hcalls => invoke_kept hnested (h.snoc (fun _ => h.not_closed hcalls)
    (fun ho => absurd (hopen.symm.trans ho) (by decide)) (by simpa using hclose) nofun) hcalls

lemma frozen_behaviour (hnested : ∀ c, Frozen (nested c)) (t : Behaviour B T) :
    Frozen (t.run nested) := by
  induction t with
  | done result b => exact fun w _ _ => ⟨rfl, [], (List.append_nil _).symm, by simp⟩
  | call c b next ih =>
    intro w hstopped hopened
    rw [wp_behaviour_call]
    refine wp_mono (hnested c _ hstopped hopened) ?_
    rintro result v ⟨hruntime, more, hlog, hmore⟩
    refine wp_mono (ih result v.backend v (by rw [hruntime]; exact hstopped)
      (by rw [hruntime]; exact hopened)) ?_
    grind

/-- What a stopped runtime's operation leaves in the log. -/
lemma invoke_frozen (hnested : ∀ c, Frozen (nested c)) (op : BackendOp)
    (hstopped : w.runtime.stopped = true) (hopened : w.runtime.opened = false) :
    wp ((backend.over nested).invoke op) (fun _ w' => w'.runtime = w.runtime ∧
      ∃ more, w'.log = w.log ++ .began op :: more ++ [.ended op] ∧
        ∀ e ∈ more, ∃ c, e = .returned c) w := by
  rw [wp_invoke]
  refine wp_mono (frozen_behaviour hnested _ _ hstopped hopened) ?_
  grind

lemma wp_pin_retain {o : Option ℕ} : wp (Runtime.pin (backend.over nested).retain o) Q w ↔
      Q () { w with log := w.log ++ o.toList.map .retain } := by
  cases o with
  | none =>
    rw [Option.toList_none, List.map_nil, List.append_nil]
    exact Iff.rfl
  | some i => exact Iff.rfl

lemma wp_pin_release {o : Option ℕ} : wp (Runtime.pin (backend.over nested).release o) Q w ↔
      Q () { w with log := w.log ++ o.toList.map .release } := by
  cases o with
  | none =>
    rw [Option.toList_none, List.map_nil, List.append_nil]
    exact Iff.rfl
  | some i => exact Iff.rfl

/-- Events that are no operations. -/
def NoOperation (more : List LifeEvent) : Prop :=
  ∀ e ∈ more, e.isBegan = false ∧ e.isEnded = false

lemma NoOperation.running (h : NoOperation more) : running more = 0 := by
  have hbegan : more.countP LifeEvent.isBegan = 0 :=
    List.countP_eq_zero.mpr fun e he => by simp [(h e he).1]
  have hended : more.countP LifeEvent.isEnded = 0 :=
    List.countP_eq_zero.mpr fun e he => by simp [(h e he).2]
  simp [Native.running, hbegan, hended]

lemma noOperation_returned (h : ∀ e ∈ more, ∃ c, e = .returned c) : NoOperation more := by
  intro e he
  obtain ⟨c, rfl⟩ := h e he
  exact ⟨rfl, rfl⟩

lemma noOperation_retain (o : Option ℕ) : NoOperation (o.toList.map .retain) := by
  intro e he
  obtain ⟨i, -, rfl⟩ := List.mem_map.mp he
  exact ⟨rfl, rfl⟩

lemma noOperation_release (o : Option ℕ) : NoOperation (o.toList.map .release) := by
  intro e he
  obtain ⟨i, -, rfl⟩ := List.mem_map.mp he
  exact ⟨rfl, rfl⟩

lemma references_returned (h : ∀ e ∈ more, ∃ c, e = .returned c) (i : ℕ) :
    references i more = 0 := by
  have hnot : ∀ e ∈ more, e ≠ .retain i ∧ e ≠ .release i := by
    grind
  have hretain : more.count (.retain i) = 0 := List.count_eq_zero.mpr fun hmem => (hnot _ hmem).1 rfl
  have hrelease : more.count (.release i) = 0 :=
    List.count_eq_zero.mpr fun hmem => (hnot _ hmem).2 rfl
  simp [references, hretain, hrelease]

lemma references_pins (o : Option ℕ) (i : ℕ) :
    references i (o.toList.map .retain) + references i (o.toList.map .release) = 0 := by
  cases o with
  | none => simp [references]
  | some j =>
    by_cases hij : j = i
    · subst hij
      simp [references]
    · simp [references, hij]

lemma running_operation (op : BackendOp) (h : NoOperation more) :
    running (.began op :: more ++ [.ended op]) = 0 := by
  have hsplit : (.began op :: more ++ [.ended op] : List LifeEvent) =
      [.began op] ++ more ++ [.ended op] := by simp
  rw [hsplit, running_append, running_append, h.running]
  simp [running, LifeEvent.isBegan, LifeEvent.isEnded]

lemma references_operation {op : BackendOp} (h : ∀ e ∈ more, ∃ c, e = .returned c) (i : ℕ) :
    references i (.began op :: more ++ [.ended op]) = 0 := by
  have hsplit : (.began op :: more ++ [.ended op] : List LifeEvent) =
      [.began op] ++ more ++ [.ended op] := by simp
  rw [hsplit, references_append, references_append, references_returned h]
  simp [references]

lemma NoOperation.not_mem_close (h : NoOperation more) :
    .began .close ∉ more := fun hmem => absurd (h _ hmem).1 (by decide)

lemma NoOperation.orderly {log more : List LifeEvent} (h : NoOperation more) (hlog : Orderly log) :
    Orderly (log ++ more) := hlog.append _ fun e he => (h e he).1

lemma Sound.append (h : Sound w) (hmore : NoOperation more)
    (hshutdown : .returned .shutdown ∈ more → w.runtime.stopped = true) :
    Sound { w with log := w.log ++ more } := by
  induction more generalizing w with
  | nil =>
    rw [List.append_nil]
    exact h
  | cons e more ih =>
    have he := hmore e (by simp)
    have hsnoc : Sound { w with log := w.log ++ [e] } := by
      refine h.snoc (fun hbegan => absurd (he.1.symm.trans hbegan) (by decide)) ?_ ?_ ?_
      · intro hopen
        cases e with
        | began op => exact absurd he.1 (by simp [LifeEvent.isBegan])
        | _ => exact absurd hopen (by simp [LifeEvent.isOpen])
      · rintro rfl
        cases he.1
      · rintro rfl
        exact hshutdown (by simp)
    have hrest := ih hsnoc (fun e' he' => hmore e' (by simp [he']))
      fun hmem => hshutdown (by simp [hmem])
    simpa using hrest

lemma orderly_close {log pins between after : List LifeEvent} (h : Orderly log)
    (hrunning : running log = 0) (hclose : .began .close ∉ log)
    (hrevoked : .ended .revokePeers ∈ log) (hpins : NoOperation pins)
    (hbetween : NoOperation between) (hafter : NoOperation after) :
    Orderly (log ++ pins ++ (.began .abandonPeers :: between ++ [.ended .abandonPeers]) ++
      (.began .close :: after ++ [.ended .close])) := by
  have hpinned : Orderly (log ++ pins) := hpins.orderly h
  have hnone : .began .close ∉ log ++ pins := by
    simp [hclose, hpins.not_mem_close]
  have hstart : Orderly (log ++ pins ++ [.began .abandonPeers]) :=
    hpinned.snoc (fun _ => hnone) (by simp)
  have hdone : Orderly (log ++ pins ++ [.began .abandonPeers] ++ between ++
      [.ended .abandonPeers]) := by
    refine (hbetween.orderly hstart).snoc (by simp [LifeEvent.isBegan]) (by simp)
  have hfenced : Fenced (log ++ pins ++ [.began .abandonPeers] ++ between ++
      [.ended .abandonPeers]) := by
    obtain ⟨a, b, rfl⟩ := List.append_of_mem hrevoked
    exact ⟨a, b ++ pins ++ [.began .abandonPeers] ++ between, [], by simp⟩
  have hquiet : running (log ++ pins ++ [.began .abandonPeers] ++ between ++
      [.ended .abandonPeers]) = 0 := by
    have hop := running_operation .abandonPeers hbetween
    have hsplit : log ++ pins ++ [.began .abandonPeers] ++ between ++ [.ended .abandonPeers] =
        log ++ pins ++ (.began .abandonPeers :: between ++ [.ended .abandonPeers]) := by simp
    rw [hsplit, running_append, running_append, hrunning, hpins.running, hop]
    rfl
  have hclosed : Orderly (log ++ pins ++ [.began .abandonPeers] ++ between ++
      [.ended .abandonPeers] ++ [.began .close]) := by
    refine hdone.snoc (fun _ => ?_) fun _ => ⟨hquiet, hfenced⟩
    simp [hclose, hpins.not_mem_close, hbetween.not_mem_close]
  have hend := (hafter.orderly hclosed).append [.ended .close]
    (by simp [LifeEvent.isBegan])
  simpa using hend

lemma finishShutdown_spec (hnested : ∀ c, Frozen (nested c)) (h : Sound w)
    (hstopped : w.runtime.stopped = true) (hcalls : w.runtime.calls = 0)
    (hrunning : running w.log = 0) :
    wp (Runtime.finishShutdown (backend.over nested))
      (fun _ w' => Kept w w' ∧ w'.runtime.stopped = true ∧ w'.runtime.attempted = false) w := by
  have hopened := (h.unopened hstopped).1
  have hretain := noOperation_retain w.runtime.interface
  have hrelease := noOperation_release w.runtime.interface
  have hpins := references_pins w.runtime.interface
  unfold Runtime.finishShutdown
  rw [wp_bind, wp_readRuntime, wp_bind, wp_pin_retain]
  cases hattempted : w.runtime.attempted with
  | false =>
    rw [if_neg (by decide), wp_bind, wp_updateRuntime, wp_pin_release]
    have hsound := (h.append hretain fun _ => hstopped).append hrelease fun _ => hstopped
    refine ⟨⟨hsound.update (r := { w.runtime with
      interface := none, pendingTemplate := {}, settings := {}, address := zeroMac })
      rfl rfl rfl hsound.unopened _, rfl, ?_, fun i => ?_⟩, hstopped, hattempted⟩
    · rw [running_append, running_append, hretain.running, hrelease.running]
      ring
    · rw [references_append, references_append, add_assoc, hpins, add_zero]
  | true =>
    obtain ⟨hopen, hclose⟩ := h.attempted.mp hattempted
    rw [if_pos rfl, wp_bind, wp_updateRuntime]
    refine wp_seq (invoke_frozen hnested .abandonPeers hstopped hopened) ?_
    rintro _ v ⟨hv, between, hvlog, hbetween⟩
    refine wp_seq (invoke_frozen hnested .close (by rw [hv]; exact hstopped)
      (by rw [hv]; exact hopened)) ?_
    rintro _ u ⟨hu, after, hulog, hafter⟩
    rw [wp_bind, wp_updateRuntime, wp_pin_release]
    rw [hv] at hu
    have hlog : u.log ++ w.runtime.interface.toList.map .release =
        w.log ++ w.runtime.interface.toList.map .retain ++
          (.began .abandonPeers :: between ++ [.ended .abandonPeers]) ++
          (.began .close :: after ++ [.ended .close]) ++
          w.runtime.interface.toList.map .release := by
      rw [hulog, hvlog]
      simp
    have horderly := orderly_close h.orderly hrunning hclose (h.revoked hstopped) hretain
      (noOperation_returned hbetween) (noOperation_returned hafter)
    refine ⟨⟨⟨?_, ?_, ?_, ?_, ?_, ?_⟩, ?_, ?_, fun i => ?_⟩, ?_, ?_⟩
    · exact fun _ => by rw [hu]; exact h.unopened hstopped
    · grind
    · exact fun _ => by rw [hu]; exact ⟨hstopped, hcalls⟩
    · exact fun _ => by rw [hu]; exact hstopped
    · intro _
      rw [hlog]
      simp [h.revoked hstopped]
    · show Orderly (u.log ++ _)
      rw [hlog]
      exact hrelease.orderly horderly
    · show u.runtime.calls = _
      rw [hu]
    · show running (u.log ++ _) = _
      rw [hlog]
      simp only [running_append, hretain.running, hrelease.running,
        running_operation _ (noOperation_returned hbetween),
        running_operation _ (noOperation_returned hafter)]
      ring
    · show references i (u.log ++ _) = _
      rw [hlog]
      have hpin := hpins i
      simp only [references_append, references_operation hbetween, references_operation hafter]
      linarith
    · grind
    · show u.runtime.attempted = false
      rw [hu]

lemma stop_spec (hnested : ∀ c, Frozen (nested c)) (h : Sound w)
    (hrunning : w.runtime.stopped = false)
    (hQ : ∀ v, Kept w v → v.runtime.stopped = true →
      wp (if v.runtime.calls = 0 then Runtime.finishShutdown (backend.over nested) else pure ())
        Q v) :
    wp (Runtime.shutdown (backend.over nested)) Q w := by
  unfold Runtime.shutdown
  rw [wp_bind, wp_readRuntime, if_neg (by rw [hrunning]; decide), wp_bind, wp_updateRuntime]
  refine wp_seq (invoke_frozen hnested .revokePeers rfl rfl) ?_
  rintro _ v ⟨hv, more, hlog, hmore⟩
  have hnot : .began .close ∉ w.log := fun hclose =>
    by cases (h.closed hclose).1.symm.trans hrunning
  -- the revocation adds no open and no close to the log
  have hadded : ∀ e ∈ (.began .revokePeers :: more ++ [.ended .revokePeers] : List LifeEvent),
      e.isOpen = false ∧ e ≠ .began .close := by
    intro e he
    have hcases : e = .began .revokePeers ∨ e ∈ more ∨ e = .ended .revokePeers := by
      simpa using he
    rcases hcases with rfl | he | rfl
    · exact ⟨rfl, nofun⟩
    · obtain ⟨c, rfl⟩ := hmore e he
      exact ⟨rfl, nofun⟩
    · exact ⟨rfl, nofun⟩
  rw [List.append_assoc] at hlog
  have hsound : Sound v := by
    refine ⟨fun _ => by rw [hv]; exact ⟨rfl, rfl⟩, ?_, ?_, fun _ => by rw [hv], ?_, ?_⟩
    · rw [hv, hlog]
      grind [h.attempted]
    · grind
    · intro _
      rw [hlog]
      simp
    · rw [hlog]
      have hstart := h.orderly.snoc (e := .began .revokePeers) (fun _ => hnot) nofun
      have hend := ((noOperation_returned hmore).orderly hstart).append
        [.ended .revokePeers] (by simp [LifeEvent.isBegan])
      simpa using hend
  refine hQ v ⟨hsound, ?_, ?_, fun i => ?_⟩ ?_
  · rw [hv]
  · rw [hlog, running_append]
    exact add_eq_left.mpr (running_operation _ (noOperation_returned hmore))
  · rw [hlog, references_append]
    exact add_eq_left.mpr (references_operation hmore i)
  · rw [hv]

/-- Within a call a shutdown leaves its completion to the call. -/
lemma keeps_shutdown (hnested : ∀ c, Frozen (nested c)) :
    Keeps (Runtime.shutdown (backend.over nested)) := by
  rw [keeps_iff]
  intro w h hcalls
  cases hstopped : w.runtime.stopped with
  | true =>
    unfold Runtime.shutdown
    rw [wp_bind, wp_readRuntime, if_pos hstopped]
    exact Kept.refl h
  | false =>
    refine stop_spec hnested h hstopped fun v hv _ => ?_
    rw [if_neg (by rw [hv.calls]; exact hcalls.ne')]
    exact hv

lemma Sound.setCalls (h : Sound w) (hnot : .began .close ∉ w.log) (n : ℕ) :
    Sound { w with runtime := { w.runtime with calls := n } } :=
  ⟨h.unopened, h.attempted, fun hclose => absurd hclose hnot, h.returned, h.revoked, h.orderly⟩

/-- The scope of a call: only the last one to unwind completes a shutdown. -/
lemma call_spec {body : StateM (LifeWorld B) α} (hbody : Keeps body)
    (hnested : ∀ c, Frozen (nested c)) (h : Sound w) (hnot : .began .close ∉ w.log)
    (hrunning : w.runtime.calls = 0 → running w.log = 0) :
    wp (Runtime.call (backend.over nested) body) (fun _ w' => Kept w w' ∧
      (w.runtime.calls = 0 → w'.runtime.stopped = true → w'.runtime.attempted = false)) w := by
  have hretain := noOperation_retain w.runtime.interface
  have hrelease := noOperation_release w.runtime.interface
  have hpins := references_pins w.runtime.interface
  unfold Runtime.call
  rw [wp_bind, wp_readRuntime, wp_bind, wp_pin_retain, wp_bind, wp_updateRuntime]
  have hentered : Sound { w with
      runtime := { w.runtime with calls := w.runtime.calls + 1 }
      log := w.log ++ w.runtime.interface.toList.map .retain } := by
    have hpinned : Sound { w with log := w.log ++ w.runtime.interface.toList.map .retain } := by
      grind [h.append]
    refine hpinned.setCalls ?_ _
    simp [hnot]
  refine wp_seq (keeps_iff.mp hbody _ hentered (Nat.succ_pos _)) fun result v hv => ?_
  have hvcalls : v.runtime.calls - 1 = w.runtime.calls := by
    rw [hv.calls]
    rfl
  have hleft := hv.sound.setCalls (hv.sound.not_closed (by rw [hv.calls]; exact Nat.succ_pos _))
    (v.runtime.calls - 1)
  have hvrunning : running v.log = running w.log := by
    rw [hv.running, running_append, hretain.running, add_zero]
  -- the reference is given back in whatever state the call ends
  have hend : ∀ u, Kept { v with runtime := { v.runtime with calls := v.runtime.calls - 1 } } u →
      Kept w { u with log := u.log ++ w.runtime.interface.toList.map .release } := by
    intro u hu
    refine ⟨hu.sound.append hrelease fun hmem => ?_, hu.calls.trans hvcalls, ?_, fun i => ?_⟩
    · exact absurd hmem (by simp)
    · rw [running_append, hu.running, hrelease.running, add_zero, hvrunning]
    · rw [references_append, hu.references, hv.references, references_append, add_assoc, hpins,
        add_zero]
  rw [wp_bind, wp_updateRuntime, wp_bind, wp_readRuntime, wp_ite]
  constructor
  · rintro ⟨hzero, hstopped⟩
    refine wp_seq (finishShutdown_spec hnested hleft hstopped hzero ?_) ?_
    · grind
    grind [wp_bind, wp_pin_release, wp_pure]
  · intro hlast
    rw [wp_bind, wp_pin_release, wp_pure]
    refine ⟨hend _ (Kept.refl hleft), fun hzero hstopped => ?_⟩
    exact absurd ⟨hvcalls.trans hzero, hstopped⟩ hlast

lemma keeps_unlessStopped (a b : IOReturn) (hf : ∀ r, Harmless r (f r)) : Keeps (do
      if (← Runtime.read (backend.over nested)).stopped then pure a
      else
        Runtime.update (backend.over nested) f
        pure b) := by
  rw [keeps_iff]
  intro w h _
  have hw := hf w.runtime
  rw [wp_bind, wp_readRuntime, wp_ite]
  refine ⟨fun _ => Kept.refl h, fun hrunning => ?_⟩
  exact ⟨h.update hw.calls hw.attempted hw.stopped (fun hs => absurd hs hrunning) _,
    hw.calls, rfl, fun _ => rfl⟩

section
variable (hkeeps : ∀ c, Keeps (nested c)) (hfrozen : ∀ c, Frozen (nested c))
include hkeeps

lemma keeps_enableCall : Keeps (Runtime.enableCall (backend.over nested)) := by
  refine (keeps_invoke hkeeps (.activate true) nofun rfl).bind fun result =>
    keeps_read.bind fun r => ?_
  refine Preserves.pure.ite (Preserves.pure.ite ?_)
  refine (keeps_invoke hkeeps (.enablePeers true) nofun rfl).bind fun peers => ?_
  refine Preserves.ite ?_ (keeps_unlessStopped _ _ (by exact fun _ => ⟨rfl, rfl, rfl⟩))
  exact (keeps_invoke hkeeps (.activate false) nofun rfl).map.bind fun _ => Preserves.pure

lemma keeps_disableCall : Keeps (Runtime.disableCall (backend.over nested)) := by
  refine Preserves.bind (keeps_update (by exact fun _ => ⟨rfl, rfl, rfl⟩)
    (by exact fun _ h => ⟨h.1, rfl⟩)) fun _ => ?_
  refine (keeps_invoke hkeeps .revokePeers nofun rfl).bind fun _ => ?_
  refine (keeps_invoke hkeeps (.activate false) nofun rfl).bind fun result =>
    keeps_read.bind fun r => ?_
  refine Preserves.pure.ite ?_
  exact (keeps_invoke hkeeps (.enablePeers false) nofun rfl).bind fun _ => Preserves.pure

lemma keeps_setAddressCall (mac : Mac) :
    Keeps (Runtime.setAddressCall (backend.over nested) mac) := by
  refine (keeps_invoke hkeeps (.setAddress mac) nofun rfl).bind fun result =>
    keeps_read.bind fun r => ?_
  refine Preserves.pure.ite (Preserves.ite ?_ Preserves.pure)
  refine Preserves.bind (keeps_update (by exact fun _ => ⟨rfl, rfl, rfl⟩)
        (by exact fun _ h => h)) fun _ => ?_
  exact (keeps_invoke hkeeps (.updateReceiveAddress mac) nofun rfl).bind fun _ => Preserves.pure

omit hkeeps in
lemma keeps_ready : Keeps (Runtime.ready (backend.over nested)) := by
  exact keeps_read.bind fun r =>
    Preserves.pure.andM ((keeps_query .ready).andM (keeps_query .peersReady))

lemma keeps_get (request : Request) : Keeps (Runtime.get (backend.over nested) request) := by
  have hnative : Keeps ((backend.over nested).invoke (.nativeGet request) >>= fun answer =>
      pure (answer.1, answer.2.map Reply.native)) := by
    refine (keeps_invoke hkeeps (.nativeGet request) ?_ rfl).bind fun _ => Preserves.pure
    rintro ⟨⟩
  refine keeps_read.bind fun r => ?_
  cases request with
  | peerCacheMaximumSize => exact (keeps_query .peerCapacity).bind fun _ => Preserves.pure
  | state =>
    exact keeps_read.bind fun r => (Preserves.pure.andM keeps_ready).bind fun _ => Preserves.pure
  | channel =>
    refine (keeps_query .currentChannel).bind fun channel => ?_
    cases channel with
    | none => exact Preserves.pure
    | some channel => exact Preserves.pure
  | _ => first | exact Preserves.pure | exact hnative

omit hkeeps in
lemma keeps_channelsAllowed (channels : List Channel) :
    Keeps (Runtime.channelsAllowed (backend.over nested) channels) := by
  induction channels with
  | nil => exact Preserves.pure
  | cons c rest ih =>
    exact Preserves.ite ((keeps_query (.channelAllowed c)).bind fun _ => ih.ite Preserves.pure) ih

omit hkeeps in
lemma keeps_nextSettings (settings : Settings) (request : SetRequest) :
    Keeps (Runtime.nextSettings (backend.over nested) settings request) := by
  cases request with
  | synchronizationChannelSequence d =>
    exact Preserves.pure.ite ((keeps_channelsAllowed _).bind fun _ => Preserves.pure.ite Preserves.pure)
  | _ => exact Preserves.pure

lemma keeps_setOther (request : SetRequest) :
    Keeps (Runtime.setOther (backend.over nested) request) := by
  cases request with
  | peerCacheControl version operation address =>
    exact keeps_read.bind fun r => Preserves.pure.ite (Preserves.pure.ite (Preserves.pure.ite
      (keeps_invoke hkeeps (.cachePeer operation address) nofun rfl)))
  | peerTrafficRegistration d =>
    exact keeps_read.bind fun r => Preserves.pure.ite (Preserves.pure.ite
      (keeps_invoke hkeeps (.registerTraffic d) nofun rfl))
  | syncFrameTemplate version payload =>
    refine Preserves.pure.ite ?_
    cases TxTemplate.replaceTlvs payload 0x10 0 with
    | none => exact Preserves.pure
    | some template =>
      refine Preserves.bind (keeps_update (by exact fun _ => ⟨rfl, rfl, rfl⟩)
        (by exact fun _ h => h)) fun _ => ?_
      refine (keeps_invoke hkeeps (.installTemplate template) nofun rfl).bind fun _ => ?_
      exact Preserves.bind (keeps_update (by exact fun _ => ⟨rfl, rfl, rfl⟩)
        (by exact fun _ h => h)) fun _ => Preserves.pure
  | native n => exact keeps_invoke hkeeps (.nativeSet n) nofun rfl
  | _ => exact Preserves.pure

lemma keeps_set (request : SetRequest) : Keeps (Runtime.set (backend.over nested) request) := by
  refine Preserves.pure.ite (keeps_read.bind fun r => (keeps_nextSettings _ _).bind fun next => ?_)
  rcases next with _ | refusal | next
  · exact keeps_setOther hkeeps request
  · exact Preserves.pure
  · refine (keeps_invoke hkeeps (.configure next) nofun rfl).bind fun result => ?_
    refine Preserves.ite ?_ Preserves.pure
    exact Preserves.bind (keeps_update (by exact fun _ => ⟨rfl, rfl, rfl⟩)
        (by exact fun _ h => h)) fun _ => Preserves.pure

lemma keeps_requestCall (control : Runtime.Control) :
    Keeps (Runtime.requestCall (backend.over nested) control) := by
  refine (keeps_query .configuration).bind fun settings => ?_
  rcases settings with _ | settings
  · exact Preserves.pure
  · refine Preserves.bind (keeps_update (by exact fun _ => ⟨rfl, rfl, rfl⟩)
        (by exact fun _ h => h)) fun _ => ?_
    cases control with
    | get request => exact keeps_get hkeeps request
    | set request => exact (keeps_set hkeeps request).bind fun _ => Preserves.pure

lemma keeps_open (interface : ℕ) (mac : Mac) :
    Keeps (do
      Runtime.update (backend.over nested) fun r => { r with attempted := true }
      (backend.over nested).invoke (.open_ interface mac)) := by
  rw [keeps_iff]
  intro w h hcalls
  have hnot := h.not_closed hcalls
  rw [wp_bind, wp_updateRuntime]
  have hbegan : Sound { w with
      runtime := { w.runtime with attempted := true }
      log := w.log ++ [.began (.open_ interface mac)] } := by
    refine ⟨h.unopened, ?_, ?_, ?_, ?_, h.orderly.snoc (fun _ => hnot) nofun⟩
    · refine ⟨fun _ => ⟨⟨.began (.open_ interface mac), by simp, rfl⟩, ?_⟩, fun _ => rfl⟩
      simp [hnot]
    · intro hmem
      exact absurd hmem (by simp [hnot])
    · intro hmem
      exact h.returned (by simpa using hmem)
    · intro hs
      exact List.mem_append_left _ (h.revoked hs)
  have hinvoke : wp ((backend.over nested).invoke (.open_ interface mac)) (fun _ v =>
      Kept { w with runtime := { w.runtime with attempted := true } } v)
      { w with runtime := { w.runtime with attempted := true } } :=
    invoke_kept hkeeps hbegan hcalls
  exact wp_mono hinvoke fun _ v hv => ⟨hv.sound, hv.calls, hv.running, hv.references⟩

include hfrozen in
lemma keeps_prepareCall (interface : ℕ) (mac : Mac) :
    Keeps (Runtime.prepareCall (backend.over nested) interface mac) := by
  have hshutdown : ∀ r : IOReturn, Keeps (do
      Runtime.shutdown (backend.over nested)
      pure r) := fun r => (keeps_shutdown hfrozen).bind fun _ => Preserves.pure
  unfold Runtime.prepareCall
  rw [← bind_assoc]
  refine Preserves.bind (keeps_open hkeeps interface mac) fun result => ?_
  refine Preserves.ite (hshutdown result) (keeps_read.bind fun r => Preserves.pure.ite ?_)
  refine (keeps_invoke hkeeps (.bindPeers interface mac) nofun rfl).bind fun peerResult => ?_
  refine Preserves.ite (hshutdown peerResult) ?_
  refine Preserves.bind (keeps_update (by exact fun _ => ⟨rfl, rfl, rfl⟩)
    (by exact fun _ h => h)) fun _ => ?_
  refine (keeps_query .configuration).bind fun settings => ?_
  rcases settings with _ | settings
  · exact hshutdown .notReady
  · refine Preserves.bind (keeps_update (by exact fun _ => ⟨rfl, rfl, rfl⟩)
      (by exact fun _ h => h)) fun _ => ?_
    exact keeps_unlessStopped _ _ (by exact fun _ => ⟨rfl, rfl, rfl⟩)

end

lemma asks_query (q : BackendQuery) : Preserves AskedOnly ((backend.over nested).query q) :=
  fun _ => ⟨rfl, rfl⟩

lemma asks_ready : Preserves AskedOnly (Runtime.ready (backend.over nested)) := by
  have hread : Preserves AskedOnly (Runtime.read (backend.over nested)) := fun _ => ⟨rfl, rfl⟩
  exact hread.bind fun r => Preserves.pure.andM ((asks_query .ready).andM (asks_query .peersReady))

/-- A stopped runtime returns at once. -/
lemma run_stopped (c : RuntimeCall) (hstopped : w.runtime.stopped = true)
    (hopened : w.runtime.opened = false) :
    wp (c.run (backend.over nested)) (fun _ w' => w' = w) w := by
  cases c with
  | prepare interface mac =>
    rw [RuntimeCall.run, wp_map, Runtime.prepare, wp_bind, wp_readRuntime]
    cases interface with
    | none => rfl
    | some i => simp [hstopped, wp_pure]
  | enable value =>
    rw [RuntimeCall.run, wp_map, Runtime.enable, wp_bind, wp_readRuntime, wp_bind, wp_orM, wp_pure]
    simp [hstopped, hopened, wp_pure]
  | shutdown =>
    rw [RuntimeCall.run, wp_map, Runtime.shutdown, wp_bind, wp_readRuntime, if_pos hstopped]
    rfl
  | setAddress mac =>
    rw [RuntimeCall.run, wp_map, Runtime.setAddress, wp_bind, wp_readRuntime, wp_ite]
    refine ⟨fun _ => rfl, fun _ => ?_⟩
    simp [hstopped, wp_pure]
  | transmitEthernet bytes =>
    rw [RuntimeCall.run, wp_map, Runtime.transmitEthernet, wp_bind, wp_readRuntime, wp_bind, wp_orM,
      wp_pure]
    simp [hopened, wp_pure]
  | receiveRadioData frame metadata =>
    rw [RuntimeCall.run, wp_map, Runtime.receiveRadioData, wp_bind, wp_readRuntime, wp_bind, wp_orM,
      wp_pure]
    simp [hopened, wp_pure]
  | observeRadioAction frame metadata =>
    rw [RuntimeCall.run, wp_map, Runtime.observeRadioAction, wp_bind, wp_readRuntime, wp_bind,
      wp_orM, wp_pure]
    simp [hopened, wp_pure]
  | timerFired =>
    rw [RuntimeCall.run, wp_map, Runtime.timerFired, wp_bind, wp_readRuntime]
    simp [hopened, wp_pure]
  | request payload =>
    rw [RuntimeCall.run, wp_map, Runtime.request, wp_bind, wp_readRuntime]
    cases payload with
    | none => rfl
    | some control => simp [hstopped, wp_pure]

/-- What an entry point keeps, called within a call or from outside. -/
structure Entered (c : RuntimeCall) (w w' : LifeWorld B) : Prop where
  kept : Kept w w'
  finished : w.runtime.calls = 0 → (w.runtime.stopped = true → w.runtime.attempted = false) →
    w'.runtime.stopped = true → w'.runtime.attempted = false
  shut : c = .shutdown → w'.runtime.stopped = true

lemma Entered.of_asked {c : RuntimeCall} {v : LifeWorld B} (h : Sound w) (hv : AskedOnly w v)
    (hc : c ≠ .shutdown) : Entered c w v := by
  obtain ⟨r, b, log⟩ := v
  obtain ⟨hruntime, hlog⟩ := hv
  subst hruntime hlog
  exact ⟨⟨h.update rfl rfl rfl h.unopened b, rfl, rfl, fun _ => rfl⟩, fun _ h => h,
    fun heq => absurd heq hc⟩

lemma call_entered {body : StateM (LifeWorld B) α} {c : RuntimeCall} {v : LifeWorld B}
    (hbody : Keeps body) (hfrozen : ∀ c, Frozen (nested c)) (h : Sound v)
    (hstopped : w.runtime.stopped = false) (hrunning : w.runtime.calls = 0 → running w.log = 0)
    (hv : Harmless w.runtime v.runtime) (hlog : v.log = w.log) (hc : c ≠ .shutdown) :
    wp (Runtime.call (backend.over nested) body) (fun _ w' => Entered c w w') v := by
  have hnot : .began .close ∉ v.log := fun hclose =>
    by cases (h.closed hclose).1.symm.trans (hv.stopped.trans hstopped)
  refine wp_mono (call_spec hbody hfrozen h hnot ?_) ?_
  · rw [hv.calls, hlog]
    exact hrunning
  · rintro _ w' ⟨hkept, hfinished⟩
    refine ⟨⟨hkept.sound, hkept.calls.trans hv.calls, ?_, fun i => ?_⟩, fun hzero _ => ?_,
      fun heq => absurd heq hc⟩
    · rw [hkept.running, hlog]
    · rw [hkept.references, hlog]
    · exact hfinished (hv.calls.trans hzero)

/-- An entry point keeps the books if the calls from within do. -/
lemma run_spec (hkeeps : ∀ c, Keeps (nested c)) (hfrozen : ∀ c, Frozen (nested c)) (c : RuntimeCall)
    (h : Sound w) (hrunning : w.runtime.calls = 0 → running w.log = 0) :
    wp (c.run (backend.over nested)) (fun _ w' => Entered c w w') w := by
  cases hstopped : w.runtime.stopped with
  | true =>
    refine wp_mono (run_stopped c hstopped (h.unopened hstopped).1) ?_
    rintro _ _ rfl
    exact ⟨Kept.refl h, fun _ hfinished => hfinished, fun _ => hstopped⟩
  | false =>
    -- guards only ask; what passes them runs as a call
    have hasked : ∀ (c : RuntimeCall) (v : LifeWorld B), c ≠ .shutdown → AskedOnly w v →
        Entered c w v := fun c v hc hv => Entered.of_asked h hv hc
    have hself : ∀ c : RuntimeCall, c ≠ .shutdown → Entered c w w :=
      fun c hc => hasked c w hc ⟨rfl, rfl⟩
    have hcall : ∀ {α : Type} {body : StateM (LifeWorld B) α} {c : RuntimeCall} {v : LifeWorld B},
        Keeps body → AskedOnly w v → c ≠ .shutdown →
        wp (Runtime.call (backend.over nested) body) (fun _ w' => Entered c w w') v := by
      intro α body c v hbody hv hc
      refine call_entered hbody hfrozen (hasked .timerFired v nofun hv).kept.sound hstopped hrunning
        ?_ hv.log hc
      rw [hv.runtime]
      exact ⟨rfl, rfl, rfl⟩
    have hguard : ∀ {α : Type} {guard : StateM (LifeWorld B) Bool} {a : α}
        {body : StateM (LifeWorld B) α} {c : RuntimeCall}, Preserves AskedOnly guard → Keeps body →
        c ≠ .shutdown →
        wp (do if ← guard then pure a else Runtime.call (backend.over nested) body)
          (fun _ w' => Entered c w w') w := by
      intro α guard a body c hask hbody hc
      refine wp_seq (hask w) fun refused v hv => ?_
      rw [wp_ite]
      exact ⟨fun _ => hasked c v hc hv, fun _ => hcall hbody hv hc⟩
    have hnotReady : Preserves AskedOnly (not <$> Runtime.ready (backend.over nested)) :=
      asks_ready.map
    cases c with
    | prepare interface mac =>
      rw [RuntimeCall.run, wp_map, Runtime.prepare, wp_bind, wp_readRuntime]
      cases interface with
      | none => exact hself _ nofun
      | some i =>
        rw [wp_ite]
        refine ⟨fun _ => hself _ nofun, fun _ => ?_⟩
        refine wp_seq (hnotReady.orM (asks_query .capabilities).map w) fun refused v hv => ?_
        rw [wp_ite]
        refine ⟨fun _ => hasked _ v nofun hv, fun _ => ?_⟩
        rw [wp_bind, wp_updateRuntime]
        have hsound : Sound v := (hasked .timerFired v nofun hv).kept.sound
        refine call_entered (keeps_prepareCall hkeeps hfrozen i mac) hfrozen
          (hsound.update (r := { v.runtime with interface := some i }) rfl rfl rfl
            hsound.unopened _) hstopped hrunning ?_ hv.log nofun
        rw [hv.runtime]
        exact ⟨rfl, rfl, rfl⟩
    | enable value =>
      rw [RuntimeCall.run, wp_map, Runtime.enable, wp_bind, wp_readRuntime]
      refine wp_seq (Preserves.pure.orM (Preserves.pure.andM hnotReady) w) fun refused v hv => ?_
      rw [wp_ite]
      refine ⟨fun _ => hasked _ v nofun hv, fun _ => ?_⟩
      rw [wp_ite]
      refine ⟨fun _ => hasked _ v nofun hv, fun _ => hcall ?_ hv nofun⟩
      exact (keeps_enableCall hkeeps).ite (keeps_disableCall hkeeps)
    | shutdown =>
      rw [RuntimeCall.run, wp_map]
      refine stop_spec hfrozen h hstopped fun v hv hvstopped => ?_
      rw [wp_ite]
      constructor
      · intro hzero
        refine wp_mono (finishShutdown_spec hfrozen hv.sound hvstopped hzero ?_) ?_
        · rw [hv.running]
          exact hrunning (hv.calls.symm.trans hzero)
        · rintro _ u ⟨hu, hustopped, hattempted⟩
          exact ⟨hv.trans hu, fun _ _ _ => hattempted, fun _ => hustopped⟩
      · intro hopen
        exact ⟨hv, fun hzero => absurd (hv.calls.trans hzero) hopen, fun _ => hvstopped⟩
    | setAddress mac =>
      rw [RuntimeCall.run, wp_map, Runtime.setAddress, wp_bind, wp_readRuntime, wp_ite]
      refine ⟨fun _ => hself _ nofun, fun _ => ?_⟩
      rw [wp_ite]
      refine ⟨fun _ => hself _ nofun, fun _ => ?_⟩
      rw [wp_ite]
      exact ⟨fun _ => hself _ nofun,
        fun _ => hcall (keeps_setAddressCall hkeeps mac) ⟨rfl, rfl⟩ nofun⟩
    | transmitEthernet bytes =>
      rw [RuntimeCall.run, wp_map, Runtime.transmitEthernet, wp_bind, wp_readRuntime]
      exact hguard (Preserves.pure.orM (hnotReady.orM Preserves.pure))
        (keeps_invoke hkeeps (.transmitEthernet bytes) nofun rfl) nofun
    | receiveRadioData frame metadata =>
      rw [RuntimeCall.run, wp_map, Runtime.receiveRadioData, wp_bind, wp_readRuntime]
      exact hguard (Preserves.pure.orM hnotReady)
        (keeps_invoke hkeeps (.receiveRadioData frame metadata) nofun rfl) nofun
    | observeRadioAction frame metadata =>
      rw [RuntimeCall.run, wp_map, Runtime.observeRadioAction, wp_bind, wp_readRuntime]
      exact hguard (Preserves.pure.orM hnotReady)
        (keeps_invoke hkeeps (.observeRadioAction frame metadata) nofun rfl) nofun
    | timerFired =>
      rw [RuntimeCall.run, wp_map, Runtime.timerFired, wp_bind, wp_readRuntime, wp_ite]
      exact ⟨fun _ => hcall (keeps_invoke hkeeps .timerFired nofun rfl) ⟨rfl, rfl⟩ nofun,
        fun _ => hself _ nofun⟩
    | request payload =>
      rw [RuntimeCall.run, wp_map, Runtime.request, wp_bind, wp_readRuntime]
      cases payload with
      | none => exact hself _ nofun
      | some control =>
        rw [wp_ite]
        exact ⟨fun _ => hself _ nofun,
          fun _ => hcall (keeps_requestCall hkeeps control) ⟨rfl, rfl⟩ nofun⟩

end

/-- However deep the calls, a stopped runtime only returns. -/
lemma perform_frozen (depth : ℕ) (c : RuntimeCall) : Frozen (backend.perform depth c) := by
  intro w hstopped hopened
  cases depth with
  | zero => exact ⟨rfl, [], (List.append_nil _).symm, by simp⟩
  | succ depth =>
    refine wp_seq (run_stopped c hstopped hopened) ?_
    rintro result _ rfl
    exact ⟨rfl, [.returned c], rfl, by simp⟩

lemma Entered.returned {c : RuntimeCall} (h : Entered c w w') :
    Kept w { w' with log := w'.log ++ [.returned c] } := by
  refine ⟨h.kept.sound.snoc nofun nofun nofun ?_, h.kept.calls, ?_, fun i => ?_⟩
  · intro heq
    exact h.shut (by simpa using heq)
  · rw [running_append, h.kept.running]
    simp [running, LifeEvent.isBegan, LifeEvent.isEnded]
  · rw [references_append, h.kept.references]
    simp [references]

/-- Calls from within a call, by induction on how deep they nest. -/
lemma perform_keeps (depth : ℕ) (c : RuntimeCall) : Keeps (backend.perform depth c) := by
  induction depth generalizing c with
  | zero => exact Preserves.pure
  | succ depth ih =>
    rw [keeps_iff]
    intro w h hcalls
    refine wp_seq (run_spec ih (perform_frozen depth) c h fun hzero => ?_) fun result v hv => ?_
    · exact absurd hzero hcalls.ne'
    · exact hv.returned

/-- Between outermost calls nothing is left over. -/
structure Rested (w : LifeWorld B) : Prop where
  sound : Sound w
  calls : w.runtime.calls = 0
  running : running w.log = 0
  references : ∀ i, references i w.log = 0
  finished : w.runtime.stopped = true → w.runtime.attempted = false

/-- An outermost call leaves nothing over. -/
lemma perform_rested (depth : ℕ) (c : RuntimeCall) (h : Rested w) :
    Rested ((backend.perform depth c).run w).2 := by
  cases depth with
  | zero => exact h
  | succ depth =>
    have hspec : wp (backend.perform (depth + 1) c) (fun _ w' => Rested w') w := by
      refine wp_seq (run_spec (perform_keeps depth) (perform_frozen depth) c h.sound
        fun _ => h.running) fun result v hv => ?_
      have hkept := hv.returned
      exact ⟨hkept.sound, hkept.calls.trans h.calls, hkept.running.trans h.running,
        fun i => (hkept.references i).trans (h.references i), hv.finished h.calls h.finished⟩
    exact hspec

/-- Between outermost calls nothing is left over, in any run. -/
lemma run_rested (h : LifeRun backend w) : Rested w := by
  induction h with
  | start b =>
    refine ⟨⟨nofun, ?_, by simp, by simp, nofun, ?_⟩, rfl, rfl, fun _ => rfl, nofun⟩
    · simp
    · intro first rest heq
      exact absurd heq (by simp)
  | call depth c _ ih => exact perform_rested depth c ih
  | environment b _ ih =>
    exact ⟨ih.sound.update rfl rfl rfl ih.sound.unopened b, ih.calls, ih.running, ih.references,
      ih.finished⟩

/-- What the log of a run says of the backend's life. -/
structure Lifecycle (w : LifeWorld B) : Prop where
  close_once : w.log.count (.began .close) ≤ 1
  /-- Once the outermost call has returned after a shutdown, what was opened is closed. -/
  closed : .returned .shutdown ∈ w.log ∨ w.runtime.stopped = true →
    (∃ interface mac, .began (.open_ interface mac) ∈ w.log) → w.log.count (.began .close) = 1
  close_alone : ∀ first rest, w.log = first ++ .began .close :: rest → running first = 0
  close_fenced : ∀ first rest, w.log = first ++ .began .close :: rest → Fenced first
  nothing_after : ∀ first rest, w.log = first ++ .began .close :: rest →
    ∀ op, .began op ∉ rest
  balanced : ∀ interface, w.log.count (.retain interface) = w.log.count (.release interface)

/-- Over any backend, with calls nested to any depth, the runtime closes what it opened, once
and last. -/
theorem lifeRun_lifecycle (h : LifeRun backend w) : Lifecycle w := by
  obtain ⟨hsound, -, -, hreferences, hfinished⟩ := run_rested h
  have honce : ∀ first rest, w.log = first ++ .began .close :: rest →
      w.log.count (.began .close) = 1 := by
    intro first rest hlog
    have hrest : rest.count (.began .close) = 0 := by
      refine List.count_eq_zero.mpr fun hmem => ?_
      cases (hsound.orderly first rest hlog).2.2 _ hmem
    have hfirst : first.count (.began .close) = 0 := by
      refine List.count_eq_zero.mpr fun hmem => ?_
      -- an earlier close would have this one after it
      obtain ⟨a, b, rfl⟩ := List.append_of_mem hmem
      have hlater := (hsound.orderly a (b ++ .began .close :: rest) (by simpa using hlog)).2.2
      cases hlater (.began .close) (by simp)
    rw [hlog, List.count_append, List.count_cons_self, hfirst, hrest]
  refine ⟨?_, ?_, ?_, ?_, ?_, ?_⟩
  · by_cases hmem : LifeEvent.began .close ∈ w.log
    · obtain ⟨first, rest, hlog⟩ := List.append_of_mem hmem
      exact (honce first rest hlog).le
    · rw [List.count_eq_zero.mpr hmem]
      exact Nat.zero_le 1
  · rintro hshut ⟨interface, mac, hopen⟩
    have hstopped : w.runtime.stopped = true := hshut.elim hsound.returned id
    have hmem : LifeEvent.began .close ∈ w.log := by
      by_contra hnot
      have hattempted := hsound.attempted.mpr ⟨⟨_, hopen, rfl⟩, hnot⟩
      cases (hfinished hstopped).symm.trans hattempted
    obtain ⟨first, rest, hlog⟩ := List.append_of_mem hmem
    exact honce first rest hlog
  · exact fun first rest hlog => (hsound.orderly first rest hlog).1
  · exact fun first rest hlog => (hsound.orderly first rest hlog).2.1
  · intro first rest hlog op hmem
    exact absurd ((hsound.orderly first rest hlog).2.2 _ hmem) (by simp [LifeEvent.isBegan])
  · intro interface
    have hzero := hreferences interface
    unfold references at hzero
    omega

/-- A backend that is ready and whose `open` asks the runtime to shut down. -/
def abruptBackend : AnyBackend Unit where
  invoke op _ := match op with
    | .open_ .. => .call .shutdown () fun _ _ => .done .success ()
    | .bindPeers .. | .enablePeers _ | .activate _ | .configure _ | .installTemplate _
    | .setAddress _ | .cachePeer .. | .registerTraffic _ | .nativeSet _ => .done .success ()
    | .nativeGet _ => .done (.success, none) ()
    | .transmitEthernet _ | .receiveRadioData .. => .done true ()
    | .revokePeers | .abandonPeers | .updateReceiveAddress _ | .close | .observeRadioAction ..
    | .timerFired => .done () ()
  query q _ := match q with
    | .capabilities | .peerCapacity => (0x7f, ())
    | .ready | .peersReady | .channelAllowed _ => (true, ())
    | .currentChannel => (none, ())
    | .configuration => (some {}, ())

/-- A shutdown from within the open, three calls deep. -/
def abruptWorld : LifeWorld Unit :=
  ((abruptBackend.perform 3 (.prepare (some 1) (Mac.of 2 0 0 0 0 1))).run { backend := () }).2

theorem lifeRun_lifecycle_abruptWorld : .began .close ∈ abruptWorld.log ∧
    LifeRun abruptBackend abruptWorld ∧ Lifecycle abruptWorld :=
  have hrun : LifeRun abruptBackend abruptWorld := .call _ _ (.start ())
  ⟨by decide +kernel, hrun, lifeRun_lifecycle hrun⟩

end

end AirportAwdl.Native
