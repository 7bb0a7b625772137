import AirportAwdl.Native.Aggregate

/-!
# Data receive

`DataReceive` takes a frame off the radio apart and hands its packets up. What it calls on the way,
the owner of the peers and the sink, is foreign code: it may do anything outside of the engine, and
it may call the engine again. A `Callback` is such code, the engine's own `busy_` flag is what makes
it harmless.

`log` is no part of the source: the calls that were made and the resets that were asked for.
-/

namespace AirportAwdl.Native

open ByteBuffer Election CheckedMemory

/-- `DataReceive`, with its arrays. -/
structure DataReceive where
  busy : Bool := false
  resetPending : Bool := false
  views : List (Option ViewAt) := List.replicate DataCodec.maximumSubframes none
  ethernet : Bytes := List.replicate (14 + DataCodec.mtu) 0
  length_views : views.length = DataCodec.maximumSubframes := by simp
  length_ethernet : ethernet.length = 14 + DataCodec.mtu := by simp

/-- Foreign code that ends with an answer. -/
inductive Callback (σ α : Type) where
  | done (answer : α)
  /-- Something that does not touch the engine. -/
  | act (f : σ → σ) (next : σ → Callback σ α)
  | reset (next : Callback σ α)
  | deliver (frame : Bytes) (local_ : Mac) (now : ℕ) (next : ℕ → Callback σ α)

/-- The owner of the peers and the sink. -/
structure ReceiveHost (σ : Type) where
  authorized : Mac → σ → Bool
  acceptData : Mac → ℕ → UInt16 → ℕ → Callback σ Bool
  sink : Bytes → Callback σ Bool

inductive ReceiveEvent where
  | acceptData (source : Mac) (stream : ℕ) (sequence : UInt16) (now : ℕ) (answer : Bool)
  | sink (ethernet : Bytes) (answer : Bool)
  | reset
deriving DecidableEq, Repr

/-- The engine and everything else. -/
structure Reception (σ : Type) where
  engine : DataReceive
  outside : σ
  log : List ReceiveEvent := []

namespace DataReceive

def reset (e : DataReceive) : DataReceive := if e.busy then { e with resetPending := true } else {}

/-- The array of views is replaced by one of its size. -/
def setViews (e : DataReceive) (views : List (Option ViewAt)) : Checked DataReceive :=
  if h : views.length = DataCodec.maximumSubframes then pure { e with views, length_views := h }
  else throw .write

/-- The bytes of a packet are put into the scratch buffer. -/
def fill (e : DataReceive) (bytes : Bytes) : Checked DataReceive := do
  let ethernet ← storeList e.ethernet 0 bytes
  if h : ethernet.length = 14 + DataCodec.mtu then pure { e with ethernet, length_ethernet := h }
  else throw .write

/-- `views_[i]`, which must not be empty. -/
def viewOf (e : DataReceive) (i : ℕ) : Checked ViewAt :=
  match e.views[i]? with
  | some (some v) => pure v
  | _ => throw .read

/-- A received packet is for us: it came to our address, or its group address is the one that its
IPv6 destination maps to. -/
def receivable (local_ : Mac) (view : DataCodec.View) : Bool :=
  if view.destination.octet 0 &&& 1 != 0 then
    view.destination.octet 0 == 0x33 && view.destination.octet 1 == 0x33 && byteAt view.payload 24 == 0xff &&
      [view.destination.octet 2, view.destination.octet 3, view.destination.octet 4, view.destination.octet 5] ==
        slice view.payload 36 4
  else view.destination == local_

/-- The test of one view in the loop over the destinations. -/
def receivableAt (b : Bytes) (local_ : Mac) (v : ViewAt) : Checked Bool := do
  let destination ← Buffers.readMac b (Span.all b) v.destination
  if destination.octet 0 &&& 1 != 0 then
    let first ← v.payload.read b 24
    let last ← v.payload.readSlice b 36 4
    return destination.octet 0 == 0x33 && destination.octet 1 == 0x33 && first == 0xff &&
      [destination.octet 2, destination.octet 3, destination.octet 4, destination.octet 5] == last
  else return destination == local_

/-- The loop over the destinations of the first `count` views. -/
def checkDestinations (b : Bytes) (local_ : Mac) (e : DataReceive) : ℕ → ℕ → Checked Bool
  | 0, _ => return true
  | count + 1, i => do
    if ← receivableAt b local_ (← e.viewOf i) then checkDestinations b local_ e count (i + 1)
    else return false

/-- The views of the frame are put into the array: how many there are. -/
def inspectInto (b : Bytes) (e : DataReceive) : Checked (Option ℕ × DataReceive) := do
  let single ← Buffers.inspect b
  let e ← e.setViews (← store e.views 0 single)
  if single.isSome then return (some 1, e)
  else
    match ← Buffers.inspectAggregate b (some e.views) DataCodec.maximumSubframes with
    | (answer, count, stored) =>
      let e ← e.setViews (stored.getD e.views)
      return (if answer then some count else none, e)

/-- The duplicate window of the frame: its TID, or one of its own without QoS control. -/
def streamAt (b : Bytes) : Checked ℕ := do
  let kind ← (Span.all b).read b 0
  if kind = 0x88 then return ((← (Span.all b).read b 24) &&& 15).toNat
  else return 16

variable {σ α : Type}

/-- Foreign code runs; `nested` is what it gets when it calls `deliver`. -/
def runCallback (nested : Bytes → Mac → ℕ → Reception σ → Checked (ℕ × Reception σ)) :
    Callback σ α → Reception σ → Checked (α × Reception σ)
  | .done answer, w => return (answer, w)
  | .act f next, w => runCallback nested (next (f w.outside)) { w with outside := f w.outside }
  | .reset next, w =>
    runCallback nested next { w with engine := w.engine.reset, log := w.log ++ [.reset] }
  | .deliver frame local_ now next, w => do
    let (n, w) ← nested frame local_ now w
    runCallback nested (next n) w

variable (host : ReceiveHost σ) {vs : List ViewAt} {b frame : Bytes} {views : List DataCodec.View}

/-- The peer owner is asked about the view `i`. -/
def acceptView (nested : Bytes → Mac → ℕ → Reception σ → Checked (ℕ × Reception σ)) (b : Bytes)
    (stream now i : ℕ) (w : Reception σ) : Checked (Bool × Reception σ) := do
  let v ← w.engine.viewOf i
  let source ← Buffers.readMac b (Span.all b) v.source
  let (answer, w) ← runCallback nested (host.acceptData source stream v.sequence now) w
  return (answer, { w with log := w.log ++ [.acceptData source stream v.sequence now answer] })

/-- The packet of the view `i` is put together and given to the sink. -/
def sinkView (nested : Bytes → Mac → ℕ → Reception σ → Checked (ℕ × Reception σ)) (b : Bytes)
    (i : ℕ) (w : Reception σ) : Checked (Bool × Reception σ) := do
  let v ← w.engine.viewOf i
  let destination ← Buffers.readMac b (Span.all b) v.destination
  let source ← Buffers.readMac b (Span.all b) v.source
  let packet ← v.payload.readSlice b 0 v.payload.length
  let engine ← w.engine.fill (destination.toList ++ source.toList ++ [0x86, 0xdd] ++ packet)
  let bytes := engine.ethernet.take (14 + v.payload.length)
  let (answer, w) ← runCallback nested (host.sink bytes) { w with engine }
  return (answer, { w with log := w.log ++ [.sink bytes answer] })

/-- The loop that delivers: the view `i` of `remaining` ones. -/
def deliverLoop (nested : Bytes → Mac → ℕ → Reception σ → Checked (ℕ × Reception σ)) (b : Bytes)
    (stream now : ℕ) : ℕ → ℕ → ℕ → Reception σ → Checked (ℕ × Reception σ)
  | 0, _, delivered, w => return (delivered, w)
  | remaining + 1, i, delivered, w => do
    if w.engine.resetPending then return (delivered, w)
    else
      let (accepted, w) ← acceptView host nested b stream now i w
      if !accepted then deliverLoop nested b stream now remaining (i + 1) delivered w
      else
        let (answer, w) ← sinkView host nested b i w
        deliverLoop nested b stream now remaining (i + 1)
          (if answer then delivered + 1 else delivered) w

/-- `deliver`, between setting `busy_` and the destructor of `Clear`. -/
def deliverBody (nested : Bytes → Mac → ℕ → Reception σ → Checked (ℕ × Reception σ)) (b : Bytes)
    (local_ : Mac) (now : ℕ) (w : Reception σ) : Checked (ℕ × Reception σ) := do
  let frame := Span.all b
  if b.length < 24 ∨ b.length > DataCodec.maximumAggregateFrame ∨ local_.octet 0 &&& 1 ≠ 0 then
    return (0, w)
  else
    let source ← Buffers.readMac b frame 10
    let destination ← Buffers.readMac b frame 4
    if !host.authorized source w.outside then return (0, w)
    else if !unicast local_ ∨ (destination.octet 0 &&& 1 = 0 ∧ destination ≠ local_) then return (0, w)
    else
      let (found, engine) ← inspectInto b w.engine
      let w := { w with engine }
      match found with
      | none => return (0, w)
      | some count =>
        if !(← checkDestinations b local_ w.engine count 0) then return (0, w)
        else
          deliverLoop host nested b (← streamAt b) now count 0 0 w

/-- `deliver`. A call on a busy engine returns at once, so foreign code cannot nest calls: the
depth runs out only if it could. -/
def deliver : ℕ → Bytes → Mac → ℕ → Reception σ → Checked (ℕ × Reception σ)
  | 0, _, _, _, w => if w.engine.busy then return (0, w) else throw .endless
  | depth + 1, b, local_, now, w => do
    if w.engine.busy then return (0, w)
    else
      let (n, w) ← deliverBody host (deliver depth) b local_ now
        { w with engine := { w.engine with busy := true, resetPending := false } }
      return (n, { w with engine := { w.engine with busy := false }.reset })

section
variable {host : ReceiveHost σ} {b : Bytes} {w : Reception σ}

lemma deliver_busy (depth : ℕ) (b : Bytes) (local_ : Mac) (now : ℕ) (h : w.engine.busy = true) :
    deliver host depth b local_ now w = .ok (0, w) := by
  cases depth with
  | zero => exact if_pos h
  | succ depth => exact if_pos h

lemma runCallback_ok (depth : ℕ) (c : Callback σ α) (h : w.engine.busy = true) :
    ∃ answer outside resets, runCallback (deliver host depth) c w = .ok (answer,
      { engine := { w.engine with
          resetPending := w.engine.resetPending || decide (0 < resets) }
        outside
        log := w.log ++ List.replicate resets .reset }) := by
  induction c generalizing w with
  | done answer => exact ⟨answer, w.outside, 0, by simp [runCallback]⟩
  | act f next ih => exact ih (f w.outside) (w := { w with outside := f w.outside }) h
  | reset next ih =>
    have hreset : w.engine.reset = { w.engine with resetPending := true } := if_pos h
    obtain ⟨answer, outside, resets, hrun⟩ := ih (w := { w with
      engine := w.engine.reset
      log := w.log ++ [.reset] }) (by rw [hreset]; exact h)
    refine ⟨answer, outside, resets + 1, ?_⟩
    rw [runCallback, hrun, hreset]
    simp [List.replicate_succ]
  | deliver frame local_ now next ih =>
    obtain ⟨answer, outside, resets, hrun⟩ := ih 0 h
    refine ⟨answer, outside, resets, ?_⟩
    rw [runCallback, deliver_busy depth frame local_ now h, ok_bind]
    exact hrun

end

/-- A view that the codec accepted. -/
structure Received (b : Bytes) (v : ViewAt) : Prop where
  inside : v.Inside b
  carried : DataCodec.Carried (v.payload.view b)

namespace Received

variable {b : Bytes} {v : ViewAt}

lemma payload_length (h : Received b v) :
    40 ≤ v.payload.length ∧ v.payload.length ≤ DataCodec.mtu := by
  have hlength := Span.length_view h.inside.payload
  obtain ⟨hsize, hip⟩ := h.carried
  simp only [DataCodec.ipv6, Bool.and_eq_true, decide_eq_true_eq] at hip
  rw [hlength] at hsize hip
  exact ⟨hip.1.1, hsize⟩

lemma destination_ok (h : Received b v) :
    Buffers.readMac b (Span.all b) v.destination = .ok (v.load b).destination := by
  rw [Buffers.readMac_ok (Span.inside_all b) h.inside.destination, Span.view_all]
  rfl

lemma source_ok (h : Received b v) :
    Buffers.readMac b (Span.all b) v.source = .ok (v.load b).source := by
  rw [Buffers.readMac_ok (Span.inside_all b) h.inside.source, Span.view_all]
  rfl

lemma receivableAt_ok (h : Received b v) (local_ : Mac) :
    receivableAt b local_ v = .ok (receivable local_ (v.load b)) := by
  obtain ⟨hmin, -⟩ := h.payload_length
  unfold receivableAt receivable
  rw [h.destination_ok, ok_bind, Span.read_ok h.inside.payload (by omega),
    Span.readSlice_ok h.inside.payload (by omega), ok_bind, ok_bind]
  split <;> rfl

end Received

/-- The array holds these views from `i` on. -/
def Holds (e : DataReceive) (i : ℕ) (vs : List ViewAt) : Prop :=
  ∀ j (h : j < vs.length), e.views[i + j]? = some (some vs[j])

lemma Holds.head {e : DataReceive} {i : ℕ} {v : ViewAt}
    (h : e.Holds i (v :: vs)) : e.viewOf i = .ok v := by
  have hi := h 0 (by simp)
  rw [Nat.add_zero] at hi
  rw [viewOf, hi]
  rfl

lemma Holds.tail {e : DataReceive} {i : ℕ} {v : ViewAt}
    (h : e.Holds i (v :: vs)) : e.Holds (i + 1) vs := by
  intro j hj
  have hi := h (j + 1) (by simpa using hj)
  rwa [← Nat.add_assoc, Nat.add_right_comm] at hi

lemma checkDestinations_ok {e : DataReceive} (local_ : Mac) {i : ℕ}
    (hholds : e.Holds i vs) (hvs : ∀ v ∈ vs, Received b v) :
    checkDestinations b local_ e vs.length i =
      .ok ((vs.map (ViewAt.load b)).all (receivable local_)) := by
  induction vs generalizing i with
  | nil => rfl
  | cons v vs ih =>
    rw [List.length_cons, checkDestinations, hholds.head, ok_bind,
      (hvs v (by simp)).receivableAt_ok, ok_bind]
    by_cases hv : receivable local_ (v.load b) = true
    · grind [hholds.tail]
    · rw [if_neg hv]
      simp [hv]

lemma fill_ok {v : ViewAt} (h : Received b v) (e : DataReceive) :
    ∃ e', e.fill (v.load b).ethernet = .ok e' ∧ e'.busy = e.busy ∧
      e'.resetPending = e.resetPending ∧ e'.views = e.views ∧
      e'.ethernet.take (14 + v.payload.length) = (v.load b).ethernet := by
  obtain ⟨-, hmax⟩ := h.payload_length
  have hlength : (v.load b).ethernet.length = 14 + v.payload.length := by
    rw [DataCodec.length_ethernet]
    exact congrArg (14 + ·) (Span.length_view h.inside.payload)
  have hroom : 0 + (v.load b).ethernet.length ≤ e.ethernet.length := by
    rw [e.length_ethernet]
    omega
  have hsize : (overwrite e.ethernet 0 (v.load b).ethernet).length = 14 + DataCodec.mtu := by
    rw [length_overwrite, e.length_ethernet]
  refine ⟨{ e with ethernet := _, length_ethernet := hsize }, ?_, rfl, rfl, rfl, ?_⟩
  · rw [fill, storeList_ok _ hroom, ok_bind, dif_pos hsize]
    rfl
  grind [overwrite_eq]

/-- The calls for one packet; foreign code may ask for a reset in each of them. -/
inductive Attempt (stream now : ℕ) (view : DataCodec.View) : List ReceiveEvent → Prop
  | refused (resets : ℕ) : Attempt stream now view
      (List.replicate resets .reset ++ [.acceptData view.source stream view.sequence now false])
  | delivered (resets more : ℕ) (answer : Bool) : Attempt stream now view
      (List.replicate resets .reset ++ [.acceptData view.source stream view.sequence now true] ++
        List.replicate more .reset ++ [.sink view.ethernet answer])

/-- The calls for the packets of a frame: one after the other, until a reset is asked for. -/
inductive Delivery (stream now : ℕ) : List DataCodec.View → List ReceiveEvent → Prop
  | done : Delivery stream now [] []
  | stopped {view : DataCodec.View} {rest : List DataCodec.View} {calls : List ReceiveEvent}
      (h : Attempt stream now view calls) (hreset : .reset ∈ calls) :
      Delivery stream now (view :: rest) calls
  | next {view : DataCodec.View} {rest : List DataCodec.View} {calls more : List ReceiveEvent}
      (h : Attempt stream now view calls) (hreset : .reset ∉ calls)
      (hmore : Delivery stream now rest more) : Delivery stream now (view :: rest) (calls ++ more)

/-- Packets that the sink took. -/
def taken (log : List ReceiveEvent) : ℕ :=
  log.countP fun
    | .sink _ true => true
    | _ => false

lemma taken_append (l l' : List ReceiveEvent) : taken (l ++ l') = taken l + taken l' :=
  List.countP_append

@[simp] lemma taken_resets (n : ℕ) : taken (List.replicate n .reset) = 0 := by
  simp [taken, List.countP_replicate]

@[simp] lemma taken_acceptData (source : Mac) (stream : ℕ) (sequence : UInt16) (now : ℕ)
    (answer : Bool) : taken [.acceptData source stream sequence now answer] = 0 := rfl

@[simp] lemma taken_sink (ethernet : Bytes) (answer : Bool) :
    taken [.sink ethernet answer] = if answer then 1 else 0 := by
  cases answer <;> rfl

section
variable (host : ReceiveHost σ) {b : Bytes} {w : Reception σ} {i : ℕ} {v : ViewAt}

/-- After a call of foreign code: it may have asked for resets, and the call is on record. -/
structure Called (w w' : Reception σ) (resets : ℕ) (event : ReceiveEvent) : Prop where
  log : w'.log = w.log ++ (List.replicate resets .reset ++ [event])
  busy : w'.engine.busy = true
  views : w'.engine.views = w.engine.views
  resetPending : w'.engine.resetPending = (w.engine.resetPending || decide (0 < resets))

lemma acceptView_ok (depth stream now : ℕ) (hv : Received b v)
    (hview : w.engine.viewOf i = .ok v) (hbusy : w.engine.busy = true) :
    ∃ answer w' resets, acceptView host (deliver host depth) b stream now i w = .ok (answer, w') ∧
      Called w w' resets (.acceptData (v.load b).source stream v.sequence now answer) := by
  obtain ⟨answer, outside, resets, hrun⟩ := runCallback_ok depth
    (host.acceptData (v.load b).source stream v.sequence now) hbusy
  unfold acceptView
  rw [hview, ok_bind, hv.source_ok, ok_bind, hrun, ok_bind]
  exact ⟨answer, _, resets, rfl, ⟨List.append_assoc _ _ _, hbusy, rfl, rfl⟩⟩

lemma sinkView_ok (depth : ℕ) (hv : Received b v) (hview : w.engine.viewOf i = .ok v)
    (hbusy : w.engine.busy = true) :
    ∃ answer w' resets, sinkView host (deliver host depth) b i w = .ok (answer, w') ∧
      Called w w' resets (.sink (v.load b).ethernet answer) := by
  obtain ⟨e, hfill, hbusy', hpending, hviews, hbytes⟩ := fill_ok hv w.engine
  have hpacket : v.payload.readSlice b 0 v.payload.length = .ok (v.load b).payload := by
    rw [Span.readSlice_ok hv.inside.payload (by omega), slice, List.drop_zero,
      List.take_of_length_le (Span.length_view hv.inside.payload).le]
    rfl
  obtain ⟨answer, outside, resets, hrun⟩ := runCallback_ok (w := { w with engine := e }) depth
    (host.sink (v.load b).ethernet) (hbusy'.trans hbusy)
  rw [DataCodec.View.ethernet] at hfill
  unfold sinkView
  rw [hview, ok_bind, hv.destination_ok, ok_bind, hv.source_ok, ok_bind, hpacket, ok_bind, hfill,
    ok_bind]
  dsimp only
  rw [hbytes, hrun, ok_bind]
  exact ⟨answer, _, resets, rfl, ⟨List.append_assoc _ _ _, hbusy'.trans hbusy, hviews, by
    rw [hpending]⟩⟩

lemma attempt_ok (depth stream now remaining delivered : ℕ) (hv : Received b v)
    (hview : w.engine.viewOf i = .ok v) (hbusy : w.engine.busy = true)
    (hgoing : w.engine.resetPending = false) :
    ∃ calls w', Attempt stream now (v.load b) calls ∧ w'.log = w.log ++ calls ∧
      w'.engine.busy = true ∧ w'.engine.views = w.engine.views ∧
      w'.engine.resetPending = decide (.reset ∈ calls) ∧
      deliverLoop host (deliver host depth) b stream now (remaining + 1) i delivered w =
        deliverLoop host (deliver host depth) b stream now remaining (i + 1)
          (delivered + taken calls) w' := by
  obtain ⟨accepted, w₁, resets, haccept, hcalled⟩ := acceptView_ok host depth stream now hv hview
    hbusy
  rw [deliverLoop, if_neg (by simp [hgoing]), haccept, ok_bind]
  dsimp only
  cases accepted with
  | false =>
    refine ⟨_, w₁, .refused resets, hcalled.log, hcalled.busy, hcalled.views, ?_, ?_⟩
    · rw [hcalled.resetPending, hgoing]
      simp [List.mem_replicate, Nat.pos_iff_ne_zero]
    · rw [taken_append, taken_resets, taken_acceptData]
      rfl
  | true =>
    have hview₁ : w₁.engine.viewOf i = .ok v := by
      rw [viewOf, hcalled.views]
      exact hview
    obtain ⟨answer, w₂, more, hsink, hcalled₂⟩ := sinkView_ok host depth hv hview₁ hcalled.busy
    refine ⟨_, w₂, .delivered resets more answer, ?_, hcalled₂.busy,
      hcalled₂.views.trans hcalled.views, ?_, ?_⟩
    · rw [hcalled₂.log, hcalled.log]
      simp only [List.append_assoc]
      rfl
    · rw [hcalled₂.resetPending, hcalled.resetPending, hgoing]
      simp [List.mem_replicate, Nat.pos_iff_ne_zero]
    · rw [if_neg (by decide), hsink, ok_bind]
      dsimp only
      rw [taken_append, taken_append, taken_append, taken_resets, taken_resets, taken_acceptData,
        taken_sink]
      cases answer <;> rfl

lemma deliverLoop_ok (depth stream now delivered : ℕ) {vs : List ViewAt}
    (hvs : ∀ v ∈ vs, Received b v) (hholds : w.engine.Holds i vs) (hbusy : w.engine.busy = true) :
    ∃ calls w', deliverLoop host (deliver host depth) b stream now vs.length i delivered w =
        .ok (delivered + taken calls, w') ∧ w'.log = w.log ++ calls ∧ w'.engine.busy = true ∧
      (w.engine.resetPending = true → calls = []) ∧
      (w.engine.resetPending = false → Delivery stream now (vs.map (ViewAt.load b)) calls) := by
  induction vs generalizing i delivered w with
  | nil => exact ⟨[], w, rfl, (List.append_nil _).symm, hbusy, fun _ => rfl, fun _ => .done⟩
  | cons v vs ih =>
    cases hgoing : w.engine.resetPending with
    | true =>
      refine ⟨[], w, ?_, (List.append_nil _).symm, hbusy, fun _ => rfl, nofun⟩
      exact if_pos hgoing
    | false =>
      obtain ⟨calls, w₁, hattempt, hlog, hbusy₁, hviews, hpending, hloop⟩ := attempt_ok host depth
        stream now vs.length delivered (hvs v (by simp)) hholds.head hbusy hgoing
      have hholds₁ : w₁.engine.Holds (i + 1) vs := by
        intro j hj
        rw [hviews]
        exact hholds.tail j hj
      obtain ⟨more, w₂, hrest, hlog₂, hbusy₂, hstopped, hnext⟩ := ih (delivered + taken calls)
        (fun v' hv' => hvs v' (List.mem_cons_of_mem _ hv')) hholds₁ hbusy₁
      refine ⟨calls ++ more, w₂, ?_, ?_, hbusy₂, nofun, fun _ => ?_⟩
      · rw [List.length_cons, hloop, hrest, taken_append, Nat.add_assoc]
      · rw [hlog₂, hlog, List.append_assoc]
      · by_cases hreset : .reset ∈ calls
        · rw [hstopped (by rw [hpending, decide_eq_true hreset]), List.append_nil]
          exact .stopped hattempt hreset
        · exact .next hattempt hreset (hnext (by rw [hpending, decide_eq_false hreset]))

end

/-- The packets of a frame, single or aggregate. -/
def receivedViews (frame : Bytes) : Option (List DataCodec.View) :=
  match DataCodec.inspect frame with
  | some view => some [view]
  | none => DataCodec.inspectAggregate frame DataCodec.maximumSubframes

lemma carried_of_receivedViews
    (h : receivedViews frame = some views) {view : DataCodec.View} (hview : view ∈ views) :
    DataCodec.Carried view.payload ∧ view.source = macAt frame 10 ∧
      unicast (macAt frame 10) = true := by
  have hunicast : DataCodec.validHeader frame = true → unicast (macAt frame 10) = true := by
    intro hheader
    simp only [DataCodec.validHeader, DataCodec.validSource, Bool.and_eq_true] at hheader
    exact hheader.1.2
  unfold receivedViews at h
  split at h
  · rename_i single hsingle
    obtain ⟨-, hheader, -, hsource, hbody⟩ := DataCodec.inspect_iff.mp hsingle
    cases h
    rw [List.mem_singleton] at hview
    subst hview
    exact ⟨(DataCodec.inspectBody_iff.mp hbody).1, hsource, hunicast hheader⟩
  · obtain ⟨subs, haggregate, -, rfl⟩ := DataCodec.inspectAggregate_iff.mp h
    obtain ⟨s, -, rfl⟩ := List.mem_map.mp hview
    exact ⟨(DataCodec.inspectBody_iff.mp s.accepted).1, rfl, hunicast haggregate.header⟩

lemma setViews_ok (e : DataReceive) {views : List (Option ViewAt)}
    (h : views.length = DataCodec.maximumSubframes) :
    e.setViews views = .ok { e with views, length_views := h } := dif_pos h

lemma inspectInto_ok (b : Bytes) (e : DataReceive) :
    ∃ found e', inspectInto b e = .ok (found, e') ∧ e'.busy = e.busy ∧
      e'.resetPending = e.resetPending ∧ (receivedViews b = none → found = none) ∧
      ∀ views, receivedViews b = some views → ∃ vs : List ViewAt, found = some vs.length ∧
        e'.Holds 0 vs ∧ vs.map (ViewAt.load b) = views ∧ ∀ v ∈ vs, Received b v := by
  obtain ⟨single, hinspect, hsingle, hinside⟩ := Buffers.inspect_ok b
  have hlength : (e.views.set 0 single).length = DataCodec.maximumSubframes := by
    rw [List.length_set, e.length_views]
  have hpos : 0 < e.views.length := by
    rw [e.length_views]
    decide
  unfold inspectInto
  rw [hinspect, ok_bind, store_ok hpos, ok_bind, e.setViews_ok hlength, ok_bind]
  cases single with
  | some v =>
    have hviews : receivedViews b = some [v.load b] := by
      rw [receivedViews, ← hsingle]
      rfl
    rw [hviews]
    refine ⟨some 1, _, rfl, rfl, rfl, nofun, ?_⟩
    rintro _ ⟨rfl⟩
    refine ⟨[v], rfl, ?_, rfl, ?_⟩
    · intro j hj
      obtain rfl : j = 0 := by simpa using hj
      exact List.getElem?_set_self hpos
    · intro v' hv'
      rw [List.mem_singleton] at hv'
      subst hv'
      exact ⟨hinside v' rfl, (carried_of_receivedViews hviews List.mem_cons_self).1⟩
  | none =>
    have hviews : receivedViews b =
        DataCodec.inspectAggregate b DataCodec.maximumSubframes := by
      rw [receivedViews, ← hsingle]
      rfl
    obtain ⟨hrefuse, haccept⟩ := Buffers.inspectAggregate_ok b (some (e.views.set 0 none))
      DataCodec.maximumSubframes (by rintro _ ⟨rfl⟩; exact hlength.ge)
    rw [hviews]
    cases hvalue : DataCodec.inspectAggregate b DataCodec.maximumSubframes with
    | none =>
      rw [hrefuse hvalue, ok_bind]
      dsimp only [Option.getD_some]
      rw [setViews_ok _ hlength, ok_bind]
      exact ⟨none, _, rfl, rfl, rfl, fun _ => rfl, nofun⟩
    | some views =>
      obtain ⟨stored, haggregate, hload, hstored⟩ := haccept views hvalue
      have hcount : stored.length = views.length := by rw [← hload, List.length_map]
      have hfit : 0 + (stored.map some).length ≤ (e.views.set 0 none).length := by
        obtain ⟨subs, -, hle, rfl⟩ := DataCodec.inspectAggregate_iff.mp hvalue
        rw [List.length_map] at hcount ⊢
        omega
      have hsize : (overwrite (e.views.set 0 none) 0 (stored.map some)).length =
          DataCodec.maximumSubframes := by
        rw [length_overwrite, hlength]
      rw [haggregate, ok_bind]
      dsimp only [Option.map_some, Option.getD_some]
      rw [setViews_ok _ hsize, ok_bind, if_pos rfl]
      refine ⟨some views.length, _, rfl, rfl, rfl, nofun, ?_⟩
      rintro _ ⟨rfl⟩
      refine ⟨stored, by rw [hcount], ?_, hload, ?_⟩
      · intro j hj
        grind [overwrite_eq]
      · intro v hv
        refine ⟨hstored v hv, ?_⟩
        have hmem : v.load b ∈ views := by
          rw [← hload]
          exact List.mem_map_of_mem hv
        exact (carried_of_receivedViews (hviews.trans hvalue) hmem).1

/-- The duplicate window of a frame. -/
def streamOf (frame : Bytes) : ℕ :=
  if byteAt frame 0 = 0x88 then (byteAt frame 24 &&& 15).toNat else 16

lemma streamAt_ok (h : 24 < b.length) : streamAt b = .ok (streamOf b) := by
  have hinside := Span.inside_all b
  unfold streamAt streamOf
  rw [Span.read_ok hinside (by show 0 < b.length; omega), ok_bind, Span.read_ok hinside h, ok_bind,
    Span.view_all]
  split <;> rfl

/-- What a frame must be for its packets to be delivered. -/
structure Deliverable (host : ReceiveHost σ) (frame : Bytes) (local_ : Mac) (outside : σ)
    (views : List DataCodec.View) : Prop where
  wellFormed : receivedViews frame = some views
  authorized : host.authorized (macAt frame 10) outside = true
  addressed : byteAt frame 4 &&& 1 = 0 → macAt frame 4 = local_
  receivable : ∀ view ∈ views, receivable local_ view = true
  station : unicast local_ = true

lemma length_of_receivedViews (h : receivedViews frame = some views) :
    40 ≤ frame.length ∧ frame.length ≤ DataCodec.maximumAggregateFrame := by
  have hmax : DataCodec.maximumAggregateFrame = 11454 := rfl
  have hmtu : DataCodec.mtu = 1428 := rfl
  unfold receivedViews at h
  split at h
  · rename_i single hsingle
    obtain ⟨-, -, -, -, hbody⟩ := DataCodec.inspect_iff.mp hsingle
    obtain ⟨hlow, hhigh⟩ := DataCodec.length_of_inspectBody hbody
    have hsize : DataCodec.headerSize frame ≤ 26 := by
      unfold DataCodec.headerSize
      split <;> decide
    rw [List.length_drop] at hlow hhigh
    omega
  · obtain ⟨subs, haggregate, -, -⟩ := DataCodec.inspectAggregate_iff.mp h
    have hbody := haggregate.body.length
    rw [List.length_drop] at hbody
    exact ⟨by omega, haggregate.length.2⟩

lemma deliverBody_ok (host : ReceiveHost σ) (depth : ℕ) (b : Bytes) (local_ : Mac) (now : ℕ)
    {w : Reception σ} (hbusy : w.engine.busy = true) (hgoing : w.engine.resetPending = false) :
    ∃ calls w', deliverBody host (deliver host depth) b local_ now w = .ok (taken calls, w') ∧
      w'.log = w.log ++ calls ∧
      ((∀ views, ¬ Deliverable host b local_ w.outside views) →
        calls = [] ∧ w'.outside = w.outside) ∧
      ∀ views, Deliverable host b local_ w.outside views →
        Delivery (streamOf b) now views calls := by
  -- Nothing was called and the frame is not to be delivered.
  have hrefused : ∀ w' : Reception σ, w'.log = w.log → w'.outside = w.outside →
      (∀ views, ¬ Deliverable host b local_ w.outside views) →
      ∃ calls w'', (.ok (0, w') : Checked (ℕ × Reception σ)) = .ok (taken calls, w'') ∧
        w''.log = w.log ++ calls ∧
        ((∀ views, ¬ Deliverable host b local_ w.outside views) →
          calls = [] ∧ w''.outside = w.outside) ∧
        ∀ views, Deliverable host b local_ w.outside views →
          Delivery (streamOf b) now views calls := by
    intro w' hlog houtside hnot
    exact ⟨[], w', rfl, by rw [hlog, List.append_nil], fun _ => ⟨rfl, houtside⟩,
      fun views h => absurd h (hnot views)⟩
  have hinside := Span.inside_all b
  have hall : (Span.all b).length = b.length := rfl
  unfold deliverBody
  by_cases hsize : b.length < 24 ∨ b.length > DataCodec.maximumAggregateFrame ∨
      local_.octet 0 &&& 1 ≠ 0
  · rw [if_pos hsize]
    refine hrefused w rfl rfl fun views h => ?_
    obtain ⟨hmin, hmax⟩ := length_of_receivedViews h.wellFormed
    have hstation := h.station
    simp only [unicast, Bool.and_eq_true, beq_iff_eq] at hstation
    rcases hsize with hshort | hlong | hgroup
    · omega
    · omega
    · exact hgroup hstation.2
  rw [if_neg hsize, Buffers.readMac_ok hinside (by omega), Buffers.readMac_ok hinside (by omega),
    ok_bind, ok_bind, Span.view_all]
  by_cases hauthorized : host.authorized (macAt b 10) w.outside = true
  swap
  · rw [if_pos (by simpa using hauthorized)]
    exact hrefused w rfl rfl fun views h => hauthorized h.authorized
  rw [if_neg (by simp [hauthorized])]
  by_cases haddress : (!unicast local_) = true ∨
      ((macAt b 4).octet 0 &&& 1 = 0 ∧ macAt b 4 ≠ local_)
  · rw [if_pos haddress]
    refine hrefused w rfl rfl fun views h => ?_
    rcases haddress with hstation | ⟨hsingle, hother⟩
    · rw [h.station] at hstation
      cases hstation
    · exact hother (h.addressed hsingle)
  rw [if_neg haddress]
  simp only [not_or, Bool.not_eq_true', Bool.not_eq_false, not_and, not_not] at haddress
  obtain ⟨hstation, haddressed⟩ := haddress
  obtain ⟨found, e, hinto, hbusy', hgoing', hnone, hsome⟩ := inspectInto_ok b w.engine
  rw [hinto, ok_bind]
  cases hviews : receivedViews b with
  | none =>
    rw [hnone hviews]
    refine hrefused _ rfl rfl fun views h => ?_
    rw [h.wellFormed] at hviews
    cases hviews
  | some views =>
    obtain ⟨vs, rfl, hholds, hload, hreceived⟩ := hsome views hviews
    dsimp only
    rw [checkDestinations_ok local_ hholds hreceived, ok_bind, hload]
    by_cases hdestinations : views.all (receivable local_) = true
    swap
    · rw [if_pos (by simpa using hdestinations)]
      refine hrefused _ rfl rfl fun views' h => ?_
      obtain rfl := Option.some.inj (hviews.symm.trans h.wellFormed)
      exact hdestinations (List.all_eq_true.mpr h.receivable)
    · obtain ⟨hmin, -⟩ := length_of_receivedViews hviews
      obtain ⟨calls, w', hloop, hlog, -, -, hdelivery⟩ := deliverLoop_ok host
        (w := { w with engine := e }) depth (streamOf b) now 0 hreceived hholds
        (hbusy'.trans hbusy)
      rw [if_neg (by simp [hdestinations]), streamAt_ok (by omega), ok_bind, hloop, zero_add]
      have hdeliverable : Deliverable host b local_ w.outside views :=
        ⟨hviews, hauthorized, haddressed, List.all_eq_true.mp hdestinations, hstation⟩
      refine ⟨calls, w', rfl, hlog, fun hnot => absurd hdeliverable (hnot views), ?_⟩
      intro views' h
      obtain rfl := Option.some.inj (hviews.symm.trans h.wellFormed)
      grind

/-- The reasons to drop a frame as a whole. -/
inductive Rejected (host : ReceiveHost σ) (frame : Bytes) (local_ : Mac) (outside : σ) : Prop
  | malformed (h : receivedViews frame = none)
  | unauthorized (h : host.authorized (macAt frame 10) outside = false)
  | elsewhere (hsingle : byteAt frame 4 &&& 1 = 0) (h : macAt frame 4 ≠ local_)
  | foreign {views : List DataCodec.View} {view : DataCodec.View}
      (hviews : receivedViews frame = some views) (hview : view ∈ views)
      (h : receivable local_ view = false)
  /-- The engine has no address of its own. -/
  | noStation (h : unicast local_ = false)

lemma safe_deliver (host : ReceiveHost σ) (depth : ℕ) (b : Bytes) (local_ : Mac) (now : ℕ)
    {w : Reception σ} (hidle : w.engine.busy = false) :
    Safe (deliver host (depth + 1) b local_ now w) fun r => r.2.engine.busy = false := by
  obtain ⟨calls, w', hbody, -⟩ := deliverBody_ok host depth b local_ now
    (w := { w with engine := { w.engine with busy := true, resetPending := false } }) rfl rfl
  rw [deliver, if_neg (by simp [hidle]), hbody, ok_bind]
  exact safe_pure rfl

lemma rejected_iff {host : ReceiveHost σ} {local_ : Mac} {outside : σ} :
    Rejected host frame local_ outside ↔
      ∀ views, ¬ Deliverable host frame local_ outside views := by
  constructor
  · rintro h views ⟨hviews, hauthorized, haddressed, hreceivable, hstation⟩
    cases h with
    | malformed h => simp [h] at hviews
    | unauthorized h => simp [h] at hauthorized
    | elsewhere hsingle h => exact h (haddressed hsingle)
    | foreign hviews' hview h =>
      grind
    | noStation h => simp [h] at hstation
  · intro hnot
    by_contra hkept
    cases hviews : receivedViews frame with
    | none => exact hkept (.malformed hviews)
    | some views =>
      refine hnot views ⟨hviews, ?_, ?_, ?_, ?_⟩
      · exact Bool.eq_true_of_not_eq_false fun h => hkept (.unauthorized h)
      · exact fun hsingle => by_contra fun h => hkept (.elsewhere hsingle h)
      · exact fun view hview => Bool.eq_true_of_not_eq_false fun h => hkept (.foreign hviews hview h)
      · exact Bool.eq_true_of_not_eq_false fun h => hkept (.noStation h)

lemma validEthernet_of_receivedViews
    (h : receivedViews frame = some views) {view : DataCodec.View} (hview : view ∈ views) :
    DataCodec.validEthernet view.ethernet = true ∧ macAt view.ethernet 6 = macAt frame 10 := by
  obtain ⟨⟨hsize, hip⟩, hsource, hunicast⟩ := carried_of_receivedViews h hview
  obtain ⟨-, hmac, h12, h13, hpacket⟩ := DataCodec.ethernet_parts view
  have hlength := DataCodec.length_ethernet view
  rw [DataCodec.validEthernet_iff, hmac, hpacket, hsource]
  exact ⟨⟨by omega, by omega, h12, h13, hunicast, hip⟩, rfl⟩

/-- A frame on an idle engine. If there is a reason to drop it, nobody is called; otherwise its
packets are offered in order until a reset is asked for, and those that the peer owner accepts go
to the sink. A call from foreign code does nothing, and the engine is left clear. -/
theorem deliver_all_or_nothing (host : ReceiveHost σ) (depth : ℕ) (frame : Bytes) (local_ : Mac)
    (now : ℕ) (w : Reception σ) (hidle : w.engine.busy = false) :
    ∃ calls outside, deliver host (depth + 1) frame local_ now w =
        .ok (taken calls, { engine := {}, outside, log := w.log ++ calls }) ∧
      (Rejected host frame local_ w.outside → calls = [] ∧ outside = w.outside) ∧
      (¬ Rejected host frame local_ w.outside → ∃ views, receivedViews frame = some views ∧
        Delivery (streamOf frame) now views calls ∧ ∀ view ∈ views,
          DataCodec.validEthernet view.ethernet = true ∧
            macAt view.ethernet 6 = macAt frame 10) ∧
      (∀ view, DataCodec.inspect frame = some view → receivedViews frame = some [view] ∧
        ∀ room ≥ view.ethernet.length,
          DataCodec.decode frame room = some (view.ethernet, view.sequence)) ∧
      ∀ depth' frame' local' now' (w' : Reception σ), w'.engine.busy = true →
        deliver host depth' frame' local' now' w' = .ok (0, w') := by
  obtain ⟨calls, w', hbody, hlog, hrefused, hdelivery⟩ := deliverBody_ok host depth frame local_ now
    (w := { w with engine := { w.engine with busy := true, resetPending := false } }) rfl rfl
  refine ⟨calls, w'.outside, ?_, ?_, ?_, ?_, ?_⟩
  · rw [deliver, if_neg (by simp [hidle]), hbody, ok_bind]
    dsimp only at hlog ⊢
    rw [hlog]
    rfl
  · intro h
    exact hrefused (rejected_iff.mp h)
  · intro h
    rw [rejected_iff, not_forall] at h
    obtain ⟨views, hviews⟩ := h
    have hdeliverable := not_not.mp hviews
    exact ⟨views, hdeliverable.wellFormed, hdelivery views hdeliverable, fun view hview =>
      validEthernet_of_receivedViews hdeliverable.wellFormed hview⟩
  · intro view hview
    refine ⟨by rw [receivedViews, hview], fun room hroom => ?_⟩
    rw [DataCodec.length_ethernet] at hroom
    exact DataCodec.decode_of_inspect hview hroom
  · intro depth' frame' local' now' w' hbusy
    exact deliver_busy depth' frame' local' now' hbusy

/-- An owner and a sink that take everything. -/
def eagerHost : ReceiveHost Unit where
  authorized _ _ := true
  acceptData _ _ _ _ := .done true
  sink _ := .done true

/-- A packet to all nodes. -/
def groupView : DataCodec.View where
  destination := Mac.of 0x33 0x33 0 0 0 1
  source := Mac.of 2 0 0 0 0 9
  payload := [0x60] ++ List.replicate 23 0 ++ [0xff] ++ List.replicate 14 0 ++ [1]
  sequence := 7

def groupFrame : Bytes :=
  DataCodec.macHeader 0x88 groupView.destination groupView.source 5 ++ [0, 0] ++
    DataCodec.plainBody groupView.sequence groupView.payload

/-- The packet is offered and goes up. -/
theorem deliver_groupFrame :
    ∃ calls, deliver eagerHost 1 groupFrame (Mac.of 2 0 0 0 0 1) 0 { engine := {}, outside := () } =
        .ok (taken calls, { engine := {}, outside := (), log := calls }) ∧
      Delivery 0 0 [groupView] calls := by
  have hviews : receivedViews groupFrame = some [groupView] := by decide +kernel
  have hgroup : byteAt groupFrame 4 &&& 1 ≠ 0 := by decide +kernel
  have hreceivable : receivable (Mac.of 2 0 0 0 0 1) groupView = true := by decide +kernel
  have hstation : unicast (Mac.of 2 0 0 0 0 1) = true := by decide +kernel
  have hstream : streamOf groupFrame = 0 := by decide +kernel
  have hkept : ¬ Rejected eagerHost groupFrame (Mac.of 2 0 0 0 0 1) () := by
    rw [rejected_iff, not_forall]
    exact ⟨[groupView], not_not.mpr ⟨hviews, rfl, fun h => absurd h hgroup, by simpa using hreceivable,
      hstation⟩⟩
  obtain ⟨calls, outside, hrun, -, hdelivered, -⟩ := deliver_all_or_nothing eagerHost 0 groupFrame
    (Mac.of 2 0 0 0 0 1) 0 { engine := {}, outside := () } rfl
  obtain ⟨views, hsome, hdelivery, -⟩ := hdelivered hkept
  obtain rfl := Option.some.inj (hviews.symm.trans hsome)
  rw [hstream] at hdelivery
  exact ⟨calls, hrun, hdelivery⟩

/-- Without an address of its own the engine delivers nothing, not even to a group. -/
theorem deliver_noStation :
    receivedViews groupFrame = some [groupView] ∧ receivable zeroMac groupView = true ∧
      byteAt groupFrame 4 &&& 1 ≠ 0 ∧ eagerHost.authorized (macAt groupFrame 10) () = true ∧
      (deliver eagerHost 1 groupFrame zeroMac 0 { engine := {}, outside := () }).map (·.2.log) =
        .ok [] := by
  refine ⟨?_, ?_, ?_, rfl, ?_⟩
  · decide +kernel
  · decide +kernel
  · decide +kernel
  · decide +kernel

end DataReceive

end AirportAwdl.Native
