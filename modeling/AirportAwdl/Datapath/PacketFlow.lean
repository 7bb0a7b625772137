import AirportAwdl.Lib.Handover
import AirportAwdl.Lib.Program
import AirportAwdl.Native.Codec

/-!
# The transmit flow

`PacketFlow::transmit` takes packets from the interface's queue as long as the sender accepts
them and returns them in batches. The adapter behind it is arbitrary: its answers come from any
state `A`. The log of its calls names each packet by its index, so that "exactly once" can be
said of arrays with repeated pointers; the adapter itself does not see the index.
-/

namespace AirportAwdl.Datapath

open ByteBuffer StateProgram Handover

/-- What `transmit` asks of its adapter. -/
structure Adapter (A P : Type) where
  enabled : A → Bool
  /-- The borrowed bytes of a packet that can be viewed. -/
  view : A → P → Option Bytes × A
  send : A → Bytes → Bool × A
  invalid : A → A
  complete : A → List P → Bool × A
  release : A → P → A

/-- A call of the adapter; packets come with their index in the array. -/
inductive FlowEvent (P : Type) where
  | invalid (i : ℕ)
  | viewed (i : ℕ) (bytes : Option Bytes)
  | sent (i : ℕ) (bytes : Bytes) (accepted : Bool)
  | handover (call : Handover (ℕ × P))

/-- The adapter's state and the calls so far. -/
structure Flow (A P : Type) where
  adapter : A
  log : List (FlowEvent P) := []

section
variable {A P α : Type} (adapter : Adapter A P)

/-- Call the adapter and log the call with its answer. -/
def call (event : α → FlowEvent P) (f : A → α × A) : StateM (Flow A P) α :=
  modifyGet fun s => ((f s.adapter).1,
    { adapter := (f s.adapter).2, log := s.log ++ [event (f s.adapter).1] })

def invalid (i : ℕ) : StateM (Flow A P) Unit :=
  call (fun _ => .invalid i) fun a => ((), adapter.invalid a)

def view (i : ℕ) (packet : P) : StateM (Flow A P) (Option Bytes) :=
  call (.viewed i) fun a => adapter.view a packet

def send (i : ℕ) (bytes : Bytes) : StateM (Flow A P) Bool :=
  call (.sent i bytes) fun a => adapter.send a bytes

def complete (batch : List (ℕ × P)) : StateM (Flow A P) Bool :=
  call (fun accepted => .handover (.complete batch accepted)) fun a =>
    adapter.complete a (batch.map Prod.snd)

def release (packet : ℕ × P) : StateM (Flow A P) Unit :=
  call (fun _ => .handover (.release packet)) fun a => ((), adapter.release a packet.2)

/-- `PacketFlow::finish` -/
def finish (batch : List (ℕ × P)) : StateM (Flow A P) Unit := do
  if !(← complete adapter batch) then batch.forM (release adapter)

/-- The check for a full batch after each packet. -/
def finishFull (batch : List (ℕ × P)) : StateM (Flow A P) (List (ℕ × P)) := do
  if batch.length = 64 then
    finish adapter batch
    pure []
  else pure batch

/-- The last batch. -/
def finishLast (batch : List (ℕ × P)) : StateM (Flow A P) Unit :=
  if batch.isEmpty then pure () else finish adapter batch

/-- The loop of `transmit` over the packets from index `consumed` on. -/
def transmitFrom : List (Option P) → ℕ → List (ℕ × P) → StateM (Flow A P) ℕ
  | [], consumed, batch => do
    finishLast adapter batch
    pure consumed
  | none :: rest, consumed, batch => do
    invalid adapter consumed
    transmitFrom rest (consumed + 1) batch
  | some packet :: rest, consumed, batch => do
    match ← view adapter consumed packet with
    | some bytes =>
      if ← send adapter consumed bytes then
        let batch ← finishFull adapter (batch ++ [(consumed, packet)])
        transmitFrom rest (consumed + 1) batch
      else
        finishLast adapter batch
        pure consumed
    | none =>
      invalid adapter consumed
      let batch ← finishFull adapter (batch ++ [(consumed, packet)])
      transmitFrom rest (consumed + 1) batch

/-- `PacketFlow::transmit`; the array pointer may be null. -/
def transmit (count : ℕ) (packets : Option (Vector (Option P) count)) : StateM (Flow A P) ℕ := do
  match packets with
  | none => pure 0
  | some packets =>
    if count = 0 ∨ !adapter.enabled (← get).adapter then pure 0
    else transmitFrom adapter packets.toList 0 []

end

variable {A P : Type} {adapter : Adapter A P} {s : Flow A P} {batch done : List (ℕ × P)}
  {seen : List (Option P)} {log : List (FlowEvent P)}

/-- The calls that hand packets over. -/
def handovers (log : List (FlowEvent P)) : List (Handover (ℕ × P)) :=
  log.filterMap fun
    | .handover call => some call
    | _ => none

/-- The packets that were looked at. -/
def views (log : List (FlowEvent P)) : List ℕ :=
  log.filterMap fun
    | .viewed i _ => some i
    | _ => none

/-- The packets that could be viewed, with their bytes. -/
def viewable (log : List (FlowEvent P)) : List (ℕ × Bytes) :=
  log.filterMap fun
    | .viewed i (some bytes) => some (i, bytes)
    | _ => none

/-- The sends that were accepted. -/
def acceptedSends (log : List (FlowEvent P)) : List (ℕ × Bytes) :=
  log.filterMap fun
    | .sent i bytes true => some (i, bytes)
    | _ => none

/-- The packets of an array that are not null, with their indices. -/
def present (packets : List (Option P)) : List (ℕ × P) :=
  packets.zipIdx.filterMap fun x => x.1.map fun packet => (x.2, packet)

lemma present_append_none (packets : List (Option P)) :
    present (packets ++ [none]) = present packets := by
  simp [present, List.zipIdx_append]

lemma present_append_some (packets : List (Option P)) (packet : P) :
    present (packets ++ [some packet]) = present packets ++ [(packets.length, packet)] := by
  simp [present, List.zipIdx_append]

lemma count_present [DecidableEq P] (packets : List (Option P)) (x : ℕ × P) :
    (present packets).countP (· = x) = if packets[x.1]? = some (some x.2) then 1 else 0 := by
  induction packets using List.reverseRecOn with
  | nil => simp [present]
  | append_singleton packets packet ih =>
    rcases lt_trichotomy x.1 packets.length with hlt | heq | hgt
    · have hne : ∀ p, (packets.length, p) ≠ x := fun p h => by rw [← h] at hlt; omega
      rw [List.getElem?_append_left hlt, ← ih]
      cases packet with
      | none => rw [present_append_none]
      | some p => rw [present_append_some, List.countP_append, List.countP_singleton,
          if_neg (by simpa using hne p), Nat.add_zero]
    · have hend : packets[x.1]? = none := List.getElem?_eq_none heq.ge
      rw [hend, if_neg (Option.some_ne_none _).symm] at ih
      rw [heq, List.getElem?_concat_length]
      cases packet with
      | none => rw [present_append_none, ih]; rfl
      | some p =>
        rw [present_append_some, List.countP_append, ih, List.countP_singleton, Nat.zero_add]
        obtain ⟨i, q⟩ := x
        simp_all
    · have hend : packets[x.1]? = none := List.getElem?_eq_none hgt.le
      rw [hend, if_neg (Option.some_ne_none _).symm] at ih
      have hne : ∀ p, (packets.length, p) ≠ x := fun p h => by rw [← h] at hgt; omega
      rw [List.getElem?_eq_none (by simpa using hgt), if_neg (Option.some_ne_none _).symm]
      cases packet with
      | none => rw [present_append_none, ih]
      | some p => rw [present_append_some, List.countP_append, List.countP_singleton, ih,
          if_neg (by simpa using hne p)]

lemma present_lt {packets : List (Option P)} {x : ℕ × P} (h : x ∈ present packets) :
    x.1 < packets.length := by
  grind [present, Option.map_eq_some_iff]

/-- How far the loop is after the packets `seen`: the packets among them are handed over or
wait in `batch`, and each one that could be viewed was sent. -/
structure Progress (seen : List (Option P)) (batch : List (ℕ × P)) (log : List (FlowEvent P)) :
    Prop where
  settled : ∃ done, Settled 64 (handovers log) done ∧ done ++ batch = present seen
  viewed : views log = (present seen).map Prod.fst
  sent : acceptedSends log = viewable log

/-- What a call that returns `c` has done to an array. -/
structure Outcome (packets : List (Option P)) (c : ℕ) (log : List (FlowEvent P)) : Prop where
  le : c ≤ packets.length
  settled : Settled 64 (handovers log) (present (packets.take c))
  viewed : views log =
    (present (packets.take c)).map Prod.fst ++ if c < packets.length then [c] else []
  sent : acceptedSends log = (viewable log).filter fun x => x.1 < c
  refused : c < packets.length → ∃ bytes, .sent c bytes false ∈ log

lemma wp_call {α : Type} {event : α → FlowEvent P} {f : A → α × A} {Q : α → Flow A P → Prop}
    : wp (call event f) Q s ↔
      Q (f s.adapter).1
        { adapter := (f s.adapter).2, log := s.log ++ [event (f s.adapter).1] } := Iff.rfl

lemma finish_spec (batch : List (ℕ × P)) (s : Flow A P) :
    wp (finish adapter batch) (fun _ s' => ∃ accepted, s'.log = s.log ++
      (settle batch accepted).map FlowEvent.handover) s := by
  have hreleases : ∀ (l : List (ℕ × P)) (s : Flow A P),
      wp (l.forM (release adapter)) (fun _ s' => s'.log = s.log ++
        (l.map Handover.release).map FlowEvent.handover) s := by
    intro l
    induction l with
    | nil => exact fun s => (List.append_nil s.log).symm
    | cons x l ih =>
      intro s
      rw [wp_forM_cons, release, wp_call]
      refine wp_mono (ih _) fun _ s' hs' => ?_
      rw [hs']
      simp
  unfold finish
  rw [wp_bind, complete, wp_call]
  cases (adapter.complete s.adapter (batch.map Prod.snd)).1 with
  | true => exact ⟨true, rfl⟩
  | false =>
    refine wp_mono (hreleases batch _) fun _ s' hs' => ⟨false, ?_⟩
    rw [hs']
    simp [settle]

lemma handovers_append (log log' : List (FlowEvent P)) :
    handovers (log ++ log') = handovers log ++ handovers log' := List.filterMap_append

lemma views_append (log log' : List (FlowEvent P)) :
    views (log ++ log') = views log ++ views log' := List.filterMap_append

lemma viewable_append (log log' : List (FlowEvent P)) :
    viewable (log ++ log') = viewable log ++ viewable log' := List.filterMap_append

lemma acceptedSends_append (log log' : List (FlowEvent P)) :
    acceptedSends (log ++ log') = acceptedSends log ++ acceptedSends log' :=
  List.filterMap_append

lemma handovers_map (calls : List (Handover (ℕ × P))) :
    handovers (calls.map FlowEvent.handover) = calls := by
  simp [handovers, List.filterMap_map]

lemma views_map (log : List (FlowEvent P)) (calls : List (Handover (ℕ × P))) :
    views (log ++ calls.map FlowEvent.handover) = views log ∧
      viewable (log ++ calls.map FlowEvent.handover) = viewable log ∧
      acceptedSends (log ++ calls.map FlowEvent.handover) = acceptedSends log := by
  simp [views, viewable, acceptedSends, List.filterMap_append, List.filterMap_map]

/-- Whatever waits in a batch is settled behind what was settled before. -/
lemma finish_settles
    (h : Settled 64 (handovers s.log) done) (hne : batch ≠ []) (hle : batch.length ≤ 64) :
    wp (finish adapter batch) (fun _ s' => Settled 64 (handovers s'.log) (done ++ batch) ∧
      ∃ calls, s'.log = s.log ++ List.map FlowEvent.handover calls) s := by
  refine wp_mono (finish_spec batch s) ?_
  rintro _ s' ⟨accepted, hs'⟩
  refine ⟨?_, _, hs'⟩
  rw [hs', handovers_append, handovers_map]
  exact h.batch hne hle accepted

lemma finishLast_settles (h : Settled 64 (handovers s.log) done) (hle : batch.length ≤ 64) :
    wp (finishLast adapter batch) (fun _ s' => Settled 64 (handovers s'.log) (done ++ batch) ∧
      ∃ calls, s'.log = s.log ++ List.map FlowEvent.handover calls) s := by
  cases batch with
  | nil => exact ⟨(List.append_nil done).symm ▸ h, [], (List.append_nil s.log).symm⟩
  | cons x batch => exact finish_settles h (List.cons_ne_nil x batch) hle

lemma finishFull_spec (h : Progress seen batch s.log) (hle : batch.length ≤ 64) :
    wp (finishFull adapter batch) (fun batch' s' => Progress seen batch' s'.log ∧
      batch'.length < 64) s := by
  obtain ⟨done, hdone, hall⟩ := h.settled
  unfold finishFull
  rw [wp_ite]
  refine ⟨fun hfull => ?_, fun hroom => ⟨h, lt_of_le_of_ne hle hroom⟩⟩
  have hne : batch ≠ [] := List.ne_nil_of_length_pos (by omega)
  refine wp_seq (finish_settles hdone hne hle) ?_
  rintro _ s' ⟨hset, calls, hlog⟩
  obtain ⟨hviews, hviewable, hsends⟩ := views_map s.log calls
  rw [wp_pure]
  refine ⟨⟨⟨done ++ batch, hset, by rw [List.append_nil, hall]⟩, ?_, ?_⟩, Nat.zero_lt_succ 63⟩
  · rw [hlog, hviews, h.viewed]
  · rw [hlog, hsends, hviewable, h.sent]

lemma Progress.skip
    (h : Progress seen batch log) {event : FlowEvent P} (hcalls : handovers [event] = [])
    (hviews : views [event] = []) (hviewable : viewable [event] = [])
    (hsent : acceptedSends [event] = []) : Progress (seen ++ [none]) batch (log ++ [event]) := by
  obtain ⟨done, hdone, hall⟩ := h.settled
  refine ⟨⟨done, ?_, ?_⟩, ?_, ?_⟩
  · rwa [handovers_append, hcalls, List.append_nil]
  · rw [present_append_none, hall]
  · rw [views_append, hviews, List.append_nil, h.viewed, present_append_none]
  · rw [acceptedSends_append, viewable_append, hsent, hviewable, h.sent]

/-- A packet that was looked at, and sent if it could be viewed, joins the batch. -/
lemma Progress.push (h : Progress seen batch log) (packet : P) {events : List (FlowEvent P)}
    (hcalls : handovers events = []) (hviews : views events = [seen.length])
    (hsent : acceptedSends events = viewable events) :
    Progress (seen ++ [some packet]) (batch ++ [(seen.length, packet)]) (log ++ events) := by
  obtain ⟨done, hdone, hall⟩ := h.settled
  refine ⟨⟨done, ?_, ?_⟩, ?_, ?_⟩
  · rwa [handovers_append, hcalls, List.append_nil]
  · rw [present_append_some, ← hall, List.append_assoc]
  · rw [views_append, hviews, h.viewed, present_append_some, List.map_append]
    rfl
  · rw [acceptedSends_append, viewable_append, hsent, h.sent]

lemma Progress.viewable_lt (h : Progress seen batch log) :
    ∀ x ∈ viewable log, x.1 < seen.length := by
  intro x hx
  have hmem : x.1 ∈ views log := by
    grind [viewable, views]
  rw [h.viewed] at hmem
  obtain ⟨y, hy, hyx⟩ := List.mem_map.mp hmem
  exact hyx ▸ present_lt hy

/-- The loop ends at the first packet whose send is refused, or at the end of the array. -/
lemma transmitFrom_spec (packets : List (Option P)) : ∀ (rest seen : List (Option P))
    (batch : List (ℕ × P)) (s : Flow A P), packets = seen ++ rest →
      Progress seen batch s.log → batch.length < 64 →
      wp (transmitFrom adapter rest seen.length batch)
        (fun c s' => Outcome packets c s'.log) s := by
  intro rest
  induction rest with
  | nil =>
    intro seen batch s hsplit h hroom
    obtain ⟨done, hdone, hall⟩ := h.settled
    rw [List.append_nil] at hsplit
    subst hsplit
    refine wp_seq (finishLast_settles hdone hroom.le) ?_
    rintro _ s' ⟨hset, calls, hlog⟩
    obtain ⟨hviews, hviewable, hsends⟩ := views_map s.log calls
    rw [wp_pure]
    refine ⟨le_rfl, ?_, ?_, ?_, fun hlt => absurd hlt (lt_irrefl _)⟩
    · rwa [List.take_length, ← hall]
    · rw [hlog, hviews, h.viewed, List.take_length, if_neg (lt_irrefl _), List.append_nil]
    · rw [hlog, hsends, hviewable, h.sent, eq_comm, List.filter_eq_self]
      exact fun x hx => by simpa using h.viewable_lt x hx
  | cons packet rest ih =>
    intro seen batch s hsplit h hroom
    have hsplit' : packets = (seen ++ [packet]) ++ rest := by rw [hsplit, List.append_assoc]; rfl
    have hlen : (seen ++ [packet]).length = seen.length + 1 := by simp
    cases packet with
    | none =>
      unfold transmitFrom
      rw [wp_bind, invalid, wp_call, ← hlen]
      exact ih _ _ _ hsplit' (h.skip rfl rfl rfl rfl) hroom
    | some packet =>
      -- the packet joins the batch with the calls `events` made for it
      have hnext : ∀ (events : List (FlowEvent P)) (s' : Flow A P), s'.log = s.log ++ events →
          handovers events = [] → views events = [seen.length] →
          acceptedSends events = viewable events →
          wp (do
            let batch ← finishFull adapter (batch ++ [(seen.length, packet)])
            transmitFrom adapter rest (seen.length + 1) batch)
            (fun c s' => Outcome packets c s'.log) s' := by
        intro events s' hlog hcalls hviews hsent
        have hp : Progress (seen ++ [some packet]) (batch ++ [(seen.length, packet)]) s'.log := by
          rw [hlog]
          exact h.push packet hcalls hviews hsent
        refine wp_seq (finishFull_spec hp (by simpa using hroom)) ?_
        grind
      unfold transmitFrom
      rw [wp_bind, view, wp_call]
      cases (adapter.view s.adapter packet).1 with
      | none =>
        exact hnext [.viewed seen.length none, .invalid seen.length] _ (by simp) rfl rfl rfl
      | some bytes =>
        rw [wp_bind, send, wp_call]
        cases (adapter.send _ bytes).1 with
        | true =>
          exact hnext [.viewed seen.length (some bytes), .sent seen.length bytes true] _
            (by simp) rfl rfl rfl
        | false =>
          -- back-pressure: the packet stays, what waits in the batch is handed over
          obtain ⟨done, hdone, hall⟩ := h.settled
          have hset : Settled 64 (handovers (s.log ++ [.viewed seen.length (some bytes)] ++
              [.sent seen.length bytes false])) done := by
            grind [handovers]
          refine wp_seq (finishLast_settles hset hroom.le) ?_
          rintro _ s' ⟨hset', calls, hlog⟩
          obtain ⟨hviews, hviewable, hsends⟩ := views_map (s.log ++
            [.viewed seen.length (some bytes)] ++ [.sent seen.length bytes false]) calls
          have htake : packets.take seen.length = seen := by rw [hsplit, List.take_left]
          have hlt : seen.length < packets.length := by rw [hsplit]; simp
          rw [wp_pure]
          refine ⟨hlt.le, ?_, ?_, ?_, fun _ => ⟨bytes, by rw [hlog]; simp⟩⟩
          · rwa [htake, ← hall]
          · grind [h.viewed, views]
          · rw [hlog, hsends, hviewable, acceptedSends_append, acceptedSends_append,
              viewable_append, viewable_append, h.sent, List.filter_append, List.filter_append]
            have hself : (viewable s.log).filter (fun x => x.1 < seen.length) = viewable s.log :=
              List.filter_eq_self.mpr fun x hx => by simpa using h.viewable_lt x hx
            rw [hself]
            simp [acceptedSends, viewable]

/-- Every packet of the array that the returned count covers is handed over exactly once, in
batches of at most 64 that are consecutive runs of the array; every packet among them that could
be viewed was sent exactly once; nothing at or beyond the count was handed over or sent. The
count falls short of the array only at a packet whose send was refused, or at once for a null
array or a disabled adapter. -/
theorem transmit_ownership {A P : Type} [DecidableEq P] (adapter : Adapter A P) (a : A)
    (count : ℕ) (packets : Option (Vector (Option P) count)) :
    let c := ((transmit adapter count packets).run { adapter := a }).1
    let log := ((transmit adapter count packets).run { adapter := a }).2.log
    (c = 0 ∧ log = [] ∧ (packets = none ∨ adapter.enabled a = false)) ∨
      ∃ array, packets = some array ∧ Outcome array.toList c log ∧
        ∀ x : ℕ × P, ((handovers log).map (handled x)).sum =
          if x.1 < c ∧ array.toList[x.1]? = some (some x.2) then 1 else 0 := by
  have hcount : ∀ (array : Vector (Option P) count) (c : ℕ) (log : List (FlowEvent P)),
      Outcome array.toList c log → ∀ x : ℕ × P, ((handovers log).map (handled x)).sum =
        if x.1 < c ∧ array.toList[x.1]? = some (some x.2) then 1 else 0 := by
    intro array c log h x
    rw [h.settled.handled_eq, count_present, List.getElem?_take]
    by_cases hx : x.1 < c
    · simp [hx]
    · simp [hx]
  cases packets with
  | none => exact .inl ⟨rfl, rfl, .inl rfl⟩
  | some array =>
    have hspec : wp (transmit adapter count (some array)) (fun c s' =>
        (c = 0 ∧ s'.log = [] ∧ adapter.enabled a = false) ∨ Outcome array.toList c s'.log)
        { adapter := a } := by
      unfold transmit
      dsimp only
      rw [wp_bind, wp_get, wp_ite]
      refine ⟨fun hskip => ?_, fun _ => ?_⟩
      · rw [wp_pure]
        by_cases h0 : count = 0
        · subst h0
          refine .inr ⟨Nat.zero_le _, .nil, ?_, rfl, fun hlt => ?_⟩
          · simp [views, present]
          · simp at hlt
        · exact .inl ⟨rfl, rfl, by simpa using hskip.resolve_left h0⟩
      · refine wp_mono (transmitFrom_spec array.toList array.toList [] [] _ rfl ?_
          (Nat.zero_lt_succ 63)) fun c s' h => .inr h
        exact ⟨⟨[], .nil, rfl⟩, rfl, rfl⟩
    rcases hspec with ⟨hc, hlog, hoff⟩ | h
    · exact .inl ⟨hc, hlog, .inr hoff⟩
    · exact .inr ⟨array, rfl, h, hcount array _ _ h⟩

end AirportAwdl.Datapath
