import AirportAwdl.Native.Peers

/-!
# The peer ledger

Runs of the peer owner against any hardware, with a log of what the hardware was asked and
answered. A transaction is followed from one settled state to the next: `Held` says what is
true of the entries at every point, `Mid` what a transaction in progress keeps, and `finish`
lets the deferred requests take effect.
-/

namespace AirportAwdl.Native

open StateProgram

/-- What native code may call while a cache completion is posted. -/
inductive PeerRequest where
  | disable | revoke | shutdown | abandon
deriving DecidableEq, Repr

/-- Requests that take every peer away. -/
def PeerRequest.clears : PeerRequest → Bool
  | .revoke => false
  | .disable | .shutdown | .abandon => true

inductive PeerEvent where
  | capacity (answer : UInt32)
  /-- `setAwdlPeer`, with the owner's fields at the call. -/
  | set (before : NativePeers) (address : Mac) (add : Bool) (result : PeerResult)
  | posted (address : Mac) (present handedOff : Bool)
  | requested (request : PeerRequest)

structure PeersWorld (P : Type) where
  peers : NativePeers := {}
  hardware : P
  log : List PeerEvent := []

/-- The hardware and the native interface. A completion that is handed off comes with the
calls native code makes meanwhile. -/
structure PeerPlatform (P : Type) where
  awdlPeerCapacity : P → UInt32 × P
  setAwdlPeer : Mac → Bool → P → PeerResult × P
  canPost : P → Bool × P
  post : Mac → Bool → P → Option (List PeerRequest) × P
  getHardwareAddress : P → Option Mac × P

namespace PeersWorld

variable {P : Type}

def record (e : PeerEvent) : StateM (PeersWorld P) Unit :=
  modify fun w => { w with log := w.log ++ [e] }

/-- Ask the hardware. -/
def ask {α : Type} (f : P → α × P) : StateM (PeersWorld P) α := fun w =>
  ((f w.hardware).1, { w with hardware := (f w.hardware).2 })

/-- The host as the clearing requests see it: none of them posts a completion. -/
def quiet (platform : PeerPlatform P) : PeerHost (PeersWorld P) where
  peers := peers
  setPeers p w := { w with peers := p }
  awdlPeerCapacity := do
    let answer ← ask platform.awdlPeerCapacity
    record (.capacity answer)
    pure answer
  setAwdlPeer address add := do
    let before := (← get).peers
    let result ← ask (platform.setAwdlPeer address add)
    record (.set before address add result)
    pure result
  canPostPeerCacheCompletion := ask platform.canPost
  postPeerCacheCompletion _ _ := pure false
  getHardwareAddress := ask platform.getHardwareAddress

/-- A request, from outside or from within a posted completion. -/
def request (platform : PeerPlatform P) (r : PeerRequest) : StateM (PeersWorld P) Unit := do
  record (.requested r)
  match r with
  | .disable => discard <| NativePeers.enable (quiet platform) false
  | .revoke => NativePeers.revoke (quiet platform)
  | .shutdown => NativePeers.shutdown (quiet platform)
  | .abandon => NativePeers.abandon (quiet platform)

def post (platform : PeerPlatform P) (address : Mac) (present : Bool) :
    StateM (PeersWorld P) Bool := do
  match ← ask (platform.post address present) with
  | none =>
    record (.posted address present false)
    pure false
  | some requests =>
    record (.posted address present true)
    requests.forM (request platform)
    pure true

def host (platform : PeerPlatform P) : PeerHost (PeersWorld P) :=
  { quiet platform with postPeerCacheCompletion := post platform }

end PeersWorld

/-- A call of the owner from outside. -/
inductive PeerCall where
  | bind (native : Bool) (address : Mac)
  | enable
  | cache (operation : UInt32) (address : Mac)
  | traffic (registration : TrafficRegistration)
  | request (r : PeerRequest)
  | acceptData (address : Mac) (stream : ℕ) (sequence : UInt16) (now : ℕ)

open PeersWorld in
def PeerCall.perform {P : Type} (platform : PeerPlatform P) : PeerCall → StateM (PeersWorld P) Unit
  | .bind native address => discard <| NativePeers.bind (host platform) native address
  | .enable => discard <| NativePeers.enable (host platform) true
  | .cache operation address => discard <| NativePeers.cache (host platform) operation address
  | .traffic registration => discard <| NativePeers.traffic (host platform) registration
  | .request r => PeersWorld.request platform r
  | .acceptData address stream sequence now =>
    (host platform).update fun p => (p.acceptData address stream sequence now).2

/-- The world after a call. -/
def PeerCall.after {P : Type} (platform : PeerPlatform P) (c : PeerCall) (w : PeersWorld P) :
    PeersWorld P :=
  ((c.perform platform).run w).2

/-- Reachable worlds: calls in any order, with anything happening to the hardware between. -/
inductive PeerRun {P : Type} (platform : PeerPlatform P) : PeersWorld P → Prop where
  | start (hardware : P) : PeerRun platform { hardware }
  | call {w : PeersWorld P} (c : PeerCall) :
      PeerRun platform w → PeerRun platform (c.after platform w)
  | environment {w : PeersWorld P} (hardware : P) :
      PeerRun platform w → PeerRun platform { w with hardware }

/-- The last `setAwdlPeer` for an address and its result. -/
def lastSet (address : Mac) (log : List PeerEvent) : Option (Bool × PeerResult) :=
  log.foldl (fun last e => match e with
    | .set _ a add result => if a = address then some (add, result) else last
    | _ => last) none

/-- Entries in use for addresses other than `address`. -/
def NativePeers.others (p : NativePeers) (address : Mac) : ℕ :=
  (List.finRange 16).countP fun i => p.entries[i].used && p.entries[i].address != address

/-- What may be issued after a log. `clear` runs with `closing` set, so a remove with
`closing` unset is one of `cache` or `traffic`. -/
def Issuable (log : List PeerEvent) : PeerEvent → Prop
  | .set before address true _ =>
    ∃ c, log.getLast? = some (.capacity c) ∧ before.others address < min 16 c.toNat
  | .set before address false _ =>
    before.closing = false → ∀ i : Fin 16, before.entries[i].used = true →
      before.entries[i].address = address →
      before.entries[i].cached = false ∧ before.entries[i].traffic = false
  | _ => True

/-- Every event of the log was issuable when it was recorded. -/
def Lawful (log : List PeerEvent) : Prop :=
  ∀ first e rest, log = first ++ e :: rest → Issuable first e

lemma lawful_snoc {log : List PeerEvent} {e : PeerEvent} (h : Lawful log) (he : Issuable log e) :
    Lawful (log ++ [e]) := by
  intro first e' rest heq
  rcases List.eq_nil_or_concat rest with rfl | ⟨rest, last, rfl⟩
  · simp_all
  · refine h first e' rest ?_
    grind [List.append_inj']

@[simp] lemma lastSet_snoc_set (address a : Mac) (log : List PeerEvent) (before : NativePeers)
    (add : Bool) (result : PeerResult) :
    lastSet address (log ++ [.set before a add result]) =
      if a = address then some (add, result) else lastSet address log := by
  simp [lastSet]

@[simp] lemma lastSet_snoc_capacity (address : Mac) (log : List PeerEvent) (c : UInt32) :
    lastSet address (log ++ [.capacity c]) = lastSet address log := by
  simp [lastSet]

@[simp] lemma lastSet_snoc_posted (address a : Mac) (log : List PeerEvent) (present ok : Bool) :
    lastSet address (log ++ [.posted a present ok]) = lastSet address log := by
  simp [lastSet]

@[simp] lemma lastSet_snoc_requested (address : Mac) (log : List PeerEvent) (r : PeerRequest) :
    lastSet address (log ++ [.requested r]) = lastSet address log := by
  simp [lastSet]

namespace NativePeers

variable {p : NativePeers} {address : Mac} {i j : Fin 16}

lemma getElem_setEntry (p : NativePeers) (i j : Fin 16) (entry : PeerEntry) :
    (p.setEntry i entry).entries[j] = if i = j then entry else p.entries[j] := by
  simp only [setEntry, Vector.getElem_put, eq_comm]

lemma find_some (h : p.find address = some i) :
    p.entries[i].used = true ∧ p.entries[i].address = address := by
  simpa using List.find?_some h

lemma find_none : p.find address = none ↔
    ∀ i : Fin 16, p.entries[i].used = true → p.entries[i].address ≠ address := by
  simp [find, List.find?_eq_none]

lemma empty_some (h : p.empty = some i) : p.entries[i].used = false := by
  simpa using List.find?_some h

/-- The cache reference of an address. -/
def cachedFlag (p : NativePeers) (address : Mac) : Bool :=
  (p.find address).any fun i => p.entries[i].cached

/-- A clearing request waits for the transaction to end. -/
def pending (p : NativePeers) : Bool := p.abandonPending || p.shutdownPending || p.disablePending

/-- The fields that tell how far a transaction is: (`busy`, `closing`, `active`) and
(`abandonPending`, `shutdownPending`, `disablePending`). -/
def progress (p : NativePeers) : (Bool × Bool × Bool) × (Bool × Bool × Bool) :=
  ((p.busy, p.closing, p.active), (p.abandonPending, p.shutdownPending, p.disablePending))

/-- No entry and no traffic peer. -/
def Cleared (p : NativePeers) : Prop :=
  (∀ i : Fin 16, p.entries[i] = {}) ∧ p.trafficPeer = zeroMac

/-- No transaction and no closing is in progress, and nothing waits for one. -/
structure Idle (p : NativePeers) : Prop where
  busy : p.busy = false
  closing : p.closing = false
  pending : p.pending = false

end NativePeers

/-- What holds of the entries and the log at every point of a run. -/
structure Held (p : NativePeers) (log : List PeerEvent) : Prop where
  distinct : ∀ i j : Fin 16, p.entries[i].used = true → p.entries[j].used = true →
    p.entries[i].address = p.entries[j].address → i = j
  unused : ∀ i : Fin 16, p.entries[i].used = false → p.entries[i] = {}
  valid : ∀ i : Fin 16, p.entries[i].used = true →
    NativePeers.valid p.entries[i].address = true ∧ p.entries[i].installed = true
  traffic : ∀ i : Fin 16, p.entries[i].traffic = true ↔
    p.entries[i].used = true ∧ p.entries[i].address = p.trafficPeer
  target : p.trafficPeer = zeroMac ∨
    ∃ i : Fin 16, p.entries[i].used = true ∧ p.entries[i].address = p.trafficPeer
  station : ∀ i : Fin 16, p.entries[i].used = true → p.entries[i].retiring = false →
    lastSet p.entries[i].address log = some (true, .success)
  lawful : Lawful log

namespace NativePeers

@[simp] lemma setEntry_setEntry (p : NativePeers) (i : Fin 16) (a b : PeerEntry) :
    (p.setEntry i a).setEntry i b = p.setEntry i b := by
  simp [setEntry]

@[simp] lemma getElem_setEntry_self (p : NativePeers) (i : Fin 16) (entry : PeerEntry) :
    (p.setEntry i entry).entries[i] = entry := by
  rw [getElem_setEntry, if_pos rfl]

lemma getElem_setEntry_ne (p : NativePeers) {i j : Fin 16} (h : i ≠ j) (entry : PeerEntry) :
    (p.setEntry i entry).entries[j] = p.entries[j] := by
  rw [getElem_setEntry, if_neg h]

@[simp] lemma setEntry_self (p : NativePeers) (i : Fin 16) : p.setEntry i p.entries[i] = p := by
  simp [setEntry]

lemma status_ne_success {result : PeerResult} (h : result ≠ .success) :
    result.status ≠ .success := by
  cases result <;> first | exact absurd rfl h | exact nofun

lemma valid_ne_zero {address : Mac} (h : valid address = true) : address ≠ zeroMac := by
  rintro rfl
  cases h

end NativePeers

namespace Held

variable {p p' : NativePeers} {log : List PeerEvent} {address : Mac} {i : Fin 16}

lemma transport (h : Held p log)
    (hsame : ∀ k : Fin 16, p'.entries[k].used = p.entries[k].used ∧
      p'.entries[k].address = p.entries[k].address ∧
      p'.entries[k].installed = p.entries[k].installed ∧
      (p'.entries[k].retiring = false → p.entries[k].retiring = false))
    (hunused : ∀ k : Fin 16, p.entries[k].used = false → p'.entries[k] = {})
    (htraffic : ∀ k : Fin 16, p'.entries[k].traffic = true ↔
      p.entries[k].used = true ∧ p.entries[k].address = p'.trafficPeer)
    (htarget : p'.trafficPeer = zeroMac ∨
      ∃ k : Fin 16, p.entries[k].used = true ∧ p.entries[k].address = p'.trafficPeer) :
    Held p' log := by
  have hu : ∀ k : Fin 16, p'.entries[k].used = p.entries[k].used := fun k => (hsame k).1
  have ha : ∀ k : Fin 16, p'.entries[k].address = p.entries[k].address := fun k => (hsame k).2.1
  have hi : ∀ k : Fin 16, p'.entries[k].installed = p.entries[k].installed :=
    fun k => (hsame k).2.2.1
  refine ⟨?_, ?_, ?_, ?_, ?_, ?_, h.lawful⟩
  · intro j k
    rw [hu, hu, ha, ha]
    exact h.distinct j k
  · intro k
    rw [hu]
    exact hunused k
  · intro k
    rw [hu, ha, hi]
    exact h.valid k
  · intro k
    rw [hu, ha]
    exact htraffic k
  · grind
  grind [h.station]

lemma congr (h : Held p log) (hentries : p'.entries = p.entries)
    (htarget : p'.trafficPeer = p.trafficPeer) : Held p' log := by
  refine h.transport ?_ ?_ ?_ ?_
  · intro k
    rw [hentries]
    exact ⟨rfl, rfl, rfl, id⟩
  · rw [hentries]
    exact h.unused
  · rw [hentries, htarget]
    exact h.traffic
  · rw [htarget]
    exact h.target

lemma find_eq (h : Held p log) (hused : p.entries[i].used = true) :
    p.find p.entries[i].address = some i := by
  cases hfind : p.find p.entries[i].address with
  | none => exact absurd rfl (NativePeers.find_none.mp hfind i hused)
  | some j =>
    obtain ⟨hj, haddress⟩ := NativePeers.find_some hfind
    rw [h.distinct j i hj hused haddress]

lemma snoc (h : Held p log) {e : PeerEvent} (he : Issuable log e)
    (hlast : ∀ a, lastSet a (log ++ [e]) = lastSet a log) : Held p (log ++ [e]) where
  distinct := h.distinct
  unused := h.unused
  valid := h.valid
  traffic := h.traffic
  target := h.target
  station i hused hretiring := (hlast _).trans (h.station i hused hretiring)
  lawful := lawful_snoc h.lawful he

lemma snoc_set (h : Held p log) {before : NativePeers} {add : Bool} {result : PeerResult}
    (he : Issuable log (.set before address add result))
    (hother : ∀ i : Fin 16, p.entries[i].used = true → p.entries[i].retiring = false →
      p.entries[i].address ≠ address) : Held p (log ++ [.set before address add result]) where
  distinct := h.distinct
  unused := h.unused
  valid := h.valid
  traffic := h.traffic
  target := h.target
  station i hused hretiring := by
    rw [lastSet_snoc_set, if_neg (Ne.symm (hother i hused hretiring))]
    exact h.station i hused hretiring
  lawful := lawful_snoc h.lawful he

lemma modify (h : Held p log) {e : PeerEntry} (hused : p.entries[i].used = true)
    (heused : e.used = true) (haddress : e.address = p.entries[i].address)
    (htraffic : e.traffic = p.entries[i].traffic) (hinstalled : e.installed = true)
    (hretiring : e.retiring = false → p.entries[i].retiring = false) :
    Held (p.setEntry i e) log := by
  refine h.transport (fun k => ?_) (fun k hk => ?_) (fun k => ?_) h.target
  · rw [NativePeers.getElem_setEntry]
    split
    · next hik =>
      subst hik
      exact ⟨heused.trans hused.symm, haddress, hinstalled.trans (h.valid i hused).2.symm,
        hretiring⟩
    · exact ⟨rfl, rfl, rfl, id⟩
  · grind [NativePeers.getElem_setEntry_ne, h.unused]
  · rw [NativePeers.getElem_setEntry]
    split
    · next hik =>
      subst hik
      rw [htraffic]
      exact h.traffic i
    · exact h.traffic k

lemma insert (h : Held p log) (retiring : Bool) (hunused : p.entries[i].used = false)
    (hvalid : NativePeers.valid address = true) (hnew : p.find address = none)
    (hstation : retiring = false → lastSet address log = some (true, .success)) :
    Held (p.setEntry i { address, used := true, installed := true, retiring }) log := by
  have hother : ∀ j : Fin 16, p.entries[j].used = true → p.entries[j].address ≠ address :=
    NativePeers.find_none.mp hnew
  have htarget : p.trafficPeer ≠ address := by
    grind [h.target, NativePeers.valid_ne_zero]
  refine ⟨?_, ?_, ?_, ?_, ?_, ?_, h.lawful⟩
  · intro j k
    grind [NativePeers.getElem_setEntry, h.distinct]
  · intro j
    rw [NativePeers.getElem_setEntry]
    grind [h.unused]
  · intro j
    rw [NativePeers.getElem_setEntry]
    split
    · exact fun _ => ⟨hvalid, rfl⟩
    · exact h.valid j
  · intro j
    rw [NativePeers.getElem_setEntry]
    split
    · exact ⟨fun hj => absurd hj (by simp), fun hj => absurd hj.2 htarget.symm⟩
    · exact h.traffic j
  · rcases h.target with hzero | ⟨j, hj, hja⟩
    · exact .inl hzero
    · have hij : i ≠ j := by
        grind
      refine .inr ⟨j, ?_⟩
      rw [NativePeers.getElem_setEntry_ne p hij]
      exact ⟨hj, hja⟩
  grind [NativePeers.getElem_setEntry, h.station]

lemma erase (h : Held p log) (htraffic : p.entries[i].traffic = false) :
    Held (p.setEntry i {}) log := by
  refine ⟨?_, ?_, ?_, ?_, ?_, ?_, h.lawful⟩
  · intro j k
    grind [NativePeers.getElem_setEntry, h.distinct]
  · grind [NativePeers.getElem_setEntry, h.unused]
  · intro j
    rw [NativePeers.getElem_setEntry]
    grind [h.valid]
  · intro j
    rw [NativePeers.getElem_setEntry]
    split
    · grind
    · exact h.traffic j
  · rcases h.target with hzero | ⟨j, hj, hja⟩
    · exact .inl hzero
    · have hij : i ≠ j := by
        grind [h.traffic]
      refine .inr ⟨j, ?_⟩
      rw [NativePeers.getElem_setEntry_ne p hij]
      exact ⟨hj, hja⟩
  · intro j
    rw [NativePeers.getElem_setEntry]
    split
    · exact fun hj => by cases hj
    · exact h.station j

lemma of_cleared (hp : p.Cleared) (hlog : Lawful log) : Held p log := by
  obtain ⟨hentries, htarget⟩ := hp
  have hunused : ∀ i : Fin 16, p.entries[i].used = true → False := by
    grind
  refine ⟨fun i _ hi => (hunused i hi).elim, fun i _ => hentries i,
    fun i hi => (hunused i hi).elim, fun i => ?_, .inl htarget,
    fun i hi => (hunused i hi).elim, hlog⟩
  grind

lemma traffic_eq (h : Held p log) (k : Fin 16) :
    p.entries[k].traffic = decide (p.find p.trafficPeer = some k) := by
  rw [Bool.eq_iff_iff, h.traffic k, decide_eq_true_iff]
  constructor
  · rintro ⟨hk, hka⟩
    rw [← hka]
    exact h.find_eq hk
  · exact NativePeers.find_some

end Held

namespace PeerEvent

/-- Events of the hardware. -/
def hardware : PeerEvent → Bool
  | .capacity _ | .set .. => true
  | .posted .. | .requested _ => false

end PeerEvent

section
variable {P : Type} {platform : PeerPlatform P} {w w' w'' : PeersWorld P} {address : Mac}
  {i : Fin 16} {p : NativePeers} {Q : Unit → PeersWorld P → Prop} {log₀ log : List PeerEvent}

open NativePeers PeersWorld

/-- The transaction is where it was, and only the hardware was asked. -/
structure Quiet (w w' : PeersWorld P) : Prop where
  log : ∃ more, w'.log = w.log ++ more ∧ ∀ e ∈ more, e.hardware = true
  progress : w'.peers.progress = w.peers.progress

lemma Quiet.refl (w : PeersWorld P) : Quiet w w := ⟨⟨[], by simp, by simp⟩, rfl⟩

lemma Quiet.trans (h : Quiet w w') (h' : Quiet w' w'') : Quiet w w'' := by
  obtain ⟨more, hlog, hmore⟩ := h.log
  obtain ⟨more', hlog', hmore'⟩ := h'.log
  refine ⟨⟨more ++ more', by rw [hlog', hlog, List.append_assoc], ?_⟩,
    h'.progress.trans h.progress⟩
  grind

lemma Quiet.snoc {e : PeerEvent} (hlog : w'.log = w.log ++ [e]) (he : e.hardware = true)
    (hprogress : w'.peers.progress = w.peers.progress) : Quiet w w' :=
  ⟨⟨[e], hlog, by simpa using he⟩, hprogress⟩

lemma Quiet.of_log_eq (hlog : w'.log = w.log)
    (hprogress : w'.peers.progress = w.peers.progress) : Quiet w w' :=
  ⟨⟨[], by simp [hlog], by simp⟩, hprogress⟩

lemma others_setEntry {e : PeerEntry} (hunused : p.entries[i].used = false)
    (hnew : p.find address = none) (he : e.address = address) :
    (p.setEntry i e).others address = p.usedCount := by
  refine List.countP_congr fun k _ => ?_
  rw [getElem_setEntry]
  split
  · grind
  · have hother := find_none.mp hnew k
    simpa using hother

/-! The host, one operation at a time. -/

lemma wp_read {Q : NativePeers → PeersWorld P → Prop} :
    wp (host platform).read Q w ↔ Q w.peers w := Iff.rfl

lemma wp_update {f : NativePeers → NativePeers} :
    wp ((host platform).update f) Q w ↔ Q () { w with peers := f w.peers } := Iff.rfl

lemma wp_read_quiet {Q : NativePeers → PeersWorld P → Prop} :
    wp (quiet platform).read Q w ↔ Q w.peers w := Iff.rfl

lemma wp_update_quiet {f : NativePeers → NativePeers} :
    wp ((quiet platform).update f) Q w ↔ Q () { w with peers := f w.peers } := Iff.rfl

lemma wp_record {e : PeerEvent} : wp (record e) Q w ↔ Q () { w with log := w.log ++ [e] } := Iff.rfl

lemma wp_ask {α : Type} {f : P → α × P} {Q : α → PeersWorld P → Prop} :
    wp (ask f) Q w ↔ Q (f w.hardware).1 { w with hardware := (f w.hardware).2 } := Iff.rfl

lemma setAwdlPeer_spec (add : Bool) :
    wp ((host platform).setAwdlPeer address add) (fun r w' => w'.peers = w.peers ∧
      w'.log = w.log ++ [.set w.peers address add r]) w := ⟨rfl, rfl⟩

lemma capacity_spec (h : Held w.peers w.log) :
    wp (capacity (host platform)) (fun n w' => w'.peers = w.peers ∧ Held w'.peers w'.log ∧
      Quiet w w' ∧ (n = 0 ∨ ∃ c : UInt32, n = min c.toNat 16 ∧
        w'.log.getLast? = some (.capacity c))) w := by
  unfold capacity
  rw [wp_bind, wp_read, wp_ite]
  constructor
  · intro _
    exact ⟨rfl, h.snoc trivial (by simp), Quiet.snoc rfl rfl rfl,
      .inr ⟨_, rfl, List.getLast?_concat⟩⟩
  · intro _
    exact ⟨rfl, h, Quiet.refl w, .inl rfl⟩

/-- What `install` leaves: an entry that was there and is untouched, or a new one without a
reference. -/
structure Installed (w w' : PeersWorld P) (address : Mac) (i : Fin 16) : Prop where
  holds : w'.peers.entries[i].used = true ∧ w'.peers.entries[i].address = address
  origin : w.peers.find address = some i ∧ w'.peers = w.peers ∨
    w.peers.find address = none ∧ w'.peers.entries[i].cached = false ∧
      w'.peers.entries[i].traffic = false

lemma install_spec (h : Held w.peers w.log) (hvalid : valid address = true) :
    wp (install (host platform) address) (fun r w' => Held w'.peers w'.log ∧ Quiet w w' ∧
      (r.1 = .success → ∃ i, r.2 = some i) ∧
      ∀ i, r = (.success, some i) → Installed w w' address i) w := by
  unfold install
  rw [wp_bind, wp_read]
  cases hfind : w.peers.find address with
  | some j =>
    obtain ⟨hused, haddress⟩ := find_some hfind
    refine ⟨h, Quiet.refl w, fun _ => ⟨j, rfl⟩, fun i hi => ?_⟩
    obtain rfl : j = i := Option.some.inj (congrArg Prod.snd hi)
    exact ⟨⟨hused, haddress⟩, .inl ⟨hfind, rfl⟩⟩
  | none =>
    cases hempty : w.peers.empty with
    | none => exact ⟨h, Quiet.refl w, nofun, nofun⟩
    | some j =>
      have hunused := empty_some hempty
      have hentry : w.peers.entries[j] = {} := h.unused j hunused
      refine wp_seq (capacity_spec h) ?_
      rintro n v ⟨hpeers, hv, hquiet, hn⟩
      rw [wp_ite]
      refine ⟨fun _ => ⟨hv, hquiet, nofun, nofun⟩, fun hroom => ?_⟩
      rcases hn with hzero | ⟨c, hn, hlast⟩
      · exact absurd (Nat.zero_le _) (hzero ▸ hroom)
      rw [hpeers] at hv
      rw [wp_bind, wp_update, hpeers, hentry]
      refine wp_seq (setAwdlPeer_spec true) ?_
      rintro result u ⟨hu, hlog⟩
      -- the call is lawful: the others are as many as before
      have hissue : Issuable v.log (.set u.peers address true result) := by
        refine ⟨c, hlast, ?_⟩
        rw [hu, others_setEntry hunused hfind rfl]
        omega
      rw [← hu] at hlog
      have hset : Held w.peers u.log := by
        rw [hlog]
        exact hv.snoc_set hissue fun k hk _ => find_none.mp hfind k hk
      have hquiet' : ∀ p : NativePeers, p.progress = w.peers.progress →
          Quiet w { u with peers := p } := by
        intro p hp
        refine hquiet.trans (Quiet.snoc hlog rfl ?_)
        rw [hp, hpeers]
      rw [wp_bind, wp_update, wp_ite]
      constructor
      · rintro rfl
        rw [wp_bind, wp_update, wp_pure]
        rw [hu]
        refine ⟨?_, hquiet' _ rfl, fun _ => ⟨j, rfl⟩, fun i hi => ?_⟩
        · have hstation : lastSet address u.log = some (true, .success) := by
            rw [hlog, lastSet_snoc_set, if_pos rfl]
          refine (hset.insert false hunused hvalid hfind fun _ => hstation).congr ?_ rfl
          simp [setEntry]
        · obtain rfl : j = i := Option.some.inj (congrArg Prod.snd hi)
          refine ⟨?_, .inr ⟨hfind, ?_⟩⟩ <;> simp [setEntry]
      · intro hfail
        rw [wp_ite]
        constructor
        · intro _
          rw [wp_bind, wp_update, wp_pure]
          rw [hu]
          refine ⟨?_, hquiet' _ rfl, ?_, ?_⟩
          · refine (hset.insert true hunused hvalid hfind nofun).congr ?_ rfl
            simp [setEntry]
          · exact fun hok => absurd hok (status_ne_success hfail)
          · exact fun i hi => by cases congrArg Prod.snd hi
        · intro _
          rw [wp_bind, wp_update, wp_pure]
          rw [hu]
          refine ⟨?_, hquiet' _ rfl, ?_, ?_⟩
          · refine hset.congr ?_ rfl
            rw [← hentry]
            simp [setEntry]
          · exact fun hok => absurd hok (status_ne_success hfail)
          · exact fun i hi => by cases congrArg Prod.snd hi

/-- What `remove` leaves: the remove was issued last; unless it failed the entry is gone. -/
structure Removed (w' : PeersWorld P) (address : Mac) (r : IOReturn) : Prop where
  issued : ∃ before result, w'.log.getLast? = some (.set before address false result) ∧
    r = result.status
  gone : r = .success → w'.peers.find address = none
  cached : w'.peers.cachedFlag address = false

lemma remove_spec (h : Held w.peers w.log) (hused : w.peers.entries[i].used = true)
    (hcached : w.peers.entries[i].cached = false) (htraffic : w.peers.entries[i].traffic = false) :
    wp (remove (host platform) i) (fun r w' => Held w'.peers w'.log ∧ Quiet w w' ∧
      Removed w' w.peers.entries[i].address r) w := by
  unfold remove
  -- from here on the station is on its way out
  have hretire : Held (w.peers.setEntry i { w.peers.entries[i] with retiring := true }) w.log :=
    h.modify hused hused rfl rfl (h.valid i hused).2 nofun
  rw [wp_bind, wp_update, wp_bind, wp_read]
  rw [getElem_setEntry_self]
  refine wp_seq (setAwdlPeer_spec false) ?_
  rintro result u ⟨hu, hlog⟩
  have hfind := hretire.find_eq (i := i) (by rw [getElem_setEntry_self]; exact hused)
  rw [getElem_setEntry_self] at hfind
  have hheld : Held u.peers u.log := by
    rw [hlog, hu]
    refine hretire.snoc_set ?_ ?_
    · intro _ k hk hka
      obtain rfl : i = k := by
        refine hretire.distinct i k ?_ hk ?_
        · rw [getElem_setEntry_self]; exact hused
        · rw [getElem_setEntry_self, hka]
      rw [getElem_setEntry_self]
      exact ⟨hcached, htraffic⟩
    · intro k hk hkr hka
      obtain rfl : i = k := by
        refine hretire.distinct i k ?_ hk ?_
        · rw [getElem_setEntry_self]; exact hused
        · rw [getElem_setEntry_self, hka]
      rw [getElem_setEntry_self] at hkr
      cases hkr
  have hissued : ∃ before r, u.log.getLast? =
      some (.set before w.peers.entries[i].address false r) ∧ result.status = r.status :=
    ⟨_, result, by rw [hlog, List.getLast?_concat], rfl⟩
  have hquiet : ∀ p : NativePeers, p.progress = w.peers.progress →
      Quiet w { u with peers := p } := fun p hp => Quiet.snoc hlog rfl hp
  rw [wp_bind, wp_update, wp_ite]
  constructor
  · intro hfail
    refine ⟨hheld.congr rfl rfl, hquiet _ (by rw [hu]; rfl), hissued, ?_, ?_⟩
    · exact fun hok => absurd hok (status_ne_success hfail)
    · show NativePeers.cachedFlag { u.peers with lastError := result.status, fault := true } _ = _
      rw [hu]
      show (Option.any _ (NativePeers.find (w.peers.setEntry i _) _)) = false
      rw [hfind, Option.any_some, getElem_setEntry_self]
      exact hcached
  · intro hok
    obtain rfl : result = .success := not_not.mp hok
    have hgone : NativePeers.find { u.peers.setEntry i {} with lastError := .success }
        w.peers.entries[i].address = none := by
      refine find_none.mpr fun k hk hka => ?_
      by_cases hik : i = k
      · grind [getElem_setEntry_self]
      · rw [getElem_setEntry_ne _ hik] at hk hka
        refine hik (hheld.distinct i k ?_ hk ?_)
        · rw [hu, getElem_setEntry_self]
          exact hused
        · rw [hka, hu, getElem_setEntry_self]
    refine ⟨?_, hquiet _ (by rw [hu]; rfl), hissued, fun _ => hgone, ?_⟩
    · refine (hheld.erase (i := i) ?_).congr rfl rfl
      rw [hu, getElem_setEntry_self]
      exact htraffic
    · show Option.any _ (NativePeers.find { u.peers.setEntry i {} with lastError := .success } _) = _
      rw [hgone]
      rfl

lemma wp_enable_false {Q : IOReturn → PeersWorld P → Prop} :
    wp (enable (quiet platform) false) Q w ↔
      if w.peers.busy then
        Q .success { w with peers := { w.peers with active := false, disablePending := true } }
      else wp (clear (quiet platform) false) (fun _ w' => Q w'.peers.lastError w')
        { w with peers := { w.peers with active := false } } := by
  show wp (if w.peers.busy then _ else _) Q _ ↔ _
  by_cases hbusy : w.peers.busy = true
  · rw [if_pos hbusy, if_pos hbusy]
    exact Iff.rfl
  · rw [if_neg hbusy, if_neg hbusy]
    exact Iff.rfl

lemma wp_shutdown : wp (shutdown (quiet platform)) Q w ↔ if w.peers.busy || w.peers.closing then
        Q () { w with peers := { w.peers with active := false, shutdownPending := true } }
      else wp (clear (quiet platform) true) Q
        { w with peers := { w.peers with active := false } } := by
  show wp (if w.peers.busy || w.peers.closing then _ else _) Q _ ↔ _
  by_cases hbusy : (w.peers.busy || w.peers.closing) = true
  · rw [if_pos hbusy, if_pos hbusy]
    exact Iff.rfl
  · rw [if_neg hbusy, if_neg hbusy]
    exact Iff.rfl

lemma wp_abandon : wp (abandon (quiet platform)) Q w ↔ if w.peers.busy || w.peers.closing then
        Q () { w with peers := { w.peers with active := false, abandonPending := true } }
      else Q () { w with peers := { w.peers with
        active := false
        entries := Vector.replicate 16 {}
        trafficPeer := zeroMac
        interface := false
        bound := false
        abandonPending := false
        shutdownPending := false
        disablePending := false } } := by
  show wp (if w.peers.busy || w.peers.closing then _ else _) Q _ ↔ _
  by_cases hbusy : (w.peers.busy || w.peers.closing) = true
  · rw [if_pos hbusy, if_pos hbusy]
    exact Iff.rfl
  · rw [if_neg hbusy, if_neg hbusy]
    exact Iff.rfl

/-- A transaction begun with the log `log₀`: a clearing request waits exactly if one was made
since. -/
structure Mid (log₀ : List PeerEvent) (w : PeersWorld P) : Prop where
  held : Held w.peers w.log
  busy : w.peers.busy = true
  closing : w.peers.closing = false
  pending : ∃ more, w.log = log₀ ++ more ∧
    (w.peers.pending = true ↔ ∃ r : PeerRequest, r.clears = true ∧ .requested r ∈ more)

lemma Quiet.pending (h : Quiet w w') : w'.peers.pending = w.peers.pending := by
  have hprogress := congrArg Prod.snd h.progress
  grind [NativePeers.progress, NativePeers.pending]

lemma Mid.quiet (h : Mid log₀ w) (hquiet : Quiet w w')
    (hheld : Held w'.peers w'.log) : Mid log₀ w' := by
  obtain ⟨more, hlog, hpending⟩ := h.pending
  obtain ⟨more', hlog', hmore'⟩ := hquiet.log
  have hflags := congrArg Prod.fst hquiet.progress
  simp only [NativePeers.progress, Prod.mk.injEq] at hflags
  refine ⟨hheld, hflags.1.trans h.busy, hflags.2.1.trans h.closing, more ++ more', ?_, ?_⟩
  · rw [hlog', hlog, List.append_assoc]
  · rw [hquiet.pending, hpending]
    -- the hardware's events are no requests
    have hnone : ∀ r, PeerEvent.requested r ∉ more' := fun r hr =>
      by cases hmore' _ hr
    simp [hnone]

lemma Mid.mark (h : Mid log₀ w) {r : PeerRequest}
    (hentries : p.entries = w.peers.entries) (htarget : p.trafficPeer = w.peers.trafficPeer)
    (hbusy : p.busy = w.peers.busy) (hclosing : p.closing = w.peers.closing)
    (hpending : p.pending = (w.peers.pending || r.clears)) :
    Mid log₀ { w with peers := p, log := w.log ++ [.requested r] } := by
  obtain ⟨more, hlog, hmore⟩ := h.pending
  have hheld : Held w.peers (w.log ++ [.requested r]) := h.held.snoc trivial (by simp)
  refine ⟨hheld.congr hentries htarget, hbusy.trans h.busy,
    hclosing.trans h.closing, more ++ [.requested r], by simp [hlog], ?_⟩
  grind

lemma request_spec (h : Mid log₀ w) (r : PeerRequest) : wp (request platform r)
      (fun _ w' => Mid log₀ w' ∧ w'.log = w.log ++ [.requested r]) w := by
  have hbusy := h.busy
  unfold request
  rw [wp_bind, wp_record]
  cases r with
  | revoke =>
    refine ⟨h.mark (p := { w.peers with active := false }) rfl rfl rfl rfl ?_, rfl⟩
    simp [NativePeers.pending, PeerRequest.clears]
  | disable =>
    show wp ((fun _ => ()) <$> enable (quiet platform) false) _ _
    rw [wp_map, wp_enable_false, if_pos hbusy]
    refine ⟨h.mark rfl rfl rfl rfl ?_, rfl⟩
    simp [NativePeers.pending, PeerRequest.clears]
  | shutdown =>
    show wp (shutdown (quiet platform)) _ _
    rw [wp_shutdown, if_pos (by rw [hbusy]; rfl)]
    refine ⟨h.mark rfl rfl rfl rfl ?_, rfl⟩
    simp [NativePeers.pending, PeerRequest.clears]
  | abandon =>
    show wp (abandon (quiet platform)) _ _
    rw [wp_abandon, if_pos (by rw [hbusy]; rfl)]
    refine ⟨h.mark rfl rfl rfl rfl ?_, rfl⟩
    simp [NativePeers.pending, PeerRequest.clears]

/-- No completion failed to be handed off. -/
def NoFailedPost (events : List PeerEvent) : Prop :=
  ∀ a present, PeerEvent.posted a present false ∉ events

lemma post_spec (h : Mid log₀ w) (present : Bool) :
    wp (post platform address present) (fun ok w' => Mid log₀ w' ∧
      (ok = false → w'.peers = w.peers) ∧
      (ok = true → ∃ more, w'.log = w.log ++ more ∧ NoFailedPost more)) w := by
  -- a posted completion is no request and no call about a station
  have hposted : ∀ (ok : Bool) (hardware : P),
      Mid log₀ { w with hardware, log := w.log ++ [.posted address present ok] } := by
    intro ok hardware
    obtain ⟨more, hlog, hpending⟩ := h.pending
    refine ⟨h.held.snoc trivial (by simp), h.busy, h.closing,
      more ++ [.posted address present ok], by simp [hlog], ?_⟩
    simpa using hpending
  unfold post
  rw [wp_bind, wp_ask]
  cases (platform.post address present w.hardware).1 with
  | none =>
    exact ⟨hposted false _, fun _ => rfl, nofun⟩
  | some requests =>
    rw [wp_bind, wp_record, wp_bind]
    refine wp_mono (wp_forM (I := fun w' => Mid log₀ w' ∧
      ∃ more, w'.log = w.log ++ more ∧ NoFailedPost more) ?_ requests ?_) ?_
    · rintro r v ⟨hv, more, hlog, hmore⟩
      refine wp_mono (request_spec hv r) ?_
      rintro _ v' ⟨hv', hlog'⟩
      refine ⟨hv', more ++ [.requested r], by rw [hlog', hlog, List.append_assoc], ?_⟩
      intro a present' hmem
      rcases List.mem_append.mp hmem with hmem | hmem
      · exact hmore a present' hmem
      · simp at hmem
    · exact ⟨hposted true _, [.posted address present true], rfl, by simp [NoFailedPost]⟩
    · rintro _ v ⟨hv, hmore⟩
      exact ⟨hv, nofun, fun _ => hmore⟩

/-- A failed hand-off is undone: the cache reference is as before, and a station that was new
was told to go. -/
structure Undone (p : NativePeers) (address : Mac) (w' : PeersWorld P) : Prop where
  cached : w'.peers.cachedFlag address = p.cachedFlag address
  station : p.find address = none → ∃ before result,
    w'.log.getLast? = some (.set before address false result) ∧
      (result = .success → w'.peers.find address = none)
  pending : w'.peers.pending = false

/-- The events since `w` hold no failed hand-off. -/
def Handed (w w' : PeersWorld P) : Prop := ∃ more, w'.log = w.log ++ more ∧ NoFailedPost more

lemma Handed.trans (h : Handed w w') (h' : Handed w' w'') : Handed w w'' := by
  obtain ⟨more, hlog, hmore⟩ := h
  obtain ⟨more', hlog', hmore'⟩ := h'
  refine ⟨more ++ more', by rw [hlog', hlog, List.append_assoc], fun a present hmem => ?_⟩
  rcases List.mem_append.mp hmem with hmem | hmem
  · exact hmore a present hmem
  · exact hmore' a present hmem

lemma Handed.of_hardware (h : ∃ more, w'.log = w.log ++ more ∧ ∀ e ∈ more, e.hardware = true) :
    Handed w w' := by
  obtain ⟨more, hlog, hmore⟩ := h
  exact ⟨more, hlog, fun a present hmem => absurd (hmore _ hmem) Bool.false_ne_true⟩

lemma Quiet.handed (h : Quiet w w') : Handed w w' := Handed.of_hardware h.log

lemma Mid.setCached (h : Mid log₀ w) (hused : w.peers.entries[i].used = true) (cached : Bool) :
    Mid log₀ { w with peers := w.peers.setEntry i { w.peers.entries[i] with cached } } :=
  h.quiet (Quiet.of_log_eq rfl rfl)
    (h.held.modify hused hused rfl rfl (h.held.valid i hused).2 id)

lemma complete_add_spec {v : PeersWorld P} (h : Mid log₀ v)
    (hw : Held w.peers w.log) (hquiet : Quiet w v) (hidle : w.peers.pending = false)
    (hinstalled : Installed w v address i) {previous : PeerEntry}
    (hprevious : previous = match w.peers.find address with
      | some i => w.peers.entries[i]
      | none => {}) :
    wp (complete (host platform) address (some (i, previous))) (fun _ w' => Mid log₀ w' ∧
      (Undone w.peers address w' ∨ Handed w w'))
      { v with peers := v.peers.setEntry i { v.peers.entries[i] with cached := true } } := by
  obtain ⟨hused, haddress⟩ := hinstalled.holds
  have hcached := h.setCached hused true
  have hquiet' : Quiet w
      { v with peers := v.peers.setEntry i { v.peers.entries[i] with cached := true } } :=
    hquiet.trans (Quiet.of_log_eq rfl rfl)
  unfold complete
  rw [wp_bind, wp_read, wp_ite]
  refine ⟨fun _ => ⟨hcached, .inr hquiet'.handed⟩, fun _ => ?_⟩
  refine wp_seq (post_spec hcached true) ?_
  rintro ok u ⟨hu, hfailed, hok⟩
  rw [wp_ite]
  refine ⟨fun h => ⟨hu, .inr (hquiet'.handed.trans (hok h))⟩, fun hnot => ?_⟩
  have hpeers := hfailed (Bool.eq_false_of_not_eq_true hnot)
  have hback := hu.setCached (i := i) (by rw [hpeers, getElem_setEntry_self]; exact hused)
    previous.cached
  have hpending : (v.peers.setEntry i
      { v.peers.entries[i] with cached := previous.cached }).pending = false :=
    hquiet.pending.trans hidle
  rw [wp_bind, wp_update, wp_bind, wp_read]
  rw [hpeers] at hback ⊢
  simp only [setEntry_setEntry, getElem_setEntry_self] at hback ⊢
  rcases hinstalled.origin with ⟨hfind, hsame⟩ | ⟨hfind, -, htraffic⟩
  · -- the entry was there: it gets its old reference back and stays
    rw [hfind] at hprevious
    subst hprevious
    rw [hsame] at hused
    have hstays : w.peers.entries[i].installed = true := (hw.valid i hused).2
    rw [hstays]
    refine ⟨hback, .inl ⟨?_, fun hnone => absurd (hfind.symm.trans hnone) nofun, hpending⟩⟩
    rw [hsame]
    exact congrArg (NativePeers.cachedFlag · address) (setEntry_self w.peers i)
  · -- a new station without a reference goes again
    rw [hfind] at hprevious
    subst hprevious
    rw [if_pos (show (!({} : PeerEntry).installed && !v.peers.entries[i].traffic) = true by
      rw [htraffic]; rfl)]
    refine wp_seq (P := fun _ w' => Mid log₀ w' ∧ Undone w.peers address w') ?_
      fun _ _ h => ⟨h.1, .inl h.2⟩
    show wp ((fun _ => ()) <$> remove (host platform) i) _ _
    rw [wp_map]
    refine wp_mono (remove_spec hback.held ?_ ?_ ?_) ?_
    · rw [getElem_setEntry_self]; exact hused
    · rw [getElem_setEntry_self]
    · rw [getElem_setEntry_self]; exact htraffic
    · rintro r w' ⟨hheld, hquiet'', hremoved⟩
      rw [getElem_setEntry_self, haddress] at hremoved
      refine ⟨hback.quiet hquiet'' hheld, ?_, fun _ => ?_, hquiet''.pending.trans hpending⟩
      · rw [hremoved.cached, cachedFlag, hfind]
        rfl
      · obtain ⟨before, result, hlast, hr⟩ := hremoved.issued
        exact ⟨before, result, hlast, fun hsuccess => hremoved.gone (by rw [hr, hsuccess]; rfl)⟩

lemma cacheAdd_spec (h : Mid log₀ w) (hvalid : valid address = true)
    (hidle : w.peers.pending = false) :
    wp (cacheAdd (host platform) address) (fun _ w' => Mid log₀ w' ∧
      (Undone w.peers address w' ∨ Handed w w')) w := by
  unfold cacheAdd
  rw [wp_bind, wp_read]
  refine wp_seq (install_spec h.held hvalid) ?_
  rintro ⟨r, index⟩ v ⟨hv, hquiet, -, hinstalled⟩
  have hmid := h.quiet hquiet hv
  split
  · next j heq =>
    obtain ⟨rfl, rfl⟩ := Prod.mk.inj heq
    rw [wp_bind, wp_read, wp_ite]
    refine ⟨fun _ => ⟨hmid, .inr hquiet.handed⟩, fun _ => ?_⟩
    rw [wp_bind, wp_update]
    exact complete_add_spec hmid h.held hquiet hidle (hinstalled j rfl) rfl
  · exact ⟨hmid, .inr hquiet.handed⟩

lemma complete_none_spec (h : Mid log₀ w) :
    wp (complete (host platform) address none) (fun _ w' => Mid log₀ w') w := by
  unfold complete
  rw [wp_bind, wp_read, wp_ite]
  refine ⟨fun _ => h, fun _ => ?_⟩
  refine wp_seq (post_spec h false) ?_
  rintro ok u ⟨hu, -, -⟩
  rw [wp_ite]
  exact ⟨fun _ => hu, fun _ => hu⟩

lemma cacheRemove_spec (h : Mid log₀ w) :
    wp (cacheRemove (host platform) address) (fun _ w' => Mid log₀ w') w := by
  unfold cacheRemove
  rw [wp_bind, wp_read]
  cases hfind : w.peers.find address with
  | none => exact complete_none_spec h
  | some i =>
    obtain ⟨hused, -⟩ := find_some hfind
    have hmid := h.setCached hused false
    rw [wp_bind, wp_update, wp_ite]
    refine ⟨fun _ => complete_none_spec hmid, fun htraffic => ?_⟩
    refine wp_seq (remove_spec hmid.held ?_ ?_ ?_) ?_
    · rw [getElem_setEntry_self]; exact hused
    · rw [getElem_setEntry_self]
    · rw [getElem_setEntry_self]; exact Bool.eq_false_of_not_eq_true htraffic
    · rintro r v ⟨hheld, hquiet, -⟩
      have hv := hmid.quiet hquiet hheld
      rw [wp_ite]
      exact ⟨fun _ => hv, fun _ => complete_none_spec hv⟩

/-- `next` holds the new traffic peer, if there is one. -/
def Next (p : NativePeers) (address : Mac) : Option (Fin 16) → Prop
  | none => address = zeroMac
  | some i => p.entries[i].used = true ∧ p.entries[i].address = address

/-- The new peer has the traffic reference while the old one still has its own. -/
def withTraffic (p : NativePeers) : Option (Fin 16) → NativePeers
  | none => p
  | some i => p.setEntry i { p.entries[i] with traffic := true }

/-- The old peer loses the traffic reference. -/
def retarget (p : NativePeers) (next : Option (Fin 16)) (address : Mac) : NativePeers :=
  match p.find p.trafficPeer with
  | none => { p with trafficPeer := address }
  | some j =>
    if next = some j then { p with trafficPeer := address }
    else { p.setEntry j { p.entries[j] with traffic := false } with trafficPeer := address }

lemma getElem_withTraffic (p : NativePeers) (next : Option (Fin 16)) (k : Fin 16) :
    (withTraffic p next).entries[k] =
      { p.entries[k] with traffic := p.entries[k].traffic || decide (next = some k) } := by
  cases next with
  | none => simp [withTraffic]
  | some i =>
    rw [withTraffic, getElem_setEntry]
    split
    · next hik =>
      subst hik
      simp
    · next hik => simp [hik]

lemma find_withTraffic (p : NativePeers) (next : Option (Fin 16)) (a : Mac) :
    (withTraffic p next).find a = p.find a := by
  simp only [NativePeers.find, getElem_withTraffic]

lemma held_retarget {next : Option (Fin 16)} (h : Held p log) (hnext : Next p address next) :
    Held (retarget (withTraffic p next) next address) log := by
  have htarget : (withTraffic p next).trafficPeer = p.trafficPeer := by cases next <;> rfl
  -- who has the reference in the end
  have hentry : ∀ k : Fin 16, (retarget (withTraffic p next) next address).entries[k] =
      { p.entries[k] with traffic := decide (next = some k) } := by
    intro k
    have htraffic := h.traffic_eq k
    unfold retarget
    rw [find_withTraffic, htarget]
    cases hfind : p.find p.trafficPeer with
    | none =>
      grind [getElem_withTraffic]
    | some j =>
      grind [getElem_withTraffic, getElem_setEntry]
  have hpeer : (retarget (withTraffic p next) next address).trafficPeer = address := by
    unfold retarget
    split
    · rfl
    · split <;> rfl
  have hunused : ∀ k : Fin 16, p.entries[k].used = false → next ≠ some k := by
    rintro k hk rfl
    rw [hnext.1] at hk
    cases hk
  refine h.transport (fun k => ?_) (fun k hk => ?_) (fun k => ?_) ?_
  · rw [hentry]
    exact ⟨rfl, rfl, rfl, id⟩
  · rw [hentry, h.unused k hk]
    simp [hunused k hk]
  · rw [hentry, hpeer, decide_eq_true_iff]
    cases next with
    | none =>
      refine ⟨nofun, fun ⟨hk, hka⟩ => ?_⟩
      exact absurd (hka.trans hnext) (valid_ne_zero (h.valid k hk).1)
    | some i =>
      refine ⟨fun hik => Option.some.inj hik ▸ hnext, fun ⟨hk, hka⟩ => ?_⟩
      rw [h.distinct i k hnext.1 hk (hnext.2.trans hka.symm)]
  · rw [hpeer]
    cases next with
    | none => exact .inl hnext
    | some i => exact .inr ⟨i, hnext⟩

lemma dropTraffic_spec {next : Option (Fin 16)}
    (h : Mid log₀ { w with peers := p }) (hw : w.peers = withTraffic p next)
    (hnext : Next p address next) :
    wp (dropTraffic (host platform) next address) (fun _ w' => Mid log₀ w') w := by
  have hheld : Held (retarget w.peers next address) w.log := hw ▸ held_retarget h.held hnext
  have hprogress : (retarget w.peers next address).progress = p.progress := by
    rw [hw]
    unfold retarget
    split
    · cases next <;> rfl
    · split <;> cases next <;> rfl
  have hmid : Mid log₀ { w with peers := retarget w.peers next address } :=
    h.quiet (Quiet.of_log_eq rfl hprogress) hheld
  unfold dropTraffic
  rw [wp_bind, wp_read, wp_bind, wp_update]
  unfold retarget at hmid
  cases hfind : w.peers.find w.peers.trafficPeer with
  | none =>
    rw [hfind] at hmid
    exact hmid
  | some j =>
    rw [hfind] at hmid
    dsimp only at hmid ⊢
    rw [wp_ite]
    constructor
    · intro hj
      rw [if_pos hj] at hmid
      exact hmid
    · intro hj
      rw [if_neg hj] at hmid
      rw [wp_bind, wp_update, wp_ite]
      refine ⟨fun _ => hmid, fun hcached => ?_⟩
      -- the old peer has no reference left
      have hused : w.peers.entries[j].used = true := (find_some hfind).1
      refine wp_seq (remove_spec hmid.held ?_ ?_ ?_) ?_
      · show (w.peers.setEntry j _).entries[j].used = true
        rw [getElem_setEntry_self]
        exact hused
      · show (w.peers.setEntry j _).entries[j].cached = false
        rw [getElem_setEntry_self]
        exact Bool.eq_false_of_not_eq_true hcached
      · show (w.peers.setEntry j _).entries[j].traffic = false
        rw [getElem_setEntry_self]
      · rintro r v ⟨hv, hquiet, -⟩
        have hv' := hmid.quiet hquiet hv
        by_cases hr : r ≠ .success
        · rw [if_pos hr]
          exact hv'
        · rw [if_neg hr]
          exact hv'

lemma trafficAdd_spec (h : Mid log₀ w) (hvalid : valid address = true) :
    wp (trafficAdd (host platform) address) (fun _ w' => Mid log₀ w') w := by
  refine wp_seq (install_spec h.held hvalid) ?_
  rintro ⟨r, index⟩ v ⟨hv, hquiet, -, hinstalled⟩
  have hmid := h.quiet hquiet hv
  split
  · next j heq =>
    obtain ⟨rfl, rfl⟩ := Prod.mk.inj heq
    rw [wp_bind, wp_read, wp_ite]
    refine ⟨fun _ => hmid, fun _ => ?_⟩
    exact dropTraffic_spec (p := v.peers) hmid rfl (hinstalled j rfl).holds
  · exact hmid

/-- What `clear` leaves. -/
structure ClearedFrom (w w' : PeersWorld P) : Prop where
  cleared : w'.peers.Cleared
  lawful : Lawful w'.log
  log : ∃ more, w'.log = w.log ++ more ∧ ∀ e ∈ more, e.hardware = true
  busy : w'.peers.busy = w.peers.busy
  closing : w'.peers.closing = false
  pending : w'.peers.pending = false

/-- The loop of `clear` with `rest` still to visit. -/
structure Clearing (w : PeersWorld P) (rest : List (Fin 16)) (w' : PeersWorld P) : Prop where
  visited : ∀ k : Fin 16, k ∉ rest → w'.peers.entries[k] = {}
  lawful : Lawful w'.log
  log : ∃ more, w'.log = w.log ++ more ∧ ∀ e ∈ more, e.hardware = true
  busy : w'.peers.busy = w.peers.busy
  closing : w'.peers.closing = true

lemma clearEntry_spec {v : PeersWorld P} {rest : List (Fin 16)} {failure : IOReturn}
    (h : Clearing w (i :: rest) v) :
    wp (clearEntry (quiet platform) failure i) (fun _ w' => Clearing w rest w') v := by
  have hvisited : ∀ k : Fin 16, k ∉ rest → (v.peers.setEntry i {}).entries[k] = {} := by
    intro k hk
    rw [getElem_setEntry]
    split
    · rfl
    · next hik => exact h.visited k (by simp [Ne.symm hik, hk])
  unfold clearEntry
  rw [wp_bind, wp_read_quiet, wp_ite]
  constructor
  · intro _
    obtain ⟨more, hlog, hmore⟩ := h.log
    refine wp_seq (setAwdlPeer_spec false) ?_
    rintro result u ⟨hu, hulog⟩
    -- a remove with `closing` set is always lawful
    have hlawful : Lawful u.log := by
      rw [hulog]
      exact lawful_snoc h.lawful fun hopen => by cases h.closing.symm.trans hopen
    refine ⟨?_, hlawful, ?_, (congrArg NativePeers.busy hu).trans h.busy,
      (congrArg NativePeers.closing hu).trans h.closing⟩
    · show ∀ k : Fin 16, k ∉ rest → (u.peers.setEntry i {}).entries[k] = {}
      rw [hu]
      exact hvisited
    · refine ⟨more ++ [_], (hulog.trans (congrArg (· ++ _) hlog)).trans (List.append_assoc ..), ?_⟩
      intro e he
      rcases List.mem_append.mp he with he | he
      · exact hmore e he
      · rw [List.mem_singleton.mp he]
        rfl
  · intro _
    exact ⟨hvisited, h.lawful, h.log, h.busy, h.closing⟩

lemma clear_spec (hlawful : Lawful w.log) (hclosing : w.peers.closing = false) (unbind : Bool) :
    wp (clear (quiet platform) unbind) (fun _ w' => ClearedFrom w w') w := by
  unfold clear
  rw [wp_bind, wp_read_quiet, if_neg (by rw [hclosing]; decide), wp_bind, wp_update_quiet]
  have hstart : Clearing w (List.finRange 16)
      { w with peers := { w.peers with closing := true, active := false } } :=
    ⟨fun k hk => absurd (List.mem_finRange k) hk, hlawful, ⟨[], by simp, by simp⟩, rfl, rfl⟩
  refine wp_seq (wp_foldlM (I := fun rest _ v => Clearing w rest v)
    (fun i rest _ v hv => clearEntry_spec hv) _ hstart) ?_
  intro failure v hv
  exact ⟨⟨fun k => hv.visited k (by simp), rfl⟩, hv.lawful, hv.log, hv.busy, rfl, rfl⟩

/-- Between calls: whatever clearing request was made since `log₀` has taken effect. -/
structure Settled (log₀ : List PeerEvent) (w : PeersWorld P) : Prop where
  held : Held w.peers w.log
  idle : w.peers.Idle
  effect : ∃ more, w.log = log₀ ++ more ∧
    ∀ r : PeerRequest, r.clears = true → .requested r ∈ more → w.peers.Cleared

lemma ClearedFrom.settled (h : ClearedFrom w w')
    (hbusy : w.peers.busy = false) (hlog : ∃ more, w.log = log₀ ++ more) : Settled log₀ w' := by
  obtain ⟨more, hlog⟩ := hlog
  obtain ⟨more', hlog', -⟩ := h.log
  refine ⟨Held.of_cleared h.cleared h.lawful, ⟨h.busy.trans hbusy, h.closing, h.pending⟩,
    more ++ more', by rw [hlog', hlog, List.append_assoc], fun _ _ _ => h.cleared⟩

lemma finish_spec (h : Mid log₀ w) :
    wp (finish (host platform)) (fun _ w' => Settled log₀ w' ∧ Handed w w' ∧
      (w.peers.pending = false → w' = { w with peers := { w.peers with busy := false } })) w := by
  obtain ⟨more, hlog, hpending⟩ := h.pending
  have hclear : ∀ unbind : Bool, w.peers.pending = true →
      wp (clear (quiet platform) unbind) (fun _ w' => Settled log₀ w' ∧ Handed w w' ∧
        (w.peers.pending = false → w' = { w with peers := { w.peers with busy := false } }))
        { w with peers := { w.peers with busy := false } } := by
    intro unbind hwaits
    refine wp_mono (clear_spec (w := { w with peers := { w.peers with busy := false } })
      h.held.lawful h.closing unbind) fun _ w' hw' => ?_
    exact ⟨hw'.settled rfl ⟨more, hlog⟩, Handed.of_hardware hw'.log, fun hnot => absurd (hwaits.symm.trans hnot) (by decide)⟩
  unfold finish
  rw [wp_bind, wp_update, wp_bind, wp_read, wp_ite]
  constructor
  · intro habandon
    have hwaits : w.peers.pending = true := by
      rw [NativePeers.pending, show w.peers.abandonPending = true from habandon]
      rfl
    show wp (abandon (quiet platform)) _ _
    rw [wp_abandon, if_neg (by simp [h.closing])]
    refine ⟨?_, (Quiet.refl w).handed, fun hnot => absurd (hwaits.symm.trans hnot) (by decide)⟩
    have hcleared : NativePeers.Cleared { w.peers with
        busy := false, active := false, entries := Vector.replicate 16 {}, trafficPeer := zeroMac,
        disablePending := false } := ⟨fun k => by simp, rfl⟩
    exact ⟨Held.of_cleared hcleared h.held.lawful, ⟨rfl, h.closing, rfl⟩, more, hlog,
      fun _ _ _ => hcleared⟩
  · intro habandon
    rw [wp_ite]
    constructor
    · intro hshutdown
      refine hclear true ?_
      rw [NativePeers.pending, show w.peers.shutdownPending = true from hshutdown]
      simp
    · intro hshutdown
      rw [wp_ite]
      constructor
      · intro hdisable
        refine hclear false ?_
        rw [NativePeers.pending, show w.peers.disablePending = true from hdisable]
        simp
      · intro hdisable
        have hnone : w.peers.pending = false := by
          simp only [Bool.not_eq_true] at habandon hshutdown hdisable
          rw [NativePeers.pending, habandon, hshutdown, hdisable]
          rfl
        refine ⟨⟨h.held.congr rfl rfl, ⟨rfl, h.closing, hnone⟩, more, hlog, ?_⟩,
          (Quiet.refl w).handed, fun _ => rfl⟩
        grind

lemma Settled.begin (h : Settled log₀ w) :
    Mid w.log { w with peers := { w.peers with busy := true } } :=
  ⟨h.held.congr rfl rfl, rfl, h.idle.closing, [], by simp, by
    simp only [List.not_mem_nil, and_false, exists_false, iff_false]
    show ¬ w.peers.pending = true
    rw [h.idle.pending]
    decide⟩

/-- A body that keeps `Mid` makes a transaction that settles. -/
lemma transaction_spec {α : Type} {body : StateM (PeersWorld P) α} (h : Settled log₀ w)
    (hbody : ∀ v : PeersWorld P, v = { w with peers := { w.peers with busy := true } } →
      Mid w.log v → wp body (fun _ w' => Mid w.log w') v) :
    wp (transaction (host platform) body) (fun _ w' => Settled w.log w') w := by
  unfold transaction
  rw [wp_bind, wp_update]
  refine wp_seq (hbody _ rfl h.begin) fun _ v hv => ?_
  exact wp_seq (finish_spec hv) fun _ _ hu => hu.1

lemma Settled.quiet (h : Settled log₀ w) (hquiet : Quiet w w')
    (hheld : Held w'.peers w'.log) : Settled w.log w' := by
  obtain ⟨more, hlog, hmore⟩ := hquiet.log
  have hflags := congrArg Prod.fst hquiet.progress
  simp only [NativePeers.progress, Prod.mk.injEq] at hflags
  refine ⟨hheld, ⟨hflags.1.trans h.idle.busy, hflags.2.1.trans h.idle.closing,
    hquiet.pending.trans h.idle.pending⟩, more, hlog, fun r _ hr => ?_⟩
  cases hmore _ hr

/-- What a query leaves: the owner as it was. -/
structure Asked (w w' : PeersWorld P) : Prop where
  peers : w'.peers = w.peers
  held : Held w'.peers w'.log
  quiet : Quiet w w'

lemma ready_spec (h : Held w.peers w.log) :
    wp (ready (host platform)) (fun _ w' => Asked w w') w := by
  unfold ready
  rw [wp_bind, wp_read, wp_ite]
  constructor
  · exact fun _ => ⟨rfl, h, Quiet.refl w⟩
  · exact fun _ => ⟨rfl, h.snoc trivial (by simp), Quiet.snoc rfl rfl rfl⟩

lemma Asked.trans (h : Asked w w') (h' : Asked w' w'') : Asked w w'' :=
  ⟨h'.peers.trans h.peers, h'.held, h.quiet.trans h'.quiet⟩

lemma Asked.of_hardware (h : Held w.peers w.log) (hardware : P) : Asked w { w with hardware } :=
  ⟨rfl, h, Quiet.of_log_eq rfl rfl⟩

lemma isLocal_spec (h : Held w.peers w.log) :
    wp (isLocal (host platform) address) (fun _ w' => Asked w w') w := by
  unfold isLocal
  rw [wp_bind, wp_read, wp_ite]
  refine ⟨fun _ => ⟨rfl, h, Quiet.refl w⟩, fun _ => ?_⟩
  refine wp_seq (P := fun _ w' => Asked w w') (Asked.of_hardware h _) ?_
  intro current v hv
  cases current with
  | none => exact hv
  | some current => exact hv

lemma Settled.after_quiet (hquiet : Quiet w w') (h : Settled w'.log w'') :
    Settled w.log w'' := by
  obtain ⟨more, hlog, hmore⟩ := hquiet.log
  obtain ⟨more', hlog', heffect⟩ := h.effect
  refine ⟨h.held, h.idle, more ++ more', by rw [hlog', hlog, List.append_assoc], ?_⟩
  intro r hclears hr
  rcases List.mem_append.mp hr with hr | hr
  · cases hmore _ hr
  · exact heffect r hclears hr

lemma Settled.update (h : Settled log₀ w)
    (hheld : Held p w.log) (hbusy : p.busy = w.peers.busy) (hclosing : p.closing = w.peers.closing)
    (hpending : p.pending = w.peers.pending) : Settled w.log { w with peers := p } :=
  ⟨hheld, ⟨hbusy.trans h.idle.busy, hclosing.trans h.idle.closing,
    hpending.trans h.idle.pending⟩, [], by simp, by simp⟩

/-- What a cache call does, seen from outside. -/
structure CacheCalled (operation : UInt32) (address : Mac) (w w' : PeersWorld P) : Prop where
  settled : Settled w.log w'
  handoff : operation ≠ 2 → Undone w.peers address w' ∨ Handed w w'

lemma Asked.cacheCalled (h : Asked w w') (hw : Settled log₀ w)
    (operation : UInt32) : CacheCalled operation address w w' :=
  ⟨hw.quiet h.quiet h.held, fun _ => .inr h.quiet.handed⟩

lemma cacheAdd_transaction (h : Settled log₀ w) (hvalid : valid address = true) :
    wp (transaction (host platform) (cacheAdd (host platform) address)) (fun _ w' =>
      Settled w.log w' ∧ (Undone w.peers address w' ∨ Handed w w')) w := by
  unfold transaction
  rw [wp_bind, wp_update]
  refine wp_seq (cacheAdd_spec h.begin hvalid h.idle.pending) ?_
  rintro _ v ⟨hv, hcase⟩
  refine wp_seq (finish_spec hv) ?_
  rintro _ u ⟨hu, hhanded, hidle⟩
  refine ⟨hu, ?_⟩
  rcases hcase with hundone | hcase
  · -- nothing was requested meanwhile, so the end of the transaction changes nothing more
    rw [hidle hundone.pending]
    exact .inl ⟨hundone.cached, hundone.station, hundone.pending⟩
  · exact .inr (Handed.trans hcase hhanded)

lemma cache_spec (h : Settled log₀ w) (operation : UInt32) :
    wp (cache (host platform) operation address)
      (fun _ w' => CacheCalled operation address w w') w := by
  unfold cache
  rw [wp_bind, wp_read]
  refine wp_seq (P := fun _ v => Asked w v) ?_ ?_
  · rw [wp_orM, wp_pure]
    split
    · exact ⟨rfl, h.held, Quiet.refl w⟩
    · exact Asked.of_hardware h.held _
  intro notReady v hv
  rw [wp_ite]
  refine ⟨fun _ => hv.cacheCalled h operation, fun _ => ?_⟩
  rw [wp_ite]
  refine ⟨fun _ => hv.cacheCalled h operation, fun _ => ?_⟩
  refine wp_seq (P := fun bad u => Asked w u ∧ (bad = false → valid address = true)) ?_ ?_
  · rw [wp_orM, wp_pure]
    split
    · exact ⟨hv, nofun⟩
    · next hvalid =>
      refine wp_mono (isLocal_spec hv.held) fun _ u hu => ⟨hv.trans hu, fun _ => ?_⟩
      simpa using hvalid
  rintro bad u ⟨hu, hvalid⟩
  have hsettled : Settled w.log u := h.quiet hu.quiet hu.held
  rw [wp_ite]
  refine ⟨fun _ => hu.cacheCalled h operation, fun hgood => ?_⟩
  rw [wp_ite]
  refine ⟨fun _ => hu.cacheCalled h operation, fun _ => ?_⟩
  rw [wp_ite]
  constructor
  · intro hremove
    refine wp_mono (transaction_spec hsettled fun _ _ hmid => cacheRemove_spec hmid) ?_
    intro _ w' hw'
    exact ⟨Settled.after_quiet hu.quiet hw', fun hne => absurd hremove hne⟩
  · intro _
    refine wp_seq (ready_spec hu.held) fun usable t ht => ?_
    have ht' := hu.trans ht
    rw [wp_ite]
    refine ⟨fun _ => ht'.cacheCalled h operation, fun _ => ?_⟩
    refine wp_mono (cacheAdd_transaction (h.quiet ht'.quiet ht'.held)
      (hvalid (Bool.eq_false_of_not_eq_true hgood))) ?_
    rintro _ w' ⟨hw', hcase⟩
    refine ⟨Settled.after_quiet ht'.quiet hw', fun _ => ?_⟩
    rcases hcase with hundone | hhanded
    · exact .inl (ht'.peers ▸ hundone)
    · exact .inr (ht'.quiet.handed.trans hhanded)

lemma traffic_spec (h : Settled log₀ w) (d : TrafficRegistration) :
    wp (traffic (host platform) d) (fun _ w' => Settled w.log w') w := by
  have hstay : Asked w w := ⟨rfl, h.held, Quiet.refl w⟩
  have hasked : ∀ v, Asked w v → Settled w.log v := fun v hv => h.quiet hv.quiet hv.held
  unfold traffic
  rw [wp_bind, wp_read, wp_ite]
  refine ⟨fun _ => hasked w hstay, fun _ => ?_⟩
  rw [wp_ite]
  refine ⟨fun _ => hasked w hstay, fun _ => ?_⟩
  refine wp_seq (P := fun bad u => Asked w u ∧
    (bad = false → d.active ≠ 0 → valid d.addr = true)) ?_ ?_
  · rw [wp_orM, wp_pure]
    grind [wp_andM, wp_pure, wp_orM, wp_mono, isLocal_spec, h.held]
  rintro bad u ⟨hu, hvalid⟩
  rw [wp_ite]
  refine ⟨fun _ => hasked u hu, fun hgood => ?_⟩
  rw [wp_ite]
  constructor
  · intro _
    refine wp_mono (transaction_spec (hasked u hu) fun v hv hmid => ?_) fun _ w' hw' =>
      Settled.after_quiet hu.quiet hw'
    exact dropTraffic_spec (p := v.peers) hmid rfl rfl
  · intro hactive
    refine wp_seq (ready_spec hu.held) fun usable t ht => ?_
    have ht' := hu.trans ht
    rw [wp_ite]
    refine ⟨fun _ => hasked t ht', fun _ => ?_⟩
    refine wp_mono (transaction_spec (hasked t ht') fun v hv hmid => ?_) fun _ w' hw' =>
      Settled.after_quiet ht'.quiet hw'
    exact trafficAdd_spec hmid (hvalid (Bool.eq_false_of_not_eq_true hgood) hactive)

lemma bind_spec (h : Settled log₀ w) (native : Bool) :
    wp (NativePeers.bind (host platform) native address) (fun _ w' => Settled w.log w') w := by
  have hstay : Settled w.log w := h.quiet (Quiet.refl w) h.held
  unfold NativePeers.bind
  rw [wp_bind, wp_read, wp_ite]
  refine ⟨fun _ => hstay, fun _ => ?_⟩
  rw [wp_ite]
  refine ⟨fun _ => hstay, fun _ => ?_⟩
  refine wp_seq (P := fun _ v => Asked w v) (Asked.of_hardware h.held _) fun current v hv => ?_
  have hv' := h.quiet hv.quiet hv.held
  rw [wp_ite]
  refine ⟨fun _ => hv', fun _ => ?_⟩
  refine wp_seq (P := fun _ u => Asked v u)
    ⟨rfl, hv.held.snoc trivial (by simp), Quiet.snoc rfl rfl rfl⟩ fun count u hu => ?_
  have hu' := h.quiet (hv.quiet.trans hu.quiet) hu.held
  rw [wp_ite]
  refine ⟨fun _ => hu', fun _ => ?_⟩
  exact Settled.after_quiet (hv.quiet.trans hu.quiet)
    (hu'.update (hu.held.congr rfl rfl) rfl rfl rfl)

lemma enable_spec (h : Settled log₀ w) :
    wp (enable (host platform) true) (fun _ w' => Settled w.log w') w := by
  have hstay : Settled w.log w := h.quiet (Quiet.refl w) h.held
  show wp (do
    let p ← (host platform).read
    if p.busy || p.closing then pure IOReturn.busy
    else if !p.bound || !p.interface then pure .notReady
    else if !(← ready (host platform)) then pure .notReady
    else
      (host platform).update fun p => { p with active := true }
      pure .success) _ w
  rw [wp_bind, wp_read, wp_ite]
  refine ⟨fun _ => hstay, fun _ => ?_⟩
  rw [wp_ite]
  refine ⟨fun _ => hstay, fun _ => ?_⟩
  refine wp_seq (ready_spec h.held) fun usable v hv => ?_
  have hv' := h.quiet hv.quiet hv.held
  rw [wp_ite]
  refine ⟨fun _ => hv', fun _ => ?_⟩
  exact Settled.after_quiet hv.quiet (hv'.update (hv.held.congr rfl rfl) rfl rfl rfl)

/-- A request made between transactions takes effect at once. -/
lemma request_settled (h : Settled log₀ w) (r : PeerRequest) :
    wp (request platform r) (fun _ w' => Settled w.log w') w := by
  have hheld : Held w.peers (w.log ++ [.requested r]) := h.held.snoc trivial (by simp)
  have hlog : ∃ more, w.log ++ [PeerEvent.requested r] = w.log ++ more := ⟨_, rfl⟩
  have hbusy : ¬ w.peers.busy = true := by simp [h.idle.busy]
  have hopen : ¬ (w.peers.busy || w.peers.closing) = true := by
    simp [h.idle.busy, h.idle.closing]
  have hclear : ∀ unbind, wp (clear (quiet platform) unbind) (fun _ w' => Settled w.log w')
      { w with
        peers := { w.peers with active := false }
        log := w.log ++ [.requested r] } := by
    intro unbind
    refine wp_mono (clear_spec ?_ ?_ unbind) fun _ w' hw' => hw'.settled h.idle.busy hlog
    · exact hheld.lawful
    · exact h.idle.closing
  unfold request
  rw [wp_bind, wp_record]
  cases r with
  | revoke =>
    refine ⟨hheld.congr rfl rfl, ⟨h.idle.busy, h.idle.closing, h.idle.pending⟩, _, rfl, ?_⟩
    intro r hclears hr
    obtain rfl : r = .revoke := by simpa using hr
    cases hclears
  | disable =>
    show wp ((fun _ => ()) <$> enable (quiet platform) false) _ _
    rw [wp_map, wp_enable_false, if_neg hbusy]
    exact hclear false
  | shutdown =>
    rw [wp_shutdown, if_neg hopen]
    exact hclear true
  | abandon =>
    rw [wp_abandon, if_neg hopen]
    have hcleared : NativePeers.Cleared { w.peers with
        active := false, entries := Vector.replicate 16 {}, trafficPeer := zeroMac,
        disablePending := false } := ⟨fun k => by simp, rfl⟩
    exact ⟨Held.of_cleared hcleared hheld.lawful, ⟨h.idle.busy, h.idle.closing, rfl⟩, _, rfl,
      fun _ _ _ => hcleared⟩

lemma acceptData_held (address : Mac) (h : Held p log) (stream : ℕ) (sequence : UInt16) (now : ℕ) :
    Held (p.acceptData address stream sequence now).2 log ∧
      (p.acceptData address stream sequence now).2.progress = p.progress := by
  unfold acceptData
  split
  · split
    · exact ⟨h, rfl⟩
    · split
      · exact ⟨h, rfl⟩
      · next hfind =>
        have hused := (find_some hfind).1
        exact ⟨h.modify hused hused rfl rfl (h.valid _ hused).2 id, rfl⟩
  · exact ⟨h, rfl⟩

/-- Every call leaves the world settled. -/
lemma call_settled (platform : PeerPlatform P) (h : Settled log₀ w) (c : PeerCall) :
    Settled w.log (c.after platform w) := by
  cases c with
  | bind native address => exact wp_map.mpr (bind_spec h native)
  | enable => exact wp_map.mpr (enable_spec h)
  | cache operation address =>
    exact wp_map.mpr (wp_mono (cache_spec h operation) fun _ _ hcall => hcall.settled)
  | traffic registration => exact wp_map.mpr (traffic_spec h registration)
  | request r => exact request_settled h r
  | acceptData address stream sequence now =>
    obtain ⟨hheld, hprogress⟩ := acceptData_held address h.held stream sequence now
    exact h.quiet (Quiet.of_log_eq rfl hprogress) hheld

/-- Every reachable world is settled. -/
lemma run_settled (h : PeerRun platform w) : ∃ log₀, Settled log₀ w := by
  induction h with
  | start hardware =>
    refine ⟨[], Held.of_cleared ⟨fun k => by simp, rfl⟩ ?_, ⟨rfl, rfl, rfl⟩, [], rfl, by simp⟩
    intro first e rest heq
    exact absurd heq (by simp)
  | call c _ ih =>
    obtain ⟨log₀, ih⟩ := ih
    exact ⟨_, call_settled platform ih c⟩
  | environment hardware _ ih =>
    obtain ⟨log₀, ih⟩ := ih
    exact ⟨log₀, ih.held, ih.idle, ih.effect⟩

/-- What the owner guarantees in a reachable world, and about the next call from it. -/
structure Ledger (platform : PeerPlatform P) (w : PeersWorld P) : Prop where
  distinct : ∀ i j : Fin 16, w.peers.entries[i].used = true → w.peers.entries[j].used = true →
    w.peers.entries[i].address = w.peers.entries[j].address → i = j
  one_traffic : ∀ i j : Fin 16, w.peers.entries[i].traffic = true →
    w.peers.entries[j].traffic = true → i = j
  traffic_iff : ∀ i : Fin 16, w.peers.entries[i].traffic = true ↔
    w.peers.trafficPeer ≠ zeroMac ∧ w.peers.entries[i].address = w.peers.trafficPeer
  authorized : ∀ address, w.peers.authorized address = true →
    w.peers.bound = true ∧ w.peers.active = true ∧ w.peers.fault = false ∧
      lastSet address w.log = some (true, .success)
  /-- A remove outside `clear` is issued when no reference remains. -/
  remove_issued : ∀ first before address result rest,
    w.log = first ++ .set before address false result :: rest → before.closing = false →
    ∀ i : Fin 16, before.entries[i].used = true → before.entries[i].address = address →
      before.entries[i].cached = false ∧ before.entries[i].traffic = false
  /-- An add is issued right after the hardware gave a capacity that leaves room. -/
  add_issued : ∀ first before address result rest,
    w.log = first ++ .set before address true result :: rest →
    ∃ c, first.getLast? = some (.capacity c) ∧ before.others address < min 16 c.toNat
  handoff_failed : ∀ (operation : UInt32) (address : Mac) (more : List PeerEvent),
    operation ≠ 2 →
    ((PeerCall.cache operation address).after platform w).log = w.log ++ more →
    .posted address true false ∈ more →
    ((PeerCall.cache operation address).after platform w).peers.cachedFlag address =
        w.peers.cachedFlag address ∧
      (w.peers.find address = none → ∃ before result,
        ((PeerCall.cache operation address).after platform w).log.getLast? =
          some (.set before address false result) ∧
        (result = .success →
          ((PeerCall.cache operation address).after platform w).peers.find address = none))
  /-- Also when it was made from within a posted completion. -/
  request_effect : ∀ (c : PeerCall) (r : PeerRequest) (more : List PeerEvent),
    r.clears = true → (c.after platform w).log = w.log ++ more → .requested r ∈ more →
    (c.after platform w).peers.Cleared

/-- In every run, against any hardware, the owner keeps its ledger. -/
theorem peerRun_ledger (h : PeerRun platform w) : Ledger platform w := by
  obtain ⟨log₀, h⟩ := run_settled h
  refine ⟨h.held.distinct, ?_, ?_, ?_, ?_, ?_, ?_, ?_⟩
  · intro i j hi hj
    rw [h.held.traffic] at hi hj
    exact h.held.distinct i j hi.1 hj.1 (hi.2.trans hj.2.symm)
  · intro i
    rw [h.held.traffic]
    constructor
    · rintro ⟨hused, haddress⟩
      refine ⟨?_, haddress⟩
      rw [← haddress]
      exact valid_ne_zero (h.held.valid i hused).1
    · rintro ⟨hne, haddress⟩
      -- an unused entry has the zero address
      cases hused : w.peers.entries[i].used with
      | true => exact ⟨rfl, haddress⟩
      | false =>
        rw [h.held.unused i hused] at haddress
        exact absurd haddress.symm hne
  · intro address hauthorized
    simp only [NativePeers.authorized, Bool.and_eq_true, Bool.not_eq_true', Option.any_eq_true]
      at hauthorized
    obtain ⟨⟨⟨⟨⟨hbound, hactive⟩, hfault⟩, -⟩, -⟩, i, hfind, ⟨-, hretiring⟩, -⟩ := hauthorized
    obtain ⟨hused, haddress⟩ := find_some hfind
    exact ⟨hbound, hactive, hfault, haddress ▸ h.held.station i hused hretiring⟩
  · intro first before address result rest hlog
    exact h.held.lawful first _ rest hlog
  · intro first before address result rest hlog
    exact h.held.lawful first _ rest hlog
  · intro operation address more hadd hlog hfailed
    have hcall : CacheCalled operation address w
        ((PeerCall.cache operation address).after platform w) := wp_map.mpr (cache_spec h operation)
    rcases hcall.handoff hadd with hundone | ⟨more', hlog', hmore'⟩
    · exact ⟨hundone.cached, hundone.station⟩
    · obtain rfl : more = more' := List.append_cancel_left (hlog.symm.trans hlog')
      exact absurd hfailed (hmore' address true)
  · intro c r more hclears hlog hr
    obtain ⟨more', hlog', heffect⟩ := (call_settled platform h c).effect
    obtain rfl : more = more' := List.append_cancel_left (hlog.symm.trans hlog')
    exact heffect r hclears hr

/-- Hardware with room for four stations that accepts every call. -/
def roomyPlatform : PeerPlatform Unit where
  awdlPeerCapacity _ := (4, ())
  setAwdlPeer _ _ _ := (.success, ())
  canPost _ := (true, ())
  post _ _ _ := (some [], ())
  getHardwareAddress _ := (some (Mac.of 2 0 0 0 0 1), ())

/-- The calls that bind and enable the owner and cache one peer. -/
def cachedPeer : PeersWorld Unit :=
  (PeerCall.cache 0 (Mac.of 2 0 0 0 0 2)).after roomyPlatform
    (PeerCall.enable.after roomyPlatform
      ((PeerCall.bind true (Mac.of 2 0 0 0 0 1)).after roomyPlatform { hardware := () }))

theorem peerRun_ledger_cachedPeer : cachedPeer.peers.authorized (Mac.of 2 0 0 0 0 2) = true ∧
    PeerRun roomyPlatform cachedPeer ∧ Ledger roomyPlatform cachedPeer :=
  have hrun : PeerRun roomyPlatform cachedPeer := .call _ (.call _ (.call _ (.start ())))
  ⟨by decide +kernel, hrun, peerRun_ledger hrun⟩

end

end AirportAwdl.Native
