import AirportAwdl.Election.Hold

/-!
# Discarding a control transaction

`selectNativeParent` and `clearNativeParent` keep their acquisition bookkeeping outside the
transaction, so a discard does not restore it. What an election reads of it is one verdict
on the effective parent (`Authorization`). Two engines that differ in the bookkeeping only
and agree on that verdict stay in step through every later frame and election
(`Sim.runOps`); a discard is a rollback exactly as far as the verdict is undisturbed.
-/

namespace AirportAwdl.Election

open ByteBuffer

variable {s s' a b : State} {now : ℕ} {l : Ledger}

/-- What the acquisition bookkeeping says about samples of the effective parent. -/
inductive Authorization where
  /-- They discipline the clock that is followed. -/
  | committed
  /-- The next one may be adopted, whatever its root. -/
  | any
  /-- Only one with this root counts, and it may be adopted. -/
  | root (root : Mac)
  /-- None counts: the pending selection names another parent. -/
  | blocked
deriving DecidableEq, Repr

def State.authorization (s : State) : Authorization :=
  if !s.nativeClockAcquisitionPending then
    if !s.nativeClockSelected && !s.nativeTimelineStarted then .any else .committed
  else if s.acquisitionParent ≠ s.nativeParent then .blocked
  else if s.acquisitionRootKnown then .root s.acquisitionRoot
  else .any

/-- The calls between `s` and `s'` left the verdict on the effective parent of `s` alone, or
there is no parent that an election could follow. -/
def Undisturbed (s s' : State) : Prop :=
  s.nativeParentSelected = false ∨ s.syncRole = 3 ∨ s'.authorization = s.authorization

instance (s s' : State) : Decidable (Undisturbed s s') :=
  inferInstanceAs (Decidable (_ ∨ _ ∨ _))

lemma State.acquisitionBlocked_eq (hm : s.nativeElectionManaged) {p : Peer}
    (hp : p.mac = s.nativeParent) :
    s.acquisitionBlocked p = match s.authorization with
      | .blocked => true
      | .root r => r != p.advertisement.master
      | _ => false := by
  unfold State.acquisitionBlocked State.authorization
  grind

lemma State.adopts_eq (hm : s.nativeElectionManaged) :
    s.adopts = (s.authorization != .committed) := by
  unfold State.adopts State.authorization
  grind

/-- Fields that a discarded transaction may leave behind. -/
structure Ledger where
  pending : Controls
  deferred : ℕ
  due : Bool
  parent : Mac
  root : Mac
  known : Bool

def State.withLedger (s : State) (l : Ledger) : State :=
  { s with
    pendingControls := l.pending
    controlsDeferred := l.deferred
    nativeClockAcquisitionPending := l.due
    acquisitionParent := l.parent
    acquisitionRoot := l.root
    acquisitionRootKnown := l.known }

lemma State.withLedger_advanceElection (s : State) (l : Ledger) (now : ℕ) :
    (s.withLedger l).advanceElection now = (s.advanceElection now).withLedger l := by
  unfold State.advanceElection
  show (if now < s.electionEpoch ∨ s.synchronized ∨ s.nativeClockHoldover then _ else _) = _
  split <;> rfl

lemma State.withLedger_loseParent (s : State) (l : Ledger) :
    (s.withLedger l).loseParent = s.loseParent.withLedger l := by
  unfold State.loseParent
  show (if s.holdsNativeClock then _ else _) = _
  split <;> rfl

lemma State.withLedger_slewClock (s : State) (l : Ledger) (c : ℤ) (now : ℕ) :
    (s.withLedger l).slewClock c now = (s.slewClock c now).withLedger l := by
  unfold State.slewClock
  dsimp only
  split_ifs <;> first | rfl | contradiction

lemma State.withLedger_trackClock (s : State) (l : Ledger) (p : Peer) (now : ℕ) :
    (s.withLedger l).trackClock p now = (s.trackClock p now).withLedger l := by
  have hv : (s.withLedger l).validateSample = s.validateSample.withLedger l := by
    unfold State.validateSample
    show (if s.nativeElectionManaged then _ else _) = _
    split <;> rfl
  unfold State.trackClock
  dsimp only
  rw [hv]
  show (if s.clockDelta p now > 5 * 1024 ∨ s.clockDelta p now < -(5 * 1024) then _ else
    if now < s.validateSample.clockHoldUntil then _ else _) = _
  split
  · rfl
  · split
    · rfl
    · exact State.withLedger_slewClock { s.validateSample with clockSampleAt := p.seen } l
        (State.clockCorrection (s.clockDelta p now)) now

lemma State.withLedger_acquireClock (hm : s.nativeElectionManaged) (l : Ledger) (p : Peer) :
    (s.withLedger l).acquireClock p = (s.acquireClock p).withLedger { l with due := false } := by
  unfold State.acquireClock
  show (if s.nativeElectionManaged then _ else _) =
    State.withLedger (if s.nativeElectionManaged then _ else _) _
  rw [if_pos hm, if_pos hm]
  rfl

lemma State.authorization_loseParent (s : State) :
    s.loseParent.authorization = s.authorization := by
  unfold State.loseParent
  split <;> rfl

lemma State.authorization_slewClock (s : State) (c : ℤ) (now : ℕ) :
    (s.slewClock c now).authorization = s.authorization := by
  unfold State.slewClock
  dsimp only
  split_ifs <;> rfl

lemma State.authorization_trackClock (s : State) (p : Peer) (now : ℕ) :
    (s.trackClock p now).authorization = s.authorization := by
  have hv : s.validateSample.authorization = s.authorization := by
    unfold State.validateSample
    split <;> rfl
  unfold State.trackClock
  dsimp only
  split
  · rfl
  · split
    · exact hv
    · exact (State.authorization_slewClock { s.validateSample with clockSampleAt := p.seen }
        (State.clockCorrection (s.clockDelta p now)) now).trans hv

lemma State.authorization_bindPeer {p : Peer} (hsame : s.sameClock p) :
    (s.bindPeer p).authorization = s.authorization := by
  unfold State.authorization State.bindPeer
  simp [hsame]

lemma State.selected_bindPeer (hm : s.nativeElectionManaged) (p : Peer) :
    (s.bindPeer p).nativeClockSelected = true := by
  show (if s.nativeElectionManaged ∧ !s.sameClock p then true else s.nativeClockSelected) = true
  split
  · rfl
  · rename_i hnot
    have hsame : s.sameClock p = true := by simpa [hm] using hnot
    unfold State.sameClock at hsame
    grind

lemma State.authorization_acquireClock (hm : s.nativeElectionManaged)
    (hsel : s.nativeClockSelected) (p : Peer) : (s.acquireClock p).authorization = .committed := by
  unfold State.acquireClock
  rw [if_pos (show (s.holdClock 0).nativeElectionManaged from hm)]
  show (if !false then if !s.nativeClockSelected && !s.nativeTimelineStarted
    then Authorization.any else .committed else _) = _
  rw [hsel]
  rfl

/-- `a` is the free native-managed engine `b` with other bookkeeping, and an election that
follows a parent gets the same verdict from both. -/
structure Sim (a b : State) : Prop where
  ledger : ∃ l, a = b.withLedger l
  free : b.controlsHeld = false
  managed : b.nativeElectionManaged = true
  verdict : Undisturbed b a

lemma Sim.followPeer (hm : b.nativeElectionManaged) {p : Peer} (hp : p.mac = b.nativeParent)
    (hverdict : (b.withLedger l).authorization = b.authorization) (now : ℕ) :
    ∃ l', (b.withLedger l).followPeer p now = (b.followPeer p now).withLedger l' ∧
      ((b.followPeer p now).withLedger l').authorization = (b.followPeer p now).authorization := by
  have hblocked : (b.withLedger l).acquisitionBlocked p = b.acquisitionBlocked p := by
    rw [State.acquisitionBlocked_eq hm hp, ← hverdict]
    exact State.acquisitionBlocked_eq (s := b.withLedger l) hm hp
  have hadopts : (b.withLedger l).adopts = b.adopts := by
    rw [State.adopts_eq hm, ← hverdict]
    exact State.adopts_eq (s := b.withLedger l) hm
  unfold State.followPeer
  rw [hblocked, hadopts]
  show ∃ l', (if b.acquisitionBlocked p then _
    else if b.nativeElectionManaged ∧ !b.sameClock p ∧ !b.adopts then _
    else if b.adopts ∧ b.nativeElectionManaged ∧ now < b.clockHoldUntil then _
    else if b.adopts then _
    else if !b.sameClock p ∨ p.seen > b.clockSampleAt then _ else _) = _ ∧ _
  split_ifs with h1 h2 h3 h4 h5
  · exact ⟨l, rfl, hverdict⟩
  · exact ⟨l, rfl, hverdict⟩
  · exact ⟨l, rfl, hverdict⟩
  · have hm' : ((b.bindPeer p).withLedger l).nativeElectionManaged := hm
    refine ⟨{ l with due := false }, State.withLedger_acquireClock (s := b.bindPeer p) hm l p, ?_⟩
    rw [← State.withLedger_acquireClock (s := b.bindPeer p) hm l p,
      State.authorization_acquireClock hm' (State.selected_bindPeer hm p),
      State.authorization_acquireClock (s := b.bindPeer p) hm (State.selected_bindPeer hm p)]
  all_goals
    -- not adopted and not foreign: the sample is of the clock that is followed
    have hsame : b.sameClock p = true := by
      grind
    have hbind : ((b.bindPeer p).withLedger l).authorization = (b.bindPeer p).authorization := by
      rw [State.authorization_bindPeer hsame, ← hverdict]
      exact State.authorization_bindPeer (s := b.withLedger l) hsame
  · refine ⟨l, State.withLedger_trackClock (b.bindPeer p) l p now, ?_⟩
    rw [← State.withLedger_trackClock, State.authorization_trackClock,
      State.authorization_trackClock, hbind]
  · exact ⟨l, rfl, hbind⟩

lemma State.withLedger_scanPeers (s : State) (l : Ledger) (now : ℕ) :
    (s.withLedger l).scanPeers now = s.scanPeers now := rfl

lemma State.withLedger_elect (hfree : b.controlsHeld = false) (hm : b.nativeElectionManaged)
    (hverdict : Undisturbed b (b.withLedger l)) (now : ℕ) :
    ∃ l', (b.withLedger l).elect now = (b.elect now).withLedger l' ∧
      (b.nativeParentSelected = false ∨ b.syncRole = 3 ∨
        ((b.elect now).withLedger l').authorization = (b.elect now).authorization) := by
  have hfreeA : ¬(b.withLedger l).controlsHeld = true := by rw [Bool.not_eq_true]; exact hfree
  have hfreeB : ¬b.controlsHeld = true := by rw [Bool.not_eq_true]; exact hfree
  have hcand : ∀ best, ((b.advanceElection now).scanPeers now).2 = some best →
      b.Candidate now ((b.advanceElection now).scanPeers now).1[best] :=
    fun best h => State.candidate_of_best h
  unfold State.elect
  rw [if_neg hfreeA, if_neg hfreeB, State.withLedger_advanceElection]
  dsimp only
  rw [State.withLedger_scanPeers]
  obtain ⟨hcm, hcsel, hcp, hcauth, hcauth'⟩ :
      (b.advanceElection now).nativeElectionManaged = b.nativeElectionManaged ∧
      (b.advanceElection now).nativeParentSelected = b.nativeParentSelected ∧
      (b.advanceElection now).nativeParent = b.nativeParent ∧
      (b.advanceElection now).authorization = b.authorization ∧
      ((b.advanceElection now).withLedger l).authorization = (b.withLedger l).authorization := by
    obtain ⟨counter, epoch, hadv⟩ := b.advanceElection_eq now
    rw [hadv]
    exact ⟨rfl, rfl, rfl, rfl, rfl⟩
  generalize b.advanceElection now = c at hcand hcm hcsel hcp hcauth hcauth' ⊢
  generalize c.scanPeers now = scan at hcand ⊢
  obtain ⟨peers, best⟩ := scan
  show ∃ l', (if c.nativeElectionManaged ∧ !c.nativeParentSelected then _ else _) = _ ∧ _
  split
  · exact ⟨l, rfl, hverdict.imp_right (.imp_right fun h => by rw [hcauth', hcauth, h])⟩
  · rename_i hsel
    cases best with
    | none =>
      refine ⟨l, State.withLedger_loseParent { c with peers := peers } l,
        hverdict.imp_right (.imp_right fun h => ?_)⟩
      rw [← State.withLedger_loseParent, State.authorization_loseParent,
        State.authorization_loseParent]
      exact hcauth'.trans (h.trans hcauth.symm)
    | some best =>
      -- a candidate exists, so the verdicts are equal, and it is the effective parent
      obtain ⟨-, -, -, -, -, hleaf, hparent⟩ := hcand best rfl
      have hsame : (b.withLedger l).authorization = b.authorization := by
        rcases hverdict with hnone | hrole | hsame
        · exact absurd ⟨hcm.trans hm, by rw [hcsel, hnone]; rfl⟩ hsel
        · exact absurd hrole hleaf
        · exact hsame
      obtain ⟨l', hl', hv⟩ := Sim.followPeer (b := { c with peers := peers }) (l := l)
        (hcm.trans hm) ((hparent hm).trans hcp.symm) (hcauth'.trans (hsame.trans hcauth.symm)) now
      exact ⟨l', hl', .inr (.inr hv)⟩

/-- An election keeps two engines in step. -/
lemma Sim.elect (h : Sim a b) (now : ℕ) : Sim (a.elect now) (b.elect now) := by
  obtain ⟨⟨l, rfl⟩, hfree, hm, hverdict⟩ := h
  obtain ⟨l', hl', hv⟩ := State.withLedger_elect hfree hm hverdict now
  have hfields := b.controlFields_elect now
  simp only [State.controlFields, Prod.mk.injEq] at hfields
  obtain ⟨-, hm', hsel', -, hrole', -, -, -, hfree', -, -⟩ := hfields
  refine ⟨⟨l', hl'⟩, hfree'.trans hfree, hm'.trans hm, ?_⟩
  rw [Undisturbed, hl', hsel', hrole']
  exact hv

/-- So does a received frame: the same slot gets the same observation. -/
lemma Sim.receiveAction (h : Sim a b) (f : Bytes) (now : ℕ) :
    Sim (a.receiveAction f now).2 (b.receiveAction f now).2 := by
  have hstore : ∀ (i : Fin 16) (p : Peer), Sim (a.storePeer i p) (b.storePeer i p) := by
    intro i p
    obtain ⟨⟨l, rfl⟩, hfree, hm, hverdict⟩ := h
    exact ⟨⟨l, rfl⟩, hfree, hm, hverdict⟩
  have hmac : a.mac = b.mac := by
    obtain ⟨⟨l, rfl⟩, -⟩ := h
    rfl
  have hslot : a.peerSlot (macAt f 10) now = b.peerSlot (macAt f 10) now := by
    obtain ⟨⟨l, rfl⟩, -⟩ := h
    rfl
  unfold State.receiveAction
  rw [hmac, hslot]
  cases parseAdvertisement f with
  | none => exact h
  | some adv =>
    dsimp only
    split_ifs
    · exact h
    · exact h
    · cases b.peerSlot (macAt f 10) now with
      | none => exact h
      | some i => exact (hstore i _).elect now

/-- Frames and elections: what happens after the discard. -/
def Op.isRadio : Op → Bool
  | .receiveAction .. | .elect => true
  | _ => false

/-- Frames and elections keep them in step. -/
lemma Sim.apply (h : Sim a b) {op : Op} (hop : op.isRadio) (now : ℕ) :
    Sim (op.apply a now) (op.apply b now) := by
  cases op with
  | receiveAction f => exact h.receiveAction f now
  | elect => exact h.elect now
  | _ => cases hop

/-- So does any run of them. -/
lemma Sim.runOps (h : Sim a b) (ops : List (ℕ × Op)) (hops : ∀ step ∈ ops, step.2.isRadio) :
    Sim (runOps a ops) (runOps b ops) := by
  induction ops generalizing a b with
  | nil => exact h
  | cons step rest ih =>
    refine ih (h.apply (hops step List.mem_cons_self) step.1) fun later hlater => ?_
    exact hops later (List.mem_cons_of_mem _ hlater)

/-- Control calls do not touch the table. -/
lemma Op.peers_apply {op : Op} (hop : op.isControl) (hheld : s.controlsHeld) (now : ℕ) :
    (op.apply s now).peers = s.peers := by
  have hsequence : ∀ value : Sequence, (s.setSequence value now).2.peers = s.peers := by
    intro value
    unfold State.setSequence
    split_ifs <;> rfl
  cases op with
  | setSyncRole role address =>
    show (s.setSyncRole role address).2.peers = _
    unfold State.setSyncRole
    split_ifs <;> rfl
  | setPresence value =>
    show (s.setPresence value now).2.peers = _
    unfold State.setPresence
    split_ifs <;> rfl
  | setSequence value => exact hsequence value
  | setSocialChannel index channel =>
    show (s.setSocialChannel index channel now).peers = _
    grind [State.setSocialChannel]
  | selectNativeParent address root acquire =>
    show (s.selectNativeParent address root acquire).peers = _
    unfold State.selectNativeParent
    extract_lets n
    rw [if_pos (show n.controlsHeld = true from hheld)]
    split <;> rfl
  | clearNativeParent =>
    show s.clearNativeParent.peers = _
    unfold State.clearNativeParent
    grind
  | _ => cases hop

lemma Op.duringHold_of_isControl {op : Op} (hop : op.isControl) : op.duringHold := by
  cases op <;> first | rfl | exact hop

lemma peers_runOps (hheld : s.controlsHeld) (hm : s.nativeElectionManaged)
    (calls : List (ℕ × Op)) (hcalls : ∀ step ∈ calls, step.2.isControl) :
    (runOps s calls).peers = s.peers := by
  induction calls generalizing s with
  | nil => rfl
  | cons step rest ih =>
    have hop := hcalls step List.mem_cons_self
    have hedit := HeldEdit.apply hheld hm (Op.duringHold_of_isControl hop) step.1
    obtain ⟨-, hheld', hm'⟩ := hedit.flags
    have hrest := ih (hheld'.trans hheld) (hm'.trans hm)
      fun later hlater => hcalls later (List.mem_cons_of_mem _ hlater)
    exact hrest.trans (Op.peers_apply hop hheld step.1)

lemma sim_discardControls (hm : s.nativeElectionManaged) (hfree : s.controlsHeld = false)
    (calls : List (ℕ × Op)) (hcalls : ∀ step ∈ calls, step.2.isControl)
    (hverdict : Undisturbed s (runOps s.holdControls calls)) :
    Sim (runOps s.holdControls calls).discardControls s.holdControls.discardControls := by
  obtain ⟨hheld, hm', hsel, hrole, hauth⟩ : s.holdControls.controlsHeld = true ∧
      s.holdControls.nativeElectionManaged = s.nativeElectionManaged ∧
      s.holdControls.nativeParentSelected = s.nativeParentSelected ∧
      s.holdControls.syncRole = s.syncRole ∧
      s.holdControls.authorization = s.authorization := by
    rw [State.holdControls, if_neg (by simp [hfree])]
    exact ⟨rfl, rfl, rfl, rfl, rfl⟩
  rw [Undisturbed, ← hsel, ← hrole, ← hauth] at hverdict
  rw [← hm'] at hm
  generalize s.holdControls = h at *
  have hpeers := peers_runOps hheld hm calls hcalls
  obtain ⟨pending, dirty, deferred, peers, due, parent, root, known, hedit⟩ :=
    HeldEdit.runOps hheld hm calls
      fun step hstep => Op.duringHold_of_isControl (hcalls step hstep)
  rw [hedit] at hpeers hverdict ⊢
  obtain rfl : peers = h.peers := hpeers
  exact ⟨⟨⟨pending, deferred, due, parent, root, known⟩, rfl⟩, rfl, hm, hverdict⟩

/-- **Rollback.** After control calls that were discarded, every later sequence of frames and
elections leads where it leads without the calls, provided they leave the verdict on the
effective parent undisturbed. -/
theorem discard_rollback {s : State} (hm : s.nativeElectionManaged)
    (hfree : s.controlsHeld = false) (calls later : List (ℕ × Op))
    (hcalls : ∀ step ∈ calls, step.2.isControl) (hlater : ∀ step ∈ later, step.2.isRadio)
    (hverdict : Undisturbed s (runOps s.holdControls calls)) :
    let discarded := runOps (runOps s.holdControls calls).discardControls later
    let untouched := runOps s.holdControls.discardControls later
    (∀ t, discarded.counter t = untouched.counter t) ∧
      (∀ t, discarded.untilNext t = untouched.untilNext t) ∧
      (∀ t, discarded.channel t = untouched.channel t) ∧
      discarded.radioScheduleReady = untouched.radioScheduleReady ∧
      discarded.master = untouched.master ∧ discarded.sync = untouched.sync ∧
      discarded.synchronized = untouched.synchronized ∧
      discarded.clockParent = untouched.clockParent ∧
      discarded.clockRoot = untouched.clockRoot := by
  intro discarded untouched
  have hsim : Sim discarded untouched :=
    (sim_discardControls hm hfree calls hcalls hverdict).runOps later hlater
  obtain ⟨l, hl⟩ := hsim.ledger
  rw [hl]
  exact ⟨fun _ => rfl, fun _ => rfl, fun _ => rfl, rfl, rfl, rfl, rfl, rfl, rfl⟩

/-- A window in which native selects station C and asks for another plan. -/
def abandoned : List (ℕ × Op) :=
  [(163841, .selectNativeParent stationC none false), (163842, .setPresence 8)]

/-- The same window, with native back at station B before it ends. -/
def reconsidered : List (ℕ × Op) := abandoned ++ [(163843, .selectNativeParent stationB none false)]

/-- A cache expiry, then a fresh sample of station B, which is still the selected parent. -/
def freshSample : List (ℕ × Op) :=
  [(3500000, .elect), (3500000, .receiveAction (beacon stationB 5 0 3500000))]

/-- Once native is back at B, the discarded window is forgotten and B is followed again. -/
theorem discard_rollback_reconsidered :
    Undisturbed followerB (runOps followerB.holdControls reconsidered) ∧
      (runOps (runOps followerB.holdControls reconsidered).discardControls
        freshSample).synchronized = true := by
  have hverdict : Undisturbed followerB (runOps followerB.holdControls reconsidered) := by
    decide +kernel
  obtain ⟨-, -, -, -, -, -, hsync, -, -⟩ := discard_rollback (s := followerB) (by decide +kernel)
    (by decide +kernel) reconsidered freshSample (by decide +kernel) (by decide +kernel) hverdict
  exact ⟨hverdict, hsync.trans (by decide +kernel)⟩

/-- The discarded selection of C is still pending afterwards and shuts out the samples of B. -/
theorem abandonedSelection_blocks :
    ReachableAt followerB 163840 ∧ followerB.nativeElectionManaged ∧
      followerB.controlsHeld = false ∧ (∀ step ∈ abandoned, step.2.isControl) ∧
      (∀ step ∈ freshSample, step.2.isRadio) ∧
      (runOps followerB.holdControls.discardControls freshSample).synchronized = true ∧
      (runOps (runOps followerB.holdControls abandoned).discardControls
        freshSample).synchronized = false :=
  ⟨followerB_reachable, by decide +kernel, by decide +kernel, by decide +kernel,
    by decide +kernel, by decide +kernel, by decide +kernel⟩

end AirportAwdl.Election
