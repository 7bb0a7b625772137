import AirportAwdl.Election.Representation

/-!
# Held controls

While a window holds the controls, every operation edits the pending transaction, the peer
table and the acquisition bookkeeping and nothing else (`HeldEdit`). So the radio schedule
is frozen, and a release installs the role and the sequence requested last
(`hold_isolation`).
-/

namespace AirportAwdl.Election

open ByteBuffer

variable {s s' : State} {now : ℕ}

/-- Control calls: they write requests, never the peer table. -/
def Op.isControl : Op → Bool
  | .setSyncRole .. | .setPresence .. | .setSequence .. | .setSocialChannel ..
  | .selectNativeParent .. | .clearNativeParent => true
  | _ => false

/-- The operations that may run inside a window. -/
def Op.duringHold : Op → Bool
  | .receiveAction .. | .elect => true
  | op => op.isControl

/-- `s'` is `s` but for the transaction, the table and the acquisition bookkeeping. -/
def HeldEdit (s s' : State) : Prop :=
  ∃ (pending : Controls) (dirty : Bool) (deferred : ℕ) (peers : Vector Peer 16)
    (due : Bool) (parent root : Mac) (known : Bool),
    s' = { s with
      pendingControls := pending
      controlsDirty := dirty
      controlsDeferred := deferred
      peers := peers
      nativeClockAcquisitionPending := due
      acquisitionParent := parent
      acquisitionRoot := root
      acquisitionRootKnown := known }

lemma HeldEdit.refl (s : State) : HeldEdit s s := ⟨_, _, _, _, _, _, _, _, rfl⟩

lemma HeldEdit.trans {s'' : State} (h : HeldEdit s s') (h' : HeldEdit s' s'') : HeldEdit s s'' := by
  obtain ⟨_, _, _, _, _, _, _, _, rfl⟩ := h
  obtain ⟨_, _, _, _, _, _, _, _, rfl⟩ := h'
  exact ⟨_, _, _, _, _, _, _, _, rfl⟩

lemma HeldEdit.flags (h : HeldEdit s s') :
    s'.mac = s.mac ∧ s'.controlsHeld = s.controlsHeld ∧
      s'.nativeElectionManaged = s.nativeElectionManaged := by
  obtain ⟨_, _, _, _, _, _, _, _, rfl⟩ := h
  exact ⟨rfl, rfl, rfl⟩

lemma HeldEdit.setSyncRole (hheld : s.controlsHeld) (role : ℕ) (address : Mac) :
    HeldEdit s (s.setSyncRole role address).2 := by
  unfold State.setSyncRole
  split_ifs
  · exact .refl s
  · exact ⟨_, _, _, _, _, _, _, _, rfl⟩
  · exact .refl s

lemma HeldEdit.setPresence (hheld : s.controlsHeld) (value : UInt8) (now : ℕ) :
    HeldEdit s (s.setPresence value now).2 := by
  unfold State.setPresence
  split_ifs
  · exact .refl s
  · exact ⟨_, _, _, _, _, _, _, _, rfl⟩
  · exact .refl s

lemma HeldEdit.setSequence (hheld : s.controlsHeld) (value : Sequence) (now : ℕ) :
    HeldEdit s (s.setSequence value now).2 := by
  unfold State.setSequence
  split_ifs
  · exact .refl s
  · exact ⟨_, _, _, _, _, _, _, _, rfl⟩
  · exact .refl s

lemma HeldEdit.setSocialChannel (hheld : s.controlsHeld) (index : ℕ) (channel : UInt8) (now : ℕ) :
    HeldEdit s (s.setSocialChannel index channel now) :=
  State.setSocialChannel_keeps (.refl s) (.setSequence hheld · now) index channel

lemma HeldEdit.noteAcquisition (hm : s.nativeElectionManaged) (address : Mac) (root : Option Mac)
    (acquire : Bool) : HeldEdit s (s.noteAcquisition address root acquire) := by
  have hsame : { s with nativeElectionManaged := true } = s := by rw [← hm]
  have hedit : HeldEdit { s with nativeElectionManaged := true }
      (s.noteAcquisition address root acquire) := ⟨_, _, _, _, _, _, _, _, rfl⟩
  rwa [hsame] at hedit

lemma HeldEdit.selectNativeParent (hheld : s.controlsHeld) (hm : s.nativeElectionManaged)
    (address : Mac) (root : Option Mac) (acquire : Bool) :
    HeldEdit s (s.selectNativeParent address root acquire) := by
  have hnote := HeldEdit.noteAcquisition hm address root acquire
  unfold State.selectNativeParent
  extract_lets n
  rw [if_pos (show n.controlsHeld = true from hheld)]
  split
  · exact hnote.trans ⟨_, _, _, _, _, _, _, _, rfl⟩
  · exact hnote

lemma HeldEdit.clearNativeParent (hheld : s.controlsHeld) : HeldEdit s s.clearNativeParent := by
  unfold State.clearNativeParent
  extract_lets n
  rw [if_pos (show n.controlsHeld = true from hheld)]
  split
  · exact ⟨_, _, _, _, _, _, _, _, rfl⟩
  · exact ⟨_, _, _, _, _, _, _, _, rfl⟩

lemma State.elect_held (hheld : s.controlsHeld) (now : ℕ) : s.elect now = s := by
  rw [State.elect, if_pos hheld]

lemma HeldEdit.receiveAction (hheld : s.controlsHeld) (f : Bytes) (now : ℕ) :
    HeldEdit s (s.receiveAction f now).2 := by
  refine State.receiveAction_keeps (.refl s) fun {a i} _ _ _ => ?_
  have hheld' : (s.storePeer i (State.observation (macAt f 10) a now)).controlsHeld := hheld
  rw [State.elect_held hheld']
  exact ⟨_, _, _, _, _, _, _, _, rfl⟩

/-- Inside a window an operation edits the transaction and the table only. -/
lemma HeldEdit.apply (hheld : s.controlsHeld) (hm : s.nativeElectionManaged) {op : Op}
    (hop : op.duringHold) (now : ℕ) : HeldEdit s (op.apply s now) := by
  cases op with
  | receiveAction frame => exact .receiveAction hheld frame now
  | elect =>
    show HeldEdit s (s.elect now)
    rw [State.elect_held hheld]
    exact .refl s
  | setSyncRole role address => exact .setSyncRole hheld role address
  | setPresence value => exact .setPresence hheld value now
  | setSequence value => exact .setSequence hheld value now
  | setSocialChannel index channel => exact .setSocialChannel hheld index channel now
  | selectNativeParent address root acquire =>
    exact .selectNativeParent hheld hm address root acquire
  | clearNativeParent => exact .clearNativeParent hheld
  | holdControls => cases hop
  | releaseControls => cases hop
  | discardControls => cases hop
  | holdClock => cases hop
  | startTimeline => cases hop
  | nextFrame => cases hop

/-- Over a whole window the edits compose. -/
lemma HeldEdit.runOps (hheld : s.controlsHeld) (hm : s.nativeElectionManaged)
    (ops : List (ℕ × Op)) (hops : ∀ step ∈ ops, step.2.duringHold) :
    HeldEdit s (runOps s ops) := by
  induction ops generalizing s with
  | nil => exact .refl s
  | cons step rest ih =>
    obtain ⟨hop, hrest⟩ := List.forall_mem_cons.mp hops
    have hstep := HeldEdit.apply hheld hm hop step.1
    -- the edit touches neither the hold nor the management flag
    obtain ⟨-, hheld', hm'⟩ := hstep.flags
    exact hstep.trans (ih (hheld'.trans hheld) (hm'.trans hm) hrest)

/-- The effective radio configuration, which a window must not see change. -/
structure Effective where
  syncRole : UInt8
  forcedSync : Mac
  sequence : Sequence
  presence : UInt8
  ownSequence : Sequence
  ownPresence : UInt8
  nativeParent : Mac
  nativeParentSelected : Bool
  master : Mac
  sync : Mac
  synchronized : Bool
  epoch : ℕ
  baseCounter : UInt16
  clockHoldUntil : ℕ
deriving DecidableEq

def State.effective (s : State) : Effective where
  syncRole := s.syncRole
  forcedSync := s.forcedSync
  sequence := s.sequence
  presence := s.presence
  ownSequence := s.ownSequence
  ownPresence := s.ownPresence
  nativeParent := s.nativeParent
  nativeParentSelected := s.nativeParentSelected
  master := s.master
  sync := s.sync
  synchronized := s.synchronized
  epoch := s.epoch
  baseCounter := s.baseCounter
  clockHoldUntil := s.clockHoldUntil

/-- The role and the sequence asked for. -/
structure Request where
  role : ℕ
  forced : Mac
  sequence : Sequence
deriving DecidableEq

/-- The requests a transaction holds. -/
def State.pendingRequest (s : State) : Request where
  role := s.pendingControls.role.toNat
  forced := s.pendingControls.forced
  sequence := s.pendingControls.sequence

/-- The request after one more call to an engine with address `mac`: an accepted call
replaces its own part, a refused one nothing. -/
def Request.after (mac : Mac) (r : Request) : Op → Request
  | .setSyncRole role address =>
    if State.roleAccepted mac true role address then { r with role := role, forced := address }
    else r
  | .setPresence value =>
    if validPresence value.toNat then { r with sequence := { r.sequence with step := value - 1 } }
    else r
  | .setSequence value => if validSequence value then { r with sequence := value } else r
  | .setSocialChannel index channel =>
    let value := { r.sequence with channels := r.sequence.channels.setIfInBounds index channel }
    if index < r.sequence.count.toNat ∧ validSequence value then { r with sequence := value } else r
  | _ => r

/-- What was requested last, over a list of calls. -/
def Request.afterAll (mac : Mac) (r : Request) (ops : List (ℕ × Op)) : Request :=
  ops.foldl (fun r step => r.after mac step.2) r

lemma setSequence_accepts {value : Sequence} :
    ¬ (!validSequence value ∨ !validPresence (value.step.toNat + 1)) ↔ validSequence value := by
  constructor
  · intro h
    simp only [not_or, Bool.not_eq_true', Bool.not_eq_false] at h
    exact h.1
  · intro h
    have hstep := ((validSequence_iff _).mp h).2.1
    simp [h, hstep]

lemma State.setSequence_request (hheld : s.controlsHeld) (value : Sequence) (now : ℕ) :
    (s.setSequence value now).2.pendingRequest =
      if validSequence value then { s.pendingRequest with sequence := value }
      else s.pendingRequest := by
  unfold State.setSequence
  by_cases hv : validSequence value = true
  · rw [if_neg (setSequence_accepts.mpr hv), if_pos hheld, if_pos hv]
    split
    · rfl
    · rename_i hsame
      rw [not_not] at hsame
      rw [← hsame]
      rfl
  · rw [if_pos (not_not.mp (mt setSequence_accepts.mp hv)), if_neg hv]

lemma State.setSyncRole_request (hheld : s.controlsHeld) (hm : s.nativeElectionManaged) (role : ℕ)
    (address : Mac) :
    (s.setSyncRole role address).2.pendingRequest =
      if State.roleAccepted s.mac true role address then
        { s.pendingRequest with role := role, forced := address }
      else s.pendingRequest := by
  unfold State.setSyncRole
  rw [hm]
  by_cases hacc : State.roleAccepted s.mac true role address = true
  · rw [if_neg (by simp [hacc]), if_pos hheld, if_pos hacc]
    split
    · simp only [State.pendingRequest, State.roleAccepted_toNat hacc]
    · rename_i hsame
      simp only [not_or, ne_eq, not_not] at hsame
      rw [← hsame.1, ← hsame.2]
      rfl
  · rw [if_pos (by simp [hacc]), if_neg hacc]

lemma State.setPresence_request (hinv : Inv s) (hheld : s.controlsHeld) (value : UInt8) (now : ℕ) :
    (s.setPresence value now).2.pendingRequest =
      if validPresence value.toNat then
        { s.pendingRequest with
          sequence := { s.pendingRequest.sequence with step := value - 1 } }
      else s.pendingRequest := by
  unfold State.setPresence
  by_cases hv : validPresence value.toNat = true
  · rw [if_neg (by simp [hv]), if_pos hheld, if_pos hv]
    split
    · rfl
    · rename_i hsame
      rw [not_not] at hsame
      have hstep : value - 1 = s.pendingControls.sequence.step := by
        rw [← hsame, (hinv.pendingPlan hheld).presence_eq, UInt8.add_sub_cancel]
      rw [hstep]
      rfl
  · rw [if_pos (by simp [hv]), if_neg hv]

lemma State.receiveAction_pending (hheld : s.controlsHeld) (f : Bytes) (now : ℕ) :
    (s.receiveAction f now).2.pendingControls = s.pendingControls := by
  refine receiveAction_keeps (P := fun t => t.pendingControls = _) rfl fun {a i} _ _ _ => ?_
  have hheld' : (s.storePeer i (State.observation (macAt f 10) a now)).controlsHeld := hheld
  rw [State.elect_held hheld']
  rfl

/-- The pending transaction records exactly the accepted calls. -/
lemma State.pendingRequest_apply (hinv : Inv s) (hheld : s.controlsHeld)
    (hm : s.nativeElectionManaged) {op : Op} (hop : op.duringHold) (now : ℕ) :
    (op.apply s now).pendingRequest = s.pendingRequest.after s.mac op := by
  cases op with
  | receiveAction frame =>
    show (s.receiveAction frame now).2.pendingRequest = s.pendingRequest
    rw [State.pendingRequest, State.receiveAction_pending hheld]
    rfl
  | elect =>
    show (s.elect now).pendingRequest = s.pendingRequest
    rw [State.elect_held hheld]
  | setSyncRole role address => exact State.setSyncRole_request hheld hm role address
  | setPresence value => exact State.setPresence_request hinv hheld value now
  | setSequence value => exact State.setSequence_request hheld value now
  | setSocialChannel index channel =>
    show (s.setSocialChannel index channel now).pendingRequest = _
    unfold State.setSocialChannel Request.after
    rw [if_pos hheld]
    by_cases hindex : index < s.pendingControls.sequence.count.toNat
    · rw [if_neg (not_le.mpr hindex), State.setSequence_request hheld]
      simp only [State.pendingRequest, hindex, true_and]
    · rw [if_pos (not_lt.mp hindex)]
      simp only [State.pendingRequest, hindex, false_and, if_false]
  | selectNativeParent address root acquire =>
    show (s.selectNativeParent address root acquire).pendingRequest = s.pendingRequest
    unfold State.selectNativeParent
    dsimp only
    split
    · split <;> rfl
    · rfl
  | clearNativeParent =>
    show s.clearNativeParent.pendingRequest = s.pendingRequest
    unfold State.clearNativeParent
    dsimp only
    split_ifs <;> rfl
  | holdControls => cases hop
  | releaseControls => cases hop
  | discardControls => cases hop
  | holdClock => cases hop
  | startTimeline => cases hop
  | nextFrame => cases hop

/-- Over a whole window it holds what was requested last. -/
lemma State.pendingRequest_runOps (hinv : Inv s) (hheld : s.controlsHeld)
    (hm : s.nativeElectionManaged) (ops : List (ℕ × Op))
    (hops : ∀ step ∈ ops, step.2.duringHold) :
    (runOps s ops).pendingRequest = s.pendingRequest.afterAll s.mac ops := by
  induction ops generalizing s with
  | nil => rfl
  | cons step rest ih =>
    obtain ⟨hop, hrest⟩ := List.forall_mem_cons.mp hops
    obtain ⟨hmac, hheld', hm'⟩ := (HeldEdit.apply hheld hm hop step.1).flags
    have hreq := State.pendingRequest_apply hinv hheld hm hop step.1
    have hih := ih (hinv.apply step.2 step.1) (hheld'.trans hheld) (hm'.trans hm) hrest
    rw [hmac, hreq] at hih
    exact hih

lemma HeldEdit.schedule (h : HeldEdit s s') :
    s'.effective = s.effective ∧ (∀ t, s'.counter t = s.counter t) ∧
      (∀ t, s'.untilNext t = s.untilNext t) ∧ (∀ t, s'.channel t = s.channel t) ∧
      s'.radioScheduleReady = s.radioScheduleReady := by
  obtain ⟨_, _, _, _, _, _, _, _, rfl⟩ := h
  exact ⟨rfl, fun _ => rfl, fun _ => rfl, fun _ => rfl, rfl⟩

lemma State.setSyncRole_installs (hfree : s.controlsHeld = false) {role : UInt8} {address : Mac}
    (hacc : State.roleAccepted s.mac s.nativeElectionManaged role.toNat address) :
    (s.setSyncRole role.toNat address).2.syncRole = role ∧
      (s.setSyncRole role.toNat address).2.forcedSync = address := by
  unfold State.setSyncRole
  rw [if_neg (by simp [hacc]), if_neg (by simp [hfree])]
  split
  · rename_i hsame
    exact ⟨UInt8.toNat_inj.mp hsame.1, hsame.2⟩
  · exact ⟨UInt8.ofNat_toNat, rfl⟩

lemma State.setSequence_installs (hfree : s.controlsHeld = false) {value : Sequence}
    (hv : validSequence value) (now : ℕ) :
    (s.setSequence value now).2.ownSequence = value ∧
      (s.setSequence value now).2.ownPresence = value.step + 1 ∧
      (s.setSequence value now).2.syncRole = s.syncRole ∧
      (s.setSequence value now).2.forcedSync = s.forcedSync := by
  unfold State.setSequence
  rw [if_neg (setSequence_accepts.mpr hv), if_neg (by simp [hfree]), State.applySequence_eq hfree hv]
  split <;> exact ⟨rfl, rfl, rfl, rfl⟩

/-- Requests that are in effect. -/
structure Installed (s : State) (c : Controls) : Prop where
  role : s.syncRole = c.role
  forced : s.forcedSync = c.forced
  sequence : s.ownSequence = c.sequence
  presence : s.ownPresence = c.presence

lemma Installed.committedRequests (hinv : Inv s) (hheld : s.controlsHeld) (now : ℕ) :
    Installed (s.committedRequests now) s.pendingControls := by
  have hplan := hinv.pendingPlan hheld
  have htrans : (s.discardControls.setSyncRole _ _).2.transaction = s.discardControls.transaction :=
    State.transaction_setSyncRole rfl s.pendingControls.role.toNat s.pendingControls.forced
  have hfree := congrArg (fun x => x.2.2.1) htrans
  have hacc : State.roleAccepted s.discardControls.mac s.discardControls.nativeElectionManaged
      s.pendingControls.role.toNat s.pendingControls.forced := hinv.pendingRole hheld
  obtain ⟨hrole, hforced⟩ := State.setSyncRole_installs rfl hacc
  obtain ⟨hseq, hpres, hrole', hforced'⟩ := State.setSequence_installs hfree hplan.valid now
  exact ⟨hrole'.trans hrole, hforced'.trans hforced, hseq, hpres.trans hplan.presence_eq.symm⟩

lemma Installed.releaseControls (hinv : Inv s) (hheld : s.controlsHeld) (hdirty : s.controlsDirty)
    (now : ℕ) : Installed (s.releaseControls now).2 s.pendingControls := by
  have hreq := Installed.committedRequests hinv hheld now
  have hcommit : Installed (s.commitControls now) s.pendingControls := by
    rw [State.commitControls_eq, if_pos hdirty]
    split
    · unfold State.clearNativeParent
      dsimp only
      split_ifs <;> exact ⟨hreq.role, hreq.forced, hreq.sequence, hreq.presence⟩
    · exact hreq
  have helect := (s.commitControls now).controlFields_elect now
  simp only [State.controlFields, Prod.mk.injEq] at helect
  obtain ⟨-, -, -, -, hrole, hforced, hseq, hpres, -⟩ := helect
  unfold State.releaseControls
  rw [if_neg (by simp [hheld])]
  exact ⟨hrole.trans hcommit.role, hforced.trans hcommit.forced, hseq.trans hcommit.sequence,
    hpres.trans hcommit.presence⟩

/-- Inside a window nothing that drives the radio changes, whatever frames arrive and whatever
native asks for. A release with a dirty transaction then installs the role and the sequence
asked for last. -/
theorem hold_isolation {s : State} (h : Reachable s) (hm : s.nativeElectionManaged)
    (hheld : s.controlsHeld) (ops : List (ℕ × Op)) (hops : ∀ step ∈ ops, step.2.duringHold) :
    (runOps s ops).effective = s.effective ∧
      (∀ t, (runOps s ops).counter t = s.counter t) ∧
      (∀ t, (runOps s ops).untilNext t = s.untilNext t) ∧
      (∀ t, (runOps s ops).channel t = s.channel t) ∧
      (runOps s ops).radioScheduleReady = s.radioScheduleReady ∧
      ((runOps s ops).controlsDirty → ∀ now,
        let released := ((runOps s ops).releaseControls now).2
        let asked := s.pendingRequest.afterAll s.mac ops
        released.syncRole.toNat = asked.role ∧ released.forcedSync = asked.forced ∧
          released.ownSequence = asked.sequence ∧ validSequence released.ownSequence ∧
          released.ownPresence.toNat = released.ownSequence.step.toNat + 1) := by
  have hinv := h.inv
  have hedit := HeldEdit.runOps hheld hm ops hops
  have hreq := State.pendingRequest_runOps hinv hheld hm ops hops
  have hinv' := hinv.runOps ops
  have hheld' : (runOps s ops).controlsHeld := hedit.flags.2.1.trans hheld
  obtain ⟨heff, hcounter, huntil, hchannel, hready⟩ := hedit.schedule
  refine ⟨heff, hcounter, huntil, hchannel, hready, ?_⟩
  intro hdirty now
  have hinst := Installed.releaseControls hinv' hheld' hdirty now
  have hplan := hinv'.pendingPlan hheld'
  dsimp only
  rw [← hreq, hinst.role, hinst.forced, hinst.sequence, hinst.presence]
  exact ⟨rfl, rfl, rfl, hplan.valid, hplan.toNat_presence⟩

/-- Inside a window station A is asked for another role, another plan and another parent. -/
def windowRequests : List (ℕ × Op) :=
  [(163841, .setSyncRole 2 stationB), (163842, .setSequence { samplePlan with step := 3 }),
    (163843, .selectNativeParent stationC none false), (163844, .setPresence 8),
    (170000, .receiveAction (beacon stationC 5 81920 170000))]

theorem hold_isolation_windowRequests :
    let held := followerB.holdControls
    (runOps held windowRequests).effective = held.effective ∧
      ((runOps held windowRequests).releaseControls 180000).2.syncRole.toNat = 2 ∧
      ((runOps held windowRequests).releaseControls 180000).2.ownSequence =
        { samplePlan with step := 7 } := by
  intro held
  have hreach : Reachable held := .step followerB_reachable.reachable .holdControls 163840
  obtain ⟨heff, -, -, -, -, hrelease⟩ := hold_isolation hreach (by decide +kernel)
    (by decide +kernel) windowRequests (by decide +kernel)
  obtain ⟨hrole, -, hseq, -⟩ := hrelease (by decide +kernel) 180000
  refine ⟨heff, hrole.trans ?_, hseq.trans ?_⟩
  · decide +kernel
  · decide +kernel

end AirportAwdl.Election
