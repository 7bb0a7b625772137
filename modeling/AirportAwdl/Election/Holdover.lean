import AirportAwdl.Election.Rollback

/-!
# Holdover of a validated native clock

Once the clock of the selected parent is validated, frames and elections keep it driving the
radio: a lost parent, a foreign root or a discontinuous sample turns synchronization into
holdover, a fresh aligned sample turns it back, and no exit of `elect` leaves both flags clear.
Control calls only ever withdraw the clock's flags (`Withdraws`), so both flags are never set
together in any run.
-/

namespace AirportAwdl.Election

open ByteBuffer

variable {s s' : State} {now : ℕ}

/-- Frames and elections at nondecreasing times, each of which met `ok` where it happened. -/
inductive RadioRun (ok : State → ℕ → Op → Prop) (s : State) (start : ℕ) : State → ℕ → Prop
  | refl : RadioRun ok s start s start
  | step {s' : State} {last : ℕ} (h : RadioRun ok s start s' last) {op : Op} (hop : op.isRadio)
      {t : ℕ} (hle : last ≤ t) (hok : ok s' t op) : RadioRun ok s start (op.apply s' t) t

/-- What the start has and every step keeps holds in the whole run. -/
lemma RadioRun.invariant {ok : State → ℕ → Op → Prop} {start last : ℕ}
    {P : State → ℕ → Prop} (h : RadioRun ok s start s' last) (hstart : P s start)
    (hstep : ∀ {r : State} {k t : ℕ} {op : Op}, P r k → op.isRadio → k ≤ t → ok r t op →
      P (op.apply r t) t) : P s' last := by
  induction h with
  | refl => exact hstart
  | step _ hop hle hok ih => exact hstep ih hop hle hok

/-- A control call leaves the table alone and at most withdraws the clock's flags. -/
structure Withdraws (s s' : State) : Prop where
  peers : s'.peers = s.peers
  clock : (s'.nativeClockSelected = s.nativeClockSelected ∧
    s'.nativeClockValidated = s.nativeClockValidated) ∨ s'.nativeClockValidated = false
  synchronized : s'.synchronized → s.synchronized
  holdover : s'.nativeClockHoldover → s.nativeClockHoldover

namespace Withdraws

/-- The fields a call has to keep to withdraw nothing. -/
def fields (s : State) :=
  (s.peers, s.nativeClockSelected, s.nativeClockValidated, s.synchronized, s.nativeClockHoldover)

lemma of_fields (e : fields s' = fields s) : Withdraws s s' := by
  simp only [fields, Prod.mk.injEq] at e
  obtain ⟨hp, hsel, hval, hsync, hhold⟩ := e
  exact ⟨hp, .inl ⟨hsel, hval⟩, fun h => hsync ▸ h, fun h => hhold ▸ h⟩

lemma refl (s : State) : Withdraws s s := of_fields rfl

lemma trans {s'' : State} (h : Withdraws s s') (h' : Withdraws s' s'') : Withdraws s s'' := by
  refine ⟨h'.peers.trans h.peers, ?_, fun hs => h.synchronized (h'.synchronized hs),
    fun hs => h.holdover (h'.holdover hs)⟩
  grind [h'.clock, h.clock]

lemma false_imp {p : Prop} : (false = true) → p := fun h => by cases h

lemma setSyncRole (s : State) (role : ℕ) (address : Mac) :
    Withdraws s (s.setSyncRole role address).2 := by
  unfold State.setSyncRole
  split_ifs
  · exact refl s
  · exact of_fields rfl
  · exact refl s
  · exact refl s
  · exact ⟨rfl, .inl ⟨rfl, rfl⟩, false_imp, false_imp⟩

lemma setPresence (s : State) (value : UInt8) (now : ℕ) :
    Withdraws s (s.setPresence value now).2 := by
  unfold State.setPresence
  split_ifs
  · exact refl s
  · exact of_fields rfl
  · exact refl s
  · unfold State.applyPresence
    dsimp only
    split <;> exact of_fields rfl

lemma setSequence (s : State) (value : Sequence) (now : ℕ) :
    Withdraws s (s.setSequence value now).2 := by
  unfold State.setSequence
  split_ifs
  · exact refl s
  · exact of_fields rfl
  · exact refl s
  · have hown : Withdraws s { s with ownSequence := value } := of_fields rfl
    exact (hown.trans (setPresence _ (value.step + 1) now)).trans (of_fields rfl)

lemma setSocialChannel (s : State) (index : ℕ) (channel : UInt8) (now : ℕ) :
    Withdraws s (s.setSocialChannel index channel now) :=
  State.setSocialChannel_keeps (refl s) (setSequence s · now) index channel

lemma holdControls (s : State) : Withdraws s s.holdControls := by
  unfold State.holdControls
  split
  · exact refl s
  · exact of_fields rfl

lemma selectNativeParent (s : State) (address : Mac) (root : Option Mac) (acquire : Bool) :
    Withdraws s (s.selectNativeParent address root acquire) := by
  unfold State.selectNativeParent
  extract_lets n
  split
  · split <;> exact of_fields rfl
  · refine ⟨rfl, .inl ⟨rfl, rfl⟩, id, fun h => ?_⟩
    split at h
    · exact false_imp h
    · exact h

lemma clearNativeParent (s : State) : Withdraws s s.clearNativeParent := by
  unfold State.clearNativeParent
  extract_lets n
  split
  · split <;> exact of_fields rfl
  · exact ⟨rfl, .inr rfl, false_imp, false_imp⟩

lemma commitControls (s : State) (now : ℕ) : Withdraws s (s.commitControls now) := by
  have hd : Withdraws s s.discardControls := of_fields rfl
  have hplan : Withdraws s (s.committedPlan now) :=
    (hd.trans (setSyncRole _ _ _)).trans (setSequence _ _ now)
  have hreq : Withdraws s (s.committedRequests now) := hplan.trans (of_fields rfl)
  rw [State.commitControls_eq]
  split_ifs
  · exact hreq.trans (clearNativeParent _)
  · exact hreq
  · exact hd

end Withdraws

/-- Every operation withdraws at most, then possibly elects, with the table refreshed by a
received frame. -/
lemma Op.apply_withdraws (op : Op) (s : State) (now : ℕ) :
    Withdraws s (op.apply s now) ∨ (∃ s₁, Withdraws s s₁ ∧ op.apply s now = s₁.elect now) ∨
      ∃ f, op = .receiveAction f := by
  cases op with
  | receiveAction f => exact .inr (.inr ⟨f, rfl⟩)
  | elect => exact .inr (.inl ⟨s, .refl s, rfl⟩)
  | setSyncRole role address => exact .inl (.setSyncRole s role address)
  | setPresence value => exact .inl (.setPresence s value now)
  | setSequence value => exact .inl (.setSequence s value now)
  | setSocialChannel index channel => exact .inl (.setSocialChannel s index channel now)
  | holdControls => exact .inl (.holdControls s)
  | releaseControls =>
    simp only [Op.apply, State.releaseControls]
    split
    · exact .inl (.refl s)
    · exact .inr (.inl ⟨_, .commitControls s now, rfl⟩)
  | discardControls => exact .inl (.of_fields rfl)
  | selectNativeParent address root acquire =>
    exact .inl (.selectNativeParent s address root acquire)
  | clearNativeParent => exact .inl (.clearNativeParent s)
  | holdClock deadline => exact .inl (.of_fields rfl)
  | startTimeline => exact .inl (.of_fields rfl)
  | nextFrame => exact .inl (.of_fields rfl)

/-- A validated clock is a selected one, and a clock in holdover is not synchronized. -/
structure ClockFlags (s : State) : Prop where
  selected : s.nativeClockValidated → s.nativeClockSelected
  exclusive : s.synchronized → s.nativeClockHoldover = false

namespace ClockFlags

lemma withdraws (h : ClockFlags s) (hw : Withdraws s s') : ClockFlags s' := by
  refine ⟨fun hv => ?_, fun hs => ?_⟩
  · rcases hw.clock with ⟨hsel, hval⟩ | hval
    · exact hsel.trans (h.selected (hval ▸ hv))
    · exact Withdraws.false_imp (hval ▸ hv)
  · by_contra hhold
    have := h.exclusive (hw.synchronized hs)
    exact Bool.false_ne_true (this.symm.trans (hw.holdover (by simpa using hhold)))

lemma loseParent (h : ClockFlags s) : ClockFlags s.loseParent := by
  unfold State.loseParent
  split
  · exact ⟨h.selected, Withdraws.false_imp⟩
  · exact ⟨h.selected, Withdraws.false_imp⟩

lemma bindPeer (h : ClockFlags s) (p : Peer) : ClockFlags (s.bindPeer p) := by
  refine ⟨fun hv => ?_, fun hs => ?_⟩
  · grind [State.bindPeer, h.selected]
  · simpa [State.bindPeer] using hs

lemma acquireClock (h : ClockFlags s) (hsel : s.nativeElectionManaged → s.nativeClockSelected)
    (p : Peer) : ClockFlags (s.acquireClock p) := by
  unfold State.acquireClock
  extract_lets n
  split
  · rename_i hm
    exact ⟨fun _ => hsel hm, fun _ => rfl⟩
  · exact ⟨h.selected, h.exclusive⟩

lemma slewClock (h : ClockFlags s) (c : ℤ) (now : ℕ) : ClockFlags (s.slewClock c now) := by
  obtain ⟨_, _, _, heq⟩ := s.slewClock_eq c now
  rw [heq]
  exact ⟨h.selected, h.exclusive⟩

lemma trackClock (h : ClockFlags s) (hsel : s.nativeElectionManaged → s.nativeClockSelected)
    (p : Peer) (now : ℕ) : ClockFlags (s.trackClock p now) := by
  have hval : ClockFlags s.validateSample := by
    unfold State.validateSample
    split
    · rename_i hm
      exact ⟨fun _ => hsel hm, fun _ => rfl⟩
    · exact h
  unfold State.trackClock
  dsimp only
  split_ifs
  · exact ⟨h.selected, Withdraws.false_imp⟩
  · exact ⟨hval.selected, hval.exclusive⟩
  · have hsampled : ClockFlags { s.validateSample with clockSampleAt := p.seen } :=
      ⟨hval.selected, hval.exclusive⟩
    exact hsampled.slewClock _ now

lemma followPeer (h : ClockFlags s) (p : Peer) (now : ℕ) : ClockFlags (s.followPeer p now) := by
  have hsel : (s.bindPeer p).nativeElectionManaged → (s.bindPeer p).nativeClockSelected :=
    fun hm => State.selected_bindPeer (s := s) hm p
  unfold State.followPeer
  split_ifs
  · exact h
  · exact ⟨h.selected, Withdraws.false_imp⟩
  · exact ⟨h.selected, h.exclusive⟩
  · exact (h.bindPeer p).acquireClock hsel p
  · exact (h.bindPeer p).trackClock hsel p now
  · exact h.bindPeer p

lemma elect (h : ClockFlags s) (now : ℕ) : ClockFlags (s.elect now) := by
  have hstep := s.elect_step now
  generalize s.elect now = s' at hstep ⊢
  have hfresh : ClockFlags (s.refreshed now) := by
    obtain ⟨_, _, _, heq⟩ := s.refreshed_eq now
    rw [heq]
    exact ⟨h.selected, h.exclusive⟩
  cases hstep with
  | held _ => exact h
  | unselected _ _ _ =>
    obtain ⟨_, _, hadv⟩ := s.advanceElection_eq now
    rw [hadv]
    exact ⟨h.selected, h.exclusive⟩
  | lost _ _ => exact hfresh.loseParent
  | @follow _ _ p _ => exact hfresh.followPeer p now

lemma apply (h : ClockFlags s) (op : Op) (now : ℕ) : ClockFlags (op.apply s now) := by
  rcases op.apply_withdraws s now with hw | ⟨s₁, hw, heq⟩ | ⟨f, rfl⟩
  · exact h.withdraws hw
  · rw [heq]
    exact (h.withdraws hw).elect now
  · exact State.receiveAction_keeps h fun _ _ _ =>
      elect (s := s.storePeer _ _) ⟨h.selected, h.exclusive⟩ now

end ClockFlags

lemma Reachable.clockFlags (h : Reachable s) : ClockFlags s := by
  induction h with
  | init h =>
    unfold State.init at h
    split at h
    · cases h
    · cases h
      exact ⟨Withdraws.false_imp, Withdraws.false_imp⟩
  | step _ op now ih => exact ih.apply op now

lemma State.acquireClock_managed (hm : s.nativeElectionManaged) (p : Peer) :
    s.acquireClock p =
      { s with
        clockHoldUntil := 0
        epoch := p.epoch
        baseCounter := p.baseCounter
        clockSampleAt := p.seen
        nativeClockValidated := true
        nativeClockAcquisitionPending := false
        clockSampleRejected := false
        nativeClockHoldover := false
        synchronized := true
        nativeClockAcquisitions := s.nativeClockAcquisitions + 1 } :=
  if_pos hm

/-- The engine follows the clock of native's parent, or holds it over. -/
structure FollowsParent (s : State) : Prop where
  managed : s.nativeElectionManaged
  parentSelected : s.nativeParentSelected
  selected : s.nativeClockSelected
  parent : s.clockParent = s.nativeParent
  running : s.syncRole = 2 → s.synchronized ∨ s.nativeClockHoldover

/-- Besides, that clock is validated, which is what readiness in holdover asks for. -/
structure DrivesRadio (s : State) : Prop extends FollowsParent s where
  validated : s.nativeClockValidated

namespace DrivesRadio

lemma ready (h : DrivesRadio s) : s.radioScheduleReady := by
  by_cases hrole : s.syncRole = 2
  · rcases h.running hrole with hs | hs
    · simp [State.radioScheduleReady, hs]
    · simp [State.radioScheduleReady, hs, h.managed, h.selected, h.validated, h.parentSelected,
        h.parent]
  · simp [State.radioScheduleReady, hrole]

lemma loseParent (h : DrivesRadio s) : DrivesRadio s.loseParent := by
  unfold State.loseParent
  split
  · exact { h with running := fun _ => .inr rfl }
  · rename_i hno
    refine { h with running := fun hrole => absurd ?_ hno }
    have hrole' : s.syncRole = 2 := hrole
    simp [State.holdsNativeClock, h.managed, h.selected, h.validated, h.parentSelected, h.parent,
      hrole']

lemma bindPeer (h : DrivesRadio s) {p : Peer} (hp : p.mac = s.nativeParent) :
    FollowsParent (s.bindPeer p) := by
  refine ⟨h.managed, h.parentSelected, State.selected_bindPeer h.managed p, ?_, fun _ => ?_⟩
  · simp only [State.bindPeer]
    split
    · exact hp
    · exact h.parent
  · simp only [State.bindPeer]
    grind

lemma bindPeer_same (h : DrivesRadio s) {p : Peer} (hp : p.mac = s.nativeParent)
    (hsame : s.sameClock p) : DrivesRadio (s.bindPeer p) := by
  refine { h.bindPeer hp with validated := ?_ }
  simp [State.bindPeer, hsame, h.validated]

lemma slewClock (h : DrivesRadio s) (c : ℤ) (now : ℕ) : DrivesRadio (s.slewClock c now) := by
  obtain ⟨_, _, _, heq⟩ := s.slewClock_eq c now
  rw [heq]
  exact { h with }

lemma trackClock (h : DrivesRadio s) (p : Peer) (now : ℕ) : DrivesRadio (s.trackClock p now) := by
  have hval : DrivesRadio s.validateSample := by
    rw [State.validateSample, if_pos h.managed]
    exact { h with validated := rfl, running := fun _ => .inl rfl }
  unfold State.trackClock
  dsimp only
  split_ifs
  · exact { h with running := fun _ => .inr rfl }
  · exact { hval with }
  · have hsampled : DrivesRadio { s.validateSample with clockSampleAt := p.seen } := { hval with }
    exact hsampled.slewClock _ now

lemma followPeer (h : DrivesRadio s) {p : Peer} (hp : p.mac = s.nativeParent) (now : ℕ) :
    DrivesRadio (s.followPeer p now) := by
  unfold State.followPeer
  split_ifs with hblocked hforeign hdefer hadopt hnewer
  · exact h
  · exact { h with running := fun _ => .inr rfl }
  · exact { h with }
  · have hb := h.bindPeer hp
    rw [State.acquireClock_managed hb.managed]
    exact { hb with validated := rfl, running := fun _ => .inl rfl }
  all_goals
    -- a foreign clock was refused above
    have hsame : s.sameClock p := by
      by_contra hne
      exact hforeign ⟨h.managed, by simpa using hne, by simpa using hadopt⟩
  · exact (h.bindPeer_same hp hsame).trackClock p now
  · exact h.bindPeer_same hp hsame

lemma elect (h : DrivesRadio s) (now : ℕ) : DrivesRadio (s.elect now) := by
  have hstep := s.elect_step now
  generalize s.elect now = s' at hstep ⊢
  obtain ⟨_, _, _, heq⟩ := s.refreshed_eq now
  have hfresh : DrivesRadio (s.refreshed now) := by
    rw [heq]
    exact { h with }
  have hparent : (s.refreshed now).nativeParent = s.nativeParent := by rw [heq]
  cases hstep with
  | held _ => exact h
  | unselected _ _ hp => exact Withdraws.false_imp (hp ▸ h.parentSelected)
  | lost _ _ => exact hfresh.loseParent
  | @follow _ _ p hc => exact hfresh.followPeer ((hc.parent h.managed).trans hparent.symm) now

lemma apply (h : DrivesRadio s) {op : Op} (hop : op.isRadio) (now : ℕ) :
    DrivesRadio (op.apply s now) := by
  cases op with
  | receiveAction f =>
    exact State.receiveAction_keeps h fun _ _ _ => elect (s := s.storePeer _ _) { h with } now
  | elect => exact h.elect now
  | _ => cases hop

end DrivesRadio

/-- The radio changes no control. -/
lemma Op.controlFields_apply {op : Op} (hop : op.isRadio) (s : State) (now : ℕ) :
    (op.apply s now).controlFields = s.controlFields := by
  cases op with
  | receiveAction f => exact s.controlFields_receiveAction f now
  | elect => exact s.controlFields_elect now
  | _ => cases hop

/-- However frames and elections go on, a ready schedule on the validated clock of the selected
parent stays ready on that parent's clock. With role 2 the engine is, at every moment, either
synchronized or in holdover. -/
theorem holdover_keeps_schedule {s : State} (h : Reachable s) (hm : s.nativeElectionManaged)
    (hready : s.radioScheduleReady) (hp : s.nativeParentSelected) (hv : s.nativeClockValidated)
    (hc : s.clockParent = s.nativeParent) {ok : State → ℕ → Op → Prop} {start last : ℕ}
    {s' : State} (hrun : RadioRun ok s start s' last) :
    s'.radioScheduleReady ∧ s'.clockParent = s'.nativeParent ∧
      s'.nativeParent = s.nativeParent ∧
      (s'.syncRole = 2 → s'.synchronized = !s'.nativeClockHoldover) := by
  have hflags := h.clockFlags
  have hrunning : s.syncRole = 2 → s.synchronized ∨ s.nativeClockHoldover := by
    intro hrole
    simp only [State.radioScheduleReady, hrole, bne_self_eq_false, Bool.false_or,
      Bool.or_eq_true, Bool.and_eq_true] at hready
    rcases hready with hs | hs
    · exact .inl hs
    · exact .inr hs.1.1.1.1.1
  have hstart : DrivesRadio s := ⟨⟨hm, hp, hflags.selected hv, hc, hrunning⟩, hv⟩
  obtain ⟨hdrives, hflags', hparent⟩ : DrivesRadio s' ∧ ClockFlags s' ∧
      s'.nativeParent = s.nativeParent := by
    refine hrun.invariant (P := fun r _ => DrivesRadio r ∧ ClockFlags r ∧
      r.nativeParent = s.nativeParent) ⟨hstart, hflags, rfl⟩ ?_
    rintro r k t op ⟨hd, hf, hr⟩ hop - -
    have hparent : (op.apply r t).nativeParent = r.nativeParent :=
      congrArg (fun x => x.2.2.2.1) (op.controlFields_apply hop r t)
    exact ⟨hd.apply hop t, hf.apply op t, hparent.trans hr⟩
  refine ⟨hdrives.ready, hdrives.parent, hparent, fun hrole => ?_⟩
  rcases hdrives.running hrole with hs | hs
  · rw [hs, hflags'.exclusive hs, Bool.not_false]
  · rw [hs, Bool.not_true]
    by_contra hsync
    exact Bool.false_ne_true ((hflags'.exclusive (by simpa using hsync)).symm.trans hs)

/-- The follower of station B with the role that follows B only. -/
def boundToB : State :=
  runOps followerB [(163840, .setSyncRole 2 stationB), (163840, .elect)]

/-- Its schedule survives the expiry of B's observation, in holdover. -/
theorem holdover_keeps_schedule_boundToB :
    let s' := Op.elect.apply (Op.elect.apply boundToB 5000000) 6000000
    s'.radioScheduleReady ∧ s'.clockParent = s'.nativeParent ∧
      s'.nativeParent = boundToB.nativeParent ∧
      (s'.syncRole = 2 → s'.synchronized = !s'.nativeClockHoldover) ∧ s'.nativeClockHoldover := by
  have hreach : Reachable boundToB :=
    (followerB_reachable.runOps [(163840, .setSyncRole 2 stationB), (163840, .elect)]
      (by decide +kernel)).reachable
  have hrun : RadioRun (fun _ _ _ => True) boundToB 163840
      (Op.elect.apply (Op.elect.apply boundToB 5000000) 6000000) 6000000 :=
    .step (.step .refl rfl (by decide) trivial) rfl (by decide) trivial
  have h := holdover_keeps_schedule hreach (by decide +kernel) (by decide +kernel)
    (by decide +kernel) (by decide +kernel) (by decide +kernel) hrun
  exact ⟨h.1, h.2.1, h.2.2.1, h.2.2.2, by decide +kernel⟩

end AirportAwdl.Election
