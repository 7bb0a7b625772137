import AirportAwdl.Election.Wire

/-!
# Representation invariant of the election engine

`Inv` is what every public operation keeps, at any times: a valid effective and a valid
requested plan, unicast tree addresses, a bounded distance, a role that passes its own
check, and a peer table with distinct, checked entries. `ElectStep` says once what an
election can do; every later fact about `elect` starts from it.
-/

namespace AirportAwdl.Election

open ByteBuffer

lemma validPresence_iff (n : ℕ) :
    validPresence n ↔ n = 1 ∨ n = 2 ∨ n = 4 ∨ n = 8 ∨ n = 16 := by
  constructor
  · intro h
    have hle : n ≤ 16 := by
      simp only [validPresence, Bool.and_eq_true, decide_eq_true_eq] at h
      exact h.1.2
    interval_cases n <;> revert h <;> decide
  · rintro (rfl | rfl | rfl | rfl | rfl) <;> rfl

lemma validPresence_dvd {n : ℕ} (h : validPresence n) : n ∣ 65536 := by
  rcases (validPresence_iff n).mp h with rfl | rfl | rfl | rfl | rfl <;> decide

lemma validPresence_pos {n : ℕ} (h : validPresence n) : 0 < n := by
  rcases (validPresence_iff n).mp h with rfl | rfl | rfl | rfl | rfl <;> decide

lemma validSequence_iff (s : Sequence) :
    validSequence s ↔ s.count = 16 ∧ validPresence (s.step.toNat + 1) ∧
      ∀ i : Fin 16, s.channels[i] ≤ 196 := by
  simp only [validSequence, Bool.and_eq_true, beq_iff_eq, List.all_eq_true, decide_eq_true_eq,
    and_assoc]
  refine and_congr_right fun _ => and_congr_right fun _ => ⟨fun h i => ?_, fun h x hx => ?_⟩
  · exact h _ (by simp)
  · obtain ⟨i, hi, rfl⟩ := List.mem_iff_getElem.mp hx
    simpa using h ⟨i, by simpa using hi⟩

/-- A valid sequence together with the presence it implies. -/
structure PlanOk (sequence : Sequence) (presence : UInt8) : Prop where
  valid : validSequence sequence
  presence_eq : presence = sequence.step + 1

namespace PlanOk

variable {sequence : Sequence} {presence : UInt8}

lemma validPresence_step (h : PlanOk sequence presence) :
    validPresence (sequence.step.toNat + 1) := ((validSequence_iff _).mp h.valid).2.1

lemma toNat_presence (h : PlanOk sequence presence) :
    presence.toNat = sequence.step.toNat + 1 := by
  have hstep := (validPresence_iff _).mp h.validPresence_step
  rw [h.presence_eq, UInt8.toNat_add]
  simp only [UInt8.reduceToNat]
  omega

lemma of_toNat (hvalid : validSequence sequence)
    (h : presence.toNat = sequence.step.toNat + 1) : PlanOk sequence presence := by
  refine ⟨hvalid, UInt8.toNat_inj.mp ?_⟩
  have hlt := presence.toNat_lt
  rw [UInt8.toNat_add, h]
  simp only [UInt8.reduceToNat]
  omega

lemma validPresence_presence (h : PlanOk sequence presence) : validPresence presence.toNat := by
  rw [h.toNat_presence]
  exact h.validPresence_step

lemma of_valid (h : validSequence sequence) : PlanOk sequence (sequence.step + 1) := ⟨h, rfl⟩

lemma withPresence (h : PlanOk sequence presence) {value : UInt8}
    (hv : validPresence value.toNat) : PlanOk { sequence with step := value - 1 } value := by
  obtain ⟨hcount, -, hch⟩ := (validSequence_iff _).mp h.valid
  have hcases := (validPresence_iff _).mp hv
  have hone : (1 : UInt8) ≤ value := by
    rw [UInt8.le_iff_toNat_le]
    simp only [UInt8.reduceToNat]
    omega
  have hsub : (value - 1).toNat + 1 = value.toNat := by
    rw [UInt8.toNat_sub_of_le _ _ hone]
    simp only [UInt8.reduceToNat]
    omega
  refine ⟨(validSequence_iff _).mpr ⟨hcount, ?_, hch⟩, ?_⟩
  · simpa only [hsub] using hv
  · exact (UInt8.sub_add_cancel value 1).symm

end PlanOk

/-- A table entry as `receiveAction` leaves it. -/
structure PeerOk (mac : Mac) (p : Peer) : Prop where
  unicast_mac : unicast p.mac
  foreign : p.mac ≠ mac
  plan : PlanOk p.advertisement.sequence p.advertisement.presence
  unicast_master : unicast p.advertisement.master
  epoch_le : p.epoch ≤ p.seen

/-- Used entries are checked and have distinct addresses. -/
structure TableOk (mac : Mac) (peers : Vector Peer 16) : Prop where
  entry : ∀ i : Fin 16, peers[i].used → PeerOk mac peers[i]
  distinct : ∀ i j : Fin 16, peers[i].used → peers[j].used → peers[i].mac = peers[j].mac → i = j

/-- What every operation keeps, at any times. -/
structure Inv (s : State) : Prop where
  unicast_mac : unicast s.mac
  plan : PlanOk s.sequence s.presence
  ownPlan : PlanOk s.ownSequence s.ownPresence
  pendingPlan : s.controlsHeld → PlanOk s.pendingControls.sequence s.pendingControls.presence
  role : State.roleAccepted s.mac s.nativeElectionManaged s.syncRole.toNat s.forcedSync
  pendingRole : s.controlsHeld → State.roleAccepted s.mac s.nativeElectionManaged
    s.pendingControls.role.toNat s.pendingControls.forced
  unicast_master : unicast s.master
  unicast_sync : unicast s.sync
  distance_le : s.distance ≤ 10
  clock : s.nativeClockSelected → unicast s.clockParent ∧ unicast s.clockRoot
  table : TableOk s.mac s.peers
  psf : s.psfPeriod ≠ 0 ∧ s.psfPeriod ≤ 4096

namespace State

variable {s : State} {now : ℕ}

lemma expirePeer_used {p : Peer} (h : (expirePeer now p).used) :
    p.used ∧ p.seen ≤ now ∧ now - p.seen ≤ peerLifetimeUs ∧ expirePeer now p = p := by
  unfold expirePeer at h ⊢
  grind

lemma scanFold_spec (s : State) (now : ℕ) :
    ∀ (l : List (Fin 16)) (acc : Vector Peer 16 × Option (Fin 16)), l.Nodup →
      (∀ i, acc.2 = some i → i ∉ l ∧ s.eligible acc.1[i] ∧
        (s.nativeElectionManaged → acc.1[i].mac = s.nativeParent)) →
      (∀ i : Fin 16, (l.foldl (s.scanStep now) acc).1[i] =
        if i ∈ l then expirePeer now acc.1[i] else acc.1[i]) ∧
      (∀ i, (l.foldl (s.scanStep now) acc).2 = some i →
        s.eligible (l.foldl (s.scanStep now) acc).1[i] ∧
        (s.nativeElectionManaged → (l.foldl (s.scanStep now) acc).1[i].mac = s.nativeParent)) := by
  intro l
  induction l with
  | nil =>
    intro acc _ hbest
    exact ⟨fun i => by simp, fun i hi => (hbest i hi).2⟩
  | cons k l ih =>
    intro acc hnd hbest
    obtain ⟨hk, hnd'⟩ := List.nodup_cons.mp hnd
    -- one step only touches entry `k`
    have hset : ∀ i : Fin 16, (s.scanStep now acc k).1[i] =
        if i = k then expirePeer now acc.1[k] else acc.1[i] := by
      intro i
      have hfst : (s.scanStep now acc k).1 = acc.1.put k (expirePeer now acc.1[k]) := by
        grind [scanStep]
      rw [hfst, Vector.getElem_put]
    have hstep : ∀ i, (s.scanStep now acc k).2 = some i → i ∉ l ∧
        s.eligible (s.scanStep now acc k).1[i] ∧
        (s.nativeElectionManaged → (s.scanStep now acc k).1[i].mac = s.nativeParent) := by
      intro i hi
      -- either the old best entry or the eligible entry `k`
      have hcase : (acc.2 = some i ∧ i ≠ k) ∨ (i = k ∧ s.eligible (expirePeer now acc.1[k]) ∧
          (s.nativeElectionManaged → (expirePeer now acc.1[k]).mac = s.nativeParent)) := by
        have hold : acc.2 = some i → i ≠ k := fun h hik =>
          (hbest i h).1 (hik ▸ List.mem_cons_self)
        unfold scanStep at hi
        dsimp only at hi
        split_ifs at hi with h1 h2 h3 h4 h5 h6
        · exact Or.inl ⟨hi, hold hi⟩
        · grind
        · exact Or.inl ⟨hi, hold hi⟩
        · grind
        · exact Or.inl ⟨hi, hold hi⟩
        · exact Or.inl ⟨hi, hold hi⟩
        · split at hi
          · grind
          · rename_i best hb
            split_ifs at hi
            · grind
            · rw [← hb] at hi
              exact Or.inl ⟨hi, hold hi⟩
      rcases hcase with ⟨hold, hne⟩ | ⟨rfl, hel, hmac⟩
      · obtain ⟨hnot, hel, hmac⟩ := hbest i hold
        rw [hset i, if_neg hne]
        exact ⟨fun h => hnot (List.mem_cons_of_mem _ h), hel, hmac⟩
      · rw [hset i, if_pos rfl]
        exact ⟨hk, hel, hmac⟩
    obtain ⟨hfst, hsnd⟩ := ih (s.scanStep now acc k) hnd' hstep
    refine ⟨fun i => ?_, hsnd⟩
    rw [List.foldl_cons, hfst i, hset i]
    by_cases hik : i = k
    · subst hik
      rw [if_neg hk, if_pos rfl, if_pos List.mem_cons_self]
    · simp only [List.mem_cons, hik, false_or, if_false]

lemma scanPeers_getElem (s : State) (now : ℕ) (i : Fin 16) :
    (s.scanPeers now).1[i] = expirePeer now s.peers[i] := by
  have h := (scanFold_spec s now (List.finRange 16) (s.peers, none) (List.nodup_finRange 16)
    (by simp)).1 i
  rw [if_pos (List.mem_finRange i)] at h
  exact h

lemma scanPeers_best {i : Fin 16} (h : (s.scanPeers now).2 = some i) :
    s.eligible (s.scanPeers now).1[i] ∧
      (s.nativeElectionManaged → (s.scanPeers now).1[i].mac = s.nativeParent) :=
  (scanFold_spec s now (List.finRange 16) (s.peers, none) (List.nodup_finRange 16)
    (by simp)).2 i h

/-- The state `elect` works on after its counter and its table scan. -/
def refreshed (s : State) (now : ℕ) : State :=
  { s.advanceElection now with peers := ((s.advanceElection now).scanPeers now).1 }

lemma advanceElection_eq (s : State) (now : ℕ) : ∃ (counter : UInt32) (epoch : ℕ),
    s.advanceElection now = { s with selfCounter := counter, electionEpoch := epoch } := by
  unfold advanceElection
  split
  · exact ⟨_, _, rfl⟩
  · exact ⟨_, _, rfl⟩

lemma refreshed_eq (s : State) (now : ℕ) :
    ∃ (counter : UInt32) (epoch : ℕ) (peers : Vector Peer 16), s.refreshed now =
      { s with selfCounter := counter, electionEpoch := epoch, peers := peers } := by
  obtain ⟨counter, epoch, hadv⟩ := s.advanceElection_eq now
  exact ⟨counter, epoch, ((s.advanceElection now).scanPeers now).1, by rw [refreshed, hadv]⟩

lemma refreshed_getElem (s : State) (now : ℕ) (i : Fin 16) :
    (s.refreshed now).peers[i] = expirePeer now s.peers[i] := by
  have hadv : (s.advanceElection now).peers = s.peers := by
    obtain ⟨_, _, hadv⟩ := s.advanceElection_eq now
    rw [hadv]
  rw [refreshed, scanPeers_getElem, hadv]

/-- A peer the scan may return: a live entry of the table that is eligible and, for native,
the selected parent. -/
structure Candidate (s : State) (now : ℕ) (p : Peer) : Prop where
  entry : ∃ i : Fin 16, s.peers[i] = p
  used : p.used
  seen_le : p.seen ≤ now
  fresh : now - p.seen ≤ peerLifetimeUs
  distance_lt : p.advertisement.distance < 10
  notLeaf : s.syncRole ≠ 3
  parent : s.nativeElectionManaged → p.mac = s.nativeParent

/-- The outcomes of `elect`. -/
inductive ElectStep (s : State) (now : ℕ) : State → Prop
  | held (h : s.controlsHeld) : ElectStep s now s
  | unselected (h : s.controlsHeld = false) (hm : s.nativeElectionManaged)
      (hp : s.nativeParentSelected = false) : ElectStep s now (s.advanceElection now)
  | lost (h : s.controlsHeld = false) (hp : s.nativeElectionManaged → s.nativeParentSelected) :
      ElectStep s now (s.refreshed now).loseParent
  | follow (h : s.controlsHeld = false) (hp : s.nativeElectionManaged → s.nativeParentSelected)
      {p : Peer} (hc : s.Candidate now p) : ElectStep s now ((s.refreshed now).followPeer p now)

lemma candidate_of_best {best : Fin 16}
    (h : ((s.advanceElection now).scanPeers now).2 = some best) :
    s.Candidate now ((s.advanceElection now).scanPeers now).1[best] := by
  obtain ⟨hel, hmac⟩ := scanPeers_best h
  simp only [eligible, Bool.and_eq_true, decide_eq_true_eq, bne_iff_ne] at hel
  obtain ⟨⟨⟨⟨hused, -⟩, hdist⟩, -⟩, hrole⟩ := hel
  have hget := scanPeers_getElem (s.advanceElection now) now best
  obtain ⟨-, hseen, hfresh, hsame⟩ := expirePeer_used (hget ▸ hused)
  rw [← hget] at hsame
  rw [← hsame] at hseen hfresh
  obtain ⟨counter, epoch, hadv⟩ := s.advanceElection_eq now
  have hpeers : (s.advanceElection now).peers = s.peers := by rw [hadv]
  have hmanaged : (s.advanceElection now).nativeElectionManaged = s.nativeElectionManaged := by
    rw [hadv]
  have hparent : (s.advanceElection now).nativeParent = s.nativeParent := by rw [hadv]
  have hsync : (s.advanceElection now).syncRole = s.syncRole := by rw [hadv]
  rw [hpeers] at hsame
  rw [hmanaged, hparent] at hmac
  rw [hsync] at hrole
  exact ⟨⟨best, hsame.symm⟩, hused, hseen, hfresh, hdist, hrole, hmac⟩

lemma elect_scanned (hfree : s.controlsHeld = false)
    (hsel : s.nativeElectionManaged → s.nativeParentSelected) (now : ℕ) :
    (((s.advanceElection now).scanPeers now).2 = none ∧
        s.elect now = (s.refreshed now).loseParent) ∨
      ∃ best, ((s.advanceElection now).scanPeers now).2 = some best ∧
        s.elect now =
          (s.refreshed now).followPeer ((s.advanceElection now).scanPeers now).1[best] now := by
  have hskip : ¬ ((s.advanceElection now).nativeElectionManaged = true ∧
      (!(s.advanceElection now).nativeParentSelected) = true) := by
    obtain ⟨_, _, hadv⟩ := s.advanceElection_eq now
    grind
  unfold elect refreshed
  grind

lemma elect_step (s : State) (now : ℕ) : s.ElectStep now (s.elect now) := by
  cases hheld : s.controlsHeld with
  | true =>
    rw [elect, if_pos hheld]
    exact .held hheld
  | false =>
    by_cases hsel : s.nativeElectionManaged → s.nativeParentSelected
    · rcases elect_scanned hheld hsel now with ⟨-, heq⟩ | ⟨best, hbest, heq⟩
      · rw [heq]
        exact .lost hheld hsel
      · rw [heq]
        exact .follow hheld hsel (candidate_of_best hbest)
    · obtain ⟨hm, hp⟩ := Classical.not_imp.mp hsel
      have hp' : s.nativeParentSelected = false := Bool.eq_false_iff.mpr hp
      have heq : s.elect now = s.advanceElection now := by
        obtain ⟨_, _, hadv⟩ := s.advanceElection_eq now
        grind [elect]
      rw [heq]
      exact .unselected hheld hm hp'

/-- The fields that control operations write: requests, effective or pending, and the
transaction that holds them. -/
def controlFields (s : State) :=
  (s.mac, s.nativeElectionManaged, s.nativeParentSelected, s.nativeParent, s.syncRole,
    s.forcedSync, s.ownSequence, s.ownPresence, s.controlsHeld, s.controlsDirty,
    s.pendingControls)

/-- What the parts of `elect` after the scan leave alone: the requests and the table. -/
def electFrame (s : State) := (s.controlFields, s.peers)

lemma electFrame_loseParent (s : State) : s.loseParent.electFrame = s.electFrame := by
  unfold loseParent
  split <;> rfl

lemma slewClock_eq (s : State) (c : ℤ) (now : ℕ) : ∃ (epoch : ℕ) (base : UInt16) (n : ℕ),
    s.slewClock c now = { s with epoch := epoch, baseCounter := base, clockCorrections := n } := by
  unfold slewClock
  extract_lets phase base phase'
  split
  · exact ⟨_, _, _, rfl⟩
  · split
    · exact ⟨_, _, _, rfl⟩
    · exact ⟨_, _, _, rfl⟩

lemma electFrame_slewClock (s : State) (c : ℤ) (now : ℕ) :
    (s.slewClock c now).electFrame = s.electFrame := by
  obtain ⟨_, _, _, heq⟩ := s.slewClock_eq c now
  rw [heq]
  rfl

lemma electFrame_trackClock (s : State) (p : Peer) (now : ℕ) :
    (s.trackClock p now).electFrame = s.electFrame := by
  have hv : s.validateSample.electFrame = s.electFrame := by
    unfold validateSample
    split <;> rfl
  unfold trackClock
  dsimp only
  split_ifs
  · rfl
  · exact hv
  · rw [electFrame_slewClock]
    exact hv

lemma electFrame_followPeer (s : State) (p : Peer) (now : ℕ) :
    (s.followPeer p now).electFrame = s.electFrame := by
  unfold followPeer
  split_ifs
  · rfl
  · rfl
  · rfl
  · unfold acquireClock
    dsimp only
    split <;> rfl
  · exact electFrame_trackClock _ p now
  · rfl

lemma electFrame_elect (s : State) (now : ℕ) :
    (s.elect now).controlFields = s.controlFields ∧
      ∀ i : Fin 16, (s.elect now).peers[i] = s.peers[i] ∨
        (s.elect now).peers[i] = expirePeer now s.peers[i] := by
  have hstep := s.elect_step now
  generalize s.elect now = s' at hstep ⊢
  have hcontrol : (s.refreshed now).controlFields = s.controlFields := by
    obtain ⟨_, _, _, hfresh⟩ := s.refreshed_eq now
    rw [hfresh]
    rfl
  have hscanned : ∀ {s' : State}, s'.electFrame = (s.refreshed now).electFrame →
      s'.controlFields = s.controlFields ∧
        ∀ i : Fin 16, s'.peers[i] = s.peers[i] ∨ s'.peers[i] = expirePeer now s.peers[i] := by
    intro s' h
    obtain ⟨hc, hp⟩ := Prod.mk.inj h
    exact ⟨hc.trans hcontrol, fun i => .inr (by rw [hp, refreshed_getElem])⟩
  cases hstep with
  | held _ => exact ⟨rfl, fun i => .inl rfl⟩
  | unselected _ _ _ =>
    obtain ⟨_, _, hadv⟩ := s.advanceElection_eq now
    rw [hadv]
    exact ⟨rfl, fun i => .inl rfl⟩
  | lost _ _ => exact hscanned (electFrame_loseParent _)
  | follow _ _ _ => exact hscanned (electFrame_followPeer _ _ _)

lemma controlFields_elect (s : State) (now : ℕ) :
    (s.elect now).controlFields = s.controlFields := (s.electFrame_elect now).1

end State

variable {s : State} {now : ℕ} {mac address : Mac}

/-- The fields the invariant reads. -/
def invFields (s : State) :=
  (s.mac, s.sequence, s.presence, s.ownSequence, s.ownPresence, s.controlsHeld, s.pendingControls,
    s.nativeElectionManaged, s.syncRole, s.forcedSync, s.master, s.sync, s.distance,
    s.nativeClockSelected, s.clockParent, s.clockRoot, s.peers, s.psfPeriod)

/-- A step that leaves these fields alone keeps the invariant. -/
lemma Inv.congr {s' : State} (h : Inv s) (e : invFields s' = invFields s) : Inv s' := by
  simp only [invFields, Prod.mk.injEq] at e
  obtain ⟨e1, e2, e3, e4, e5, e6, e7, e8, e9, e10, e11, e12, e13, e14, e15, e16, e17, e18⟩ := e
  refine ⟨?_, ?_, ?_, ?_, ?_, ?_, ?_, ?_, ?_, ?_, ?_, ?_⟩
  · rw [e1]; exact h.unicast_mac
  · rw [e2, e3]; exact h.plan
  · rw [e4, e5]; exact h.ownPlan
  · rw [e6, e7]; exact h.pendingPlan
  · rw [e1, e8, e9, e10]; exact h.role
  · rw [e1, e6, e7, e8]; exact h.pendingRole
  · rw [e11]; exact h.unicast_master
  · rw [e12]; exact h.unicast_sync
  · rw [e13]; exact h.distance_le
  · rw [e14, e15, e16]; exact h.clock
  · rw [e1, e17]; exact h.table
  · rw [e18]; exact h.psf

lemma Inv.advanceElection (h : Inv s) (now : ℕ) : Inv (s.advanceElection now) := by
  refine h.congr ?_
  unfold State.advanceElection
  split <;> rfl

lemma TableOk.scan {s : State} (h : TableOk s.mac s.peers) (now : ℕ) :
    TableOk s.mac (s.scanPeers now).1 := by
  have hlive : ∀ i : Fin 16, (s.scanPeers now).1[i].used →
      s.peers[i].used ∧ (s.scanPeers now).1[i] = s.peers[i] := by
    intro i hi
    rw [State.scanPeers_getElem] at hi ⊢
    exact ⟨(State.expirePeer_used hi).1, (State.expirePeer_used hi).2.2.2⟩
  refine ⟨fun i hi => ?_, fun i j hi hj hmac => ?_⟩
  · rw [(hlive i hi).2]
    exact h.entry i (hlive i hi).1
  grind [h.distinct]

lemma Inv.withPeers (h : Inv s) {peers : Vector Peer 16} (ht : TableOk s.mac peers) :
    Inv { s with peers := peers } :=
  { h with table := ht }

lemma Inv.loseParent (h : Inv s) : Inv s.loseParent := by
  unfold State.loseParent
  split
  · rename_i hold
    simp only [State.holdsNativeClock, Bool.and_eq_true] at hold
    obtain ⟨hparent, hroot⟩ := h.clock hold.1.1.1.1.2
    exact { h with plan := h.ownPlan, unicast_master := hroot, unicast_sync := hparent }
  · refine { h with plan := ?_, unicast_master := h.unicast_mac, unicast_sync := h.unicast_mac,
                    distance_le := UInt32.zero_le }
    cases s.synchronized
    · exact h.plan
    · exact h.ownPlan

lemma Inv.rejectForeign (h : Inv s) (p : Peer) : Inv (s.rejectForeign p) := h.congr rfl

lemma Inv.deferSample (h : Inv s) (p : Peer) : Inv (s.deferSample p) := h.congr rfl

lemma Inv.bindPeer (h : Inv s) {p : Peer} (hp : PeerOk s.mac p)
    (hd : p.advertisement.distance < 10) : Inv (s.bindPeer p) := by
  refine { h with plan := ?_, unicast_master := hp.unicast_master, unicast_sync := hp.unicast_mac,
                  distance_le := ?_, clock := ?_ }
  · simp only [State.bindPeer]
    split
    · exact h.ownPlan
    · exact hp.plan
  · grind [State.bindPeer]
  · simp only [State.bindPeer]
    intro hsel
    by_cases hnew : s.nativeElectionManaged = true ∧ (!s.sameClock p) = true
    · simp only [hnew, and_self, if_true]
      exact ⟨hp.unicast_mac, hp.unicast_master⟩
    · simp only [hnew, if_false] at hsel ⊢
      exact h.clock hsel

lemma Inv.acquireClock (h : Inv s) (p : Peer) : Inv (s.acquireClock p) := by
  refine h.congr ?_
  unfold State.acquireClock
  dsimp only
  split <;> rfl

lemma Inv.slewClock (h : Inv s) (correction : ℤ) (now : ℕ) : Inv (s.slewClock correction now) := by
  obtain ⟨_, _, _, heq⟩ := s.slewClock_eq correction now
  rw [heq]
  exact h.congr rfl

lemma Inv.trackClock (h : Inv s) (p : Peer) (now : ℕ) : Inv (s.trackClock p now) := by
  have hval : Inv s.validateSample := by
    refine h.congr ?_
    unfold State.validateSample
    split <;> rfl
  unfold State.trackClock
  dsimp only
  split_ifs
  · exact h.congr rfl
  · exact hval.deferSample p
  · refine Inv.slewClock ?_ _ _
    exact hval.congr rfl

lemma Inv.followPeer (h : Inv s) {p : Peer} (hp : PeerOk s.mac p)
    (hd : p.advertisement.distance < 10) (now : ℕ) : Inv (s.followPeer p now) := by
  unfold State.followPeer
  split_ifs
  · exact h
  · exact h.rejectForeign p
  · exact h.deferSample p
  · exact (h.bindPeer hp hd).acquireClock p
  · exact (h.bindPeer hp hd).trackClock p now
  · exact h.bindPeer hp hd

/-- An election keeps the invariant. -/
lemma Inv.elect (h : Inv s) (now : ℕ) : Inv (s.elect now) := by
  have hadv := h.advanceElection now
  have hfresh : Inv (s.refreshed now) := hadv.withPeers (hadv.table.scan now)
  have hstep := s.elect_step now
  generalize s.elect now = s' at hstep ⊢
  cases hstep with
  | held _ => exact h
  | unselected _ _ _ => exact hadv
  | lost _ _ => exact hfresh.loseParent
  | @follow _ _ p hc =>
    obtain ⟨i, rfl⟩ := hc.entry
    have hp := h.table.entry i hc.used
    have hmac : (s.refreshed now).mac = s.mac := by
      obtain ⟨_, _, _, heq⟩ := s.refreshed_eq now
      rw [heq]
    exact hfresh.followPeer (hmac ▸ hp) hc.distance_lt now

lemma validPresence_of_bits {v : UInt8} (hne : v ≠ 0) (hle : v ≤ 16) (hpow : v &&& (v - 1) = 0) :
    validPresence v.toNat := by
  have hle' : v.toNat ≤ 16 := UInt8.le_iff_toNat_le.mp hle
  have hv : v = UInt8.ofNat v.toNat := (UInt8.ofNat_toNat).symm
  generalize v.toNat = n at hle' hv ⊢
  subst hv
  interval_cases n <;> revert hne hpow <;> decide

/-- What an accepted advertisement guarantees. -/
structure AdvertisementOk (frame : Bytes) (a : Advertisement) : Prop where
  unicast_source : unicast (macAt frame 10)
  plan : PlanOk a.sequence a.presence
  unicast_master : unicast a.master
  unicast_sync : unicast a.sync
  period_eq : a.period = 16
  down_pos : 0 < a.down.toNat
  down_le : a.down.toNat ≤ a.presence.toNat * 16
  counter_mod : a.counter.toNat % a.presence.toNat = (a.presence.toNat * 16 - a.down.toNat) / 16

lemma parseAdvertisement_ok {frame : Bytes} {a : Advertisement}
    (h : parseAdvertisement frame = some a) : AdvertisementOk frame a := by
  unfold parseAdvertisement at h
  split at h
  · cases h
  · rename_i hframe
    simp only [not_or, ne_eq, not_not, Bool.not_eq_true', Bool.not_eq_false] at hframe
    split at h
    · rename_i m hm
      have hc := decodeSyncAction_checked hm
      split at h
      · cases h
      · rename_i hclock
        simp only [not_or, ne_eq, not_not] at hclock
        obtain ⟨hperiod, hdown, -, hcount⟩ := hclock
        cases h
        have hpres := validPresence_of_bits hc.presence_ne hc.presence_le hc.presence_pow
        have hplan : PlanOk ⟨m.sequence.channel, m.sequence.count, m.sequence.stride - 1⟩
            m.presence := by
          -- the list of the message with the shortest slots is valid, then set its presence
          have hvalid : PlanOk ⟨m.sequence.channel, m.sequence.count, 0⟩ 1 :=
            ⟨(validSequence_iff _).mpr
              ⟨hc.sequence_checked.count_eq, (validPresence_iff 1).mpr (Or.inl rfl),
                hc.sequence_checked.channel_le⟩, rfl⟩
          rw [hc.stride_eq]
          exact hvalid.withPresence hpres
        refine ⟨hframe.2.1, hplan, hc.master_unicast, ?_, hperiod, ?_, ?_, hcount⟩
        · grind [hc.syncAddress_unicast]
        · exact Nat.pos_of_ne_zero fun h0 => hdown (UInt16.toNat_inj.mp h0)
        · have hle := hc.countdown_le
          rw [hperiod] at hle
          grind
    · cases h

lemma AdvertisementOk.peerOk {frame : Bytes} {a : Advertisement} (h : AdvertisementOk frame a)
    (hne : macAt frame 10 ≠ mac) (now : ℕ) :
    PeerOk mac (State.observation (macAt frame 10) a now) :=
  ⟨h.unicast_source, hne, h.plan, h.unicast_master, Nat.sub_le _ _⟩

lemma State.find_none (h : s.find address = none) (i : Fin 16)
    (hu : s.peers[i].used) : s.peers[i].mac ≠ address := by
  have hi := List.find?_eq_none.mp h i (List.mem_finRange i)
  grind

lemma State.find_some {i : Fin 16} (h : s.find address = some i) :
    s.peers[i].used ∧ s.peers[i].mac = address := by
  have hi := List.find?_some h
  simpa using hi

lemma TableOk.store (h : TableOk s.mac s.peers) {p : Peer} {i : Fin 16}
    (hp : PeerOk s.mac p) (hslot : s.peerSlot p.mac now = some i) :
    TableOk s.mac (s.peers.put i p) := by
  -- no other used entry carries the sender's address
  have hother : ∀ j : Fin 16, j ≠ i → s.peers[j].used → s.peers[j].mac ≠ p.mac := by
    intro j hj hu hmac
    unfold State.peerSlot at hslot
    split at hslot
    · rename_i k hk
      cases hslot
      obtain ⟨hku, hkm⟩ := State.find_some hk
      exact hj (h.distinct j i hu hku (hmac.trans hkm.symm))
    · rename_i hnone
      exact State.find_none hnone j hu hmac
  have hget : ∀ j : Fin 16, (s.peers.put i p)[j] = if j = i then p else s.peers[j] :=
    fun j => Vector.getElem_put s.peers i j p
  refine ⟨fun j hj => ?_, fun j k hj hk hmac => ?_⟩
  · rw [hget] at hj ⊢
    by_cases hji : j = i
    · simpa only [hji, if_true] using hp
    · simp only [hji, if_false] at hj ⊢
      exact h.entry j hj
  · rw [hget] at hj hk hmac
    rw [hget] at hmac
    by_cases hji : j = i <;> by_cases hki : k = i
    · rw [hji, hki]
    · grind
    · grind
    · simp only [hji, hki, if_false] at hj hk hmac
      exact h.distinct j k hj hk hmac

/-- The outcomes of `receiveAction`. -/
inductive State.ReceiveStep (s : State) (f : Bytes) (now : ℕ) : Option (Fin 16) × State → Prop
  | refused : s.ReceiveStep f now (none, s)
  | stored {a : Advertisement} {i : Fin 16} (ha : parseAdvertisement f = some a)
      (hne : macAt f 10 ≠ s.mac) (hspent : State.spentUs a ≤ now)
      (hslot : s.peerSlot (macAt f 10) now = some i) :
      s.ReceiveStep f now
        (some i, (s.storePeer i (State.observation (macAt f 10) a now)).elect now)

lemma State.receiveAction_step (s : State) (f : Bytes) (now : ℕ) :
    s.ReceiveStep f now (s.receiveAction f now) := by
  unfold State.receiveAction
  split
  · exact .refused
  · rename_i a ha
    split_ifs with hmac hearly
    · exact .refused
    · exact .refused
    · split
      · exact .refused
      · rename_i i hslot
        exact .stored ha hmac (not_lt.mp hearly) hslot

/-- What holds of the state, and after an observation was stored and an election held, holds after
a frame was received. -/
lemma State.receiveAction_keeps {P : State → Prop} {f : Bytes} (hs : P s)
    (hstored : ∀ {a : Advertisement} {i : Fin 16}, parseAdvertisement f = some a →
      macAt f 10 ≠ s.mac → s.peerSlot (macAt f 10) now = some i →
      P ((s.storePeer i (State.observation (macAt f 10) a now)).elect now)) :
    P (s.receiveAction f now).2 := by
  have hstep := s.receiveAction_step f now
  generalize s.receiveAction f now = r at hstep ⊢
  cases hstep with
  | refused => exact hs
  | stored ha hne _ hslot => exact hstored ha hne hslot

lemma State.controlFields_receiveAction (s : State) (frame : Bytes) (now : ℕ) :
    (s.receiveAction frame now).2.controlFields = s.controlFields :=
  receiveAction_keeps (P := fun t => t.controlFields = s.controlFields) rfl fun _ _ _ =>
    State.controlFields_elect _ now

/-- A received frame, whatever its bytes, keeps the invariant. -/
lemma Inv.receiveAction (h : Inv s) (f : Bytes) (now : ℕ) : Inv (s.receiveAction f now).2 := by
  refine State.receiveAction_keeps h fun ha hne hslot => Inv.elect (h.withPeers ?_) now
  exact h.table.store ((parseAdvertisement_ok ha).peerOk hne now) hslot

lemma State.roleAccepted_native {managed : Bool} {role : ℕ}
    (h : State.roleAccepted mac managed role address) :
    State.roleAccepted mac true role address := by
  unfold State.roleAccepted at h ⊢
  grind

lemma State.roleAccepted_toNat {managed : Bool} {role : ℕ}
    (h : State.roleAccepted mac managed role address) : (UInt8.ofNat role).toNat = role := by
  simp only [State.roleAccepted, Bool.and_eq_true, decide_eq_true_eq] at h
  exact Nat.mod_eq_of_lt (by omega)

lemma Inv.holdControls (h : Inv s) : Inv s.holdControls := by
  unfold State.holdControls
  split
  · exact h
  · exact { h with pendingPlan := fun _ => h.ownPlan, pendingRole := fun _ => h.role }

lemma Inv.discardControls (h : Inv s) : Inv s.discardControls :=
  { h with pendingPlan := nofun, pendingRole := nofun }

lemma Inv.noteAcquisition (h : Inv s) (address : Mac) (root : Option Mac) (acquire : Bool) :
    Inv (s.noteAcquisition address root acquire) :=
  { h with role := State.roleAccepted_native h.role
           pendingRole := fun hh => State.roleAccepted_native (h.pendingRole hh) }

lemma Inv.selectNativeParent (h : Inv s) (address : Mac) (root : Option Mac) (acquire : Bool) :
    Inv (s.selectNativeParent address root acquire) := by
  have hn := h.noteAcquisition address root acquire
  unfold State.selectNativeParent
  dsimp only
  split
  · split
    · exact { hn with }
    · exact hn
  · exact hn.congr rfl

lemma Inv.promoteLocalMaster (h : Inv s) : Inv s.promoteLocalMaster :=
  { h with plan := h.ownPlan, unicast_master := h.unicast_mac, unicast_sync := h.unicast_mac,
           distance_le := UInt32.zero_le, clock := nofun }

lemma Inv.clearNativeParent (h : Inv s) : Inv s.clearNativeParent := by
  have hc : Inv { s with nativeClockAcquisitionPending := false, acquisitionRootKnown := false } :=
    h.congr rfl
  unfold State.clearNativeParent
  dsimp only
  split_ifs
  · exact { h with }
  · exact hc
  · exact hc.promoteLocalMaster

lemma Inv.setSyncRole (h : Inv s) (role : ℕ) (address : Mac) : Inv (s.setSyncRole role address).2 := by
  unfold State.setSyncRole
  split
  · exact h
  · rename_i hacc
    simp only [Bool.not_eq_true', Bool.not_eq_false] at hacc
    have hbyte := State.roleAccepted_toNat hacc
    split_ifs
    · exact { h with pendingRole := fun _ => by simpa only [hbyte] using hacc }
    · exact h
    · exact h
    · exact { h with
        plan := h.ownPlan
        role := by simpa only [State.applySyncRole, State.holdClock, hbyte] using hacc
        unicast_master := h.unicast_mac
        unicast_sync := h.unicast_mac
        distance_le := UInt32.zero_le }

lemma Inv.applyPresence (h : Inv s) {value : UInt8} (hv : validPresence value.toNat) (now : ℕ) :
    Inv (s.applyPresence value now) := by
  unfold State.applyPresence
  dsimp only
  split
  · exact { h with plan := h.plan.withPresence hv, ownPlan := h.ownPlan.withPresence hv }
  · exact { h with ownPlan := h.ownPlan.withPresence hv }

lemma Inv.setPresence (h : Inv s) (value : UInt8) (now : ℕ) : Inv (s.setPresence value now).2 := by
  unfold State.setPresence
  split
  · exact h
  · rename_i hv
    simp only [Bool.not_eq_true', Bool.not_eq_false] at hv
    split_ifs with hheld
    · exact { h with pendingPlan := fun _ => (h.pendingPlan hheld).withPresence hv }
    · exact h
    · exact h.applyPresence hv now

lemma State.applySequence_eq (hfree : s.controlsHeld = false) {value : Sequence}
    (hv : validSequence value) (now : ℕ) :
    s.applySequence value now =
      { (if s.synchronized then s else s.rebaseTimeline now) with
        ownSequence := value
        ownPresence := value.step + 1
        sequence := value
        presence := value.step + 1 } := by
  have hpres := (PlanOk.of_valid hv).validPresence_presence
  have hstep : value.step + 1 - 1 = value.step := UInt8.add_sub_cancel value.step 1
  unfold State.applySequence State.setPresence State.applyPresence
  cases hsync : s.synchronized <;>
    simp only [hpres, hfree, hsync, hstep, Bool.not_true, Bool.not_false, Bool.false_eq_true,
      if_false, if_true, State.rebaseTimeline, State.counter, State.elapsed]

lemma Inv.applySequence (h : Inv s) (hfree : s.controlsHeld = false) {value : Sequence}
    (hv : validSequence value) (now : ℕ) : Inv (s.applySequence value now) := by
  have hplan := PlanOk.of_valid hv
  have hbase : Inv (if s.synchronized then s else s.rebaseTimeline now) := by
    split
    · exact h
    · exact h.congr rfl
  rw [State.applySequence_eq hfree hv]
  exact { hbase with plan := hplan, ownPlan := hplan }

lemma Inv.setSequence (h : Inv s) (value : Sequence) (now : ℕ) :
    Inv (s.setSequence value now).2 := by
  unfold State.setSequence
  split
  · exact h
  · rename_i hv
    simp only [not_or, Bool.not_eq_true', Bool.not_eq_false] at hv
    split
    · split
      · exact { h with pendingPlan := fun _ => PlanOk.of_valid hv.1 }
      · exact h
    · rename_i hfree
      exact h.applySequence (Bool.eq_false_iff.mpr hfree) hv.1 now

/-- What holds of the state, and after any `setSequence`, holds after `setSocialChannel`. -/
lemma State.setSocialChannel_keeps {P : State → Prop} (hs : P s)
    (hset : ∀ value, P (s.setSequence value now).2) (index : ℕ) (channel : UInt8) :
    P (s.setSocialChannel index channel now) := by
  unfold State.setSocialChannel
  extract_lets desired
  split
  · exact hs
  · exact hset _

lemma Inv.setSocialChannel (h : Inv s) (index : ℕ) (channel : UInt8) (now : ℕ) :
    Inv (s.setSocialChannel index channel now) :=
  State.setSocialChannel_keeps h (h.setSequence · now) index channel

/-- The fields of the transaction that the unheld setters leave alone. -/
def State.transaction (s : State) : Mac × Bool × Bool × Controls :=
  (s.mac, s.nativeElectionManaged, s.controlsHeld, s.pendingControls)

lemma State.transaction_setSyncRole (hfree : s.controlsHeld = false) (role : ℕ) (address : Mac) :
    (s.setSyncRole role address).2.transaction = s.transaction := by
  unfold State.setSyncRole
  split_ifs with _ hheld
  · rfl
  · cases hfree.symm.trans hheld
  · cases hfree.symm.trans hheld
  · rfl
  · rfl

lemma State.transaction_setSequence (hfree : s.controlsHeld = false) (value : Sequence) (now : ℕ) :
    (s.setSequence value now).2.transaction = s.transaction := by
  unfold State.setSequence
  split_ifs with hv hheld
  · rfl
  · cases hfree.symm.trans hheld
  · cases hfree.symm.trans hheld
  · simp only [not_or, Bool.not_eq_true', Bool.not_eq_false] at hv
    rw [State.applySequence_eq hfree hv.1]
    split <;> rfl

/-- The live state after a dirty transaction applied its role and its sequence. -/
def State.committedPlan (s : State) (now : ℕ) : State :=
  let r := (s.discardControls.setSyncRole s.pendingControls.role.toNat s.pendingControls.forced).2
  (r.setSequence s.pendingControls.sequence now).2

/-- The live state after it also installed its parent. -/
def State.committedRequests (s : State) (now : ℕ) : State :=
  { s.committedPlan now with
    nativeParent := s.pendingControls.parent
    nativeParentSelected := s.pendingControls.parentSelected }

lemma State.transaction_committedPlan (s : State) (now : ℕ) :
    (s.committedPlan now).transaction = s.discardControls.transaction := by
  have hr : (s.discardControls.setSyncRole _ _).2.transaction = _ :=
    State.transaction_setSyncRole rfl s.pendingControls.role.toNat s.pendingControls.forced
  have hheld := congrArg (fun x => x.2.2.1) hr
  exact (State.transaction_setSequence hheld s.pendingControls.sequence now).trans hr

lemma State.commitControls_eq (s : State) (now : ℕ) :
    s.commitControls now =
      if s.controlsDirty then
        if (s.committedRequests now).nativeElectionManaged ∧ !s.pendingControls.parentSelected then
          (s.committedRequests now).clearNativeParent
        else s.committedRequests now
      else s.discardControls := by
  unfold State.commitControls
  extract_lets changed d r q n
  have hr : r.pendingControls = s.pendingControls :=
    congrArg (fun x => x.2.2.2) (State.transaction_setSyncRole (s := d) rfl _ _)
  have hq : q = s.committedPlan now :=
    congrArg (fun c : Controls => (r.setSequence c.sequence now).2) hr
  have hqp : q.pendingControls = s.pendingControls := by
    rw [hq]
    exact congrArg (fun x => x.2.2.2) (s.transaction_committedPlan now)
  have hn : n = s.committedRequests now := by
    simp only [n, State.committedRequests, ← hq, hqp]
  grind

/-- A transaction that is applied keeps the invariant. -/
lemma Inv.commitControls (h : Inv s) (now : ℕ) : Inv (s.commitControls now) := by
  have hd := h.discardControls
  have hplan : Inv (s.committedPlan now) := (hd.setSyncRole _ _).setSequence _ now
  have hreq : Inv (s.committedRequests now) := hplan.congr rfl
  rw [State.commitControls_eq]
  split_ifs
  · exact hreq.clearNativeParent
  · exact hreq
  · exact hd

lemma Inv.releaseControls (h : Inv s) (now : ℕ) : Inv (s.releaseControls now).2 := by
  unfold State.releaseControls
  split
  · exact h
  · exact (h.commitControls now).elect now

lemma Inv.init {initial : Sequence} {metric : UInt32} {native : Bool}
    (h : State.init address initial now metric native = some s) : Inv s := by
  unfold State.init at h
  split at h
  · cases h
  · rename_i hv
    simp only [not_or, Bool.not_eq_true', Bool.not_eq_false] at hv
    cases h
    have hplan := PlanOk.of_valid hv.2
    refine ⟨hv.1, hplan, hplan, nofun, ?_, nofun, hv.1, hv.1, UInt32.zero_le, nofun, ⟨?_, ?_⟩,
      show (110 : UInt16) ≠ 0 by decide, show (110 : UInt16) ≤ 4096 by decide⟩
    · simp [State.fresh, State.roleAccepted, hv.1]
    · intro i hi
      simp [State.fresh] at hi
    · intro i j hi
      simp [State.fresh] at hi

/-- Every public operation keeps the invariant. -/
lemma Inv.apply (h : Inv s) (op : Op) (now : ℕ) : Inv (op.apply s now) := by
  cases op with
  | receiveAction frame => exact h.receiveAction frame now
  | elect => exact h.elect now
  | setSyncRole role address => exact h.setSyncRole role address
  | setPresence value => exact h.setPresence value now
  | setSequence value => exact h.setSequence value now
  | setSocialChannel index channel => exact h.setSocialChannel index channel now
  | holdControls => exact h.holdControls
  | releaseControls => exact h.releaseControls now
  | discardControls => exact h.discardControls
  | selectNativeParent address root acquire => exact h.selectNativeParent address root acquire
  | clearNativeParent => exact h.clearNativeParent
  | holdClock deadline => exact h.congr rfl
  | startTimeline => exact h.congr rfl
  | nextFrame => exact h.congr rfl

/-- So does every list of them. -/
lemma Inv.runOps (h : Inv s) (ops : List (ℕ × Op)) : Inv (runOps s ops) := by
  induction ops generalizing s with
  | nil => exact h
  | cons step rest ih => exact ih (h.apply step.2 step.1)

/-- The invariant holds in every reachable state. -/
lemma Reachable.inv (h : Reachable s) : Inv s := by
  induction h with
  | init h => exact Inv.init h
  | step _ op now ih => exact ih.apply op now

end AirportAwdl.Election
