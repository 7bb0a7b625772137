import AirportAwdl.Election.Holdover

/-!
# Acquiring the clock native selected

After `selectNativeParent(a, r, acquire)` the engine waits for an observation of `a` that names
the root `r`. Until one is stored, no frame and no election touches the clock or the pending
acquisition (`Seeking`); the first one is taken over as it stands, and from then on only samples
of `a` under `r` move the clock (`Following`).
-/

namespace AirportAwdl.Election

open ByteBuffer

variable {s s' : State} {now t : ℕ} {a r : Mac} {p : Peer}

/-- An observation that has not expired. -/
def Peer.Live (p : Peer) (now : ℕ) : Prop :=
  p.used ∧ p.seen ≤ now ∧ now - p.seen ≤ peerLifetimeUs

instance Peer.decidableLive (p : Peer) (now : ℕ) : Decidable (p.Live now) :=
  inferInstanceAs (Decidable (_ ∧ _ ∧ _))

/-- An observation of the selected parent that an election may follow. -/
structure State.Fits (s : State) (now : ℕ) (p : Peer) : Prop where
  live : p.Live now
  eligible : s.eligible p
  parent : p.mac = s.nativeParent

/-- Such an observation stands in the table. -/
structure State.Offers (s : State) (now : ℕ) (p : Peer) : Prop extends s.Fits now p where
  entry : ∃ i : Fin 16, s.peers[i] = p

lemma expirePeer_live (h : p.Live now) : State.expirePeer now p = p := by
  obtain ⟨-, hseen, hfresh⟩ := h
  rw [State.expirePeer, if_neg]
  omega

lemma State.scanStep_managed (hm : s.nativeElectionManaged)
    (acc : Vector Peer 16 × Option (Fin 16)) (i : Fin 16) :
    s.scanStep now acc i = (acc.1.put i (expirePeer now acc.1[i]),
      if s.eligible (expirePeer now acc.1[i]) ∧ (expirePeer now acc.1[i]).mac = s.nativeParent
      then some i else acc.2) := by
  unfold State.scanStep
  grind

lemma State.scanFold_none (hm : s.nativeElectionManaged) :
    ∀ (l : List (Fin 16)) (acc : Vector Peer 16 × Option (Fin 16)), l.Nodup →
      (l.foldl (s.scanStep now) acc).2 = none →
      acc.2 = none ∧ ∀ i ∈ l, ¬ (s.eligible (expirePeer now acc.1[i]) ∧
        (expirePeer now acc.1[i]).mac = s.nativeParent) := by
  intro l
  induction l with
  | nil => exact fun acc _ h => ⟨h, fun i hi => absurd hi List.not_mem_nil⟩
  | cons k l ih =>
    intro acc hnd hnone
    obtain ⟨hk, hnd'⟩ := List.nodup_cons.mp hnd
    rw [List.foldl_cons, scanStep_managed hm] at hnone
    obtain ⟨hacc, hrest⟩ := ih _ hnd' hnone
    split at hacc
    · cases hacc
    · rename_i hskip
      refine ⟨hacc, fun i hi => ?_⟩
      rcases List.mem_cons.mp hi with rfl | hi
      · exact hskip
      · have hne : i ≠ k := fun h => hk (h ▸ hi)
        have := hrest i hi
        rwa [Vector.getElem_put, if_neg hne] at this

lemma State.elect_managed (hm : s.nativeElectionManaged) (hfree : s.controlsHeld = false)
    (hsel : s.nativeParentSelected) (now : ℕ) :
    (∃ p, s.Offers now p ∧ s.elect now = (s.refreshed now).followPeer p now) ∨
      ((∀ p, ¬ s.Offers now p) ∧ s.elect now = (s.refreshed now).loseParent) := by
  obtain ⟨counter, epoch, hadv⟩ := s.advanceElection_eq now
  have hpeers : (s.advanceElection now).peers = s.peers := by rw [hadv]
  have hman : (s.advanceElection now).nativeElectionManaged = true := by rw [hadv]; exact hm
  have hparent : (s.advanceElection now).nativeParent = s.nativeParent := by rw [hadv]
  have helig : (s.advanceElection now).eligible = s.eligible := by rw [hadv]; rfl
  rcases elect_scanned hfree (fun _ => hsel) now with ⟨hscan, heq⟩ | ⟨best, hscan, heq⟩
  · refine .inr ⟨fun p ho => ?_, heq⟩
    obtain ⟨i, rfl⟩ := ho.entry
    have hno := (scanFold_none hman (List.finRange 16) ((s.advanceElection now).peers, none)
      (List.nodup_finRange 16) hscan).2 i (List.mem_finRange i)
    rw [hpeers, expirePeer_live ho.live, helig, hparent] at hno
    exact hno ⟨ho.eligible, ho.parent⟩
  · have hc := candidate_of_best hscan
    have hel := (scanPeers_best hscan).1
    have hentry : ((s.advanceElection now).scanPeers now).1[best] = s.peers[best] := by
      have hget := scanPeers_getElem (s.advanceElection now) now best
      rw [(expirePeer_used (hget ▸ hc.used)).2.2.2, hpeers] at hget
      exact hget
    refine .inl ⟨_, ⟨⟨⟨hc.used, hc.seen_le, hc.fresh⟩, ?_, hc.parent hm⟩, best, hentry.symm⟩, heq⟩
    rw [← helig]
    exact hel

lemma State.storePeer_entries {P : Peer → Prop} (h : ∀ j : Fin 16, s.peers[j].used → P s.peers[j])
    {i : Fin 16} (hp : P p) (j : Fin 16)
    (hj : (s.storePeer i p).peers[j].used) : P (s.storePeer i p).peers[j] := by
  have hget : (s.storePeer i p).peers[j] = if j = i then p else s.peers[j] :=
    Vector.getElem_put s.peers i j p
  grind

lemma State.elect_entry (s : State) (now : ℕ) {j : Fin 16} (hj : (s.elect now).peers[j].used) :
    s.peers[j].used ∧ (s.elect now).peers[j] = s.peers[j] := by
  rcases (s.electFrame_elect now).2 j with heq | heq
  · rw [heq] at hj ⊢
    exact ⟨hj, rfl⟩
  · rw [heq] at hj ⊢
    obtain ⟨hused, -, -, hsame⟩ := expirePeer_used hj
    exact ⟨hused, hsame⟩

lemma ReachableBy.seen_le {ok : State → Op → Prop} (h : ReachableBy ok s now) :
    ∀ i : Fin 16, s.peers[i].used → s.peers[i].seen ≤ now := by
  induction h with
  | init h =>
    unfold State.init at h
    split at h
    · cases h
    · cases h
      intro i hi
      simp [State.fresh] at hi
  | @step s last _ op _ now hle ih =>
    have hold : ∀ j : Fin 16, s.peers[j].used → s.peers[j].seen ≤ now :=
      fun j hj => (ih j hj).trans hle
    have helect : ∀ {s₁ : State}, (∀ j : Fin 16, s₁.peers[j].used → s₁.peers[j].seen ≤ now) →
        ∀ j : Fin 16, (s₁.elect now).peers[j].used → (s₁.elect now).peers[j].seen ≤ now := by
      intro s₁ h₁ j hj
      obtain ⟨hused, hsame⟩ := s₁.elect_entry now hj
      rw [hsame]
      exact h₁ j hused
    rcases op.apply_withdraws s now with hw | ⟨s₁, hw, heq⟩ | ⟨f, rfl⟩
    · rw [hw.peers]
      exact hold
    · rw [heq]
      exact helect (hw.peers ▸ hold)
    · exact State.receiveAction_keeps
        (P := fun t => ∀ j : Fin 16, t.peers[j].used → t.peers[j].seen ≤ now) hold fun _ _ _ =>
          helect (State.storePeer_entries (P := fun p => p.seen ≤ now) hold le_rfl)

/-- Native's parent is `a`, and neither a window nor the role keeps its clock from being taken. -/
structure Selected (a : Mac) (s : State) (now : ℕ) : Prop where
  inv : Inv s
  managed : s.nativeElectionManaged
  free : s.controlsHeld = false
  parentSelected : s.nativeParentSelected
  parent : s.nativeParent = a
  role : s.syncRole ≠ 3
  hold : s.clockHoldUntil ≤ now
  seen : ∀ i : Fin 16, s.peers[i].used → s.peers[i].seen ≤ now

namespace Selected

lemma later (h : Selected a s now) (hle : now ≤ t) : Selected a s t :=
  { h with hold := h.hold.trans hle, seen := fun i hi => (h.seen i hi).trans hle }

lemma elect_cases (h : Selected a s now) :
    (∃ p, s.Offers now p ∧ s.elect now = (s.refreshed now).followPeer p now) ∨
      ((∀ p, ¬ s.Offers now p) ∧ s.elect now = (s.refreshed now).loseParent) :=
  State.elect_managed h.managed h.free h.parentSelected now

lemma unique (h : Selected a s now) {p q : Peer} (hp : s.Offers t p) (hq : s.Offers t q) :
    p = q := by
  obtain ⟨i, rfl⟩ := hp.entry
  obtain ⟨j, rfl⟩ := hq.entry
  rw [h.inv.table.distinct i j hp.live.1 hq.live.1 (hp.parent.trans hq.parent.symm)]

lemma offers_earlier (h : Selected a s now) (hle : now ≤ t) {p : Peer} (hp : s.Offers t p) :
    s.Offers now p := by
  obtain ⟨i, rfl⟩ := hp.entry
  have hseen := h.seen i hp.live.1
  obtain ⟨hused, -, hfresh⟩ := hp.live
  exact { hp with live := ⟨hused, hseen, by omega⟩ }

lemma store (h : Selected a s now) {p : Peer} {i : Fin 16} (hp : PeerOk s.mac p)
    (hslot : s.peerSlot p.mac now = some i) (hseen : p.seen ≤ now) :
    Selected a (s.storePeer i p) now :=
  { h with
    inv := h.inv.withPeers (h.inv.table.store hp hslot)
    seen := State.storePeer_entries (P := fun p => p.seen ≤ now) h.seen hseen }

end Selected

lemma State.offers_of_elect (hp : (s.elect now).Offers t p) : s.Offers t p := by
  have hcontrol := s.controlFields_elect now
  simp only [State.controlFields, Prod.mk.injEq] at hcontrol
  obtain ⟨hmac, -, -, hparent, hrole, -⟩ := hcontrol
  have helig : (s.elect now).eligible = s.eligible := by
    funext p
    rw [State.eligible, State.eligible, hmac, hrole]
  obtain ⟨i, rfl⟩ := hp.entry
  obtain ⟨-, hsame⟩ := s.elect_entry now hp.live.1
  exact ⟨⟨hp.live, helig ▸ hp.eligible, hp.parent.trans hparent⟩, i, hsame.symm⟩

lemma State.Fits.store (h : s.Fits t p) (i : Fin 16) : (s.storePeer i p).Offers t p :=
  ⟨⟨h.live, h.eligible, h.parent⟩, i, by simp [State.storePeer]⟩

lemma State.offers_of_store {i : Fin 16} {p q : Peer} (hq : (s.storePeer i p).Offers t q) :
    q = p ∨ s.Offers t q := by
  obtain ⟨j, rfl⟩ := hq.entry
  have hget : (s.storePeer i p).peers[j] = if j = i then p else s.peers[j] :=
    Vector.getElem_put s.peers i j p
  by_cases hji : j = i
  · exact .inl (by rw [hget, if_pos hji])
  · rw [if_neg hji] at hget
    exact .inr ⟨⟨hq.live, hq.eligible, hq.parent⟩, j, hget.symm⟩

lemma State.clockHoldUntil_elect (s : State) (now : ℕ) :
    (s.elect now).clockHoldUntil ≤ s.clockHoldUntil := by
  have hstep := s.elect_step now
  generalize s.elect now = s' at hstep ⊢
  have hbase : (s.refreshed now).clockHoldUntil = s.clockHoldUntil := by
    obtain ⟨_, _, _, heq⟩ := s.refreshed_eq now
    rw [heq]
  have htrack : ∀ (b : State) (p : Peer),
      (b.trackClock p now).clockHoldUntil = b.clockHoldUntil := by
    intro b p
    have hval : b.validateSample.clockHoldUntil = b.clockHoldUntil := by
      unfold State.validateSample
      split <;> rfl
    unfold State.trackClock
    extract_lets δ v
    split_ifs
    · rfl
    · exact hval
    · obtain ⟨_, _, _, hslew⟩ :=
        State.slewClock_eq { v with clockSampleAt := p.seen } (State.clockCorrection δ) now
      rw [hslew]
      exact hval
  cases hstep with
  | held _ => exact le_rfl
  | unselected _ _ _ =>
    obtain ⟨_, _, hadv⟩ := s.advanceElection_eq now
    rw [hadv]
  | lost _ _ =>
    rw [← hbase]
    unfold State.loseParent
    grind
  | @follow _ _ p _ =>
    rw [← hbase]
    generalize s.refreshed now = b
    unfold State.followPeer
    split_ifs
    · exact le_rfl
    · exact le_rfl
    · exact le_rfl
    · unfold State.acquireClock
      extract_lets n
      split <;> exact Nat.zero_le _
    · exact (htrack _ p).le
    · exact le_rfl

lemma Selected.elect (h : Selected a s now) : Selected a (s.elect now) now := by
  have hcontrol := s.controlFields_elect now
  simp only [State.controlFields, Prod.mk.injEq] at hcontrol
  obtain ⟨-, hman, hsel, hparent, hrole, -, -, -, hheld, -, -⟩ := hcontrol
  refine ⟨h.inv.elect now, hman.trans h.managed, hheld.trans h.free, hsel.trans h.parentSelected,
    hparent.trans h.parent, fun h3 => h.role (hrole.symm.trans h3),
    (s.clockHoldUntil_elect now).trans h.hold, fun i hi => ?_⟩
  obtain ⟨hused, hsame⟩ := s.elect_entry now hi
  rw [hsame]
  exact h.seen i hused

/-- The clock, its identity and the acquisition that is pending for it. -/
def State.clockState (s : State) : ℕ × UInt16 × Mac × Mac × Bool × Mac × Mac × Bool :=
  (s.epoch, s.baseCounter, s.clockParent, s.clockRoot, s.nativeClockAcquisitionPending,
    s.acquisitionParent, s.acquisitionRoot, s.acquisitionRootKnown)

lemma State.clockState_refreshed (s : State) (now : ℕ) :
    (s.refreshed now).clockState = s.clockState := by
  obtain ⟨_, _, _, heq⟩ := s.refreshed_eq now
  rw [heq]
  rfl

lemma State.clockState_loseParent (s : State) : s.loseParent.clockState = s.clockState := by
  unfold State.loseParent
  split <;> rfl

/-- The acquisition of `a` under `r` is pending and nothing stored satisfies it. -/
structure Seeking (a r : Mac) (s : State) (now : ℕ) : Prop extends Selected a s now where
  pending : s.nativeClockAcquisitionPending
  acquisitionParent : s.acquisitionParent = a
  rootKnown : s.acquisitionRootKnown
  root : s.acquisitionRoot = r
  missing : ∀ p, s.Offers now p → p.advertisement.master ≠ r

namespace Seeking

lemma later (h : Seeking a r s now) (hle : now ≤ t) : Seeking a r s t :=
  { h.toSelected.later hle, h with
    missing := fun p ho => h.missing p (h.offers_earlier hle ho) }

lemma clockState_elect (h : Seeking a r s now) : (s.elect now).clockState = s.clockState := by
  rcases h.elect_cases with ⟨p, ho, heq⟩ | ⟨-, heq⟩
  · have hblocked : (s.refreshed now).acquisitionBlocked p := by
      obtain ⟨_, _, _, hfresh⟩ := s.refreshed_eq now
      have hmaster : s.acquisitionRoot ≠ p.advertisement.master := by
        rw [h.root]
        exact (h.missing p ho).symm
      rw [hfresh]
      simp [State.acquisitionBlocked, h.managed, h.pending, h.rootKnown, hmaster]
    rw [heq, State.followPeer, if_pos hblocked, State.clockState_refreshed]
  · rw [heq, State.clockState_loseParent, State.clockState_refreshed]

lemma elect (h : Seeking a r s now) : Seeking a r (s.elect now) now := by
  have hclock := h.clockState_elect
  simp only [State.clockState, Prod.mk.injEq] at hclock
  obtain ⟨-, -, -, -, hpending, hparent, hroot, hknown⟩ := hclock
  refine { h.toSelected.elect with
    pending := hpending.trans h.pending
    acquisitionParent := hparent.trans h.acquisitionParent
    rootKnown := hknown.trans h.rootKnown
    root := hroot.trans h.root
    missing := fun p ho => h.missing p (State.offers_of_elect ho) }

lemma store (h : Seeking a r s now) {p : Peer} {i : Fin 16} (hp : PeerOk s.mac p)
    (hslot : s.peerSlot p.mac now = some i) (hseen : p.seen ≤ now)
    (hno : s.Fits now p → p.advertisement.master ≠ r) : Seeking a r (s.storePeer i p) now := by
  refine { h.toSelected.store hp hslot hseen, h with missing := fun q hq => ?_ }
  rcases State.offers_of_store hq with rfl | hq'
  · exact hno ⟨hq.live, hq.eligible, hq.parent⟩
  · exact h.missing q hq'

end Seeking

/-- The clock of `a` under `r` is committed and no acquisition is pending. -/
structure Holding (a r : Mac) (s : State) (now : ℕ) : Prop extends Selected a s now where
  settled : s.nativeClockAcquisitionPending = false
  selected : s.nativeClockSelected
  clockParent : s.clockParent = a
  clockRoot : s.clockRoot = r

/-- Besides, every stored sample of it was used. -/
structure Following (a r : Mac) (s : State) (now : ℕ) : Prop extends Holding a r s now where
  sampled : ∀ p, s.Offers now p → p.advertisement.master = r → p.seen ≤ s.clockSampleAt

namespace Holding

lemma later (h : Holding a r s now) (hle : now ≤ t) : Holding a r s t :=
  { h.toSelected.later hle, h with }

lemma store (h : Holding a r s now) {p : Peer} {i : Fin 16} (hp : PeerOk s.mac p)
    (hslot : s.peerSlot p.mac now = some i) (hseen : p.seen ≤ now) :
    Holding a r (s.storePeer i p) now :=
  { h.toSelected.store hp hslot hseen, h with }

lemma committed (h : Holding a r s now) : Committed s := ⟨h.managed, h.selected, h.settled⟩

lemma not_adopts (h : Holding a r s now) : s.adopts = false := by
  simp [State.adopts, h.managed, h.selected, h.settled]

lemma sameClock_iff (h : Holding a r s now) {p : Peer} (hp : p.mac = a) :
    s.sameClock p ↔ p.advertisement.master = r := by
  simp only [State.sameClock, h.managed, if_true, h.selected, h.clockParent, h.clockRoot, hp,
    BEq.rfl, Bool.true_and, beq_iff_eq]
  exact eq_comm

lemma refreshed (h : Holding a r s now) : Holding a r (s.refreshed now) now := by
  have hadv := h.inv.advanceElection now
  have hinv : Inv (s.refreshed now) := hadv.withPeers (hadv.table.scan now)
  have hentry : ∀ i : Fin 16, (s.refreshed now).peers[i].used →
      (s.refreshed now).peers[i].seen ≤ now := by
    intro i hi
    rw [State.refreshed_getElem] at hi ⊢
    obtain ⟨-, hseen, -, hsame⟩ := State.expirePeer_used hi
    rwa [hsame]
  obtain ⟨_, _, _, heq⟩ := s.refreshed_eq now
  rw [heq] at hinv hentry ⊢
  exact { h with inv := hinv, seen := hentry }

lemma clockSampleAt_followPeer (h : Holding a r s now) {p : Peer} (hp : p.mac = a)
    (hr : p.advertisement.master = r) : p.seen ≤ (s.followPeer p now).clockSampleAt := by
  have hsame : s.sameClock p := (h.sameClock_iff hp).mpr hr
  have hblocked : s.acquisitionBlocked p = false := by
    simp [State.acquisitionBlocked, h.settled]
  unfold State.followPeer
  rw [if_neg (by simp [hblocked]), if_neg (by simp [hsame]), if_neg (by simp [h.not_adopts]),
    if_neg (by simp [h.not_adopts])]
  split
  · unfold State.trackClock
    extract_lets δ v
    have hhold : v.clockHoldUntil = s.clockHoldUntil := by
      simp only [v, State.validateSample]
      split <;> rfl
    split
    · exact le_rfl
    · rw [if_neg (by rw [hhold]; exact not_lt.mpr h.hold)]
      obtain ⟨_, _, _, heq⟩ :=
        State.slewClock_eq { v with clockSampleAt := p.seen } (State.clockCorrection δ) now
      rw [heq]
  · rename_i hold
    have hle : ¬ p.seen > s.clockSampleAt := fun hgt => hold (.inr hgt)
    exact not_lt.mp hle

lemma elect (h : Holding a r s now) : Following a r (s.elect now) now := by
  have hfields := h.committed.elect now
  simp only [State.clockFields, State.clockIdentity, Prod.mk.injEq] at hfields
  obtain ⟨-, hsel, hset, hparent, hroot, -⟩ := hfields
  refine { h.toSelected.elect with
    settled := hset.trans h.settled
    selected := hsel.trans h.selected
    clockParent := hparent.trans h.clockParent
    clockRoot := hroot.trans h.clockRoot
    sampled := fun p ho hr => ?_ }
  have hp := State.offers_of_elect ho
  rcases h.elect_cases with ⟨q, hq, heq⟩ | ⟨hnone, -⟩
  · obtain rfl := h.unique hp hq
    rw [heq]
    exact h.refreshed.clockSampleAt_followPeer (hp.parent.trans h.parent) hr
  · exact absurd hp (hnone p)

end Holding

namespace Following

lemma later (h : Following a r s now) (hle : now ≤ t) : Following a r s t :=
  { h.toHolding.later hle with
    sampled := fun p ho => h.sampled p (h.offers_earlier hle ho) }

lemma store (h : Following a r s now) {p : Peer} {i : Fin 16} (hp : PeerOk s.mac p)
    (hslot : s.peerSlot p.mac now = some i) (hseen : p.seen ≤ now)
    (hno : p.mac = a → p.advertisement.master ≠ r) : Following a r (s.storePeer i p) now := by
  refine { h.toHolding.store hp hslot hseen with sampled := fun q hq hr => ?_ }
  rcases State.offers_of_store hq with rfl | hq'
  · exact absurd hr (hno (hq.parent.trans h.parent))
  · exact h.sampled q hq' hr

lemma clockState_elect (h : Following a r s now) : (s.elect now).clockState = s.clockState := by
  rcases h.elect_cases with ⟨p, ho, heq⟩ | ⟨-, heq⟩
  · have hf := h.toHolding.refreshed
    have hsample : (s.refreshed now).clockSampleAt = s.clockSampleAt := by
      obtain ⟨_, _, _, hfresh⟩ := s.refreshed_eq now
      rw [hfresh]
    have hblocked : (s.refreshed now).acquisitionBlocked p = false := by
      simp [State.acquisitionBlocked, hf.settled]
    have hiff := hf.sameClock_iff (ho.parent.trans h.parent)
    rw [heq, ← s.clockState_refreshed now, State.followPeer, if_neg (by simp [hblocked])]
    by_cases hr : p.advertisement.master = r
    · have hsame := hiff.mpr hr
      have hold := h.sampled p ho hr
      rw [if_neg (by simp [hsame]), if_neg (by simp [hf.not_adopts]),
        if_neg (by simp [hf.not_adopts]), if_neg]
      · simp [State.clockState, State.bindPeer, hsame]
      grind
    · have hforeign : (s.refreshed now).sameClock p = false :=
        Bool.eq_false_iff.mpr fun hs => hr (hiff.mp hs)
      rw [if_pos ⟨hf.managed, by simp [hforeign], by simp [hf.not_adopts]⟩]
      generalize s.refreshed now = b
      rfl
  · rw [heq, State.clockState_loseParent, State.clockState_refreshed]

end Following

/-- What the acquisition of the advertised clock leaves. -/
structure Acquired (a r : Mac) (p : Peer) (s : State) : Prop where
  synchronized : s.synchronized
  holdover : s.nativeClockHoldover = false
  settled : s.nativeClockAcquisitionPending = false
  selected : s.nativeClockSelected
  clockParent : s.clockParent = a
  sync : s.sync = a
  clockRoot : s.clockRoot = r
  master : s.master = r
  distance : s.distance = p.advertisement.distance + 1
  line : s.line = p.line
  sampled : s.clockSampleAt = p.seen

lemma Selected.acquires (h : Selected a s now) (hpending : s.nativeClockAcquisitionPending)
    (hparent : s.acquisitionParent = a) (hroot : s.acquisitionRoot = r)
    (ho : s.Offers now p) (hr : p.advertisement.master = r) : Acquired a r p (s.elect now) := by
  rcases h.elect_cases with ⟨q, hq, heq⟩ | ⟨hnone, -⟩
  · obtain rfl := h.unique ho hq
    obtain ⟨_, _, _, hfresh⟩ := s.refreshed_eq now
    have hmac : p.mac = a := ho.parent.trans h.parent
    have hopen : (s.refreshed now).acquisitionBlocked p = false := by
      rw [hfresh]
      simp [State.acquisitionBlocked, hparent, hroot, hmac, hr]
    have hadopts : (s.refreshed now).adopts := by
      rw [hfresh]
      simp [State.adopts, hpending]
    have hman : (s.refreshed now).nativeElectionManaged := by rw [hfresh]; exact h.managed
    have hhold : ¬ now < (s.refreshed now).clockHoldUntil := by
      rw [hfresh]
      exact not_lt.mpr h.hold
    have hid : ((s.refreshed now).bindPeer p).clockParent = a ∧
        ((s.refreshed now).bindPeer p).clockRoot = r := by
      simp only [State.bindPeer]
      split
      · exact ⟨hmac, hr⟩
      · rename_i hsame
        simp only [hman, true_and, Bool.not_eq_true', Bool.not_eq_false, State.sameClock, if_true,
          Bool.and_eq_true, beq_iff_eq] at hsame
        exact ⟨hsame.1.2.trans hmac, hsame.2.trans hr⟩
    rw [heq, State.followPeer, if_neg (by simp [hopen]), if_neg (by simp [hadopts]),
      if_neg (by simp [hhold]), if_pos hadopts]
    generalize s.refreshed now = b at hman hid ⊢
    have hmanb : (b.bindPeer p).nativeElectionManaged := hman
    rw [State.acquireClock_managed hmanb]
    exact ⟨rfl, rfl, rfl, State.selected_bindPeer hman p, hid.1, hmac, hid.2, hr, rfl, rfl,
      rfl⟩
  · exact absurd ho (hnone p)

lemma Acquired.following (hacq : Acquired a r p (s.elect now)) (h : Selected a s now)
    (ho : s.Offers now p) : Following a r (s.elect now) now := by
  refine { h.elect with
    settled := hacq.settled
    selected := hacq.selected
    clockParent := hacq.clockParent
    clockRoot := hacq.clockRoot
    sampled := fun q hq _ => ?_ }
  obtain rfl := h.unique ho (State.offers_of_elect hq)
  exact hacq.sampled.ge

/-- A frame of `a` that names the root `r`. -/
def Carries (a r : Mac) (op : Op) : Prop :=
  ∃ f adv, op = .receiveAction f ∧ parseAdvertisement f = some adv ∧ macAt f 10 = a ∧
    adv.master = r

/-- The reception stores a frame of `a` that names the root `r` and that an election may
follow. -/
def Satisfies (a r : Mac) (s : State) (now : ℕ) (op : Op) : Prop :=
  ∃ f adv, op = .receiveAction f ∧ parseAdvertisement f = some adv ∧ macAt f 10 = a ∧
    adv.master = r ∧ adv.sync ≠ s.mac ∧ adv.distance < 10 ∧ (s.receiveAction f now).1.isSome

/-- Every step waits for the selected clock, takes it or keeps following it. -/
lemma Seeking.apply (h : Seeking a r s now) {op : Op} (hop : op.isRadio) (hle : now ≤ t) :
    (Seeking a r (op.apply s t) t ∧ (op.apply s t).clockState = s.clockState) ∨
      (Satisfies a r s t op ∧ Following a r (op.apply s t) t) := by
  have hl := h.later hle
  cases op with
  | elect => exact .inl ⟨hl.elect, hl.clockState_elect⟩
  | receiveAction f =>
    have hstep := s.receiveAction_step f t
    have hsome : ∀ i, (s.receiveAction f t).1 = some i → (s.receiveAction f t).1.isSome :=
      fun i hi => by rw [hi]; rfl
    simp only [Op.apply]
    generalize hres : s.receiveAction f t = res at hstep hsome ⊢
    cases hstep with
    | refused => exact .inl ⟨hl, rfl⟩
    | @stored adv i ha hne _ hslot =>
      have hp := (parseAdvertisement_ok ha).peerOk hne t
      by_cases hmatch : s.Fits t (State.observation (macAt f 10) adv t) ∧ adv.master = r
      · obtain ⟨ho, hroot⟩ := hmatch
        have hstored := hl.toSelected.store hp hslot le_rfl
        have ho' := ho.store i
        have hacq := hstored.acquires h.pending h.acquisitionParent h.root ho' hroot
        have hel := ho.eligible
        simp only [State.eligible, Bool.and_eq_true, decide_eq_true_eq, bne_iff_ne] at hel
        refine .inr ⟨⟨f, adv, rfl, ha, ho.parent.trans h.parent, hroot, hel.1.2, hel.1.1.2, ?_⟩,
          hacq.following hstored ho'⟩
        rw [hres]
        rfl
      · have hstored := hl.store hp hslot le_rfl fun ho hroot => hmatch ⟨ho, hroot⟩
        exact .inl ⟨hstored.elect, hstored.clockState_elect⟩
  | _ => cases hop

/-- Every step follows the clock, and only a frame that carries it moves it. -/
lemma Following.apply (h : Following a r s now) {op : Op} (hop : op.isRadio) (hle : now ≤ t) :
    Following a r (op.apply s t) t ∧
      (¬ Carries a r op → (op.apply s t).clockState = s.clockState) := by
  have hl := h.later hle
  cases op with
  | elect => exact ⟨hl.toHolding.elect, fun _ => hl.clockState_elect⟩
  | receiveAction f =>
    refine State.receiveAction_keeps
      (P := fun q => Following a r q t ∧ (_ → q.clockState = s.clockState)) ⟨hl, fun _ => rfl⟩ ?_
    intro adv i ha hne hslot
    have hp := (parseAdvertisement_ok ha).peerOk hne t
    refine ⟨(hl.toHolding.store hp hslot le_rfl).elect, fun hno => ?_⟩
    have hstored := hl.store hp hslot le_rfl fun hmac hroot => hno ⟨f, adv, rfl, ha, hmac, hroot⟩
    exact hstored.clockState_elect
  | _ => cases hop

lemma Satisfies.carries {op : Op} (h : Satisfies a r s now op) : Carries a r op := by
  obtain ⟨f, adv, hop, ha, hmac, hroot, -⟩ := h
  exact ⟨f, adv, hop, ha, hmac, hroot⟩

lemma observation_counter {f : Bytes} {adv : Advertisement} (h : parseAdvertisement f = some adv)
    (hspent : State.spentUs adv ≤ now) :
    (State.observation (macAt f 10) adv now).counter now = adv.counter := by
  have hok := parseAdvertisement_ok h
  have hcount := hok.counter_mod
  have hle : adv.counter % adv.presence.toUInt16 ≤ adv.counter := by
    exact Nat.mod_le _ _
  have hticks : (now - (now - State.spentUs adv)) / awUs =
      adv.counter.toNat % adv.presence.toNat := by
    simp only [State.spentUs, hok.period_eq, UInt16.reduceToNat, awUs] at hspent ⊢
    omega
  apply UInt16.toNat_inj.mp
  rw [Peer.counter]
  simp only [State.observation]
  rw [hticks, UInt16.toNat_add, UInt16.toNat_sub_of_le _ _ hle, UInt16.toNat_mod,
    UInt8.toNat_toUInt16, UInt16.toNat_ofNat']
  have hmod := Nat.mod_le adv.counter.toNat adv.presence.toNat
  have hlt := adv.counter.toNat_lt
  omega

/-- A native selection of the parent `a` under the root `r` acquires exactly that clock.
Whatever frames and elections follow, none but frames of `a` that name `r` change the clock, its
identity or the pending acquisition. The first such frame that is stored and that an election
may follow is taken over as it stands: the counter is the advertised one, and it goes on as the
counter of `a` does. -/
theorem selection_acquires_clock {s : State} {last now : ℕ} (h : ReachableAt s last)
    (hle : last ≤ now) (hfree : s.controlsHeld = false) (hrole : s.syncRole ≠ 3)
    (hhold : s.clockHoldUntil ≤ now) {a r : Mac} (hr : r ≠ s.mac)
    (hnone : ∀ i : Fin 16, s.peers[i].Live now → s.peers[i].mac = a →
      s.peers[i].advertisement.master ≠ r) :
    (∀ s' k, RadioRun (fun _ _ _ => True) (s.selectNativeParent a (some r) true) now s' k →
      ∀ op : Op, op.isRadio → ¬ Carries a r op → ∀ t, k ≤ t →
        (op.apply s' t).clockState = s'.clockState) ∧
    ∀ s' k, RadioRun (fun s t op => ¬ Satisfies a r s t op)
        (s.selectNativeParent a (some r) true) now s' k →
      ∀ (f : Bytes) (adv : Advertisement) (t : ℕ) (i : Fin 16), k ≤ t →
        parseAdvertisement f = some adv → macAt f 10 = a → adv.master = r → adv.sync ≠ s.mac →
        adv.distance < 10 → (s'.receiveAction f t).1 = some i →
        let next := (s'.receiveAction f t).2
        next.synchronized ∧ next.nativeClockHoldover = false ∧
          next.nativeClockAcquisitionPending = false ∧ next.clockParent = a ∧ next.sync = a ∧
          next.clockRoot = r ∧ next.master = r ∧ next.distance = adv.distance + 1 ∧
          next.counter t = adv.counter ∧
          ∀ u, t ≤ u → next.counter u = (State.observation a adv t).counter u := by
  have hchosen : s.selectNativeParent a (some r) true =
      { s.noteAcquisition a (some r) true with
        nativeClockHoldover := if s.nativeParent ≠ a then false else s.nativeClockHoldover
        nativeParent := a
        nativeParentSelected := true } :=
    if_neg (by simp [State.noteAcquisition, hfree])
  have hmac : (s.selectNativeParent a (some r) true).mac = s.mac := by rw [hchosen]; rfl
  have hstart : Seeking a r (s.selectNativeParent a (some r) true) now := by
    have hinv := h.reachable.inv.selectNativeParent a (some r) true
    rw [hchosen] at hinv ⊢
    refine ⟨⟨hinv, rfl, hfree, rfl, rfl, hrole, hhold, fun i hi => (h.seen_le i hi).trans hle⟩,
      by simp [State.noteAcquisition], rfl, rfl, rfl, fun p ho => ?_⟩
    obtain ⟨i, rfl⟩ := ho.entry
    exact hnone i ho.live ho.parent
  have hphase : ∀ s' k, RadioRun (fun _ _ _ => True) (s.selectNativeParent a (some r) true) now
      s' k → Seeking a r s' k ∨ Following a r s' k := by
    intro s' k hrun
    refine hrun.invariant (P := fun q n => Seeking a r q n ∨ Following a r q n) (.inl hstart) ?_
    rintro q n t op (hq | hq) hop hnt -
    · rcases hq.apply hop hnt with ⟨hseek, -⟩ | ⟨-, hfollow⟩
      · exact .inl hseek
      · exact .inr hfollow
    · exact .inr (hq.apply hop hnt).1
  refine ⟨fun s' k hrun op hop hno t hkt => ?_, fun s' k hrun f adv t i hkt ha hsrc hroot hsync
    hdist hi => ?_⟩
  · rcases hphase s' k hrun with hq | hq
    · rcases hq.apply hop hkt with ⟨-, hkept⟩ | ⟨hsat, -⟩
      · exact hkept
      · exact absurd hsat.carries hno
    · exact (hq.apply hop hkt).2 hno
  · obtain ⟨hq, hqmac⟩ : Seeking a r s' k ∧ s'.mac = s.mac := by
      refine hrun.invariant (P := fun q n => Seeking a r q n ∧ q.mac = s.mac) ⟨hstart, hmac⟩ ?_
      rintro q n t op ⟨hq, hqmac⟩ hop hnt hno
      have hown : (op.apply q t).mac = q.mac :=
        congrArg (fun x => x.1) (op.controlFields_apply hop q t)
      refine ⟨?_, hown.trans hqmac⟩
      rcases hq.apply hop hnt with ⟨hseek, -⟩ | ⟨hsat, -⟩
      · exact hseek
      · exact absurd hsat hno
    have hl := hq.later hkt
    have hstep := s'.receiveAction_step f t
    generalize s'.receiveAction f t = res at hstep hi ⊢
    cases hstep with
    | refused => cases hi.symm
    | @stored adv' j ha' hne hspent hslot =>
      obtain rfl := Option.some.inj (ha.symm.trans ha')
      have hp := (parseAdvertisement_ok ha).peerOk hne t
      have hstored := hl.toSelected.store hp hslot le_rfl
      have helig : s'.eligible (State.observation (macAt f 10) adv t) := by
        simp [State.eligible, State.observation, hqmac, hroot, hr, hdist, hsync, hq.role]
      have hfits : s'.Fits t (State.observation (macAt f 10) adv t) :=
        ⟨⟨rfl, le_rfl, by simp [State.observation]⟩, helig, hsrc.trans hq.parent.symm⟩
      have hacq := hstored.acquires hq.pending hq.acquisitionParent hq.root (hfits.store j) hroot
      have hcounter : ∀ u, ((s'.storePeer j (State.observation (macAt f 10) adv t)).elect t).counter
          u = (State.observation a adv t).counter u := by
        intro u
        apply UInt16.toNat_inj.mp
        rw [State.toNat_counter, Peer.toNat_counter, hacq.line, hsrc]
      refine ⟨hacq.synchronized, hacq.holdover, hacq.settled, hacq.clockParent, hacq.sync,
        hacq.clockRoot, hacq.master, hacq.distance, ?_, fun u _ => hcounter u⟩
      dsimp only
      rw [hcounter, ← hsrc, observation_counter ha hspent]

/-- A native station that follows B and has not seen another station yet. -/
def knowsB : State := runOps (State.fresh stationA samplePlan 0 0 true)
  [(163840, .receiveAction (beacon stationB 5 0 163840)),
    (163840, .selectNativeParent stationB none false), (163840, .elect)]

lemma knowsB_reachable : ReachableAt knowsB 163840 :=
  (ReachableBy.fresh (by decide) (by decide) 0 0 true).runOps _ (by decide +kernel)

/-- Told to follow C under C, it keeps B's clock through an election and takes C's, which runs
five windows behind, from the first frame. -/
theorem selection_acquires_clock_knowsB :
    let chosen := knowsB.selectNativeParent stationC (some stationC) true
    let next := (chosen.receiveAction (beacon stationC 5 81920 172032) 172032).2
    knowsB.clockParent = stationB ∧ (Op.elect.apply chosen 163840).clockState = chosen.clockState ∧
      next.synchronized ∧ next.clockParent = stationC ∧ next.clockRoot = stationC ∧
      next.counter 172032 = 5 := by
  have h := selection_acquires_clock knowsB_reachable le_rfl (by decide +kernel)
    (by decide +kernel) (by decide +kernel) (a := stationC) (r := stationC) (by decide +kernel)
    (by decide +kernel)
  have hno : ¬ Carries stationC stationC .elect := by
    rintro ⟨f, adv, hop, -⟩
    cases hop
  have hkept := h.1 _ _ .refl .elect rfl hno 163840 le_rfl
  have hnext := h.2 _ _ .refl (beacon stationC 5 81920 172032)
    ((parseAdvertisement (beacon stationC 5 81920 172032)).getD {}) 172032 1 (by decide)
    (by decide +kernel) (by decide +kernel) (by decide +kernel) (by decide +kernel)
    (by decide +kernel) (by decide +kernel)
  obtain ⟨hsync, -, -, hparent, -, hroot, -, -, hcounter, -⟩ := hnext
  exact ⟨by decide +kernel, hkept, hsync, hparent, hroot, hcounter.trans (by decide +kernel)⟩

end AirportAwdl.Election
