import AirportAwdl.Election.WireTheorems

/-!
# Clock and schedule transfer between two stations

A receiver rebuilds the sender's timeline from the advertised counter and countdown. The
countdown is rounded up to whole time units, so the copy trails the original by less than
one of them (`observation_reading`), and the receiver knows the sender's channel up to that
delay (`schedule_transfer`).
-/

namespace AirportAwdl.Election

open ByteBuffer Timeline

variable {s : State} {now : ℕ} {t capacity : ℕ}

/-- The rounding of the advertised position. -/
def State.transferDelay (s : State) (now : ℕ) : ℕ := s.position now % 1024

lemma State.transferDelay_lt (s : State) (now : ℕ) : s.transferDelay now < 1024 :=
  Nat.mod_lt _ (by decide)

lemma State.transferDelay_le (he : s.epoch ≤ now) :
    s.epoch + s.transferDelay now ≤ now := by
  have hdelay : s.transferDelay now = (now - s.epoch) % 1024 := by
    have hoff : s.position now =
        s.line.ticks awUs now % s.presence.toNat * awUs + (now - s.epoch) % awUs :=
      Line.frameOffset_eq awUs_pos _ now
    rw [State.transferDelay, hoff]
    simp only [awUs]
    omega
  omega

lemma State.spentUs_advertised (hp : validPresence s.presence.toNat) (now : ℕ) :
    State.spentUs (s.advertised now) = s.position now - s.transferDelay now := by
  have hlt := s.position_lt hp now
  simp only [State.spentUs, State.advertised, State.toNat_countdownTu hp, State.transferDelay,
    UInt16.reduceToNat]
  rw [State.countdownTu_eq hp]
  simp only [awUs] at hlt
  omega

lemma observation_reading (hp : validPresence s.presence.toNat) (he : s.epoch ≤ now)
    (hspent : State.spentUs (s.advertised now) ≤ now) (ht : now ≤ t) :
    (State.observation s.mac (s.advertised now) now).reading t =
      s.reading (t - s.transferDelay now) := by
  have hline : (State.observation s.mac (s.advertised now) now).line =
      ⟨now - (s.position now - s.transferDelay now),
        s.line.ticks awUs now % 65536 - s.line.ticks awUs now % 65536 % s.presence.toNat⟩ := by
    have hbase : (s.counter now - s.counter now % s.presence.toUInt16).toNat =
        (s.counter now).toNat - (s.counter now).toNat % s.presence.toNat := by
      have hle : s.counter now % s.presence.toUInt16 ≤ s.counter now := by
        exact Nat.mod_le _ _
      rw [UInt16.toNat_sub_of_le _ _ hle, UInt16.toNat_mod, UInt8.toNat_toUInt16]
    rw [Peer.line, ← State.toNat_counter, ← hbase, ← State.spentUs_advertised hp]
    rfl
  rw [Peer.reading_eq, State.reading_eq, hline]
  exact Line.reading_frame_anchor awUs_pos (validPresence_dvd hp)
    (State.transferDelay_le he) (Nat.mod_le _ _)
    ((State.spentUs_advertised hp now).symm.trans_le hspent) ht

lemma counter_eq_of_reading {p : Peer} {t u : ℕ} (h : p.reading t = s.reading u) :
    p.counter t = s.counter u := by
  have hp : (t - p.epoch) % awUs < awUs := Nat.mod_lt _ awUs_pos
  have hs : s.elapsed u % awUs < awUs := Nat.mod_lt _ awUs_pos
  apply UInt16.toNat_inj.mp
  simp only [Peer.reading, State.reading, awUs] at h hp hs
  omega

lemma Peer.channel_of_live {p : Peer} (hu : p.used) (he : p.epoch ≤ t) (hs : p.seen ≤ t)
    (hl : t - p.seen ≤ peerLifetimeUs) (hv : validSequence p.advertisement.sequence) :
    p.channel t = p.advertisement.sequence.channelOf (p.counter t) := by
  unfold Peer.channel
  grind

lemma State.channel_of_ready (hr : s.radioScheduleReady) (hv : validSequence s.sequence) (t : ℕ) :
    s.channel t = s.sequence.channelOf (s.counter t) := by
  simp [State.channel, hr, hv]

lemma State.elect_keeps_fresh {i : Fin 16} (hseen : s.peers[i].seen = now) :
    (s.elect now).peers[i] = s.peers[i] := by
  rcases (s.electFrame_elect now).2 i with h | h
  · exact h
  · rw [h, State.expirePeer, if_neg]
    rintro ⟨-, hstale⟩
    rw [hseen] at hstale
    omega

lemma State.receiveAction_stores {f : Bytes} {a : Advertisement} {i : Fin 16}
    (ha : parseAdvertisement f = some a) (hne : macAt f 10 ≠ s.mac)
    (hspent : State.spentUs a ≤ now) (hslot : s.peerSlot (macAt f 10) now = some i) :
    (s.receiveAction f now).1 = some i ∧
      (s.receiveAction f now).2.peers[i] = State.observation (macAt f 10) a now := by
  have hget : (s.storePeer i (State.observation (macAt f 10) a now)).peers[i] =
      State.observation (macAt f 10) a now := by
    simp [State.storePeer]
  unfold State.receiveAction
  simp only [ha, hne, hslot, if_false, if_neg (not_lt.mpr hspent)]
  refine ⟨trivial, ?_⟩
  rw [State.elect_keeps_fresh, hget]
  rw [hget]
  rfl

lemma synchronizationLength_eq (hinv : Inv s) : synchronizationLength s = 141 := by
  rw [synchronizationLength, syncLength, ((validSequence_iff _).mp hinv.plan.valid).1]
  rfl

lemma buildSynchronization_caller (hinv : Inv s) {phyTime targetTime : UInt32}
    {subtype : UInt8} {f : Bytes}
    (h : (buildSynchronization s capacity now phyTime targetTime subtype).1 = some f) :
    141 ≤ capacity ∧ (subtype = 0 ∨ subtype = 3) := by
  unfold buildSynchronization at h
  rw [synchronizationLength_eq hinv] at h
  grind

lemma syncFrame_of_buildSynchronization (hinv : Inv s)
    {phyTime targetTime : UInt32} {subtype : UInt8} {f : Bytes}
    (h : (buildSynchronization s capacity now phyTime targetTime subtype).1 = some f) :
    SyncFrame s now subtype f := by
  have hcount := ((validSequence_iff _).mp hinv.plan.valid).1
  unfold buildSynchronization at h
  rw [synchronizationLength_eq hinv] at h
  split at h
  · exact absurd h.symm (Option.some_ne_none f)
  · rw [← Option.some.inj h]
    exact storeAll_syncFrame hcount

lemma buildSynchronization_some (hinv : Inv s) (hready : s.radioScheduleReady)
    (he : s.epoch ≤ now) (hcap : 141 ≤ capacity) (phyTime targetTime : UInt32)
    {subtype : UInt8} (hsub : subtype = 0 ∨ subtype = 3) :
    ∃ f, (buildSynchronization s capacity now phyTime targetTime subtype).1 = some f ∧
      SyncFrame s now subtype f := by
  have hcount := ((validSequence_iff _).mp hinv.plan.valid).1
  have hlen := synchronizationLength_eq hinv
  refine ⟨storeAll (List.replicate 141 0) (synchronizationStores s now phyTime targetTime subtype),
    ?_, storeAll_syncFrame hcount⟩
  unfold buildSynchronization
  rw [hlen, if_neg]
  simp only [not_or, not_and, not_lt, ne_eq, not_not]
  exact ⟨hcap, fun h0 => hsub.resolve_left h0, by simp [hinv.plan.valid],
    hinv.plan.toNat_presence.symm, by simp [hready], he, by simp [hinv.unicast_mac]⟩

/-- A station's frame carries its schedule, tree and counter, and any other station with
room in its table stores a copy of its timeline that trails it by less than one time unit,
provided its host clock has run for the advertised part of the EAW. Until the peer expires
the copy yields the sender's channel, with that delay. -/
theorem schedule_transfer {tx : State} {last now capacity : ℕ} (phyTime targetTime : UInt32)
    {subtype : UInt8} (h : ReachableAt tx last) (hready : tx.radioScheduleReady)
    (hle : last ≤ now) (hcap : 141 ≤ capacity) (hsub : subtype = 0 ∨ subtype = 3) :
    ∃ frame, (buildSynchronization tx capacity now phyTime targetTime subtype).1 = some frame ∧
      frame.length = 141 ∧ parseAdvertisement frame = some (tx.advertised now) ∧
      ∀ rx : State, rx.mac ≠ tx.mac → (rx.peerSlot tx.mac now).isSome →
        State.spentUs (tx.advertised now) ≤ now →
        ∃ i δ, (rx.receiveAction frame now).1 = some i ∧ δ < 1024 ∧ tx.epoch + δ ≤ now ∧
          (rx.receiveAction frame now).2.peers[i].mac = tx.mac ∧
          (∀ t, now ≤ t → (rx.receiveAction frame now).2.peers[i].reading t = tx.reading (t - δ)) ∧
          ∀ t, now ≤ t → t - now ≤ peerLifetimeUs →
            (rx.receiveAction frame now).2.peers[i].channel t = tx.channel (t - δ) := by
  have hinv := h.reachable.inv
  have he : tx.epoch ≤ now := h.epoch_le.trans hle
  have hp := hinv.plan.validPresence_presence
  obtain ⟨f, hbuild, hf⟩ :=
    buildSynchronization_some hinv hready he hcap phyTime targetTime hsub
  have hparse := hf.parseAdvertisement hinv hsub
  refine ⟨f, hbuild, hf.length_eq, hparse, fun rx hne hslot hspent => ?_⟩
  obtain ⟨i, hi⟩ := Option.isSome_iff_exists.mp hslot
  rw [← hf.source] at hi
  obtain ⟨hidx, hpeer⟩ :=
    State.receiveAction_stores hparse (by rw [hf.source]; exact hne.symm) hspent hi
  rw [hf.source] at hpeer
  have hread : ∀ t, now ≤ t → (State.observation tx.mac (tx.advertised now) now).reading t =
      tx.reading (t - tx.transferDelay now) := fun t ht => observation_reading hp he hspent ht
  refine ⟨i, tx.transferDelay now, hidx, tx.transferDelay_lt now, State.transferDelay_le he, ?_⟩
  rw [hpeer]
  refine ⟨rfl, hread, fun t ht hlife => ?_⟩
  rw [Peer.channel_of_live rfl ((Nat.sub_le _ _).trans ht) ht hlife hinv.plan.valid,
    State.channel_of_ready hready hinv.plan.valid, counter_eq_of_reading (hread t ht)]
  rfl

/-- Station A follows station B and sends a periodic frame a third of a window later; a
fresh station C stores its timeline. -/
theorem schedule_transfer_followerB :
    ∃ frame, (buildSynchronization followerB 141 170000 7 9 3).1 = some frame ∧
      frame.length = 141 ∧ parseAdvertisement frame = some (followerB.advertised 170000) ∧
      ∃ i δ, ((State.fresh stationC samplePlan 0 0 true).receiveAction frame 170000).1 = some i ∧
        δ < 1024 ∧ ∀ t, 170000 ≤ t → t - 170000 ≤ peerLifetimeUs →
          ((State.fresh stationC samplePlan 0 0 true).receiveAction frame 170000).2.peers[i].channel t
            = followerB.channel (t - δ) := by
  obtain ⟨frame, hbuild, hlen, hparse, hrx⟩ := schedule_transfer 7 9 followerB_reachable
    (by decide +kernel) (by decide : 163840 ≤ 170000) (le_refl 141)
    (.inr rfl : (3 : UInt8) = 0 ∨ (3 : UInt8) = 3)
  obtain ⟨i, δ, hi, hδ, -, -, -, hch⟩ := hrx (State.fresh stationC samplePlan 0 0 true)
    (by decide +kernel) (by decide +kernel) (by decide +kernel)
  exact ⟨frame, hbuild, hlen, hparse, i, δ, hi, hδ, hch⟩

/-- Sixteen windows per slot. -/
def longPlan : Sequence := { samplePlan with step := 15 }

/-- A frame of station B whose counter already reads 15 at time zero. -/
def lateBeacon : Bytes :=
  (buildSynchronization { State.fresh stationB samplePlan 0 5 true with baseCounter := 15 }
    141 0 0 0 0).1.getD []

/-- Station A follows that clock with its own long slots. -/
def youngFollower : State :=
  runOps (State.fresh stationA longPlan 0 0 true)
    [(0, .receiveAction lateBeacon), (0, .selectNativeParent stationB none false), (0, .elect)]

/-- At time zero its frame says that 240 time units of the EAW are over, more than the host
clock of any receiver has counted, so a receiver with an empty table refuses it. -/
theorem youngFollower_refused :
    ReachableAt youngFollower 0 ∧ youngFollower.radioScheduleReady ∧
      ∃ frame, (buildSynchronization youngFollower 141 0 0 0 0).1 = some frame ∧
        (State.fresh stationC samplePlan 0 0 true).mac ≠ youngFollower.mac ∧
        ((State.fresh stationC samplePlan 0 0 true).peerSlot youngFollower.mac 0).isSome ∧
        ((State.fresh stationC samplePlan 0 0 true).receiveAction frame 0).1 = none := by
  have hreach : ReachableAt youngFollower 0 :=
    (ReachableBy.fresh (by decide) (by decide) 0 0 true).runOps _ (by decide +kernel)
  exact ⟨hreach, by decide +kernel, (buildSynchronization youngFollower 141 0 0 0 0).1.getD [],
    by decide +kernel, by decide +kernel, by decide +kernel, by decide +kernel⟩

end AirportAwdl.Election
