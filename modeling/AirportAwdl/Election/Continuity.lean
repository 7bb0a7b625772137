import AirportAwdl.Lib.Timeline
import AirportAwdl.Election.Invariant

/-!
# Continuity of the availability-window timeline

The engine's clock is a wrapping timeline (`State.line`). Every operation except an
election leaves its reading alone (`Kept`): the setters re-anchor it at most. An election
of a native-managed engine either adopts the selected parent's line (`Adoption`) or moves
the reading by a bounded step towards it (`Discipline`).
-/

namespace AirportAwdl.Election

open ByteBuffer Timeline

/-- The engine's timeline. -/
def State.line (s : State) : Line := ⟨s.epoch, s.baseCounter.toNat⟩

/-- The timeline last observed from a peer. -/
def Peer.line (p : Peer) : Line := ⟨p.epoch, p.baseCounter.toNat⟩

/-- Availability-window reading: the 16-bit counter in microseconds plus the sub-AW phase. -/
def State.reading (s : State) (t : ℕ) : ℕ := (s.counter t).toNat * awUs + s.elapsed t % awUs

/-- The same reading on a peer's timeline. -/
def Peer.reading (p : Peer) (t : ℕ) : ℕ := (p.counter t).toNat * awUs + (t - p.epoch) % awUs

/-- Readings wrap with the counter. -/
def readingWrap : ℕ := 65536 * awUs

variable {s s' : State} {now : ℕ}

lemma awUs_pos : 0 < awUs := by decide

lemma State.elapsed_eq (s : State) (t : ℕ) : s.elapsed t = t - s.epoch := by
  unfold State.elapsed
  split <;> omega

lemma State.toNat_counter (s : State) (t : ℕ) :
    (s.counter t).toNat = s.line.ticks awUs t % 65536 := by
  rw [State.counter, State.elapsed_eq, UInt16.toNat_add, UInt16.toNat_ofNat', Nat.add_mod_mod]
  rfl

lemma Peer.toNat_counter (p : Peer) (t : ℕ) :
    (p.counter t).toNat = p.line.ticks awUs t % 65536 := by
  rw [Peer.counter, UInt16.toNat_add, UInt16.toNat_ofNat', Nat.add_mod_mod]
  rfl

lemma State.reading_eq (s : State) (t : ℕ) : s.reading t = s.line.reading awUs 65536 t := by
  rw [State.reading, State.toNat_counter, State.elapsed_eq, Line.reading_eq awUs_pos]
  rfl

lemma Peer.reading_eq (p : Peer) (t : ℕ) : p.reading t = p.line.reading awUs 65536 t := by
  rw [Peer.reading, Peer.toNat_counter, Line.reading_eq awUs_pos]
  rfl

/-- The timeline is anchored in the past and shows what it showed before, from `now` on. -/
structure Kept (s : State) (now : ℕ) (s' : State) : Prop where
  epoch_le : s'.epoch ≤ now
  reading : ∀ t, now ≤ t → s'.reading t = s.reading t

lemma Kept.of_line (he : s.epoch ≤ now) (h : s'.line = s.line) : Kept s now s' := by
  have hepoch : s'.epoch = s.epoch := congrArg Line.epoch h
  exact ⟨hepoch ▸ he, fun t _ => by rw [State.reading_eq, State.reading_eq, h]⟩

lemma Kept.refl (he : s.epoch ≤ now) : Kept s now s := .of_line he rfl

lemma Kept.trans {s'' : State} (h : Kept s now s') (h' : Kept s' now s'') : Kept s now s'' :=
  ⟨h'.epoch_le, fun t ht => (h'.reading t ht).trans (h.reading t ht)⟩

lemma Kept.rebase (he : s.epoch ≤ now) : Kept s now (s.rebaseTimeline now) := by
  have hline : (s.rebaseTimeline now).line = s.line.rebase awUs 65536 now := by
    rw [State.line, State.rebaseTimeline, State.toNat_counter, State.elapsed_eq]
    rfl
  refine ⟨Nat.sub_le _ _, fun t ht => ?_⟩
  rw [State.reading_eq, State.reading_eq, hline]
  exact Line.reading_rebase awUs_pos he ht

lemma Kept.setSyncRole (he : s.epoch ≤ now) (role : ℕ) (address : Mac) :
    Kept s now (s.setSyncRole role address).2 := by
  refine .of_line he ?_
  unfold State.setSyncRole
  split_ifs <;> rfl

lemma Kept.setPresence (he : s.epoch ≤ now) (value : UInt8) :
    Kept s now (s.setPresence value now).2 := by
  unfold State.setPresence
  split_ifs
  · exact .refl he
  · exact .of_line he rfl
  · exact .refl he
  · unfold State.applyPresence
    dsimp only
    split
    · exact (Kept.rebase he).trans (.of_line (Kept.rebase he).epoch_le rfl)
    · exact .of_line he rfl

lemma Kept.setSequence (he : s.epoch ≤ now) (value : Sequence) :
    Kept s now (s.setSequence value now).2 := by
  unfold State.setSequence
  split_ifs
  · exact .refl he
  · exact .of_line he rfl
  · exact .refl he
  · have hown : Kept s now { s with ownSequence := value } := .of_line he rfl
    have hpres := hown.trans (.setPresence hown.epoch_le (value.step + 1))
    exact hpres.trans (.of_line hpres.epoch_le rfl)

lemma Kept.setSocialChannel (he : s.epoch ≤ now) (index : ℕ) (channel : UInt8) :
    Kept s now (s.setSocialChannel index channel now) :=
  State.setSocialChannel_keeps (.refl he) (.setSequence he) index channel

lemma Kept.selectNativeParent (he : s.epoch ≤ now) (address : Mac) (root : Option Mac)
    (acquire : Bool) : Kept s now (s.selectNativeParent address root acquire) := by
  refine .of_line he ?_
  unfold State.selectNativeParent
  dsimp only
  split
  · split <;> rfl
  · rfl

lemma Kept.clearNativeParent (he : s.epoch ≤ now) : Kept s now s.clearNativeParent := by
  refine .of_line he ?_
  unfold State.clearNativeParent
  dsimp only
  split_ifs <;> rfl

lemma Kept.holdControls (he : s.epoch ≤ now) : Kept s now s.holdControls := by
  refine .of_line he ?_
  unfold State.holdControls
  split <;> rfl

lemma Kept.commitControls (he : s.epoch ≤ now) : Kept s now (s.commitControls now) := by
  have hd : Kept s now s.discardControls := .of_line he rfl
  have hr := hd.trans (.setSyncRole hd.epoch_le s.pendingControls.role.toNat
    s.pendingControls.forced)
  have hplan : Kept s now (s.committedPlan now) := hr.trans (.setSequence hr.epoch_le _)
  have hreq : Kept s now (s.committedRequests now) :=
    hplan.trans (.of_line hplan.epoch_le rfl)
  rw [State.commitControls_eq]
  split_ifs
  · exact hreq.trans (.clearNativeParent hreq.epoch_le)
  · exact hreq
  · exact hd

/-- From `now` on the timeline reads `correction` more than before. -/
structure Moved (s : State) (now : ℕ) (s' : State) (correction : ℤ) : Prop where
  epoch_le : s'.epoch ≤ now
  reading : ∀ t, now ≤ t → (s'.reading t : ℤ) ≡ s.reading t + correction [ZMOD readingWrap]

lemma State.reading_of_le (he : s.epoch ≤ now) {t : ℕ} (ht : now ≤ t) :
    (s.reading t : ℤ) ≡ s.reading now + (t - now : ℕ) [ZMOD readingWrap] := by
  have h : s.line.reading awUs 65536 t = _ := Line.reading_of_le he ht
  rw [← State.reading_eq, ← State.reading_eq] at h
  rw [h]
  push_cast [readingWrap]
  exact Int.mod_modEq _ _

lemma Moved.of_now (he : s.epoch ≤ now) (he' : s'.epoch ≤ now) {c : ℤ}
    (h : (s'.reading now : ℤ) ≡ s.reading now + c [ZMOD readingWrap]) : Moved s now s' c := by
  refine ⟨he', fun t ht => ?_⟩
  calc (s'.reading t : ℤ)
      ≡ s'.reading now + (t - now : ℕ) [ZMOD readingWrap] := State.reading_of_le he' ht
    _ ≡ (s.reading now + c) + (t - now : ℕ) [ZMOD readingWrap] := h.add_right _
    _ = (s.reading now + (t - now : ℕ)) + c := by ring
    _ ≡ s.reading t + c [ZMOD readingWrap] := (State.reading_of_le he ht).symm.add_right _

lemma Moved.of_line (he : s.epoch ≤ now) (h : s'.line = s.line) : Moved s now s' 0 := by
  have hk := Kept.of_line he h
  exact .of_now he hk.epoch_le (by rw [hk.reading now le_rfl, add_zero])

lemma State.reading_of_epoch (phase : ℕ) (he : s.epoch = now - phase) (hle : phase ≤ now)
    (hlt : phase < awUs) : s.reading now = s.baseCounter.toNat * awUs + phase := by
  have hback : now - (now - phase) = phase := by omega
  have hbase : s.baseCounter.toNat < 65536 := UInt16.toNat_lt _
  rw [State.reading, State.toNat_counter, State.elapsed_eq, Line.ticks]
  simp only [State.line, he, hback]
  rw [Nat.div_eq_of_lt hlt, Nat.mod_eq_of_lt hlt, Nat.add_zero, Nat.mod_eq_of_lt hbase]

lemma readingWrap_of_counter {a b : ℤ} (h : a ≡ b [ZMOD 65536]) :
    a * awUs ≡ b * awUs [ZMOD readingWrap] := by
  have := h.mul_right' (c := (awUs : ℤ))
  simpa only [readingWrap, Nat.cast_mul, Nat.cast_ofNat] using this

lemma toNat_succ_modEq (x : UInt16) : ((x + 1).toNat : ℤ) ≡ x.toNat + 1 [ZMOD 65536] := by
  rw [UInt16.toNat_add]
  push_cast
  exact Int.mod_modEq _ _

lemma toNat_pred_modEq (x : UInt16) : ((x - 1).toNat : ℤ) ≡ x.toNat - 1 [ZMOD 65536] := by
  have h := toNat_succ_modEq (x - 1)
  rw [UInt16.sub_add_cancel] at h
  have := (h.sub_right 1).symm
  rwa [add_sub_cancel_right] at this

lemma State.slewClock_moved (he : s.epoch ≤ now) {c : ℤ} (hc : |c| ≤ 512) :
    Moved s now (s.slewClock c now) 0 ∨ Moved s now (s.slewClock c now) c := by
  unfold State.slewClock
  split
  · exact .inl (.of_line he rfl)
  · extract_lets phase base phase'
    split
    · rename_i hnow
      right
      have hlt : s.elapsed now % awUs < awUs := Nat.mod_lt _ awUs_pos
      obtain ⟨hlo, hhi⟩ := abs_le.mp hc
      have haw : awUs = 16384 := rfl
      -- borrow from or carry into the counter when the phase leaves its window
      have hcarry : 0 ≤ phase' ∧ phase' < awUs ∧
          (base.toNat : ℤ) * awUs + phase' ≡ (s.counter now).toNat * awUs + phase
            [ZMOD readingWrap] := by
        simp only [phase', base]
        split_ifs with hneg hover
        · refine ⟨by omega, by omega, ?_⟩
          have h := (readingWrap_of_counter (toNat_pred_modEq (s.counter now))).add_right
            (phase + awUs)
          rwa [sub_mul, one_mul, sub_add_add_cancel] at h
        · refine ⟨by omega, by omega, ?_⟩
          have h := (readingWrap_of_counter (toNat_succ_modEq (s.counter now))).add_right
            (phase - awUs)
          rwa [add_mul, one_mul, add_add_sub_cancel] at h
        · exact ⟨by omega, by omega, Int.ModEq.rfl⟩
      refine .of_now he (Nat.sub_le _ _) ?_
      rw [State.reading_of_epoch phase'.toNat rfl hnow (by omega)]
      have hread : (s.reading now : ℤ) + c = (s.counter now).toNat * awUs + phase := by
        simp only [State.reading, phase]
        push_cast
        ring
      grind
    · exact .inl (.of_line he rfl)

lemma State.clockDelta_modEq (s : State) (p : Peer) (now : ℕ) :
    s.clockDelta p now ≡ p.reading now - s.reading now [ZMOD readingWrap] := by
  have hremote : (if now ≥ p.epoch then now - p.epoch else 0) = now - p.epoch := by
    split <;> omega
  have hcounter : (((p.counter now).toNat : ℤ) - (s.counter now).toNat).bmod 65536 ≡
      (p.counter now).toNat - (s.counter now).toNat [ZMOD 65536] := Int.bmod_emod
  have h := (readingWrap_of_counter hcounter).add_right
    (((now - p.epoch) % awUs : ℕ) - (s.elapsed now % awUs : ℕ))
  have hp : (p.reading now : ℤ) - s.reading now =
      (((p.counter now).toNat : ℤ) - (s.counter now).toNat) * awUs +
        (((now - p.epoch) % awUs : ℕ) - (s.elapsed now % awUs : ℕ)) := by
    simp only [Peer.reading, State.reading]
    push_cast
    ring
  rw [hp]
  simp only [State.clockDelta, hremote]
  rw [add_sub_assoc]
  exact h

lemma clockCorrection_spec (δ : ℤ) :
    |State.clockCorrection δ| ≤ 512 ∧ |State.clockCorrection δ| ≤ |δ| ∧
      0 ≤ State.clockCorrection δ * δ := by
  unfold State.clockCorrection
  split_ifs with hhi hlo
  · grind
  · grind
  · exact ⟨abs_le.mpr ⟨by omega, by omega⟩, le_rfl, mul_self_nonneg δ⟩

/-- The parent's clock is taken over as it stands. -/
structure Adoption (s : State) (now : ℕ) (s' : State) (p : Peer) : Prop where
  entry : ∃ i : Fin 16, s.peers[i] = p
  parent : p.used ∧ s.nativeParentSelected ∧ p.mac = s.nativeParent
  authorized : s.nativeClockAcquisitionPending ∨
    (s.nativeClockSelected = false ∧ s.nativeTimelineStarted = false)
  reading : ∀ t, now ≤ t → s'.reading t = p.reading t

/-- The reading moves by `correction` towards the parent's, for a fresh sample whose
measured offset `δ` is small. -/
structure Discipline (s : State) (now : ℕ) (s' : State) (p : Peer) (δ correction : ℤ) :
    Prop where
  entry : ∃ i : Fin 16, s.peers[i] = p
  parent : p.used ∧ s.nativeParentSelected ∧ p.mac = s.nativeParent
  newer : s.clockSampleAt < p.seen
  offset : δ ≡ p.reading now - s.reading now [ZMOD readingWrap]
  offset_le : |δ| ≤ 5 * 1024
  bounded : |correction| ≤ 512
  towards : 0 ≤ correction * δ
  noOvershoot : |correction| ≤ |δ|
  reading : ∀ t, now ≤ t → (s'.reading t : ℤ) ≡ s.reading t + correction [ZMOD readingWrap]

lemma Moved.congr_left {s₁ s₂ : State} (h : s₂.line = s₁.line) {c : ℤ} (hm : Moved s₂ now s' c) :
    Moved s₁ now s' c :=
  ⟨hm.epoch_le, fun t ht => by
    have hr : s₂.reading t = s₁.reading t := by rw [State.reading_eq, State.reading_eq, h]
    rw [← hr]
    exact hm.reading t ht⟩

lemma State.line_validateSample (s : State) : s.validateSample.line = s.line := by
  unfold State.validateSample
  split <;> rfl

lemma State.line_loseParent (s : State) : s.loseParent.line = s.line := by
  unfold State.loseParent
  split <;> rfl

lemma State.trackClock_line (he : s.epoch ≤ now) (p : Peer) :
    (s.trackClock p now).line = s.line ∨
      (|s.clockDelta p now| ≤ 5 * 1024 ∧
        ∃ c, (c = 0 ∨ c = clockCorrection (s.clockDelta p now)) ∧
          Moved s now (s.trackClock p now) c) := by
  unfold State.trackClock
  extract_lets δ v
  have hv : v.line = s.line := s.line_validateSample
  split
  · exact .inl rfl
  · rename_i hsmall
    split
    · exact .inl hv
    · right
      refine ⟨abs_le.mpr ⟨by omega, by omega⟩, ?_⟩
      have hve : ({ v with clockSampleAt := p.seen } : State).epoch ≤ now :=
        (congrArg Line.epoch hv).trans_le he
      have hline : ({ v with clockSampleAt := p.seen } : State).line = s.line := hv
      rcases slewClock_moved hve (clockCorrection_spec δ).1 with hmoved | hmoved
      · exact ⟨0, .inl rfl, hmoved.congr_left hline⟩
      · exact ⟨_, .inr rfl, hmoved.congr_left hline⟩

lemma State.followPeer_line (hm : s.nativeElectionManaged) (he : s.epoch ≤ now) (p : Peer) :
    (s.followPeer p now).line = s.line ∨
      (s.adopts ∧ (s.followPeer p now).line = p.line) ∨
      (s.clockSampleAt < p.seen ∧ |s.clockDelta p now| ≤ 5 * 1024 ∧
        ∃ c, (c = 0 ∨ c = clockCorrection (s.clockDelta p now)) ∧
          Moved s now (s.followPeer p now) c) := by
  unfold State.followPeer
  split_ifs with hblocked hforeign hdefer hadopt hfresh
  · exact .inl rfl
  · exact .inl rfl
  · exact .inl rfl
  · refine .inr (.inl ⟨hadopt, ?_⟩)
    unfold State.acquireClock
    dsimp only
    split <;> rfl
  · -- a foreign clock was refused above, so the sample is newer
    have hsame : s.sameClock p := by
      grind
    have hnewer : s.clockSampleAt < p.seen := by simpa [hsame] using hfresh
    have hbind : (s.bindPeer p).line = s.line := rfl
    rcases (s.bindPeer p).trackClock_line he p with hline | ⟨hδ, c, hc, hmoved⟩
    · exact .inl hline
    · exact .inr (.inr ⟨hnewer, hδ, c, hc, hmoved.congr_left hbind⟩)
  · exact .inl rfl

/-- An election of a native-managed engine keeps the reading, adopts the parent's or moves it by a
bounded step. -/
lemma State.elect_reading (hm : s.nativeElectionManaged) (he : s.epoch ≤ now) :
    (∀ t, now ≤ t → (s.elect now).reading t = s.reading t) ∨
      (∃ p, Adoption s now (s.elect now) p) ∨
      ∃ p δ c, Discipline s now (s.elect now) p δ c := by
  have hstep := s.elect_step now
  generalize s.elect now = s' at hstep ⊢
  have hkept : ∀ {s' : State}, s'.line = s.line →
      (∀ t, now ≤ t → s'.reading t = s.reading t) ∨ (∃ p, Adoption s now s' p) ∨
        ∃ p δ c, Discipline s now s' p δ c := fun h => .inl (Kept.of_line he h).reading
  obtain ⟨counter, epoch, peers, hfresh⟩ := s.refreshed_eq now
  have hline : (s.refreshed now).line = s.line := by rw [hfresh]; rfl
  cases hstep with
  | held _ => exact hkept rfl
  | unselected _ _ _ =>
    obtain ⟨_, _, hadv⟩ := s.advanceElection_eq now
    exact hkept (by rw [hadv]; rfl)
  | lost _ _ =>
    exact hkept ((s.refreshed now).line_loseParent.trans hline)
  | @follow _ hp p hc =>
    have hparent : p.used ∧ s.nativeParentSelected ∧ p.mac = s.nativeParent :=
      ⟨hc.used, hp hm, hc.parent hm⟩
    have hm' : (s.refreshed now).nativeElectionManaged := by rw [hfresh]; exact hm
    have he' : (s.refreshed now).epoch ≤ now := by rw [hfresh]; exact he
    rcases State.followPeer_line hm' he' p with h | ⟨had, h⟩ | ⟨hnew, hδ, c, hc', hmoved⟩
    · exact hkept (h.trans hline)
    · refine .inr (.inl ⟨p, hc.entry, hparent, ?_, ?_⟩)
      · rw [State.adopts, hfresh] at had
        simpa [hm] using had
      · intro t _
        rw [State.reading_eq, Peer.reading_eq, h]
    · have hmoved' := hmoved.congr_left hline
      have hdelta : (s.refreshed now).clockDelta p now = s.clockDelta p now := by
        rw [hfresh]; rfl
      rw [hdelta] at hδ hc'
      refine .inr (.inr ⟨p, s.clockDelta p now, c, ?_⟩)
      obtain ⟨h512, hle, hsign⟩ := clockCorrection_spec (s.clockDelta p now)
      have hnew' : s.clockSampleAt < p.seen := by rw [hfresh] at hnew; exact hnew
      rcases hc' with rfl | rfl
      · exact ⟨hc.entry, hparent, hnew', s.clockDelta_modEq p now, hδ, by simp, by simp,
          by simp, hmoved'.reading⟩
      · exact ⟨hc.entry, hparent, hnew', s.clockDelta_modEq p now, hδ, h512, hsign, hle,
          hmoved'.reading⟩

lemma State.followPeer_epoch_le (he : s.epoch ≤ now) {p : Peer} (hp : p.epoch ≤ now) :
    (s.followPeer p now).epoch ≤ now := by
  unfold State.followPeer
  split_ifs
  · exact he
  · exact he
  · exact he
  · unfold State.acquireClock
    dsimp only
    split <;> exact hp
  · rcases (s.bindPeer p).trackClock_line he p with hline | ⟨-, c, -, hmoved⟩
    · exact (congrArg Line.epoch hline).trans_le he
    · exact hmoved.epoch_le
  · exact he

lemma State.elect_epoch_le (ht : TableOk s.mac s.peers) (he : s.epoch ≤ now) :
    (s.elect now).epoch ≤ now := by
  have hstep := s.elect_step now
  generalize s.elect now = s' at hstep ⊢
  obtain ⟨_, _, _, hfresh⟩ := s.refreshed_eq now
  have he' : (s.refreshed now).epoch ≤ now := by rw [hfresh]; exact he
  cases hstep with
  | held _ => exact he
  | unselected _ _ _ =>
    obtain ⟨_, _, hadv⟩ := s.advanceElection_eq now
    rw [hadv]
    exact he
  | lost _ _ =>
    generalize s.refreshed now = r at he' ⊢
    exact (congrArg Line.epoch r.line_loseParent).trans_le he'
  | @follow _ _ p hc =>
    have hp : p.epoch ≤ now := by
      obtain ⟨i, rfl⟩ := hc.entry
      exact (ht.entry i hc.used).epoch_le.trans hc.seen_le
    exact State.followPeer_epoch_le he' hp

/-- The states in which an operation runs its election. -/
inductive BeforeElect (s : State) (now : ℕ) : Op → State → Prop
  | elect : BeforeElect s now .elect s
  | releaseControls (h : s.controlsHeld) :
      BeforeElect s now .releaseControls (s.commitControls now)
  | receiveAction {f : Bytes} {a : Advertisement} {i : Fin 16} (ha : parseAdvertisement f = some a)
      (hne : macAt f 10 ≠ s.mac) (hi : s.peerSlot (macAt f 10) now = some i) :
      BeforeElect s now (.receiveAction f)
        (s.storePeer i (State.observation (macAt f 10) a now))

/-- An operation keeps the reading, or ends in an election from a state with the same reading. -/
lemma Op.apply_kept (he : s.epoch ≤ now) (op : Op) :
    Kept s now (op.apply s now) ∨
      ∃ s₁, BeforeElect s now op s₁ ∧ op.apply s now = s₁.elect now ∧ Kept s now s₁ := by
  cases op with
  | receiveAction f =>
    exact State.receiveAction_keeps (P := fun t => Kept s now t ∨ ∃ s₁, BeforeElect s now _ s₁ ∧
        t = s₁.elect now ∧ Kept s now s₁) (.inl (.refl he)) fun ha hne hslot =>
      .inr ⟨_, .receiveAction ha hne hslot, rfl, .of_line he rfl⟩
  | elect => exact .inr ⟨s, .elect, rfl, .refl he⟩
  | setSyncRole role address => exact .inl (.setSyncRole he role address)
  | setPresence value => exact .inl (.setPresence he value)
  | setSequence value => exact .inl (.setSequence he value)
  | setSocialChannel index channel => exact .inl (.setSocialChannel he index channel)
  | holdControls => exact .inl (.holdControls he)
  | releaseControls =>
    simp only [Op.apply, State.releaseControls]
    split
    · exact .inl (.refl he)
    · rename_i hheld
      exact .inr ⟨_, .releaseControls (by simpa using hheld), rfl, .commitControls he⟩
  | discardControls => exact .inl (.of_line he rfl)
  | selectNativeParent address root acquire =>
    exact .inl (.selectNativeParent he address root acquire)
  | clearNativeParent => exact .inl (.clearNativeParent he)
  | holdClock deadline => exact .inl (.of_line he rfl)
  | startTimeline => exact .inl (.of_line he rfl)
  | nextFrame => exact .inl (.of_line he rfl)

/-- The invariant holds where an operation elects. -/
lemma BeforeElect.inv (h : Inv s) {op : Op} {s₁ : State} (hb : BeforeElect s now op s₁) :
    Inv s₁ := by
  cases hb with
  | elect => exact h
  | releaseControls _ => exact h.commitControls now
  | receiveAction ha hne hi =>
    exact h.withPeers (h.table.store ((parseAdvertisement_ok ha).peerOk hne now) hi)

lemma ReachableBy.epoch_le {ok : State → Op → Prop} (h : ReachableBy ok s now) :
    s.epoch ≤ now := by
  induction h with
  | init h =>
    unfold State.init at h
    split at h
    · cases h
    · cases h
      exact le_rfl
  | @step s last hs op _ now hle ih =>
    have he : s.epoch ≤ now := ih.trans hle
    rcases Op.apply_kept he op with hk | ⟨s₁, hb, heq, hk⟩
    · exact hk.epoch_le
    · rw [heq]
      exact State.elect_epoch_le (hb.inv hs.reachable.inv).table hk.epoch_le

/-- A clock that native selected and that no pending selection may replace. -/
structure Committed (s : State) : Prop where
  managed : s.nativeElectionManaged
  selected : s.nativeClockSelected
  settled : s.nativeClockAcquisitionPending = false

/-- The identity of the clock and the number of takeovers. -/
def State.clockIdentity (s : State) : Mac × Mac × ℕ :=
  (s.clockParent, s.clockRoot, s.nativeClockAcquisitions)

/-- The fields that decide whether a clock is committed, and which one. -/
def State.clockFields (s : State) : Bool × Bool × Bool × Mac × Mac × ℕ :=
  (s.nativeElectionManaged, s.nativeClockSelected, s.nativeClockAcquisitionPending,
    s.clockIdentity)

lemma Committed.congr (h : Committed s) (e : s'.clockFields = s.clockFields) : Committed s' := by
  simp only [State.clockFields, Prod.mk.injEq] at e
  exact ⟨e.1 ▸ h.managed, e.2.1 ▸ h.selected, e.2.2.1 ▸ h.settled⟩

lemma State.clockFields_slewClock (s : State) (c : ℤ) (now : ℕ) :
    (s.slewClock c now).clockFields = s.clockFields := by
  obtain ⟨_, _, _, heq⟩ := s.slewClock_eq c now
  rw [heq]
  rfl

lemma State.clockFields_trackClock (s : State) (p : Peer) (now : ℕ) :
    (s.trackClock p now).clockFields = s.clockFields := by
  have hv : s.validateSample.clockFields = s.clockFields := by
    unfold State.validateSample
    split <;> rfl
  unfold State.trackClock
  dsimp only
  split_ifs
  · rfl
  · exact hv
  · rw [State.clockFields_slewClock]
    exact hv

lemma Committed.followPeer (h : Committed s) (p : Peer) :
    (s.followPeer p now).clockFields = s.clockFields := by
  have hadopts : s.adopts = false := by
    simp [State.adopts, h.managed, h.selected, h.settled]
  unfold State.followPeer
  split_ifs with hblocked hforeign hdefer hadopt hfresh
  · rfl
  · rfl
  · rfl
  · simp [hadopts] at hadopt
  all_goals
    have hsame : s.sameClock p := by
      by_contra hne
      exact hforeign ⟨h.managed, by simpa using hne, by simp [hadopts]⟩
    have hbind : (s.bindPeer p).clockFields = s.clockFields := by
      simp [State.clockFields, State.clockIdentity, State.bindPeer, hsame]
  · rw [State.clockFields_trackClock]
    exact hbind
  · exact hbind

/-- An election does not touch a committed clock's identity. -/
lemma Committed.elect (h : Committed s) (now : ℕ) :
    (s.elect now).clockFields = s.clockFields := by
  have hstep := s.elect_step now
  generalize s.elect now = s' at hstep ⊢
  obtain ⟨_, _, _, hfresh⟩ := s.refreshed_eq now
  have hf : (s.refreshed now).clockFields = s.clockFields := by rw [hfresh]; rfl
  cases hstep with
  | held _ => rfl
  | unselected _ _ _ =>
    obtain ⟨_, _, hadv⟩ := s.advanceElection_eq now
    rw [hadv]
    rfl
  | lost _ _ =>
    rw [← hf]
    generalize s.refreshed now = r
    unfold State.loseParent
    split <;> rfl
  | @follow _ _ p hc => rw [(h.congr hf).followPeer p, hf]

lemma Committed.receiveAction (h : Committed s) (f : Bytes) (now : ℕ) :
    (s.receiveAction f now).2.clockFields = s.clockFields := by
  refine State.receiveAction_keeps (P := fun t => t.clockFields = _) rfl fun {a i} _ _ _ => ?_
  have hstore : Committed (s.storePeer i (State.observation (macAt f 10) a now)) := h.congr rfl
  exact hstore.elect now

lemma Committed.receiveAll (h : Committed s) (frames : List (ℕ × Bytes)) :
    (runOps s (frames.map fun f => (f.1, Op.receiveAction f.2))).clockFields = s.clockFields := by
  induction frames generalizing s with
  | nil => rfl
  | cons f rest ih =>
    have hf := h.receiveAction f.2 f.1
    exact (ih (h.congr hf)).trans hf

lemma State.managed_commitControls (s : State) (now : ℕ) :
    (s.commitControls now).nativeElectionManaged = s.nativeElectionManaged := by
  have hreq : (s.committedRequests now).nativeElectionManaged = s.nativeElectionManaged :=
    congrArg (fun x => x.2.1) (s.transaction_committedPlan now)
  rw [State.commitControls_eq]
  split_ifs
  · rw [← hreq]
    unfold State.clearNativeParent
    dsimp only
    split_ifs <;> rfl
  · exact hreq
  · rfl

lemma BeforeElect.managed {op : Op} {s₁ : State} (h : BeforeElect s now op s₁) :
    s₁.nativeElectionManaged = s.nativeElectionManaged := by
  cases h with
  | elect => rfl
  | releaseControls _ => exact s.managed_commitControls now
  | receiveAction _ _ _ => rfl

/-- An operation on a native-managed engine keeps the AW reading from then on, except where
it runs an election, and that election adopts the selected parent's clock under a native
authorization or moves the reading by a bounded step towards it. Received frames alone never
replace a committed clock. -/
theorem reading_continuity {s : State} {last now : ℕ} (h : ReachableAt s last)
    (hm : s.nativeElectionManaged) (hle : last ≤ now) :
    (∀ op : Op, (∀ t, now ≤ t → (op.apply s now).reading t = s.reading t) ∨
      ∃ s₁, BeforeElect s now op s₁ ∧ op.apply s now = s₁.elect now ∧
        (∀ t, now ≤ t → s₁.reading t = s.reading t) ∧
        ((∃ p, Adoption s₁ now (op.apply s now) p) ∨
          ∃ p δ c, Discipline s₁ now (op.apply s now) p δ c)) ∧
    (s.nativeClockSelected → s.nativeClockAcquisitionPending = false →
      ∀ frames : List (ℕ × Bytes),
        (runOps s (frames.map fun f => (f.1, Op.receiveAction f.2))).clockIdentity =
          s.clockIdentity) := by
  have he : s.epoch ≤ now := h.epoch_le.trans hle
  refine ⟨fun op => ?_, fun hsel hset frames => ?_⟩
  · rcases Op.apply_kept he op with hk | ⟨s₁, hb, heq, hk⟩
    · exact .inl hk.reading
    · have hm₁ : s₁.nativeElectionManaged := hb.managed.trans hm
      rcases State.elect_reading hm₁ hk.epoch_le with hread | hmove
      · left
        intro t ht
        rw [heq, hread t ht, hk.reading t ht]
      · exact .inr ⟨s₁, hb, heq, hk.reading, by rwa [heq]⟩
  · have hall := Committed.receiveAll ⟨hm, hsel, hset⟩ frames
    simp only [State.clockFields, Prod.mk.injEq] at hall
    exact hall.2.2.2

/-- Operations up to a committed clock of station B, ten windows into the run. -/
def followB : List (ℕ × Op) :=
  [(163840, .receiveAction (beacon stationB 5 0 163840)),
    (163840, .receiveAction (beacon stationC 5 81920 163840)),
    (163840, .selectNativeParent stationB none false), (163840, .elect)]

/-- A native station that follows station B. -/
def followerB : State := runOps (State.fresh stationA samplePlan 0 0 true) followB

lemma followerB_reachable : ReachableAt followerB 163840 :=
  (ReachableBy.fresh (by decide) (by decide) 0 0 true).runOps followB (by decide +kernel)

/-- The follower's clock survives a frame of station C, whose clock runs five windows behind. -/
theorem reading_continuity_followerB :
    (∀ op : Op, (∀ t, 163840 ≤ t → (op.apply followerB 163840).reading t = followerB.reading t) ∨
      ∃ s₁, BeforeElect followerB 163840 op s₁ ∧ op.apply followerB 163840 = s₁.elect 163840 ∧
        (∀ t, 163840 ≤ t → s₁.reading t = followerB.reading t) ∧
        ((∃ p, Adoption s₁ 163840 (op.apply followerB 163840) p) ∨
          ∃ p δ c, Discipline s₁ 163840 (op.apply followerB 163840) p δ c)) ∧
    (∀ frames : List (ℕ × Bytes),
      (runOps followerB (frames.map fun f => (f.1, Op.receiveAction f.2))).clockIdentity =
        followerB.clockIdentity) := by
  have h := reading_continuity followerB_reachable (by decide +kernel) le_rfl
  exact ⟨h.1, h.2 (by decide +kernel) (by decide +kernel)⟩

/-- The clock of B is forgotten, then a parent selection is dropped by a discarded clear. -/
def dropB : List (ℕ × Op) :=
  [(163840, .clearNativeParent), (163840, .selectNativeParent stationC none false),
    (163840, .holdControls), (163840, .clearNativeParent), (163840, .discardControls)]

/-- A clock had been selected in this run and no acquisition is pending, yet an election
adopts station C's clock and moves the reading by five windows. -/
theorem adoption_after_cleared_clock :
    ReachableAt (runOps followerB dropB) 163840 ∧
      (runOps followerB dropB).nativeElectionManaged ∧ followerB.nativeClockSelected ∧
      (runOps followerB dropB).nativeClockAcquisitionPending = false ∧
      ((runOps followerB dropB).elect 163840).reading 163840 + 81920 =
        (runOps followerB dropB).reading 163840 :=
  ⟨followerB_reachable.runOps dropB (by decide +kernel), by decide +kernel, by decide +kernel,
    by decide +kernel, by decide +kernel⟩

end AirportAwdl.Election
