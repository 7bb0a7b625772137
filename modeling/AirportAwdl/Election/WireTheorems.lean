import AirportAwdl.Election.Continuity

/-!
# What the encoder writes, the decoder reads

A station advertises its position inside the current extended availability window as a
counter and a countdown (`countdownTu_eq`, `counter_mod_presence`). `SyncFrame` lists the fields of a built frame that the decoder looks at, each read off one
store (`storeAll_syncFrame`). From these alone `parseAdvertisement` recovers the
sender's schedule, tree and clock reading (`SyncFrame.parseAdvertisement`).
-/

namespace AirportAwdl.Election

open ByteBuffer Timeline

/-- Microseconds since the current EAW began. -/
def State.position (s : State) (t : ℕ) : ℕ := s.line.frameOffset awUs s.presence.toNat t

section
variable {s : State}

lemma State.position_lt (hp : validPresence s.presence.toNat) (t : ℕ) :
    s.position t < s.presence.toNat * awUs :=
  Line.frameOffset_lt (validPresence_pos hp) awUs_pos t

lemma State.untilNext_eq (hp : validPresence s.presence.toNat) (t : ℕ) :
    s.untilNext t = s.presence.toNat * awUs - s.position t := by
  rw [State.untilNext, if_neg (by simp [hp]), State.elapsed_eq, State.position,
    Line.frameOffset_eq_residues]
  rfl

lemma State.countdownTu_eq (hp : validPresence s.presence.toNat) (t : ℕ) :
    s.countdownTu t = s.presence.toNat * 16 - s.position t / 1024 := by
  have hlt := s.position_lt hp t
  rw [State.countdownTu, State.untilNext_eq hp]
  simp only [awUs] at hlt ⊢
  omega

lemma State.countdownTu_bounds (hp : validPresence s.presence.toNat) (t : ℕ) :
    0 < s.countdownTu t ∧ s.countdownTu t ≤ s.presence.toNat * 16 ∧ s.countdownTu t ≤ 256 := by
  have hlt := s.position_lt hp t
  have hle : s.presence.toNat ≤ 16 := by
    rcases (validPresence_iff _).mp hp with h | h | h | h | h <;> omega
  rw [State.countdownTu_eq hp]
  simp only [awUs] at hlt
  omega

lemma State.toNat_countdownTu (hp : validPresence s.presence.toNat) (t : ℕ) :
    (UInt16.ofNat (s.countdownTu t)).toNat = s.countdownTu t := by
  have hle := (State.countdownTu_bounds hp t).2.2
  rw [UInt16.toNat_ofNat']
  exact Nat.mod_eq_of_lt (by omega)

lemma State.counter_mod_presence (hp : validPresence s.presence.toNat) (t : ℕ) :
    (s.counter t).toNat % s.presence.toNat =
      (s.presence.toNat * 16 - s.countdownTu t) / 16 := by
  have hpos : s.presence.toNat * 16 - s.countdownTu t = s.position t / 1024 := by
    have hlt := s.position_lt hp t
    rw [State.countdownTu_eq hp]
    simp only [awUs] at hlt
    omega
  have hphase : (t - s.line.epoch) % awUs < awUs := Nat.mod_lt _ awUs_pos
  have hoff : s.position t =
      s.line.ticks awUs t % s.presence.toNat * awUs + (t - s.line.epoch) % awUs :=
    Line.frameOffset_eq awUs_pos _ t
  rw [hpos, Nat.div_div_eq_div_mul, hoff, State.toNat_counter,
    Line.ticks_wrap_mod (validPresence_dvd hp)]
  simp only [awUs] at hphase ⊢
  omega

end

/-- The bytes of a synchronization frame for a full channel list. -/
structure SyncFrame (s : State) (now : ℕ) (subtype : UInt8) (f : Bytes) : Prop where
  length_eq : f.length = 141
  control : byteAt f 0 = 0xd0 ∧ byteAt f 1 = 0
  fragment : byteAt f 22 &&& 15 = 0
  source : macAt f 10 = s.mac
  network : macAt f 16 = bssid
  category : byteAt f 24 = 127 ∧ byteAt f 25 = 0 ∧ byteAt f 26 = 0x17 ∧ byteAt f 27 = 0xf2 ∧
    byteAt f 28 = 8
  version : byteAt f 29 = 0x10 ∧ byteAt f 30 = subtype
  syncTlv : byteAt f 40 = 4 ∧ le16 f 41 = 55
  channel : byteAt f 43 = s.channel now ∧ byteAt f 46 = s.channel now
  countdown : le16 f 44 = UInt16.ofNat (s.countdownTu now)
  period : le16 f 48 = 16
  actionPeriod : le16 f 50 = s.psfPeriod
  common : le16 f 56 = 16
  master : macAt f 64 = s.master
  presence : byteAt f 70 = s.presence
  counter : le16 f 72 = s.counter now
  listHead : byteAt f 76 = 15 ∧ byteAt f 77 = 0 ∧ byteAt f 78 = 0 ∧
    byteAt f 79 = s.sequence.step ∧ le16 f 80 = 0xffff
  channels : ∀ i : Fin 16, byteAt f (82 + i) = s.sequence.channels[i]
  electionTlv : byteAt f 98 = 24 ∧ le16 f 99 = 40
  root : macAt f 101 = s.master
  parent : macAt f 107 = s.sync
  masterCounter : le32 f 113 = s.masterCounter
  height : le32 f 117 = s.distance
  masterMetric : le32 f 121 = s.masterMetric
  selfCounter : le32 f 137 = s.selfCounter

variable {s : State} {now : ℕ} {phyTime targetTime : UInt32} {subtype : UInt8}

lemma fragment_eq_zero (counter : UInt16) :
    ((counter &&& 4095) <<< 4).toUInt8 &&& 15 = 0 := by
  apply UInt8.toNat_inj.mp
  have hshift : (4 : UInt16).toNat % 16 = 4 := rfl
  have hmask : (15 : UInt8).toNat = 2 ^ 4 - 1 := rfl
  rw [UInt8.toNat_and, hmask, Nat.and_two_pow_sub_one_eq_mod, UInt16.toNat_toUInt8,
    UInt16.toNat_shiftLeft, hshift, Nat.shiftLeft_eq]
  simp only [UInt8.toNat_zero]
  omega

lemma synchronizationStores_eq (hc : s.sequence.count = 16) :
    synchronizationStores s now phyTime targetTime subtype =
      [(0, [0xd0]), (4, List.replicate 6 255), (10, s.mac.toList), (16, bssid.toList),
        (22, put16 ((s.frameCounter &&& 4095) <<< 4)), (24, [127]), (26, [0x17]), (27, [0xf2]),
        (28, [8]), (29, [0x10]), (30, [subtype]), (32, put32 phyTime), (36, put32 targetTime),
        (40, [4]), (41, put16 55), (43, [s.channel now]), (46, [s.channel now]),
        (44, put16 (UInt16.ofNat (s.countdownTu now))), (48, put16 16), (54, put16 16),
        (56, put16 16), (58, put16 (UInt16.ofNat (s.commonTu now))),
        (60, (List.finRange 4).map s.extension), (64, s.master.toList), (70, [s.presence]),
        (72, put16 (s.counter now)), (74, put16 (s.counter now)), (76, [15]), (77, [0]),
        (78, [0]), (79, [s.sequence.step]), (80, put16 0xffff), (82, s.sequence.channels.toList),
        (50, put16 s.psfPeriod), (98, [24]), (99, put16 40), (101, s.master.toList),
        (107, s.sync.toList), (113, put32 s.masterCounter), (117, put32 s.distance),
        (121, put32 s.masterMetric), (125, put32 s.metric), (137, put32 s.selfCounter)] := by
  have htake : s.sequence.channels.toList.take 16 = s.sequence.channels.toList :=
    List.take_of_length_le (by simp)
  simp [synchronizationStores, writeSync, writeSequence, writeElection, syncLength, hc, htake]

/-- Offsets and lengths of these stores. -/
def syncExtents : List (ℕ × ℕ) :=
  [(0, 1), (4, 6), (10, 6), (16, 6), (22, 2), (24, 1), (26, 1), (27, 1), (28, 1), (29, 1),
    (30, 1), (32, 4), (36, 4), (40, 1), (41, 2), (43, 1), (46, 1), (44, 2), (48, 2), (54, 2),
    (56, 2), (58, 2), (60, 4), (64, 6), (70, 1), (72, 2), (74, 2), (76, 1), (77, 1), (78, 1),
    (79, 1), (80, 2), (82, 16), (50, 2), (98, 1), (99, 2), (101, 6), (107, 6), (113, 4),
    (117, 4), (121, 4), (125, 4), (137, 4)]

lemma synchronizationStores_extents (hc : s.sequence.count = 16) :
    (synchronizationStores s now phyTime targetTime subtype).map extent = syncExtents := by
  rw [synchronizationStores_eq hc]
  simp [extent, syncExtents]

lemma storeAll_syncFrame (hc : s.sequence.count = 16) :
    SyncFrame s now subtype (storeAll (List.replicate 141 0)
      (synchronizationStores s now phyTime targetTime subtype)) := by
  have heq : synchronizationStores s now phyTime targetTime subtype = _ :=
    synchronizationStores_eq hc
  have hext : (synchronizationStores s now phyTime targetTime subtype).map extent = syncExtents :=
    synchronizationStores_extents hc
  have hlen : (List.replicate 141 (0 : UInt8)).length = 141 := List.length_replicate
  generalize synchronizationStores s now phyTime targetTime subtype = stores at heq hext ⊢
  have hfit : Fits (List.replicate 141 (0 : UInt8)).length stores :=
    .of_extents hext (by rw [hlen]; decide)
  have hd : stores.Pairwise Apart := Apart.of_extents hext (by decide)
  have zero : ∀ i < 141, (∀ e ∈ syncExtents, i < e.1 ∨ e.1 + e.2 ≤ i) →
      byteAt (storeAll (List.replicate 141 0) stores) i = 0 := fun i hlt hi => by
    rw [byteAt_storeAll_of_extents hfit hext hi, byteAt_replicate, if_pos hlt]
  have byte : ∀ {off v}, (off, [v]) ∈ stores → _ = v := byteAt_storeAll_byte hfit hd
  have half : ∀ {off v}, (off, put16 v) ∈ stores → _ = v := le16_storeAll hfit hd
  have word : ∀ {off v}, (off, put32 v) ∈ stores → _ = v := le32_storeAll hfit hd
  have mac : ∀ {off} {m : Mac}, (off, m.toList) ∈ stores → _ = m := macAt_storeAll hfit hd
  exact {
    length_eq := by rw [length_storeAll hfit, hlen]
    control := ⟨byte (by simp [heq]), zero 1 (by decide) (by decide)⟩
    fragment := by
      have hmem : (22, put16 ((s.frameCounter &&& 4095) <<< 4)) ∈ stores := by simp [heq]
      have hbyte : byteAt (storeAll (List.replicate 141 0) stores) (22 + 0) = _ :=
        byteAt_storeAll hfit hd hmem Nat.two_pos
      rw [hbyte]
      exact fragment_eq_zero s.frameCounter
    source := mac (by simp [heq])
    network := mac (by simp [heq])
    category := ⟨byte (by simp [heq]), zero 25 (by decide) (by decide), byte (by simp [heq]),
      byte (by simp [heq]), byte (by simp [heq])⟩
    version := ⟨byte (by simp [heq]), byte (by simp [heq])⟩
    syncTlv := ⟨byte (by simp [heq]), half (by simp [heq])⟩
    channel := ⟨byte (by simp [heq]), byte (by simp [heq])⟩
    countdown := half (by simp [heq])
    period := half (by simp [heq])
    actionPeriod := half (by simp [heq])
    common := half (by simp [heq])
    master := mac (by simp [heq])
    presence := byte (by simp [heq])
    counter := half (by simp [heq])
    listHead := ⟨byte (by simp [heq]), byte (by simp [heq]), byte (by simp [heq]),
      byte (by simp [heq]), half (by simp [heq])⟩
    channels := fun i => by
      have hmem : (82, s.sequence.channels.toList) ∈ stores := by simp [heq]
      rw [byteAt_storeAll hfit hd hmem (by simp)]
      simp [byteAt]
    electionTlv := ⟨byte (by simp [heq]), half (by simp [heq])⟩
    root := mac (by simp [heq])
    parent := mac (by simp [heq])
    masterCounter := word (by simp [heq])
    height := word (by simp [heq])
    masterMetric := word (by simp [heq])
    selfCounter := word (by simp [heq]) }

lemma presence_checks {v : UInt8} (h : validPresence v.toNat) :
    v ≠ 0 ∧ v ≤ 16 ∧ v &&& (v - 1) = 0 := by
  have hv : v = UInt8.ofNat v.toNat := UInt8.ofNat_toNat.symm
  rcases (validPresence_iff _).mp h with hn | hn | hn | hn | hn <;> rw [hv, hn] <;> decide

lemma finishSync_embedded {scan : SyncScan} (hsync : scan.haveSync = true)
    (hseq : scan.haveSequence = false) (hemb : scan.haveEmbedded = true)
    (hel : scan.decoded.electionPresent = true)
    (hstride : scan.embedded.stride = scan.decoded.presence) :
    finishSync scan = .ok { scan.decoded with
      master := scan.electedMaster, sequence := scan.embedded } := by
  simp [finishSync, hsync, hseq, hemb, hel, hstride]

namespace SyncFrame

variable {f : Bytes}

lemma cursor (h : SyncFrame s now subtype f) :
    (TlvCursor.mk (f.drop 40) false).next =
        (some ⟨4, slice f 43 55⟩, TlvCursor.mk (f.drop 98) false) ∧
      (TlvCursor.mk (f.drop 98) false).next =
        (some ⟨24, slice f 101 40⟩, TlvCursor.mk (f.drop 141) false) := by
  constructor
  · have hlen : (le16 (f.drop 40) 1).toNat = 55 := by
      rw [le16_drop, h.syncTlv.2]
      rfl
    have hfit : 3 + 55 ≤ (f.drop 40).length := by rw [List.length_drop, h.length_eq]; decide
    rw [TlvCursor.next_of_fits (c := ⟨f.drop 40, false⟩) rfl hlen hfit]
    simp only [byteAt_drop, slice_drop, List.drop_drop, Nat.reduceAdd, h.syncTlv.1]
  · have hlen : (le16 (f.drop 98) 1).toNat = 40 := by
      rw [le16_drop, h.electionTlv.2]
      rfl
    have hfit : 3 + 40 ≤ (f.drop 98).length := by rw [List.length_drop, h.length_eq]
    rw [TlvCursor.next_of_fits (c := ⟨f.drop 98, false⟩) rfl hlen hfit]
    simp only [byteAt_drop, slice_drop, List.drop_drop, Nat.reduceAdd, h.electionTlv.1]

lemma parseAction (h : SyncFrame s now subtype f) :
    ∃ info, AirportAwdl.parseAction (f.drop 24) = (.valid, info) ∧ info.version = 0x10 ∧
      info.subtype = subtype := by
  obtain ⟨c0, c1, c2, c3, c4⟩ := h.category
  obtain ⟨v0, v1⟩ := h.version
  obtain ⟨hn₁, hn₂⟩ := h.cursor
  have hlen : (f.drop 24).length = 117 := by rw [List.length_drop, h.length_eq]
  have hnil : f.drop 141 = [] := List.drop_eq_nil_of_le h.length_eq.le
  have hloop : ∀ parsed, ∃ parsed', TlvCursor.forEach countTlv (98 + 3) ⟨f.drop 40, false⟩ parsed =
      .ok (parsed', ⟨f.drop 141, false⟩) ∧ parsed'.version = parsed.version ∧
        parsed'.subtype = parsed.subtype := fun parsed =>
    ⟨_, TlvCursor.forEach_two 98 hn₁ hn₂ hnil rfl rfl, rfl, rfl⟩
  unfold AirportAwdl.parseAction
  simp only [byteAt_drop, hlen, Nat.reduceAdd, c0, c1, c2, c3, c4, v0, v1, List.drop_drop,
    List.length_drop, h.length_eq]
  obtain ⟨parsed', hok, hver, hsub⟩ := hloop { version := 16, subtype := subtype }
  grind

lemma parseFrame (h : SyncFrame s now subtype f) : (AirportAwdl.parseFrame f).1 = .valid := by
  obtain ⟨info, hinfo, -⟩ := h.parseAction
  obtain ⟨c0, c1⟩ := h.control
  unfold AirportAwdl.parseFrame
  rw [if_neg, hinfo]
  rw [h.length_eq, c0, c1, h.fragment]
  decide

lemma decodeChannelSequence (h : SyncFrame s now subtype f) (hv : validSequence s.sequence) :
    AirportAwdl.decodeChannelSequence (slice f 76 22) = .ok {
      channel := s.sequence.channels
      auxiliary := Vector.ofFn fun _ => 0
      encoding := 0
      stride := s.sequence.step + 1
      count := 16 } := by
  obtain ⟨-, hstep, hle⟩ := (validSequence_iff _).mp hv
  have hlen : (slice f 76 22).length = 22 := length_slice (by rw [h.length_eq]; decide)
  obtain ⟨l0, l1, l2, l3, l4⟩ := h.listHead
  have b0 : byteAt (slice f 76 22) 0 = 15 := (byteAt_slice (by decide)).trans l0
  have b1 : byteAt (slice f 76 22) 1 = 0 := (byteAt_slice (by decide)).trans l1
  have b2 : byteAt (slice f 76 22) 2 = 0 := (byteAt_slice (by decide)).trans l2
  have b3 : byteAt (slice f 76 22) 3 = s.sequence.step := (byteAt_slice (by decide)).trans l3
  have b4 : le16 (slice f 76 22) 4 = 0xffff := (le16_slice (by decide)).trans l4
  have hchannel : ∀ i : Fin 16, entryChannel (slice f 76 22) i = s.sequence.channels[i] := by
    intro i
    rw [← h.channels i]
    simp only [entryChannel, b1, entryWidth]
    rw [byteAt_slice (by simp; omega)]
    congr 1
    simp
    omega
  have haux : ∀ i : ℕ, entryAuxiliary (slice f 76 22) i = 0 := fun i => by
    simp [entryAuxiliary, b1, entryWidth]
  have hall : (List.range 16).all (entryAllowed (slice f 76 22)) = true := by
    rw [List.all_eq_true]
    intro i hi
    have hc := hchannel ⟨i, List.mem_range.mp hi⟩
    grind [entryAllowed]
  have hstep15 : ¬ s.sequence.step > 15 := by
    grind [UInt8.lt_iff_toNat_lt, validPresence_iff]
  have hdrop : (slice f 76 22).drop 22 = [] := List.drop_eq_nil_of_le hlen.le
  unfold AirportAwdl.decodeChannelSequence
  simp only [hlen, b0, b1, b2, b3, b4, hall, entryWidth, hstep15]
  rw [if_neg (by decide), if_neg (by simp), if_neg (by simp), if_neg (by simp [hdrop]),
    if_pos trivial]
  simp_all

lemma scanSync (h : SyncFrame s now subtype f) (hinv : Inv s) (scan : SyncScan)
    (hnew : scan.haveSync = false) :
    ∃ d embedded, AirportAwdl.scanSync scan (slice f 43 55) =
        .ok { scan with decoded := d, haveSync := true, embedded := embedded, haveEmbedded := true } ∧
      d.electionPresent = scan.decoded.electionPresent ∧
      d.versionPresent = scan.decoded.versionPresent ∧ d.nextChannel = s.channel now ∧ d.masterChannel = s.channel now ∧ d.periodTu = 16 ∧
      d.countdownTu = UInt16.ofNat (s.countdownTu now) ∧ d.presence = s.presence ∧
      d.counter = s.counter now ∧ embedded.channel = s.sequence.channels ∧
      embedded.stride = s.sequence.step + 1 ∧ embedded.count = 16 := by
  have hp := hinv.plan.validPresence_presence
  have hlen : (slice f 43 55).length = 55 := length_slice (by rw [h.length_eq]; decide)
  have hnext : byteAt (slice f 43 55) 0 = _ := (byteAt_slice (by decide)).trans h.channel.1
  have hchan : byteAt (slice f 43 55) 3 = _ := (byteAt_slice (by decide)).trans h.channel.2
  have hdown : le16 (slice f 43 55) 1 = _ := (le16_slice (by decide)).trans h.countdown
  have hperiod : le16 (slice f 43 55) 5 = _ := (le16_slice (by decide)).trans h.period
  have hpsf' : le16 (slice f 43 55) 7 = _ := (le16_slice (by decide)).trans h.actionPeriod
  have hcommon : le16 (slice f 43 55) 13 = _ := (le16_slice (by decide)).trans h.common
  have hmaster : macAt (slice f 43 55) 21 = _ := (macAt_slice (by decide)).trans h.master
  have hpres : byteAt (slice f 43 55) 27 = _ := (byteAt_slice (by decide)).trans h.presence
  have hcount : le16 (slice f 43 55) 29 = _ := (le16_slice (by decide)).trans h.counter
  have hlist : (slice f 43 55).drop 33 = slice f 76 22 := drop_slice f 43 55 33
  obtain ⟨hpos, hle, hle256⟩ := State.countdownTu_bounds hp now
  have hfits := State.toNat_countdownTu hp now
  unfold AirportAwdl.scanSync
  rw [if_neg (by rw [hlen, hnew]; decide)]
  extract_lets old d
  have dperiod : d.periodTu = 16 := hperiod
  have ddown : d.countdownTu = UInt16.ofNat (s.countdownTu now) := hdown
  have daction : d.actionPeriodTu = s.psfPeriod := hpsf'
  have dcommon : d.commonTu = 16 := hcommon
  have dpres : d.presence = s.presence := hpres
  have dmaster : d.master = s.master := hmaster
  have hchecks : ¬ (d.periodTu = 0 ∨ d.actionPeriodTu = 0 ∨ d.presence = 0 ∨ d.presence > 16 ∨
      d.presence &&& (d.presence - 1) ≠ 0 ∨
      d.countdownTu.toNat > d.periodTu.toNat * d.presence.toNat ∨
      d.commonTu.toNat > d.periodTu.toNat * d.presence.toNat ∨ !unicast d.master) := by
    rw [dperiod, ddown, daction, dcommon, dpres, dmaster, hinv.unicast_master, hfits]
    obtain ⟨hne, hle16, hpow⟩ := presence_checks hp
    simp only [not_or, UInt16.reduceToNat]
    exact ⟨by decide, hinv.psf.1, hne, UInt8.not_lt.mpr hle16, not_not.mpr hpow, by omega, by omega,
      by decide⟩
  have hbounds : ¬(d.periodTu > 1024 ∨ d.actionPeriodTu > 4096) := by
    rw [dperiod, daction]
    exact not_or.mpr ⟨by decide, UInt16.not_lt.mpr hinv.psf.2⟩
  rw [if_neg hchecks, if_neg hbounds, if_pos (by rw [hlen]; decide),
    hlist, h.decodeChannelSequence hinv.plan.valid]
  exact ⟨d, _, rfl, rfl, rfl, hnext, hchan, dperiod, ddown, dpres, hcount, rfl, rfl, rfl⟩

lemma scanElection (h : SyncFrame s now subtype f) (hinv : Inv s)
    (scan : SyncScan) (hnew : scan.decoded.electionPresent = false) :
    ∃ selfMetric, AirportAwdl.scanElection scan (slice f 101 40) =
      .ok { scan with
        decoded := { scan.decoded with
          electionPresent := true
          syncAddress := s.sync
          masterCounter := s.masterCounter
          height := s.distance
          masterMetric := s.masterMetric
          selfMetric := selfMetric
          selfCounter := s.selfCounter }
        electedMaster := s.master } := by
  have hlen : (slice f 101 40).length = 40 := length_slice (by rw [h.length_eq])
  have hroot : macAt (slice f 101 40) 0 = _ := (macAt_slice (by decide)).trans h.root
  have hsync : macAt (slice f 101 40) 6 = _ := (macAt_slice (by decide)).trans h.parent
  have hcounter : le32 (slice f 101 40) 12 = _ := (le32_slice (by decide)).trans h.masterCounter
  have hheight : le32 (slice f 101 40) 16 = _ := (le32_slice (by decide)).trans h.height
  have hmetric : le32 (slice f 101 40) 20 = _ := (le32_slice (by decide)).trans h.masterMetric
  have hself : le32 (slice f 101 40) 36 = _ := (le32_slice (by decide)).trans h.selfCounter
  refine ⟨le32 (slice f 101 40) 24, ?_⟩
  unfold AirportAwdl.scanElection
  rw [if_neg (by rw [hlen, hnew]; decide)]
  simp only [hroot, hsync, hcounter, hheight, hmetric, hself]
  rw [if_neg (by rw [hinv.unicast_master, hinv.unicast_sync]; decide)]

lemma decodeSyncBody (h : SyncFrame s now subtype f) (hinv : Inv s)
    (hsub : subtype = 0 ∨ subtype = 3) :
    ∃ m, AirportAwdl.decodeSyncBody (f.drop 24) = .ok m ∧ m.nextChannel = s.channel now ∧
      m.masterChannel = s.channel now ∧ m.periodTu = 16 ∧
      m.countdownTu = UInt16.ofNat (s.countdownTu now) ∧ m.presence = s.presence ∧
      m.counter = s.counter now ∧ m.sequence.channel = s.sequence.channels ∧
      m.sequence.stride = s.sequence.step + 1 ∧ m.sequence.count = 16 ∧
      m.master = s.master ∧ m.electionPresent = true ∧ m.syncAddress = s.sync ∧
      m.masterCounter = s.masterCounter ∧ m.height = s.distance ∧
      m.masterMetric = s.masterMetric ∧ m.selfCounter = s.selfCounter ∧
      m.versionPresent = false := by
  obtain ⟨info, hinfo, hver, hsubtype⟩ := h.parseAction
  obtain ⟨hn₁, hn₂⟩ := h.cursor
  have hnil : f.drop 141 = [] := List.drop_eq_nil_of_le h.length_eq.le
  set decoded : SyncMessage :=
    { subtype := info.subtype, phyTxTime := le32 (f.drop 24) 8, targetTxTime := le32 (f.drop 24) 12 }
    with hdec
  obtain ⟨d, embedded, hscan, hel, hvers, hnext, hchan, hper, hdown, hpres, hcnt, hch, hstr, hnum⟩ :=
    h.scanSync hinv { decoded := decoded } rfl
  obtain ⟨selfMetric, helect⟩ := h.scanElection hinv
    { decoded := d, haveSync := true, embedded := embedded, haveEmbedded := true } hel
  have hloop : TlvCursor.forEach scanTlv (98 + 3) ⟨f.drop 40, false⟩ { decoded := decoded } = _ :=
    TlvCursor.forEach_two 98 hn₁ hn₂ hnil hscan helect
  have hkind : ¬ (info.version ≠ 0x10 ∨ (info.subtype ≠ 0 ∧ info.subtype ≠ 3)) := by
    rw [hver, hsubtype]
    rcases hsub with rfl | rfl <;> decide
  have hbytes : (f.drop 24).drop 16 = f.drop 40 := List.drop_drop
  have hfuel : (f.drop 40).length = 98 + 3 := by rw [List.length_drop, h.length_eq]
  unfold AirportAwdl.decodeSyncBody
  rw [hinfo]
  dsimp only
  rw [if_neg hkind, hbytes, hfuel, ← hdec, hloop]
  have hstride : embedded.stride = d.presence := by
    rw [hstr, hpres, hinv.plan.presence_eq]
  dsimp only
  rw [if_neg Bool.false_ne_true, finishSync_embedded rfl rfl rfl rfl hstride]
  exact ⟨_, rfl, hnext, hchan, hper, hdown, hpres, hcnt, hch, hstr, hnum, rfl, rfl, rfl, rfl, rfl, rfl,
    rfl, hvers⟩

end SyncFrame

/-- What a station advertises at `now`. -/
def State.advertised (s : State) (now : ℕ) : Advertisement where
  sequence := s.sequence
  master := s.master
  sync := s.sync
  period := 16
  counter := s.counter now
  down := UInt16.ofNat (s.countdownTu now)
  presence := s.presence
  metric := s.masterMetric
  distance := s.distance
  masterCounter := s.masterCounter
  selfCounter := s.selfCounter

lemma SyncFrame.parseAdvertisement {f : Bytes} (h : SyncFrame s now subtype f) (hinv : Inv s)
    (hsub : subtype = 0 ∨ subtype = 3) :
    Election.parseAdvertisement f = some (s.advertised now) := by
  obtain ⟨m, hm, -, -, hper, hdown, hpres, hcnt, hch, hstr, hnum, hmaster, hel, hsync, hmc, hheight,
    hmetric, hself, -⟩ := h.decodeSyncBody hinv hsub
  have hp := hinv.plan.validPresence_presence
  obtain ⟨hpos, hle, hle256⟩ := State.countdownTu_bounds hp now
  have hfits := State.toNat_countdownTu hp now
  have hdecode : decodeSyncAction (f.drop 24) = (.valid, m) := by
    rw [decodeSyncAction, hm]
  have hcount := ((validSequence_iff _).mp hinv.plan.valid).1
  have hclock : ¬ (m.periodTu ≠ 16 ∨ m.countdownTu = 0 ∨ m.height > 10 ∨
      m.counter.toNat % m.presence.toNat ≠
        (m.presence.toNat * 16 - m.countdownTu.toNat) / 16) := by
    rw [hper, hdown, hheight, hcnt, hpres, hfits, State.counter_mod_presence hp]
    simp only [not_or, not_not, ne_eq, true_and, and_true]
    refine ⟨fun h0 => ?_, UInt32.not_lt.mpr hinv.distance_le⟩
    rw [h0] at hfits
    simp only [UInt16.toNat_zero] at hfits
    omega
  unfold Election.parseAdvertisement
  rw [if_neg (by rw [h.parseFrame, h.source, h.network, hinv.unicast_mac]; decide), hdecode]
  dsimp only
  rw [if_neg hclock]
  simp only [hper, hdown, hpres, hcnt, hch, hstr, hnum, hmaster, hel, hsync, hmc, hheight,
    hmetric, hself, if_true, UInt8.add_sub_cancel, State.advertised, ← hcount]

end AirportAwdl.Election
