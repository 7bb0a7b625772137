import AirportAwdl.Native.Backend
import AirportAwdl.Native.Submit

/-!
# Admission to the transmit queue

A data frame is checked twice: by `transmitEthernet` when it enters the queue and by the driver's
`submitLinuxData` when it is at the head. The queue looks at the Ethernet header, the source and
the IPv6 length; the driver also wants a destination that fits the IPv6 header (`addressed`). A
frame for which the driver's answer is no for its contents stays at the head until it expires.
-/

namespace AirportAwdl.Native

open ByteBuffer Election Scheduler StateProgram

namespace NativeBackend

variable {H : Type} {hal : Hal H}

lemma transmitEthernet_eq_true {w : World (Device H)} {e : Bytes}
    (h : ((transmitEthernet hal e).run w).1 = true) :
    DataCodec.validEthernet e ∧ macAt e 6 = w.state.mac := by
  by_contra hbad
  have hrefused : ((transmitEthernet hal e).run w).1 = false := by
    show wp (transmitEthernet hal e) (fun accepted _ => accepted = false) w
    unfold transmitEthernet
    rw [wp_bind, wp_get, wp_ite]
    refine ⟨fun _ => rfl, fun hgood => ?_⟩
    grind
  rw [hrefused] at h
  exact Bool.false_ne_true h

lemma transmitHead_spec (hal : Hal H) {w : World (Device H)} {e : Bytes} (hvalid : DataCodec.validEthernet e)
    (window : ScheduledWindow) :
    wp (transmitHead hal e window) (fun goesOn w' => ∃ frame authorized,
      DataCodec.encode e 4096 w.state.frameCounter w.state.dataCounter = some frame ∧
      w'.driver.trace = w.driver.trace ++ [.submitted e frame authorized goesOn] ∧
      (goesOn = false → w'.driver.backend.data = w.driver.backend.data)) w := by
  have hroom : e.length + 28 ≤ 4096 := by
    have := ((DataCodec.validEthernet_iff e).mp hvalid).2.1
    rw [DataCodec.mtu] at this
    omega
  have hencode := DataCodec.encode_of_valid hvalid hroom w.state.frameCounter w.state.dataCounter
  unfold transmitHead
  rw [wp_bind, wp_get, wp_bind, wp_engineSet, hencode]
  dsimp only
  rw [wp_bind, wp_onDevice]
  unfold submit
  rw [wp_bind, wp_get, wp_bind, wp_hal, wp_bind, wp_trace, wp_pure, wp_ite]
  refine ⟨fun htaken => ?_, fun hrefused => ?_⟩
  · rw [wp_bind, wp_engineSet, wp_bind, wp_onDevice]
    unfold popData
    rw [wp_bind, wp_assign, wp_bind, wp_get, wp_ite]
    rw [htaken]
    exact ⟨fun _ => ⟨_, _, rfl, rfl, nofun⟩, fun _ => ⟨_, _, rfl, rfl, nofun⟩⟩
  grind [wp_pure]

/-- **Two admissions.** Take a frame that `transmitEthernet` accepted. When it is served at the
head of the queue, in whatever state, one encoded frame goes to the driver. With everything outside
the frame in order the driver submits it if and only if the frame is addressed as the driver wants
it. A frame that the driver does not take stays at the head, and those behind it wait. -/
theorem accepted_submitted_iff {w : World (Device H)} {e : Bytes}
    (haccepted : ((transmitEthernet hal e).run w).1 = true) (v : World (Device H))
    (window : ScheduledWindow) :
    ∃ frame authorized, let served := (transmitHead hal e window).run v
      served.2.driver.trace = v.driver.trace ++ [.submitted e frame authorized served.1] ∧
      (∀ s : Submitter, s.External w.state.mac (macAt e 0) frame.length →
        ((∃ tx, submitLinuxData s frame = .submitted tx) ↔ addressed w.state.mac e)) ∧
      (served.1 = false → served.2.driver.backend.data = v.driver.backend.data) := by
  obtain ⟨hvalid, hsource⟩ := transmitEthernet_eq_true haccepted
  obtain ⟨frame, authorized, hencode, htrace, hstays⟩ := transmitHead_spec hal (w := v)
    hvalid window
  refine ⟨frame, authorized, htrace, fun s hexternal => ?_, hstays⟩
  rw [← hsource] at hexternal ⊢
  exact submitLinuxData_encode hencode hexternal

/-- Our address on the steady radio. -/
def steadyMac : Mac := Mac.of 2 0 0 0 0 1

/-- Opened, synchronizing and enabled on the steady radio. -/
def steadyWorld {C : Type} (radio : SteadyRadio C) : World (Device (SteadyRadio C)) :=
  ((do
    let _ ← open_ steadyRadio 1 steadyMac
    let b ← fields
    let _ ← configure steadyRadio (pure ()) { b.settings with synchronize := true }
    let _ ← activate steadyRadio (pure ()) true).run
      (World.fresh (State.fresh zeroMac {} 0 0 false) { hal := radio })).2

/-- An empty IPv6 packet to a destination that starts with `first` and ends in 1. -/
def emptyPacket (first : UInt8) : Bytes :=
  [0x60, 0, 0, 0, 0, 0, 59, 255, 0xfe, 0x80] ++ List.replicate 13 0 ++ [1] ++
    [first] ++ List.replicate 14 0 ++ [1]

/-- A frame from our address. -/
def ethernetTo (destination : Mac) (packet : Bytes) : Bytes :=
  destination.toList ++ steadyMac.toList ++ [0x86, 0xdd] ++ packet

/-- A leased interface in an open window, with `peer` installed. -/
def leasedSubmitter (peer : Option LinuxStation) : Submitter where
  hasTx := true
  vif := some ⟨true, .adhoc, steadyMac, 7⟩
  peer := peer
  frequency := 2437
  channel := some ⟨7, .ghz2, 2437, 0⟩
  deadlineUs := 10050000
  clock := some (10000000, 10000000)
  memory := true

lemma leasedSubmitter_external {peer : Option LinuxStation} {destination : Mac} {length : ℕ}
    (hlength : length ≤ 1470) (hpeer : if destination.octet 0 &&& 1 = 0 then
      ∃ p, peer = some p ∧ p.addr = destination else peer = none) :
    (leasedSubmitter peer).External steadyMac destination length where
  vif := ⟨_, _, rfl, rfl, rfl, rfl⟩
  clock := by
    have hguard : Native.guardUs length < 50000 := by
      rw [Native.guardUs]
      omega
    have htimely : timely 10050000 length 10000000 = true := by
      rw [timely, Bool.and_eq_true]
      exact ⟨rfl, decide_eq_true hguard⟩
    exact ⟨_, _, rfl, htimely, htimely⟩
  memory := rfl
  peer := hpeer

/-- A packet to all nodes, under the group address it maps to. -/
def mappedFrame : Bytes := ethernetTo (Mac.of 0x33 0x33 0 0 0 1) (emptyPacket 0xff)

/-- The frame that is built from `e` first. -/
def firstFrame (e : Bytes) : Bytes :=
  DataCodec.header (macAt e 0) (macAt e 6) 0 0 ++ e.drop 14

theorem accepted_submitted_mapped :
    ((transmitEthernet steadyRadio mappedFrame).run (steadyWorld (C := Unit) {})).1 = true ∧
      ∃ tx, submitLinuxData (leasedSubmitter none) (firstFrame mappedFrame) = .submitted tx := by
  have haccepted : ((transmitEthernet steadyRadio mappedFrame).run
      (steadyWorld (C := Unit) {})).1 = true := by decide +kernel
  have hmac : (steadyWorld (C := Unit) {}).state.mac = steadyMac := by decide +kernel
  have hold : (steadyWorld (C := Unit) {}).driver.trace = [.initialized] := by decide +kernel
  have hserved : ((transmitHead steadyRadio mappedFrame {}).run
      (steadyWorld (C := Unit) {})).2.driver.trace =
        [.initialized, .submitted mappedFrame (firstFrame mappedFrame) false true] := by
    decide +kernel
  have hlength : (firstFrame mappedFrame).length ≤ 1470 := by decide +kernel
  have haddressed : addressed steadyMac mappedFrame := by decide +kernel
  have hgroup : ¬(macAt mappedFrame 0).octet 0 &&& 1 = 0 := by decide +kernel
  refine ⟨haccepted, ?_⟩
  obtain ⟨frame, authorized, htrace, hiff, -⟩ :=
    accepted_submitted_iff haccepted (steadyWorld {}) {}
  rw [hserved, hold] at htrace
  rw [hmac] at hiff
  obtain ⟨-, rfl, -, -⟩ := TransmitEvent.submitted.inj
    (List.singleton_inj.mp (@List.append_cancel_left _ [TransmitEvent.initialized] _ _ htrace))
  exact (hiff (leasedSubmitter none)
    (leasedSubmitter_external hlength (by rw [if_neg hgroup]))).mpr haddressed

/-- A packet to all nodes, sent to one station under the station's address. -/
def unmappedFrame : Bytes := ethernetTo (Mac.of 2 0 0 0 0 9) (emptyPacket 0xff)

/-- The station that the frame is for. -/
def unmappedStation : LinuxStation := ⟨macAt unmappedFrame 0⟩

/-- The queue accepts the frame; with the station installed, the channel leased and time to spare
the driver still rejects what is built from it. -/
theorem unmappedFrame_rejected :
    ((transmitEthernet steadyRadio unmappedFrame).run (steadyWorld (C := Unit) {})).1 = true ∧
      ((transmitHead steadyRadio unmappedFrame {}).run (steadyWorld (C := Unit) {})).2.driver.trace =
        [.initialized, .submitted unmappedFrame (firstFrame unmappedFrame) false true] ∧
      (steadyWorld (C := Unit) {}).state.mac = steadyMac ∧
      (leasedSubmitter (some unmappedStation)).External steadyMac (macAt unmappedFrame 0)
        (firstFrame unmappedFrame).length ∧
      submitLinuxData (leasedSubmitter (some unmappedStation)) (firstFrame unmappedFrame) =
        .rejected := by
  have hlength : (firstFrame unmappedFrame).length ≤ 1470 := by decide +kernel
  have hstation : (macAt unmappedFrame 0).octet 0 &&& 1 = 0 := by decide +kernel
  refine ⟨by decide +kernel, by decide +kernel, by decide +kernel, ?_, by decide +kernel⟩
  refine leasedSubmitter_external hlength ?_
  rw [if_pos hstation]
  exact ⟨unmappedStation, rfl, rfl⟩

end NativeBackend

end AirportAwdl.Native
