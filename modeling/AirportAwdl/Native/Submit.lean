import AirportAwdl.Native.Codec

/-!
# Submission of data frames to the driver

`submitLinuxData` is the last check before a data frame goes to the air: it validates the
interface, the leased channel, the frame, its destination and the time left in the visit, and
hands the frame to the driver's `tx`. Objects that the source compares by pointer carry an
`address`; `memory` and `clock` are what the allocator and the two clock readings return.
-/

namespace AirportAwdl.Native

open ByteBuffer Election DataCodec

/-- `NL80211_BAND_*` -/
inductive Band where
  | ghz2 | ghz5 | ghz6
deriving DecidableEq, Repr

/-- `NL80211_IFTYPE_*`, as far as the check distinguishes them. -/
inductive InterfaceType where
  | adhoc | station
deriving DecidableEq, Repr

/-- `ieee80211_channel` -/
structure LinuxChannel where
  address : ℕ
  band : Band
  centerFreq : UInt16
  flags : UInt32
deriving DecidableEq, Repr

/-- `ieee80211_vif` -/
structure LinuxVif where
  noBeacon : Bool
  type : InterfaceType
  addr : Mac
  /-- Address of the channel in `bss_conf`. -/
  chandefChan : ℕ
deriving DecidableEq, Repr

/-- `ieee80211_sta` -/
structure LinuxStation where
  addr : Mac
deriving DecidableEq, Repr

/-- `IEEE80211_CHAN_DISABLED | IEEE80211_CHAN_NO_IR | IEEE80211_CHAN_RADAR |
IEEE80211_CHAN_NO_OFDM` -/
def forbiddenFlags : UInt32 := 0x1 ||| 0x2 ||| 0x80 ||| 0x40

/-- What `hw->ops->tx` receives: the buffer, its control block and the station. -/
structure Transmission where
  frame : Bytes
  flags : UInt32
  band : Band
  rate : ℕ
  peer : Option LinuxStation
deriving DecidableEq, Repr

inductive DataSubmission where
  | rejected
  | noMemory
  | submitted (tx : Transmission)
deriving DecidableEq, Repr

/-- The arguments of `submitLinuxData` besides the frame, and what it gets from outside. -/
structure Submitter where
  /-- `hw`, its operations and `tx` are there. -/
  hasTx : Bool
  vif : Option LinuxVif
  peer : Option LinuxStation
  frequency : UInt16
  channel : Option LinuxChannel
  deadlineUs : ℕ
  /-- The two readings of the clock, if there is one. -/
  clock : Option (ℕ × ℕ)
  /-- `alloc_skb` succeeds. -/
  memory : Bool
deriving DecidableEq, Repr

/-- Airtime of a frame at 6 Mbps, and a guard. -/
def guardUs (length : ℕ) : ℕ := 2048 + (length * 8 + 5) / 6

def timely (deadlineUs length now : ℕ) : Bool :=
  deadlineUs > now && deadlineUs - now ≤ 100000 && deadlineUs - now > guardUs length

/-- The checks on the destination: IPv6 multicast maps to 33:33 and the low 32 bits of the
destination, everything else goes to a station. -/
def destined (view : View) (local_ : Mac) (peer : Option LinuxStation) : Bool :=
  if view.destination.octet 0 &&& 1 != 0 then
    peer.isNone && view.destination.octet 0 == 0x33 && view.destination.octet 1 == 0x33 &&
      byteAt view.payload 24 == 0xff &&
      [view.destination.octet 2, view.destination.octet 3, view.destination.octet 4, view.destination.octet 5] ==
        slice view.payload 36 4
  else
    view.destination != zeroMac && peer.any (·.addr == view.destination) &&
      view.destination != local_ && byteAt view.payload 24 != 0xff

/-- The checks on interface, channel and deadline. -/
def Submitter.leased (s : Submitter) (vif : LinuxVif) (channel : LinuxChannel) : Bool :=
  s.hasTx && vif.noBeacon && vif.type == .adhoc && s.frequency != 0 &&
    channel.centerFreq == s.frequency && vif.chandefChan == channel.address &&
    s.deadlineUs != 0 &&
    !(channel.band == .ghz2 && (s.frequency < 2412 || s.frequency > 2472)) &&
    (channel.band == .ghz2 || channel.band == .ghz5) && channel.flags &&& forbiddenFlags == 0

/-- The checks on the frame itself. -/
def wellFormed (frame : Bytes) (local_ : Mac) : Bool :=
  frame.length ≤ maximumFrame && (inspect frame).any (·.source == local_) &&
    byteAt frame 0 == 0x88 && byteAt frame 1 == 0 && byteAt frame 24 == 0 && byteAt frame 25 == 0

/-- The control block of a frame for `view`. -/
def transmission (frame : Bytes) (group : Bool) (channel : LinuxChannel)
    (peer : Option LinuxStation) : Transmission where
  frame := frame
  -- first fragment, injected, off-channel, then no acknowledgment or a status report
  flags := 0x10 ||| 0x80 ||| 0x40000 ||| (if group then 0x4 else 0x1)
  band := channel.band
  rate := if channel.band = .ghz2 then 4 else 0
  peer := peer

def submitLinuxData (s : Submitter) (frame : Bytes) : DataSubmission :=
  match s.vif, s.channel, s.clock, inspect frame with
  | some vif, some channel, some (first, second), some view =>
    if !s.leased vif channel ∨ !wellFormed frame vif.addr ∨ !destined view vif.addr s.peer ∨
        !timely s.deadlineUs frame.length first then .rejected
    else if !s.memory then .noMemory
    -- allocating may have taken time
    else if !timely s.deadlineUs frame.length second then .rejected
    else .submitted (transmission frame (view.destination.octet 0 &&& 1 != 0) channel s.peer)
  | _, _, _, _ => .rejected

/-- The destination of an Ethernet frame is one the driver takes: a group address is the one
its IPv6 destination maps to, a station address is neither empty nor our own and carries no
IPv6 multicast. -/
def addressed (local_ : Mac) (ethernet : Bytes) : Bool :=
  if byteAt ethernet 0 &&& 1 != 0 then
    byteAt ethernet 0 == 0x33 && byteAt ethernet 1 == 0x33 && byteAt ethernet 38 == 0xff &&
      slice ethernet 2 4 == slice ethernet 50 4
  else
    macAt ethernet 0 != zeroMac && macAt ethernet 0 != local_ && byteAt ethernet 38 != 0xff

/-- Everything outside the frame is in order: the interface with address `local_` and the
channel are the leased ones, there is memory, the deadline leaves more than the guard, and a
frame to a station finds the station. -/
structure Submitter.External (s : Submitter) (local_ destination : Mac) (length : ℕ) : Prop where
  vif : ∃ vif channel, s.vif = some vif ∧ s.channel = some channel ∧ vif.addr = local_ ∧
    s.leased vif channel
  clock : ∃ first second, s.clock = some (first, second) ∧ timely s.deadlineUs length first ∧
    timely s.deadlineUs length second
  memory : s.memory
  peer : if destination.octet 0 &&& 1 = 0 then ∃ p, s.peer = some p ∧ p.addr = destination
    else s.peer = none

lemma wellFormed_encode {e f : Bytes} {capacity : ℕ} {sequence dataSequence : UInt16}
    (h : encode e capacity sequence dataSequence = some f) : wellFormed f (macAt e 6) := by
  have hinspect := inspect_encode h
  obtain ⟨hvalid, rfl⟩ := encode_eq_some h
  obtain ⟨-, hmax, -⟩ := (validEthernet_iff e).mp hvalid
  have hlength : (header (macAt e 0) (macAt e 6) sequence dataSequence ++ e.drop 14).length ≤
      maximumFrame := by
    rw [header_append, List.length_append, List.length_append, length_macHeader, length_plainBody,
      List.length_drop, maximumFrame]
    show 24 + 2 + (16 + _) ≤ _
    omega
  obtain ⟨hsize, h24, h25⟩ := qosHeader_control 0x88 (macAt e 0) (macAt e 6) sequence
  simp only [wellFormed, hinspect, hlength, Option.any_some, beq_self_eq_true, decide_true,
    Bool.true_and]
  rw [header_append, byteAt_append_left (i := 24) (by omega),
    byteAt_append_left (i := 25) (by omega), h24, h25]
  rfl

lemma destined_eq {e : Bytes} (local_ : Mac) {peer : Option LinuxStation} {q : UInt16}
    (hlength : 6 ≤ e.length)
    (hpeer : if (macAt e 0).octet 0 &&& 1 = 0 then ∃ p, peer = some p ∧ p.addr = macAt e 0
      else peer = none) :
    destined ⟨macAt e 0, macAt e 6, e.drop 14, q⟩ local_ peer = addressed local_ e := by
  have hfirst : (macAt e 0).octet 0 = byteAt e 0 := rfl
  have hdest : byteAt (e.drop 14) 24 = byteAt e 38 := byteAt_drop e 14 24
  have hlow : slice (e.drop 14) 36 4 = slice e 50 4 := slice_drop e 14 36 4
  unfold destined addressed
  simp only [hfirst, hdest, hlow] at hpeer ⊢
  by_cases hgroup : byteAt e 0 &&& 1 = 0
  · grind
  · rw [if_neg hgroup] at hpeer
    subst hpeer
    have hbytes : [(macAt e 0).octet 2, (macAt e 0).octet 3, (macAt e 0).octet 4, (macAt e 0).octet 5] =
        slice e 2 4 := by
      apply List.ext_getElem
      · rw [length_slice (by omega)]
        rfl
      · intro i hi hi'
        have hi : i < 4 := by simpa using hi
        have hread : (slice e 2 4)[i] = byteAt (slice e 2 4) i := by
          simp [byteAt, List.getElem?_eq_getElem hi']
        rw [hread, byteAt_slice hi]
        interval_cases i <;> rfl
    rw [if_pos (by simpa using hgroup), if_pos (by simpa using hgroup), hbytes]
    rfl

lemma submitLinuxData_encode {e f : Bytes} {capacity : ℕ} {sequence dataSequence : UInt16}
    (h : encode e capacity sequence dataSequence = some f) {s : Submitter}
    (hexternal : s.External (macAt e 6) (macAt e 0) f.length) :
    (∃ tx, submitLinuxData s f = .submitted tx) ↔ addressed (macAt e 6) e := by
  obtain ⟨⟨vif, channel, hvif, hchannel, haddr, hleased⟩, ⟨first, second, hclock, hfirst, hsecond⟩,
    hmemory, hpeer⟩ := hexternal
  have hlength := ((validEthernet_iff e).mp (encode_eq_some h).1).1
  have hdestined := destined_eq (macAt e 6) (q := dataSequence) (by omega) hpeer
  have hwell := wellFormed_encode h
  unfold submitLinuxData
  rw [hvif, hchannel, hclock, inspect_encode h]
  simp only [haddr, hleased, hwell, hdestined, hfirst, hsecond, hmemory]
  by_cases haddressed : addressed (macAt e 6) e
  · simp [haddressed]
  · simp [haddressed]

end AirportAwdl.Native
