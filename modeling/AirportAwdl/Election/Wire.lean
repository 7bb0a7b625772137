import AirportAwdl.Election.Elect

/-!
# The synchronization encoder

`buildSynchronization` and the writers it calls, as the list of stores they make into a
zeroed frame. A frame is 24 bytes of 802.11 header, 16 bytes of action envelope, TLV 4
with the clock advertisement and the embedded channel list, and TLV 24 with the election
record. The caller supplies the wire clock values; `now` drives the schedule only.
-/

namespace AirportAwdl.Election

open ByteBuffer

/-- `writeSequence` at offset `p`. -/
def writeSequence (p : ℕ) (s : Sequence) : List Store :=
  [(p, [s.count - 1]), (p + 1, [0]), (p + 2, [0]), (p + 3, [s.step]), (p + 4, put16 0xffff),
    (p + 6, s.channels.toList.take s.count.toNat)]

/-- Whole time units to the next EAW, rounded up. -/
def State.countdownTu (s : State) (now : ℕ) : ℕ := (s.untilNext now + 1023) / 1024

/-- Whole time units left of the first availability window of the EAW. -/
def State.commonTu (s : State) (now : ℕ) : ℕ :=
  let duration := s.presence.toNat * awUs
  let elapsed := duration - s.untilNext now
  if elapsed < awUs then (awUs - elapsed) / 1024 else 0

/-- Advertised extension `i`, which may not cross the next scheduled channel change. -/
def State.extension (s : State) (i : Fin 4) : UInt8 :=
  if s.minExtension[i] < s.presence then s.minExtension[i] else s.presence - 1

/-- `writeSync` at offset `p`. -/
def writeSync (s : State) (p : ℕ) (now : ℕ) : List Store :=
  [(p, [s.channel now]), (p + 3, [s.channel now]),
    (p + 1, put16 (UInt16.ofNat (s.countdownTu now))),
    (p + 5, put16 16), (p + 11, put16 16), (p + 13, put16 16),
    (p + 15, put16 (UInt16.ofNat (s.commonTu now))),
    (p + 17, (List.finRange 4).map s.extension),
    (p + 21, s.master.toList), (p + 27, [s.presence]),
    (p + 29, put16 (s.counter now)), (p + 31, put16 (s.counter now))] ++
  writeSequence (p + 33) s.sequence

/-- `writeElection` at offset `p`. -/
def writeElection (s : State) (p : ℕ) : List Store :=
  [(p, s.master.toList), (p + 6, s.sync.toList), (p + 12, put32 s.masterCounter),
    (p + 16, put32 s.distance), (p + 20, put32 s.masterMetric), (p + 24, put32 s.metric),
    (p + 36, put32 s.selfCounter)]

/-- Length of the TLV 4 payload. -/
def syncLength (s : State) : ℕ := 39 + s.sequence.count.toNat

/-- Length of the whole frame. -/
def synchronizationLength (s : State) : ℕ := 40 + 3 + syncLength s + 43

/-- The stores of `buildSynchronization`, in order. -/
def synchronizationStores (s : State) (now : ℕ) (phyTime targetTime : UInt32) (subtype : UInt8) :
    List Store :=
  let election := 43 + syncLength s
  [(0, [0xd0]), (4, List.replicate 6 255), (10, s.mac.toList), (16, bssid.toList),
    (22, put16 ((s.frameCounter &&& 4095) <<< 4)),
    (24, [127]), (26, [0x17]), (27, [0xf2]), (28, [8]), (29, [0x10]), (30, [subtype]),
    (32, put32 phyTime), (36, put32 targetTime),
    (40, [4]), (41, put16 (UInt16.ofNat (syncLength s)))] ++
  writeSync s 43 now ++
  [(50, put16 s.psfPeriod), (election, [24]), (election + 1, put16 40)] ++
  writeElection s (election + 3)

/-- `buildSynchronization`: the frame, or `none` where the source returns zero, and the
state with the frame counter consumed. -/
def buildSynchronization (s : State) (capacity now : ℕ) (phyTime targetTime : UInt32)
    (subtype : UInt8) : Option Bytes × State :=
  if capacity < synchronizationLength s ∨ (subtype ≠ 0 ∧ subtype ≠ 3) ∨
      !validSequence s.sequence ∨ s.sequence.step.toNat + 1 ≠ s.presence.toNat ∨
      !s.radioScheduleReady ∨ now < s.epoch ∨ !unicast s.mac then (none, s)
  else
    (some (storeAll (List.replicate (synchronizationLength s) 0)
      (synchronizationStores s now phyTime targetTime subtype)),
      { s with frameCounter := s.frameCounter + 1 })

/-! ## Sample stations

Concrete peers for the witnesses and counterexamples of the following modules. -/

def stationA : Mac := Mac.of 2 0 0 0 0 1

def stationB : Mac := Mac.of 2 0 0 0 0 2

def stationC : Mac := Mac.of 2 0 0 0 0 3

/-- Channel 6 in all slots, one availability window each. -/
def samplePlan : Sequence := { channels := Vector.replicate 16 6, count := 16, step := 0 }

/-- The frame a station sends at `now` when it was initialized at `epoch`. -/
def beacon (mac : Mac) (metric : UInt32) (epoch now : ℕ) : Bytes :=
  (buildSynchronization (State.fresh mac samplePlan epoch metric true) 141 now 0 0 0).1.getD []

end AirportAwdl.Election
