import AirportAwdl.Frame

/-!
# Synchronization messages

The decoder of `RTWAwdlSync.hpp`. A synchronization action carries the clock
advertisement in TLV 4, optionally the channel sequence in TLV 18, the election
record in TLV 24 and the version in TLV 21. `decodeSyncAction` produces a record
only after every TLV validated; `decodeSyncAction_checked` of the next module collects
what a valid record guarantees, which is all the election engine relies on.
-/

namespace AirportAwdl

open ByteBuffer

/-- A six-byte station address. -/
abbrev Mac := Vector UInt8 6

/-- The address with the given bytes. -/
def Mac.of (a b c d e f : UInt8) : Mac := #v[a, b, c, d, e, f]

/-- A byte of an address. -/
def Mac.octet (m : Mac) (i : ℕ) : UInt8 := if h : i < 6 then m[i] else 0

/-- The address stored at offset `i`. -/
def macAt (b : Bytes) (i : ℕ) : Mac := Vector.ofFn fun k => byteAt b (i + k)

/-- Nonzero and not a group address. -/
def unicast (p : Mac) : Bool :=
  p.toList.foldl (· ||| ·) 0 != 0 && p.octet 0 &&& 1 == 0

/-- The address with all bytes zero. -/
def zeroMac : Mac := Vector.replicate 6 0

lemma macAt_congr {b b' : Bytes} {i j : ℕ}
    (h : ∀ k < 6, byteAt b (i + k) = byteAt b' (j + k)) : macAt b i = macAt b' j := by
  grind [macAt]

lemma macAt_drop (b : Bytes) (n i : ℕ) : macAt (b.drop n) i = macAt b (n + i) := by
  apply Vector.ext
  intro k hk
  simp only [macAt, Vector.getElem_ofFn, byteAt_drop, Nat.add_assoc]

lemma macAt_slice {b : Bytes} {off n i : ℕ} (hi : i + 5 < n) :
    macAt (slice b off n) i = macAt b (off + i) :=
  macAt_congr fun k hk => by rw [byteAt_slice (by omega), Nat.add_assoc]

lemma macAt_storeAll {b : Bytes} {stores : List Store} (h : Fits b.length stores)
    (hd : stores.Pairwise Apart) {off : ℕ} {m : Mac} (hmem : (off, m.toList) ∈ stores) :
    macAt (storeAll b stores) off = m := by
  apply Vector.ext
  intro k hk
  simp only [macAt, Vector.getElem_ofFn]
  rw [byteAt_storeAll h hd hmem (by simpa using hk)]
  simp [byteAt, hk]

lemma macAt_append_left {a : Bytes} {i : ℕ} (h : i + 5 < a.length) (b : Bytes) :
    macAt (a ++ b) i = macAt a i :=
  macAt_congr fun k hk => byteAt_append_left (by omega) b

lemma macAt_append (a : Bytes) (m : Mac) (b : Bytes) :
    macAt (a ++ (m.toList ++ b)) a.length = m := by
  apply Vector.ext
  intro k hk
  simp only [macAt, Vector.getElem_ofFn]
  rw [byteAt_append_right (by omega), Nat.add_sub_cancel_left, byteAt_append_left (by simpa using hk)]
  simp [byteAt, hk]

/-- Outcome of the synchronization decoder. -/
inductive SyncDecode where
  | valid
  | notSynchronization
  | unsupported
  | malformed
deriving DecidableEq, Repr

/-- The outcomes that refuse a message. -/
inductive SyncRefusal where
  | notSynchronization
  | unsupported
  | malformed
deriving DecidableEq, Repr

/-- A refusal as the decoder reports it. -/
def SyncRefusal.status : SyncRefusal → SyncDecode
  | .notSynchronization => .notSynchronization
  | .unsupported => .unsupported
  | .malformed => .malformed

/-- A decoded channel list. -/
structure ChannelSequence where
  channel : Vector UInt8 16 := Vector.replicate 16 0
  /-- Operating class for encoding 3; opaque flags byte for encoding 1. -/
  auxiliary : Vector UInt8 16 := Vector.replicate 16 0
  encoding : UInt8 := 0
  stride : UInt8 := 0
  count : UInt8 := 0
deriving DecidableEq, Repr

/-- A decoded synchronization action. Times are in the sender's clock. -/
structure SyncMessage where
  sequence : ChannelSequence := {}
  phyTxTime : UInt32 := 0
  targetTxTime : UInt32 := 0
  periodTu : UInt16 := 0
  actionPeriodTu : UInt16 := 0
  countdownTu : UInt16 := 0
  commonTu : UInt16 := 0
  counter : UInt16 := 0
  remainingTu : UInt16 := 0
  apAlignment : UInt16 := 0
  subtype : UInt8 := 0
  presence : UInt8 := 0
  guardTu : UInt8 := 0
  nextChannel : UInt8 := 0
  masterChannel : UInt8 := 0
  master : Mac := zeroMac
  syncMaster : Mac := zeroMac
  syncAddress : Mac := zeroMac
  masterCounter : UInt32 := 0
  selfCounter : UInt32 := 0
  masterMetric : UInt32 := 0
  selfMetric : UInt32 := 0
  height : UInt32 := 0
  electionPresent : Bool := false
  versionPresent : Bool := false
  version : UInt8 := 0
  deviceClass : UInt8 := 0
deriving DecidableEq, Repr

/-- Bytes per list entry, zero for an unknown encoding. -/
def entryWidth (encoding : UInt8) : ℕ :=
  if encoding = 0 then 1 else if encoding = 1 ∨ encoding = 3 then 2 else 0

/-- Channel number of entry `i`; encoding 1 stores its flags byte first. -/
def entryChannel (p : Bytes) (i : ℕ) : UInt8 :=
  byteAt p (6 + i * entryWidth (byteAt p 1) + if byteAt p 1 = 1 then 1 else 0)

/-- Second byte of a two-byte entry, zero for the one-byte encoding. -/
def entryAuxiliary (p : Bytes) (i : ℕ) : UInt8 :=
  if entryWidth (byteAt p 1) = 2 then
    byteAt p (6 + i * entryWidth (byteAt p 1) + if byteAt p 1 = 1 then 0 else 1)
  else 0

/-- The per-entry checks: no channel above 196, and with encoding 3 an operating class
of the channel's own band. -/
def entryAllowed (p : Bytes) (i : ℕ) : Bool :=
  let channel := entryChannel p i
  let opclass := entryAuxiliary p i
  channel ≤ 196 &&
    (if byteAt p 1 = 3 ∧ channel ≠ 0 then
      (if channel ≤ 14 then 81 ≤ opclass && opclass ≤ 84 else 115 ≤ opclass && opclass ≤ 130)
     else true)

/-- Supported wire subset: full 16-entry list, no duplication, no fill expansion. -/
def decodeChannelSequence (p : Bytes) : Except SyncRefusal ChannelSequence :=
  if p.length < 6 then .error .malformed
  else
    let width := entryWidth (byteAt p 1)
    if width = 0 ∨ byteAt p 0 ≠ 15 ∨ byteAt p 2 ≠ 0 ∨ byteAt p 3 > 15 ∨ le16 p 4 ≠ 0xffff then
      .error .unsupported
    else
      let used := 6 + 16 * width
      if p.length < used ∨ p.length - used > 3 then .error .malformed
      else if (p.drop used).any (· != 0) then .error .malformed
      -- the source checks while it copies; the only early exit is the same refusal
      else if (List.range 16).all (entryAllowed p) then
        .ok {
          count := 16
          encoding := byteAt p 1
          stride := byteAt p 3 + 1
          channel := Vector.ofFn fun i => entryChannel p i
          auxiliary := Vector.ofFn fun i => entryAuxiliary p i }
      else .error .unsupported

/-- Equality of two channel lists as the decoder compares them. -/
def sameSequence (a b : ChannelSequence) : Bool :=
  a.count == b.count && a.stride == b.stride &&
    (List.finRange 16).all fun i =>
      if i.val < a.count.toNat then
        a.channel[i] == b.channel[i] &&
          !(a.encoding == 3 && b.encoding == 3 && a.auxiliary[i] != b.auxiliary[i])
      else true

/-- Locals of `decodeSyncAction` that its TLV loop updates. -/
structure SyncScan where
  decoded : SyncMessage
  haveSync : Bool := false
  haveSequence : Bool := false
  haveEmbedded : Bool := false
  embedded : ChannelSequence := {}
  electedMaster : Mac := zeroMac
deriving DecidableEq, Repr

/-- TLV 4: the clock advertisement, with an embedded channel list after byte 33. -/
def scanSync (s : SyncScan) (p : Bytes) : Except SyncRefusal SyncScan :=
  if s.haveSync ∨ p.length < 33 then .error .malformed
  else
    let d := { s.decoded with
      nextChannel := byteAt p 0
      countdownTu := le16 p 1
      masterChannel := byteAt p 3
      guardTu := byteAt p 4
      periodTu := le16 p 5
      actionPeriodTu := le16 p 7
      commonTu := le16 p 13
      remainingTu := le16 p 15
      syncMaster := macAt p 21
      master := macAt p 21
      presence := byteAt p 27
      counter := le16 p 29
      apAlignment := le16 p 31 }
    if d.periodTu = 0 ∨ d.actionPeriodTu = 0 ∨ d.presence = 0 ∨ d.presence > 16 ∨
        d.presence &&& (d.presence - 1) ≠ 0 ∨
        d.countdownTu.toNat > d.periodTu.toNat * d.presence.toNat ∨
        d.commonTu.toNat > d.periodTu.toNat * d.presence.toNat ∨ !unicast d.master then
      .error .malformed
    else if d.periodTu > 1024 ∨ d.actionPeriodTu > 4096 then .error .unsupported
    else if p.length > 33 then
      match decodeChannelSequence (p.drop 33) with
      | .error refusal => .error refusal
      | .ok embedded =>
        .ok { s with decoded := d, haveSync := true, embedded := embedded, haveEmbedded := true }
    else .ok { s with decoded := d, haveSync := true }

/-- TLV 18: the explicit channel list. -/
def scanSequence (s : SyncScan) (p : Bytes) : Except SyncRefusal SyncScan :=
  if s.haveSequence then .error .malformed
  else
    match decodeChannelSequence p with
    | .error refusal => .error refusal
    | .ok sequence =>
      .ok { s with decoded := { s.decoded with sequence := sequence }, haveSequence := true }

/-- TLV 24: the election record. -/
def scanElection (s : SyncScan) (p : Bytes) : Except SyncRefusal SyncScan :=
  if s.decoded.electionPresent ∨ p.length < 40 then .error .malformed
  else
    let d := { s.decoded with
      electionPresent := true
      syncAddress := macAt p 6
      masterCounter := le32 p 12
      height := le32 p 16
      masterMetric := le32 p 20
      selfMetric := le32 p 24
      selfCounter := le32 p 36 }
    if !unicast (macAt p 0) ∨ !unicast d.syncAddress then .error .malformed
    else .ok { s with decoded := d, electedMaster := macAt p 0 }

/-- TLV 21: version and device class. -/
def scanVersion (s : SyncScan) (p : Bytes) : Except SyncRefusal SyncScan :=
  if s.decoded.versionPresent ∨ p.length < 2 then .error .malformed
  else .ok { s with decoded := { s.decoded with
    versionPresent := true, version := byteAt p 0, deviceClass := byteAt p 1 } }

/-- Loop body of `decodeSyncAction`. Unknown TLVs are skipped. -/
def scanTlv (s : SyncScan) (t : Tlv) : Except SyncRefusal SyncScan :=
  if t.type = 4 then scanSync s t.data
  else if t.type = 18 then scanSequence s t.data
  else if t.type = 24 then scanElection s t.data
  else if t.type = 21 then scanVersion s t.data
  else .ok s

/-- The checks after the loop. Where both channel lists are present they must agree, except
for the captured pairing of an encoding-1 embedded list with an encoding-3 explicit one. -/
def finishSync (s : SyncScan) : Except SyncRefusal SyncMessage :=
  if !s.haveSync then .error .notSynchronization
  else
    let d := if s.decoded.electionPresent then { s.decoded with master := s.electedMaster }
      else s.decoded
    if !s.haveSequence ∧ !s.haveEmbedded then .error .unsupported
    else if s.haveSequence ∧ s.haveEmbedded ∧
        (d.sequence.count ≠ s.embedded.count ∨ d.sequence.stride ≠ s.embedded.stride ∨
          (¬ (s.embedded.encoding = 1 ∧ d.sequence.encoding = 3) ∧
            !sameSequence d.sequence s.embedded)) then .error .malformed
    else
      let d := if s.haveSequence then d else { d with sequence := s.embedded }
      if d.sequence.stride ≠ d.presence then .error .malformed else .ok d

/-- `decodeSyncAction` up to its output parameter. -/
def decodeSyncBody (body : Bytes) : Except SyncRefusal SyncMessage :=
  match parseAction body with
  | (.notAwdl, _) => .error .notSynchronization
  | (.malformed, _) => .error .malformed
  | (.valid, envelope) =>
    if envelope.version ≠ 0x10 ∨ (envelope.subtype ≠ 0 ∧ envelope.subtype ≠ 3) then
      .error .unsupported
    else
      let decoded : SyncMessage := {
        subtype := envelope.subtype
        phyTxTime := le32 body 8
        targetTxTime := le32 body 12 }
      let cursor : TlvCursor := { bytes := body.drop 16 }
      match cursor.forEach scanTlv cursor.bytes.length { decoded := decoded } with
      | .error refusal => .error refusal
      | .ok (s, cursor) => if cursor.malformed then .error .malformed else finishSync s

/-- Action body only (no 802.11 header or FCS). The output record is zero unless the
result is `valid`. -/
def decodeSyncAction (body : Bytes) : SyncDecode × SyncMessage :=
  match decodeSyncBody body with
  | .error refusal => (refusal.status, {})
  | .ok decoded => (.valid, decoded)

end AirportAwdl
