import AirportAwdl.Native.Settings

/-!
# Native action frames

`NativeAction` turns an action body that the native side supplied into a frame: a fresh
synchronization frame, followed by the native TLVs. The election state of the engine replaces
what a native TLV says about the tree; TLVs that the engine generates itself are dropped.
-/

namespace AirportAwdl.Native

open ByteBuffer Election

namespace NativeAction

/-- Loop body of `valid`; `election` says whether an election TLV was seen. -/
def check (election : Bool) (t : Tlv) : Except Unit Bool :=
  -- the radio scheduler owns the timing
  if t.type = 4 ∨ t.type = 18 then .error ()
  else if t.type = 24 ∧ (election ∨ t.data.length ≠ 40) then .error ()
  else if t.type = 5 ∧ t.data.length ≠ 21 then .error ()
  else if t.type = 20 ∧ t.data.length % 6 ≠ 0 then .error ()
  else .ok (election || t.type == 24)

/-- `valid`; a null body is the empty list. -/
def valid (tlvs : Bytes) : Bool :=
  tlvs != [] && tlvs.length ≤ 2048 &&
    match TlvCursor.forEach check tlvs.length ⟨tlvs, false⟩ false with
    | .ok (_, cursor) => !cursor.malformed
    | .error _ => false

/-- One native TLV as it goes into the frame: a stale tree is dropped, election parameters name
the engine's master. -/
def emit (s : State) (t : Tlv) : Bytes :=
  if t.type = 20 ∨ t.type = 24 then []
  else
    [t.type] ++ put16 (UInt16.ofNat t.data.length) ++
      if t.type = 5 then
        storeAll t.data [(3, [s.distance.toUInt8]), (5, s.master.toList),
          (11, put32 s.masterMetric), (15, put32 s.metric)]
      else t.data

/-- The native part of a frame. -/
def body (s : State) (tlvs : Bytes) : Bytes :=
  match TlvCursor.forEach (ε := Unit) (fun bytes t => .ok (bytes ++ emit s t)) tlvs.length
      ⟨tlvs, false⟩ [] with
  | .ok (bytes, _) => bytes
  | .error _ => []

/-- `build`: the frame, or `none` where the source returns zero. -/
def build (s : State) (native : TxTemplate) (capacity now : ℕ) (wire : UInt32) (subtype : UInt8) :
    Option Bytes × State :=
  if !valid native.tlvs then (none, s)
  else if synchronizationLength s + (body s native.tlvs).length > capacity then (none, s)
  else
    match buildSynchronization s capacity now wire wire subtype with
    | (none, s) => (none, s)
    | (some frame, s) => (some (frame ++ body s native.tlvs), s)

end NativeAction

end AirportAwdl.Native
