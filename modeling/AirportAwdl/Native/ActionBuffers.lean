import AirportAwdl.Election.Elect
import AirportAwdl.Native.Buffers

/-!
# The action parsers on their buffers

`parseFrame`, `decodeSyncAction` and `parseAdvertisement` as they run: with pointers into the
receive buffer, every access checked. Fixed fields are read in one piece once the length check that
covers them has passed. Each function is shown to return without a fault what its model on
byte lists says; since that model sees the whole buffer, this also says that the fields lie in
the piece that was read.
-/

namespace AirportAwdl.Native

open ByteBuffer Election CheckedMemory

namespace Buffers

/-- `Tlv` with its pointer. -/
structure TlvAt where
  type : UInt8
  data : Span
deriving DecidableEq, Repr

/-- `TlvCursor` with its pointer. -/
structure CursorAt where
  bytes : Span
  malformed : Bool := false
deriving DecidableEq, Repr

def TlvAt.load (b : Bytes) (t : TlvAt) : Tlv := ⟨t.type, t.data.view b⟩

def CursorAt.load (b : Bytes) (c : CursorAt) : TlvCursor := ⟨c.bytes.view b, c.malformed⟩

def CursorAt.next (b : Bytes) (c : CursorAt) : Checked (Option TlvAt × CursorAt) := do
  if c.bytes.length = 0 ∨ c.malformed then return (none, c)
  else if c.bytes.length < 3 then return (none, { c with malformed := true })
  else
    let head ← c.bytes.readSlice b 0 3
    let length := (le16 head 1).toNat
    if length > c.bytes.length - 3 then return (none, { c with malformed := true })
    else
      let data ← c.bytes.sub 3 length
      let bytes ← c.bytes.advance (3 + length)
      return (some ⟨byteAt head 0, data⟩, { c with bytes })

/-- `while (cursor.next(tlv)) body` -/
def forEach {σ ε : Type} (b : Bytes) (body : σ → TlvAt → Checked (Except ε σ)) :
    ℕ → CursorAt → σ → Checked (Except ε (σ × CursorAt))
  | 0, _, _ => throw .endless
  | fuel + 1, c, s => do
    match ← c.next b with
    | (none, c') => return .ok (s, c')
    | (some t, c') =>
      match ← body s t with
      | .error e => return .error e
      | .ok s' => forEach b body fuel c' s'

def parseAction (b : Bytes) (body : Span) : Checked (ParseResult × ActionInfo) := do
  if body.length < 5 then return (.notAwdl, {})
  else
    let vendor ← body.readSlice b 0 5
    if byteAt vendor 0 ≠ 127 ∨ byteAt vendor 1 ≠ 0 ∨ byteAt vendor 2 ≠ 0x17 ∨
        byteAt vendor 3 ≠ 0xf2 ∨ byteAt vendor 4 ≠ 8 then return (.notAwdl, {})
    else if body.length < 16 ∨ body.length > 4096 then return (.malformed, {})
    else
      let head ← body.readSlice b 5 2
      if byteAt head 0 = 0 then return (.malformed, {})
      else
        let bytes ← body.advance 16
        match ← forEach b (fun parsed t => pure (countTlv parsed ⟨t.type, []⟩)) (bytes.length + 1)
            { bytes } { version := byteAt head 0, subtype := byteAt head 1 } with
        | .error r => return (r, {})
        | .ok (parsed, cursor) =>
          if cursor.malformed then return (.malformed, {}) else return (.valid, parsed)

def parseFrame (b : Bytes) : Checked (ParseResult × ActionInfo) := do
  let frame := Span.all b
  if frame.length < 24 then return (.notAwdl, {})
  else
    let kind ← frame.read b 0
    let flags ← frame.read b 1
    let control ← frame.read b 22
    if kind ≠ 0xd0 ∨ flags &&& (0x03 ||| 0x04 ||| 0x40 ||| 0x80) ≠ 0 ∨ control &&& 15 ≠ 0 then
      return (.notAwdl, {})
    else parseAction b (← frame.advance 24)

/-- One entry of a channel list: the channel and, with two bytes, the other byte. -/
def entry (b : Bytes) (p : Span) (encoding : UInt8) (i : ℕ) : Checked (UInt8 × UInt8) := do
  let at_ ← p.advance (6 + i * entryWidth encoding)
  let channel ← at_.read b (if encoding = 1 then 1 else 0)
  if entryWidth encoding = 2 then
    return (channel, ← at_.read b (if encoding = 1 then 0 else 1))
  else return (channel, 0)

/-- The checks on one entry. -/
def allowed (encoding : UInt8) (e : UInt8 × UInt8) : Bool :=
  e.1 ≤ 196 &&
    (if encoding = 3 ∧ e.1 ≠ 0 then
      (if e.1 ≤ 14 then 81 ≤ e.2 && e.2 ≤ 84 else 115 ≤ e.2 && e.2 ≤ 130)
     else true)

def decodeChannelSequence (b : Bytes) (p : Span) : Checked (Except SyncRefusal ChannelSequence) := do
  if p.length < 6 then return .error .malformed
  else
    let head ← p.readSlice b 0 6
    let encoding := byteAt head 1
    let width := entryWidth encoding
    if width = 0 ∨ byteAt head 0 ≠ 15 ∨ byteAt head 2 ≠ 0 ∨ byteAt head 3 > 15 ∨
        le16 head 4 ≠ 0xffff then return .error .unsupported
    else
      let used := 6 + 16 * width
      if p.length < used ∨ p.length - used > 3 then return .error .malformed
      else if (← p.readSlice b used (p.length - used)).any (· != 0) then return .error .malformed
      else
        let entries ← (List.range 16).mapM (entry b p encoding)
        if entries.all (allowed encoding) then
          return .ok {
            count := 16
            encoding := encoding
            stride := byteAt head 3 + 1
            channel := Vector.ofFn fun i => (entries.getD i (0, 0)).1
            auxiliary := Vector.ofFn fun i => (entries.getD i (0, 0)).2 }
        else return .error .unsupported

/-- TLV 4; an embedded channel list follows the fixed fields. -/
def scanSync (b : Bytes) (s : SyncScan) (p : Span) : Checked (Except SyncRefusal SyncScan) := do
  if s.haveSync ∨ p.length < 33 then return .error .malformed
  else
    match AirportAwdl.scanSync s (← p.readSlice b 0 33) with
    | .error refusal => return .error refusal
    | .ok s =>
      if p.length > 33 then
        match ← decodeChannelSequence b (← p.advance 33) with
        | .error refusal => return .error refusal
        | .ok embedded => return .ok { s with embedded, haveEmbedded := true }
      else return .ok s

/-- TLV 18 -/
def scanSequence (b : Bytes) (s : SyncScan) (p : Span) : Checked (Except SyncRefusal SyncScan) := do
  if s.haveSequence then return .error .malformed
  else
    match ← decodeChannelSequence b p with
    | .error refusal => return .error refusal
    | .ok sequence =>
      return .ok { s with decoded := { s.decoded with sequence }, haveSequence := true }

/-- TLV 24 -/
def scanElection (b : Bytes) (s : SyncScan) (p : Span) : Checked (Except SyncRefusal SyncScan) := do
  if s.decoded.electionPresent ∨ p.length < 40 then return .error .malformed
  else return AirportAwdl.scanElection s (← p.readSlice b 0 40)

/-- TLV 21 -/
def scanVersion (b : Bytes) (s : SyncScan) (p : Span) : Checked (Except SyncRefusal SyncScan) := do
  if s.decoded.versionPresent ∨ p.length < 2 then return .error .malformed
  else return AirportAwdl.scanVersion s (← p.readSlice b 0 2)

/-- The loop of `decodeSyncAction`. -/
def scanTlv (b : Bytes) (s : SyncScan) (t : TlvAt) : Checked (Except SyncRefusal SyncScan) :=
  if t.type = 4 then scanSync b s t.data
  else if t.type = 18 then scanSequence b s t.data
  else if t.type = 24 then scanElection b s t.data
  else if t.type = 21 then scanVersion b s t.data
  else pure (.ok s)

/-- `decodeSyncAction`; a refusal leaves the output zero. -/
def decodeSyncAction (b : Bytes) (body : Span) : Checked (Except SyncRefusal SyncMessage) := do
  match ← parseAction b body with
  | (.notAwdl, _) => return .error .notSynchronization
  | (.malformed, _) => return .error .malformed
  | (.valid, envelope) =>
    if envelope.version ≠ 0x10 ∨ (envelope.subtype ≠ 0 ∧ envelope.subtype ≠ 3) then
      return .error .unsupported
    else
      let times ← body.readSlice b 8 8
      let decoded : SyncMessage := {
        subtype := envelope.subtype
        phyTxTime := le32 times 0
        targetTxTime := le32 times 4 }
      let bytes ← body.advance 16
      match ← forEach b (scanTlv b) (bytes.length + 1) { bytes } { decoded := decoded } with
      | .error refusal => return .error refusal
      | .ok (s, cursor) =>
        if cursor.malformed then return .error .malformed else return finishSync s

/-- The advertisement in a message, if its counter and countdown describe one instant. -/
def advertisementOf (source : Mac) (decoded : SyncMessage) : Option Advertisement :=
  if decoded.periodTu ≠ 16 ∨ decoded.countdownTu = 0 ∨ decoded.height > 10 ∨
      decoded.counter.toNat % decoded.presence.toNat ≠
        (decoded.presence.toNat * 16 - decoded.countdownTu.toNat) / 16 then none
  else some {
    sequence := {
      count := decoded.sequence.count
      step := decoded.sequence.stride - 1
      channels := decoded.sequence.channel }
    master := decoded.master
    sync := if decoded.electionPresent then decoded.syncAddress else source
    period := decoded.periodTu
    counter := decoded.counter
    down := decoded.countdownTu
    presence := decoded.presence
    metric := decoded.masterMetric
    distance := decoded.height
    masterCounter := decoded.masterCounter
    selfCounter := decoded.selfCounter }

def parseAdvertisement (b : Bytes) : Checked (Option Advertisement) := do
  let frame := Span.all b
  match ← parseFrame b with
  | (.notAwdl, _) | (.malformed, _) => return none
  | (.valid, _) =>
    let source ← readMac b frame 10
    let third ← readMac b frame 16
    if !unicast source ∨ third ≠ bssid then return none
    else
      match ← decodeSyncAction b (← frame.advance 24) with
      | .error _ => return none
      | .ok decoded => return advertisementOf source decoded

/-- `State::receiveAction` -/
def receiveAction (b : Bytes) (now : ℕ) (s : State) : Checked (Option (Fin 16) × State) := do
  match ← parseAdvertisement b with
  | none => return (none, s)
  | some a =>
    let source ← readMac b (Span.all b) 10
    if source = s.mac then return (none, s)
    else if now < State.spentUs a then return (none, s)
    else
      match s.peerSlot source now with
      | none => return (none, s)
      | some i => return (some i, (s.storePeer i (State.observation source a now)).elect now)

section
variable {b : Bytes} {body p : Span}

lemma next_ok {c : CursorAt} (h : c.bytes.Inside b) : ∃ t c', c.next b = .ok (t, c') ∧
    (c.load b).next = (t.map (·.load b), c'.load b) ∧ c'.bytes.Within c.bytes ∧
    ∀ u ∈ t, u.data.Within c.bytes := by
  have hlength := Span.length_view h
  have hsame : Span.Within c.bytes c.bytes := .refl c.bytes
  unfold CursorAt.next TlvCursor.next
  simp only [CursorAt.load, hlength]
  by_cases hend : c.bytes.length = 0 ∨ c.malformed
  · exact ⟨none, c, if_pos hend, if_pos hend, hsame, nofun⟩
  by_cases hshort : c.bytes.length < 3
  · refine ⟨none, { c with malformed := true }, ?_, ?_, hsame, nofun⟩
    · rw [if_neg hend, if_pos hshort]
      rfl
    · rw [if_neg hend, if_pos hshort]
      rfl
  have hle : le16 (slice (c.bytes.view b) 0 3) 1 = le16 (c.bytes.view b) 1 := le16_slice (by decide)
  have htype : byteAt (slice (c.bytes.view b) 0 3) 0 = byteAt (c.bytes.view b) 0 :=
    byteAt_slice (by decide)
  rw [if_neg hend, if_neg hshort, if_neg hend, if_neg hshort, Span.readSlice_ok h (by omega),
    ok_bind, hle, htype]
  generalize (le16 (c.bytes.view b) 1).toNat = length
  by_cases hlong : length > c.bytes.length - 3
  · simp_all
  have hsub : 3 + length ≤ c.bytes.length := by omega
  rw [if_neg hlong, if_neg hlong, Span.sub_ok hsub, ok_bind, Span.advance_ok hsub, ok_bind]
  refine ⟨_, _, rfl, ?_, Span.within_advance hsub, ?_⟩
  · simp only [Option.map_some, TlvAt.load, Span.view_sub hsub, Span.view_advance]
  · intro u hu
    obtain rfl := Option.mem_some.mp hu
    exact Span.within_sub hsub

lemma forEach_ok {σ ε : Type} {body : σ → TlvAt → Checked (Except ε σ)} {f : σ → Tlv → Except ε σ}
    (hbody : ∀ s t, t.data.Inside b → body s t = .ok (f s (t.load b))) (fuel fuel' : ℕ)
    {c : CursorAt} (s : σ) (h : c.bytes.Inside b) (hfuel : c.bytes.length < fuel)
    (hfuel' : c.bytes.length ≤ fuel') :
    ∃ r, forEach b body fuel c s = .ok r ∧
      (c.load b).forEach f fuel' s = r.map fun p => (p.1, p.2.load b) := by
  induction fuel generalizing fuel' c s with
  | zero => exact absurd hfuel (Nat.not_lt_zero _)
  | succ fuel ih =>
    obtain ⟨t, c', hnext, hload, hwithin, hdata⟩ := next_ok h
    rw [forEach, hnext, ok_bind]
    cases t with
    | none =>
      refine ⟨.ok (s, c'), rfl, ?_⟩
      cases fuel' with
      | zero =>
        -- nothing is left, so the cursor has not moved
        have hempty : (c.load b).bytes = [] := by
          apply List.eq_nil_of_length_eq_zero
          rw [CursorAt.load, Span.length_view h]
          omega
        rw [TlvCursor.next_nil _ hempty] at hload
        have hsame : c.load b = c'.load b := (Prod.mk.inj hload).2
        rw [TlvCursor.forEach, hsame]
        rfl
      | succ fuel' =>
        rw [TlvCursor.forEach, hload]
        rfl
    | some t =>
      have hconsumed := (TlvCursor.next_some hload).2.2.2
      have hinside' : c'.bytes.Inside b := hwithin.inside h
      simp only [CursorAt.load, Span.length_view h, Span.length_view hinside'] at hconsumed
      obtain ⟨fuel', rfl⟩ : ∃ n, fuel' = n + 1 := ⟨fuel' - 1, by omega⟩
      have hhandled := hbody s t ((hdata t rfl).inside h)
      dsimp only
      rw [TlvCursor.forEach, hload, hhandled, ok_bind]
      dsimp only [Option.map_some]
      cases f s (t.load b) with
      | error e => exact ⟨.error e, rfl, rfl⟩
      | ok s' => exact ih fuel' s' hinside' (by omega) (by omega)

lemma forEach_body {σ ε : Type} (handle : σ → TlvAt → Checked (Except ε σ))
    (f : σ → Tlv → Except ε σ)
    (hhandle : ∀ s t, t.data.Inside b → handle s t = .ok (f s (t.load b))) (s : σ)
    (h : body.Inside b) (hsize : 16 ≤ body.length) :
    ∃ r, forEach b handle (body.length - 16 + 1) { bytes := ⟨body.start + 16, body.length - 16⟩ } s =
        .ok r ∧
      TlvCursor.forEach f ((body.view b).drop 16).length { bytes := (body.view b).drop 16 } s =
        r.map fun p => (p.1, p.2.load b) := by
  have hrest : Span.Inside ⟨body.start + 16, body.length - 16⟩ b :=
    (Span.within_advance hsize).inside h
  have hfuel : ((body.view b).drop 16).length = body.length - 16 := by
    rw [List.length_drop, Span.length_view h]
  obtain ⟨r, hr, hload⟩ := forEach_ok hhandle (body.length - 16 + 1) ((body.view b).drop 16).length
    (c := { bytes := ⟨body.start + 16, body.length - 16⟩ }) s hrest (by dsimp only; omega)
    (by rw [hfuel])
  refine ⟨r, hr, ?_⟩
  rw [← hload, CursorAt.load, Span.view_advance]

lemma parseAction_ok (h : body.Inside b) :
    parseAction b body = .ok (AirportAwdl.parseAction (body.view b)) := by
  have hlength := Span.length_view h
  unfold parseAction AirportAwdl.parseAction
  rw [hlength]
  by_cases hshort : body.length < 5
  · rw [if_pos hshort, if_pos (.inl hshort)]
    rfl
  rw [if_neg hshort, Span.readSlice_ok h (by omega), ok_bind]
  simp only [hshort, false_or]
  rw [byteAt_slice (by decide), byteAt_slice (by decide), byteAt_slice (by decide),
    byteAt_slice (by decide), byteAt_slice (by decide)]
  split
  · rfl
  by_cases hsize : body.length < 16 ∨ body.length > 4096
  · rw [if_pos hsize, if_pos (by omega)]
    rfl
  rw [if_neg hsize, Span.readSlice_ok h (by omega), ok_bind, byteAt_slice (by decide),
    byteAt_slice (by decide)]
  by_cases hversion : byteAt (body.view b) 5 = 0
  · rw [if_pos hversion, if_pos (.inr (.inr hversion))]
    rfl
  have hfixed : ¬(body.length < 16 ∨ body.length > 4096 ∨ byteAt (body.view b) 5 = 0) := by
    grind
  rw [if_neg hversion, if_neg hfixed, Span.advance_ok (by omega), ok_bind]
  obtain ⟨r, hr, hload⟩ := forEach_body (fun parsed t => pure (countTlv parsed ⟨t.type, []⟩))
    countTlv (fun _ _ _ => rfl)
    { version := byteAt (body.view b) 5, subtype := byteAt (body.view b) 6 } h (by omega)
  rw [hr, hload, ok_bind]
  cases r with
  | error e => rfl
  | ok p =>
    obtain ⟨parsed, cursor⟩ := p
    show (if cursor.malformed then pure (.malformed, {}) else pure (.valid, parsed)) =
      (.ok (if cursor.malformed then (.malformed, {}) else (.valid, parsed)) :
        Checked (ParseResult × ActionInfo))
    split
    · rfl
    · rfl

lemma parseFrame_ok (b : Bytes) : parseFrame b = .ok (AirportAwdl.parseFrame b) := by
  have hinside := Span.inside_all b
  have hall : (Span.all b).length = b.length := rfl
  unfold parseFrame AirportAwdl.parseFrame
  dsimp only
  rw [hall]
  by_cases hshort : b.length < 24
  · rw [if_pos hshort, if_pos (.inl hshort)]
    rfl
  rw [if_neg hshort, Span.read_ok hinside (by omega), Span.read_ok hinside (by omega),
    Span.read_ok hinside (by omega), ok_bind, ok_bind, ok_bind, Span.view_all]
  simp only [hshort, false_or]
  split
  · rfl
  have hsize : 24 ≤ (Span.all b).length := by omega
  have hview := Span.view_advance b (Span.all b) 24
  rw [Span.view_all] at hview
  rw [Span.advance_ok hsize, ok_bind, parseAction_ok ((Span.within_advance hsize).inside hinside),
    hview]

lemma entry_ok (h : p.Inside b) {i : ℕ} (hi : i < 16)
    (hwidth : entryWidth (byteAt (p.view b) 1) ≠ 0)
    (hsize : 6 + 16 * entryWidth (byteAt (p.view b) 1) ≤ p.length) :
    entry b p (byteAt (p.view b) 1) i =
      .ok (entryChannel (p.view b) i, entryAuxiliary (p.view b) i) := by
  unfold entry entryChannel entryAuxiliary
  generalize hencoding : byteAt (p.view b) 1 = encoding at *
  have hone : encoding = 1 → entryWidth encoding = 2 := by
    rintro rfl
    rfl
  have hmul : i * entryWidth encoding + entryWidth encoding ≤ 16 * entryWidth encoding := by
    rw [← Nat.succ_mul]
    exact Nat.mul_le_mul_right _ hi
  have hadvance : 6 + i * entryWidth encoding ≤ p.length := by omega
  have hinside : Span.Inside ⟨p.start + (6 + i * entryWidth encoding),
      p.length - (6 + i * entryWidth encoding)⟩ b := (Span.within_advance hadvance).inside h
  have hread : ∀ k < entryWidth encoding,
      Span.read b ⟨p.start + (6 + i * entryWidth encoding), p.length - (6 + i * entryWidth encoding)⟩
        k = .ok (byteAt (p.view b) (6 + i * entryWidth encoding + k)) := by
    intro k hk
    rw [Span.read_ok hinside (by dsimp only; omega), Span.view_advance, byteAt_drop]
  have hfirst : (if encoding = 1 then 1 else 0) < entryWidth encoding := by
    grind
  rw [Span.advance_ok hadvance, ok_bind, hread _ hfirst, ok_bind]
  by_cases htwo : entryWidth encoding = 2
  · have hsecond : (if encoding = 1 then 0 else 1) < entryWidth encoding := by
      rw [htwo]
      split
      · decide
      · decide
    simp_all
  · rw [if_neg htwo, if_neg htwo]
    rfl

lemma decodeChannelSequence_ok (h : p.Inside b) :
    decodeChannelSequence b p = .ok (AirportAwdl.decodeChannelSequence (p.view b)) := by
  have hlength := Span.length_view h
  unfold decodeChannelSequence AirportAwdl.decodeChannelSequence
  rw [hlength]
  by_cases hshort : p.length < 6
  · rw [if_pos hshort, if_pos hshort]
    rfl
  rw [if_neg hshort, if_neg hshort, Span.readSlice_ok h (by omega), ok_bind, le16_slice (by decide),
    byteAt_slice (by decide), byteAt_slice (by decide), byteAt_slice (by decide),
    byteAt_slice (by decide)]
  simp only [zero_add]
  by_cases hkind : entryWidth (byteAt (p.view b) 1) = 0 ∨ byteAt (p.view b) 0 ≠ 15 ∨
      byteAt (p.view b) 2 ≠ 0 ∨ byteAt (p.view b) 3 > 15 ∨ le16 (p.view b) 4 ≠ 0xffff
  · rw [if_pos hkind, if_pos hkind]
    rfl
  rw [if_neg hkind, if_neg hkind]
  by_cases hsize : p.length < 6 + 16 * entryWidth (byteAt (p.view b) 1) ∨
      p.length - (6 + 16 * entryWidth (byteAt (p.view b) 1)) > 3
  · rw [if_pos hsize, if_pos hsize]
    rfl
  have hentries : (List.range 16).mapM (entry b p (byteAt (p.view b) 1)) =
      .ok ((List.range 16).map fun i => (entryChannel (p.view b) i, entryAuxiliary (p.view b) i)) := by
    grind [mapM_ok, entry_ok]
  have hrest : slice (p.view b) (6 + 16 * entryWidth (byteAt (p.view b) 1))
      (p.length - (6 + 16 * entryWidth (byteAt (p.view b) 1))) =
        (p.view b).drop (6 + 16 * entryWidth (byteAt (p.view b) 1)) := by
    rw [slice, List.take_of_length_le]
    rw [List.length_drop, hlength]
  rw [if_neg hsize, if_neg hsize, Span.readSlice_ok h (by omega), ok_bind, hrest]
  split
  · rfl
  have hgetD : ∀ i : Fin 16, ((List.range 16).map fun i =>
      (entryChannel (p.view b) i, entryAuxiliary (p.view b) i)).getD i (0, 0) =
        (entryChannel (p.view b) i, entryAuxiliary (p.view b) i) := by
    simp [List.getD_eq_getElem?_getD]
  rw [hentries, ok_bind]
  simp only [List.all_map, hgetD]
  have hall : ((List.range 16).all (allowed (byteAt (p.view b) 1) ∘
      fun i => (entryChannel (p.view b) i, entryAuxiliary (p.view b) i))) =
        (List.range 16).all (entryAllowed (p.view b)) := rfl
  rw [hall]
  split
  · rfl
  · rfl

lemma scanSync_fixed (s : SyncScan) {p : Bytes} (hsize : 33 ≤ p.length) :
    AirportAwdl.scanSync s p =
      match AirportAwdl.scanSync s (slice p 0 33) with
      | .error refusal => .error refusal
      | .ok s =>
        if p.length > 33 then
          match AirportAwdl.decodeChannelSequence (p.drop 33) with
          | .error refusal => .error refusal
          | .ok embedded => .ok { s with embedded, haveEmbedded := true }
        else .ok s := by
  have hfixed : (slice p 0 33).length = 33 := length_slice hsize
  unfold AirportAwdl.scanSync
  simp (disch := decide) only [byteAt_slice, le16_slice, macAt_slice, zero_add]
  grind

lemma scanSync_ok (h : p.Inside b) (s : SyncScan) :
    scanSync b s p = .ok (AirportAwdl.scanSync s (p.view b)) := by
  have hlength := Span.length_view h
  unfold scanSync
  by_cases hrefused : s.haveSync = true ∨ p.length < 33
  · rw [if_pos hrefused, AirportAwdl.scanSync, if_pos (by rwa [hlength])]
    rfl
  rw [if_neg hrefused, Span.readSlice_ok h (by omega), ok_bind,
    scanSync_fixed s (p := p.view b) (by omega), hlength]
  cases AirportAwdl.scanSync s (slice (p.view b) 0 33) with
  | error refusal => rfl
  | ok s' =>
    dsimp only
    by_cases hmore : p.length > 33
    · have hrest : Span.Inside ⟨p.start + 33, p.length - 33⟩ b :=
        (Span.within_advance (by omega)).inside h
      rw [if_pos hmore, if_pos hmore, Span.advance_ok (by omega), ok_bind,
        decodeChannelSequence_ok hrest, ok_bind, Span.view_advance]
      cases AirportAwdl.decodeChannelSequence ((p.view b).drop 33) with
      | error refusal => rfl
      | ok embedded => rfl
    · rw [if_neg hmore, if_neg hmore]
      rfl

lemma scanSequence_ok (h : p.Inside b) (s : SyncScan) :
    scanSequence b s p = .ok (AirportAwdl.scanSequence s (p.view b)) := by
  unfold scanSequence AirportAwdl.scanSequence
  by_cases hrefused : s.haveSequence = true
  · rw [if_pos hrefused, if_pos hrefused]
    rfl
  rw [if_neg hrefused, if_neg hrefused, decodeChannelSequence_ok h, ok_bind]
  cases AirportAwdl.decodeChannelSequence (p.view b) with
  | error refusal => rfl
  | ok sequence => rfl

lemma scanElection_ok (h : p.Inside b) (s : SyncScan) :
    scanElection b s p = .ok (AirportAwdl.scanElection s (p.view b)) := by
  have hlength := Span.length_view h
  unfold scanElection
  by_cases hrefused : s.decoded.electionPresent = true ∨ p.length < 40
  · rw [if_pos hrefused, AirportAwdl.scanElection, if_pos (by rwa [hlength])]
    rfl
  have hfixed : (slice (p.view b) 0 40).length = 40 := length_slice (by omega)
  rw [if_neg hrefused, Span.readSlice_ok h (by omega), ok_bind]
  unfold AirportAwdl.scanElection
  rw [hfixed, hlength, if_neg (hrefused ∘ Or.imp_right fun h => absurd h (Nat.lt_irrefl 40)),
    if_neg hrefused]
  simp (disch := decide) only [le32_slice, macAt_slice, zero_add]
  rfl

lemma scanVersion_ok (h : p.Inside b) (s : SyncScan) :
    scanVersion b s p = .ok (AirportAwdl.scanVersion s (p.view b)) := by
  have hlength := Span.length_view h
  unfold scanVersion
  by_cases hrefused : s.decoded.versionPresent = true ∨ p.length < 2
  · rw [if_pos hrefused, AirportAwdl.scanVersion, if_pos (by rwa [hlength])]
    rfl
  have hfixed : (slice (p.view b) 0 2).length = 2 := length_slice (by omega)
  rw [if_neg hrefused, Span.readSlice_ok h (by omega), ok_bind]
  unfold AirportAwdl.scanVersion
  rw [hfixed, hlength, if_neg (hrefused ∘ Or.imp_right fun h => absurd h (Nat.lt_irrefl 2)),
    if_neg hrefused]
  simp (disch := decide) only [byteAt_slice, zero_add]
  rfl

lemma scanTlv_ok {t : TlvAt} (h : t.data.Inside b) (s : SyncScan) :
    scanTlv b s t = .ok (AirportAwdl.scanTlv s (t.load b)) := by
  obtain ⟨type, data⟩ := t
  have hload : TlvAt.load b ⟨type, data⟩ = ⟨type, data.view b⟩ := rfl
  unfold scanTlv AirportAwdl.scanTlv
  by_cases hsync : type = 4
  · subst hsync
    exact scanSync_ok h s
  by_cases hsequence : type = 18
  · subst hsequence
    exact scanSequence_ok h s
  by_cases helection : type = 24
  · subst helection
    exact scanElection_ok h s
  by_cases hversion : type = 21
  · subst hversion
    exact scanVersion_ok h s
  simp_all

lemma decodeSyncAction_ok (h : body.Inside b) :
    decodeSyncAction b body = .ok (decodeSyncBody (body.view b)) := by
  unfold decodeSyncAction decodeSyncBody
  rw [parseAction_ok h, ok_bind]
  generalize hparsed : AirportAwdl.parseAction (body.view b) = parsed
  obtain ⟨result, envelope⟩ := parsed
  cases result with
  | notAwdl => rfl
  | malformed => rfl
  | valid =>
    have hsize : 16 ≤ body.length := by
      have hlength := length_of_parseAction (congrArg Prod.fst hparsed)
      rwa [Span.length_view h] at hlength
    dsimp only
    split
    · rfl
    rw [Span.readSlice_ok h (by omega), ok_bind, le32_slice (by decide), le32_slice (by decide),
      Span.advance_ok hsize, ok_bind]
    obtain ⟨r, hr, hload⟩ := forEach_body (scanTlv b) AirportAwdl.scanTlv
      (fun s t ht => scanTlv_ok ht s) { decoded := {
        subtype := envelope.subtype
        phyTxTime := le32 (body.view b) 8
        targetTxTime := le32 (body.view b) 12 } } h hsize
    rw [hr, hload, ok_bind]
    cases r with
    | error refusal => rfl
    | ok p =>
      obtain ⟨s, cursor⟩ := p
      show (if cursor.malformed then pure (.error .malformed) else pure (finishSync s)) =
        (.ok (if cursor.malformed then .error .malformed else finishSync s) :
          Checked (Except SyncRefusal SyncMessage))
      split
      · rfl
      · rfl

lemma parseAdvertisement_eq (frame : Bytes) : Election.parseAdvertisement frame =
    if (AirportAwdl.parseFrame frame).1 ≠ .valid ∨ !unicast (macAt frame 10) ∨
        macAt frame 16 ≠ bssid then none
    else
      match decodeSyncBody (frame.drop 24) with
      | .error _ => none
      | .ok decoded => advertisementOf (macAt frame 10) decoded := by
  unfold Election.parseAdvertisement AirportAwdl.decodeSyncAction
  split
  · rfl
  cases decodeSyncBody (frame.drop 24) with
  | error refusal => cases refusal <;> rfl
  | ok decoded => rfl

lemma length_of_parseAdvertisement {frame : Bytes} {a : Advertisement}
    (h : Election.parseAdvertisement frame = some a) : 40 ≤ frame.length := by
  rw [parseAdvertisement_eq] at h
  by_cases hvalid : (AirportAwdl.parseFrame frame).1 = .valid
  · exact length_of_parseFrame hvalid
  · rw [if_pos (.inl hvalid)] at h
    exact nomatch h

lemma parseAdvertisement_checked (b : Bytes) :
    parseAdvertisement b = .ok (Election.parseAdvertisement b) := by
  have hinside := Span.inside_all b
  rw [parseAdvertisement_eq]
  unfold parseAdvertisement
  rw [parseFrame_ok, ok_bind]
  generalize hparsed : AirportAwdl.parseFrame b = parsed
  obtain ⟨result, info⟩ := parsed
  cases result with
  | notAwdl => rfl
  | malformed => rfl
  | valid =>
    have hlength : 40 ≤ (Span.all b).length := length_of_parseFrame (congrArg Prod.fst hparsed)
    have hsize : 24 ≤ (Span.all b).length := by omega
    have hview := Span.view_advance b (Span.all b) 24
    rw [Span.view_all] at hview
    rw [readMac_ok hinside (by omega), ok_bind, readMac_ok hinside (by omega), ok_bind,
      Span.view_all]
    simp only [ne_eq, not_true_eq_false, false_or]
    split
    · rfl
    rw [Span.advance_ok hsize, ok_bind,
      decodeSyncAction_ok ((Span.within_advance hsize).inside hinside), ok_bind, hview]
    cases decodeSyncBody (b.drop 24) with
    | error refusal => rfl
    | ok decoded => rfl

lemma receiveAction_ok (b : Bytes) (now : ℕ) (s : State) :
    receiveAction b now s = .ok (s.receiveAction b now) := by
  unfold receiveAction State.receiveAction
  rw [parseAdvertisement_checked, ok_bind]
  cases hparsed : Election.parseAdvertisement b with
  | none => rfl
  | some a =>
    have hlength : 40 ≤ (Span.all b).length := length_of_parseAdvertisement hparsed
    dsimp only
    rw [readMac_ok (Span.inside_all b) (by omega), ok_bind, Span.view_all]
    split
    · rfl
    split
    · rfl
    cases s.peerSlot (macAt b 10) now with
    | none => rfl
    | some i => rfl

end

end Buffers

end AirportAwdl.Native
