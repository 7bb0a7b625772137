import AirportAwdl.Lib.CheckedMemory
import AirportAwdl.Native.RoundTrip

/-!
# The decoders on their buffers

`DataCodec` as it runs: over one receive buffer, with pointers into it. Every access is checked, a
`ViewAt` is what the source's `View` points at, and `inspectAggregate` makes its two passes over the
subframes with the caller's array. Where the source stops at the first byte that does not fit, the
bytes that the last length check covers are all read here: no fewer than in the source. Each function is shown to return without a fault what the codec
of `Native.Codec` says, with every pointer inside the buffer.
-/

namespace AirportAwdl.Native

open ByteBuffer Election CheckedMemory

/-- `DataCodec::View` with its pointers. -/
structure ViewAt where
  destination : ℕ
  source : ℕ
  payload : Span
  sequence : UInt16
deriving DecidableEq, Repr

namespace ViewAt

/-- What the view shows. -/
def load (b : Bytes) (v : ViewAt) : DataCodec.View :=
  ⟨macAt b v.destination, macAt b v.source, v.payload.view b, v.sequence⟩

/-- Every pointer of the view leads into the buffer. -/
structure Inside (v : ViewAt) (b : Bytes) : Prop where
  destination : v.destination + 6 ≤ b.length
  source : v.source + 6 ≤ b.length
  payload : v.payload.Inside b

end ViewAt

namespace Buffers

/-- An address of six bytes. -/
def readMac (b : Bytes) (s : Span) (i : ℕ) : Checked Mac :=
  return macAt (← s.readSlice b i 6) 0

def ipv6 (b : Bytes) (packet : Span) : Checked Bool := do
  if packet.length < 40 then return false
  else
    let head ← packet.readSlice b 0 6
    return byteAt head 0 >>> 4 == 6 && DataCodec.be16 head 4 == packet.length - 40

/-- `inspectBody`, from the point where an envelope was stripped. -/
def inspectPlain (b : Bytes) (body : Span) : Checked (Option (Span × UInt16)) := do
  if body.length < 16 then return none
  else
    let head ← body.readSlice b 0 16
    let payload ← body.advance 16
    let valid ← ipv6 b payload
    if head.take 10 ≠ [0xaa, 0xaa, 3, 0, 0x17, 0xf2, 8, 0, 3, 4] ∨ byteAt head 12 ≠ 0 ∨
        byteAt head 13 ≠ 0 ∨ byteAt head 14 ≠ 0x86 ∨ byteAt head 15 ≠ 0xdd ∨
        payload.length > DataCodec.mtu ∨ !valid then return none
    else return some (payload, le16 head 10)

def inspectBody (b : Bytes) (body : Span) (qos : Bool) : Checked (Option (Span × UInt16)) := do
  if !qos ∨ body.length < 8 then inspectPlain b body
  else if (← body.readSlice b 0 6) ≠ [0xaa, 0xaa, 3, 0, 0, 0] then inspectPlain b body
  else if DataCodec.be16 (← body.readSlice b 6 2) 0 ≠ body.length - 8 then return none
  else inspectPlain b (← body.advance 8)

/-- The checks on the first 24 bytes. -/
def validHeader (b : Bytes) (frame : Span) : Checked Bool := do
  let flags ← frame.read b 1
  let control ← frame.read b 22
  let source ← readMac b frame 10
  let third ← readMac b frame 16
  return flags &&& (3 ||| 4 ||| 0x40 ||| 0x80) == 0 && control &&& 15 == 0 &&
    DataCodec.validSource source && third == bssid

def inspect (b : Bytes) : Checked (Option ViewAt) := do
  let frame := Span.all b
  if frame.length < 40 then return none
  else
    let kind ← frame.read b 0
    let valid ← validHeader b frame
    let control ← frame.read b 24
    let size := if kind == 0x88 then 26 else 24
    if (kind ≠ 0x88 ∧ kind ≠ 0x08) ∨ !valid ∨ frame.length < size + 16 ∨
        (kind == 0x88 ∧ control &&& 0x80 ≠ 0) then return none
    else
      let body ← inspectBody b (← frame.advance size) (kind == 0x88)
      return body.map fun p => ⟨4, 10, p.1, p.2⟩

/-- The subframe at `offset`, of which 14 bytes are left: its view and the length of its body. -/
def subframe (b : Bytes) (offset : ℕ) : Checked (Option (ViewAt × ℕ)) := do
  let frame := Span.all b
  let sub ← frame.advance offset
  let source ← readMac b sub 6
  let transmitter ← readMac b frame 10
  let bytes := DataCodec.be16 (← sub.readSlice b 12 2) 0
  if source ≠ transmitter ∨ bytes > b.length - offset - 14 then return none
  else
    let body ← inspectBody b (← sub.sub 14 bytes) true
    return body.map fun p => (⟨offset, offset + 6, p.1, p.2⟩, bytes)

/-- Bytes that bring a subframe to a multiple of four. -/
def padding (bytes : ℕ) : ℕ := (4 - (14 + bytes) % 4) % 4

/-- `if (pass && views) views[index]=v;` -/
def keep (storing : Bool) (views : List (Option ViewAt)) (index : ℕ) (view : ViewAt) :
    Checked (List (Option ViewAt)) :=
  if storing then store views index (some view) else pure views

/-- One pass of the loop of `inspectAggregate`, at the subframe `offset` with `index` of them
behind it: whether it ends well and with how many, and the array. -/
def aggregatePass (b : Bytes) (capacity : ℕ) (storing : Bool) :
    ℕ → ℕ → ℕ → List (Option ViewAt) → Checked (Option ℕ × List (Option ViewAt))
  | 0, _, _, _ => throw .endless
  | fuel + 1, offset, index, views => do
    if b.length ≤ offset then return (some index, views)
    else if b.length - offset < 14 ∨ index ≥ capacity then return (none, views)
    else
      match ← subframe b offset with
      | none => return (none, views)
      | some (view, bytes) =>
        let views ← keep storing views index view
        let next := offset + 14 + bytes
        if next = b.length then return (some (index + 1), views)
        else if padding bytes > b.length - next ∨ b.length - next - padding bytes < 14 then
          return (none, views)
        else aggregatePass b capacity storing fuel (next + padding bytes) (index + 1) views

/-- `inspectAggregate`: its answer, `count` and the array behind `views`, if that is not null. -/
def inspectAggregate (b : Bytes) (views : Option (List (Option ViewAt))) (capacity : ℕ) :
    Checked (Bool × ℕ × Option (List (Option ViewAt))) := do
  let frame := Span.all b
  if capacity = 0 ∨ frame.length < 26 ∨ frame.length > DataCodec.maximumAggregateFrame then
    return (false, 0, views)
  else
    let kind ← frame.read b 0
    let valid ← validHeader b frame
    let control ← frame.read b 24
    if kind ≠ 0x88 ∨ !valid ∨ control &&& 0x80 = 0 then return (false, 0, views)
    else
      match ← aggregatePass b capacity false (b.length + 1) 26 0 (views.getD []) with
      | (none, _) | (some 0, _) => return (false, 0, views)
      | (some _, _) =>
        match ← aggregatePass b capacity views.isSome (b.length + 1) 26 0 (views.getD []) with
        | (none, stored) | (some 0, stored) => return (false, 0, views.map fun _ => stored)
        | (some total, stored) => return (true, total, views.map fun _ => stored)

variable {b : Bytes} {body : Span}

lemma readMac_ok {s : Span} (h : s.Inside b) {i : ℕ} (hi : i + 6 ≤ s.length) :
    readMac b s i = .ok (macAt (s.view b) i) := by
  rw [readMac, Span.readSlice_ok h hi, ok_bind, macAt_slice (by decide), Nat.add_zero]
  rfl

/-- A pointer result is what the codec says, and lies within the body. -/
structure Located (b : Bytes) (body : Span) (r : Option (Span × UInt16))
    (value : Option (Bytes × UInt16)) : Prop where
  value : r.map (fun p => (p.1.view b, p.2)) = value
  within : ∀ p ∈ r, p.1.Within body

lemma located_none {value : Option (Bytes × UInt16)} (h : value = none) :
    Located b body none value :=
  ⟨h.symm, nofun⟩

lemma be16_slice {v : Bytes} {off n i : ℕ} (h : i + 1 < n) :
    DataCodec.be16 (slice v off n) i = DataCodec.be16 v (off + i) := by
  rw [DataCodec.be16, byteAt_slice (by omega), byteAt_slice h]
  rfl

lemma ipv6_ok {packet : Span} (h : packet.Inside b) :
    ipv6 b packet = .ok (DataCodec.ipv6 (packet.view b)) := by
  have hlength := Span.length_view h
  unfold ipv6 DataCodec.ipv6
  rw [hlength]
  by_cases hshort : packet.length < 40
  · rw [if_pos hshort, decide_eq_false (by omega)]
    rfl
  · rw [if_neg hshort, Span.readSlice_ok h (by omega), ok_bind, byteAt_slice (by decide),
      be16_slice (by decide), decide_eq_true (by omega)]
    rfl

lemma inspectPlain_ok (h : body.Inside b) :
    ∃ r, inspectPlain b body = .ok r ∧ Located b body r (DataCodec.inspectPlain (body.view b)) := by
  have hlength := Span.length_view h
  unfold inspectPlain DataCodec.inspectPlain
  by_cases hshort : body.length < 16
  · exact ⟨none, if_pos hshort, located_none (if_pos (.inl (by omega)))⟩
  · have hpayload : Span.Within ⟨body.start + 16, body.length - 16⟩ body :=
      Span.within_advance (by omega)
    have htake : (slice (body.view b) 0 16).take 10 = (body.view b).take 10 := by
      rw [slice, List.take_take]
      rfl
    rw [if_neg hshort, Span.readSlice_ok h (by omega), Span.advance_ok (by omega), ok_bind, ok_bind,
      ipv6_ok (hpayload.inside h), ok_bind, Span.view_advance, htake, le16_slice (by decide),
      byteAt_slice (by decide), byteAt_slice (by decide), byteAt_slice (by decide),
      byteAt_slice (by decide)]
    simp only [zero_add, hlength, hshort, false_or]
    split
    · exact ⟨none, rfl, located_none rfl⟩
    · refine ⟨_, rfl, by rw [Option.map_some, Span.view_advance], ?_⟩
      rintro p ⟨rfl⟩
      exact hpayload

lemma Located.mono {s t : Span} {r : Option (Span × UInt16)} {value : Option (Bytes × UInt16)}
    (h : Located b s r value) (hst : s.Within t) : Located b t r value :=
  ⟨h.value, fun p hp => (h.within p hp).trans hst⟩

lemma inspectBody_ok (h : body.Inside b) (qos : Bool) :
    ∃ r, inspectBody b body qos = .ok r ∧
      Located b body r (DataCodec.inspectBody (body.view b) qos) := by
  have hlength := Span.length_view h
  unfold inspectBody DataCodec.inspectBody
  by_cases hplain : (!qos) = true ∨ body.length < 8
  · grind [inspectPlain_ok]
  · simp only [not_or, Bool.not_eq_true', Bool.not_eq_false, not_lt] at hplain
    obtain ⟨hqos, hlong⟩ := hplain
    rw [if_neg (by simp [hqos, hlong]), Span.readSlice_ok h (by omega), ok_bind]
    by_cases hwrapped : slice (body.view b) 0 6 = [0xaa, 0xaa, 3, 0, 0, 0]
    · have hbody : Span.Within ⟨body.start + 8, body.length - 8⟩ body :=
        Span.within_advance (by omega)
      have hcond : qos = true ∧ 8 ≤ (body.view b).length ∧
          (body.view b).take 6 = [0xaa, 0xaa, 3, 0, 0, 0] := ⟨hqos, by omega, hwrapped⟩
      rw [if_neg (not_not.mpr hwrapped), Span.readSlice_ok h (by omega), ok_bind, if_pos hcond,
        be16_slice (by decide), hlength]
      by_cases hsize : DataCodec.be16 (body.view b) 6 = body.length - 8
      · obtain ⟨r, hr, hlocated⟩ := inspectPlain_ok (hbody.inside h)
        rw [if_neg (not_not.mpr hsize), if_neg (not_not.mpr hsize), Span.advance_ok (by omega),
          ok_bind, ← Span.view_advance]
        exact ⟨r, hr, hlocated.mono hbody⟩
      · exact ⟨none, if_pos hsize, located_none (if_pos hsize)⟩
    · rw [if_pos hwrapped, if_neg (fun hcond => hwrapped hcond.2.2)]
      exact inspectPlain_ok h

lemma validHeader_ok (h : 24 ≤ b.length) :
    validHeader b (Span.all b) = .ok (DataCodec.validHeader b) := by
  have hinside := Span.inside_all b
  have hlength : (Span.all b).length = b.length := rfl
  unfold validHeader
  rw [Span.read_ok hinside (by omega), Span.read_ok hinside (by omega),
    readMac_ok hinside (by omega), readMac_ok hinside (by omega), Span.view_all]
  rfl

lemma inspect_ok (b : Bytes) :
    ∃ r, inspect b = .ok r ∧ r.map (ViewAt.load b) = DataCodec.inspect b ∧
      ∀ v ∈ r, v.Inside b := by
  have hinside := Span.inside_all b
  have hlength : (Span.all b).length = b.length := rfl
  unfold inspect DataCodec.inspect
  dsimp only
  rw [hlength]
  by_cases hshort : b.length < 40
  · simp_all
  rw [if_neg hshort, Span.read_ok hinside (by omega), ok_bind, Span.view_all,
    validHeader_ok (by omega), Span.read_ok hinside (by omega), Span.view_all]
  simp only [ok_bind]
  generalize (if (byteAt b 0 == 0x88) = true then 26 else 24) = size at *
  simp only [hshort, false_or]
  split
  · exact ⟨none, rfl, rfl, nofun⟩
  · have hsize : size ≤ (Span.all b).length := by omega
    have hbody := (Span.within_advance hsize).inside hinside
    obtain ⟨r, hr, hlocated⟩ := inspectBody_ok hbody (byteAt b 0 == 0x88)
    rw [Span.advance_ok hsize, ok_bind, hr, ok_bind]
    rw [Span.view_advance, Span.view_all] at hlocated
    refine ⟨_, rfl, ?_, ?_⟩
    · rw [← hlocated.value, Option.map_map, Option.map_map]
      rfl
    · intro v hv
      obtain ⟨p, hp, rfl⟩ := Option.map_eq_some_iff.mp hv
      exact ⟨by dsimp only; omega, by dsimp only; omega, (hlocated.within p hp).inside hbody⟩

lemma subframe_ok (hheader : 16 ≤ b.length) {offset : ℕ} (hfit : offset + 14 ≤ b.length) :
    ∃ r, subframe b offset = .ok r ∧
      (r = none → ∀ room,
        DataCodec.subframes (macAt b 10) (room + 1) (b.drop offset) = none) ∧
      ∀ view bytes, r = some (view, bytes) →
        offset + 14 + bytes ≤ b.length ∧ view.Inside b ∧ ∀ room,
        DataCodec.subframes (macAt b 10) (room + 1) (b.drop offset) =
          if offset + 14 + bytes = b.length then some [view.load b]
          else if padding bytes > b.length - (offset + 14 + bytes) ∨
              b.length - (offset + 14 + bytes) - padding bytes < 14 then none
          else (DataCodec.subframes (macAt b 10) room
            (b.drop (offset + 14 + bytes + padding bytes))).map (view.load b :: ·) := by
  have hinside := Span.inside_all b
  have hall : (Span.all b).length = b.length := rfl
  have hadvance : offset ≤ (Span.all b).length := by omega
  have hsub := (Span.within_advance hadvance).inside hinside
  have hview := Span.view_advance b (Span.all b) offset
  have hlength : (b.drop offset).length = b.length - offset := List.length_drop
  rw [Span.view_all] at hview
  unfold subframe
  dsimp only
  rw [Span.advance_ok hadvance, ok_bind, readMac_ok hsub (by dsimp only; omega),
    readMac_ok hinside (by omega), Span.readSlice_ok hsub (by dsimp only; omega), ok_bind, ok_bind,
    ok_bind, hview, Span.view_all, be16_slice (by decide)]
  by_cases hbad : macAt (b.drop offset) 6 ≠ macAt b 10 ∨
      DataCodec.be16 (b.drop offset) 12 > b.length - offset - 14
  · rw [if_pos hbad]
    refine ⟨none, rfl, fun _ room => ?_, nofun⟩
    rw [DataCodec.subframes, hlength, if_pos (.inr hbad)]
  rw [if_neg hbad]
  push Not at hbad
  obtain ⟨hsource, hbytes⟩ := hbad
  have haccepted : ¬ (b.length - offset < 14 ∨ macAt (b.drop offset) 6 ≠ macAt b 10 ∨
      DataCodec.be16 (b.drop offset) 12 > b.length - offset - 14) := by
    rintro (hshort | hother | hlong)
    · omega
    · exact hother hsource
    · omega
  generalize hn : DataCodec.be16 (b.drop offset) 12 = n at *
  have hpart : 14 + n ≤ b.length - offset := by omega
  have hbody := (Span.within_sub (s := ⟨(Span.all b).start + offset, (Span.all b).length - offset⟩)
    hpart).inside hsub
  obtain ⟨r, hr, hlocated⟩ := inspectBody_ok hbody true
  have hvalue := hlocated.value
  rw [Span.view_sub hpart, hview] at hvalue
  rw [Span.sub_ok hpart, ok_bind, hr, ok_bind]
  cases r with
  | none =>
    refine ⟨none, rfl, fun _ room => ?_, nofun⟩
    grind [DataCodec.subframes]
  | some p =>
    refine ⟨_, rfl, nofun, ?_⟩
    rintro _ _ ⟨rfl, rfl⟩
    refine ⟨by omega, ⟨by dsimp only; omega, by dsimp only; omega,
      (hlocated.within p rfl).inside hbody⟩, fun room => ?_⟩
    have hrest : (b.drop offset).drop (14 + n) = b.drop (offset + 14 + n) := by
      rw [List.drop_drop, Nat.add_assoc]
    have hload : ViewAt.load b ⟨offset, offset + 6, p.1, p.2⟩ =
        ⟨macAt (b.drop offset) 0, macAt (b.drop offset) 6, p.1.view b, p.2⟩ := by
      rw [macAt_drop, macAt_drop]
      rfl
    have hnil : b.drop (offset + 14 + n) = [] ↔ offset + 14 + n = b.length := by
      rw [List.drop_eq_nil_iff]
      omega
    rw [DataCodec.subframes, hlength, hn, if_neg haccepted]
    dsimp only
    rw [← hvalue, hload, hrest, List.length_drop, List.drop_drop]
    simp only [Option.map_some, hnil]
    rfl

lemma aggregatePass_ok (capacity : ℕ) (storing : Bool) (index : ℕ)
    (views : List (Option ViewAt)) {fuel offset : ℕ} (hheader : 16 ≤ b.length)
    (hfuel : b.length - offset < fuel) (hoffset : offset < b.length)
    (hroom : storing = true → capacity ≤ views.length) :
    ∃ stored : List ViewAt,
      aggregatePass b capacity storing fuel offset index views =
        .ok ((DataCodec.subframes (macAt b 10) (capacity - index) (b.drop offset)).map
            (index + ·.length),
          if storing then overwrite views index (stored.map some) else views) ∧
      (∀ vs ∈ DataCodec.subframes (macAt b 10) (capacity - index) (b.drop offset),
        stored.map (ViewAt.load b) = vs) ∧
      ∀ v ∈ stored, v.Inside b := by
  induction fuel generalizing offset index views with
  | zero => omega
  | succ fuel ih =>
    unfold aggregatePass
    rw [if_neg (by omega)]
    by_cases hstop : b.length - offset < 14 ∨ index ≥ capacity
    · have hnone : DataCodec.subframes (macAt b 10) (capacity - index) (b.drop offset) = none := by
        rcases hstop with hshort | hfull
        · cases capacity - index with
          | zero => rfl
          | succ k => exact if_pos (.inl (by rw [List.length_drop]; omega))
        · rw [Nat.sub_eq_zero_of_le hfull]
          rfl
      rw [if_pos hstop, hnone]
      exact ⟨[], by simp [overwrite], nofun, nofun⟩
    push Not at hstop
    obtain ⟨room, hcapacity⟩ : ∃ room, capacity - index = room + 1 :=
      ⟨capacity - index - 1, by omega⟩
    have hnext : capacity - (index + 1) = room := by omega
    obtain ⟨r, hr, hrefused, htaken⟩ := subframe_ok hheader (by omega : offset + 14 ≤ b.length)
    rw [if_neg (by omega), hr, ok_bind, hcapacity]
    cases r with
    | none =>
      rw [hrefused rfl room]
      exact ⟨[], by simp [overwrite], nofun, nofun⟩
    | some p =>
      obtain ⟨view, bytes⟩ := p
      obtain ⟨hend, hview, hvalue⟩ := htaken view bytes rfl
      have hkeep : keep storing views index view =
          .ok (if storing then views.set index (some view) else views) := by
        cases storing with
        | false => rfl
        | true => exact store_ok (by have := hroom rfl; omega) _
      rw [hvalue room]
      dsimp only
      rw [hkeep, ok_bind]
      by_cases hlast : offset + 14 + bytes = b.length
      · rw [if_pos hlast, if_pos hlast]
        refine ⟨[view], rfl, ?_, by simpa using hview⟩
        rintro vs ⟨rfl⟩
        rfl
      rw [if_neg hlast, if_neg hlast]
      by_cases hpad : padding bytes > b.length - (offset + 14 + bytes) ∨
          b.length - (offset + 14 + bytes) - padding bytes < 14
      · rw [if_pos hpad, if_pos hpad]
        refine ⟨[view], rfl, nofun, by simpa using hview⟩
      rw [if_neg hpad, if_neg hpad]
      have hroom' : storing = true →
          capacity ≤ (if storing then views.set index (some view) else views).length := by
        grind
      obtain ⟨stored, hpass, hstored, hinside⟩ :=
        @ih (index + 1) _ (offset + 14 + bytes + padding bytes) (by omega) (by omega) hroom'
      rw [hnext] at hpass hstored
      refine ⟨view :: stored, ?_, ?_, ?_⟩
      · have hcount : ((index + ·.length) ∘ (view.load b :: ·) : List DataCodec.View → ℕ) =
            (index + 1 + ·.length) := by
          grind
        rw [hpass, Option.map_map, hcount]
        cases storing <;> rfl
      · intro vs hvs
        obtain ⟨rest, hrest, rfl⟩ := Option.map_eq_some_iff.mp hvs
        rw [List.map_cons, hstored rest hrest]
      grind

lemma subframes_ne_nil {source : Mac} {room : ℕ} {sub : Bytes} {vs : List DataCodec.View}
    (h : DataCodec.subframes source room sub = some vs) : vs ≠ [] := by
  cases room with
  | zero => cases h
  | succ room =>
    unfold DataCodec.subframes at h
    split at h
    · cases h
    · dsimp only at h
      split at h
      · cases h
      · split at h
        · cases h
          simp
        · split at h
          · cases h
          · obtain ⟨rest, -, rfl⟩ := Option.map_eq_some_iff.mp h
            simp

lemma inspectAggregate_ok (b : Bytes) (views : Option (List (Option ViewAt))) (capacity : ℕ)
    (hroom : ∀ array ∈ views, capacity ≤ array.length) :
    (DataCodec.inspectAggregate b capacity = none →
      inspectAggregate b views capacity = .ok (false, 0, views)) ∧
    ∀ vs, DataCodec.inspectAggregate b capacity = some vs → ∃ stored : List ViewAt,
      inspectAggregate b views capacity =
        .ok (true, vs.length, views.map (overwrite · 0 (stored.map some))) ∧
      stored.map (ViewAt.load b) = vs ∧ ∀ v ∈ stored, v.Inside b := by
  have hinside := Span.inside_all b
  have hall : (Span.all b).length = b.length := rfl
  unfold inspectAggregate DataCodec.inspectAggregate
  dsimp only
  rw [hall]
  by_cases hsize : capacity = 0 ∨ b.length < 26 ∨ b.length > DataCodec.maximumAggregateFrame
  · rw [if_pos hsize, if_pos (by tauto)]
    exact ⟨fun _ => rfl, nofun⟩
  rw [if_neg hsize]
  push Not at hsize
  rw [Span.read_ok hinside (by omega), Span.read_ok hinside (by omega),
    validHeader_ok (by omega), ok_bind, ok_bind, ok_bind, Span.view_all]
  by_cases hchecks : byteAt b 0 ≠ 0x88 ∨ (!DataCodec.validHeader b) = true ∨
      byteAt b 24 &&& 0x80 = 0
  · simp_all
  rw [if_neg hchecks, if_neg (by push Not at hchecks ⊢; tauto)]
  by_cases hempty : b.length ≤ 26
  · -- Nothing behind the header: the loop is not entered.
    have hpass : aggregatePass b capacity false (b.length + 1) 26 0 (views.getD []) =
        .ok (some 0, views.getD []) := if_pos hempty
    have hnone : DataCodec.subframes (macAt b 10) capacity (b.drop 26) = none := by
      rw [List.drop_eq_nil_of_le hempty]
      cases capacity with
      | zero => rfl
      | succ capacity => rfl
    rw [hpass, hnone]
    exact ⟨fun _ => rfl, nofun⟩
  have hroom' : views.isSome = true → capacity ≤ (views.getD []).length := by
    intro hsome
    obtain ⟨array, rfl⟩ := Option.isSome_iff_exists.mp hsome
    exact hroom array rfl
  obtain ⟨_, hfirst, -⟩ := aggregatePass_ok capacity false 0 (views.getD []) (by omega)
    (by omega : b.length - 26 < b.length + 1) (by omega) nofun
  obtain ⟨stored, hsecond, hstored, hviews⟩ := aggregatePass_ok capacity views.isSome 0
    (views.getD []) (by omega) (by omega : b.length - 26 < b.length + 1) (by omega) hroom'
  rw [hfirst, hsecond]
  cases hsub : DataCodec.subframes (macAt b 10) capacity (b.drop 26) with
  | none => exact ⟨fun _ => rfl, nofun⟩
  | some vs =>
    refine ⟨nofun, ?_⟩
    rintro _ ⟨rfl⟩
    obtain ⟨v, rest, rfl⟩ := List.exists_cons_of_ne_nil (subframes_ne_nil hsub)
    refine ⟨stored, ?_, hstored _ hsub, hviews⟩
    have hcount : 0 + (v :: rest).length = rest.length + 1 := by
      rw [List.length_cons, zero_add]
    simp only [Option.map_some, ok_bind, hcount]
    cases views with
    | none => rfl
    | some array => rfl

end Buffers

end AirportAwdl.Native
