import AirportAwdl.Election.State

/-!
# The AWDL data codec

`DataCodec` carries IPv6 over AWDL. A frame is

* 26 bytes of 802.11 QoS data header: no ToDS/FromDS, addresses, sequence control, TID zero;
* 16 bytes of LLC/SNAP and AWDL prefix with the 16-bit data sequence at offset 36;
* the IPv6 packet.

Ethernet frames are byte lists, a `View` holds copies of what the source's view points at.
`inspectBody_iff` and `inspect_iff` say what is accepted, in terms of what a sender puts together: a
packet behind the AWDL prefix, bare or in a length envelope, behind a header with or without QoS
control. `inspect_encode` is the round trip that the transmit queue and the receivers rest on.
-/

namespace AirportAwdl.Native

open ByteBuffer Election

namespace DataCodec

def mtu : ℕ := 1428

def maximumFrame : ℕ := 26 + 16 + mtu

def maximumAggregateFrame : ℕ := 11454

def maximumSubframes : ℕ := 32

/-- The 16-bit big-endian field at offset `i`. -/
def be16 (b : Bytes) (i : ℕ) : ℕ := (byteAt b i).toNat * 256 + (byteAt b (i + 1)).toNat

/-- `validSource`: nonzero and not a group address. -/
def validSource (address : Mac) : Bool := unicast address

/-- `ipv6`: version 6 and a payload length that fills the packet. -/
def ipv6 (packet : Bytes) : Bool :=
  40 ≤ packet.length && byteAt packet 0 >>> 4 == 6 && be16 packet 4 == packet.length - 40

def validEthernet (ethernet : Bytes) : Bool :=
  14 ≤ ethernet.length && ethernet.length ≤ 14 + mtu && byteAt ethernet 12 == 0x86 &&
    byteAt ethernet 13 == 0xdd && validSource (macAt ethernet 6) && ipv6 (ethernet.drop 14)

/-- Sequence control of an unfragmented frame. -/
def sequenceControl (sequence : UInt16) : UInt16 := (sequence &&& 4095) <<< 4

/-- The 42 bytes before the packet. -/
def header (destination source : Mac) (sequence dataSequence : UInt16) : Bytes :=
  [0x88, 0, 0, 0] ++ destination.toList ++ source.toList ++ bssid.toList ++
    put16 (sequenceControl sequence) ++ [0, 0] ++
    [0xaa, 0xaa, 3, 0, 0x17, 0xf2, 8, 0, 3, 4] ++ put16 dataSequence ++ [0, 0, 0x86, 0xdd]

/-- `encode`; `none` where the source returns false. -/
def encode (ethernet : Bytes) (capacity : ℕ) (sequence dataSequence : UInt16) : Option Bytes :=
  if !validEthernet ethernet ∨ capacity < ethernet.length + 28 then none
  else some (header (macAt ethernet 0) (macAt ethernet 6) sequence dataSequence ++
    ethernet.drop 14)

structure View where
  destination : Mac
  source : Mac
  payload : Bytes
  sequence : UInt16
deriving DecidableEq, Repr

/-- `inspectBody`, from the point where an envelope was stripped. -/
def inspectPlain (body : Bytes) : Option (Bytes × UInt16) :=
  if body.length < 16 ∨ body.take 10 ≠ [0xaa, 0xaa, 3, 0, 0x17, 0xf2, 8, 0, 3, 4] ∨
      byteAt body 12 ≠ 0 ∨ byteAt body 13 ≠ 0 ∨ byteAt body 14 ≠ 0x86 ∨ byteAt body 15 ≠ 0xdd ∨
      body.length - 16 > mtu ∨ !ipv6 (body.drop 16) then none
  else some (body.drop 16, le16 body 10)

/-- `inspectBody`: the packet and its data sequence. QoS bodies may come in a length envelope. -/
def inspectBody (body : Bytes) (qos : Bool) : Option (Bytes × UInt16) :=
  if qos ∧ 8 ≤ body.length ∧ body.take 6 = [0xaa, 0xaa, 3, 0, 0, 0] then
    if be16 body 6 ≠ body.length - 8 then none else inspectPlain (body.drop 8)
  else inspectPlain body

/-- The checks that `inspect` and `inspectAggregate` make on the first 24 bytes. -/
def validHeader (frame : Bytes) : Bool :=
  byteAt frame 1 &&& (3 ||| 4 ||| 0x40 ||| 0x80) == 0 && byteAt frame 22 &&& 15 == 0 &&
    validSource (macAt frame 10) && macAt frame 16 == bssid

def inspect (frame : Bytes) : Option View :=
  let qos := byteAt frame 0 == 0x88
  let size := if qos then 26 else 24
  if frame.length < 40 ∨ (byteAt frame 0 ≠ 0x88 ∧ byteAt frame 0 ≠ 0x08) ∨ !validHeader frame ∨
      frame.length < size + 16 ∨ (qos ∧ byteAt frame 24 &&& 0x80 ≠ 0) then none
  else (inspectBody (frame.drop size) qos).map fun body =>
    ⟨macAt frame 4, macAt frame 10, body.1, body.2⟩

/-- The loop of `inspectAggregate` over the subframes from `sub` on, with room for `fuel` of
them. Both passes of the source make the same checks; the second one stores the views. -/
def subframes (source : Mac) : ℕ → Bytes → Option (List View)
  | 0, _ => none
  | fuel + 1, sub =>
    if sub.length < 14 ∨ macAt sub 6 ≠ source ∨ be16 sub 12 > sub.length - 14 then none
    else
      let bytes := be16 sub 12
      match inspectBody (slice sub 14 bytes) true with
      | none => none
      | some (payload, sequence) =>
        let view : View := ⟨macAt sub 0, macAt sub 6, payload, sequence⟩
        let rest := sub.drop (14 + bytes)
        let padding := (4 - (14 + bytes) % 4) % 4
        if rest = [] then some [view]
        else if padding > rest.length ∨ rest.length - padding < 14 then none
        else (subframes source fuel (rest.drop padding)).map (view :: ·)

def inspectAggregate (frame : Bytes) (capacity : ℕ) : Option (List View) :=
  if capacity = 0 ∨ frame.length < 26 ∨ frame.length > maximumAggregateFrame ∨
      byteAt frame 0 ≠ 0x88 ∨ !validHeader frame ∨ byteAt frame 24 &&& 0x80 = 0 then none
  else subframes (macAt frame 10) capacity (frame.drop 26)

/-- The Ethernet frame of a view. -/
def View.ethernet (view : View) : Bytes :=
  view.destination.toList ++ view.source.toList ++ [0x86, 0xdd] ++ view.payload

/-- `decode`: the Ethernet frame and its data sequence. -/
def decode (frame : Bytes) (capacity : ℕ) : Option (Bytes × UInt16) :=
  match inspect frame with
  | none => none
  | some view =>
    if capacity < 14 + view.payload.length then none else some (view.ethernet, view.sequence)

/-- Packets that the codec carries. -/
def Carried (packet : Bytes) : Prop := packet.length ≤ mtu ∧ ipv6 packet = true

/-- The packet behind the LLC/SNAP and AWDL prefix. -/
def plainBody (dataSequence : UInt16) (packet : Bytes) : Bytes :=
  [0xaa, 0xaa, 3, 0, 0x17, 0xf2, 8, 0, 3, 4] ++ put16 dataSequence ++ [0, 0, 0x86, 0xdd] ++ packet

/-- A body in the 8-byte envelope that gives its length. -/
def envelope (body : Bytes) : Bytes :=
  [0xaa, 0xaa, 3, 0, 0, 0, UInt8.ofNat (body.length / 256), UInt8.ofNat body.length] ++ body

lemma length_plainBody (q : UInt16) (packet : Bytes) :
    (plainBody q packet).length = 16 + packet.length := by
  simp [plainBody, put16]
  omega

variable {packet body head e f : Bytes} {q sequence dataSequence : UInt16}

lemma inspectPlain_plainBody (h : Carried packet) (q : UInt16) :
    inspectPlain (plainBody q packet) = some (packet, q) := by
  have hseq : le16 (plainBody q packet) 10 = q := le16_eq_of_bytes rfl rfl
  have hlength := length_plainBody q packet
  have hbound : packet.length ≤ mtu := h.1
  have hip : ipv6 ((plainBody q packet).drop 16) = true := h.2
  unfold inspectPlain
  rw [hseq, if_neg]
  · rfl
  · simp only [not_or]
    refine ⟨by omega, ?_, ?_, ?_, ?_, ?_, by omega, by simp [hip]⟩
    · exact not_not.mpr rfl
    · exact not_not.mpr rfl
    · exact not_not.mpr rfl
    · exact not_not.mpr rfl
    · exact not_not.mpr rfl

lemma inspectPlain_iff :
    inspectPlain body = some (packet, q) ↔ body = plainBody q packet ∧ Carried packet := by
  constructor
  · intro h
    unfold inspectPlain at h
    split at h
    · cases h
    · rename_i hchecks
      simp only [not_or, not_lt, not_not, Bool.not_eq_true', Bool.not_eq_false] at hchecks
      obtain ⟨hlength, hfixed, hpad, hpad', htype, htype', hsize, hip⟩ := hchecks
      obtain ⟨rfl, rfl⟩ := Prod.mk.inj (Option.some.inj h)
      have hdrop : (body.drop 16).length = body.length - 16 := List.length_drop
      have hhead : body.take 16 =
          [0xaa, 0xaa, 3, 0, 0x17, 0xf2, 8, 0, 3, 4] ++ put16 (le16 body 10) ++
            [0, 0, 0x86, 0xdd] := by
        rw [← hfixed, put16_le16, take_eq_map (by omega), take_eq_map (by omega)]
        simp [List.range_succ, hpad, hpad', htype, htype']
      refine ⟨?_, by omega, hip⟩
      rw [plainBody, ← hhead, List.take_append_drop]
  · rintro ⟨rfl, hcarried⟩
    exact inspectPlain_plainBody hcarried q

lemma length_envelope (body : Bytes) : (envelope body).length = 8 + body.length := by
  rw [envelope, List.length_append]
  rfl

lemma take_plainBody_ne (q : UInt16) (packet : Bytes) :
    (plainBody q packet).take 6 ≠ [0xaa, 0xaa, 3, 0, 0, 0] := by
  intro h
  have hoctet : (0x17 : UInt8) = 0 := congrArg (byteAt · 4) h
  cases hoctet

lemma be16_envelope (body : Bytes) (h : body.length < 65536) :
    be16 (envelope body) 6 = body.length := by
  show (UInt8.ofNat (body.length / 256)).toNat * 256 + (UInt8.ofNat body.length).toNat = _
  rw [UInt8.toNat_ofNat', UInt8.toNat_ofNat']
  omega

lemma ofNat_be16 (b : Bytes) (i : ℕ) :
    UInt8.ofNat (be16 b i / 256) = byteAt b i ∧ UInt8.ofNat (be16 b i) = byteAt b (i + 1) := by
  have hhigh := (byteAt b i).toNat_lt
  have hlow := (byteAt b (i + 1)).toNat_lt
  unfold be16
  constructor
  · apply UInt8.toNat_inj.mp
    rw [UInt8.toNat_ofNat']
    omega
  simp_all

lemma envelope_of_be16 (hlength : 8 ≤ body.length)
    (hmark : body.take 6 = [0xaa, 0xaa, 3, 0, 0, 0]) (hsize : be16 body 6 = body.length - 8) :
    body = envelope (body.drop 8) := by
  obtain ⟨hhigh, hlow⟩ := ofNat_be16 body 6
  rw [hsize] at hhigh hlow
  have hhead : body.take 8 = [0xaa, 0xaa, 3, 0, 0, 0] ++ [byteAt body 6, byteAt body 7] := by
    rw [← hmark, take_eq_map hlength, take_eq_map (by omega)]
    simp [List.range_succ]
  rw [envelope, List.length_drop, hhigh, hlow]
  calc body = body.take 8 ++ body.drop 8 := (List.take_append_drop 8 body).symm
    _ = _ := by rw [hhead]; rfl

lemma inspectBody_iff {qos : Bool} : inspectBody body qos = some (packet, q) ↔ Carried packet ∧
      (body = plainBody q packet ∨ qos = true ∧ body = envelope (plainBody q packet)) := by
  unfold inspectBody
  constructor
  · intro h
    by_cases hwrapped : qos ∧ 8 ≤ body.length ∧ body.take 6 = [0xaa, 0xaa, 3, 0, 0, 0]
    · obtain ⟨hqos, hlength, hmark⟩ := hwrapped
      rw [if_pos ⟨hqos, hlength, hmark⟩] at h
      by_cases hsize : be16 body 6 = body.length - 8
      · grind [inspectPlain_iff, envelope_of_be16]
      · rw [if_pos hsize] at h
        cases h
    · grind [inspectPlain_iff]
  · rintro ⟨hcarried, rfl | ⟨rfl, rfl⟩⟩
    · rw [if_neg (fun hwrapped => take_plainBody_ne q packet hwrapped.2.2)]
      exact inspectPlain_iff.mpr ⟨rfl, hcarried⟩
    · have hlength := length_plainBody q packet
      have hbound : packet.length ≤ 1428 := hcarried.1
      have hfield := be16_envelope (plainBody q packet) (by omega)
      have hsize := length_envelope (plainBody q packet)
      rw [if_pos ⟨rfl, by omega, rfl⟩, if_neg (by omega)]
      exact inspectPlain_iff.mpr ⟨rfl, hcarried⟩

lemma length_of_inspectBody {qos : Bool} (h : inspectBody body qos = some (packet, q)) :
    56 ≤ body.length ∧ body.length ≤ 24 + mtu := by
  obtain ⟨⟨hsize, hip⟩, hbody⟩ := inspectBody_iff.mp h
  have hpacket : 40 ≤ packet.length := by
    simp only [ipv6, Bool.and_eq_true, decide_eq_true_eq] at hip
    exact hip.1.1
  grind [length_plainBody, length_envelope]

/-- The two kinds of header that `inspect` takes. -/
def headerSize (frame : Bytes) : ℕ := if byteAt frame 0 == 0x88 then 26 else 24

lemma inspect_iff {frame : Bytes} {view : View} :
    inspect frame = some view ↔
      (byteAt frame 0 = 0x88 ∧ byteAt frame 24 &&& 0x80 = 0 ∨ byteAt frame 0 = 0x08) ∧
      validHeader frame = true ∧ view.destination = macAt frame 4 ∧ view.source = macAt frame 10 ∧
      inspectBody (frame.drop (headerSize frame)) (byteAt frame 0 == 0x88) =
        some (view.payload, view.sequence) := by
  unfold inspect
  dsimp only
  rw [show (if (byteAt frame 0 == 0x88) = true then 26 else 24) = headerSize frame from rfl]
  constructor
  · intro h
    split at h
    · cases h
    · rename_i hchecks
      simp only [not_or, not_and, not_not, Bool.not_eq_true', Bool.not_eq_false] at hchecks
      rw [Option.map_eq_some_iff] at h
      grind
  · rintro ⟨hkind, hheader, hdestination, hsource, hbody⟩
    obtain ⟨hlength, -⟩ := length_of_inspectBody hbody
    rw [hbody, if_neg]
    · rw [Option.map_some, ← hdestination, ← hsource]
    grind

lemma validHeader_append (h : 24 ≤ head.length) (body : Bytes) :
    validHeader (head ++ body) = validHeader head := by
  unfold validHeader
  rw [byteAt_append_left (by omega), byteAt_append_left (by omega), macAt_append_left (by omega),
    macAt_append_left (by omega)]

lemma inspect_append (hlength : head.length = headerSize head)
    (hkind : byteAt head 0 = 0x88 ∧ byteAt head 24 &&& 0x80 = 0 ∨ byteAt head 0 = 0x08)
    (hheader : validHeader head = true)
    (hbody : inspectBody body (byteAt head 0 == 0x88) = some (packet, q)) :
    inspect (head ++ body) = some ⟨macAt head 4, macAt head 10, packet, q⟩ := by
  have hsize : 24 ≤ head.length := by
    rw [hlength, headerSize]
    split <;> decide
  have hfirst : byteAt (head ++ body) 0 = byteAt head 0 := byteAt_append_left (by omega) _
  have hheaderSize : headerSize (head ++ body) = head.length := by
    rw [hlength, headerSize, headerSize, hfirst]
  rw [inspect_iff, hfirst, hheaderSize, List.drop_left, validHeader_append hsize,
    macAt_append_left (by omega), macAt_append_left (by omega)]
  refine ⟨?_, hheader, rfl, rfl, hbody⟩
  rcases hkind with ⟨hqos, hbit⟩ | hplain
  · have hlong : head.length = 26 := by
      rw [hlength, headerSize, hqos]
      rfl
    rw [byteAt_append_left (by omega)]
    exact .inl ⟨hqos, hbit⟩
  · exact .inr hplain

lemma fragment_sequenceControl (sequence : UInt16) :
    (sequenceControl sequence).toUInt8 &&& 15 = 0 := by
  apply UInt8.toNat_inj.mp
  have hshift : (4 : UInt16).toNat % 16 = 4 := rfl
  have hand := Nat.and_two_pow_sub_one_eq_mod ((sequenceControl sequence).toUInt8).toNat 4
  rw [UInt8.toNat_and]
  show _ &&& (2 ^ 4 - 1) = 0
  rw [hand, sequenceControl, UInt16.toNat_toUInt8, UInt16.toNat_shiftLeft, hshift,
    Nat.shiftLeft_eq]
  omega

/-- The first 24 bytes of a frame. -/
def macHeader (kind : UInt8) (destination source : Mac) (sequence : UInt16) : Bytes :=
  [kind, 0, 0, 0] ++ destination.toList ++ source.toList ++ bssid.toList ++
    put16 (sequenceControl sequence)

lemma length_macHeader (kind : UInt8) (d s : Mac) (sequence : UInt16) :
    (macHeader kind d s sequence).length = 24 := by
  simp [macHeader]

lemma macHeader_destination (kind : UInt8) (d s : Mac) (sequence : UInt16) :
    macAt (macHeader kind d s sequence) 4 = d := by
  have h := macAt_append [kind, 0, 0, 0] d
    (s.toList ++ (bssid.toList ++ put16 (sequenceControl sequence)))
  rwa [← List.append_assoc, ← List.append_assoc, ← List.append_assoc] at h

lemma macHeader_source (kind : UInt8) (d s : Mac) (sequence : UInt16) :
    macAt (macHeader kind d s sequence) 10 = s := by
  have h := macAt_append ([kind, 0, 0, 0] ++ d.toList) s
    (bssid.toList ++ put16 (sequenceControl sequence))
  rwa [← List.append_assoc, ← List.append_assoc,
    show ([kind, 0, 0, 0] ++ d.toList).length = 10 by simp] at h

lemma macHeader_bssid (kind : UInt8) (d s : Mac) (sequence : UInt16) :
    macAt (macHeader kind d s sequence) 16 = bssid := by
  have h := macAt_append ([kind, 0, 0, 0] ++ d.toList ++ s.toList) bssid
    (put16 (sequenceControl sequence))
  rwa [← List.append_assoc,
    show ([kind, 0, 0, 0] ++ d.toList ++ s.toList).length = 16 by simp] at h

lemma macHeader_control (kind : UInt8) (d s : Mac) (sequence : UInt16) :
    byteAt (macHeader kind d s sequence) 22 = (sequenceControl sequence).toUInt8 := by
  have hlength : ([kind, 0, 0, 0] ++ d.toList ++ s.toList ++ bssid.toList).length = 22 := by simp
  rw [macHeader, byteAt_append_right (by omega), hlength]
  rfl

lemma validHeader_macHeader (kind : UInt8) (d : Mac) {s : Mac} (hs : unicast s = true)
    (sequence : UInt16) : validHeader (macHeader kind d s sequence) = true := by
  have hflags : byteAt (macHeader kind d s sequence) 1 = 0 := rfl
  simp only [validHeader, hflags, macHeader_control, macHeader_bssid, macHeader_source,
    validSource, hs, fragment_sequenceControl]
  rfl

lemma qosHeader_control (kind : UInt8) (d s : Mac) (sequence : UInt16) :
    (macHeader kind d s sequence ++ [0, 0]).length = 26 ∧
      byteAt (macHeader kind d s sequence ++ [0, 0]) 24 = 0 ∧
      byteAt (macHeader kind d s sequence ++ [0, 0]) 25 = 0 := by
  have hlength := length_macHeader kind d s sequence
  rw [List.length_append, byteAt_append_right (by omega), byteAt_append_right (by omega), hlength]
  exact ⟨rfl, rfl, rfl⟩

lemma inspect_qos {d s : Mac} (hs : unicast s = true) (sequence : UInt16)
    (hbody : inspectBody body true = some (packet, q)) :
    inspect (macHeader 0x88 d s sequence ++ [0, 0] ++ body) = some ⟨d, s, packet, q⟩ := by
  have hlength := length_macHeader 0x88 d s sequence
  have hheader := validHeader_macHeader 0x88 d hs sequence
  rw [← validHeader_append hlength.ge [0, 0]] at hheader
  obtain ⟨hsize, hcontrol, -⟩ := qosHeader_control 0x88 d s sequence
  have h := inspect_append hsize (.inl ⟨rfl, by rw [hcontrol]; decide⟩) hheader hbody
  rwa [macAt_append_left (by omega), macAt_append_left (by omega), macHeader_destination,
    macHeader_source] at h

lemma inspect_bare {d s : Mac} (hs : unicast s = true) (sequence : UInt16)
    (hbody : inspectBody body false = some (packet, q)) :
    inspect (macHeader 0x08 d s sequence ++ body) = some ⟨d, s, packet, q⟩ := by
  have h := inspect_append (length_macHeader 0x08 d s sequence) (.inr rfl)
    (validHeader_macHeader 0x08 d hs sequence) hbody
  rwa [macHeader_destination, macHeader_source] at h

lemma header_append (d s : Mac) (sequence q : UInt16) (packet : Bytes) :
    header d s sequence q ++ packet = macHeader 0x88 d s sequence ++ [0, 0] ++ plainBody q packet := by
  simp only [header, macHeader, plainBody, List.append_assoc]

lemma validEthernet_iff (e : Bytes) : validEthernet e ↔
    14 ≤ e.length ∧ e.length ≤ 14 + mtu ∧ byteAt e 12 = 0x86 ∧ byteAt e 13 = 0xdd ∧
      unicast (macAt e 6) ∧ ipv6 (e.drop 14) := by
  simp only [validEthernet, validSource, Bool.and_eq_true, decide_eq_true_eq, beq_iff_eq, and_assoc]

lemma toList_macAt (b : Bytes) (i : ℕ) : (macAt b i).toList =
    [byteAt b i, byteAt b (i + 1), byteAt b (i + 2), byteAt b (i + 3), byteAt b (i + 4),
      byteAt b (i + 5)] := rfl

lemma encode_eq_some {capacity : ℕ} (h : encode e capacity sequence dataSequence = some f) :
    validEthernet e ∧ f = header (macAt e 0) (macAt e 6) sequence dataSequence ++ e.drop 14 := by
  unfold encode at h
  grind

lemma encode_of_valid (h : validEthernet e) {capacity : ℕ}
    (hroom : e.length + 28 ≤ capacity) (sequence dataSequence : UInt16) :
    encode e capacity sequence dataSequence =
      some (header (macAt e 0) (macAt e 6) sequence dataSequence ++ e.drop 14) := by
  unfold encode
  grind

/-- What `encode` built is read back: addresses, packet and data sequence. -/
theorem inspect_encode {e f : Bytes} {capacity : ℕ} {sequence dataSequence : UInt16}
    (h : encode e capacity sequence dataSequence = some f) :
    inspect f = some ⟨macAt e 0, macAt e 6, e.drop 14, dataSequence⟩ := by
  obtain ⟨hvalid, rfl⟩ := encode_eq_some h
  obtain ⟨-, hmax, -, -, hsource, hip⟩ := (validEthernet_iff e).mp hvalid
  have hcarried : Carried (e.drop 14) := ⟨by rw [List.length_drop]; omega, hip⟩
  rw [header_append]
  exact inspect_qos hsource sequence (inspectBody_iff.mpr ⟨hcarried, .inl rfl⟩)

lemma ethernet_of_valid (h : validEthernet e) (q : UInt16) :
    (View.mk (macAt e 0) (macAt e 6) (e.drop 14) q).ethernet = e := by
  obtain ⟨hmin, -, htype, htype', -, -⟩ := (validEthernet_iff e).mp h
  have hhead : (macAt e 0).toList ++ (macAt e 6).toList ++ [0x86, 0xdd] = e.take 14 := by
    apply List.ext_getElem
    · grind
    · intro i hi hi'
      have hi : i < 14 := by simpa using hi
      have hread : e[i] = byteAt e i := by simp [byteAt, show i < e.length by omega]
      rw [List.getElem_take, hread]
      interval_cases i <;> simp [toList_macAt, htype, htype']
  show (macAt e 0).toList ++ (macAt e 6).toList ++ [0x86, 0xdd] ++ e.drop 14 = e
  rw [hhead, List.take_append_drop]

lemma decode_encode {capacity room : ℕ}
    (h : encode e capacity sequence dataSequence = some f) (hroom : e.length ≤ room) :
    decode f room = some (e, dataSequence) := by
  have hvalid := (encode_eq_some h).1
  have hmin := ((validEthernet_iff e).mp hvalid).1
  unfold decode
  rw [inspect_encode h]
  grind [ethernet_of_valid]

end DataCodec

end AirportAwdl.Native
