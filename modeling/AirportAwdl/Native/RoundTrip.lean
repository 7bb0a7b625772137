import AirportAwdl.Native.Codec

/-!
# Round trips of the data codec

A frame can reach a receiver as it was encoded, with its body in a length envelope, or without QoS
control. All three decode to what was sent. Conversely, what is accepted decodes to a frame that
could have been sent, and `Canonical` frames are exactly what the encoder builds.
-/

namespace AirportAwdl.Native

open ByteBuffer Election

namespace DataCodec

/-- A QoS frame with its body in an envelope. -/
def wrapBody (frame : Bytes) : Bytes := frame.take 26 ++ envelope (frame.drop 26)

/-- A QoS frame rewritten without the QoS control. -/
def dropQos (frame : Bytes) : Bytes := [0x08] ++ slice frame 1 23 ++ frame.drop 26

lemma wrapBody_append {head : Bytes} (h : head.length = 26) (body : Bytes) :
    wrapBody (head ++ body) = head ++ envelope body := by
  rw [wrapBody, ← h, List.take_left, List.drop_left]

lemma dropQos_append (d s : Mac) (sequence : UInt16) (body : Bytes) :
    dropQos (macHeader 0x88 d s sequence ++ [0, 0] ++ body) =
      macHeader 0x08 d s sequence ++ body := by
  obtain ⟨tail, htail⟩ : ∃ tail, ∀ kind, macHeader kind d s sequence = kind :: tail :=
    ⟨_, fun kind => rfl⟩
  have hlength : tail.length = 23 := by
    have h := length_macHeader 0 d s sequence
    rw [htail, List.length_cons] at h
    omega
  have hdrop : (tail ++ [0, 0] ++ body).drop 25 = body := by
    rw [show 25 = (tail ++ [0, 0]).length by rw [List.length_append, hlength]; rfl, List.drop_left]
  have htake : (tail ++ ([0, 0] ++ body)).take 23 = tail := by
    rw [← hlength, List.take_left]
  rw [htail, htail]
  show [0x08] ++ (tail ++ [0, 0] ++ body).take 23 ++ (tail ++ [0, 0] ++ body).drop 25 = _
  rw [hdrop, List.append_assoc tail, htake]
  rfl

/-- An unwrapped QoS frame in which every byte that a receiver does not use is zero. -/
structure Canonical (frame : Bytes) : Prop where
  qos : byteAt frame 0 = 0x88
  flags : byteAt frame 1 = 0
  duration : byteAt frame 2 = 0 ∧ byteAt frame 3 = 0
  control : byteAt frame 24 = 0 ∧ byteAt frame 25 = 0
  unwrapped : slice frame 26 6 ≠ [0xaa, 0xaa, 3, 0, 0, 0]

/-- The 802.11 sequence number of a frame. -/
def sequenceOf (frame : Bytes) : UInt16 := le16 frame 22 >>> 4

variable {frame : Bytes} {view : View} {room capacity : ℕ}

lemma sequenceControl_sequenceOf (h : byteAt frame 22 &&& 15 = 0) :
    sequenceControl (sequenceOf frame) = le16 frame 22 := by
  have hvalue := toNat_le16 frame 22
  have h0 : (byteAt frame 22).toNat < 256 := UInt8.toNat_lt _
  have h1 : (byteAt frame (22 + 1)).toNat < 256 := UInt8.toNat_lt _
  have hshift : (4 : UInt16).toNat % 16 = 4 := rfl
  have hfragment : (byteAt frame 22).toNat % 16 = 0 := by
    have hand := Nat.and_two_pow_sub_one_eq_mod (byteAt frame 22).toNat 4
    have hzero := congrArg UInt8.toNat h
    exact hand.symm.trans hzero
  have hmask := Nat.and_two_pow_sub_one_eq_mod (le16 frame 22 >>> 4).toNat 12
  apply UInt16.toNat_inj.mp
  show (((le16 frame 22 >>> 4).toNat &&& (2 ^ 12 - 1)) <<< 4) % 2 ^ 16 = _
  rw [hmask, UInt16.toNat_shiftRight, hshift, Nat.shiftRight_eq_div_pow, Nat.shiftLeft_eq]
  omega

lemma Canonical.eq_header (h : Canonical frame) (hinspect : inspect frame = some view) :
    frame = header view.destination view.source (sequenceOf frame) view.sequence ++
      view.payload := by
  obtain ⟨-, hheader, hdestination, hsource, hbody⟩ := inspect_iff.mp hinspect
  have hsize : headerSize frame = 26 := by
    rw [headerSize, h.qos]
    rfl
  obtain ⟨hlength, -⟩ := length_of_inspectBody hbody
  rw [hsize] at hbody hlength
  rw [List.length_drop] at hlength
  have hplain : frame.drop 26 = plainBody view.sequence view.payload := by
    rcases (inspectBody_iff.mp hbody).2 with heq | ⟨-, heq⟩
    · exact heq
    · refine absurd ?_ h.unwrapped
      rw [slice, heq]
      rfl
  simp only [validHeader, Bool.and_eq_true, beq_iff_eq] at hheader
  obtain ⟨⟨⟨-, hfragment⟩, -⟩, hbssid⟩ := hheader
  have hhead : frame.take 26 =
      macHeader 0x88 view.destination view.source (sequenceOf frame) ++ [0, 0] := by
    rw [macHeader, sequenceControl_sequenceOf hfragment, put16_le16, hdestination, hsource,
      ← hbssid, take_eq_map (by omega), toList_macAt, toList_macAt, toList_macAt]
    simp [List.range_succ, h.qos, h.flags, h.duration.1, h.duration.2, h.control.1, h.control.2]
  rw [header_append, ← hhead, ← hplain, List.take_append_drop]

lemma decode_of_inspect (h : inspect frame = some view) (hroom : 14 + view.payload.length ≤ room) :
    decode frame room = some (view.ethernet, view.sequence) := by
  unfold decode
  rw [h]
  exact if_neg (not_lt.mpr hroom)

lemma length_ethernet (view : View) : view.ethernet.length = 14 + view.payload.length := by
  simp [View.ethernet]
  omega

lemma ethernet_parts (view : View) :
    macAt view.ethernet 0 = view.destination ∧ macAt view.ethernet 6 = view.source ∧
      byteAt view.ethernet 12 = 0x86 ∧ byteAt view.ethernet 13 = 0xdd ∧
      view.ethernet.drop 14 = view.payload := by
  have hdestination := macAt_append [] view.destination
    (view.source.toList ++ ([0x86, 0xdd] ++ view.payload))
  have hsource := macAt_append view.destination.toList view.source ([0x86, 0xdd] ++ view.payload)
  have hlength : (view.destination.toList ++ view.source.toList).length = 12 := by simp
  have heq : view.ethernet =
      (view.destination.toList ++ view.source.toList) ++ ([0x86, 0xdd] ++ view.payload) := by
    simp only [View.ethernet, List.append_assoc]
  rw [List.nil_append, ← List.append_assoc, ← heq] at hdestination
  rw [← List.append_assoc, ← heq, Vector.length_toList] at hsource
  refine ⟨hdestination, hsource, ?_, ?_, ?_⟩
  · rw [heq, byteAt_append_right (by omega), hlength]
    rfl
  · rw [heq, byteAt_append_right (by omega), hlength]
    rfl
  grind [List.drop_left']

lemma validEthernet_of_inspect (h : inspect frame = some view) :
    validEthernet view.ethernet = true := by
  obtain ⟨-, hheader, -, hsource, hbody⟩ := inspect_iff.mp h
  obtain ⟨⟨hsize, hip⟩, -⟩ := inspectBody_iff.mp hbody
  obtain ⟨-, hmac, h12, h13, hpacket⟩ := ethernet_parts view
  have hlength := length_ethernet view
  simp only [validHeader, validSource, Bool.and_eq_true] at hheader
  grind [validEthernet_iff]

lemma inspect_of_inspectAggregate {views : List View}
    (h : inspectAggregate frame capacity = some views) : inspect frame = none := by
  unfold inspectAggregate at h
  split at h
  · cases h
  · rename_i hchecks
    simp only [not_or, not_not] at hchecks
    obtain ⟨-, -, -, hqos, -, hbit⟩ := hchecks
    rw [Option.eq_none_iff_forall_not_mem]
    intro view hview
    rcases (inspect_iff.mp hview).1 with ⟨-, hzero⟩ | hplain
    · exact hbit hzero
    grind

lemma decode_variants {e : Bytes} (h : validEthernet e) (hroom : e.length ≤ room)
    (sequence q : UInt16) :
    let f := header (macAt e 0) (macAt e 6) sequence q ++ e.drop 14
    decode (wrapBody f) room = some (e, q) ∧ decode (dropQos f) room = some (e, q) := by
  obtain ⟨hmin, hmax, -, -, hsource, hip⟩ := (validEthernet_iff e).mp h
  have hcarried : Carried (e.drop 14) := ⟨by rw [List.length_drop]; omega, hip⟩
  have hethernet := ethernet_of_valid h q
  have hhead := (qosHeader_control 0x88 (macAt e 0) (macAt e 6) sequence).1
  have hwrapped : inspectBody (envelope (plainBody q (e.drop 14))) true = some (e.drop 14, q) :=
    inspectBody_iff.mpr ⟨hcarried, .inr ⟨rfl, rfl⟩⟩
  have hplain : inspectBody (plainBody q (e.drop 14)) false = some (e.drop 14, q) :=
    inspectBody_iff.mpr ⟨hcarried, .inl rfl⟩
  grind [header_append, wrapBody_append, dropQos_append, decode_of_inspect, inspect_qos, inspect_bare]

lemma encode_of_inspect {f : Bytes} (h : inspect f = some view)
    (hcapacity : view.ethernet.length + 28 ≤ capacity) :
    ∃ g, encode view.ethernet capacity (sequenceOf f) view.sequence = some g ∧
      (∀ room ≥ view.ethernet.length, decode g room = some (view.ethernet, view.sequence)) ∧
      (Canonical f → g = f) := by
  obtain ⟨hdestination, hsource, -, -, hpacket⟩ := ethernet_parts view
  have hencode := encode_of_valid (validEthernet_of_inspect h) hcapacity (sequenceOf f)
    view.sequence
  refine ⟨_, hencode, fun room hroom => decode_encode hencode hroom, fun hcanonical => ?_⟩
  rw [hdestination, hsource, hpacket]
  exact (hcanonical.eq_header h).symm

/-- The codec, in both directions: a valid Ethernet frame survives encoding in each of the three
wire variants; a frame that is accepted decodes to a valid Ethernet frame, whose encoding is read
alike and is the frame itself if that is canonical; and single frames are no aggregates. -/
theorem codec_round_trip :
    (∀ (e : Bytes) (sequence q : UInt16) (capacity : ℕ), validEthernet e →
      e.length + 28 ≤ capacity → ∃ f, encode e capacity sequence q = some f ∧
        ∀ room ≥ e.length, decode f room = some (e, q) ∧ decode (wrapBody f) room = some (e, q) ∧
          decode (dropQos f) room = some (e, q)) ∧
    (∀ (f : Bytes) (view : View), inspect f = some view → ∃ e q,
      (∀ room ≥ e.length, decode f room = some (e, q)) ∧ validEthernet e ∧
        ∀ capacity ≥ e.length + 28, ∃ g, encode e capacity (sequenceOf f) q = some g ∧
          (∀ room ≥ e.length, decode g room = some (e, q)) ∧ (Canonical f → g = f)) ∧
    (∀ (f : Bytes) (capacity : ℕ),
      ¬ ((inspect f).isSome ∧ (inspectAggregate f capacity).isSome)) := by
  refine ⟨?_, ?_, ?_⟩
  · intro e sequence q capacity hvalid hcapacity
    have hencode := encode_of_valid hvalid hcapacity sequence q
    exact ⟨_, hencode, fun room hroom =>
      ⟨decode_encode hencode hroom, decode_variants hvalid hroom sequence q⟩⟩
  · intro f view hview
    refine ⟨view.ethernet, view.sequence, ?_, validEthernet_of_inspect hview, ?_⟩
    · intro room hroom
      rw [length_ethernet] at hroom
      exact decode_of_inspect hview hroom
    · intro capacity hcapacity
      exact encode_of_inspect hview hcapacity
  · rintro f capacity ⟨hsingle, haggregate⟩
    obtain ⟨views, hviews⟩ := Option.isSome_iff_exists.mp haggregate
    rw [inspect_of_inspectAggregate hviews] at hsingle
    cases hsingle

/-- A packet without payload to the first station. -/
def bareEthernet : Bytes :=
  [0x02, 0, 0, 0, 0, 1] ++ [0x02, 0, 0, 0, 0, 2] ++ [0x86, 0xdd, 0x60] ++ List.replicate 39 0

/-- The smallest frame in its variants. -/
theorem codec_round_trip_bare :
    ∃ f, encode bareEthernet 82 7 9 = some f ∧ decode (wrapBody f) 54 = some (bareEthernet, 9) ∧
      decode (dropQos f) 54 = some (bareEthernet, 9) := by
  obtain ⟨f, hencode, hdecode⟩ := codec_round_trip.1 bareEthernet 7 9 82 (by decide +kernel)
    (by decide +kernel)
  exact ⟨f, hencode, (hdecode 54 (by decide +kernel)).2⟩

end DataCodec

end AirportAwdl.Native
