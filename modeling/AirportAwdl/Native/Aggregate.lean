import AirportAwdl.Native.Buffers

/-!
# The language of aggregates

An A-MSDU is a QoS header with the A-MSDU bit and one or more subframes, each but the last padded
to a multiple of four bytes. `Joined` says so without a parser; `inspectAggregate` accepts exactly
these frames, as far as the caller's array has room, and its views are the subframes in order.
-/

namespace AirportAwdl.Native

open ByteBuffer Election CheckedMemory

namespace DataCodec

/-- A subframe with a body that is accepted. -/
structure Subframe where
  destination : Mac
  body : Bytes
  packet : Bytes
  sequence : UInt16
  accepted : inspectBody body true = some (packet, sequence)

namespace Subframe

/-- The subframe on the wire: addresses, length and body. -/
def bytes (source : Mac) (s : Subframe) : Bytes :=
  s.destination.toList ++ (source.toList ++
    ([UInt8.ofNat (s.body.length / 256), UInt8.ofNat s.body.length] ++ s.body))

/-- What a receiver gets to see. -/
def view (source : Mac) (s : Subframe) : View := ⟨s.destination, source, s.packet, s.sequence⟩

end Subframe

/-- The subframes, one behind the other. -/
inductive Joined (source : Mac) : List Subframe → Bytes → Prop
  | last (s : Subframe) : Joined source [s] (s.bytes source)
  | cons (s : Subframe) (pad : Bytes) {rest : List Subframe} {tail : Bytes} (hpad : pad.length < 4)
      (haligned : (s.bytes source ++ pad).length % 4 = 0) (htail : Joined source rest tail) :
      Joined source (s :: rest) (s.bytes source ++ pad ++ tail)

/-- A frame with an A-MSDU. -/
structure Aggregate (frame : Bytes) (subframes : List Subframe) : Prop where
  length : 26 ≤ frame.length ∧ frame.length ≤ maximumAggregateFrame
  kind : byteAt frame 0 = 0x88
  header : validHeader frame = true
  amsdu : byteAt frame 24 &&& 0x80 ≠ 0
  body : Joined (macAt frame 10) subframes (frame.drop 26)

lemma be16_append {a : Bytes} {i : ℕ} (h : a.length = i) (x y : UInt8) (tail : Bytes) :
    be16 (a ++ ([x, y] ++ tail)) i = x.toNat * 256 + y.toNat := by
  subst h
  rw [be16, byteAt_append_right (le_refl _), byteAt_append_right (Nat.le_add_right _ 1), Nat.sub_self,
    Nat.add_sub_cancel_left]
  rfl

namespace Subframe

variable (source : Mac) (s : Subframe)

lemma length_body : 56 ≤ s.body.length ∧ s.body.length ≤ 24 + mtu :=
  length_of_inspectBody s.accepted

lemma length_bytes : (s.bytes source).length = 14 + s.body.length := by
  simp [bytes]
  omega

lemma fields (tail : Bytes) :
    macAt (s.bytes source ++ tail) 0 = s.destination ∧
      macAt (s.bytes source ++ tail) 6 = source ∧
      be16 (s.bytes source ++ tail) 12 = s.body.length ∧
      slice (s.bytes source ++ tail) 14 s.body.length = s.body ∧
      (s.bytes source ++ tail).drop (14 + s.body.length) = tail := by
  have hsize : s.body.length ≤ 1452 := s.length_body.2
  have hlength := s.length_bytes source
  have hhead : s.bytes source ++ tail = s.destination.toList ++ source.toList ++
      ([UInt8.ofNat (s.body.length / 256), UInt8.ofNat s.body.length] ++ (s.body ++ tail)) := by
    simp only [bytes, List.append_assoc]
  have htwelve : (s.destination.toList ++ source.toList).length = 12 := by simp
  refine ⟨?_, ?_, ?_, ?_, ?_⟩
  · have h := macAt_append [] s.destination (source.toList ++
      ([UInt8.ofNat (s.body.length / 256), UInt8.ofNat s.body.length] ++ (s.body ++ tail)))
    rwa [List.nil_append, ← List.append_assoc, ← hhead] at h
  · have h := macAt_append s.destination.toList source
      ([UInt8.ofNat (s.body.length / 256), UInt8.ofNat s.body.length] ++ (s.body ++ tail))
    rwa [← List.append_assoc, ← hhead, Vector.length_toList] at h
  · rw [hhead, be16_append htwelve, UInt8.toNat_ofNat', UInt8.toNat_ofNat']
    omega
  · rw [slice, hhead, ← List.append_assoc, List.drop_left' (by rw [List.length_append, htwelve]; rfl),
      List.take_left]
  · rw [← hlength, List.drop_left]

end Subframe

variable {source : Mac} {bytes frame : Bytes} {subs : List Subframe}

lemma exists_subframe {sub : Bytes} {packet : Bytes} {sequence : UInt16}
    (hlength : 14 + be16 sub 12 ≤ sub.length) (hsource : macAt sub 6 = source)
    (hbody : inspectBody (slice sub 14 (be16 sub 12)) true = some (packet, sequence)) :
    ∃ s : Subframe, s.destination = macAt sub 0 ∧ s.packet = packet ∧ s.sequence = sequence ∧
      s.body.length = be16 sub 12 ∧ sub = s.bytes source ++ sub.drop (14 + be16 sub 12) := by
  have hsize : (slice sub 14 (be16 sub 12)).length = be16 sub 12 := length_slice (by omega)
  obtain ⟨hhigh, hlow⟩ := ofNat_be16 sub 12
  have hhead : sub.take 14 = (macAt sub 0).toList ++ (macAt sub 6).toList ++
      [byteAt sub 12, byteAt sub 13] := by
    rw [take_eq_map (by omega), toList_macAt, toList_macAt]
    rfl
  have hrest : sub.drop 14 = slice sub 14 (be16 sub 12) ++ sub.drop (14 + be16 sub 12) := by
    rw [slice, ← List.drop_drop, List.take_append_drop]
  refine ⟨⟨macAt sub 0, _, packet, sequence, hbody⟩, rfl, rfl, rfl, hsize, ?_⟩
  calc sub = sub.take 14 ++ sub.drop 14 := (List.take_append_drop 14 sub).symm
    _ = _ := by
      grind [Subframe.bytes]

lemma subframes_bytes (source : Mac) (s : Subframe) (tail : Bytes) (room : ℕ) :
    subframes source (room + 1) (s.bytes source ++ tail) =
      if tail = [] then some [s.view source]
      else if Buffers.padding s.body.length > tail.length ∨
          tail.length - Buffers.padding s.body.length < 14 then none
      else (subframes source room (tail.drop (Buffers.padding s.body.length))).map
        (s.view source :: ·) := by
  obtain ⟨hdestination, hsource, hsize, hbody, hrest⟩ := s.fields source tail
  have hlength : (s.bytes source ++ tail).length = 14 + s.body.length + tail.length := by
    rw [List.length_append, s.length_bytes]
  rw [subframes, hsize, hsource, hlength, if_neg (by rintro (h | h | h) <;> first | omega | exact h rfl)]
  dsimp only
  rw [hbody, s.accepted, hdestination, hrest]
  rfl

lemma length_pad {s : Subframe} {pad : Bytes} :
    pad.length < 4 ∧ (s.bytes source ++ pad).length % 4 = 0 ↔
      pad.length = Buffers.padding s.body.length := by
  rw [List.length_append, s.length_bytes, Buffers.padding]
  omega

lemma Joined.length (h : Joined source subs bytes) : 14 ≤ bytes.length := by
  cases h with
  | last s =>
    rw [s.length_bytes]
    omega
  | cons s pad _ _ _ =>
    rw [List.length_append, List.length_append, s.length_bytes]
    omega

lemma Joined.ne_nil (h : Joined source subs bytes) : subs ≠ [] := by
  cases h <;> simp

lemma subframes_of_joined (h : Joined source subs bytes) {room : ℕ} (hroom : subs.length ≤ room) :
    subframes source room bytes = some (subs.map (Subframe.view source)) := by
  induction h generalizing room with
  | last s =>
    obtain ⟨room, rfl⟩ : ∃ k, room = k + 1 := ⟨room - 1, by simp at hroom; omega⟩
    have h := subframes_bytes source s [] room
    rwa [List.append_nil, if_pos rfl] at h
  | @cons s pad rest tail hpad haligned htail ih =>
    obtain ⟨room, rfl⟩ : ∃ k, room = k + 1 := ⟨room - 1, by simp at hroom; omega⟩
    have hskip := length_pad.mp ⟨hpad, haligned⟩
    have hlength := htail.length
    grind [subframes_bytes]

lemma joined_of_subframes {room : ℕ} {views : List View}
    (h : subframes source room bytes = some views) :
    ∃ subs, Joined source subs bytes ∧ subs.length ≤ room ∧
      views = subs.map (Subframe.view source) := by
  induction room generalizing bytes views with
  | zero => cases h
  | succ room ih =>
    obtain ⟨s, tail, rfl⟩ : ∃ s tail, bytes = Subframe.bytes source s ++ tail := by
      unfold subframes at h
      split at h
      · cases h
      · rename_i hchecks
        push Not at hchecks
        obtain ⟨hmin, hsource, hsize⟩ := hchecks
        dsimp only at h
        split at h
        · cases h
        · rename_i payload sequence hbody
          obtain ⟨s, -, -, -, -, heq⟩ := exists_subframe (by omega) hsource hbody
          exact ⟨s, _, heq⟩
    rw [subframes_bytes] at h
    by_cases hnil : tail = []
    · rw [if_pos hnil] at h
      subst hnil
      rw [List.append_nil]
      exact ⟨[s], .last s, by simp, (Option.some.inj h).symm⟩
    · rw [if_neg hnil] at h
      by_cases hpad : Buffers.padding s.body.length > tail.length ∨
          tail.length - Buffers.padding s.body.length < 14
      · rw [if_pos hpad] at h
        cases h
      · rw [if_neg hpad] at h
        obtain ⟨rest, hrest, rfl⟩ := Option.map_eq_some_iff.mp h
        obtain ⟨subs, hjoined, hlength, rfl⟩ := ih hrest
        have hskip : (tail.take (Buffers.padding s.body.length)).length =
            Buffers.padding s.body.length := by
          rw [List.length_take]
          omega
        obtain ⟨hshort, haligned⟩ := length_pad.mpr hskip
        have hcons := Joined.cons s _ hshort haligned hjoined
        grind [List.take_append_drop]

lemma inspectAggregate_iff {capacity : ℕ} {views : List View} :
    inspectAggregate frame capacity = some views ↔ ∃ subs, Aggregate frame subs ∧
      subs.length ≤ capacity ∧ views = subs.map (Subframe.view (macAt frame 10)) := by
  unfold inspectAggregate
  constructor
  · intro h
    split at h
    · cases h
    · rename_i hchecks
      simp only [not_or, not_lt, not_not, Bool.not_eq_true', Bool.not_eq_false] at hchecks
      obtain ⟨-, hmin, hmax, hkind, hheader, hbit⟩ := hchecks
      obtain ⟨subs, hjoined, hlength, hviews⟩ := joined_of_subframes h
      exact ⟨subs, ⟨⟨hmin, hmax⟩, hkind, hheader, hbit, hjoined⟩, hlength, hviews⟩
  · rintro ⟨subs, haggregate, hlength, rfl⟩
    have hpos := List.length_pos_of_ne_nil haggregate.body.ne_nil
    obtain ⟨hmin, hmax⟩ := haggregate.length
    rw [if_neg]
    · exact subframes_of_joined haggregate.body hlength
    · simp only [not_or, not_lt, not_not, Bool.not_eq_true', Bool.not_eq_false]
      exact ⟨by omega, hmin, hmax, haggregate.kind, haggregate.header, haggregate.amsdu⟩

lemma Aggregate.unique {subs subs' : List Subframe} (h : Aggregate frame subs)
    (h' : Aggregate frame subs') :
    subs.map (Subframe.view (macAt frame 10)) = subs'.map (Subframe.view (macAt frame 10)) := by
  have hfirst := subframes_of_joined h.body (le_max_left subs.length subs'.length)
  have hsecond := subframes_of_joined h'.body (le_max_right subs.length subs'.length)
  exact Option.some.inj (hfirst.symm.trans hsecond)

/-- `inspectAggregate` accepts the aggregates with at most as many subframes as there is room. Its
views are the subframes in order; if it refuses, `count` is zero and the array is as it was. Whether
there is an array makes no difference to the answer. -/
theorem inspectAggregate_language (frame : Bytes) (capacity : ℕ)
    (views : Option (List (Option ViewAt))) (hroom : ∀ array ∈ views, capacity ≤ array.length) :
    ∃ answer count stored,
      Buffers.inspectAggregate frame views capacity = .ok (answer, count, stored) ∧
      (∀ n, (answer = true ∧ count = n) ↔
        1 ≤ n ∧ n ≤ capacity ∧ ∃ subs, Aggregate frame subs ∧ subs.length = n) ∧
      (answer = true → ∀ subs, Aggregate frame subs → ∀ array ∈ stored,
        (array.take count).map (Option.map (ViewAt.load frame)) =
          subs.map fun s => some (s.view (macAt frame 10))) ∧
      (answer = false → count = 0 ∧ stored = views) ∧
      Buffers.inspectAggregate frame none capacity = .ok (answer, count, none) := by
  obtain ⟨hrefuse, haccept⟩ := Buffers.inspectAggregate_ok frame views capacity hroom
  obtain ⟨hrefuse', haccept'⟩ := Buffers.inspectAggregate_ok frame none capacity nofun
  cases hvalue : inspectAggregate frame capacity with
  | none =>
    refine ⟨false, 0, views, hrefuse hvalue, fun n => ⟨nofun, ?_⟩, nofun, fun _ => ⟨rfl, rfl⟩,
      hrefuse' hvalue⟩
    rintro ⟨-, hle, subs, haggregate, rfl⟩
    have hsome := inspectAggregate_iff.mpr ⟨subs, haggregate, hle, rfl⟩
    rw [hvalue] at hsome
    cases hsome
  | some vs =>
    obtain ⟨parsed, hparsed, hle, hvs⟩ := inspectAggregate_iff.mp hvalue
    obtain ⟨stored, hstored, hload, -⟩ := haccept vs hvalue
    obtain ⟨_, hnull, -⟩ := haccept' vs hvalue
    have hcount : vs.length = parsed.length := by rw [hvs, List.length_map]
    refine ⟨true, vs.length, _, hstored, ?_, ?_, nofun, hnull⟩
    · intro n
      constructor
      · rintro ⟨-, rfl⟩
        exact ⟨hcount ▸ List.length_pos_of_ne_nil hparsed.body.ne_nil, hcount ▸ hle, parsed, hparsed,
          hcount.symm⟩
      · rintro ⟨-, -, subs, haggregate, rfl⟩
        have hsame := congrArg List.length (hparsed.unique haggregate)
        rw [List.length_map, List.length_map] at hsame
        exact ⟨rfl, hcount.trans hsame⟩
    · intro _ subs haggregate array harray
      obtain ⟨old, hold, rfl⟩ := Option.map_eq_some_iff.mp harray
      have hlength : (stored.map some).length = vs.length := by
        rw [List.length_map, ← hload, List.length_map]
      have hfit := hroom old hold
      rw [overwrite_eq _ (by omega), List.take_zero, List.nil_append, ← hlength, List.take_left,
        List.map_map]
      have hviews : stored.map (ViewAt.load frame) = subs.map (Subframe.view (macAt frame 10)) := by
        rw [hload, hvs, hparsed.unique haggregate]
      have hsome := congrArg (List.map some) hviews
      rwa [List.map_map, List.map_map] at hsome

/-- An A-MSDU of a packet to each of two stations; the first subframe needs two bytes of padding. -/
def pairFrame : Bytes :=
  let packet : Bytes := [0x60] ++ List.replicate 39 0
  let body := plainBody 7 packet
  let subframe (last : UInt8) : Bytes := [2, 0, 0, 0, 0, last, 2, 0, 0, 0, 0, 9, 0, 56] ++ body
  macHeader 0x88 (Mac.of 2 0 0 0 0 1) (Mac.of 2 0 0 0 0 9) 5 ++ [0x80, 0] ++ subframe 1 ++
    [0xff, 0xff] ++ subframe 3

/-- The pair fills an array of two. -/
theorem inspectAggregate_pair :
    (∃ stored, Buffers.inspectAggregate pairFrame (some [none, none]) 2 = .ok (true, 2, stored)) ∧
      ∃ subs, Aggregate pairFrame subs ∧ subs.length = 2 := by
  have hrun : (Buffers.inspectAggregate pairFrame (some [none, none]) 2).map
      (fun r => (r.1, r.2.1)) = .ok (true, 2) := by decide +kernel
  obtain ⟨answer, count, stored, heq, hcount, -⟩ :=
    inspectAggregate_language pairFrame 2 (some [none, none]) (by rintro _ ⟨rfl⟩; decide)
  rw [heq] at hrun
  cases hrun
  exact ⟨⟨stored, heq⟩, ((hcount 2).mp ⟨rfl, rfl⟩).2.2⟩

end DataCodec

end AirportAwdl.Native
