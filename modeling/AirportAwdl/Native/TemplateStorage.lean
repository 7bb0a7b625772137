import AirportAwdl.Native.Settings
import AirportAwdl.Tlvs

/-!
# The storage of action templates

`TxTemplate` keeps an action body in a fixed array that is overwritten in place, so what a shorter
body leaves of a longer one has to be cleared. `TemplateStorage` is that array; `TxTemplate` is what a
reader of it sees, the bytes in use. A template is only ever read through `build`, which puts an 802.11
header in front of it and fills in the addresses, the sequence number and the times.
-/

namespace AirportAwdl.Native

open ByteBuffer

/-- A pointer with a length: readable bytes, or a null pointer with any length. -/
inductive Source where
  | null (length : ℕ)
  | bytes (b : Bytes)

/-- The bytes that can be read. -/
def Source.content : Source → Option Bytes
  | .null length => if length = 0 then some [] else none
  | .bytes b => some b

/-- `TxTemplate` with the whole of its array. -/
structure TemplateStorage where
  bytes : Bytes := List.replicate TxTemplate.capacity 0
  used : ℕ := 0
deriving DecidableEq

namespace TemplateStorage

/-- The body that is in use. -/
def body (t : TemplateStorage) : Bytes := t.bytes.take t.used

/-- `replace`. A null pointer is no action body, whatever its length. -/
def replace (t : TemplateStorage) : Source → Bool × TemplateStorage
  | .null _ => (false, t)
  | .bytes body =>
    let parsed := parseAction body
    if parsed.1 ≠ .valid ∨ (parsed.2.subtype ≠ 0 ∧ parsed.2.subtype ≠ 3) then (false, t)
    else
      let bytes := write t.bytes 0 body
      let bytes := write bytes body.length (List.replicate (t.used - body.length) 0)
      (true, ⟨bytes, body.length⟩)

def replaceTlvs (t : TemplateStorage) (source : Source) (version subtype : UInt8) :
    Bool × TemplateStorage :=
  match source.content with
  | none => (false, t)
  | some tlvs =>
    if tlvs.length > TxTemplate.capacity - 16 ∨ version = 0 ∨ (subtype ≠ 0 ∧ subtype ≠ 3) then
      (false, t)
    else if !TxTemplate.complete tlvs then (false, t)
    else
      let bytes := write t.bytes 0 (List.replicate 16 0)
      let bytes := write bytes 0 [127]
      let bytes := write bytes 2 [0x17, 0xf2, 8, version, subtype]
      let bytes := write bytes 16 tlvs
      let total := 16 + tlvs.length
      let bytes := write bytes total (List.replicate (t.used - total) 0)
      (true, ⟨bytes, total⟩)

def clear (t : TemplateStorage) : TemplateStorage :=
  ⟨write t.bytes 0 (List.replicate t.used 0), 0⟩

/-- What `build` leaves: its result, `written` and the caller's buffer. -/
structure Built where
  result : Bool
  written : ℕ
  out : Option Bytes

/-- The writes of `build` into a buffer with enough room. -/
def fill (t : TemplateStorage) (out : Bytes) (destination source bssid : Mac) (sequence : UInt16)
    (phyTime targetTime : UInt32) : Bytes :=
  let out := write out 0 (List.replicate 24 0)
  let out := write out 0 [0xd0]
  let out := write out 4 destination.toList
  let out := write out 10 source.toList
  let out := write out 16 bssid.toList
  let out := write out 22 (put16 ((sequence &&& 0x0fff) <<< 4))
  let out := write out 24 t.body
  let out := write out 32 (put32 phyTime)
  write out 36 (put32 targetTime)

/-- `build`; null pointers are `none`, and `available` is the length of the buffer. -/
def build (t : TemplateStorage) (out : Option Bytes) (destination source bssid : Option Mac)
    (sequence : UInt16) (phyTime targetTime : UInt32) : Built :=
  match out, destination, source, bssid with
  | some out, some destination, some source, some bssid =>
    if t.used = 0 ∨ out.length < 24 + t.used ∨ source.octet 0 &&& 1 ≠ 0 then
      ⟨false, 0, some out⟩
    else if source.toList.foldl (· ||| ·) 0 = 0 then ⟨false, 0, some out⟩
    else
      ⟨true, 24 + t.used, some (t.fill out destination source bssid sequence phyTime targetTime)⟩
  | out, _, _, _ => ⟨false, 0, out⟩

/-- A body that may be stored: an action of subtype 0 or 3. -/
def Sound (body : Bytes) : Prop :=
  (parseAction body).1 = .valid ∧ ((parseAction body).2.subtype = 0 ∨ (parseAction body).2.subtype = 3)

/-- The 16 bytes in front of the TLVs, as `replaceTlvs` writes them. -/
def envelope (version subtype : UInt8) : Bytes :=
  [127, 0, 0x17, 0xf2, 8, version, subtype] ++ List.replicate 9 0

lemma length_envelope_append (version subtype : UInt8) (tlvs : Bytes) :
    (envelope version subtype ++ tlvs).length = 16 + tlvs.length := List.length_append

lemma complete_iff (tlvs : Bytes) : TxTemplate.complete tlvs = true ↔ Tlv.IsList tlvs := by
  obtain ⟨s, c, hloop⟩ :=
    TlvCursor.forEach_total (ε := Unit) (fun (s : Unit) _ => s) tlvs.length ⟨tlvs, false⟩ ()
  rw [← TlvCursor.malformed_forEach_iff _ hloop, TxTemplate.complete, hloop]
  grind

lemma parseAction_loop (b : Bytes) (info : ActionInfo) :
    ∃ info' c, TlvCursor.forEach countTlv b.length ⟨b, false⟩ info = .ok (info', c) ∧
      (c.malformed = false ↔ Tlv.IsList b) ∧ info'.subtype = info.subtype := by
  obtain ⟨info', c, hloop⟩ := TlvCursor.forEach_total (ε := ParseResult) (fun parsed t =>
    { parsed with
      tlvCount := parsed.tlvCount + 1
      tlvTypes := if t.type < 64 then parsed.tlvTypes ||| (1 <<< t.type.toUInt64)
        else parsed.tlvTypes }) b.length ⟨b, false⟩ info
  refine ⟨info', c, hloop, TlvCursor.malformed_forEach_iff _ hloop, ?_⟩
  refine TlvCursor.forEach_invariant (P := fun i => i.subtype = info.subtype) (fun i t i' hi hstep => ?_)
    _ _ _ _ _ rfl hloop
  rw [← Except.ok.inj hstep]
  exact hi

lemma not_foreign_iff (body : Bytes) :
    ¬(body.length < 5 ∨ byteAt body 0 ≠ 127 ∨ byteAt body 1 ≠ 0 ∨ byteAt body 2 ≠ 0x17 ∨
      byteAt body 3 ≠ 0xf2 ∨ byteAt body 4 ≠ 8) ↔
      body.take 5 = [127, 0, 0x17, 0xf2, 8] := by
  by_cases hlength : body.length < 5
  · have hne : body.take 5 ≠ [127, 0, 0x17, 0xf2, 8] := by
      intro heq
      have := congrArg List.length heq
      simp at this
      omega
    simp [hlength, hne]
  · rw [take_eq_map (by omega)]
    simp [hlength, List.range_succ]

lemma parseAction_valid_iff (body : Bytes) :
    (parseAction body).1 = .valid ↔
      body.take 5 = [127, 0, 0x17, 0xf2, 8] ∧ 16 ≤ body.length ∧ body.length ≤ 4096 ∧
        byteAt body 5 ≠ 0 ∧ Tlv.IsList (body.drop 16) := by
  obtain ⟨info, c, hloop, hlist, -⟩ :=
    parseAction_loop (body.drop 16) { version := byteAt body 5, subtype := byteAt body 6 }
  rw [← not_foreign_iff, ← hlist, parseAction]
  grind

variable {body : Bytes} {t : TemplateStorage}

lemma subtype_of_parseAction (h : (parseAction body).1 = .valid) :
    (parseAction body).2.subtype = byteAt body 6 := by
  obtain ⟨info, c, hloop, -, hsubtype⟩ :=
    parseAction_loop (body.drop 16) { version := byteAt body 5, subtype := byteAt body 6 }
  rw [parseAction] at h ⊢
  grind

lemma parseAction_congr {body body' : Bytes} (hhead : body.take 7 = body'.take 7)
    (hlength : body.length = body'.length) (htlvs : body.drop 16 = body'.drop 16) :
    parseAction body = parseAction body' := by
  have hbyte : ∀ i < 7, byteAt body i = byteAt body' i := by
    intro i hi
    have heq := congrArg (fun b => byteAt b i) hhead
    simpa only [byteAt, List.getD_eq_getElem?_getD, List.getElem?_take_of_lt hi] using heq
  grind [parseAction]

lemma sound_iff (body : Bytes) :
    Sound body ↔
      (body.take 5 = [127, 0, 0x17, 0xf2, 8] ∧ 16 ≤ body.length ∧ body.length ≤ 4096 ∧
        byteAt body 5 ≠ 0 ∧ Tlv.IsList (body.drop 16)) ∧
      (byteAt body 6 = 0 ∨ byteAt body 6 = 3) := by
  rw [Sound, ← parseAction_valid_iff]
  exact and_congr_right fun h => by rw [subtype_of_parseAction h]

lemma sound_envelope_iff (version subtype : UInt8) (tlvs : Bytes) :
    Sound (envelope version subtype ++ tlvs) ↔
      Tlv.IsList tlvs ∧ tlvs.length ≤ 4080 ∧ version ≠ 0 ∧ (subtype = 0 ∨ subtype = 3) := by
  have hlength := length_envelope_append version subtype tlvs
  have hdrop : (envelope version subtype ++ tlvs).drop 16 = tlvs := rfl
  have htake : (envelope version subtype ++ tlvs).take 5 = [127, 0, 0x17, 0xf2, 8] := rfl
  have hversion : byteAt (envelope version subtype ++ tlvs) 5 = version := rfl
  have hsubtype : byteAt (envelope version subtype ++ tlvs) 6 = subtype := rfl
  grind [sound_iff]

/-- The array holds nothing or an action body, and zeros behind it. -/
structure WellFormed (t : TemplateStorage) : Prop where
  length : t.bytes.length = 4096
  used_le : t.used ≤ 4096
  sound : t.used = 0 ∨ Sound t.body
  zero : t.bytes.drop t.used = List.replicate (4096 - t.used) 0

lemma WellFormed.install (h : t.WellFormed) (hbody : body.length ≤ 4096) :
    write (write t.bytes 0 body) body.length (List.replicate (t.used - body.length) 0) =
      body ++ List.replicate (4096 - body.length) 0 := by
  have hdrop : ∀ n, t.used ≤ n → t.bytes.drop n = List.replicate (4096 - n) 0 := by
    intro n hn
    obtain ⟨k, rfl⟩ := Nat.exists_eq_add_of_le hn
    rw [← List.drop_drop, h.zero, List.drop_replicate, Nat.sub_sub]
  rw [write_zero, write, List.take_left, List.length_replicate,
    ← List.drop_drop, List.drop_left, List.drop_drop, hdrop _ (by omega), List.append_assoc,
    List.replicate_append_replicate]
  congr 2
  have := h.used_le
  omega

lemma WellFormed.installed (hbody : Sound body) :
    WellFormed ⟨body ++ List.replicate (4096 - body.length) 0, body.length⟩ := by
  have hle := ((sound_iff body).1 hbody).1.2.2.1
  have hstored : TemplateStorage.body
      ⟨body ++ List.replicate (4096 - body.length) 0, body.length⟩ = body := List.take_left
  exact {
    length := by
      grind
    used_le := hle
    sound := .inr (by rwa [hstored])
    zero := List.drop_left }

lemma wellFormed_empty : WellFormed {} where
  length := List.length_replicate
  used_le := Nat.zero_le _
  sound := .inl rfl
  zero := rfl

lemma write_envelope (b tlvs : Bytes) (version subtype : UInt8) :
    write (write (write (write b 0 (List.replicate 16 0)) 0 [127]) 2
      [0x17, 0xf2, 8, version, subtype]) 16 tlvs = write b 0 (envelope version subtype ++ tlvs) := by
  have hhead : write (write (write b 0 (List.replicate 16 0)) 0 [127]) 2
      [0x17, 0xf2, 8, version, subtype] = envelope version subtype ++ b.drop 16 := rfl
  rw [hhead, write_zero, write]
  have hsixteen : (envelope version subtype).length = 16 := rfl
  rw [List.take_left' hsixteen, ← List.drop_drop, List.drop_left' hsixteen, List.drop_drop,
    List.length_append, hsixteen]

lemma WellFormed.replace_cases (h : t.WellFormed) (source : Source) :
    (t.replace source = (false, t) ∧ ∀ body, source.content = some body → ¬Sound body) ∨
    ∃ body, source.content = some body ∧ Sound body ∧
      t.replace source =
        (true, ⟨body ++ List.replicate (4096 - body.length) 0, body.length⟩) := by
  cases source with
  | null length =>
    refine .inl ⟨rfl, fun body hbody hsound => ?_⟩
    grind [Source.content, sound_iff]
  | bytes body =>
    by_cases hsound : Sound body
    · refine .inr ⟨body, rfl, hsound, ?_⟩
      have hle := ((sound_iff body).1 hsound).1.2.2.1
      have hno : ¬((parseAction body).1 ≠ .valid ∨
          ((parseAction body).2.subtype ≠ 0 ∧ (parseAction body).2.subtype ≠ 3)) := by
        simpa only [Sound, ne_eq, not_or, not_and_or, not_not] using hsound
      simp only [replace, if_neg hno, h.install hle]
    · refine .inl ⟨?_, fun b hb => by rwa [← Option.some.inj hb]⟩
      have hyes : (parseAction body).1 ≠ .valid ∨
          ((parseAction body).2.subtype ≠ 0 ∧ (parseAction body).2.subtype ≠ 3) := by
        simpa only [Sound, not_or, not_and_or] using hsound
      simp only [replace, if_pos hyes]

lemma WellFormed.replaceTlvs_cases (h : t.WellFormed) (source : Source) (version subtype : UInt8) :
    (t.replaceTlvs source version subtype = (false, t) ∧
      ∀ tlvs, source.content = some tlvs → ¬Sound (envelope version subtype ++ tlvs)) ∨
    ∃ tlvs, source.content = some tlvs ∧ Sound (envelope version subtype ++ tlvs) ∧
      t.replaceTlvs source version subtype =
        (true, ⟨envelope version subtype ++ tlvs ++ List.replicate (4096 - (16 + tlvs.length)) 0,
          16 + tlvs.length⟩) := by
  unfold replaceTlvs
  cases hcontent : source.content with
  | none => exact .inl ⟨rfl, fun tlvs htlvs => absurd htlvs.symm (Option.some_ne_none tlvs)⟩
  | some tlvs =>
    have hlength := length_envelope_append version subtype tlvs
    by_cases hsound : Sound (envelope version subtype ++ tlvs)
    · obtain ⟨hlist, hle, hversion, hsubtype⟩ := (sound_envelope_iff version subtype tlvs).1 hsound
      have hargs : ¬(tlvs.length > TxTemplate.capacity - 16 ∨ version = 0 ∨
          (subtype ≠ 0 ∧ subtype ≠ 3)) := by
        simp only [ne_eq, not_or, not_and_or, not_not]
        exact ⟨Nat.not_lt.mpr hle, hversion, hsubtype⟩
      have hcomplete : ¬(!TxTemplate.complete tlvs) = true := by
        rw [(complete_iff tlvs).2 hlist]
        decide
      refine .inr ⟨tlvs, rfl, hsound, ?_⟩
      have hinstall := @WellFormed.install (envelope version subtype ++ tlvs) t h (by rw [hlength]; omega)
      grind [write_envelope]
    · refine .inl ⟨?_, fun b hb => by rwa [← Option.some.inj hb]⟩
      dsimp only
      split_ifs with hargs hcomplete
      · rfl
      · rfl
      · simp only [ne_eq, not_or, not_and_or, not_not] at hargs
        rw [Bool.not_eq_true, Bool.not_eq_false', complete_iff] at hcomplete
        exact absurd ((sound_envelope_iff version subtype tlvs).2
          ⟨hcomplete, Nat.not_lt.mp hargs.1, hargs.2.1, hargs.2.2⟩) hsound

lemma WellFormed.replace (h : t.WellFormed) (source : Source) :
    (t.replace source).2.WellFormed := by
  obtain ⟨hcall, -⟩ | ⟨body, -, hsound, hcall⟩ := h.replace_cases source
  · rwa [hcall]
  · rw [hcall]
    exact .installed hsound

lemma WellFormed.replaceTlvs (h : t.WellFormed) (source : Source)
    (version subtype : UInt8) : (t.replaceTlvs source version subtype).2.WellFormed := by
  obtain ⟨hcall, -⟩ | ⟨tlvs, -, hsound, hcall⟩ := h.replaceTlvs_cases source version subtype
  · rwa [hcall]
  · have hlength : (envelope version subtype ++ tlvs).length = 16 + tlvs.length := by
      rw [List.length_append]
      rfl
    rw [hcall, ← hlength]
    exact .installed hsound

lemma WellFormed.clear (h : t.WellFormed) : t.clear.WellFormed := by
  have hbytes : t.clear.bytes = List.replicate 4096 0 := by
    rw [TemplateStorage.clear, write_zero, List.length_replicate, h.zero,
      List.replicate_append_replicate, Nat.add_sub_cancel' h.used_le]
  exact {
    length := by rw [hbytes, List.length_replicate]
    used_le := Nat.zero_le _
    sound := .inl rfl
    zero := hbytes }

/-- The 802.11 header that `build` writes. -/
def header (destination source bssid : Mac) (sequence : UInt16) : Bytes :=
  ([0xd0, 0, 0, 0] : Bytes) ++ destination.toList ++ source.toList ++ bssid.toList ++
    put16 ((sequence &&& 0x0fff) <<< 4)

lemma length_header (destination source bssid : Mac) (sequence : UInt16) :
    (header destination source bssid sequence).length = 24 := by
  simp [header, put16]

lemma length_to_source (destination : Mac) :
    (([0xd0, 0, 0, 0] : Bytes) ++ destination.toList).length = 10 := by
  simp

lemma length_to_bssid (destination source : Mac) :
    (([0xd0, 0, 0, 0] : Bytes) ++ destination.toList ++ source.toList).length = 16 := by
  simp

lemma length_to_control (destination source bssid : Mac) :
    (([0xd0, 0, 0, 0] : Bytes) ++ destination.toList ++ source.toList ++ bssid.toList).length = 22 := by
  simp

lemma write_header (out : Bytes) (destination source bssid : Mac) (sequence : UInt16) :
    write (write (write (write (write (write out 0 (List.replicate 24 0)) 0 [0xd0])
      4 destination.toList) 10 source.toList) 16 bssid.toList)
      22 (put16 ((sequence &&& 0x0fff) <<< 4)) =
    header destination source bssid sequence ++ out.drop 24 := by
  have hd : destination.toList.length = 6 := destination.length_toList
  have hs : source.toList.length = 6 := source.length_toList
  have hb : bssid.toList.length = 6 := bssid.length_toList
  have hfirst : write (write out 0 (List.replicate 24 0)) 0 [0xd0] =
      [0xd0, 0, 0, 0] ++ (List.replicate 6 0 ++ (List.replicate 6 0 ++ (List.replicate 6 0 ++
        (List.replicate 2 0 ++ out.drop 24)))) := rfl
  have h4 : ([0xd0, 0, 0, 0] : Bytes).length = 4 := rfl
  have hzeros : (List.replicate 6 0 : Bytes).length = 6 := rfl
  have hpair : (List.replicate 2 0 : Bytes).length =
      (put16 ((sequence &&& 0x0fff) <<< 4)).length := rfl
  rw [hfirst, write_middle h4 (hzeros.trans hd.symm),
    write_middle (length_to_source destination) (hzeros.trans hs.symm),
    write_middle (length_to_bssid destination source) (hzeros.trans hb.symm),
    write_middle (length_to_control destination source bssid) hpair]
  rfl

/-- The body with the two times filled in. -/
def timed (body : Bytes) (phyTime targetTime : UInt32) : Bytes :=
  body.take 8 ++ put32 phyTime ++ put32 targetTime ++ body.drop 16

lemma length_timed (h : 16 ≤ body.length) (phyTime targetTime : UInt32) :
    (timed body phyTime targetTime).length = body.length := by
  simp only [timed, List.length_append, List.length_take, List.length_drop]
  show min 8 body.length + 4 + 4 + (body.length - 16) = body.length
  omega

lemma fill_eq (h16 : 16 ≤ t.body.length) (hused : t.body.length = t.used)
    (out : Bytes) (destination source bssid : Mac) (sequence : UInt16) (phyTime targetTime : UInt32) :
    t.fill out destination source bssid sequence phyTime targetTime =
      header destination source bssid sequence ++ timed t.body phyTime targetTime ++
        out.drop (24 + t.used) := by
  have hheader := length_header destination source bssid sequence
  -- the body splits at the times
  have hsplit : t.body = t.body.take 8 ++ (slice t.body 8 4 ++ (slice t.body 12 4 ++ t.body.drop 16)) := by
    have h12 : slice t.body 12 4 ++ t.body.drop 16 = t.body.drop 12 := by
      rw [slice, show (16 : ℕ) = 12 + 4 from rfl, ← List.drop_drop, List.take_append_drop]
    have h8 : slice t.body 8 4 ++ t.body.drop 12 = t.body.drop 8 := by
      rw [slice, show (12 : ℕ) = 8 + 4 from rfl, ← List.drop_drop, List.take_append_drop]
    rw [h12, h8, List.take_append_drop]
  have hfour : ∀ off, off + 4 ≤ t.body.length → (slice t.body off 4).length = 4 := fun off hoff =>
    length_slice hoff
  have hbody : write (header destination source bssid sequence ++ out.drop 24) 24 t.body =
      header destination source bssid sequence ++ (t.body.take 8 ++ (slice t.body 8 4 ++
        (slice t.body 12 4 ++ (t.body.drop 16 ++ out.drop (24 + t.used))))) := by
    rw [write, List.take_left' hheader, ← List.drop_drop, List.drop_left' hheader, List.drop_drop,
      hused]
    grind
  simp only [fill, write_header, hbody]
  rw [← List.append_assoc, write_middle (by simp [hheader]; omega) (hfour 8 (by omega)),
    write_middle (by simp [hheader, put32, put16]; omega) (hfour 12 (by omega)), timed]
  simp only [List.append_assoc]

lemma parseAction_timed (h16 : 16 ≤ body.length) (phyTime targetTime : UInt32) :
    parseAction (timed body phyTime targetTime) = parseAction body := by
  refine parseAction_congr ?_ (length_timed h16 phyTime targetTime) ?_
  · have htake : (body.take 8).length = 8 := by
      rw [List.length_take]
      omega
    grind [timed]
  · have htimes : (body.take 8 ++ put32 phyTime ++ put32 targetTime).length = 16 := by
      simp [put32, put16]
      omega
    exact List.drop_left' htimes

lemma toNat_control (sequence : UInt16) :
    ((sequence &&& 0x0fff) <<< 4).toNat = sequence.toNat % 4096 * 16 := by
  have hmask : (sequence &&& 0x0fff).toNat = sequence.toNat % 4096 := by
    exact Nat.and_two_pow_sub_one_eq_mod sequence.toNat 12
  rw [UInt16.toNat_shiftLeft, hmask, Nat.shiftLeft_eq]
  show sequence.toNat % 4096 * 16 % 65536 = _
  omega

/-- What a frame that `build` wrote holds. -/
structure Carries (frame body : Bytes) (destination source bssid : Mac) (sequence : UInt16)
    (phyTime targetTime : UInt32) : Prop where
  parsed : parseFrame frame = parseAction body
  tlvs : frame.drop 40 = body.drop 16
  destination : slice frame 4 6 = destination.toList
  source : slice frame 10 6 = source.toList
  bssid : slice frame 16 6 = bssid.toList
  sequence : (le16 frame 22).toNat = sequence.toNat % 4096 * 16
  phyTime : le32 frame 32 = phyTime
  targetTime : le32 frame 36 = targetTime

lemma control_fragment (sequence : UInt16) :
    ((sequence &&& 0x0fff) <<< 4).toUInt8 &&& 15 = 0 := by
  apply UInt8.toNat_inj.mp
  rw [UInt8.toNat_and, UInt16.toNat_toUInt8, toNat_control]
  have hmod : ∀ n : ℕ, n &&& 15 = n % 16 := fun n => Nat.and_two_pow_sub_one_eq_mod n 4
  show sequence.toNat % 4096 * 16 % 256 &&& 15 = 0
  rw [hmod]
  omega

lemma parseFrame_header (destination source bssid : Mac) (sequence : UInt16) (body : Bytes) :
    parseFrame (header destination source bssid sequence ++ body) = parseAction body := by
  have hheader := length_header destination source bssid sequence
  have hlow : byteAt (header destination source bssid sequence ++ body) 22 =
      ((sequence &&& 0x0fff) <<< 4).toUInt8 := by
    have h22 := length_to_control destination source bssid
    rw [header, List.append_assoc, byteAt_append_right (by omega), h22]
    rfl
  have hvalid : ¬((header destination source bssid sequence ++ body).length < 24 ∨
      byteAt (header destination source bssid sequence ++ body) 0 ≠ 0xd0 ∨
      byteAt (header destination source bssid sequence ++ body) 1 &&&
        (0x03 ||| 0x04 ||| 0x40 ||| 0x80) ≠ 0 ∨
      byteAt (header destination source bssid sequence ++ body) 22 &&& 15 ≠ 0) := by
    have hflags : byteAt (header destination source bssid sequence ++ body) 1 = 0 := rfl
    rw [hlow, hflags]
    simp only [not_or, not_not, ne_eq]
    exact ⟨by rw [List.length_append]; omega, rfl, by decide, control_fragment sequence⟩
  rw [parseFrame, if_neg hvalid, List.drop_left' hheader]

lemma carries_timed (h16 : 16 ≤ body.length) (destination source bssid : Mac)
    (sequence : UInt16) (phyTime targetTime : UInt32) :
    Carries (header destination source bssid sequence ++ timed body phyTime targetTime) body destination
      source bssid sequence phyTime targetTime := by
  have hd : destination.toList.length = 6 := destination.length_toList
  have hs : source.toList.length = 6 := source.length_toList
  have hb : bssid.toList.length = 6 := bssid.length_toList
  have h8 : (body.take 8).length = 8 := by
    rw [List.length_take]
    omega
  have hheader := length_header destination source bssid sequence
  have htimes : timed body phyTime targetTime =
      body.take 8 ++ (put32 phyTime ++ (put32 targetTime ++ body.drop 16)) := by
    simp only [timed, List.append_assoc]
  exact {
    parsed := by rw [parseFrame_header, parseAction_timed h16]
    tlvs := by
      rw [timed, ← List.append_assoc]
      refine List.drop_left' ?_
      simp only [List.length_append, hheader, h8]
      rfl
    destination := by
      rw [header]
      simp only [List.append_assoc]
      exact slice_append [0xd0, 0, 0, 0] _ _ rfl hd.symm
    source := by
      rw [header, List.append_assoc, List.append_assoc, List.append_assoc]
      exact slice_append _ _ _ (length_to_source destination).symm hs.symm
    bssid := by
      rw [header, List.append_assoc, List.append_assoc]
      exact slice_append _ _ _ (length_to_bssid destination source).symm hb.symm
    sequence := by
      rw [header, List.append_assoc, le16_put16 _ _ _ (length_to_control destination source bssid).symm,
        toNat_control]
    phyTime := by
      grind [le32_put32]
    targetTime := by
      rw [htimes, ← List.append_assoc, ← List.append_assoc]
      exact le32_put32 _ _ _ (by rw [List.length_append, List.length_append, hheader, h8]; rfl) }

lemma build_cases (t : TemplateStorage) (out : Option Bytes) (destination source bssid : Option Mac)
    (sequence : UInt16) (phyTime targetTime : UInt32) :
    t.build out destination source bssid sequence phyTime targetTime = ⟨false, 0, out⟩ ∨
    ∃ room d s b, out = some room ∧ destination = some d ∧ source = some s ∧ bssid = some b ∧
      t.used ≠ 0 ∧ 24 + t.used ≤ room.length ∧
      t.build out destination source bssid sequence phyTime targetTime =
        ⟨true, 24 + t.used, some (t.fill room d s b sequence phyTime targetTime)⟩ := by
  cases out with
  | none => exact .inl rfl
  | some room =>
  cases destination with
  | none => exact .inl rfl
  | some d =>
  cases source with
  | none => exact .inl rfl
  | some s =>
  cases bssid with
  | none => exact .inl rfl
  | some b =>
  unfold build
  grind

lemma WellFormed.length_body (h : t.WellFormed) : t.body.length = t.used := by
  have := h.used_le
  rw [body, List.length_take, h.length]
  omega

lemma WellFormed.build_carries (h : t.WellFormed) {out : Option Bytes}
    {destination source bssid : Option Mac} {sequence : UInt16} {phyTime targetTime : UInt32}
    (hbuilt : (t.build out destination source bssid sequence phyTime targetTime).result = true) :
    ∃ room d s b frame, out = some room ∧ destination = some d ∧ source = some s ∧ bssid = some b ∧
      Sound t.body ∧ frame.length = 24 + t.used ∧ Carries frame t.body d s b sequence phyTime targetTime ∧
      t.build out destination source bssid sequence phyTime targetTime =
        ⟨true, frame.length, some (frame ++ room.drop frame.length)⟩ := by
  obtain hcall | ⟨room, d, s, b, hroom, hd, hs, hb, hused, -, hcall⟩ :=
    build_cases t out destination source bssid sequence phyTime targetTime
  · grind
  have hsound : Sound t.body := h.sound.resolve_left hused
  have h16 : 16 ≤ t.body.length := ((sound_iff t.body).1 hsound).1.2.1
  have hlength : (header d s b sequence ++ timed t.body phyTime targetTime).length = 24 + t.used := by
    rw [List.length_append, length_header, length_timed h16, h.length_body]
  refine ⟨room, d, s, b, header d s b sequence ++ timed t.body phyTime targetTime, hroom, hd, hs, hb,
    hsound, hlength, carries_timed h16 d s b sequence phyTime targetTime, ?_⟩
  rw [hcall, fill_eq h16 h.length_body, hlength]

inductive Call where
  | replace (source : Source)
  | replaceTlvs (source : Source) (version subtype : UInt8)
  | clear

/-- Whether the call was accepted, and the array after it. -/
def apply (t : TemplateStorage) : Call → Bool × TemplateStorage
  | .replace source => t.replace source
  | .replaceTlvs source version subtype => t.replaceTlvs source version subtype
  | .clear => (true, t.clear)

def run (calls : List Call) : TemplateStorage := calls.foldl (fun t call => (t.apply call).2) {}

/-- Every call keeps the storage well formed. -/
lemma WellFormed.apply (h : t.WellFormed) (call : Call) : (t.apply call).2.WellFormed := by
  cases call with
  | replace source => exact h.replace source
  | replaceTlvs source version subtype => exact h.replaceTlvs source version subtype
  | clear => exact h.clear

/-- The storage is well formed after any calls. -/
lemma wellFormed_run (calls : List Call) : (run calls).WellFormed :=
  List.foldlRecOn calls _ wellFormed_empty fun _ h call _ => h.apply call

/-- After any calls the array holds nothing or an action body of subtype 0 or 3 with zeros behind it.
A call is accepted exactly if it gives such a body, and a refused one changes nothing. Every frame
that is built is an action frame with the stored TLVs and the fields that were given. -/
theorem template_well_formed (calls : List Call) :
    let t := run calls
    (t.used = 0 ∨ Sound t.body) ∧
    (t.bytes.length = 4096 ∧ t.bytes.drop t.used = List.replicate (4096 - t.used) 0) ∧
    (∀ call, (t.apply call).1 = false → (t.apply call).2 = t) ∧
    (∀ source version subtype, (t.replaceTlvs source version subtype).1 = true ↔
      ∃ tlvs, source.content = some tlvs ∧ Tlv.IsList tlvs ∧ tlvs.length ≤ 4080 ∧ version ≠ 0 ∧
        (subtype = 0 ∨ subtype = 3)) ∧
    (∀ source, (t.replace source).1 = true ↔
      ∃ body, source.content = some body ∧ (parseAction body).1 = .valid ∧
        ((parseAction body).2.subtype = 0 ∨ (parseAction body).2.subtype = 3)) ∧
    (∀ source version subtype tlvs, source.content = some tlvs →
      (t.replaceTlvs source version subtype).1 = true →
      (t.replaceTlvs source version subtype).2.body = envelope version subtype ++ tlvs) ∧
    (∀ source body, source.content = some body → (t.replace source).1 = true →
      (t.replace source).2.body = body) ∧
    ∀ out destination source bssid sequence phyTime targetTime,
      (t.build out destination source bssid sequence phyTime targetTime).result = true →
      ∃ room d s b frame, out = some room ∧ destination = some d ∧ source = some s ∧ bssid = some b ∧
        t.build out destination source bssid sequence phyTime targetTime =
          ⟨true, frame.length, some (frame ++ room.drop frame.length)⟩ ∧
        (parseFrame frame).1 = .valid ∧ Carries frame t.body d s b sequence phyTime targetTime := by
  intro t
  have h : t.WellFormed := wellFormed_run calls
  refine ⟨h.sound, ⟨h.length, h.zero⟩, ?_, ?_, ?_, ?_, ?_, ?_⟩
  · intro call hrefused
    cases call with
    | replace source =>
      obtain ⟨hcall, -⟩ | ⟨body, -, -, hcall⟩ := h.replace_cases source
      · rw [apply, hcall]
      · rw [apply, hcall] at hrefused
        cases hrefused.symm
    | replaceTlvs source version subtype =>
      obtain ⟨hcall, -⟩ | ⟨tlvs, -, -, hcall⟩ := h.replaceTlvs_cases source version subtype
      · rw [apply, hcall]
      · rw [apply, hcall] at hrefused
        cases hrefused.symm
    | clear => cases hrefused.symm
  · intro source version subtype
    obtain ⟨hcall, hno⟩ | ⟨tlvs, hcontent, hsound, hcall⟩ := h.replaceTlvs_cases source version subtype
    · rw [hcall]
      refine ⟨fun hfalse => absurd hfalse Bool.false_ne_true, ?_⟩
      rintro ⟨tlvs, hcontent, hargs⟩
      exact absurd ((sound_envelope_iff version subtype tlvs).2 hargs) (hno tlvs hcontent)
    · rw [hcall]
      exact ⟨fun _ => ⟨tlvs, hcontent, (sound_envelope_iff version subtype tlvs).1 hsound⟩,
        fun _ => rfl⟩
  · intro source
    obtain ⟨hcall, hno⟩ | ⟨body, hcontent, hsound, hcall⟩ := h.replace_cases source
    · rw [hcall]
      refine ⟨fun hfalse => absurd hfalse Bool.false_ne_true, ?_⟩
      rintro ⟨body, hcontent, hargs⟩
      exact absurd hargs (hno body hcontent)
    · rw [hcall]
      exact ⟨fun _ => ⟨body, hcontent, hsound⟩, fun _ => rfl⟩
  · intro source version subtype tlvs hcontent haccepted
    obtain ⟨hcall, -⟩ | ⟨tlvs', hcontent', -, hcall⟩ := h.replaceTlvs_cases source version subtype
    · rw [hcall] at haccepted
      cases haccepted
    · obtain rfl := Option.some.inj (hcontent.symm.trans hcontent')
      rw [hcall, body, List.take_left' (length_envelope_append version subtype tlvs)]
  · intro source body hcontent haccepted
    obtain ⟨hcall, -⟩ | ⟨body', hcontent', -, hcall⟩ := h.replace_cases source
    · rw [hcall] at haccepted
      cases haccepted
    · obtain rfl := Option.some.inj (hcontent.symm.trans hcontent')
      rw [hcall, TemplateStorage.body, List.take_left]
  · intro out destination source bssid sequence phyTime targetTime hbuilt
    obtain ⟨room, d, s, b, frame, hroom, hd, hs, hb, hsound, -, hcarries, hcall⟩ :=
      h.build_carries hbuilt
    exact ⟨room, d, s, b, frame, hroom, hd, hs, hb, hcall, by rw [hcarries.parsed]; exact hsound.1,
      hcarries⟩

end TemplateStorage

end AirportAwdl.Native
