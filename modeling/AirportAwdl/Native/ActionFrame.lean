import AirportAwdl.Election.Transfer
import AirportAwdl.Native.Action
import AirportAwdl.SyncOrder

/-!
# Native frames are read back

A frame of `NativeAction.build` is the synchronization frame of the engine, followed by the native
TLVs. The template check keeps out everything that would disturb the receiving decoder but one
thing: it does not look at version TLVs, of which the decoder wants at most one, with at least two
bytes (`soleVersion`). With this one exception what is sent is accepted, and read as what the
synchronization frame alone says (`parseAdvertisement_build`).
-/

namespace AirportAwdl

open ByteBuffer SetOnce

/-- What the decoder wants of version TLVs. -/
def soleVersion (ts : List Tlv) : Bool :=
  match ts.filter (·.type == 21) with
  | [] => true
  | [t] => 2 ≤ t.data.length
  | _ => false

lemma Tlv.field_version {t : Tlv} (h : t.type = 21) : t.field = some .version := by
  simp [Tlv.field, h]

/-- TLVs that a decoded message allows behind it: version TLVs and those without a handler. -/
def Tlv.Late (t : Tlv) : Prop := t.type ≠ 4 ∧ t.type ≠ 18 ∧ t.type ≠ 24

lemma Tlv.Late.field_eq_none {t : Tlv} (h : t.Late) (hne : t.type ≠ 21) : t.field = none := by
  simp [Tlv.field, h.1, h.2.1, h.2.2, hne]

/-- Set the version fields of a message. -/
def SyncMessage.withVersion (m : SyncMessage) (present : Bool) (version device : UInt8) :
    SyncMessage :=
  { m with versionPresent := present, version := version, deviceClass := device }

lemma toOption_foldlM_late {ts : List Tlv} (hts : ∀ t ∈ ts, t.Late) (scan : SyncScan) :
    (ts.foldlM scanTlv scan).toOption =
      (ts.filter (·.type == 21)).foldl
        (advance fun s t => SyncField.version.slot.fill (SyncField.version.read t.data) s)
        (some scan) := by
  rw [toOption_foldlM]
  generalize some scan = o
  induction ts generalizing o with
  | nil => rfl
  | cons t ts ih =>
    have ih := ih fun u hu => hts u (List.mem_cons_of_mem _ hu)
    have hlate := hts t List.mem_cons_self
    rw [List.foldl_cons, ih]
    by_cases htype : t.type = 21
    · rw [List.filter_cons_of_pos (by simp [htype]), List.foldl_cons]
      congr 1
      cases o with
      | none => rfl
      | some s =>
        show (scanTlv s t).toOption = _
        rw [toOption_scanTlv, Tlv.field_version htype]
        rfl
    · rw [List.filter_cons_of_neg (by simp [htype])]
      congr 1
      cases o with
      | none => rfl
      | some s =>
        show (scanTlv s t).toOption = _
        rw [toOption_scanTlv, hlate.field_eq_none htype]

lemma foldlM_late {ts : List Tlv} (hts : ∀ t ∈ ts, t.Late) {scan : SyncScan}
    (hnew : scan.decoded.versionPresent = false) :
    if soleVersion ts then ∃ present version device, ts.foldlM scanTlv scan =
      .ok { scan with decoded := scan.decoded.withVersion present version device }
    else (ts.foldlM scanTlv scan).toOption = none := by
  have hfold := toOption_foldlM_late hts scan
  unfold soleVersion
  split
  · rename_i hnone
    rw [hnone] at hfold
    exact ⟨scan.decoded.versionPresent, scan.decoded.version, scan.decoded.deviceClass,
      eq_ok_of_toOption hfold⟩
  · rename_i t hone
    rw [hone] at hfold
    have hopen : ¬SyncField.version.slot.isSet scan = true := by
      show ¬scan.decoded.versionPresent = true
      rw [hnew]
      exact Bool.false_ne_true
    have hfill : (ts.foldlM scanTlv scan).toOption =
        (SyncField.version.read t.data).map fun p => SyncField.version.slot.put p scan :=
      hfold.trans (if_neg hopen)
    by_cases hlength : 2 ≤ t.data.length
    · rw [if_pos (by simpa using hlength)]
      have hread : SyncField.version.read t.data = some t.data := if_neg (by omega)
      rw [hread] at hfill
      exact ⟨true, byteAt t.data 0, byteAt t.data 1, eq_ok_of_toOption hfill⟩
    · rw [if_neg (by simpa using hlength), hfill]
      have hread : SyncField.version.read t.data = none := if_pos (by omega)
      rw [hread]
      rfl
  · rename_i hne hne'
    rw [if_neg Bool.false_ne_true, hfold]
    -- a second version TLV finds the field set
    cases hlist : ts.filter (·.type == 21) with
    | nil => exact absurd hlist hne
    | cons t us => cases us with
      | nil => exact absurd hlist (hne' t)
      | cons u us =>
        have htwice := SyncField.version.slot.fill_twice (SyncField.version.read t.data)
          (SyncField.version.read u.data) scan
        exact (congrArg (us.foldl _) htwice).trans (foldl_none _ us)

lemma finishSync_withVersion (scan : SyncScan) (present : Bool) (version device : UInt8) :
    finishSync { scan with decoded := scan.decoded.withVersion present version device } =
      (finishSync scan).map fun m => m.withVersion present version device := by
  cases helection : scan.decoded.electionPresent <;>
    simp only [finishSync, SyncMessage.withVersion, helection, if_true, Bool.false_eq_true,
      if_false] <;>
    split_ifs <;> simp_all [Except.map]

lemma versionPresent_of_finishSync {scan : SyncScan} {m : SyncMessage} (h : finishSync scan = .ok m) :
    scan.decoded.versionPresent = m.versionPresent := by
  have hsame := finishSync_withVersion scan scan.decoded.versionPresent scan.decoded.version
    scan.decoded.deviceClass
  have heta : finishSync scan = (finishSync scan).map fun m => m.withVersion
    scan.decoded.versionPresent scan.decoded.version scan.decoded.deviceClass := hsame
  rw [h] at heta
  exact (congrArg SyncMessage.versionPresent (Except.ok.inj heta)).symm

lemma decodeSyncBody_append {body : Bytes} {m : SyncMessage} {ts : List Tlv}
    (h : decodeSyncBody body = .ok m) (hversion : m.versionPresent = false)
    (hts : ∀ t ∈ ts, t.Late)
    (hlength : (body ++ Tlv.encodeAll ts).length ≤ 4096) :
    (parseAction (body ++ Tlv.encodeAll ts)).1 = .valid ∧
    if soleVersion ts then ∃ present version device, decodeSyncBody (body ++ Tlv.encodeAll ts) =
      .ok (m.withVersion present version device)
    else (decodeSyncBody (body ++ Tlv.encodeAll ts)).toOption = none := by
  obtain ⟨henveloped, hall, -, scan, hscan, hfinish⟩ := ok_of_decodeSyncBody h
  have hbody : body ++ Tlv.encodeAll ts =
      body.take 16 ++ Tlv.encodeAll (actionTlvs body ++ ts) := by
    rw [Tlv.encodeAll_append, ← hall, ← List.append_assoc, List.take_append_drop]
  rw [hbody] at hlength ⊢
  obtain ⟨henveloped', hstart, hrest⟩ := henveloped.replace hlength
  have hsized : ∀ t ∈ actionTlvs body ++ ts, t.Sized := by
    grind [Tlv.sized_of_mem]
  obtain ⟨info, hparse, -⟩ := parseAction_of_tlvs henveloped' hsized hrest
  refine ⟨by rw [hparse], ?_⟩
  have hdecode : decodeSyncBody (body.take 16 ++ Tlv.encodeAll (actionTlvs body ++ ts)) =
      (ts.foldlM scanTlv scan).bind finishSync := by
    rw [decodeSyncBody_of_tlvs henveloped' hsized hrest, hstart, List.foldlM_append, hscan]
    rfl
  rw [hdecode]
  have hlate := foldlM_late hts ((versionPresent_of_finishSync hfinish).trans hversion)
  split at hlate
  · rename_i hsole
    obtain ⟨present, version, device, hfold⟩ := hlate
    rw [if_pos hsole, hfold]
    refine ⟨present, version, device, ?_⟩
    show finishSync _ = _
    rw [finishSync_withVersion, hfinish]
    rfl
  · rename_i hsole
    rw [if_neg hsole]
    cases hfold : ts.foldlM scanTlv scan with
    | error e => rfl
    | ok scan' =>
      rw [hfold] at hlate
      cases hlate

namespace Election

lemma macAt_append {f : Bytes} {off : ℕ} (h : off + 6 ≤ f.length) (rest : Bytes) :
    macAt (f ++ rest) off = macAt f off := by
  refine Vector.ext fun i hi => ?_
  simp only [macAt, Vector.getElem_ofFn]
  exact byteAt_append_left (by omega) rest

lemma parseAdvertisement_append {f : Bytes} {a : Advertisement} {m : SyncMessage} {ts : List Tlv}
    (ha : parseAdvertisement f = some a) (h : decodeSyncBody (f.drop 24) = .ok m)
    (hversion : m.versionPresent = false) (hts : ∀ t ∈ ts, t.Late)
    (hlength : (f ++ Tlv.encodeAll ts).length ≤ 4096 + 24) :
    parseAdvertisement (f ++ Tlv.encodeAll ts) = if soleVersion ts then some a else none := by
  have hdecode : decodeSyncAction (f.drop 24) = (.valid, m) := decodeSyncAction_valid.mpr h
  unfold parseAdvertisement at ha
  split at ha
  · cases ha.symm
  rename_i hframe
  rw [not_or, not_not, not_or, not_not] at hframe
  obtain ⟨hparse, hsource, hnetwork⟩ := hframe
  have hheader : ¬(f.length < 24 ∨ byteAt f 0 ≠ 0xd0 ∨
      byteAt f 1 &&& (0x03 ||| 0x04 ||| 0x40 ||| 0x80) ≠ 0 ∨ byteAt f 22 &&& 15 ≠ 0) := by
    grind [parseFrame]
  have hmin : 24 ≤ f.length := by
    omega
  have hbody : (f ++ Tlv.encodeAll ts).drop 24 = f.drop 24 ++ Tlv.encodeAll ts :=
    List.drop_append_of_le_length hmin
  obtain ⟨hvalid, hlate⟩ := decodeSyncBody_append h hversion hts (by
    rw [← hbody, List.length_drop]
    omega)
  have hframe' : (parseFrame (f ++ Tlv.encodeAll ts)).1 = .valid := by
    rw [parseFrame, if_neg, hbody, hvalid]
    grind [byteAt_append_left]
  unfold parseAdvertisement
  rw [hframe', macAt_append (by omega), macAt_append (by omega), hbody,
    if_neg (by simp [hsource, hnetwork])]
  split at hlate
  · rename_i hsole
    obtain ⟨present, version, device, hok⟩ := hlate
    rw [if_pos hsole, decodeSyncAction_valid.mpr hok, ← ha, hdecode]
    rfl
  · rename_i hsole
    rw [if_neg hsole]
    split
    · rename_i decoded hok
      rw [decodeSyncAction_valid.mp hok] at hlate
      cases hlate
    · rfl

end Election

namespace Native.NativeAction

open Election

/-- The TLVs of a native body. -/
def tlvsOf (tlvs : Bytes) : List Tlv := TlvCursor.readAll tlvs.length ⟨tlvs, false⟩

/-- TLVs that go into the frame. -/
def kept (t : Tlv) : Bool := t.type != 20 && t.type != 24

/-- Election parameters with the engine's master, distance and metrics. -/
def patch (s : State) (t : Tlv) : Tlv :=
  if t.type = 5 then { t with data := storeAll t.data [(3, [s.distance.toUInt8]),
    (5, s.master.toList), (11, put32 s.masterMetric), (15, put32 s.metric)] }
  else t

/-- The native TLVs of a frame, in order. -/
def sent (s : State) (tlvs : Bytes) : List Tlv := ((tlvsOf tlvs).filter kept).map (patch s)

/-- What the template check lets through. -/
structure Allowed (t : Tlv) : Prop where
  timing : t.type ≠ 4 ∧ t.type ≠ 18
  parameters : t.type = 5 → t.data.length = 21

lemma allowed_of_check {election election' : Bool} {t : Tlv} (h : check election t = .ok election') :
    Allowed t := by
  unfold check at h
  split at h
  · cases h
  rename_i htiming
  split at h
  · cases h
  split at h
  · cases h
  rename_i hparameters
  rw [not_or] at htiming
  exact ⟨htiming, fun h5 => not_not.mp fun hne => hparameters ⟨h5, hne⟩⟩

lemma allowed_of_foldlM {ts : List Tlv} {election election' : Bool}
    (h : ts.foldlM check election = .ok election') : ∀ t ∈ ts, Allowed t := by
  induction ts generalizing election with
  | nil => exact fun t ht => absurd ht List.not_mem_nil
  | cons u us ih =>
    rw [List.foldlM_cons] at h
    cases hcheck : check election u with
    | error e =>
      rw [hcheck] at h
      exact absurd h (by simp [bind, Except.bind])
    | ok next =>
      rw [hcheck] at h
      intro t ht
      rcases List.mem_cons.mp ht with rfl | hmem
      · exact allowed_of_check hcheck
      · exact ih h t hmem

variable {tlvs : Bytes}

lemma tlvs_of_valid (h : valid tlvs = true) :
    tlvs.length ≤ 2048 ∧ tlvs = Tlv.encodeAll (tlvsOf tlvs) ∧
      ∀ t ∈ tlvsOf tlvs, t.Sized ∧ Allowed t := by
  unfold valid at h
  rw [Bool.and_eq_true, Bool.and_eq_true] at h
  obtain ⟨⟨-, hlength⟩, hloop⟩ := h
  split at hloop
  · rename_i election cursor hok
    obtain ⟨hall, hsized⟩ :=
      TlvCursor.encodeAll_readAll (c := ⟨tlvs, false⟩) le_rfl rfl hok (by simpa using hloop)
    refine ⟨by simpa using hlength, hall, fun t ht => ⟨hsized t ht, ?_⟩⟩
    have hfold := @TlvCursor.forEach_encodeAll _ _ check _ hsized _
      (Tlv.length_le_encodeAll (tlvsOf tlvs)) false
    have hbytes : Tlv.encodeAll (TlvCursor.readAll tlvs.length ⟨tlvs, false⟩) = tlvs := hall.symm
    rw [tlvsOf, hbytes, hok] at hfold
    cases hcheck : (TlvCursor.readAll tlvs.length ⟨tlvs, false⟩).foldlM check false with
    | error e =>
      rw [hcheck] at hfold
      exact absurd hfold (by simp [Except.map])
    | ok election' => exact allowed_of_foldlM hcheck t ht
  · exact absurd hloop.symm Bool.noConfusion

lemma type_patch (s : State) (t : Tlv) : (patch s t).type = t.type := by
  unfold patch
  split <;> rfl

lemma length_data_patch (s : State) {t : Tlv} (h : Allowed t) :
    (patch s t).data.length = t.data.length := by
  unfold patch
  split
  · rename_i h5
    refine length_storeAll (.of_extents (l := [(3, 1), (5, 6), (11, 4), (15, 4)]) ?_ ?_)
    · simp [extent]
    · rw [h.parameters h5]
      decide
  · rfl

lemma emit_eq (s : State) {t : Tlv} (h : Allowed t) :
    emit s t = if kept t then (patch s t).encode else [] := by
  have hlength := length_data_patch s h
  unfold emit
  by_cases hdrop : t.type = 20 ∨ t.type = 24
  · have hkept : ¬kept t = true := by
      rcases hdrop with h | h <;> simp [kept, h]
    rw [if_pos hdrop, if_neg hkept]
  · have hkept : kept t = true := by simpa [kept] using hdrop
    rw [if_neg hdrop, if_pos hkept, Tlv.encode, hlength, type_patch]
    unfold patch
    grind

lemma body_eq (s : State) (h : valid tlvs = true) : body s tlvs = Tlv.encodeAll (sent s tlvs) := by
  obtain ⟨-, hbytes, hts⟩ := tlvs_of_valid h
  have hfold : ∀ (ts : List Tlv) (bytes : Bytes), (∀ t ∈ ts, Allowed t) →
      ts.foldlM (fun bytes t => (.ok (bytes ++ emit s t) : Except Unit Bytes)) bytes =
        .ok (bytes ++ Tlv.encodeAll ((ts.filter kept).map (patch s))) := by
    intro ts
    induction ts with
    | nil => exact fun bytes _ => by simp [pure, Except.pure]
    | cons t ts ih =>
      intro bytes hts
      have ih := ih (bytes ++ emit s t) fun u hu => hts u (List.mem_cons_of_mem _ hu)
      refine ih.trans ?_
      rw [emit_eq s (hts t List.mem_cons_self)]
      by_cases hkept : kept t = true
      · grind [Tlv.encodeAll_cons]
      · rw [if_neg hkept, List.filter_cons_of_neg hkept, List.append_nil]
  have hloop := @TlvCursor.forEach_encodeAll _ Unit
    (fun bytes t => .ok (bytes ++ emit s t)) _ (fun t ht => (hts t ht).1) _
    (Tlv.length_le_encodeAll (tlvsOf tlvs)) []
  rw [← hbytes, hfold _ _ fun t ht => (hts t ht).2] at hloop
  unfold body
  rw [hloop]
  rfl

lemma length_sent_le (s : State) (h : valid tlvs = true) :
    (Tlv.encodeAll (sent s tlvs)).length ≤ tlvs.length := by
  obtain ⟨-, hbytes, hts⟩ := tlvs_of_valid h
  have hle : ∀ ts : List Tlv, (∀ t ∈ ts, Allowed t) →
      (Tlv.encodeAll ((ts.filter kept).map (patch s))).length ≤ (Tlv.encodeAll ts).length := by
    intro ts
    induction ts with
    | nil => exact fun _ => le_rfl
    | cons t ts ih =>
      intro hts
      have ih := ih fun u hu => hts u (List.mem_cons_of_mem _ hu)
      have hsame := length_data_patch s (hts t List.mem_cons_self)
      rw [Tlv.encodeAll_cons, List.length_append, Tlv.length_encode]
      by_cases hkept : kept t = true
      · grind [Tlv.encodeAll_cons, Tlv.length_encode]
      · rw [List.filter_cons_of_neg hkept]
        omega
  calc (Tlv.encodeAll (sent s tlvs)).length
      ≤ (Tlv.encodeAll (tlvsOf tlvs)).length := hle _ fun t ht => (hts t ht).2
    _ = tlvs.length := by rw [← hbytes]

lemma late_of_mem_sent {s : State} (h : valid tlvs = true) {t : Tlv}
    (ht : t ∈ sent s tlvs) : t.Late := by
  obtain ⟨-, -, hts⟩ := tlvs_of_valid h
  obtain ⟨u, hu, rfl⟩ := List.mem_map.mp ht
  obtain ⟨hmem, hkept⟩ := List.mem_filter.mp hu
  obtain ⟨h4, h18⟩ := (hts u hmem).2.timing
  have h24 : u.type ≠ 24 := by
    rintro htype
    simp [kept, htype] at hkept
  rw [Tlv.Late, type_patch]
  exact ⟨h4, h18, h24⟩

lemma soleVersion_sent (s : State) (tlvs : Bytes) :
    soleVersion (sent s tlvs) = soleVersion (tlvsOf tlvs) := by
  have hsame : (sent s tlvs).filter (·.type == 21) = (tlvsOf tlvs).filter (·.type == 21) := by
    unfold sent
    induction tlvsOf tlvs with
    | nil => rfl
    | cons t ts ih =>
      by_cases hversion : t.type = 21
      · have hkept : kept t = true := by simp [kept, hversion]
        grind [patch]
      · have hskip : (t :: ts).filter (·.type == 21) = ts.filter (·.type == 21) :=
          List.filter_cons_of_neg (by simp [hversion])
        rw [hskip, ← ih]
        by_cases hkept : kept t = true
        · grind [type_patch]
        · rw [List.filter_cons_of_neg hkept]
  unfold soleVersion
  rw [hsame]

lemma parts_of_build {s : State} {native : TxTemplate} {capacity now : ℕ} {wire : UInt32}
    {subtype : UInt8} {frame : Bytes}
    (h : (build s native capacity now wire subtype).1 = some frame) :
    valid native.tlvs = true ∧ synchronizationLength s + (body s native.tlvs).length ≤ capacity ∧
      ∃ clock, (buildSynchronization s capacity now wire wire subtype).1 = some clock ∧
        frame = clock ++ body s native.tlvs := by
  unfold build at h
  split at h
  · cases h.symm
  rename_i hvalid
  split at h
  · cases h.symm
  rename_i hcapacity
  rw [Bool.not_eq_true, Bool.not_eq_false'] at hvalid
  refine ⟨hvalid, not_lt.mp hcapacity, ?_⟩
  -- the election state of the template is read after the frame number was taken
  have hstate : body (buildSynchronization s capacity now wire wire subtype).2 native.tlvs =
      body s native.tlvs := by
    unfold buildSynchronization
    split <;> rfl
  grind

lemma state_of_build_none {s : State} {native : TxTemplate} {capacity now : ℕ} {wire : UInt32}
    {subtype : UInt8} (h : (build s native capacity now wire subtype).1 = none) :
    (build s native capacity now wire subtype).2 = s := by
  have hstate : (buildSynchronization s capacity now wire wire subtype).1 = none →
      (buildSynchronization s capacity now wire wire subtype).2 = s := by
    grind [buildSynchronization]
  unfold build at h ⊢
  grind

/-- **What is sent is accepted.** A native frame fits its buffer and the size of an action body, and
is the synchronization frame of the engine followed by the native TLVs. A receiver reads it as
what the synchronization frame alone says, provided the template has at most one version TLV,
of at least two bytes, and refuses it otherwise. Nothing is sent, and no frame number used, if the
build fails. -/
theorem parseAdvertisement_build {s : State} (h : Reachable s) (native : TxTemplate)
    (capacity now : ℕ) (wire : UInt32) (subtype : UInt8) :
    ((build s native capacity now wire subtype).1 = none →
      (build s native capacity now wire subtype).2 = s) ∧
    ∀ frame, (build s native capacity now wire subtype).1 = some frame →
      frame.length ≤ capacity ∧ frame.length - 24 ≤ 4096 ∧
      native.tlvs = Tlv.encodeAll (tlvsOf native.tlvs) ∧
      ∃ clock, (buildSynchronization s capacity now wire wire subtype).1 = some clock ∧
        frame = clock ++ Tlv.encodeAll (sent s native.tlvs) ∧
        parseAdvertisement clock = some (s.advertised now) ∧
        parseAdvertisement frame =
          if soleVersion (tlvsOf native.tlvs) then parseAdvertisement clock else none := by
  refine ⟨state_of_build_none, fun frame hframe => ?_⟩
  have hinv := h.inv
  obtain ⟨hvalid, hcapacity, clock, hclock, rfl⟩ := parts_of_build hframe
  obtain ⟨hshort, hbytes, -⟩ := tlvs_of_valid hvalid
  have hsync := syncFrame_of_buildSynchronization hinv hclock
  obtain ⟨-, hsub⟩ := buildSynchronization_caller hinv hclock
  obtain ⟨m, hm, -, -, -, -, -, -, -, -, -, -, -, -, -, -, -, -, hversion⟩ :=
    hsync.decodeSyncBody hinv hsub
  have hparse := hsync.parseAdvertisement hinv hsub
  have hbody := body_eq s hvalid
  have hlength : (clock ++ Tlv.encodeAll (sent s native.tlvs)).length =
      141 + (Tlv.encodeAll (sent s native.tlvs)).length := by
    rw [List.length_append, hsync.length_eq]
  have hsent := length_sent_le s hvalid
  rw [hbody, synchronizationLength_eq hinv] at hcapacity
  rw [hbody]
  refine ⟨by omega, by omega, hbytes, clock, hclock, rfl, hparse, ?_⟩
  rw [parseAdvertisement_append hparse hm hversion (fun t ht => late_of_mem_sent hvalid ht)
    (by omega), soleVersion_sent, hparse]

/-- A native body with the given TLVs. -/
def template (ts : List Tlv) : TxTemplate := ⟨sampleHead ++ Tlv.encodeAll ts⟩

/-- A version and election parameters go out behind the clock of station A, which follows B. -/
theorem parseAdvertisement_build_followerB :
    ∃ frame, (build followerB (template [⟨21, [0x20, 1]⟩, ⟨5, List.replicate 21 0⟩]) 4096 170000
        7 3).1 = some frame ∧ parseAdvertisement frame = some (followerB.advertised 170000) := by
  obtain ⟨frame, hframe⟩ : ∃ frame, (build followerB
      (template [⟨21, [0x20, 1]⟩, ⟨5, List.replicate 21 0⟩]) 4096 170000 7 3).1 = some frame :=
    Option.isSome_iff_exists.mp (by decide +kernel)
  obtain ⟨-, -, -, clock, -, -, hclock, hparse⟩ := (parseAdvertisement_build
    followerB_reachable.reachable (template [⟨21, [0x20, 1]⟩, ⟨5, List.replicate 21 0⟩]) 4096 170000
    7 3).2 frame hframe
  rw [if_pos (by decide +kernel), hclock] at hparse
  exact ⟨frame, hframe, hparse⟩

/-- A template with two version TLVs passes the check, and its frames are refused. -/
theorem build_twoVersions_refused :
    Reachable followerB ∧ followerB.radioScheduleReady = true ∧
      valid (template [⟨21, [0x20, 1]⟩, ⟨21, [0x20, 1]⟩]).tlvs = true ∧
      ((build followerB (template [⟨21, [0x20, 1]⟩, ⟨21, [0x20, 1]⟩]) 4096 170000 7 3).1.map
        parseAdvertisement) = some none :=
  ⟨followerB_reachable.reachable, by decide +kernel, by decide +kernel, by decide +kernel⟩

end Native.NativeAction

end AirportAwdl
