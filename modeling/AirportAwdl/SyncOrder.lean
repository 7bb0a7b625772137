import AirportAwdl.Lib.SetOnce
import AirportAwdl.Sync
import AirportAwdl.Tlvs

/-!
# The order of TLVs does not matter

`decodeSyncAction` is one pass over the TLVs with an early return for every bad or repeated TLV.
Each of its handlers fills one field of the record under construction, at most once, from the data
of its TLV alone (`toOption_scanTlv`). What is accepted therefore depends on the multiset of TLVs
with a handler, and on nothing else after the fixed part of the body (`decodeSyncBody_of_tlvs`).
-/

namespace AirportAwdl

open ByteBuffer SetOnce

lemma eq_ok_of_toOption {ε α : Type} {e : Except ε α} {a : α} (h : e.toOption = some a) :
    e = .ok a := by
  cases e with
  | error _ => cases h.symm
  | ok b => exact congrArg Except.ok (Option.some.inj h)

lemma toOption_foldlM {ε σ α : Type} (step : σ → α → Except ε σ) (l : List α) (s : σ) :
    (l.foldlM step s).toOption = l.foldl (advance fun s a => (step s a).toOption) (some s) := by
  induction l generalizing s with
  | nil => rfl
  | cons a l ih =>
    rw [List.foldlM_cons, List.foldl_cons]
    cases hstep : step s a with
    | error e =>
      show none = l.foldl _ ((step s a).toOption)
      rw [hstep]
      exact (foldl_none _ l).symm
    | ok s' =>
      show (l.foldlM step s').toOption = l.foldl _ ((step s a).toOption)
      rw [hstep]
      exact ih s'

/-- What the handlers fill. -/
inductive SyncField where
  | clock | sequence | election | version
deriving DecidableEq, Repr

namespace SyncField

@[reducible] def Value : SyncField → Type
  -- the data of TLV 4 and its channel list, if it has one
  | clock => Bytes × Option ChannelSequence
  | sequence => ChannelSequence
  | election | version => Bytes

/-- The field in the record under construction. -/
def slot : (f : SyncField) → Slot SyncScan f.Value
  | clock => {
      isSet := fun s => s.haveSync
      put := fun x s => { s with
        decoded := { s.decoded with
          nextChannel := byteAt x.1 0
          countdownTu := le16 x.1 1
          masterChannel := byteAt x.1 3
          guardTu := byteAt x.1 4
          periodTu := le16 x.1 5
          actionPeriodTu := le16 x.1 7
          commonTu := le16 x.1 13
          remainingTu := le16 x.1 15
          syncMaster := macAt x.1 21
          master := macAt x.1 21
          presence := byteAt x.1 27
          counter := le16 x.1 29
          apAlignment := le16 x.1 31 }
        haveSync := true
        embedded := x.2.getD s.embedded
        haveEmbedded := x.2.isSome || s.haveEmbedded }
      isSet_put := fun _ _ => rfl }
  | sequence => {
      isSet := fun s => s.haveSequence
      put := fun c s => { s with decoded := { s.decoded with sequence := c }, haveSequence := true }
      isSet_put := fun _ _ => rfl }
  | election => {
      isSet := fun s => s.decoded.electionPresent
      put := fun p s => { s with
        decoded := { s.decoded with
          electionPresent := true
          syncAddress := macAt p 6
          masterCounter := le32 p 12
          height := le32 p 16
          masterMetric := le32 p 20
          selfMetric := le32 p 24
          selfCounter := le32 p 36 }
        electedMaster := macAt p 0 }
      isSet_put := fun _ _ => rfl }
  | version => {
      isSet := fun s => s.decoded.versionPresent
      put := fun p s => { s with decoded := { s.decoded with
        versionPresent := true, version := byteAt p 0, deviceClass := byteAt p 1 } }
      isSet_put := fun _ _ => rfl }

lemma independent {f g : SyncField} (h : f ≠ g) : f.slot.Independent g.slot := by
  cases f <;> cases g <;> first
    | exact absurd rfl h
    | exact ⟨fun _ _ => rfl, fun _ _ => rfl, fun _ _ _ => rfl⟩

/-- The value that a handler takes from the data of its TLV. -/
def read : (f : SyncField) → Bytes → Option f.Value
  | clock, p => (scanSync { decoded := {} } p).toOption.map fun s =>
      (p, if s.haveEmbedded then some s.embedded else none)
  | sequence, p => (decodeChannelSequence p).toOption
  | election, p =>
    if p.length < 40 ∨ !unicast (macAt p 0) ∨ !unicast (macAt p 6) then none else some p
  | version, p => if p.length < 2 then none else some p

end SyncField

/-- The field that a TLV fills. -/
def Tlv.field (t : Tlv) : Option SyncField :=
  if t.type = 4 then some .clock
  else if t.type = 18 then some .sequence
  else if t.type = 24 then some .election
  else if t.type = 21 then some .version
  else none

/-- TLVs with a handler: types 4, 18, 21 and 24. -/
def Tlv.decoded (t : Tlv) : Bool := t.field.isSome

lemma toOption_scanSync (s : SyncScan) (p : Bytes) :
    (scanSync s p).toOption = SyncField.clock.slot.fill (SyncField.clock.read p) s := by
  show _ = if s.haveSync then none else _
  by_cases hset : s.haveSync = true
  · rw [if_pos hset, scanSync, if_pos (.inl hset)]
    rfl
  rw [if_neg hset, SyncField.read]
  unfold scanSync
  by_cases hshort : p.length < 33
  · rw [if_pos (.inr hshort), if_pos (.inr hshort)]
    rfl
  rw [if_neg (not_or.mpr ⟨hset, hshort⟩), if_neg (not_or.mpr ⟨Bool.false_ne_true, hshort⟩)]
  dsimp only
  -- the checks look at the data of the TLV only
  split
  · rfl
  split
  · rfl
  split
  · split <;> rfl
  · rfl

lemma toOption_scanSequence (s : SyncScan) (p : Bytes) :
    (scanSequence s p).toOption = SyncField.sequence.slot.fill (SyncField.sequence.read p) s := by
  show _ = if s.haveSequence then none else (decodeChannelSequence p).toOption.map _
  unfold scanSequence
  split
  · rfl
  · cases decodeChannelSequence p with
    | error e => rfl
    | ok c => rfl

lemma toOption_scanElection (s : SyncScan) (p : Bytes) :
    (scanElection s p).toOption = SyncField.election.slot.fill (SyncField.election.read p) s := by
  show _ = if s.decoded.electionPresent then none else _
  by_cases hset : s.decoded.electionPresent = true
  · rw [if_pos hset, scanElection, if_pos (.inl hset)]
    rfl
  rw [if_neg hset, SyncField.read]
  unfold scanElection
  by_cases hshort : p.length < 40
  · rw [if_pos (.inr hshort), if_pos (.inl hshort)]
    rfl
  rw [if_neg (not_or.mpr ⟨hset, hshort⟩)]
  by_cases haddress : (!unicast (macAt p 0)) = true ∨ (!unicast (macAt p 6)) = true
  · rw [if_pos haddress, if_pos (.inr haddress)]
    rfl
  · rw [if_neg haddress, if_neg (not_or.mpr ⟨hshort, haddress⟩)]
    rfl

lemma toOption_scanVersion (s : SyncScan) (p : Bytes) :
    (scanVersion s p).toOption = SyncField.version.slot.fill (SyncField.version.read p) s := by
  show _ = if s.decoded.versionPresent then none else _
  by_cases hset : s.decoded.versionPresent = true
  · rw [if_pos hset, scanVersion, if_pos (.inl hset)]
    rfl
  rw [if_neg hset, SyncField.read]
  unfold scanVersion
  by_cases hshort : p.length < 2
  · rw [if_pos (.inr hshort), if_pos hshort]
    rfl
  · rw [if_neg (not_or.mpr ⟨hset, hshort⟩), if_neg hshort]
    rfl

lemma toOption_scanTlv (s : SyncScan) (t : Tlv) :
    (scanTlv s t).toOption = match t.field with
      | none => some s
      | some f => f.slot.fill (f.read t.data) s := by
  unfold scanTlv Tlv.field
  split_ifs
  · exact toOption_scanSync s t.data
  · exact toOption_scanSequence s t.data
  · exact toOption_scanElection s t.data
  · exact toOption_scanVersion s t.data
  · rfl

lemma scanTlv_comm (s : SyncScan) (t u : Tlv) :
    (scanTlv s t).toOption.bind (fun s => (scanTlv s u).toOption) =
      (scanTlv s u).toOption.bind (fun s => (scanTlv s t).toOption) := by
  simp only [toOption_scanTlv]
  cases ht : t.field with
  | none => cases u.field with
    | none => rfl
    | some g => exact (Option.bind_fun_some _).symm
  | some f => cases hu : u.field with
    | none => exact Option.bind_fun_some _
    | some g =>
      by_cases hfg : f = g
      · subst hfg
        exact (f.slot.fill_twice _ _ s).trans (f.slot.fill_twice _ _ s).symm
      · exact Slot.fill_comm (SyncField.independent hfg) _ _ s

lemma foldlM_scanTlv {ts us : List Tlv} (h : (us.filter Tlv.decoded).Perm (ts.filter Tlv.decoded))
    {s s' : SyncScan} (hok : ts.foldlM scanTlv s = .ok s') : us.foldlM scanTlv s = .ok s' := by
  have hskip : ∀ s t, Tlv.decoded t = false → (scanTlv s t).toOption = some s := by
    intro s t ht
    have hfield : t.field = none := by simpa [Tlv.decoded] using ht
    rw [toOption_scanTlv, hfield]
  have hsame : us.foldl (advance fun s t => (scanTlv s t).toOption) (some s) =
      ts.foldl (advance fun s t => (scanTlv s t).toOption) (some s) := by
    rw [foldl_filter hskip us, foldl_filter hskip ts]
    exact foldl_perm scanTlv_comm h _
  rw [← toOption_foldlM, ← toOption_foldlM, hok] at hsame
  exact eq_ok_of_toOption hsame

/-- The fixed part of an action body that is looked at further. -/
structure Enveloped (body : Bytes) : Prop where
  size : 16 ≤ body.length ∧ body.length ≤ 4096
  vendor : byteAt body 0 = 127 ∧ byteAt body 1 = 0 ∧ byteAt body 2 = 0x17 ∧
    byteAt body 3 = 0xf2 ∧ byteAt body 4 = 8
  version : byteAt body 5 = 0x10
  subtype : byteAt body 6 = 0 ∨ byteAt body 6 = 3

/-- The record before the first TLV. -/
def SyncScan.start (body : Bytes) : SyncScan where
  decoded := { subtype := byteAt body 6, phyTxTime := le32 body 8, targetTxTime := le32 body 12 }

/-- The TLVs of an action body, as the cursor reads them. -/
def actionTlvs (body : Bytes) : List Tlv :=
  TlvCursor.readAll (body.drop 16).length { bytes := body.drop 16 }

lemma foldlM_countTlv (ts : List Tlv) (parsed : ActionInfo) :
    ∃ info, ts.foldlM countTlv parsed = .ok info ∧ info.version = parsed.version ∧
      info.subtype = parsed.subtype := by
  induction ts generalizing parsed with
  | nil => exact ⟨parsed, rfl, rfl, rfl⟩
  | cons t ts ih => exact ih _

variable {body : Bytes}

lemma parseAction_of_tlvs (h : Enveloped body) {ts : List Tlv}
    (hsized : ∀ t ∈ ts, t.Sized) (hts : body.drop 16 = Tlv.encodeAll ts) :
    ∃ info, parseAction body = (.valid, info) ∧ info.version = 0x10 ∧
      info.subtype = byteAt body 6 := by
  obtain ⟨info, hfold, hversion, hsubtype⟩ :=
    foldlM_countTlv ts { version := byteAt body 5, subtype := byteAt body 6 }
  refine ⟨info, ?_, by rw [hversion, h.version], hsubtype⟩
  have hloop := @TlvCursor.forEach_encodeAll _ _ countTlv _ hsized _ (Tlv.length_le_encodeAll ts)
  obtain ⟨hlo, hhi⟩ := h.size
  obtain ⟨h0, h1, h2, h3, h4⟩ := h.vendor
  have hne : ¬(body.length < 16 ∨ body.length > 4096 ∨ byteAt body 5 = 0) := by
    grind [h.version]
  unfold parseAction
  rw [if_neg (by simp [h0, h1, h2, h3, h4]; omega), if_neg hne]
  dsimp only
  rw [hts, hloop, hfold]
  rfl

lemma tlvs_of_parseAction {info : ActionInfo}
    (h : parseAction body = (.valid, info)) (hversion : info.version = 0x10)
    (hsubtype : info.subtype = 0 ∨ info.subtype = 3) :
    Enveloped body ∧ info.subtype = byteAt body 6 ∧ body.drop 16 = Tlv.encodeAll (actionTlvs body) ∧
      ∀ t ∈ actionTlvs body, t.Sized := by
  unfold parseAction at h
  split at h
  · simp at h
  rename_i hvendor
  split at h
  · simp at h
  rename_i hsize
  simp only [not_or, not_lt, ne_eq, not_not] at hvendor hsize
  dsimp only at h
  split at h
  · rename_i hloop
    grind
  · rename_i parsed cursor hloop
    split at h
    · simp at h
    rename_i hend
    simp only [Prod.mk.injEq, true_and] at h
    subst h
    obtain ⟨hall, hsized⟩ := TlvCursor.encodeAll_readAll
      (c := { bytes := body.drop 16 }) le_rfl rfl hloop (by simpa using hend)
    have hkept := TlvCursor.forEach_invariant
      (P := fun p => p.version = byteAt body 5 ∧ p.subtype = byteAt body 6)
      (fun p t p' hp hp' => by cases hp'; exact hp) _ _ _ _ _ ⟨rfl, rfl⟩ hloop
    rw [hkept.1] at hversion
    rw [hkept.2] at hsubtype
    exact ⟨⟨⟨hsize.1, hsize.2.1⟩, hvendor.2, hversion, hsubtype⟩, hkept.2, hall, hsized⟩

lemma decodeSyncBody_of_tlvs {ts : List Tlv} (h : Enveloped body)
    (hsized : ∀ t ∈ ts, t.Sized) (hts : body.drop 16 = Tlv.encodeAll ts) :
    decodeSyncBody body = (ts.foldlM scanTlv (.start body)).bind finishSync := by
  obtain ⟨info, hparse, hversion, hsubtype⟩ := parseAction_of_tlvs h hsized hts
  have hloop := @TlvCursor.forEach_encodeAll _ _ scanTlv _ hsized _ (Tlv.length_le_encodeAll ts)
  have hfine : ¬(info.version ≠ 0x10 ∨ (info.subtype ≠ 0 ∧ info.subtype ≠ 3)) := by
    grind [h.subtype]
  unfold decodeSyncBody
  rw [hparse]
  dsimp only
  rw [if_neg hfine, hsubtype, hts]
  unfold SyncScan.start at hloop ⊢
  rw [hloop]
  cases ts.foldlM scanTlv { decoded := {
      subtype := byteAt body 6, phyTxTime := le32 body 8, targetTxTime := le32 body 12 } } with
  | error e => rfl
  | ok s => rfl

lemma ok_of_decodeSyncBody {m : SyncMessage} (h : decodeSyncBody body = .ok m) :
    Enveloped body ∧ body.drop 16 = Tlv.encodeAll (actionTlvs body) ∧
      (∀ t ∈ actionTlvs body, t.Sized) ∧
      ∃ s, (actionTlvs body).foldlM scanTlv (.start body) = .ok s ∧ finishSync s = .ok m := by
  unfold decodeSyncBody at h
  split at h
  · cases h
  · cases h
  rename_i info hparse
  split at h
  · cases h
  rename_i hfine
  rw [not_or, not_not] at hfine
  obtain ⟨henveloped, hsubtype, hall, hsized⟩ :=
    tlvs_of_parseAction hparse hfine.1 (by have := hfine.2; tauto)
  refine ⟨henveloped, hall, hsized, ?_⟩
  have hloop := @TlvCursor.forEach_encodeAll _ _ scanTlv _ hsized _
    (Tlv.length_le_encodeAll (actionTlvs body)) (.start body)
  dsimp only at h
  rw [hsubtype, hall] at h
  unfold SyncScan.start at hloop ⊢
  rw [hloop] at h
  cases hscan : (actionTlvs body).foldlM scanTlv { decoded := {
      subtype := byteAt body 6, phyTxTime := le32 body 8, targetTxTime := le32 body 12 } } with
  | error e =>
    rw [hscan] at h
    exact absurd h (by simp [Except.map])
  | ok s =>
    rw [hscan] at h
    exact ⟨s, rfl, h⟩

/-- `body'` has the fixed part of `body`, the same TLVs with a handler in any order, and any other
TLVs anywhere. -/
def Rearranges (body body' : Bytes) : Prop :=
  ∃ ts, body' = body.take 16 ++ Tlv.encodeAll ts ∧
    (ts.filter Tlv.decoded).Perm ((actionTlvs body).filter Tlv.decoded)

lemma byteAt_take {b : Bytes} {n i : ℕ} (h : i < n) : byteAt (b.take n) i = byteAt b i := by
  simp only [byteAt, List.getD_eq_getElem?_getD, List.getElem?_take_of_lt h]

lemma Enveloped.replace (h : Enveloped body) {rest : Bytes}
    (hlength : (body.take 16 ++ rest).length ≤ 4096) :
    Enveloped (body.take 16 ++ rest) ∧
      SyncScan.start (body.take 16 ++ rest) = .start body ∧ (body.take 16 ++ rest).drop 16 = rest := by
  have hhead : (body.take 16).length = 16 := List.length_take_of_le h.size.1
  have hbyte : ∀ i < 16, byteAt (body.take 16 ++ rest) i = byteAt body i := by
    intro i hi
    rw [byteAt_append_left (by omega), byteAt_take hi]
  refine ⟨⟨⟨?_, hlength⟩, ?_, ?_, ?_⟩, ?_, List.drop_left' hhead⟩
  · rw [List.length_append]
    omega
  · grind [h.vendor]
  · rw [hbyte 5 (by decide)]
    exact h.version
  · rw [hbyte 6 (by decide)]
    exact h.subtype
  · have hword : ∀ i, i + 3 < 16 → le32 (body.take 16 ++ rest) i = le32 body i := by
      grind [le32, le16]
    grind [SyncScan.start]

lemma decodeSyncAction_valid {m : SyncMessage} :
    decodeSyncAction body = (.valid, m) ↔ decodeSyncBody body = .ok m := by
  unfold decodeSyncAction
  cases decodeSyncBody body with
  | error refusal => cases refusal <;> simp [SyncRefusal.status]
  | ok decoded => simp

/-- **The order of TLVs does not matter.** An accepted body is its fixed part followed by its TLVs.
Permute them, insert or remove any TLVs of types other than 4, 18, 21 and 24: a body of at most
4096 bytes that comes out is accepted with the same message. A body that is not accepted leaves a
zero record. -/
theorem decodeSyncAction_rearranges :
    (∀ body m, decodeSyncAction body = (.valid, m) → Rearranges body body ∧
      ∀ body', Rearranges body body' → body'.length ≤ 4096 →
        decodeSyncAction body' = (.valid, m)) ∧
    ∀ body, (decodeSyncAction body).1 ≠ .valid → (decodeSyncAction body).2 = {} := by
  refine ⟨fun body m hvalid => ?_, fun body hinvalid => ?_⟩
  · obtain ⟨henveloped, hall, -, s, hscan, hfinish⟩ :=
      ok_of_decodeSyncBody (decodeSyncAction_valid.mp hvalid)
    refine ⟨⟨actionTlvs body, ?_, .refl _⟩, fun body' hrearranges hlength => ?_⟩
    · rw [← hall, List.take_append_drop]
    obtain ⟨ts, rfl, hperm⟩ := hrearranges
    obtain ⟨henveloped', hstart, hrest⟩ := henveloped.replace hlength
    have hsized : ∀ t ∈ ts, t.Sized := by
      intro t ht
      refine Tlv.sized_of_mem ht ?_
      rw [List.length_append] at hlength
      omega
    have hscan' := foldlM_scanTlv hperm hscan
    rw [← hstart] at hscan'
    rw [decodeSyncAction_valid, decodeSyncBody_of_tlvs henveloped' hsized hrest, hscan']
    exact hfinish
  · unfold decodeSyncAction at hinvalid ⊢
    cases hdecoded : decodeSyncBody body with
    | error refusal => rfl
    | ok decoded =>
      rw [hdecoded] at hinvalid
      exact absurd rfl hinvalid

/-- The fixed part of an action body. -/
def sampleHead : Bytes := [127, 0, 0x17, 0xf2, 8, 0x10, 0, 0] ++ List.replicate 8 0

/-- A clock advertisement with its channel list. -/
def sampleClock : Tlv where
  type := 4
  data := List.replicate 5 0 ++ [16, 0, 16, 0] ++ List.replicate 12 0 ++ [2, 0, 0, 0, 0, 1, 1] ++
    List.replicate 5 0 ++ [15, 0, 0, 0, 255, 255] ++ List.replicate 16 6

/-- The version in front of the clock, and a TLV without a handler. -/
theorem decodeSyncAction_rearranges_sampleClock :
    let body := sampleHead ++ Tlv.encodeAll [sampleClock, ⟨21, [0x20, 1]⟩]
    let body' := sampleHead ++ Tlv.encodeAll [⟨21, [0x20, 1]⟩, ⟨7, [1]⟩, sampleClock]
    decodeSyncAction body = (.valid, (decodeSyncAction body).2) ∧
      decodeSyncAction body' = (.valid, (decodeSyncAction body).2) := by
  intro body body'
  have hvalid : decodeSyncAction body = (.valid, (decodeSyncAction body).2) := by decide +kernel
  have hhead : body.take 16 = sampleHead := by decide +kernel
  have htlvs : (actionTlvs body).filter Tlv.decoded = [sampleClock, ⟨21, [0x20, 1]⟩] := by
    decide +kernel
  have hrearranges : Rearranges body body' := by
    refine ⟨[⟨21, [0x20, 1]⟩, ⟨7, [1]⟩, sampleClock], by rw [hhead], ?_⟩
    rw [htlvs]
    exact List.Perm.swap _ _ []
  exact ⟨hvalid, (decodeSyncAction_rearranges.1 body _ hvalid).2 body' hrearranges
    (by decide +kernel)⟩

end AirportAwdl
