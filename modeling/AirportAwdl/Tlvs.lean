import AirportAwdl.Frame

/-!
# Lists of TLVs

The cursor's view of a byte string as a list of TLVs: `encodeAll` writes a list, `readAll` is what
the cursor reads. A loop over the bytes of a list is a fold over the list (`forEach_encodeAll`),
and bytes that the cursor reads to their end are the bytes of the list it read
(`encodeAll_readAll`).
-/

namespace AirportAwdl

open ByteBuffer

namespace Tlv

/-- A TLV as it stands in an action body. -/
def encode (t : Tlv) : Bytes := [t.type] ++ put16 (UInt16.ofNat t.data.length) ++ t.data

def encodeAll (ts : List Tlv) : Bytes := ts.flatMap encode

/-- The length of the data fits its field. -/
def Sized (t : Tlv) : Prop := t.data.length < 65536

/-- The bytes are a concatenation of TLVs. -/
def IsList (b : Bytes) : Prop := ∃ ts : List Tlv, (∀ t ∈ ts, t.Sized) ∧ b = encodeAll ts

lemma length_encode (t : Tlv) : t.encode.length = 3 + t.data.length := by
  simp [encode]
  omega

@[simp] lemma encodeAll_nil : encodeAll [] = [] := rfl

@[simp] lemma encodeAll_cons (t : Tlv) (ts : List Tlv) :
    encodeAll (t :: ts) = t.encode ++ encodeAll ts := rfl

lemma encodeAll_append (ts us : List Tlv) : encodeAll (ts ++ us) = encodeAll ts ++ encodeAll us :=
  List.flatMap_append

lemma length_le_encodeAll (ts : List Tlv) : ts.length ≤ (encodeAll ts).length := by
  induction ts with
  | nil => exact le_rfl
  | cons t ts ih =>
    rw [encodeAll_cons, List.length_cons, List.length_append, length_encode]
    omega

lemma sized_of_mem {ts : List Tlv} {t : Tlv} (h : t ∈ ts) (hlength : (encodeAll ts).length < 65536) :
    t.Sized := by
  induction ts with
  | nil => exact absurd h List.not_mem_nil
  | cons u us ih =>
    rw [encodeAll_cons, List.length_append, length_encode] at hlength
    rcases List.mem_cons.mp h with rfl | hmem
    · show t.data.length < 65536
      omega
    · exact ih hmem (by omega)

lemma le16_encode {t : Tlv} (h : t.Sized) (rest : Bytes) :
    (le16 (t.encode ++ rest) 1).toNat = t.data.length := by
  have hvalue : le16 (t.encode ++ rest) 1 = UInt16.ofNat t.data.length :=
    le16_eq_of_bytes rfl rfl
  rw [hvalue, UInt16.toNat_ofNat']
  exact Nat.mod_eq_of_lt h

end Tlv

namespace TlvCursor

/-- The TLVs that the cursor reads. -/
def readAll : ℕ → TlvCursor → List Tlv
  | 0, _ => []
  | fuel + 1, c =>
    match c.next with
    | (none, _) => []
    | (some t, c') => t :: readAll fuel c'

lemma next_encode {t : Tlv} (h : t.Sized) (rest : Bytes) :
    next ⟨t.encode ++ rest, false⟩ = (some t, ⟨rest, false⟩) := by
  have hlength := t.length_encode
  have hfit : 3 + t.data.length ≤ (t.encode ++ rest).length := by
    rw [List.length_append]
    omega
  have hnext := next_of_fits (c := ⟨t.encode ++ rest, false⟩) rfl (t.le16_encode h rest) hfit
  have hdata : slice (t.encode ++ rest) 3 t.data.length = t.data := List.take_left' rfl
  have hrest : (t.encode ++ rest).drop (3 + t.data.length) = rest := List.drop_left' hlength
  rw [hnext, hdata, hrest]
  rfl

lemma encode_of_next {c c' : TlvCursor} {t : Tlv} (h : c.next = (some t, c')) :
    t.Sized ∧ c.bytes = t.encode ++ c'.bytes := by
  unfold next at h
  split at h
  · simp at h
  split at h
  · simp at h
  rename_i hthree
  dsimp only at h
  split at h
  · simp at h
  rename_i hfit
  simp only [Prod.mk.injEq, Option.some.injEq] at h
  obtain ⟨rfl, rfl⟩ := h
  have hlt := (le16 c.bytes 1).toNat_lt
  have hdata : (slice c.bytes 3 (le16 c.bytes 1).toNat).length = (le16 c.bytes 1).toNat :=
    length_slice (by omega)
  refine ⟨by rw [Tlv.Sized, hdata]; exact hlt, ?_⟩
  -- the three bytes of the header, the data and the rest make up the bytes
  have hheader : c.bytes.take 3 = [byteAt c.bytes 0] ++ put16 (le16 c.bytes 1) := by
    rw [put16_le16, take_eq_map (by omega)]
    rfl
  rw [Tlv.encode, hdata, UInt16.ofNat_toNat, ← hheader, List.append_assoc]
  show c.bytes = c.bytes.take 3 ++ ((c.bytes.drop 3).take _ ++ c.bytes.drop (3 + _))
  rw [← List.drop_drop, List.take_append_drop, List.take_append_drop]

variable {σ ε : Type} {body : σ → Tlv → Except ε σ}

lemma forEach_encodeAll {ts : List Tlv} (hsized : ∀ t ∈ ts, t.Sized) {fuel : ℕ}
    (hfuel : ts.length ≤ fuel) (s : σ) :
    forEach body fuel ⟨Tlv.encodeAll ts, false⟩ s =
      (ts.foldlM body s).map fun s => (s, ⟨[], false⟩) := by
  induction ts generalizing fuel s with
  | nil =>
    cases fuel with
    | zero => rfl
    | succ fuel =>
      rw [forEach, next_nil _ rfl]
      rfl
  | cons t ts ih =>
    cases fuel with
    | zero => simp at hfuel
    | succ fuel =>
      have hnext := next_encode (hsized t (by simp)) (Tlv.encodeAll ts)
      rw [Tlv.encodeAll_cons, forEach, hnext, List.foldlM_cons]
      dsimp only
      cases hbody : body s t with
      | error e => rfl
      | ok s' => exact ih (fun u hu => hsized u (by simp [hu])) (by simpa using hfuel) s'

lemma encodeAll_readAll {fuel : ℕ} {c c' : TlvCursor} {s s' : σ} (hfuel : c.bytes.length ≤ fuel)
    (hc : c.malformed = false) (h : forEach body fuel c s = .ok (s', c'))
    (hc' : c'.malformed = false) :
    c.bytes = Tlv.encodeAll (readAll fuel c) ∧ ∀ t ∈ readAll fuel c, t.Sized := by
  induction fuel generalizing c s with
  | zero =>
    have hnil : c.bytes = [] := List.eq_nil_of_length_eq_zero (by omega)
    exact ⟨by rw [hnil]; rfl, by simp [readAll]⟩
  | succ fuel ih =>
    rw [forEach] at h
    rw [readAll]
    cases hnext : c.next with
    | mk found rest =>
      rw [hnext] at h
      cases found with
      | none =>
        simp only [Except.ok.injEq, Prod.mk.injEq] at h
        obtain ⟨-, rfl⟩ := h
        refine ⟨?_, by simp⟩
        -- a cursor that stopped without a failure was at the end
        unfold next at hnext
        split at hnext
        · simp_all
        grind
      | some t =>
        obtain ⟨hsized, hbytes⟩ := encode_of_next hnext
        obtain ⟨-, hrest, -, hlength⟩ := next_some hnext
        dsimp only at h
        cases hbody : body s t with
        | error e => simp [hbody] at h
        | ok s₁ =>
          rw [hbody] at h
          obtain ⟨hall, hmem⟩ := ih (by omega) hrest h
          refine ⟨by rw [Tlv.encodeAll_cons, ← hall]; exact hbytes, fun u hu => ?_⟩
          grind

lemma forEach_total (g : σ → Tlv → σ) (fuel : ℕ) (c : TlvCursor) (s : σ) :
    ∃ s' c', forEach (fun s t => (.ok (g s t) : Except ε σ)) fuel c s = .ok (s', c') := by
  induction fuel generalizing c s with
  | zero => exact ⟨s, c, rfl⟩
  | succ fuel ih =>
    rw [forEach]
    cases hnext : c.next with
    | mk found rest =>
      cases found with
      | none => exact ⟨s, rest, rfl⟩
      | some t => exact ih rest (g s t)

lemma malformed_forEach_iff (g : σ → Tlv → σ) {b : Bytes} {c' : TlvCursor} {s s' : σ}
    (h : forEach (fun s t => (.ok (g s t) : Except ε σ)) b.length ⟨b, false⟩ s = .ok (s', c')) :
    c'.malformed = false ↔ Tlv.IsList b := by
  constructor
  · intro hc'
    have hread := encodeAll_readAll (c := ⟨b, false⟩) le_rfl rfl h hc'
    exact ⟨_, hread.2, hread.1⟩
  · rintro ⟨ts, hsized, rfl⟩
    have hfold : ∀ (ts : List Tlv) (s : σ),
        ts.foldlM (fun s t => (.ok (g s t) : Except ε σ)) s = .ok (ts.foldl g s) := by
      intro ts
      induction ts with
      | nil => exact fun s => rfl
      | cons t ts ih => exact fun s => ih (g s t)
    have hloop := @forEach_encodeAll σ ε (fun s t => .ok (g s t)) ts hsized _
      (Tlv.length_le_encodeAll ts) s
    rw [h, hfold] at hloop
    rw [(Prod.mk.inj (Except.ok.inj hloop)).2]

end TlvCursor

end AirportAwdl
