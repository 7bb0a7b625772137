import AirportAwdl.Wcl.Join

/-!
# Information elements

The elements of a beacon or a probe response, as `WCL.hpp` handles them: an id, a length byte and
at most 255 bytes. `validIEs` accepts exactly the byte strings of up to 2048 bytes that are lists of
elements (`validIEs_iff`). An RSN element holds lists of cipher and key management suites.
-/

namespace AirportAwdl.Wcl

open ByteBuffer

/-- An information element. -/
structure Element where
  id : UInt8
  body : Bytes
  short : body.length < 256
deriving DecidableEq, Repr

namespace Element

def encode (e : Element) : Bytes := e.id :: UInt8.ofNat e.body.length :: e.body

def encodeAll (es : List Element) : Bytes := es.flatMap encode

@[simp] lemma length_encode (e : Element) : e.encode.length = e.body.length + 2 := rfl

@[simp] lemma encodeAll_nil : encodeAll [] = [] := rfl

@[simp] lemma encodeAll_cons (e : Element) (es : List Element) :
    encodeAll (e :: es) = e.encode ++ encodeAll es := rfl

lemma byteAt_encode_one (e : Element) : (byteAt e.encode 1).toNat = e.body.length := by
  show (UInt8.ofNat e.body.length).toNat = e.body.length
  rw [UInt8.toNat_ofNat']
  exact Nat.mod_eq_of_lt e.short

end Element

lemma validElements_iff {fuel : ℕ} {b : Bytes} (hfuel : b.length ≤ fuel) :
    validElements fuel b = true ↔ ∃ es, b = Element.encodeAll es := by
  induction fuel generalizing b with
  | zero =>
    obtain rfl : b = [] := List.eq_nil_of_length_eq_zero (by omega)
    exact ⟨fun _ => ⟨[], rfl⟩, fun _ => rfl⟩
  | succ fuel ih =>
    cases b with
    | nil => exact ⟨fun _ => ⟨[], rfl⟩, fun _ => rfl⟩
    | cons id rest => cases rest with
      | nil =>
        refine ⟨fun h => absurd h Bool.false_ne_true, ?_⟩
        rintro ⟨es, hes⟩
        -- no list of elements has one byte
        have hone := congrArg List.length hes
        cases es with
        | nil => simp at hone
        | cons e es =>
          grind [Element.encodeAll_cons, Element.length_encode]
      | cons length rest =>
        have hrest : (rest.drop length.toNat).length ≤ fuel := by
          grind
        rw [validElements, Bool.and_eq_true, ih hrest, decide_eq_true_eq]
        constructor
        · rintro ⟨hle, es, hes⟩
          have htake : (rest.take length.toNat).length = length.toNat := List.length_take_of_le hle
          refine ⟨⟨id, rest.take length.toNat, by rw [htake]; exact length.toNat_lt⟩ :: es, ?_⟩
          show id :: length :: rest = id :: UInt8.ofNat (rest.take length.toNat).length ::
            (rest.take length.toNat ++ Element.encodeAll es)
          rw [htake, UInt8.ofNat_toNat, ← hes, List.take_append_drop]
        · rintro ⟨es, hes⟩
          cases es with
          | nil => simp at hes
          | cons e es =>
            obtain ⟨-, hlength, hbytes⟩ : id = e.id ∧ length = UInt8.ofNat e.body.length ∧
                rest = e.body ++ Element.encodeAll es := by simpa [Element.encode] using hes
            have hsize : length.toNat = e.body.length := by
              rw [hlength, UInt8.toNat_ofNat']
              exact Nat.mod_eq_of_lt e.short
            grind

lemma validIEs_iff (b : Bytes) :
    validIEs b = true ↔ b.length ≤ 2048 ∧ ∃ es, b = Element.encodeAll es := by
  rw [validIEs, Bool.and_eq_true, decide_eq_true_eq, validElements_iff (le_refl _)]

/-- A suite selector: three bytes of an organization and a type. -/
structure Suite where
  oui₀ : UInt8
  oui₁ : UInt8
  oui₂ : UInt8
  type : UInt8
deriving DecidableEq, Repr

namespace Suite

def bytes (s : Suite) : Bytes := [s.oui₀, s.oui₁, s.oui₂, s.type]

/-- The suite at the offset `i`. -/
def readAt (b : Bytes) (i : ℕ) : Suite :=
  ⟨byteAt b i, byteAt b (i + 1), byteAt b (i + 2), byteAt b (i + 3)⟩

/-- 00-0F-AC:2 -/
def psk : Suite := ⟨0, 0x0f, 0xac, 2⟩

/-- 00-0F-AC:8 -/
def sae : Suite := ⟨0, 0x0f, 0xac, 8⟩

def encodeAll (suites : List Suite) : Bytes := suites.flatMap bytes

@[simp] lemma length_encodeAll (suites : List Suite) : (encodeAll suites).length = 4 * suites.length := by
  induction suites with
  | nil => rfl
  | cons s suites ih =>
    show (s.bytes ++ encodeAll suites).length = _
    rw [List.length_append, ih, List.length_cons]
    simp [bytes]
    omega

/-- The suites in a byte string, one after the other. -/
def decodeAll (b : Bytes) (off count : ℕ) : List Suite :=
  (List.range count).map fun i => readAt b (off + 4 * i)

lemma decodeAll_succ (b : Bytes) (off count : ℕ) :
    decodeAll b off (count + 1) = readAt b off :: decodeAll b (off + 4) count := by
  simp only [decodeAll, List.range_succ_eq_map, List.map_cons, List.map_map]
  refine congrArg₂ List.cons rfl (List.map_congr_left fun i _ => ?_)
  show readAt b (off + 4 * (i + 1)) = _
  congr 1
  ring

@[simp] lemma length_decodeAll (b : Bytes) (off count : ℕ) :
    (decodeAll b off count).length = count := by
  simp [decodeAll]

lemma encodeAll_decodeAll {b : Bytes} {off count : ℕ} (h : off + 4 * count ≤ b.length) :
    encodeAll (decodeAll b off count) = slice b off (4 * count) := by
  induction count generalizing off with
  | zero => simp [decodeAll, encodeAll, slice]
  | succ count ih =>
    have hfour : (b.drop off).take 4 = (readAt b off).bytes := by
      rw [take_eq_map (by rw [List.length_drop]; omega)]
      simp [List.range_succ, byteAt_drop, readAt, bytes]
    rw [decodeAll_succ]
    show (readAt b off).bytes ++ encodeAll (decodeAll b (off + 4) count) = _
    rw [ih (by omega), ← hfour, slice, slice, ← List.drop_drop, show 4 * (count + 1) = 4 + 4 * count by
      ring, List.take_add]

lemma decodeAll_encodeAll (before : Bytes) (suites : List Suite) (rest : Bytes) :
    decodeAll (before ++ encodeAll suites ++ rest) before.length suites.length = suites := by
  induction suites generalizing before with
  | nil => rfl
  | cons s suites ih =>
    have hsplit : before ++ encodeAll (s :: suites) ++ rest =
        (before ++ s.bytes) ++ encodeAll suites ++ rest := by
      show before ++ (s.bytes ++ encodeAll suites) ++ rest = _
      simp only [List.append_assoc]
    rw [List.length_cons, decodeAll_succ]
    congr 1
    · rw [hsplit, List.append_assoc, List.append_assoc]
      have hbyte : ∀ i, byteAt (before ++ (s.bytes ++ (encodeAll suites ++ rest))) (before.length + i) =
          byteAt (s.bytes ++ (encodeAll suites ++ rest)) i := fun i => by
        rw [byteAt_append_right (by omega), Nat.add_sub_cancel_left]
      have hbyte₀ := hbyte 0
      rw [Nat.add_zero] at hbyte₀
      rw [readAt, hbyte₀, hbyte 1, hbyte 2, hbyte 3]
      rfl
    · have ih := ih (before ++ s.bytes)
      rw [List.length_append] at ih
      rw [hsplit]
      exact ih

end Suite

/-- The fields of an RSN element of version 1 that has capabilities. -/
structure Rsn where
  group : Suite
  pairwise : List Suite
  akm : List Suite
  capabilities : UInt16
  rest : Bytes
deriving DecidableEq, Repr

namespace Rsn

/-- Everything in front of the key management suites. -/
def head (r : Rsn) : Bytes :=
  put16 1 ++ r.group.bytes ++ put16 (UInt16.ofNat r.pairwise.length) ++ Suite.encodeAll r.pairwise

/-- Everything behind them. -/
def tail (r : Rsn) : Bytes := put16 r.capabilities ++ r.rest

def encode (r : Rsn) : Bytes :=
  r.head ++ put16 (UInt16.ofNat r.akm.length) ++ Suite.encodeAll r.akm ++ r.tail

/-- The element holds these fields. -/
def Describes (r : Rsn) (e : Element) : Prop := e.id = 48 ∧ e.body = r.encode

/-- A network in transition from PSK to SAE: both are offered and nothing else, and protection of
management frames is possible but not required. -/
structure Transition (r : Rsn) : Prop where
  pairwise : r.pairwise ≠ []
  several : 2 ≤ r.akm.length
  only : ∀ suite ∈ r.akm, suite = .psk ∨ suite = .sae
  psk : Suite.psk ∈ r.akm
  sae : Suite.sae ∈ r.akm
  protection : r.capabilities &&& 0xc0 = 0x80

lemma length_head (r : Rsn) : r.head.length = 8 + 4 * r.pairwise.length := by
  simp [head, Suite.bytes]
  omega

lemma length_encode (r : Rsn) :
    r.encode.length = 12 + 4 * r.pairwise.length + 4 * r.akm.length + r.rest.length := by
  simp [encode, tail, length_head]
  omega

end Rsn

/-- What becomes of an element: one of a network in transition offers PSK alone, all others stay as
they are. -/
def Selects (e e' : Element) : Prop :=
  (∃ r : Rsn, r.Transition ∧ r.Describes e ∧ Rsn.Describes { r with akm := [.psk] } e') ∨
    (¬∃ r : Rsn, r.Transition ∧ r.Describes e) ∧ e' = e

end AirportAwdl.Wcl
