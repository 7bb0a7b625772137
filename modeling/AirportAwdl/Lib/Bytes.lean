import AirportAwdl.Lib.Table
import Mathlib.Tactic

/-!
# Byte buffers with little-endian fields

A buffer is a list of bytes together with a total read accessor `byteAt` and an
overwriting store `write`. The facts every codec proof needs are

* `byteAt_write`, which reads one byte through a store, and `byteAt_storeAll`, which
  does so through a list of disjoint stores;
* `le16_storeAll` and `le32_storeAll`, the round trips of the fixed-width fields.

Nothing here depends on a particular frame layout.
-/

namespace ByteBuffer

/-- A buffer of octets; its length is the number of readable bytes. -/
abbrev Bytes := List UInt8

/-- The byte at offset `i`, zero past the end. -/
def byteAt (b : Bytes) (i : ℕ) : UInt8 := b.getD i 0

/-- Overwrite `src.length` bytes of `b` starting at `off`. -/
def write (b : Bytes) (off : ℕ) (src : Bytes) : Bytes :=
  b.take off ++ src ++ b.drop (off + src.length)

/-- The `n` bytes of `b` starting at `off`. -/
def slice (b : Bytes) (off n : ℕ) : Bytes := (b.drop off).take n

variable {off n i : ℕ} {b src a : Bytes} {stores : List Store} {l : List (ℕ × ℕ)}

lemma length_write (h : off + src.length ≤ b.length) : (write b off src).length = b.length := by
  grind [write]

lemma byteAt_write (h : off + src.length ≤ b.length) (i : ℕ) : byteAt (write b off src) i =
      if off ≤ i ∧ i < off + src.length then byteAt src (i - off) else byteAt b i := by
  have htake : (b.take off).length = off := by
    rw [List.length_take]; omega
  simp only [byteAt, write, List.getD_eq_getElem?_getD]
  split
  · rename_i hin
    grind
  · rename_i hout
    by_cases hlo : i < off
    · rw [List.append_assoc, List.getElem?_append_left (by omega), List.getElem?_take_of_lt hlo]
    · rw [List.getElem?_append_right (by rw [List.length_append]; omega), List.length_append,
        htake, List.getElem?_drop]
      congr 2
      omega

lemma write_middle {a x src : Bytes} (ha : a.length = off) (hx : x.length = src.length)
    (c : Bytes) : write (a ++ (x ++ c)) off src = a ++ src ++ c := by
  have hdrop : (a ++ (x ++ c)).drop (off + src.length) = c := by
    grind
  rw [write, hdrop, List.take_left' ha]

lemma write_zero (b src : Bytes) : write b 0 src = src ++ b.drop src.length := by
  rw [write, List.take_zero, List.nil_append, Nat.zero_add]

lemma byteAt_replicate (n : ℕ) (v : UInt8) (i : ℕ) :
    byteAt (List.replicate n v) i = if i < n then v else 0 := by
  grind [byteAt]

lemma byteAt_drop (b : Bytes) (n i : ℕ) : byteAt (b.drop n) i = byteAt b (n + i) := by
  simp only [byteAt, List.getD_eq_getElem?_getD, List.getElem?_drop]

lemma byteAt_slice (hi : i < n) : byteAt (slice b off n) i = byteAt b (off + i) := by
  grind [byteAt, slice]

lemma length_slice (h : off + n ≤ b.length) : (slice b off n).length = n := by
  simp only [slice, List.length_take, List.length_drop]
  omega

lemma slice_drop (b : Bytes) (k off n : ℕ) : slice (b.drop k) off n = slice b (k + off) n := by
  rw [slice, slice, List.drop_drop]

lemma drop_slice (b : Bytes) (off n k : ℕ) : (slice b off n).drop k = slice b (off + k) (n - k) := by
  rw [slice, slice, List.drop_take, List.drop_drop]

lemma drop_eq_slice_append (b : Bytes) (i n : ℕ) : b.drop i = slice b i n ++ b.drop (i + n) := by
  rw [slice, ← List.drop_drop, List.take_append_drop]

lemma slice_append (a m rest : Bytes) (hi : i = a.length) (hn : n = m.length) :
    slice (a ++ (m ++ rest)) i n = m := by
  subst hi hn
  rw [slice, List.drop_left, List.take_left]

lemma byteAt_append_left (h : i < a.length) (b : Bytes) : byteAt (a ++ b) i = byteAt a i := by
  simp only [byteAt, List.getD_eq_getElem?_getD, List.getElem?_append_left h]

lemma byteAt_append_right (h : a.length ≤ i) (b : Bytes) :
    byteAt (a ++ b) i = byteAt b (i - a.length) := by
  simp only [byteAt, List.getD_eq_getElem?_getD, List.getElem?_append_right h]

lemma take_eq_map (h : n ≤ b.length) : b.take n = (List.range n).map (byteAt b) := by
  apply List.ext_getElem
  · grind
  · intro i hi hi'
    have hlt : i < b.length := by
      rw [List.length_take] at hi
      omega
    simp [byteAt, hlt]

/-- Bytes to be stored at an offset. -/
abbrev Store := ℕ × Bytes

/-- The stores of an encoder, in order. -/
def storeAll (b : Bytes) (stores : List Store) : Bytes :=
  stores.foldl (fun b st => write b st.1 st.2) b

/-- Every store lies inside a buffer of `n` bytes. -/
def Fits (n : ℕ) (stores : List Store) : Prop := ∀ st ∈ stores, st.1 + st.2.length ≤ n

/-- The two stores touch no common byte. -/
def Apart (a b : Store) : Prop := a.1 + a.2.length ≤ b.1 ∨ b.1 + b.2.length ≤ a.1

/-- Offset and length of a store. -/
def extent (st : Store) : ℕ × ℕ := (st.1, st.2.length)

lemma Fits.of_extents
    (h : stores.map extent = l) (hl : ∀ e ∈ l, e.1 + e.2 ≤ n) : Fits n stores := by
  subst h
  exact fun st hst => hl _ (List.mem_map_of_mem hst)

lemma Apart.of_extents (h : stores.map extent = l)
    (hl : l.Pairwise fun a b => a.1 + a.2 ≤ b.1 ∨ b.1 + b.2 ≤ a.1) : stores.Pairwise Apart := by
  subst h
  rw [List.pairwise_map] at hl
  exact hl

lemma length_storeAll (h : Fits b.length stores) : (storeAll b stores).length = b.length := by
  induction stores generalizing b with
  | nil => rfl
  | cons st rest ih =>
    obtain ⟨hst, hrest⟩ := List.forall_mem_cons.mp h
    have hlen := length_write hst
    rw [storeAll, List.foldl_cons, ← storeAll, ih (by rwa [hlen]), hlen]

lemma byteAt_storeAll_of_not_mem (h : Fits b.length stores)
    (hi : ∀ st ∈ stores, i < st.1 ∨ st.1 + st.2.length ≤ i) :
    byteAt (storeAll b stores) i = byteAt b i := by
  induction stores generalizing b with
  | nil => rfl
  | cons st rest ih =>
    obtain ⟨hst, hrest⟩ := List.forall_mem_cons.mp h
    obtain ⟨hout, hi'⟩ := List.forall_mem_cons.mp hi
    have hlen := length_write hst
    rw [storeAll, List.foldl_cons, ← storeAll, ih (by rwa [hlen]) hi', byteAt_write hst,
      if_neg (by omega)]

lemma byteAt_storeAll_of_extents (h : Fits b.length stores) (hl : stores.map extent = l)
    (hi : ∀ e ∈ l, i < e.1 ∨ e.1 + e.2 ≤ i) : byteAt (storeAll b stores) i = byteAt b i := by
  subst hl
  exact byteAt_storeAll_of_not_mem h fun st hst => hi _ (List.mem_map_of_mem hst)

lemma byteAt_storeAll (h : Fits b.length stores)
    (hd : stores.Pairwise Apart) (hmem : (off, src) ∈ stores)
    (hi : i < src.length) : byteAt (storeAll b stores) (off + i) = byteAt src i := by
  induction stores generalizing b with
  | nil => cases hmem
  | cons st rest ih =>
    obtain ⟨hst, hrest⟩ := List.forall_mem_cons.mp h
    obtain ⟨hapart, hd'⟩ := List.pairwise_cons.mp hd
    have hlen := length_write hst
    have hrest' : Fits (write b st.1 st.2).length rest := by rwa [hlen]
    rw [storeAll, List.foldl_cons, ← storeAll]
    rcases List.mem_cons.mp hmem with rfl | hmem
    · grind [byteAt_storeAll_of_not_mem, byteAt_write, Apart]
    · exact ih hrest' hd' hmem

/-- The 16-bit little-endian field at offset `i`. -/
def le16 (b : Bytes) (i : ℕ) : UInt16 :=
  (byteAt b i).toUInt16 ||| ((byteAt b (i + 1)).toUInt16 <<< 8)

/-- The 32-bit little-endian field at offset `i`. -/
def le32 (b : Bytes) (i : ℕ) : UInt32 :=
  (le16 b i).toUInt32 ||| ((le16 b (i + 2)).toUInt32 <<< 16)

/-- The two bytes of a 16-bit field, low byte first. -/
def put16 (v : UInt16) : Bytes := [v.toUInt8, (v >>> 8).toUInt8]

/-- The four bytes of a 32-bit field, low half first. -/
def put32 (v : UInt32) : Bytes := put16 v.toUInt16 ++ put16 (v >>> 16).toUInt16

@[simp] lemma length_put16 (v : UInt16) : (put16 v).length = 2 := rfl

@[simp] lemma length_put32 (v : UInt32) : (put32 v).length = 4 := rfl

lemma toNat_le16 (b : Bytes) (i : ℕ) :
    (le16 b i).toNat = (byteAt b i).toNat + 256 * (byteAt b (i + 1)).toNat := by
  have h0 : (byteAt b i).toNat < 256 := UInt8.toNat_lt _
  have h1 : (byteAt b (i + 1)).toNat < 256 := UInt8.toNat_lt _
  have hor := Nat.shiftLeft_add_eq_or_of_lt (i := 8) h0 (byteAt b (i + 1)).toNat
  simp only [le16, UInt16.toNat_or, UInt16.toNat_shiftLeft, UInt8.toNat_toUInt16]
  have hsh : (byteAt b (i + 1)).toNat <<< ((8 : UInt16).toNat % 16) % 2 ^ 16
      = (byteAt b (i + 1)).toNat <<< 8 := by
    have : (8 : UInt16).toNat % 16 = 8 := rfl
    rw [this, Nat.shiftLeft_eq]
    exact Nat.mod_eq_of_lt (by omega)
  rw [hsh, Nat.or_comm, ← hor, Nat.shiftLeft_eq]
  omega

lemma toNat_le32 (b : Bytes) (i : ℕ) :
    (le32 b i).toNat = (le16 b i).toNat + 65536 * (le16 b (i + 2)).toNat := by
  have h0 : (le16 b i).toNat < 65536 := UInt16.toNat_lt _
  have h1 : (le16 b (i + 2)).toNat < 65536 := UInt16.toNat_lt _
  have hor := Nat.shiftLeft_add_eq_or_of_lt (i := 16) h0 (le16 b (i + 2)).toNat
  simp only [le32, UInt32.toNat_or, UInt32.toNat_shiftLeft, UInt16.toNat_toUInt32]
  grind [Nat.shiftLeft_eq]

lemma le16_eq_of_bytes {v : UInt16}
    (h0 : byteAt b i = v.toUInt8) (h1 : byteAt b (i + 1) = (v >>> 8).toUInt8) :
    le16 b i = v := by
  apply UInt16.toNat_inj.mp
  have hv : v.toNat < 65536 := UInt16.toNat_lt v
  have hs : (8 : UInt16).toNat % 16 = 8 := rfl
  rw [toNat_le16, h0, h1]
  simp only [UInt16.toNat_toUInt8, UInt16.toNat_shiftRight, hs, Nat.shiftRight_eq_div_pow]
  omega

lemma put16_le16 (b : Bytes) (i : ℕ) : put16 (le16 b i) = [byteAt b i, byteAt b (i + 1)] := by
  have hvalue := toNat_le16 b i
  have h0 : (byteAt b i).toNat < 256 := UInt8.toNat_lt _
  have h1 : (byteAt b (i + 1)).toNat < 256 := UInt8.toNat_lt _
  have hshift : (8 : UInt16).toNat % 16 = 8 := rfl
  have hlow : (le16 b i).toUInt8 = byteAt b i := by
    apply UInt8.toNat_inj.mp
    rw [UInt16.toNat_toUInt8]
    omega
  have hhigh : (le16 b i >>> 8).toUInt8 = byteAt b (i + 1) := by
    apply UInt8.toNat_inj.mp
    rw [UInt16.toNat_toUInt8, UInt16.toNat_shiftRight, hshift, Nat.shiftRight_eq_div_pow]
    omega
  rw [put16, hlow, hhigh]

lemma le32_eq_of_halves {v : UInt32}
    (h0 : le16 b i = v.toUInt16) (h1 : le16 b (i + 2) = (v >>> 16).toUInt16) :
    le32 b i = v := by
  apply UInt32.toNat_inj.mp
  have hv : v.toNat < 4294967296 := UInt32.toNat_lt v
  have hs : (16 : UInt32).toNat % 32 = 16 := rfl
  rw [toNat_le32, h0, h1]
  simp only [UInt32.toNat_toUInt16, UInt32.toNat_shiftRight, hs, Nat.shiftRight_eq_div_pow]
  omega

lemma le16_drop (b : Bytes) (n i : ℕ) : le16 (b.drop n) i = le16 b (n + i) := by
  simp only [le16, byteAt_drop, Nat.add_assoc]

lemma slice_two (h : i + 2 ≤ b.length) : slice b i 2 = put16 (le16 b i) := by
  rw [put16_le16, slice, take_eq_map (by rw [List.length_drop]; omega)]
  simp [List.range_succ, byteAt_drop]

lemma le16_put16 (a rest : Bytes) (v : UInt16) (hi : i = a.length) :
    le16 (a ++ (put16 v ++ rest)) i = v := by
  subst hi
  refine le16_eq_of_bytes ?_ ?_
  · rw [byteAt_append_right (le_refl _), Nat.sub_self]
    rfl
  · rw [byteAt_append_right (by omega), Nat.add_sub_cancel_left]
    rfl

lemma le32_put32 (a rest : Bytes) (v : UInt32) (hi : i = a.length) :
    le32 (a ++ (put32 v ++ rest)) i = v := by
  rw [put32, List.append_assoc]
  refine le32_eq_of_halves (le16_put16 a _ _ hi) ?_
  rw [← List.append_assoc]
  refine le16_put16 _ rest _ ?_
  rw [List.length_append, hi]
  rfl

lemma le16_slice (hi : i + 1 < n) : le16 (slice b off n) i = le16 b (off + i) := by
  grind [le16, byteAt_slice]

lemma le32_slice (hi : i + 3 < n) : le32 (slice b off n) i = le32 b (off + i) := by
  grind [le32, le16_slice]

section
variable {b : Bytes} {stores : List Store} {off : ℕ}

lemma byteAt_storeAll_byte (h : Fits b.length stores) (hd : stores.Pairwise Apart) {v : UInt8}
    (hmem : (off, [v]) ∈ stores) : byteAt (storeAll b stores) off = v :=
  byteAt_storeAll h hd hmem (i := 0) Nat.one_pos

lemma le16_storeAll (h : Fits b.length stores) (hd : stores.Pairwise Apart) {v : UInt16}
    (hmem : (off, put16 v) ∈ stores) : le16 (storeAll b stores) off = v :=
  le16_eq_of_bytes (byteAt_storeAll h hd hmem (i := 0) Nat.two_pos)
    (byteAt_storeAll h hd hmem (i := 1) Nat.one_lt_two)

lemma le32_storeAll (h : Fits b.length stores) (hd : stores.Pairwise Apart) {v : UInt32}
    (hmem : (off, put32 v) ∈ stores) : le32 (storeAll b stores) off = v := by
  have hbyte : ∀ i < 4, byteAt (storeAll b stores) (off + i) = byteAt (put32 v) i :=
    fun i hi => byteAt_storeAll h hd hmem hi
  exact le32_eq_of_halves
    (le16_eq_of_bytes (hbyte 0 (by omega)) (hbyte 1 (by omega)))
    (le16_eq_of_bytes (hbyte 2 (by omega)) (hbyte 3 (by omega)))

end

end ByteBuffer
