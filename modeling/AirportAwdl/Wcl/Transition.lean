import AirportAwdl.Lib.CheckedMemory
import AirportAwdl.Wcl.Elements

/-!
# Transition networks

`selectWPA2TransitionMode` rewrites the elements of a scan result in place: an RSN element that
offers both PSK and SAE is cut down to PSK, and everything behind its list of suites moves up. The
loop goes over a buffer that it shortens as it goes; what it leaves is the list of the rewritten
elements (`selectFrom_spec`).
-/

namespace AirportAwdl.Wcl.Buffers

open ByteBuffer CheckedMemory

/-- The loop of `validIEs`, with `fuel` iterations left. -/
def validIEsFrom (b : Bytes) : ℕ → Span → Checked Bool
  | 0, s => if s.length = 0 then pure true else throw .endless
  | fuel + 1, s =>
    if s.length = 0 then pure true
    else if s.length < 2 then pure false
    else do
      let next := (← s.read b 1).toNat + 2
      if next > s.length then pure false
      else validIEsFrom b fuel (← s.advance next)

def validIEs (b : Bytes) : Checked Bool :=
  if b.length > 2048 then pure false else validIEsFrom b b.length (Span.all b)

/-- `psk`, `sae` and `other`, the flags of the loop over the suites. -/
structure SuitesSeen where
  psk : Bool := false
  sae : Bool := false
  other : Bool := false
deriving DecidableEq, Repr

/-- The body of the loop over the suites. -/
def SuitesSeen.see (seen : SuitesSeen) (suite : Suite) : SuitesSeen :=
  if suite.oui₀ ≠ 0 ∨ suite.oui₁ ≠ 0x0f ∨ suite.oui₂ ≠ 0xac then { seen with other := true }
  else if suite.type = 2 then { seen with psk := true }
  else if suite.type = 8 then { seen with sae := true }
  else { seen with other := true }

def read16 (b : Bytes) (ie : Span) (i : ℕ) : Checked UInt16 :=
  return le16 (← ie.readSlice b i 2) 0

/-- The suite at `i`. -/
def readSuite (b : Bytes) (ie : Span) (i : ℕ) : Checked Suite :=
  return Suite.readAt (← ie.readSlice b i 4) 0

/-- The checks on one element: `countOffset` and `count` of an element to be rewritten. -/
def inTransition (b : Bytes) (ie : Span) : Checked (Option (ℕ × ℕ)) := do
  if (← ie.read b 0) ≠ 48 ∨ ie.length < 10 then return none
  else if (← read16 b ie 2) ≠ 1 then return none
  else
    let pairwiseCount := (← read16 b ie 8).toNat
    if pairwiseCount = 0 ∨ pairwiseCount > (ie.length - 10) / 4 then return none
    else
      let countOffset := 10 + 4 * pairwiseCount
      if ie.length - countOffset < 2 then return none
      else
        let count := (← read16 b ie countOffset).toNat
        let suitesOffset := countOffset + 2
        if count < 2 ∨ count > (ie.length - suitesOffset) / 4 then return none
        else
          let tailOffset := suitesOffset + 4 * count
          if ie.length - tailOffset < 2 then return none
          else if (← read16 b ie tailOffset) &&& 0xc0 ≠ 0x80 then return none
          else
            let suites ← (List.range count).mapM fun i => readSuite b ie (suitesOffset + 4 * i)
            let seen := suites.foldl SuitesSeen.see {}
            if !seen.psk ∨ !seen.sae ∨ seen.other then return none
            else return some (countOffset, count)

/-- The rewriting of the element at `offset`, with `length` bytes in use. -/
def reduceSuites (b : Bytes) (length offset countOffset count : ℕ) : Checked Bytes := do
  let suitesOffset := countOffset + 2
  let tailOffset := suitesOffset + 4 * count
  let b ← storeList b (offset + suitesOffset) [0, 0x0f, 0xac, 2]
  let b ← store b (offset + countOffset) 1
  let b ← store b (offset + (countOffset + 1)) 0
  -- `memmove`: all bytes are read before the first is written
  let moved ← (Span.all b).readSlice b (offset + tailOffset) (length - offset - tailOffset)
  let b ← storeList b (offset + (suitesOffset + 4)) moved
  store b (offset + 1) ((← (Span.all b).read b (offset + 1)) - UInt8.ofNat (4 * (count - 1)))

/-- The loop of `selectWPA2TransitionMode`, with `fuel` iterations left: the buffer and the length
in use. -/
def selectFrom : ℕ → Bytes → ℕ → ℕ → Checked (Bytes × ℕ)
  | 0, b, length, offset => if offset < length then throw .endless else pure (b, length)
  | fuel + 1, b, length, offset =>
    if offset < length then do
      let size := (← (Span.mk offset (length - offset)).read b 1).toNat + 2
      match ← inTransition b ⟨offset, size⟩ with
      | none => selectFrom fuel b length (offset + size)
      | some (countOffset, count) =>
        let removed := 4 * (count - 1)
        let b ← reduceSuites b length offset countOffset count
        selectFrom fuel b (length - removed) (offset + (size - removed))
    else pure (b, length)

/-- `selectWPA2TransitionMode`: the buffer and the length that is returned. -/
def selectWPA2TransitionMode (ies : Bytes) : Checked (Bytes × ℕ) := do
  if !(← validIEs ies) then return (ies, ies.length)
  else selectFrom ies.length ies ies.length 0

lemma validIEsFrom_ok {b : Bytes} {fuel : ℕ} {s : Span} (hs : s.Inside b) (hfuel : s.length ≤ fuel) :
    validIEsFrom b fuel s = .ok (validElements fuel (s.view b)) := by
  induction fuel generalizing s with
  | zero =>
    have hzero : s.length = 0 := by omega
    have hview : s.view b = [] :=
      List.eq_nil_of_length_eq_zero ((Span.length_view hs).trans hzero)
    rw [validIEsFrom, if_pos hzero, hview]
    rfl
  | succ fuel ih =>
    have hlength := Span.length_view hs
    rw [validIEsFrom]
    cases hview : s.view b with
    | nil =>
      rw [hview, List.length_nil] at hlength
      rw [if_pos hlength.symm]
      rfl
    | cons x rest =>
      cases rest with
      | nil =>
        rw [hview, List.length_singleton] at hlength
        rw [if_neg (by omega), if_pos (by omega)]
        rfl
      | cons y rest =>
        rw [hview, List.length_cons, List.length_cons] at hlength
        have hread : s.read b 1 = .ok y := by
          rw [Span.read_ok hs (by omega), hview]
          rfl
        rw [if_neg (by omega), if_neg (by omega), hread, ok_bind, validElements]
        by_cases hfits : y.toNat + 2 ≤ s.length
        · have hrest : Span.view b ⟨s.start + (y.toNat + 2), s.length - (y.toNat + 2)⟩ =
              rest.drop y.toNat := by
            rw [Span.view_advance, hview]
            rfl
          rw [if_neg (by omega), Span.advance_ok hfits, ok_bind,
            ih ((Span.within_advance hfits).inside hs) (by dsimp only; omega), hrest,
            decide_eq_true (by omega), Bool.true_and]
        · rw [if_pos (by omega), decide_eq_false (by omega)]
          rfl

lemma validIEs_ok (b : Bytes) : validIEs b = .ok (Wcl.validIEs b) := by
  unfold validIEs Wcl.validIEs
  by_cases hlong : b.length > 2048
  · rw [if_pos hlong, decide_eq_false (by omega)]
    rfl
  · have hfrom : validIEsFrom b b.length (Span.all b) = .ok (validElements b.length b) := by
      rw [validIEsFrom_ok (Span.inside_all b) (by exact le_refl b.length), Span.view_all]
    rw [if_neg hlong, hfrom, decide_eq_true (by omega)]
    rfl

lemma foldl_see (suites : List Suite) (seen : SuitesSeen) :
    suites.foldl SuitesSeen.see seen = {
      psk := seen.psk || suites.contains .psk
      sae := seen.sae || suites.contains .sae
      other := seen.other || suites.any fun suite => suite ≠ .psk ∧ suite ≠ .sae } := by
  induction suites generalizing seen with
  | nil => simp
  | cons suite suites ih =>
    rw [List.foldl_cons, ih]
    obtain ⟨oui₀, oui₁, oui₂, type⟩ := suite
    simp only [SuitesSeen.see, Suite.psk, Suite.sae]
    split_ifs with houi h2 h8
    · rcases houi with h | h | h <;> simp [h, Ne.symm h]
    all_goals
      simp only [not_or, not_not] at houi
      obtain ⟨rfl, rfl, rfl⟩ := houi
    · subst h2
      simp
    · subst h8
      simp
    · simp [h2, h8, Ne.symm h2, Ne.symm h8]

lemma seen_iff (suites : List Suite) :
    (let seen := suites.foldl SuitesSeen.see {}
     !seen.psk ∨ !seen.sae ∨ seen.other) ↔
      ¬(Suite.psk ∈ suites ∧ Suite.sae ∈ suites ∧ ∀ suite ∈ suites, suite = .psk ∨ suite = .sae) := by
  rw [foldl_see]
  grind

section
variable {b : Bytes} {ie : Span} {i : ℕ}

lemma read16_ok (h : ie.Inside b) (hi : i + 2 ≤ ie.length) :
    read16 b ie i = .ok (le16 (ie.view b) i) := by
  rw [read16, Span.readSlice_ok h hi, ok_bind, le16_slice (by decide)]
  rfl

lemma readSuite_ok (h : ie.Inside b) (hi : i + 4 ≤ ie.length) :
    readSuite b ie i = .ok (.readAt (ie.view b) i) := by
  rw [readSuite, Span.readSlice_ok h hi, ok_bind]
  simp only [Suite.readAt]
  rw [byteAt_slice (by decide), byteAt_slice (by decide), byteAt_slice (by decide),
    byteAt_slice (by decide)]
  rfl

lemma readSuites_ok (h : ie.Inside b) {count : ℕ} (hi : i + 4 * count ≤ ie.length) :
    ((List.range count).mapM fun k => readSuite b ie (i + 4 * k)) =
      .ok (Suite.decodeAll (ie.view b) i count) := by
  refine mapM_ok fun k hk => readSuite_ok h ?_
  have hlt := List.mem_range.mp hk
  omega

end

lemma slice_four {b : Bytes} {i : ℕ} (h : i + 4 ≤ b.length) : slice b i 4 = (Suite.readAt b i).bytes := by
  rw [slice, take_eq_map (by rw [List.length_drop]; omega)]
  simp [List.range_succ, byteAt_drop, Suite.readAt, Suite.bytes]

lemma encode_of_fields {e : Bytes} {pairwiseCount count : ℕ} (hversion : le16 e 2 = 1)
    (hpairwise : (le16 e 8).toNat = pairwiseCount)
    (hcount : (le16 e (10 + 4 * pairwiseCount)).toNat = count)
    (hlength : 10 + 4 * pairwiseCount + 2 + 4 * count + 2 ≤ e.length) :
    e.drop 2 = Rsn.encode {
      group := .readAt e 4
      pairwise := Suite.decodeAll e 10 pairwiseCount
      akm := Suite.decodeAll e (10 + 4 * pairwiseCount + 2) count
      capabilities := le16 e (10 + 4 * pairwiseCount + 2 + 4 * count)
      rest := e.drop (10 + 4 * pairwiseCount + 2 + 4 * count + 2) } := by
  rw [drop_eq_slice_append e 2 2, drop_eq_slice_append e (2 + 2) 4,
    drop_eq_slice_append e (2 + 2 + 4) 2, drop_eq_slice_append e (2 + 2 + 4 + 2) (4 * pairwiseCount),
    drop_eq_slice_append e (2 + 2 + 4 + 2 + 4 * pairwiseCount) 2,
    drop_eq_slice_append e (2 + 2 + 4 + 2 + 4 * pairwiseCount + 2) (4 * count),
    drop_eq_slice_append e (2 + 2 + 4 + 2 + 4 * pairwiseCount + 2 + 4 * count) 2,
    slice_two (by omega), slice_four (by omega), slice_two (by omega), slice_two (by omega),
    slice_two (by omega), ← Suite.encodeAll_decodeAll (by omega),
    ← Suite.encodeAll_decodeAll (by omega), hversion]
  simp only [Rsn.encode, Rsn.head, Rsn.tail, Suite.length_decodeAll, List.append_assoc,
    Nat.reduceAdd]
  rw [← hcount, ← hpairwise, UInt16.ofNat_toNat, UInt16.ofNat_toNat]

variable {b : Bytes} {ie : Span} {e : Element}

/-- Where the fields of an RSN element are. -/
structure RsnFields (r : Rsn) (bytes : Bytes) : Prop where
  id : byteAt bytes 0 = 48
  version : le16 bytes 2 = 1
  pairwiseCount : (le16 bytes 8).toNat = r.pairwise.length
  count : (le16 bytes (10 + 4 * r.pairwise.length)).toNat = r.akm.length
  suites : Suite.decodeAll bytes (10 + 4 * r.pairwise.length + 2) r.akm.length = r.akm
  capabilities : le16 bytes (10 + 4 * r.pairwise.length + 2 + 4 * r.akm.length) = r.capabilities

lemma rsnFields_of_describes {r : Rsn} (h : r.Describes e) : RsnFields r e.encode := by
  obtain ⟨hid, hbody⟩ := h
  have hlength := r.length_encode
  have hshort := e.short
  rw [hbody] at hshort
  have hsmall : ∀ {n : ℕ}, n < 256 → (UInt16.ofNat n).toNat = n := fun hn => by
    exact Nat.mod_eq_of_lt (by omega)
  -- the element, cut at each of its fields
  have hbytes : e.encode = [48, UInt8.ofNat r.encode.length] ++ (put16 1 ++ (r.group.bytes ++
      (put16 (UInt16.ofNat r.pairwise.length) ++ (Suite.encodeAll r.pairwise ++
        (put16 (UInt16.ofNat r.akm.length) ++ (Suite.encodeAll r.akm ++
          (put16 r.capabilities ++ r.rest))))))) := by
    simp only [Element.encode, hid, hbody, Rsn.encode, Rsn.head, Rsn.tail, List.append_assoc]
    rfl
  rw [hbytes]
  refine ⟨rfl, le16_put16 _ _ _ rfl, ?_, ?_, ?_, ?_⟩
  · rw [← List.append_assoc, ← List.append_assoc, le16_put16 (i := 8), hsmall (by omega)]
    rfl
  · rw [← List.append_assoc, ← List.append_assoc, ← List.append_assoc, ← List.append_assoc,
      le16_put16, hsmall (by omega)]
    simp [Suite.bytes]
    omega
  · have hdecode := Suite.decodeAll_encodeAll ([48, UInt8.ofNat r.encode.length] ++ put16 1 ++
      r.group.bytes ++ put16 (UInt16.ofNat r.pairwise.length) ++ Suite.encodeAll r.pairwise ++
      put16 (UInt16.ofNat r.akm.length)) r.akm (put16 r.capabilities ++ r.rest)
    simp only [List.append_assoc] at hdecode ⊢
    convert hdecode using 2
    simp [Suite.bytes]
    omega
  · rw [← List.append_assoc, ← List.append_assoc, ← List.append_assoc, ← List.append_assoc,
      ← List.append_assoc, ← List.append_assoc, le16_put16]
    simp [Suite.bytes]
    omega

lemma inTransition_of_rsn (hie : ie.Inside b) (hview : ie.view b = e.encode) {r : Rsn}
    (ht : r.Transition) (hr : r.Describes e) :
    inTransition b ie = .ok (some (10 + 4 * r.pairwise.length, r.akm.length)) := by
  have hfields := rsnFields_of_describes hr
  rw [← hview] at hfields
  have hsize : ie.length = r.encode.length + 2 := by
    rw [← Span.length_view hie, hview, Element.length_encode, hr.2]
  have hlength := r.length_encode
  have hpos : 0 < r.pairwise.length := List.length_pos_of_ne_nil ht.pairwise
  have hseveral := ht.several
  have hseen := (not_congr (seen_iff r.akm)).mpr (not_not.mpr ⟨ht.psk, ht.sae, ht.only⟩)
  unfold inTransition
  rw [Span.read_ok hie (by omega), ok_bind, hfields.id, if_neg (by simp; omega),
    read16_ok hie (by omega), ok_bind, hfields.version, if_neg (by simp), read16_ok hie (by omega),
    ok_bind, hfields.pairwiseCount]
  rw [if_neg (by omega), if_neg (by omega), read16_ok hie (by omega), ok_bind, hfields.count,
    if_neg (by omega), if_neg (by omega), read16_ok hie (by omega), ok_bind, hfields.capabilities,
    if_neg (by simp [ht.protection]), readSuites_ok hie (by omega), ok_bind, hfields.suites,
    if_neg hseen]
  rfl

lemma rsn_of_inTransition (hie : ie.Inside b) (hview : ie.view b = e.encode) :
    ∃ found, inTransition b ie = .ok found ∧ (found ≠ none → ∃ r : Rsn, r.Transition ∧ r.Describes e) := by
  have hsize : ie.length = e.body.length + 2 := by
    rw [← Span.length_view hie, hview, Element.length_encode]
  have hnone : ∀ {m : Checked (Option (ℕ × ℕ))}, m = .ok none → ∃ found, m = .ok found ∧
      (found ≠ none → ∃ r : Rsn, r.Transition ∧ r.Describes e) :=
    fun h => ⟨none, h, fun h => absurd rfl h⟩
  unfold inTransition
  rw [Span.read_ok hie (by omega), ok_bind]
  split
  · exact hnone rfl
  rename_i hid
  rw [not_or, not_not, not_lt] at hid
  rw [read16_ok hie (by omega), ok_bind]
  split
  · exact hnone rfl
  rename_i hversion
  rw [not_not] at hversion
  rw [read16_ok hie (by omega), ok_bind]
  dsimp only
  generalize hpairwise : (le16 (ie.view b) 8).toNat = pairwiseCount
  split
  · exact hnone rfl
  rename_i hpairwiseFits
  split
  · exact hnone rfl
  rw [read16_ok hie (by omega), ok_bind]
  generalize hcount : (le16 (ie.view b) (10 + 4 * pairwiseCount)).toNat = count
  split
  · exact hnone rfl
  rename_i hsuitesFit
  rw [not_or, not_lt, not_lt] at hsuitesFit
  split
  · exact hnone rfl
  rw [read16_ok hie (by omega), ok_bind]
  split
  · exact hnone rfl
  rename_i hprotection
  rw [not_not] at hprotection
  rw [readSuites_ok hie (by omega), ok_bind]
  split
  · exact hnone rfl
  rename_i hseen
  refine ⟨_, rfl, fun _ => ?_⟩
  obtain ⟨hpsk, hsae, honly⟩ := not_not.mp ((not_congr (seen_iff _)).mp hseen)
  have hlength := Span.length_view hie
  have hbody : e.body = _ := (show e.body = (ie.view b).drop 2 by rw [hview]; rfl).trans
    (encode_of_fields hversion hpairwise hcount (by omega))
  refine ⟨_, ?_, ?_, hbody⟩
  · exact {
      pairwise := List.ne_nil_of_length_pos (by rw [Suite.length_decodeAll]; omega)
      several := by
        rw [Suite.length_decodeAll]
        exact hsuitesFit.1
      only := honly
      psk := hpsk
      sae := hsae
      protection := hprotection }
  · have hfirst := hid.1
    rw [hview] at hfirst
    exact hfirst

lemma reduceSuites_bytes (before head suites moved unused : Bytes) (id len c₀ c₁ : UInt8)
    {length countOffset count : ℕ} (hhead : countOffset = head.length + 2)
    (hsuites : suites.length = 4 * count) (hcount : 2 ≤ count)
    (hlength : length = before.length + (countOffset + 2 + 4 * count + moved.length)) :
    reduceSuites (before ++ id :: len :: (head ++ c₀ :: c₁ :: (suites ++ (moved ++ unused)))) length
        before.length countOffset count =
      .ok (before ++ id :: (len - UInt8.ofNat (4 * (count - 1))) :: (head ++
        1 :: 0 :: 0 :: 0x0f :: 0xac :: 2 ::
          (moved ++ (suites.drop 4 ++ (moved ++ unused)).drop moved.length))) := by
  have hdrop : (suites ++ (moved ++ unused)).drop 4 = suites.drop 4 ++ (moved ++ unused) :=
    List.drop_append_of_le_length (by omega)
  have hleft : (suites.drop 4).length = 4 * count - 4 := by rw [List.length_drop, hsuites]
  have hfit : [0, 0x0f, 0xac, (2 : UInt8)].length ≤ (suites ++ (moved ++ unused)).length := by
    grind
  have hfit' : moved.length ≤ (suites.drop 4 ++ (moved ++ unused)).length := by
    simp only [List.length_append]
    omega
  -- the stores one after the other
  have hsuite : storeList (before ++ id :: len :: (head ++ c₀ :: c₁ :: (suites ++ (moved ++ unused))))
      (before.length + (countOffset + 2)) [0, 0x0f, 0xac, 2] =
      .ok (before ++ id :: len :: (head ++ c₀ :: c₁ :: 0 :: 0x0f :: 0xac :: 2 ::
        (suites.drop 4 ++ (moved ++ unused)))) := by
    have hstore := storeList_append (before ++ id :: len :: (head ++ [c₀, c₁]))
      (i := before.length + (countOffset + 2)) (by simp; omega) hfit
    simpa [hdrop] using hstore
  have hlow : store (before ++ id :: len :: (head ++ c₀ :: c₁ :: 0 :: 0x0f :: 0xac :: 2 ::
      (suites.drop 4 ++ (moved ++ unused)))) (before.length + countOffset) 1 =
      .ok (before ++ id :: len :: (head ++ 1 :: c₁ :: 0 :: 0x0f :: 0xac :: 2 ::
        (suites.drop 4 ++ (moved ++ unused)))) := by
    have hstore := store_append (before ++ id :: len :: head) (x := c₀)
      (b := c₁ :: 0 :: 0x0f :: 0xac :: 2 :: (suites.drop 4 ++ (moved ++ unused)))
      (i := before.length + countOffset) (by simp; omega) 1
    simpa using hstore
  have hhigh : store (before ++ id :: len :: (head ++ 1 :: c₁ :: 0 :: 0x0f :: 0xac :: 2 ::
      (suites.drop 4 ++ (moved ++ unused)))) (before.length + (countOffset + 1)) 0 =
      .ok (before ++ id :: len :: (head ++ 1 :: 0 :: 0 :: 0x0f :: 0xac :: 2 ::
        (suites.drop 4 ++ (moved ++ unused)))) := by
    have hstore := store_append (before ++ id :: len :: (head ++ [1])) (x := c₁)
      (b := 0 :: 0x0f :: 0xac :: 2 :: (suites.drop 4 ++ (moved ++ unused)))
      (i := before.length + (countOffset + 1)) (by simp; omega) 0
    simpa using hstore
  have hread : ∀ {b : Bytes}, b = before ++ id :: len :: (head ++ 1 :: 0 :: 0 :: 0x0f :: 0xac :: 2 ::
      (suites.drop 4 ++ (moved ++ unused))) → (Span.all b).readSlice b
        (before.length + (countOffset + 2 + 4 * count))
        (length - before.length - (countOffset + 2 + 4 * count)) = .ok moved := by
    intro b hb
    have hsize : b.length = before.length + (countOffset + 2 + 4 * count + moved.length) +
        unused.length := by
      grind [List.length_cons]
    rw [Span.readSlice_ok (Span.inside_all b) (by simp only [Span.all]; omega), Span.view_all, hb]
    have hslice := slice_append (before ++ id :: len :: (head ++ 1 :: 0 :: 0 :: 0x0f :: 0xac :: 2 ::
      suites.drop 4)) moved unused (i := before.length + (countOffset + 2 + 4 * count))
      (n := length - before.length - (countOffset + 2 + 4 * count)) (by
        simp only [List.length_append, List.length_cons, hleft]
        omega) (by omega)
    simpa using hslice
  have hmove : storeList (before ++ id :: len :: (head ++ 1 :: 0 :: 0 :: 0x0f :: 0xac :: 2 ::
      (suites.drop 4 ++ (moved ++ unused)))) (before.length + (countOffset + 2 + 4)) moved =
      .ok (before ++ id :: len :: (head ++ 1 :: 0 :: 0 :: 0x0f :: 0xac :: 2 ::
        (moved ++ (suites.drop 4 ++ (moved ++ unused)).drop moved.length))) := by
    have hstore := storeList_append (before ++ id :: len :: (head ++ [1, 0, 0, 0x0f, 0xac, 2]))
      (i := before.length + (countOffset + 2 + 4)) (by simp; omega) hfit'
    simpa using hstore
  unfold reduceSuites
  dsimp only
  rw [hsuite, ok_bind, hlow, ok_bind, hhigh, ok_bind, hread rfl, ok_bind, hmove, ok_bind]
  generalize head ++ 1 :: 0 :: 0 :: 0x0f :: 0xac :: 2 ::
    (moved ++ (suites.drop 4 ++ (moved ++ unused)).drop moved.length) = rest
  have hlen : (Span.all (before ++ id :: len :: rest)).read (before ++ id :: len :: rest)
      (before.length + 1) = .ok len := by
    rw [Span.read_ok (Span.inside_all _) (by simp [Span.all]), Span.view_all,
      byteAt_append_right (by omega), Nat.add_sub_cancel_left]
    rfl
  have hstore := store_append (before ++ [id]) (x := len) (b := rest) (i := before.length + 1) (by simp)
    (len - UInt8.ofNat (4 * (count - 1)))
  rw [hlen, ok_bind]
  simpa using hstore

lemma reduceSuites_ok {r : Rsn} (hseveral : 2 ≤ r.akm.length) {e e' : Element} (he : r.Describes e)
    (he' : Rsn.Describes { r with akm := [.psk] } e') (before after unused : Bytes) :
    ∃ unused', reduceSuites (before ++ (e.encode ++ (after ++ unused)))
        (before.length + (e.encode.length + after.length)) before.length
        (10 + 4 * r.pairwise.length) r.akm.length =
      .ok (before ++ (e'.encode ++ (after ++ unused'))) ∧
      unused'.length = unused.length + 4 * (r.akm.length - 1) := by
  obtain ⟨hid, hbody⟩ := he
  obtain ⟨hid', hbody'⟩ := he'
  have hhead := r.length_head
  have hlength := r.length_encode
  have hlength' : (Rsn.encode { r with akm := [.psk] }).length =
      12 + 4 * r.pairwise.length + 4 * 1 + r.rest.length := Rsn.length_encode _
  have hsuites := Suite.length_encodeAll r.akm
  have hshort := e.short
  rw [hbody] at hshort
  have hbytes : e.encode = 48 :: UInt8.ofNat r.encode.length :: (r.head ++
      (put16 (UInt16.ofNat r.akm.length) ++ (Suite.encodeAll r.akm ++ r.tail))) := by
    rw [Element.encode, hid, hbody, Rsn.encode, List.append_assoc, List.append_assoc]
  have hbytes' : e'.encode = 48 :: UInt8.ofNat (Rsn.encode { r with akm := [.psk] }).length ::
      (r.head ++ 1 :: 0 :: 0 :: 0x0f :: 0xac :: 2 :: r.tail) := by
    rw [Element.encode, hid', hbody']
    have hcut : Rsn.encode { r with akm := [.psk] } =
        r.head ++ 1 :: 0 :: 0 :: 0x0f :: 0xac :: 2 :: r.tail := by
      have hone : put16 (UInt16.ofNat [Suite.psk].length) = [1, 0] := by decide
      show r.head ++ put16 (UInt16.ofNat [Suite.psk].length) ++ Suite.encodeAll [.psk] ++ r.tail = _
      rw [hone, List.append_assoc, List.append_assoc]
      rfl
    rw [← hcut]
  have hlen : UInt8.ofNat r.encode.length - UInt8.ofNat (4 * (r.akm.length - 1)) =
      UInt8.ofNat (Rsn.encode { r with akm := [.psk] }).length := by
    apply UInt8.toNat_inj.mp
    have hle : UInt8.ofNat (4 * (r.akm.length - 1)) ≤ UInt8.ofNat r.encode.length := by
      rw [UInt8.le_iff_toNat_le, UInt8.toNat_ofNat', UInt8.toNat_ofNat']
      omega
    grind [UInt8.toNat_sub_of_le, UInt8.toNat_ofNat']
  have htail : r.tail.length = 2 + r.rest.length := by
    rw [Rsn.tail, List.length_append]
    rfl
  obtain ⟨c₀, c₁, hcount⟩ : ∃ c₀ c₁, put16 (UInt16.ofNat r.akm.length) = [c₀, c₁] := ⟨_, _, rfl⟩
  have hreduce := reduceSuites_bytes before r.head (Suite.encodeAll r.akm) (r.tail ++ after) unused 48
    (UInt8.ofNat r.encode.length) c₀ c₁
    (show 10 + 4 * r.pairwise.length = r.head.length + 2 by omega) hsuites hseveral
    (show before.length + (e.encode.length + after.length) = _ by
      rw [Element.length_encode, hbody, List.length_append]
      omega)
  refine ⟨((Suite.encodeAll r.akm).drop 4 ++ (r.tail ++ after ++ unused)).drop
    (r.tail ++ after).length, ?_, ?_⟩
  · grind
  · simp only [List.length_drop, List.length_append, hsuites]
    omega

lemma selectFrom_spec (es : List Element) {fuel : ℕ} (hfuel : (Element.encodeAll es).length ≤ fuel)
    (before unused : Bytes) :
    ∃ es' unused', List.Forall₂ Selects es es' ∧
      selectFrom fuel (before ++ (Element.encodeAll es ++ unused))
        (before.length + (Element.encodeAll es).length) before.length =
        .ok (before ++ (Element.encodeAll es' ++ unused'),
          before.length + (Element.encodeAll es').length) ∧
      unused'.length + (Element.encodeAll es').length =
        unused.length + (Element.encodeAll es).length := by
  induction es generalizing fuel before unused with
  | nil =>
    refine ⟨[], unused, .nil, ?_, rfl⟩
    cases fuel with
    | zero => exact if_neg (lt_irrefl _)
    | succ fuel => exact if_neg (lt_irrefl _)
  | cons e es ih =>
    rw [Element.encodeAll_cons, List.length_append, Element.length_encode] at hfuel
    obtain ⟨fuel, rfl⟩ : ∃ n, fuel = n + 1 := ⟨fuel - 1, by omega⟩
    rw [Element.encodeAll_cons, List.append_assoc, List.length_append]
    generalize hbuffer : before ++ (e.encode ++ (Element.encodeAll es ++ unused)) = b
    have hb : b.length = before.length + (e.body.length + 2 + (Element.encodeAll es).length) +
        unused.length := by
      rw [← hbuffer]
      simp only [List.length_append, Element.length_encode]
      omega
    have hinside : (Span.mk before.length (e.body.length + 2)).Inside b := by
      simp only [Span.Inside]
      omega
    have hview : (Span.mk before.length (e.body.length + 2)).view b = e.encode := by
      rw [Span.view, ← hbuffer]
      exact slice_append _ _ _ rfl rfl
    have hread : (Span.mk before.length (before.length + (e.encode.length +
        (Element.encodeAll es).length) - before.length)).read b 1 =
        .ok (byteAt e.encode 1) := by
      have hfits : 1 < before.length + (e.encode.length + (Element.encodeAll es).length) -
          before.length ∧ before.length + 1 < b.length := by
        rw [Element.length_encode]
        omega
      refine (if_pos hfits).trans (congrArg Except.ok ?_)
      grind [byteAt_append_right, byteAt_append_left]
    rw [selectFrom, if_pos (by rw [Element.length_encode]; omega), hread, ok_bind]
    dsimp only
    rw [Element.byteAt_encode_one]
    obtain ⟨found, hfound, hrsn⟩ := rsn_of_inTransition hinside hview
    rw [hfound, ok_bind]
    cases found with
    | none =>
      -- the element stays, and the loop goes on behind it
      have hkeep : Selects e e := by
        refine .inr ⟨?_, rfl⟩
        rintro ⟨r, ht, hr⟩
        rw [inTransition_of_rsn hinside hview ht hr] at hfound
        cases Except.ok.inj hfound
      obtain ⟨es', unused', hselects, hrun, hlength⟩ :=
        @ih fuel (by omega) (before ++ e.encode) unused
      refine ⟨e :: es', unused', .cons hkeep hselects, ?_, ?_⟩
      · rw [List.append_assoc, List.append_assoc, List.length_append, Element.length_encode] at hrun
        rw [← hbuffer, Element.encodeAll_cons, List.append_assoc, List.length_append,
          Element.length_encode, ← Nat.add_assoc before.length, hrun, Nat.add_assoc]
      · rw [Element.encodeAll_cons, List.length_append]
        omega
    | some place =>
      obtain ⟨r, ht, hr⟩ := hrsn (Option.some_ne_none place)
      have hplace := Option.some.inj (Except.ok.inj (hfound.symm.trans
        (inTransition_of_rsn hinside hview ht hr)))
      have hseveral := ht.several
      have hbody := r.length_encode
      have hbody' : (Rsn.encode { r with akm := [.psk] }).length =
          12 + 4 * r.pairwise.length + 4 * 1 + r.rest.length := Rsn.length_encode _
      have hshort := e.short
      rw [← hr.2] at hbody
      set e' : Element := ⟨48, Rsn.encode { r with akm := [.psk] }, by omega⟩ with he'
      have hr' : Rsn.Describes { r with akm := [.psk] } e' := ⟨rfl, rfl⟩
      have hlength' : e'.encode.length = e.body.length + 2 - 4 * (r.akm.length - 1) := by
        rw [Element.length_encode, he']
        dsimp only
        omega
      obtain ⟨unused₁, hreduce, hunused₁⟩ :=
        reduceSuites_ok hseveral hr hr' before (Element.encodeAll es) unused
      obtain ⟨es', unused', hselects, hrun, hlength⟩ :=
        @ih fuel (by omega) (before ++ e'.encode) unused₁
      refine ⟨e' :: es', unused', .cons (.inl ⟨r, ht, hr, hr'⟩) hselects, ?_, ?_⟩
      · rw [hbuffer] at hreduce
        dsimp only
        rw [hplace]
        rw [hreduce, ok_bind, ← hlength']
        grind [Element.encodeAll_cons]
      grind [Element.encodeAll_cons]

lemma akm_length_unique {r r' : Rsn} {e : Element} (h : r.Describes e) (h' : r'.Describes e) :
    r.akm.length = r'.akm.length := by
  have hfields := rsnFields_of_describes h
  have hfields' := rsnFields_of_describes h'
  have hpairwise : r.pairwise.length = r'.pairwise.length :=
    hfields.pairwiseCount.symm.trans hfields'.pairwiseCount
  rw [← hfields.count, ← hfields'.count, hpairwise]

lemma not_transition_of_selects {e e' : Element} (h : Selects e e') :
    ¬∃ r : Rsn, r.Transition ∧ r.Describes e' := by
  rintro ⟨r', ht, hr'⟩
  rcases h with ⟨r, -, -, hr⟩ | ⟨hnone, rfl⟩
  · have hone : [Suite.psk].length = r'.akm.length := akm_length_unique hr hr'
    have hseveral := ht.several
    simp only [List.length_singleton] at hone
    omega
  · exact hnone ⟨r', ht, hr'⟩

lemma selects_again {es es' es'' : List Element} (h : List.Forall₂ Selects es es')
    (h' : List.Forall₂ Selects es' es'') : es'' = es' := by
  induction h generalizing es'' with
  | nil =>
    cases h'
    rfl
  | cons hselects _ ih =>
    cases h' with
    | cons hagain hrest =>
      obtain ⟨r, ht, hr, -⟩ | ⟨-, rfl⟩ := hagain
      · exact absurd ⟨r, ht, hr⟩ (not_transition_of_selects hselects)
      · rw [ih hrest]

lemma select_spec {es : List Element} (hlength : (Element.encodeAll es).length ≤ 2048) :
    ∃ es' unused, List.Forall₂ Selects es es' ∧
      selectWPA2TransitionMode (Element.encodeAll es) =
        .ok (Element.encodeAll es' ++ unused, (Element.encodeAll es').length) ∧
      unused.length + (Element.encodeAll es').length = (Element.encodeAll es).length := by
  obtain ⟨es', unused, hselects, hrun, hsize⟩ := selectFrom_spec es (le_refl _) [] []
  refine ⟨es', unused, hselects, ?_, by simpa using hsize⟩
  have hvalid : Wcl.validIEs (Element.encodeAll es) = true := (validIEs_iff _).mpr ⟨hlength, es, rfl⟩
  rw [selectWPA2TransitionMode, validIEs_ok, ok_bind, hvalid, if_neg (by decide)]
  simpa using hrun

/-- A valid string is a list of elements, and the code turns each of them into what is selected for
it, without touching memory outside the string. What it leaves is valid, no longer, and stays as it
is when the code goes over it again. -/
theorem selectWPA2TransitionMode_elements (ies : Bytes) (hvalid : Wcl.validIEs ies = true) :
    (∃ es, ies = Element.encodeAll es) ∧ ∀ es, ies = Element.encodeAll es →
      ∃ es' buffer, List.Forall₂ Selects es es' ∧
        selectWPA2TransitionMode ies = .ok (buffer, (Element.encodeAll es').length) ∧
        buffer.length = ies.length ∧
        buffer.take (Element.encodeAll es').length = Element.encodeAll es' ∧
        Wcl.validIEs (Element.encodeAll es') = true ∧
        selectWPA2TransitionMode (Element.encodeAll es') =
          .ok (Element.encodeAll es', (Element.encodeAll es').length) := by
  obtain ⟨hlength, hsome⟩ := (validIEs_iff ies).mp hvalid
  refine ⟨hsome, ?_⟩
  rintro es rfl
  obtain ⟨es', unused, hselects, hrun, hsize⟩ := select_spec hlength
  have hlength' : (Element.encodeAll es').length ≤ 2048 := by omega
  refine ⟨es', _, hselects, hrun, ?_, List.take_left, (validIEs_iff _).mpr ⟨hlength', es', rfl⟩, ?_⟩
  · rw [List.length_append]
    omega
  · -- the second pass selects the same elements and has no byte left over
    obtain ⟨es'', unused', hselects', hrun', hsize'⟩ := select_spec hlength'
    obtain rfl := selects_again hselects hselects'
    obtain rfl : unused' = [] := List.eq_nil_of_length_eq_zero (by omega)
    rw [hrun', List.append_nil]

/-- An SSID and a network that offers PSK and SAE with CCMP. -/
def transitionIEs : Bytes :=
  [0, 2, 0x68, 0x69,
    48, 24, 1, 0, 0, 0x0f, 0xac, 4, 1, 0, 0, 0x0f, 0xac, 4,
    2, 0, 0, 0x0f, 0xac, 2, 0, 0x0f, 0xac, 8, 0x80, 0]

theorem selectWPA2TransitionMode_elements_network :
    Wcl.validIEs transitionIEs = true ∧ ∃ es, transitionIEs = Element.encodeAll es ∧
      ∃ es', List.Forall₂ Selects es es' ∧ ∃ buffer,
        selectWPA2TransitionMode transitionIEs = .ok (buffer, (Element.encodeAll es').length) ∧
        Element.encodeAll es' = [0, 2, 0x68, 0x69, 48, 20, 1, 0, 0, 0x0f, 0xac, 4, 1, 0, 0, 0x0f, 0xac, 4,
          1, 0, 0, 0x0f, 0xac, 2, 0x80, 0] := by
  have hvalid : Wcl.validIEs transitionIEs = true := by decide +kernel
  have hrun : selectWPA2TransitionMode transitionIEs = .ok ([0, 2, 0x68, 0x69, 48, 20, 1, 0, 0, 0x0f,
      0xac, 4, 1, 0, 0, 0x0f, 0xac, 4, 1, 0, 0, 0x0f, 0xac, 2, 0x80, 0, 0xac, 8, 0x80, 0], 26) := by
    decide +kernel
  obtain ⟨⟨es, hes⟩, hall⟩ := selectWPA2TransitionMode_elements transitionIEs hvalid
  obtain ⟨es', buffer, hselects, hselect, -, htake, -⟩ := hall es hes
  obtain ⟨hbuffer, hlength⟩ := Prod.mk.inj (Except.ok.inj (hrun.symm.trans hselect))
  refine ⟨hvalid, es, hes, es', hselects, buffer, hselect, ?_⟩
  rw [← htake, ← hbuffer, ← hlength]
  rfl

end AirportAwdl.Wcl.Buffers
