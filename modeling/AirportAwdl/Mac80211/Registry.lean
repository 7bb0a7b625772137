import Mathlib.Tactic
import AirportAwdl.Sync

/-!
# The registry of interfaces and stations

`RTWMac80211Registry.h` keeps the virtual interfaces and the stations of a driver in two fixed
tables, with two pointers to the primary interface and its station. Every entry point holds one
recursive lock from its first to its last access, so a run of the registry is a sequence of calls.

Interfaces and stations are pointers to objects of any types `V` and `S`; a null pointer is `none`.
The address of a station is read through its pointer, so it is part of the memory and no part of the
registry.
-/

namespace AirportAwdl.Mac80211

variable {V S D : Type}

/-- An entry of `g_registry_peers`. -/
structure PeerSlot (V S : Type) where
  vif : Option V := none
  sta : Option S := none
deriving DecidableEq

structure Registry (V S : Type) where
  /-- `g_station_lock` is allocated. -/
  stationLock : Bool
  /-- `g_registry_vifs` -/
  vifs : Fin 4 → Option V := fun _ => none
  /-- `g_registry_peers` -/
  peers : Fin 32 → PeerSlot V S := fun _ => {}
  /-- `g_rtw88_vif` -/
  vif : Option V := none
  /-- `g_rtw88_sta` -/
  sta : Option S := none

namespace Registry

variable [DecidableEq V] [DecidableEq S]

/-- `rtw_registry_has_vif` -/
def hasVif (r : Registry V S) (vif : Option V) : Bool :=
  (List.finRange 4).any fun i => r.vifs i == vif && vif.isSome

/-- `rtw88_add_vif` -/
def addVif (r : Registry V S) (vif : Option V) : Bool × Registry V S :=
  if !r.stationLock || vif.isNone then (false, r)
  else if r.hasVif vif then (true, r)
  else
    match (List.finRange 4).find? fun i => (r.vifs i).isNone with
    | some i => (true, { r with vifs := Function.update r.vifs i vif })
    | none => (false, r)

/-- `rtw88_remove_sta` -/
def removeSta (r : Registry V S) (sta : Option S) : Registry V S :=
  if !r.stationLock || sta.isNone then r
  else
    { r with
      peers := fun i => if (r.peers i).sta = sta then {} else r.peers i
      sta := if r.sta = sta then none else r.sta }

/-- One turn of the loop of `rtw88_remove_vif` over the stations. -/
def removeStaOf (vif : Option V) (r : Registry V S) (i : Fin 32) : Registry V S :=
  if (r.peers i).vif = vif then r.removeSta (r.peers i).sta else r

/-- The end of `rtw88_remove_vif`, after the stations. -/
def forgetVif (r : Registry V S) (vif : Option V) : Registry V S :=
  { r with
    vifs := fun i => if r.vifs i = vif then none else r.vifs i
    vif := if r.vif = vif then none else r.vif }

/-- `rtw88_remove_vif` -/
def removeVif (r : Registry V S) (vif : Option V) : Registry V S :=
  if !r.stationLock || vif.isNone then r
  else ((List.finRange 32).foldl (removeStaOf vif) r).forgetVif vif

/-- The answer of `rtw88_add_sta` where its first loop stops at the slot. -/
def settles (addr : S → Mac) (vif : Option V) (sta : Option S) (p : PeerSlot V S) : Option Bool :=
  if p.sta = sta then some (p.vif == vif)
  else if p.vif = vif ∧ p.sta.isSome ∧ p.sta.map addr = sta.map addr then some false
  else none

/-- `rtw88_add_sta` -/
def addSta (addr : S → Mac) (r : Registry V S) (vif : Option V) (sta : Option S) :
    Bool × Registry V S :=
  if !r.stationLock || vif.isNone || sta.isNone then (false, r)
  else if !r.hasVif vif then (false, r)
  else
    match (List.finRange 32).findSome? fun i => settles addr vif sta (r.peers i) with
    | some added => (added, r)
    | none =>
      match (List.finRange 32).find? fun i => (r.peers i).sta.isNone with
      | some i => (true, { r with peers := Function.update r.peers i ⟨vif, sta⟩ })
      | none => (false, r)

/-- `rtw88_register_vif` -/
def registerVif (r : Registry V S) (vif : Option V) : Registry V S :=
  if !r.stationLock then r
  else
    let r := if r.vif ≠ vif then r.removeVif r.vif else r
    let added := r.addVif vif
    if added.1 then { added.2 with vif := vif } else added.2

/-- `rtw88_unregister_vif` -/
def unregisterVif (r : Registry V S) : Registry V S := r.registerVif none

/-- `rtw88_register_sta` -/
def registerSta (addr : S → Mac) (r : Registry V S) (sta : Option S) : Registry V S :=
  if !r.stationLock then r
  else
    let r := if r.sta ≠ sta then r.removeSta r.sta else r
    let added := r.addSta addr r.vif sta
    if added.1 then { added.2 with sta := sta } else added.2

/-- `rtw88_unregister_sta` -/
def unregisterSta (addr : S → Mac) (r : Registry V S) : Registry V S := r.registerSta addr none

/-- `ieee80211_find_sta` -/
def findSta (addr : S → Mac) (r : Registry V S) (vif : Option V) (a : Option Mac) : Option S :=
  if !r.stationLock || vif.isNone || a.isNone then none
  else
    (List.finRange 32).findSome? fun i =>
      if (r.peers i).vif = vif ∧ (r.peers i).sta.isSome ∧ (r.peers i).sta.map addr = a then
        (r.peers i).sta
      else none

end Registry

namespace Registry

/-- The interface is registered. -/
def Has (r : Registry V S) (v : V) : Prop := ∃ i, r.vifs i = some v

/-- The station is registered under the interface. -/
def Under (r : Registry V S) (v : V) (x : S) : Prop :=
  ∃ i, (r.peers i).vif = some v ∧ (r.peers i).sta = some x

/-- Every interface and every station has one slot, a station stands under a registered interface and
is the only one there with its address, and the primary pointers lead to registered objects. -/
structure Consistent (addr : S → Mac) (r : Registry V S) : Prop where
  vif_once : ∀ {i j v}, r.vifs i = some v → r.vifs j = some v → i = j
  sta_once : ∀ {i j x}, (r.peers i).sta = some x → (r.peers j).sta = some x → i = j
  vacant : ∀ {i}, (r.peers i).sta = none → (r.peers i).vif = none
  owned : ∀ {i x}, (r.peers i).sta = some x → ∃ v, (r.peers i).vif = some v ∧ r.Has v
  addr_once : ∀ {v x y}, r.Under v x → r.Under v y → addr x = addr y → x = y
  primary_vif : ∀ {v}, r.vif = some v → r.Has v
  primary_sta : ∀ {x}, r.sta = some x → ∃ v, r.vif = some v ∧ r.Under v x
  /-- Without a lock no call has done anything. -/
  unlocked : r.stationLock = false → ∀ i, r.vifs i = none

section Entries

variable {addr : S → Mac} {r : Registry V S}

lemma Consistent.under_has (h : Consistent addr r) {v : V} {x : S} (hu : r.Under v x) :
    r.Has v := by
  obtain ⟨i, hi, hix⟩ := hu
  obtain ⟨u, hu, hhas⟩ := h.owned hix
  rwa [Option.some.inj (hi.symm.trans hu)]

lemma Consistent.sta_of_vif (h : Consistent addr r) {i : Fin 32} {v : V}
    (hi : (r.peers i).vif = some v) : ∃ x, (r.peers i).sta = some x := by
  rw [← Option.ne_none_iff_exists']
  intro hnone
  rw [h.vacant hnone] at hi
  exact Option.some_ne_none v hi.symm

lemma Consistent.not_has_of_unlocked (h : Consistent addr r) (hlock : r.stationLock = false) (v : V) :
    ¬r.Has v := by
  rintro ⟨i, hi⟩
  exact Option.some_ne_none v (hi.symm.trans (h.unlocked hlock i))

lemma consistent_empty (addr : S → Mac) (lock : Bool) :
    Consistent addr ({ stationLock := lock } : Registry V S) where
  vif_once hi _ := by cases hi.symm
  sta_once hi _ := by cases hi.symm
  vacant _ := rfl
  owned hi := by cases hi.symm
  addr_once hx _ _ := by cases hx.choose_spec.1.symm
  primary_vif hv := by cases hv.symm
  primary_sta hx := by cases hx.symm
  unlocked _ _ := rfl

lemma Consistent.readdress (h : Consistent addr r) {addr' : S → Mac}
    (hsame : ∀ v x, r.Under v x → addr' x = addr x) : Consistent addr' r where
  vif_once := h.vif_once
  sta_once := h.sta_once
  vacant := h.vacant
  owned := h.owned
  addr_once hx hy he := h.addr_once hx hy (by rwa [hsame _ _ hx, hsame _ _ hy] at he)
  primary_vif := h.primary_vif
  primary_sta := h.primary_sta
  unlocked := h.unlocked

end Entries

section Adding

variable [DecidableEq V] {addr : S → Mac} {r : Registry V S}

lemma hasVif_iff (r : Registry V S) (v : V) : r.hasVif (some v) = true ↔ r.Has v := by
  simp [hasVif, Has]

lemma hasVif_eq_false {v : V} (h : ¬r.Has v) : r.hasVif (some v) = false := by
  rw [← Bool.not_eq_true, hasVif_iff]
  exact h

lemma addVif_cases (r : Registry V S) (vif : Option V) :
    r.addVif vif = (false, r) ∨
    (∃ v, vif = some v ∧ r.Has v ∧ r.addVif vif = (true, r)) ∨
    ∃ v i, vif = some v ∧ r.stationLock = true ∧ ¬r.Has v ∧ r.vifs i = none ∧
      r.addVif vif = (true, { r with vifs := Function.update r.vifs i (some v) }) := by
  cases vif with
  | none => exact .inl (by simp [addVif])
  | some v =>
    by_cases hlock : r.stationLock = true
    swap
    · exact .inl (by simp [addVif, hlock])
    by_cases hhas : r.Has v
    · exact .inr (.inl ⟨v, rfl, hhas, by simp [addVif, hlock, (hasVif_iff r v).2 hhas]⟩)
    have hno : r.hasVif (some v) = false := hasVif_eq_false hhas
    cases hfind : (List.finRange 4).find? fun i => (r.vifs i).isNone with
    | none => exact .inl (by simp [addVif, hlock, hno, hfind])
    | some i =>
      have hfree : r.vifs i = none := by simpa using List.find?_some hfind
      exact .inr (.inr ⟨v, i, rfl, hlock, hhas, hfree, by simp [addVif, hlock, hno, hfind]⟩)

omit [DecidableEq V] in
lemma Consistent.insertVif (h : Consistent addr r) {v : V} {i : Fin 4}
    (hlock : r.stationLock = true) (hnew : ¬r.Has v) (hfree : r.vifs i = none) :
    Consistent addr { r with vifs := Function.update r.vifs i (some v) } := by
  have hmono : ∀ u, r.Has u →
      Has { r with vifs := Function.update r.vifs i (some v) } u := by
    rintro u ⟨j, hj⟩
    have hji : j ≠ i := by
      grind
    exact ⟨j, (Function.update_of_ne hji _ _).trans hj⟩
  have hslot : ∀ {j u}, Function.update r.vifs i (some v) j = some u →
      (j = i ∧ u = v) ∨ r.vifs j = some u := by
    grind
  exact {
    vif_once := by
      intro j k u hj hk
      -- an old slot that holds the new interface would make it registered before
      obtain ⟨hji, hu⟩ | hju := hslot hj <;> obtain ⟨hki, hu'⟩ | hku := hslot hk
      · exact hji.trans hki.symm
      · exact absurd ⟨k, hu ▸ hku⟩ hnew
      · exact absurd ⟨j, hu' ▸ hju⟩ hnew
      · exact h.vif_once hju hku
    sta_once := h.sta_once
    vacant := h.vacant
    owned := fun hx => (h.owned hx).imp fun u hu => ⟨hu.1, hmono u hu.2⟩
    addr_once := h.addr_once
    primary_vif := fun hv => hmono _ (h.primary_vif hv)
    primary_sta := h.primary_sta
    unlocked := fun hun => absurd (hlock.symm.trans hun) Bool.true_eq_false.mp }

variable [DecidableEq S]

lemma addSta_cases (addr : S → Mac) (r : Registry V S) (vif : Option V) (sta : Option S) :
    r.addSta addr vif sta = (false, r) ∨
    (∃ v x, vif = some v ∧ sta = some x ∧ r.Under v x ∧ r.addSta addr vif sta = (true, r)) ∨
    ∃ v x i, vif = some v ∧ sta = some x ∧ r.stationLock = true ∧ r.Has v ∧
      (∀ j, (r.peers j).sta ≠ some x) ∧ (∀ y, r.Under v y → addr y ≠ addr x) ∧
      (r.peers i).sta = none ∧
      r.addSta addr vif sta =
        (true, { r with peers := Function.update r.peers i ⟨some v, some x⟩ }) := by
  by_cases hargs : (!r.stationLock || vif.isNone || sta.isNone) = true
  · exact .inl (by simp [addSta, hargs])
  obtain ⟨⟨hlock, hv⟩, hx⟩ : (r.stationLock = true ∧ vif ≠ none) ∧ sta ≠ none := by
    simpa using hargs
  obtain ⟨v, rfl⟩ := Option.ne_none_iff_exists'.mp hv
  obtain ⟨x, rfl⟩ := Option.ne_none_iff_exists'.mp hx
  by_cases hhas : r.Has v
  swap
  · exact .inl (by simp [addSta, hasVif_eq_false hhas])
  have hyes : r.hasVif (some v) = true := (hasVif_iff r v).2 hhas
  cases hscan : (List.finRange 32).findSome? fun i => settles addr (some v) (some x) (r.peers i) with
  | some added =>
    cases added with
    | false => exact .inl (by simp [addSta, hyes, hscan])
    | true =>
      obtain ⟨i, -, hi⟩ := List.exists_of_findSome?_eq_some hscan
      have hunder : (r.peers i).vif = some v ∧ (r.peers i).sta = some x := by
        simp only [settles] at hi
        grind
      exact .inr (.inl ⟨v, x, rfl, rfl, ⟨i, hunder⟩, by simp [addSta, hlock, hyes, hscan]⟩)
  | none =>
    have hnew : ∀ j, (r.peers j).sta ≠ some x := by
      grind [settles]
    have hclash : ∀ y, r.Under v y → addr y ≠ addr x := by
      rintro y ⟨j, hjv, hjy⟩ heq
      grind [settles]
    cases hfind : (List.finRange 32).find? fun i => (r.peers i).sta.isNone with
    | none => exact .inl (by simp [addSta, hlock, hyes, hscan, hfind])
    | some i =>
      have hfree : (r.peers i).sta = none := by simpa using List.find?_some hfind
      grind [addSta]

omit [DecidableEq V] [DecidableEq S] in
lemma under_insertSta {v : V} {x : S} {i : Fin 32} (hfree : (r.peers i).sta = none) (u : V) (y : S) :
    Under { r with peers := Function.update r.peers i ⟨some v, some x⟩ } u y ↔
      r.Under u y ∨ (u = v ∧ y = x) := by
  constructor
  · rintro ⟨j, hju, hjy⟩
    by_cases hji : j = i
    · grind
    · simp only [Function.update_of_ne hji] at hju hjy
      exact .inl ⟨j, hju, hjy⟩
  · rintro (⟨j, hju, hjy⟩ | ⟨rfl, rfl⟩)
    · have hji : j ≠ i := by
        grind
      exact ⟨j, by simpa only [Function.update_of_ne hji] using ⟨hju, hjy⟩⟩
    · exact ⟨i, by simp⟩

omit [DecidableEq V] [DecidableEq S] in
lemma Consistent.insertSta (h : Consistent addr r) {v : V} {x : S} {i : Fin 32}
    (hhas : r.Has v) (hnew : ∀ j, (r.peers j).sta ≠ some x)
    (hclash : ∀ y, r.Under v y → addr y ≠ addr x) (hfree : (r.peers i).sta = none) :
    Consistent addr { r with peers := Function.update r.peers i ⟨some v, some x⟩ } := by
  have hslot : ∀ {j y}, (Function.update r.peers i ⟨some v, some x⟩ j).sta = some y →
      (j = i ∧ y = x) ∨ (j ≠ i ∧ (r.peers j).sta = some y) := by
    grind
  exact {
    vif_once := h.vif_once
    sta_once := by
      grind [h.sta_once]
    vacant := by
      intro j hj
      by_cases hji : j = i
      · subst hji
        simp at hj
      grind [h.vacant]
    owned := by
      intro j y hj
      obtain ⟨rfl, rfl⟩ | ⟨hji, hj⟩ := hslot hj
      · exact ⟨v, by simp, hhas⟩
      · obtain ⟨u, hu, hhasu⟩ := h.owned hj
        exact ⟨u, by simpa only [Function.update_of_ne hji] using hu, hhasu⟩
    addr_once := by
      grind [under_insertSta, h.addr_once]
    primary_vif := h.primary_vif
    primary_sta := fun hy => (h.primary_sta hy).imp fun u hu =>
      ⟨hu.1, (under_insertSta hfree u _).2 (.inl hu.2)⟩
    unlocked := h.unlocked }

end Adding

section Removing

/-- Some slots were emptied, the others are as they were. -/
structure Shrinks (r r' : Registry V S) : Prop where
  lock : r'.stationLock = r.stationLock
  vifs : ∀ i, r'.vifs i = r.vifs i ∨ r'.vifs i = none
  peers : ∀ i, r'.peers i = r.peers i ∨ r'.peers i = {}

variable {addr : S → Mac} {r r' : Registry V S}

lemma Shrinks.vif_eq (hs : Shrinks r r') {i : Fin 4} {v : V} (hv : r'.vifs i = some v) :
    r.vifs i = some v := by
  obtain hsame | hnone := hs.vifs i
  · rwa [← hsame]
  · cases hv.symm.trans hnone

lemma Shrinks.peer_eq (hs : Shrinks r r') {i : Fin 32} {x : S} (hx : (r'.peers i).sta = some x) :
    r'.peers i = r.peers i := by
  grind [hs.peers]

lemma Shrinks.under (hs : Shrinks r r') {v : V} {x : S} (hx : r'.Under v x) : r.Under v x := by
  obtain ⟨i, hi, hix⟩ := hx
  have hsame := hs.peer_eq hix
  exact ⟨i, hsame ▸ hi, hsame ▸ hix⟩

lemma Consistent.shrink (h : Consistent addr r) (hs : Shrinks r r')
    (howned : ∀ v x, r'.Under v x → r'.Has v) (hvif : ∀ v, r'.vif = some v → r'.Has v)
    (hsta : ∀ x, r'.sta = some x → ∃ v, r'.vif = some v ∧ r'.Under v x) : Consistent addr r' where
  vif_once hi hj := h.vif_once (hs.vif_eq hi) (hs.vif_eq hj)
  sta_once {i j x} hi hj :=
    h.sta_once (by rwa [← hs.peer_eq hi]) (by rwa [← hs.peer_eq hj])
  vacant {i} hi := by
    obtain hsame | hempty := hs.peers i
    · rw [hsame] at hi ⊢
      exact h.vacant hi
    · rw [hempty]
  owned {i x} hi := by
    obtain ⟨v, hv, -⟩ := h.owned (hs.peer_eq hi ▸ hi)
    rw [← hs.peer_eq hi] at hv
    exact ⟨v, hv, howned v x ⟨i, hv, hi⟩⟩
  addr_once hx hy := h.addr_once (hs.under hx) (hs.under hy)
  primary_vif := hvif _
  primary_sta := hsta _
  unlocked hlock i := by
    obtain hsame | hnone := hs.vifs i
    · rw [hsame]
      exact h.unlocked (hs.lock ▸ hlock) i
    · exact hnone

variable [DecidableEq S]

lemma shrinks_removeSta (r : Registry V S) (sta : Option S) : Shrinks r (r.removeSta sta) := by
  by_cases hargs : (!r.stationLock || sta.isNone) = true
  · rw [removeSta, if_pos hargs]
    exact ⟨rfl, fun _ => .inl rfl, fun _ => .inl rfl⟩
  · rw [removeSta, if_neg hargs]
    exact ⟨rfl, fun _ => .inl rfl, fun i => (ite_eq_or_eq _ _ _).symm⟩

lemma removeSta_some (hlock : r.stationLock = true) (x : S) :
    r.removeSta (some x) =
      { r with
        peers := fun i => if (r.peers i).sta = some x then {} else r.peers i
        sta := if r.sta = some x then none else r.sta } := by
  simp [removeSta, hlock]

lemma under_removeSta (hlock : r.stationLock = true) (x : S) (v : V) (y : S) :
    (r.removeSta (some x)).Under v y ↔ r.Under v y ∧ y ≠ x := by
  rw [removeSta_some hlock]
  constructor
  · rintro ⟨i, hi, hiy⟩
    by_cases hx : (r.peers i).sta = some x
    · simp [hx] at hiy
    · simp only [hx, if_false] at hi hiy
      exact ⟨⟨i, hi, hiy⟩, fun heq => hx (heq ▸ hiy)⟩
  · rintro ⟨⟨i, hi, hiy⟩, hne⟩
    have hx : (r.peers i).sta ≠ some x := by
      rw [hiy]
      exact fun heq => hne (Option.some.inj heq)
    exact ⟨i, by simpa only [hx, if_false] using ⟨hi, hiy⟩⟩

/-- Removing a station keeps the registry consistent. -/
lemma Consistent.removeSta (h : Consistent addr r) (sta : Option S) :
    Consistent addr (r.removeSta sta) := by
  by_cases hargs : (!r.stationLock || sta.isNone) = true
  · simpa only [Registry.removeSta, hargs, if_true] using h
  obtain ⟨hlock, hx⟩ : r.stationLock = true ∧ sta ≠ none := by simpa using hargs
  obtain ⟨x, rfl⟩ := Option.ne_none_iff_exists'.mp hx
  have hform := removeSta_some hlock x
  have hhas : ∀ v, (r.removeSta (some x)).Has v ↔ r.Has v := by
    intro v
    rw [hform]
    rfl
  refine h.shrink (shrinks_removeSta r _) (fun v y hy => ?_) (fun v hv => ?_) fun y hy => ?_
  · rw [hhas]
    rw [under_removeSta hlock] at hy
    exact h.under_has hy.1
  · rw [hhas]
    rw [hform] at hv
    exact h.primary_vif hv
  · rw [hform] at hy
    simp only at hy
    split_ifs at hy with hprim
    obtain ⟨v, hv, hunder⟩ := h.primary_sta hy
    refine ⟨v, by rw [hform]; exact hv, (under_removeSta hlock x v y).2 ⟨hunder, ?_⟩⟩
    rintro rfl
    exact hprim hy

variable [DecidableEq V]

lemma Consistent.peers_removeStaOf (h : Consistent addr r) (hlock : r.stationLock = true) (v : V)
    (i j : Fin 32) :
    (removeStaOf (some v) r i).peers j =
      if j = i ∧ (r.peers j).vif = some v then {} else r.peers j := by
  simp only [removeStaOf]
  by_cases hv : (r.peers i).vif = some v
  · obtain ⟨x, hx⟩ := h.sta_of_vif hv
    rw [if_pos hv, hx, removeSta_some hlock]
    by_cases hji : j = i
    · subst hji
      simp [hx, hv]
    · have hne : (r.peers j).sta ≠ some x := fun hj => hji (h.sta_once hj hx)
      simp [hne, hji]
  · rw [if_neg hv, if_neg]
    rintro ⟨rfl, hj⟩
    exact hv hj

lemma sta_removeStaOf (hlock : r.stationLock = true) (v : V) (i : Fin 32) (x : S) :
    (removeStaOf (some v) r i).sta = some x ↔
      r.sta = some x ∧ ¬((r.peers i).vif = some v ∧ (r.peers i).sta = some x) := by
  simp only [removeStaOf]
  by_cases hv : (r.peers i).vif = some v
  swap
  · simp [hv]
  cases hsta : (r.peers i).sta with
  | none => simp [removeSta]
  | some y =>
    rw [removeSta_some hlock]
    grind

lemma removeStaOf_frame (vif : Option V) (r : Registry V S) (i : Fin 32) :
    (removeStaOf vif r i).stationLock = r.stationLock ∧ (removeStaOf vif r i).vifs = r.vifs ∧
      (removeStaOf vif r i).vif = r.vif := by
  simp only [removeStaOf, removeSta]
  grind

lemma Consistent.removeStaOf (h : Consistent addr r) (vif : Option V) (i : Fin 32) :
    Consistent addr (removeStaOf vif r i) := by
  simp only [Registry.removeStaOf]
  split_ifs
  · exact h.removeSta _
  · exact h

/-- The registry after the loop of `rtw88_remove_vif` has passed the slots of `l`. -/
structure StationsRemoved (v : V) (l : List (Fin 32)) (r r' : Registry V S) : Prop where
  lock : r'.stationLock = r.stationLock
  vifs : r'.vifs = r.vifs
  vif : r'.vif = r.vif
  peers : ∀ j, r'.peers j = if j ∈ l ∧ (r.peers j).vif = some v then {} else r.peers j
  sta : ∀ x, r'.sta = some x ↔
    r.sta = some x ∧ ∀ i ∈ l, ¬((r.peers i).vif = some v ∧ (r.peers i).sta = some x)

lemma Consistent.foldl_removeStaOf (h : Consistent addr r) (hlock : r.stationLock = true) (v : V)
    (l : List (Fin 32)) :
    Consistent addr (l.foldl (Registry.removeStaOf (some v)) r) ∧
      StationsRemoved v l r (l.foldl (Registry.removeStaOf (some v)) r) := by
  induction l generalizing r with
  | nil => exact ⟨h, rfl, rfl, rfl, fun j => by simp, fun x => by simp⟩
  | cons i l ih =>
    obtain ⟨hl, hvifs, hvif⟩ := removeStaOf_frame (some v) r i
    have hpeers := h.peers_removeStaOf hlock v i
    have hsta := sta_removeStaOf hlock v i
    obtain ⟨hc, hr⟩ := ih (h.removeStaOf (some v) i) (hl.trans hlock)
    refine ⟨hc, hr.lock.trans hl, hr.vifs.trans hvifs, hr.vif.trans hvif, fun j => ?_, fun x => ?_⟩
    · -- a slot emptied in this turn has no interface any more, so the rest of the loop passes it
      rw [List.foldl_cons, hr.peers j, hpeers j]
      grind
    · rw [List.foldl_cons, hr.sta x, hsta x, List.forall_mem_cons, and_assoc]
      grind

/-- `r'` is `r` without the interface `gone` and its stations. -/
structure VifRemoved (gone : Option V) (r r' : Registry V S) : Prop where
  has : ∀ u, r'.Has u ↔ r.Has u ∧ gone ≠ some u
  under : ∀ u x, r'.Under u x ↔ r.Under u x ∧ gone ≠ some u
  vif : ∀ u, r'.vif = some u ↔ r.vif = some u ∧ gone ≠ some u
  sta : ∀ x, r'.sta = some x ↔ r.sta = some x ∧ ∀ u, r.Under u x → gone ≠ some u

omit [DecidableEq S] in
lemma has_forgetVif (v u : V) (r : Registry V S) :
    (r.forgetVif (some v)).Has u ↔ r.Has u ∧ some v ≠ some u := by
  constructor
  · rintro ⟨i, hi⟩
    simp only [forgetVif] at hi
    split_ifs at hi with hv
    exact ⟨⟨i, hi⟩, fun heq => hv (hi.trans heq.symm)⟩
  · rintro ⟨⟨i, hi⟩, hne⟩
    exact ⟨i, by simp only [forgetVif, hi, if_neg hne.symm]⟩

omit [DecidableEq S] in
lemma vif_forgetVif (v u : V) (r : Registry V S) :
    (r.forgetVif (some v)).vif = some u ↔ r.vif = some u ∧ some v ≠ some u := by
  simp only [forgetVif]
  grind

lemma Consistent.vifRemoved (h : Consistent addr r) (vif : Option V) :
    VifRemoved vif r (r.removeVif vif) := by
  by_cases hargs : (!r.stationLock || vif.isNone) = true
  · rw [removeVif, if_pos hargs]
    obtain hlock | rfl : r.stationLock = false ∨ vif = none := by simpa using hargs
    · have hno := h.not_has_of_unlocked hlock
      exact {
        has := fun u => by simp [hno u]
        under := fun u x => ⟨fun hu => absurd (h.under_has hu) (hno u), And.left⟩
        vif := fun u => ⟨fun hu => absurd (h.primary_vif hu) (hno u), And.left⟩
        sta := fun x => ⟨fun hx => ⟨hx, fun u hu => absurd (h.under_has hu) (hno u)⟩, And.left⟩ }
    · exact ⟨fun u => by simp, fun u x => by simp, fun u => by simp, fun x => by simp⟩
  obtain ⟨hlock, hv⟩ : r.stationLock = true ∧ vif ≠ none := by simpa using hargs
  obtain ⟨v, rfl⟩ := Option.ne_none_iff_exists'.mp hv
  obtain ⟨hc, hr⟩ := h.foldl_removeStaOf hlock v (List.finRange 32)
  rw [removeVif, if_neg hargs]
  generalize (List.finRange 32).foldl (Registry.removeStaOf (some v)) r = r' at hc hr ⊢
  have hpeers : ∀ j, r'.peers j = if (r.peers j).vif = some v then {} else r.peers j := by
    intro j
    simp only [hr.peers j, List.mem_finRange, true_and]
  exact {
    has := fun u => by
      rw [has_forgetVif, Has, Has, hr.vifs]
    under := fun u x => by
      constructor
      · rintro ⟨i, hi, hix⟩
        simp only [forgetVif, hpeers i] at hi hix
        split_ifs at hi hix with hiv
        exact ⟨⟨i, hi, hix⟩, fun heq => hiv (hi.trans heq.symm)⟩
      · rintro ⟨⟨i, hi, hix⟩, hne⟩
        have hiv : (r.peers i).vif ≠ some v := by
          rw [hi]
          exact hne.symm
        exact ⟨i, by simpa only [forgetVif, hpeers i, if_neg hiv] using ⟨hi, hix⟩⟩
    vif := fun u => by
      rw [vif_forgetVif, hr.vif]
    sta := fun x => by
      show r'.sta = some x ↔ _
      rw [hr.sta x]
      refine and_congr_right fun _ => ⟨?_, ?_⟩
      · rintro hno u ⟨i, hi, hix⟩ heq
        exact hno i (List.mem_finRange i) ⟨hi.trans heq.symm, hix⟩
      · intro hno i _ hi
        exact hno v ⟨i, hi⟩ rfl }

lemma shrinks_removeVif (h : Consistent addr r) (vif : Option V) : Shrinks r (r.removeVif vif) := by
  by_cases hargs : (!r.stationLock || vif.isNone) = true
  · rw [removeVif, if_pos hargs]
    exact ⟨rfl, fun _ => .inl rfl, fun _ => .inl rfl⟩
  obtain ⟨hlock, hv⟩ : r.stationLock = true ∧ vif ≠ none := by simpa using hargs
  obtain ⟨v, rfl⟩ := Option.ne_none_iff_exists'.mp hv
  obtain ⟨-, hr⟩ := h.foldl_removeStaOf hlock v (List.finRange 32)
  rw [removeVif, if_neg hargs]
  exact {
    lock := hr.lock
    vifs := fun i => by
      simp only [forgetVif, hr.vifs]
      exact (ite_eq_or_eq _ _ _).symm
    peers := fun i => by
      simp only [forgetVif, hr.peers]
      exact (ite_eq_or_eq _ _ _).symm }

/-- So does removing an interface, with the stations under it. -/
lemma Consistent.removeVif (h : Consistent addr r) (vif : Option V) :
    Consistent addr (r.removeVif vif) := by
  have hr := h.vifRemoved vif
  refine h.shrink (shrinks_removeVif h vif) (fun v x hx => ?_) (fun v hv => ?_) fun x hx => ?_
  · rw [hr.under] at hx
    exact (hr.has v).2 ⟨h.under_has hx.1, hx.2⟩
  · rw [hr.vif] at hv
    exact (hr.has v).2 ⟨h.primary_vif hv.1, hv.2⟩
  · rw [hr.sta] at hx
    obtain ⟨v, hv, hunder⟩ := h.primary_sta hx.1
    exact ⟨v, (hr.vif v).2 ⟨hv, hx.2 v hunder⟩, (hr.under v x).2 ⟨hunder, hx.2 v hunder⟩⟩

end Removing

section Primary

variable [DecidableEq V] [DecidableEq S] {addr : S → Mac} {r : Registry V S}

omit [DecidableEq S] in
/-- An interface without a slot gets a free one. -/
lemma Consistent.addVif (h : Consistent addr r) (vif : Option V) :
    Consistent addr (r.addVif vif).2 := by
  grind [addVif_cases, h.insertVif]

/-- So does a station, unless its interface has one of that address. -/
lemma Consistent.addSta (h : Consistent addr r) (vif : Option V) (sta : Option S) :
    Consistent addr (r.addSta addr vif sta).2 := by
  grind [addSta_cases, h.insertSta]

omit [DecidableEq S] in
lemma has_of_addVif {vif : Option V} (hadded : (r.addVif vif).1 = true) :
    ∃ v, vif = some v ∧ (r.addVif vif).2.Has v := by
  obtain hcall | ⟨v, hv, hhas, hcall⟩ | ⟨v, i, hv, -, -, -, hcall⟩ := addVif_cases r vif
  · rw [hcall] at hadded
    exact absurd hadded Bool.false_ne_true
  · exact ⟨v, hv, by rwa [hcall]⟩
  · exact ⟨v, hv, by rw [hcall]; exact ⟨i, Function.update_self _ _ _⟩⟩

lemma under_of_addSta {vif : Option V} {sta : Option S}
    (hadded : (r.addSta addr vif sta).1 = true) :
    ∃ v x, vif = some v ∧ sta = some x ∧ (r.addSta addr vif sta).2.Under v x := by
  grind [addSta_cases, under_insertSta]

omit [DecidableEq S] in
lemma addVif_frame (r : Registry V S) (vif : Option V) :
    (r.addVif vif).2.vif = r.vif ∧ (r.addVif vif).2.sta = r.sta := by
  grind [addVif_cases]

lemma addSta_frame (addr : S → Mac) (r : Registry V S) (vif : Option V) (sta : Option S) :
    (r.addSta addr vif sta).2.vif = r.vif := by
  grind [addSta_cases]

/-- The old primary interface is gone before the new one is added, so no primary station is left
under another. -/
lemma Consistent.registerVif (h : Consistent addr r) (vif : Option V) :
    Consistent addr (r.registerVif vif) := by
  simp only [Registry.registerVif]
  split_ifs with hlock hne hadded hadded
  · exact h
  · obtain ⟨v, rfl, hhas⟩ := has_of_addVif hadded
    obtain ⟨hvif, hsta⟩ := addVif_frame (r.removeVif r.vif) (some v)
    have hc := (h.removeVif r.vif).addVif (some v)
    have hnone : (r.removeVif r.vif).sta = none := by
      rw [Option.eq_none_iff_forall_ne_some]
      intro x hx
      obtain ⟨u, hu, -⟩ := (h.removeVif r.vif).primary_sta hx
      exact ((h.vifRemoved r.vif).vif u).1 hu |>.2 (((h.vifRemoved r.vif).vif u).1 hu).1
    exact { hc with
      primary_vif := fun hu => Option.some.inj hu ▸ hhas
      primary_sta := fun hx => absurd (hx.symm.trans (hsta.trans hnone)) (Option.some_ne_none _) }
  · exact (h.removeVif r.vif).addVif vif
  · obtain ⟨v, rfl, hhas⟩ := has_of_addVif hadded
    have hc := h.addVif (some v)
    exact { hc with
      primary_vif := fun hu => Option.some.inj hu ▸ hhas
      primary_sta := fun hx => by
        have := hc.primary_sta hx
        rwa [(addVif_frame r (some v)).1, not_not.mp hne] at this }
  · exact h.addVif vif

lemma Consistent.registerSta (h : Consistent addr r) (sta : Option S) :
    Consistent addr (r.registerSta addr sta) := by
  simp only [Registry.registerSta]
  by_cases hlock : (!r.stationLock) = true
  · rwa [if_pos hlock]
  have hcons : Consistent addr (if r.sta ≠ sta then r.removeSta r.sta else r) := by
    split_ifs
    · exact h.removeSta _
    · exact h
  generalize (if r.sta ≠ sta then r.removeSta r.sta else r) = r' at hcons ⊢
  have hc := hcons.addSta r'.vif sta
  split_ifs with hadded
  · obtain ⟨v, x, hv, rfl, hunder⟩ := under_of_addSta hadded
    exact { hc with
      primary_sta := fun hy => ⟨v, (addSta_frame addr r' _ _).trans hv, Option.some.inj hy ▸ hunder⟩ }
  · exact hc

end Primary

section Lookup

variable [DecidableEq V] {addr : S → Mac} {r : Registry V S}

lemma Consistent.findSta_eq_some (h : Consistent addr r) (vif : Option V) (a : Option Mac) (x : S) :
    r.findSta addr vif a = some x ↔
      ∃ v, vif = some v ∧ a = some (addr x) ∧ r.Under v x := by
  by_cases hargs : (!r.stationLock || vif.isNone || a.isNone) = true
  · rw [findSta, if_pos hargs]
    refine ⟨fun hx => absurd hx.symm (Option.some_ne_none x), ?_⟩
    rintro ⟨v, rfl, rfl, hunder⟩
    have hlock : r.stationLock = false := by simpa using hargs
    exact absurd (h.under_has hunder) (h.not_has_of_unlocked hlock v)
  obtain ⟨⟨hlock, hv⟩, ha⟩ : (r.stationLock = true ∧ vif ≠ none) ∧ a ≠ none := by
    simpa using hargs
  obtain ⟨v, rfl⟩ := Option.ne_none_iff_exists'.mp hv
  obtain ⟨m, rfl⟩ := Option.ne_none_iff_exists'.mp ha
  rw [findSta, if_neg hargs]
  constructor
  · intro hfind
    obtain ⟨i, -, hi⟩ := List.exists_of_findSome?_eq_some hfind
    split_ifs at hi with hmatch
    obtain ⟨hiv, -, haddr⟩ := hmatch
    refine ⟨v, rfl, ?_, i, hiv, hi⟩
    rw [← haddr, hi]
    rfl
  · rintro ⟨u, hu, hm, hunder⟩
    obtain rfl := Option.some.inj hu
    -- some station of the interface has the address, and there is only one
    obtain ⟨y, hy⟩ : ∃ y, (List.finRange 32).findSome? (fun i =>
        if (r.peers i).vif = some v ∧ (r.peers i).sta.isSome ∧ (r.peers i).sta.map addr = some m then
          (r.peers i).sta
        else none) = some y := by
      rw [← Option.isSome_iff_exists, List.findSome?_isSome_iff]
      obtain ⟨i, hiv, hix⟩ := hunder
      exact ⟨i, List.mem_finRange i, by simp [hiv, hix, Option.some.inj hm]⟩
    rw [hy]
    obtain ⟨i, -, hi⟩ := List.exists_of_findSome?_eq_some hy
    split_ifs at hi with hmatch
    obtain ⟨hiv, -, haddr⟩ := hmatch
    have haddr' : addr y = addr x := by
      rw [hi, hm] at haddr
      exact Option.some.inj haddr
    rw [h.addr_once ⟨i, hiv, hi⟩ hunder haddr']

lemma Consistent.findSta_eq_none (h : Consistent addr r) (vif : Option V) (a : Option Mac) :
    r.findSta addr vif a = none ↔ ¬∃ v x, vif = some v ∧ a = some (addr x) ∧ r.Under v x := by
  rw [Option.eq_none_iff_forall_ne_some, ← not_exists, not_iff_not, exists_comm]
  exact exists_congr fun x => h.findSta_eq_some vif a x

end Lookup

end Registry

/-- The registry and the addresses in the memory of the stations. -/
structure World (V S : Type) where
  registry : Registry V S
  addr : S → Mac

inductive Call (V S : Type) where
  | addVif (vif : Option V)
  | removeVif (vif : Option V)
  | addSta (vif : Option V) (sta : Option S)
  | removeSta (sta : Option S)
  | registerVif (vif : Option V)
  | unregisterVif
  | registerSta (sta : Option S)
  | unregisterSta
  /-- The owner of a station that is not registered writes its address. -/
  | readdress (x : S) (a : Mac)

namespace World

variable [DecidableEq V] [DecidableEq S]

def registered (w : World V S) (x : S) : Bool :=
  (List.finRange 32).any fun i => (w.registry.peers i).sta == some x

def step (w : World V S) : Call V S → World V S
  | .addVif vif => { w with registry := (w.registry.addVif vif).2 }
  | .removeVif vif => { w with registry := w.registry.removeVif vif }
  | .addSta vif sta => { w with registry := (w.registry.addSta w.addr vif sta).2 }
  | .removeSta sta => { w with registry := w.registry.removeSta sta }
  | .registerVif vif => { w with registry := w.registry.registerVif vif }
  | .unregisterVif => { w with registry := w.registry.unregisterVif }
  | .registerSta sta => { w with registry := w.registry.registerSta w.addr sta }
  | .unregisterSta => { w with registry := w.registry.unregisterSta w.addr }
  | .readdress x a => if w.registered x then w else { w with addr := Function.update w.addr x a }

/-- The world after a sequence of calls on an empty registry. -/
def run (lock : Bool) (addr : S → Mac) (calls : List (Call V S)) : World V S :=
  calls.foldl step ⟨{ stationLock := lock }, addr⟩

def Consistent (w : World V S) : Prop := w.registry.Consistent w.addr

/-- Every call keeps the registry consistent. -/
lemma Consistent.step {w : World V S} (h : w.Consistent) (call : Call V S) :
    (w.step call).Consistent := by
  cases call with
  | addVif vif => exact Registry.Consistent.addVif h vif
  | removeVif vif => exact Registry.Consistent.removeVif h vif
  | addSta vif sta => exact Registry.Consistent.addSta h vif sta
  | removeSta sta => exact Registry.Consistent.removeSta h sta
  | registerVif vif => exact Registry.Consistent.registerVif h vif
  | unregisterVif => exact Registry.Consistent.registerVif h none
  | registerSta sta => exact Registry.Consistent.registerSta h sta
  | unregisterSta => exact Registry.Consistent.registerSta h none
  | readdress x a =>
    simp only [World.step]
    split_ifs with hreg
    · exact h
    · refine Registry.Consistent.readdress h fun v y hy => Function.update_of_ne ?_ _ _
      rintro rfl
      obtain ⟨i, -, hi⟩ := hy
      exact hreg (List.any_eq_true.mpr ⟨i, List.mem_finRange i, by simpa using hi⟩)

/-- After any calls the registry is consistent. -/
lemma consistent_run (lock : Bool) (addr : S → Mac) (calls : List (Call V S)) :
    (run lock addr calls).Consistent :=
  List.foldlRecOn calls World.step (Registry.consistent_empty addr lock)
    fun _ h call _ => h.step call

/-- After any sequence of calls the registry is consistent, a lookup returns the one registered station
that matches, and removing an interface takes out that interface with its stations and nothing
else. -/
theorem registry_consistent (lock : Bool) (addr : S → Mac) (calls : List (Call V S)) :
    let w := run lock addr calls
    let r := w.registry
    (∀ i j v, r.vifs i = some v → r.vifs j = some v → i = j) ∧
    (∀ i x, (r.peers i).sta = some x →
      (∃ v, (r.peers i).vif = some v ∧ r.Has v) ∧ ∀ j, (r.peers j).sta = some x → j = i) ∧
    (∀ v x y, r.Under v x → r.Under v y → w.addr x = w.addr y → x = y) ∧
    (∀ v, r.vif = some v → r.Has v) ∧
    (∀ x, r.sta = some x → ∃ v, r.vif = some v ∧ r.Under v x) ∧
    (∀ vif a x, r.findSta w.addr vif a = some x ↔
      ∃ v, vif = some v ∧ a = some (w.addr x) ∧ r.Under v x) ∧
    (∀ vif a, r.findSta w.addr vif a = none ↔
      ¬∃ v x, vif = some v ∧ a = some (w.addr x) ∧ r.Under v x) ∧
    ∀ vif, r.VifRemoved vif (r.removeVif vif) := by
  intro w r
  have h : r.Consistent w.addr := consistent_run lock addr calls
  exact ⟨fun i j v => h.vif_once, fun i x hx => ⟨h.owned hx, fun j hj => h.sta_once hj hx⟩,
    fun v x y => h.addr_once, fun v => h.primary_vif, fun x => h.primary_sta, h.findSta_eq_some,
    h.findSta_eq_none, h.vifRemoved⟩

end World

end AirportAwdl.Mac80211
