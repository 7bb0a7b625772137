import Mathlib.Data.List.Lex
import Mathlib.Data.Prod.Lex
import AirportAwdl.Lib.Champion
import AirportAwdl.Election.Selection

/-!
# The election of an unmanaged engine

Role 1 without native management ranks the stored observations itself. The scan compares
wrapping 32-bit counters by their signed difference, which orders them only while they lie in
one half of the circle. Under that condition the comparisons of the scan are those of one
lexicographic key (`Peer.standing`), so the elected peer is the maximum of the contenders and
does not depend on the slots they are stored in.
-/

namespace AirportAwdl.Election

open ByteBuffer

variable {s : State} {now : ℕ} {base : UInt32}

/-- How far a wrapping counter is ahead of `base`. -/
def ahead (base c : UInt32) : ℕ := (c - base).toNat

lemma rank_eq {a b : UInt32} (ha : ahead base a < 2 ^ 31) (hb : ahead base b < 2 ^ 31) :
    State.rank a b = (ahead base a : ℤ) - ahead base b := by
  have hwrap : (a - b).toNat = (2 ^ 32 - b.toNat + a.toNat) % 2 ^ 32 := UInt32.toNat_sub a b
  have hb' := b.toNat_lt
  have hbase := base.toNat_lt
  simp only [ahead, UInt32.toNat_sub] at ha hb ⊢
  rw [State.rank, BitVec.toInt_eq_toNat_bmod, UInt32.toNat_toBitVec, hwrap, Int.bmod_def]
  split <;> omega

/-- The order of the election: metric, then counter, then the smaller distance, then the
larger address. -/
def Above (base : UInt32) (p q : Peer) : Prop :=
  q.advertisement.metric < p.advertisement.metric ∨
    (p.advertisement.metric = q.advertisement.metric ∧
      (ahead base q.advertisement.masterCounter < ahead base p.advertisement.masterCounter ∨
        (ahead base p.advertisement.masterCounter = ahead base q.advertisement.masterCounter ∧
          (p.advertisement.distance < q.advertisement.distance ∨
            (p.advertisement.distance = q.advertisement.distance ∧
              q.mac.toList < p.mac.toList)))))

/-- The lexicographic key of that order. -/
def Peer.standing (base : UInt32) (p : Peer) : ℕ ×ₗ ℕ ×ₗ ℕᵒᵈ ×ₗ List ℕ :=
  toLex (p.advertisement.metric.toNat, toLex (ahead base p.advertisement.masterCounter,
    toLex (OrderDual.toDual p.advertisement.distance.toNat, p.mac.toList.map UInt8.toNat)))

lemma map_toNat_lt (a b : List UInt8) :
    a.map UInt8.toNat < b.map UInt8.toNat ↔ a < b := by
  induction a generalizing b with
  | nil =>
    cases b with
    | nil => simp
    | cons y b => simp
  | cons x a ih =>
    cases b with
    | nil => simp
    | cons y b =>
      rw [List.map_cons, List.map_cons, List.cons_lt_cons_iff, List.cons_lt_cons_iff, ih,
        UInt8.toNat_inj, UInt8.lt_iff_toNat_lt]

lemma standing_lt_iff (p q : Peer) : q.standing base < p.standing base ↔ Above base p q := by
  simp only [Peer.standing, Above, Prod.Lex.toLex_lt_toLex, map_toNat_lt, UInt32.lt_iff_toNat_lt,
    OrderDual.toDual_lt_toDual, OrderDual.toDual_inj, UInt32.toNat_inj]
  rw [eq_comm (a := q.advertisement.metric), eq_comm (a := ahead base q.advertisement.masterCounter),
    eq_comm (a := q.advertisement.distance)]

lemma mac_eq_of_standing {p q : Peer} (h : p.standing base = q.standing base) :
    p.mac = q.mac := by
  have hlist : p.mac.toList.map UInt8.toNat = q.mac.toList.map UInt8.toNat :=
    congrArg (fun k => (ofLex (ofLex (ofLex k).2).2).2) h
  have hinj : Function.Injective UInt8.toNat := fun a b => UInt8.toNat_inj.mp
  exact Vector.toList_inj.mp (List.map_injective_iff.mpr hinj hlist)

lemma outranks_iff {p q : Peer} (hp : ahead base p.advertisement.masterCounter < 2 ^ 31)
    (hq : ahead base q.advertisement.masterCounter < 2 ^ 31) :
    State.outranks p q ↔ Above base p q := by
  have hrank := rank_eq hp hq
  simp only [State.outranks, Above, State.macLess, hrank, Bool.or_eq_true, Bool.and_eq_true,
    decide_eq_true_eq, beq_iff_eq, gt_iff_lt]
  grind

/-- A live observation the election may follow: a foreign root, not through this station, not
too deep. -/
structure State.Considers (s : State) (now : ℕ) (p : Peer) : Prop where
  live : p.Live now
  master : p.advertisement.master ≠ s.mac
  sync : p.advertisement.sync ≠ s.mac
  distance : p.advertisement.distance < 10

/-- Such an observation that outranks the station itself, whose own counter is `own`. -/
structure State.Contends (s : State) (now : ℕ) (base own : UInt32) (p : Peer) : Prop
    extends s.Considers now p where
  outranks : s.metric < p.advertisement.metric ∨
    (p.advertisement.metric = s.metric ∧
      (ahead base own < ahead base p.advertisement.masterCounter ∨
        (ahead base p.advertisement.masterCounter = ahead base own ∧
          p.advertisement.distance = 0 ∧ s.mac.toList < p.mac.toList)))

lemma outranksSelf_iff {p : Peer} (hp : ahead base p.advertisement.masterCounter < 2 ^ 31)
    (hself : ahead base s.selfCounter < 2 ^ 31) :
    s.outranksSelf p ↔ s.metric < p.advertisement.metric ∨
      (p.advertisement.metric = s.metric ∧
        (ahead base s.selfCounter < ahead base p.advertisement.masterCounter ∨
          (ahead base p.advertisement.masterCounter = ahead base s.selfCounter ∧
            p.advertisement.distance = 0 ∧ s.mac.toList < p.mac.toList))) := by
  have hrank := rank_eq hp hself
  have hneg : (ahead base p.advertisement.masterCounter : ℤ) - ahead base s.selfCounter < 0 ↔
      ahead base p.advertisement.masterCounter < ahead base s.selfCounter := by omega
  have hzero : (ahead base p.advertisement.masterCounter : ℤ) - ahead base s.selfCounter = 0 ↔
      ahead base p.advertisement.masterCounter = ahead base s.selfCounter := by omega
  simp only [State.outranksSelf, State.macLess, hrank, Bool.not_eq_true', Bool.or_eq_false_iff,
    Bool.and_eq_false_iff, decide_eq_false_iff_not, beq_eq_false_iff_ne, bne_eq_false_iff_eq,
    Bool.not_eq_false', decide_eq_true_eq, hneg, ne_eq, hzero, UInt32.lt_iff_toNat_lt,
    ← UInt32.toNat_inj]
  constructor
  · grind
  grind

/-- The observations the scan lets compete, in slot order. -/
def State.contenders (s : State) (now : ℕ) : List Peer :=
  ((List.finRange 16).map fun i => State.expirePeer now s.peers[i]).filter fun p =>
    s.eligible p && s.outranksSelf p

/-- The observation the scan ends with. -/
def State.scanned (s : State) (now : ℕ) : Option Peer :=
  (s.scanPeers now).2.map fun i => (s.scanPeers now).1[i]

lemma State.scanStep_unmanaged (hm : s.nativeElectionManaged = false) (hrole : s.syncRole = 1)
    (acc : Vector Peer 16 × Option (Fin 16)) (k : Fin 16) (hk : acc.2 ≠ some k) :
    (s.scanStep now acc k).1 = acc.1.put k (expirePeer now acc.1[k]) ∧
      (s.scanStep now acc k).2.map (fun i => (s.scanStep now acc k).1[i]) =
        if s.eligible (expirePeer now acc.1[k]) && s.outranksSelf (expirePeer now acc.1[k]) then
          Champion.challenge outranks (acc.2.map fun i => acc.1[i]) (expirePeer now acc.1[k])
        else acc.2.map fun i => acc.1[i] := by
  have hget : ∀ i : Fin 16, (acc.1.put k (expirePeer now acc.1[k]))[i] =
      if i = k then expirePeer now acc.1[k] else acc.1[i] := fun i => Vector.getElem_put _ _ _ _
  have hkeep : acc.2.map (fun i => (acc.1.put k (expirePeer now acc.1[k]))[i]) =
      acc.2.map fun i => acc.1[i] := by
    cases hb : acc.2 with
    | none => rfl
    | some b =>
      grind
  have hrole2 : ¬ s.syncRole = 2 := by rw [hrole]; decide
  unfold State.scanStep
  dsimp only
  cases hel : s.eligible (expirePeer now acc.1[k]) with
  | false => exact ⟨rfl, hkeep⟩
  | true =>
    rw [if_neg (by simp), if_neg (by simp [hm]), if_neg hrole2]
    cases hout : s.outranksSelf (expirePeer now acc.1[k]) with
    | false => exact ⟨rfl, hkeep⟩
    | true =>
      rw [if_neg (by simp)]
      cases hb : acc.2 with
      | none =>
        refine ⟨rfl, ?_⟩
        rw [Option.map_some, hget, if_pos rfl]
        rfl
      | some b =>
        have hbk : b ≠ k := fun h => hk (h ▸ hb)
        refine ⟨rfl, ?_⟩
        dsimp only
        simp only [Option.map_some, Bool.and_self, if_true, Champion.challenge]
        grind

lemma State.scanStep_best (s : State) (now : ℕ) (acc : Vector Peer 16 × Option (Fin 16))
    (k : Fin 16) : (s.scanStep now acc k).2 = acc.2 ∨ (s.scanStep now acc k).2 = some k := by
  grind [State.scanStep]

lemma State.scanFold_unmanaged (hm : s.nativeElectionManaged = false) (hrole : s.syncRole = 1) :
    ∀ (l : List (Fin 16)) (acc : Vector Peer 16 × Option (Fin 16)), l.Nodup →
      (∀ i, acc.2 = some i → i ∉ l) →
      (l.foldl (s.scanStep now) acc).2.map (fun i => (l.foldl (s.scanStep now) acc).1[i]) =
        ((l.map fun i => expirePeer now acc.1[i]).filter fun p =>
          s.eligible p && s.outranksSelf p).foldl (Champion.challenge outranks)
            (acc.2.map fun i => acc.1[i]) := by
  intro l
  induction l with
  | nil => exact fun acc _ _ => rfl
  | cons k l ih =>
    intro acc hnd hbest
    obtain ⟨hk, hnd'⟩ := List.nodup_cons.mp hnd
    obtain ⟨hfst, hsnd⟩ := @scanStep_unmanaged s now hm hrole acc k
      fun h => hbest k h List.mem_cons_self
    have hbest' : ∀ i, (s.scanStep now acc k).2 = some i → i ∉ l := by
      grind [s.scanStep_best]
    have hsame : (l.map fun i => expirePeer now (s.scanStep now acc k).1[i]) =
        l.map fun i => expirePeer now acc.1[i] := by
      refine List.map_congr_left fun i hi => ?_
      have hne : i ≠ k := fun h => hk (h ▸ hi)
      rw [hfst, Vector.getElem_put, if_neg hne]
    rw [List.foldl_cons, ih _ hnd' hbest', hsame, hsnd, List.map_cons, List.filter_cons]
    split
    · rfl
    · rfl

lemma State.scanned_eq (hm : s.nativeElectionManaged = false) (hrole : s.syncRole = 1) (now : ℕ) :
    s.scanned now = Champion.scan outranks (s.contenders now) :=
  scanFold_unmanaged hm hrole (List.finRange 16) (s.peers, none) (List.nodup_finRange 16)
    fun _ hi => by cases hi.symm

/-- The peer `elect` follows, if any: the best entry after its loop. -/
def State.elected (s : State) (now : ℕ) : Option Peer := (s.advanceElection now).scanned now

lemma State.elect_unmanaged (hm : s.nativeElectionManaged = false)
    (hfree : s.controlsHeld = false) (now : ℕ) :
    (s.elected now = none ∧ s.elect now = (s.refreshed now).loseParent) ∨
      ∃ p, s.elected now = some p ∧
        s.elect now = ((s.refreshed now).bindPeer p).acquireClock p := by
  have hman : (s.refreshed now).nativeElectionManaged = false := by
    obtain ⟨_, _, _, hadv⟩ := s.refreshed_eq now
    rw [hadv]
    exact hm
  have hfollow : ∀ p, (s.refreshed now).followPeer p now =
      ((s.refreshed now).bindPeer p).acquireClock p := by
    grind [State.followPeer, State.acquisitionBlocked, State.adopts]
  grind [elect_scanned, State.elected, State.scanned]

/-- The same table in another order. -/
def State.reorder (s : State) (σ : Equiv.Perm (Fin 16)) : State :=
  { s with peers := Vector.ofFn fun i => s.peers[σ i] }

lemma State.mem_contenders {p : Peer} :
    p ∈ s.contenders now ↔
      (∃ i : Fin 16, s.peers[i] = p) ∧ p.Live now ∧ s.eligible p ∧ s.outranksSelf p := by
  simp only [State.contenders, List.mem_filter, List.mem_map, List.mem_finRange, true_and,
    Bool.and_eq_true]
  constructor
  · rintro ⟨⟨i, rfl⟩, hel, hout⟩
    have hused : (expirePeer now s.peers[i]).used := by
      simp only [State.eligible, Bool.and_eq_true] at hel
      exact hel.1.1.1.1
    obtain ⟨hlive, hseen, hfresh, hsame⟩ := expirePeer_used hused
    rw [hsame] at hel hout ⊢
    exact ⟨⟨i, rfl⟩, ⟨hlive, hseen, hfresh⟩, hel, hout⟩
  grind [expirePeer_live]

lemma State.mem_reorder (s : State) (σ : Equiv.Perm (Fin 16)) (p : Peer) :
    (∃ i : Fin 16, (Vector.ofFn fun i => s.peers[σ i])[i] = p) ↔ ∃ i : Fin 16, s.peers[i] = p := by
  have hget : ∀ i : Fin 16, (Vector.ofFn fun i => s.peers[σ i])[i] = s.peers[σ i] := by
    intro i
    simp
  constructor
  · rintro ⟨i, rfl⟩
    exact ⟨σ i, (hget i).symm⟩
  · rintro ⟨i, rfl⟩
    exact ⟨σ.symm i, by rw [hget, Equiv.apply_symm_apply]⟩

lemma State.advanceElection_withPeers (s : State) (peers : Vector Peer 16) (now : ℕ) :
    ({ s with peers := peers } : State).advanceElection now =
      { s.advanceElection now with peers := peers } := by
  have hpos : ∀ b : State, now < b.electionEpoch ∨ b.synchronized ∨ b.nativeClockHoldover →
      b.advanceElection now = { b with electionEpoch := now } := fun b h => if_pos h
  have hneg : ∀ b : State, ¬ (now < b.electionEpoch ∨ b.synchronized ∨ b.nativeClockHoldover) →
      b.advanceElection now =
        { b with
          selfCounter := b.selfCounter + UInt32.ofNat ((now - b.electionEpoch) / 3140000)
          electionEpoch := b.electionEpoch + (now - b.electionEpoch) / 3140000 * 3140000 } :=
    fun b h => if_neg h
  by_cases h : now < s.electionEpoch ∨ s.synchronized ∨ s.nativeClockHoldover
  · rw [hpos s h, hpos { s with peers := peers } h]
  · rw [hneg s h, hneg { s with peers := peers } h]

lemma State.mem_contenders_withPeers {peers : Vector Peer 16}
    (hmem : ∀ p, (∃ i : Fin 16, peers[i] = p) ↔ ∃ i : Fin 16, s.peers[i] = p) (p : Peer) :
    p ∈ ({ s with peers := peers } : State).contenders now ↔ p ∈ s.contenders now := by
  rw [State.mem_contenders, State.mem_contenders, hmem]
  exact Iff.rfl

/-- The counters that the election compares lie in one half of the circle, from `base` on. -/
structure State.InSpan (s : State) (now : ℕ) (base : UInt32) : Prop where
  own : ahead base (s.advanceElection now).selfCounter < 2 ^ 31
  peers : ∀ i : Fin 16, s.Considers now s.peers[i] →
    ahead base s.peers[i].advertisement.masterCounter < 2 ^ 31

namespace State.InSpan

variable (h : s.InSpan now base)
include h

lemma mem_contenders (hrole : s.syncRole = 1) {p : Peer} :
    p ∈ (s.advanceElection now).contenders now ↔ (∃ i : Fin 16, s.peers[i] = p) ∧
      s.Contends now base (s.advanceElection now).selfCounter p := by
  have hown := h.own
  obtain ⟨counter, epoch, hadv⟩ := s.advanceElection_eq now
  rw [hadv] at hown ⊢
  rw [State.mem_contenders]
  have helig : p.Live now → (State.eligible { s with
      selfCounter := counter, electionEpoch := epoch } p ↔ s.Considers now p) := by
    intro hlive
    simp only [State.eligible, hrole, Bool.and_eq_true, bne_iff_ne, decide_eq_true_eq]
    constructor
    · rintro ⟨⟨⟨⟨-, hmaster⟩, hdist⟩, hsync⟩, -⟩
      exact ⟨hlive, hmaster, hsync, hdist⟩
    · rintro ⟨-, hmaster, hsync, hdist⟩
      exact ⟨⟨⟨⟨hlive.1, hmaster⟩, hdist⟩, hsync⟩, by decide⟩
  constructor
  · rintro ⟨⟨i, rfl⟩, hlive, hel, hout⟩
    have hc := (helig hlive).mp hel
    exact ⟨⟨i, rfl⟩, hc, (outranksSelf_iff (h.peers i hc) hown).mp hout⟩
  · rintro ⟨⟨i, rfl⟩, hc, hout⟩
    exact ⟨⟨i, rfl⟩, hc.live, (helig hc.live).mpr hc,
      (outranksSelf_iff (h.peers i hc) hown).mpr hout⟩

lemma elected_eq (hm : s.nativeElectionManaged = false) (hrole : s.syncRole = 1) :
    s.elected now =
      ((s.advanceElection now).contenders now).argmax (Peer.standing base) := by
  have hbound : ∀ p ∈ (s.advanceElection now).contenders now,
      ahead base p.advertisement.masterCounter < 2 ^ 31 := by
    intro p hp
    obtain ⟨⟨i, rfl⟩, hc⟩ := (h.mem_contenders hrole).mp hp
    exact h.peers i hc.toConsiders
  obtain ⟨_, _, hadv⟩ := s.advanceElection_eq now
  have hm' : (s.advanceElection now).nativeElectionManaged = false := by rw [hadv]; exact hm
  have hrole' : (s.advanceElection now).syncRole = 1 := by rw [hadv]; exact hrole
  rw [State.elected, State.scanned_eq hm' hrole']
  refine Champion.scan_eq_argmax fun p hp q hq => ?_
  rw [standing_lt_iff, outranks_iff (hbound p hp) (hbound q hq)]

lemma withPeers {peers : Vector Peer 16}
    (hmem : ∀ p, (∃ i : Fin 16, peers[i] = p) ↔ ∃ i : Fin 16, s.peers[i] = p) :
    ({ s with peers := peers } : State).InSpan now base := by
  refine ⟨?_, fun i hc => ?_⟩
  · rw [State.advanceElection_withPeers]
    exact h.own
  · obtain ⟨j, hj⟩ := (hmem _).mp ⟨i, rfl⟩
    rw [← hj] at hc ⊢
    exact h.peers j ⟨hc.live, hc.master, hc.sync, hc.distance⟩

lemma elected_withPeers (hm : s.nativeElectionManaged = false) (hrole : s.syncRole = 1)
    {peers : Vector Peer 16}
    (hmem : ∀ p, (∃ i : Fin 16, peers[i] = p) ↔ ∃ i : Fin 16, s.peers[i] = p) :
    (({ s with peers := peers } : State).elected now).map Peer.mac =
        (s.elected now).map Peer.mac ∧
      ((∀ i j : Fin 16, s.peers[i].used → s.peers[j].used → s.peers[i].mac = s.peers[j].mac →
        i = j) → ({ s with peers := peers } : State).elected now = s.elected now) := by
  obtain ⟨_, _, hadv⟩ := s.advanceElection_eq now
  have hpeers : (s.advanceElection now).peers = s.peers := by rw [hadv]
  have helected := h.elected_eq hm hrole
  have helected' := (h.withPeers hmem).elected_eq hm hrole
  rw [State.advanceElection_withPeers] at helected'
  have hsame : ∀ p, p ∈ ({ s.advanceElection now with peers := peers } : State).contenders now ↔
      p ∈ (s.advanceElection now).contenders now :=
    State.mem_contenders_withPeers fun p => by rw [hpeers]; exact hmem p
  rw [helected, helected']
  refine ⟨?_, fun hdistinct => ?_⟩
  · have hkey := @Champion.map_key_argmax _ _ _ (Peer.standing base) _ _ hsame
    cases hp : ((s.advanceElection now).contenders now).argmax (Peer.standing base) with
    | none =>
      rw [hp, Option.map_none] at hkey
      rw [Option.map_eq_none_iff.mp hkey]
    | some p =>
      rw [hp, Option.map_some] at hkey
      obtain ⟨q, hq, hqp⟩ := Option.map_eq_some_iff.mp hkey
      rw [hq, Option.map_some, Option.map_some, mac_eq_of_standing hqp]
  · refine Champion.argmax_eq_of_mem hsame fun p hp q hq hkey => ?_
    obtain ⟨⟨i, rfl⟩, hci⟩ := (h.mem_contenders hrole).mp ((hsame p).mp hp)
    obtain ⟨⟨j, rfl⟩, hcj⟩ := (h.mem_contenders hrole).mp ((hsame q).mp hq)
    rw [hdistinct i j hci.live.1 hcj.live.1 (mac_eq_of_standing hkey)]

end State.InSpan

lemma State.sync_elect (hm : s.nativeElectionManaged = false) (hfree : s.controlsHeld = false)
    (now : ℕ) : (s.elect now).sync = ((s.elected now).map Peer.mac).getD s.mac := by
  obtain ⟨_, _, _, hadv⟩ := s.refreshed_eq now
  have hmac : (s.refreshed now).mac = s.mac := by rw [hadv]
  have hman : (s.refreshed now).nativeElectionManaged = false := by rw [hadv]; exact hm
  rcases State.elect_unmanaged hm hfree now with ⟨hnone, heq⟩ | ⟨p, hp, heq⟩
  · rw [hnone, heq, ← hmac]
    generalize s.refreshed now = b at hman ⊢
    rw [State.loseParent, if_neg (by simp [State.holdsNativeClock, hman])]
    rfl
  · rw [hp, heq]
    unfold State.acquireClock
    dsimp only
    split <;> rfl

/-- While the counters lie in one half of the circle, an unmanaged engine with role 1 elects the
maximum of the live observations that outrank it, and elects none exactly when there are none.
The order of the table does not matter: any permutation of the slots elects the same address,
and the same entry of a table whose addresses are distinct. -/
theorem elected_peer_is_maximum {s : State} {now : ℕ} {base : UInt32}
    (hm : s.nativeElectionManaged = false) (hrole : s.syncRole = 1)
    (hfree : s.controlsHeld = false) (hspan : s.InSpan now base) :
    (s.elect now).sync = ((s.elected now).map Peer.mac).getD s.mac ∧
    (∀ p, s.elected now = some p → (∃ i : Fin 16, s.peers[i] = p) ∧
      s.Contends now base (s.advanceElection now).selfCounter p ∧
      ∀ i : Fin 16, s.Contends now base (s.advanceElection now).selfCounter s.peers[i] →
        ¬ Above base s.peers[i] p) ∧
    (s.elected now = none ↔
      ∀ i : Fin 16, ¬ s.Contends now base (s.advanceElection now).selfCounter s.peers[i]) ∧
    ∀ σ : Equiv.Perm (Fin 16),
      ((s.reorder σ).elected now).map Peer.mac = (s.elected now).map Peer.mac ∧
      ((∀ i j : Fin 16, s.peers[i].used → s.peers[j].used → s.peers[i].mac = s.peers[j].mac →
        i = j) → (s.reorder σ).elected now = s.elected now) := by
  have helected := hspan.elected_eq hm hrole
  refine ⟨State.sync_elect hm hfree now, fun p hp => ?_, ?_, fun σ =>
    hspan.elected_withPeers hm hrole (s.mem_reorder σ)⟩
  · rw [helected] at hp
    obtain ⟨hentry, hc⟩ := (hspan.mem_contenders hrole).mp (List.argmax_mem hp)
    refine ⟨hentry, hc, fun i hi habove => ?_⟩
    have hle := List.le_of_mem_argmax ((hspan.mem_contenders hrole).mpr ⟨⟨i, rfl⟩, hi⟩) hp
    exact absurd ((standing_lt_iff _ p).mpr habove) (not_lt.mpr hle)
  · rw [helected, List.argmax_eq_none, List.eq_nil_iff_forall_not_mem]
    constructor
    · intro hno i hi
      exact hno _ ((hspan.mem_contenders hrole).mpr ⟨⟨i, rfl⟩, hi⟩)
    · intro hno p hp
      obtain ⟨⟨i, rfl⟩, hc⟩ := (hspan.mem_contenders hrole).mp hp
      exact hno i hc

/-- An unmanaged station that has seen B and, with the same metric, C. -/
def betweenBC : State := runOps (State.fresh stationA samplePlan 0 0 false)
  [(0, .receiveAction (beacon stationB 5 0 0)), (0, .receiveAction (beacon stationC 5 0 0))]

/-- It elects C, which has the larger address, also with its table reversed. -/
theorem elected_peer_is_maximum_betweenBC :
    (betweenBC.elect 0).sync = stationC ∧
      ((betweenBC.reorder Fin.revPerm).elected 0).map Peer.mac = some stationC ∧
      (betweenBC.elected 0 = none ↔
        ∀ i : Fin 16, ¬ betweenBC.Contends 0 0 (betweenBC.advanceElection 0).selfCounter
          betweenBC.peers[i]) := by
  obtain ⟨hm, hrole, hfree, hown, hall, hmac⟩ : betweenBC.nativeElectionManaged = false ∧
      betweenBC.syncRole = 1 ∧ betweenBC.controlsHeld = false ∧
      ahead 0 (betweenBC.advanceElection 0).selfCounter < 2 ^ 31 ∧
      (∀ i : Fin 16, ahead 0 betweenBC.peers[i].advertisement.masterCounter < 2 ^ 31) ∧
      (betweenBC.elected 0).map Peer.mac = some stationC := by
    decide +kernel
  have h := elected_peer_is_maximum hm hrole hfree ⟨hown, fun i _ => hall i⟩
  refine ⟨?_, (h.2.2.2 Fin.revPerm).1.trans hmac, h.2.2.1⟩
  rw [h.1, hmac]
  rfl

end AirportAwdl.Election
