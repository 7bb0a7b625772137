import AirportAwdl.Election.Continuity

/-!
# The representation invariant over whole runs

`Representation` is what the encoder and the window scheduler index and divide by. Its last
field describes a native-managed engine without a parent: it is its own root. That field
needs a history, because an engine may become native-managed inside a held transaction
while it still follows a peer of its own election (`NativeTree`). Discarding such a
transaction is the one step that breaks it.
-/

namespace AirportAwdl.Election

open ByteBuffer

variable {s s' : State} {now : ℕ}

/-- The engine is the root of its own tree. -/
def AtRoot (s : State) : Prop := s.master = s.mac ∧ s.sync = s.mac ∧ s.distance = 0

/-- How the tree, the native selection and a held transaction depend on each other. -/
structure NativeTree (s : State) : Prop where
  atRoot : s.synchronized = false →
    (s.nativeElectionManaged = false ∨ s.nativeParentSelected = false) → AtRoot s
  free : s.controlsHeld = false → s.nativeElectionManaged → s.nativeParentSelected = false →
    s.synchronized = false
  held : s.controlsHeld → s.nativeElectionManaged → s.nativeParentSelected = false →
    s.synchronized → s.controlsDirty
  mirror : s.controlsHeld → s.controlsDirty = false →
    s.pendingControls.parentSelected = s.nativeParentSelected
  unrejected : s.nativeElectionManaged = false → s.clockSampleRejected = false

/-- The fields `NativeTree` reads. -/
def treeFields (s : State) :=
  (s.mac, s.master, s.sync, s.distance, s.synchronized, s.nativeElectionManaged,
    s.nativeParentSelected, s.controlsHeld, s.controlsDirty, s.pendingControls.parentSelected,
    s.clockSampleRejected)

lemma NativeTree.congr (h : NativeTree s) (e : treeFields s' = treeFields s) : NativeTree s' := by
  simp only [treeFields, Prod.mk.injEq] at e
  obtain ⟨e1, e2, e3, e4, e5, e6, e7, e8, e9, e10, e11⟩ := e
  refine ⟨?_, ?_, ?_, ?_, ?_⟩
  · rw [AtRoot, e1, e2, e3, e4, e5, e6, e7]; exact h.atRoot
  · rw [e5, e6, e7, e8]; exact h.free
  · rw [e5, e6, e7, e8, e9]; exact h.held
  · rw [e7, e8, e9, e10]; exact h.mirror
  · rw [e6, e11]; exact h.unrejected

lemma NativeTree.of_selected (hm : s.nativeElectionManaged) (hp : s.nativeParentSelected)
    (hfree : s.controlsHeld = false) : NativeTree s := by
  refine ⟨fun _ hn => ?_, fun _ _ hn => ?_, fun hh => ?_, fun hh => ?_, fun hn => ?_⟩
  · rw [hm, hp] at hn
    simp at hn
  · rw [hp] at hn
    cases hn
  · rw [hfree] at hh
    cases hh
  · rw [hfree] at hh
    cases hh
  · rw [hm] at hn
    cases hn

lemma NativeTree.of_root (hr : AtRoot s) (hs : s.synchronized = false)
    (hfree : s.controlsHeld = false) (hrej : s.nativeElectionManaged = false →
      s.clockSampleRejected = false) : NativeTree s := by
  refine ⟨fun _ _ => hr, fun _ _ _ => hs, fun hh => ?_, fun hh => ?_, hrej⟩
  · rw [hfree] at hh
    cases hh
  · rw [hfree] at hh
    cases hh

lemma NativeTree.loseParent (h : NativeTree s) (hm : s.nativeElectionManaged = false)
    (hfree : s.controlsHeld = false) : NativeTree s.loseParent := by
  have hlost : s.holdsNativeClock = false := by simp [State.holdsNativeClock, hm]
  unfold State.loseParent
  rw [if_neg (by simp [hlost])]
  exact .of_root ⟨rfl, rfl, rfl⟩ rfl hfree h.unrejected

lemma NativeTree.followPeer (h : NativeTree s) (hm : s.nativeElectionManaged = false)
    (hfree : s.controlsHeld = false) (p : Peer) : NativeTree (s.followPeer p now) := by
  have hrej := h.unrejected hm
  have hfollow : s.followPeer p now = { (s.bindPeer p).holdClock 0 with
      epoch := p.epoch, baseCounter := p.baseCounter, clockSampleAt := p.seen } := by
    simp [State.followPeer, State.acquisitionBlocked, State.adopts, State.acquireClock,
      State.bindPeer, State.holdClock, hm]
  rw [hfollow]
  refine ⟨fun hs => ?_, fun _ hman => ?_, fun hh => ?_, fun hh => ?_, fun _ => hrej⟩
  · simp [State.bindPeer, State.holdClock, hrej] at hs
  · cases hm.symm.trans hman
  · cases hfree.symm.trans hh
  · cases hfree.symm.trans hh

/-- An election keeps the tree. -/
lemma NativeTree.elect (h : NativeTree s) (now : ℕ) : NativeTree (s.elect now) := by
  have hcontrol := s.controlFields_elect now
  have hstep := s.elect_step now
  generalize s.elect now = s' at hstep hcontrol ⊢
  simp only [State.controlFields, Prod.mk.injEq] at hcontrol
  obtain ⟨-, hman, hsel, -, -, -, -, -, hheld, -, -⟩ := hcontrol
  obtain ⟨_, _, _, hfresh⟩ := s.refreshed_eq now
  have hr : NativeTree (s.refreshed now) := h.congr (by rw [hfresh]; rfl)
  have hrm : (s.refreshed now).nativeElectionManaged = s.nativeElectionManaged := by rw [hfresh]
  have hrh : (s.refreshed now).controlsHeld = s.controlsHeld := by rw [hfresh]
  cases hstep with
  | held _ => exact h
  | unselected _ _ _ =>
    obtain ⟨_, _, hadv⟩ := s.advanceElection_eq now
    exact h.congr (by rw [hadv]; rfl)
  | lost hfree hp =>
    cases hm : s.nativeElectionManaged with
    | true => exact .of_selected (hman.trans hm) (hsel.trans (hp hm)) (hheld.trans hfree)
    | false => exact hr.loseParent (hrm.trans hm) (hrh.trans hfree)
  | @follow hfree hp p hc =>
    cases hm : s.nativeElectionManaged with
    | true => exact .of_selected (hman.trans hm) (hsel.trans (hp hm)) (hheld.trans hfree)
    | false => exact hr.followPeer (hrm.trans hm) (hrh.trans hfree) p

lemma NativeTree.receiveAction (h : NativeTree s) (f : Bytes) (now : ℕ) :
    NativeTree (s.receiveAction f now).2 :=
  State.receiveAction_keeps h fun _ _ _ => elect (s := s.storePeer _ _) (h.congr rfl) now

lemma NativeTree.pend (h : NativeTree s) (hheld : s.controlsHeld) (pending : Controls) (n : ℕ) :
    NativeTree { s with pendingControls := pending, controlsDirty := true, controlsDeferred := n } :=
  ⟨h.atRoot, fun hf => absurd (hf.symm.trans hheld) (by decide), fun _ _ _ _ => rfl,
    fun _ => nofun, h.unrejected⟩

lemma NativeTree.setSyncRole (h : NativeTree s) (role : ℕ) (address : Mac) :
    NativeTree (s.setSyncRole role address).2 := by
  unfold State.setSyncRole
  split_ifs with hacc hheld hnew hsame
  · exact h
  · exact h.pend hheld _ _
  · exact h
  · exact h
  · exact .of_root ⟨rfl, rfl, rfl⟩ rfl (Bool.eq_false_iff.mpr hheld) h.unrejected

lemma NativeTree.setPresence (h : NativeTree s) (value : UInt8) (now : ℕ) :
    NativeTree (s.setPresence value now).2 := by
  unfold State.setPresence
  split_ifs with hv hheld hnew
  · exact h
  · exact h.pend hheld _ _
  · exact h
  · unfold State.applyPresence
    dsimp only
    split <;> exact h.congr rfl

lemma NativeTree.setSequence (h : NativeTree s) (value : Sequence) (now : ℕ) :
    NativeTree (s.setSequence value now).2 := by
  unfold State.setSequence
  split_ifs with hv hheld hnew
  · exact h
  · exact h.pend hheld _ _
  · exact h
  · have hown : NativeTree { s with ownSequence := value } := h.congr rfl
    exact (hown.setPresence (value.step + 1) now).congr rfl

lemma NativeTree.setSocialChannel (h : NativeTree s) (index : ℕ) (channel : UInt8) (now : ℕ) :
    NativeTree (s.setSocialChannel index channel now) :=
  State.setSocialChannel_keeps h (h.setSequence · now) index channel

lemma NativeTree.selectNativeParent (h : NativeTree s) (address : Mac) (root : Option Mac)
    (acquire : Bool) : NativeTree (s.selectNativeParent address root acquire) := by
  unfold State.selectNativeParent
  extract_lets n
  have hroot : n.synchronized = false →
      (n.nativeElectionManaged = false ∨ n.nativeParentSelected = false) → AtRoot n := by
    rintro hs (hm | hp)
    · cases hm
    · exact h.atRoot hs (.inr hp)
  split
  · rename_i hheld
    split
    · exact ⟨hroot, fun hf => absurd (hf.symm.trans hheld) (by decide), fun _ _ _ _ => rfl,
        fun _ => nofun, nofun⟩
    · rename_i hsame
      simp only [not_or, Bool.not_eq_true', Bool.not_eq_false] at hsame
      refine ⟨hroot, fun hf => absurd (hf.symm.trans hheld) (by decide), fun _ _ hp _ => ?_,
        h.mirror, nofun⟩
      -- a clean transaction mirrors the effective selection
      by_contra hclean
      have hmirror := h.mirror hheld (Bool.eq_false_iff.mpr hclean)
      cases hsame.1.symm.trans (hmirror.trans hp)
  · rename_i hheld
    exact .of_selected rfl rfl (Bool.eq_false_iff.mpr hheld)

lemma NativeTree.clearNativeParent (h : NativeTree s) : NativeTree s.clearNativeParent := by
  unfold State.clearNativeParent
  extract_lets n
  have hn : NativeTree n := h.congr rfl
  split
  · rename_i hheld
    split
    · exact hn.pend hheld _ _
    · exact hn
  · rename_i hheld
    exact .of_root ⟨rfl, rfl, rfl⟩ rfl (Bool.eq_false_iff.mpr hheld) fun _ => rfl

lemma NativeTree.holdControls (h : NativeTree s) : NativeTree s.holdControls := by
  unfold State.holdControls
  split
  · exact h
  · rename_i hheld
    have hfree := Bool.eq_false_iff.mpr hheld
    refine ⟨h.atRoot, nofun, fun _ hm hp hs => ?_, fun _ _ => rfl, h.unrejected⟩
    cases (h.free hfree hm hp).symm.trans hs

lemma NativeTree.discardControls (h : NativeTree s)
    (hok : s.controlsHeld → s.nativeElectionManaged → s.nativeParentSelected = false →
      s.synchronized = false) : NativeTree s.discardControls := by
  refine ⟨h.atRoot, fun _ hm hp => ?_, nofun, nofun, h.unrejected⟩
  cases hheld : s.controlsHeld with
  | true => exact hok hheld hm hp
  | false => exact h.free hheld hm hp

lemma NativeTree.installParent (h : NativeTree s) (hm : s.nativeElectionManaged = false)
    (hfree : s.controlsHeld = false) (parent : Mac) (selected : Bool) :
    NativeTree { s with nativeParent := parent, nativeParentSelected := selected } := by
  refine ⟨fun hs _ => h.atRoot hs (.inl hm), fun _ hman => ?_, fun hh => ?_, fun hh => ?_,
    h.unrejected⟩
  · cases hm.symm.trans hman
  · cases hfree.symm.trans hh
  · cases hfree.symm.trans hh

/-- A commit re-establishes the tree: through the setters if it is dirty, and untouched if it is
clean. -/
lemma NativeTree.commitControls (h : NativeTree s) (hheld : s.controlsHeld) (now : ℕ) :
    NativeTree (s.commitControls now) := by
  have htrans := s.transaction_committedPlan now
  have hman : (s.committedRequests now).nativeElectionManaged = s.nativeElectionManaged :=
    congrArg (fun x => x.2.1) htrans
  have hfree : (s.committedRequests now).controlsHeld = false :=
    congrArg (fun x => x.2.2.1) htrans
  rw [State.commitControls_eq]
  split_ifs with hdirty hclear
  · have heq : (s.committedRequests now).clearNativeParent = _ := if_neg (by simp [hfree])
    rw [heq]
    exact .of_root ⟨rfl, rfl, rfl⟩ rfl hfree fun _ => rfl
  · cases hm : s.nativeElectionManaged with
    | true =>
      have hsel : s.pendingControls.parentSelected := by
        grind
      exact .of_selected (hman.trans hm) hsel hfree
    | false =>
      have hd : NativeTree s.discardControls :=
        h.discardControls fun _ hman' => by cases hm.symm.trans hman'
      have hplan : NativeTree (s.committedPlan now) := (hd.setSyncRole _ _).setSequence _ now
      exact hplan.installParent (hman.trans hm) hfree _ _
  · refine h.discardControls fun _ hm hp => ?_
    by_contra hs
    exact hdirty (h.held hheld hm hp (by simpa using hs))

lemma NativeTree.releaseControls (h : NativeTree s) (now : ℕ) :
    NativeTree (s.releaseControls now).2 := by
  unfold State.releaseControls
  split
  · exact h
  · rename_i hheld
    exact (h.commitControls (by simpa using hheld) now).elect now

/-- `discardControls` does not drop the first parent selection of an engine that follows a
peer of its own election. -/
def DiscardOk (s : State) (op : Op) : Prop :=
  op = .discardControls → s.controlsHeld → s.nativeElectionManaged →
    s.nativeParentSelected = false → s.synchronized = false

instance (s : State) (op : Op) : Decidable (DiscardOk s op) := by
  unfold DiscardOk; infer_instance

/-- Every operation under its condition keeps the tree. -/
lemma NativeTree.apply (h : NativeTree s) {op : Op} (hok : DiscardOk s op) (now : ℕ) :
    NativeTree (op.apply s now) := by
  cases op with
  | receiveAction frame => exact h.receiveAction frame now
  | elect => exact h.elect now
  | setSyncRole role address => exact h.setSyncRole role address
  | setPresence value => exact h.setPresence value now
  | setSequence value => exact h.setSequence value now
  | setSocialChannel index channel => exact h.setSocialChannel index channel now
  | holdControls => exact h.holdControls
  | releaseControls => exact h.releaseControls now
  | discardControls => exact h.discardControls (hok rfl)
  | selectNativeParent address root acquire => exact h.selectNativeParent address root acquire
  | clearNativeParent => exact h.clearNativeParent
  | holdClock deadline => exact h.congr rfl
  | startTimeline => exact h.congr rfl
  | nextFrame => exact h.congr rfl

/-- The tree is kept in every run under that condition. -/
lemma ReachableBy.nativeTree (h : ReachableBy DiscardOk s now) : NativeTree s := by
  induction h with
  | init h =>
    unfold State.init at h
    split at h
    · cases h
    · cases h
      exact .of_root ⟨rfl, rfl, rfl⟩ rfl rfl fun _ => rfl
  | step _ hok _ ih => exact ih.apply hok _

/-- A native-managed engine that is synchronized has a parent. -/
structure ManagedTree (s : State) : Prop where
  managed : s.nativeElectionManaged
  unselected : s.nativeParentSelected = false → s.synchronized = false

lemma ManagedTree.of_selected (hm : s.nativeElectionManaged) (hp : s.nativeParentSelected) :
    ManagedTree s := ⟨hm, fun hn => absurd (hn.symm.trans hp) (by decide)⟩

lemma ManagedTree.elect (h : ManagedTree s) (now : ℕ) : ManagedTree (s.elect now) := by
  have hcontrol := s.controlFields_elect now
  have hstep := s.elect_step now
  generalize s.elect now = s' at hstep hcontrol ⊢
  simp only [State.controlFields, Prod.mk.injEq] at hcontrol
  obtain ⟨-, hman, hsel, -⟩ := hcontrol
  cases hstep with
  | held _ => exact h
  | unselected _ _ _ =>
    obtain ⟨_, _, hadv⟩ := s.advanceElection_eq now
    rw [hadv]
    exact ⟨h.managed, h.unselected⟩
  | lost _ hp => exact .of_selected (hman.trans h.managed) (hsel.trans (hp h.managed))
  | follow _ hp => exact .of_selected (hman.trans h.managed) (hsel.trans (hp h.managed))

lemma ManagedTree.setSyncRole (h : ManagedTree s) (role : ℕ) (address : Mac) :
    ManagedTree (s.setSyncRole role address).2 := by
  unfold State.setSyncRole
  split_ifs
  · exact h
  · exact ⟨h.managed, h.unselected⟩
  · exact h
  · exact h
  · exact ⟨h.managed, fun _ => rfl⟩

lemma ManagedTree.setPresence (h : ManagedTree s) (value : UInt8) (now : ℕ) :
    ManagedTree (s.setPresence value now).2 := by
  unfold State.setPresence
  split_ifs
  · exact h
  · exact ⟨h.managed, h.unselected⟩
  · exact h
  · unfold State.applyPresence
    dsimp only
    split <;> exact ⟨h.managed, h.unselected⟩

lemma ManagedTree.setSequence (h : ManagedTree s) (value : Sequence) (now : ℕ) :
    ManagedTree (s.setSequence value now).2 := by
  unfold State.setSequence
  split_ifs
  · exact h
  · exact ⟨h.managed, h.unselected⟩
  · exact h
  · have hown : ManagedTree { s with ownSequence := value } := ⟨h.managed, h.unselected⟩
    have hset := hown.setPresence (value.step + 1) now
    exact ⟨hset.managed, hset.unselected⟩

lemma ManagedTree.clearNativeParent (h : ManagedTree s) : ManagedTree s.clearNativeParent := by
  unfold State.clearNativeParent
  extract_lets n
  split_ifs
  · exact ⟨h.managed, h.unselected⟩
  · exact ⟨h.managed, h.unselected⟩
  · exact ⟨h.managed, fun _ => rfl⟩

lemma ManagedTree.commitControls (h : ManagedTree s) (now : ℕ) :
    ManagedTree (s.commitControls now) := by
  have htrans := s.transaction_committedPlan now
  have hman : (s.committedRequests now).nativeElectionManaged :=
    (congrArg (fun x => x.2.1) htrans).trans h.managed
  have hfree : (s.committedRequests now).controlsHeld = false :=
    congrArg (fun x => x.2.2.1) htrans
  rw [State.commitControls_eq]
  split_ifs with _ hclear
  · have heq : (s.committedRequests now).clearNativeParent = _ := if_neg (by simp [hfree])
    rw [heq]
    exact ⟨hman, fun _ => rfl⟩
  · have hsel : s.pendingControls.parentSelected := by
      by_contra hnot
      exact hclear ⟨hman, by simpa using hnot⟩
    exact .of_selected hman hsel
  · exact ⟨h.managed, h.unselected⟩

/-- A step keeps a native-managed engine without a parent unsynchronized. -/
lemma ManagedTree.apply (h : ManagedTree s) (op : Op) (now : ℕ) : ManagedTree (op.apply s now) := by
  cases op with
  | receiveAction frame =>
    exact State.receiveAction_keeps h fun _ _ _ =>
      elect (s := s.storePeer _ _) ⟨h.managed, h.unselected⟩ now
  | elect => exact h.elect now
  | setSyncRole role address => exact h.setSyncRole role address
  | setPresence value => exact h.setPresence value now
  | setSequence value => exact h.setSequence value now
  | setSocialChannel index channel =>
    exact State.setSocialChannel_keeps h (h.setSequence · now) index channel
  | holdControls =>
    show ManagedTree s.holdControls
    unfold State.holdControls
    split <;> exact ⟨h.managed, h.unselected⟩
  | releaseControls =>
    show ManagedTree (s.releaseControls now).2
    unfold State.releaseControls
    split
    · exact h
    · exact (h.commitControls now).elect now
  | selectNativeParent address root acquire =>
    show ManagedTree (s.selectNativeParent address root acquire)
    unfold State.selectNativeParent
    extract_lets n
    split
    · split <;> exact ⟨rfl, h.unselected⟩
    · exact .of_selected rfl rfl
  | clearNativeParent => exact h.clearNativeParent
  | discardControls | holdClock _ | startTimeline | nextFrame => exact ⟨h.managed, h.unselected⟩

/-- An engine that was initialised as native-managed meets `DiscardOk` at every step of every run. -/
lemma discardOk_of_native {address : Mac} {initial : Sequence} {metric : UInt32}
    (h : State.init address initial now metric true = some s) (ops : List (ℕ × Op)) (op : Op) :
    DiscardOk (runOps s ops) op := by
  have hstart : ManagedTree s := by
    unfold State.init at h
    split at h
    · cases h
    · cases h
      exact ⟨rfl, fun _ => rfl⟩
  have hrun : ∀ ops {s : State}, ManagedTree s → ManagedTree (runOps s ops) := by
    intro ops
    induction ops with
    | nil => exact id
    | cons step rest ih => exact fun hs => ih (hs.apply step.2 step.1)
  exact fun _ _ _ hp => (hrun ops hstart).unselected hp

/-- What the encoder and the scheduler rely on, at a time no earlier than the last operation. -/
structure Representation (s : State) (now : ℕ) : Prop where
  sequence : validSequence s.sequence
  ownSequence : validSequence s.ownSequence
  pendingSequence : s.controlsHeld → validSequence s.pendingControls.sequence
  presence : s.presence.toNat = s.sequence.step.toNat + 1
  ownPresence : s.ownPresence.toNat = s.ownSequence.step.toNat + 1
  master : unicast s.master
  sync : unicast s.sync
  distance : s.distance ≤ 10
  epoch : s.epoch ≤ now
  peer : ∀ i : Fin 16, s.peers[i].used →
    unicast s.peers[i].mac ∧ s.peers[i].mac ≠ s.mac ∧
      validSequence s.peers[i].advertisement.sequence ∧
      s.peers[i].advertisement.presence.toNat =
        s.peers[i].advertisement.sequence.step.toNat + 1 ∧
      s.peers[i].epoch ≤ s.peers[i].seen
  distinct : ∀ i j : Fin 16, s.peers[i].used → s.peers[j].used →
    s.peers[i].mac = s.peers[j].mac → i = j
  localMaster : s.nativeElectionManaged → s.nativeParentSelected = false →
    s.controlsHeld = false →
      s.master = s.mac ∧ s.sync = s.mac ∧ s.distance = 0 ∧ s.synchronized = false

/-- In every run whose discards meet `DiscardOk`, every state reached is well formed. -/
theorem representation_invariant {s : State} {now : ℕ} (h : ReachableBy DiscardOk s now) :
    Representation s now := by
  have hinv := h.reachable.inv
  have htree := h.nativeTree
  refine ⟨hinv.plan.valid, hinv.ownPlan.valid, fun hh => (hinv.pendingPlan hh).valid,
    hinv.plan.toNat_presence, hinv.ownPlan.toNat_presence, hinv.unicast_master,
    hinv.unicast_sync, hinv.distance_le, h.epoch_le, fun i hi => ?_, hinv.table.distinct,
    fun hm hp hfree => ?_⟩
  · have hp := hinv.table.entry i hi
    exact ⟨hp.unicast_mac, hp.foreign, hp.plan.valid, hp.plan.toNat_presence, hp.epoch_le⟩
  · have hs := htree.free hfree hm hp
    obtain ⟨hmaster, hsync, hdist⟩ := htree.atRoot hs (.inr hp)
    exact ⟨hmaster, hsync, hdist, hs⟩

/-- A run through a held selection that is released, and one that is discarded later. -/
def takeover : List (ℕ × Op) :=
  [(0, .receiveAction (beacon stationB 5 0 0)), (0, .holdControls),
    (0, .selectNativeParent stationC none false), (0, .releaseControls),
    (0, .holdControls), (0, .clearNativeParent), (0, .discardControls)]

theorem representation_invariant_takeover :
    Representation (runOps (State.fresh stationA samplePlan 0 0 false) takeover) 0 :=
  representation_invariant
    ((ReachableBy.fresh (by decide) (by decide) 0 0 false).runOps takeover (by decide +kernel))

/-- The same run without the release: the engine follows station B, becomes native-managed
inside the transaction and keeps station B as its root after the discard. -/
def discardedTakeover : List (ℕ × Op) :=
  [(0, .receiveAction (beacon stationB 5 0 0)), (0, .holdControls),
    (0, .selectNativeParent stationC none false), (0, .discardControls)]

theorem discardedTakeover_not_localMaster :
    let s := runOps (State.fresh stationA samplePlan 0 0 false) discardedTakeover
    ReachableAt s 0 ∧ s.nativeElectionManaged ∧ s.nativeParentSelected = false ∧
      s.controlsHeld = false ∧ s.master = stationB ∧ s.mac = stationA ∧ s.synchronized ∧
      ¬ Representation s 0 := by
  refine ⟨(ReachableBy.fresh (by decide) (by decide) 0 0 false).runOps discardedTakeover
    (by decide +kernel), by decide +kernel, by decide +kernel, by decide +kernel,
    by decide +kernel, by decide +kernel, by decide +kernel, fun h => ?_⟩
  have hsync := (h.localMaster (by decide +kernel) (by decide +kernel) (by decide +kernel)).2.2.2
  exact absurd hsync (by decide +kernel)

end AirportAwdl.Election
