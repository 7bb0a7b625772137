import AirportAwdl.Election.Hold
import AirportAwdl.Lib.Transaction

/-!
# The control transaction

The engine's requests (role, plan and parent) as a store with transactions: `holdControls` starts
a hold, `releaseControls` commits it and `discardControls` aborts it. `Tracks.apply` says that
every operation moves the requests as its act in the transaction does, so that the requests in
effect are those of the accepted calls that were kept.
-/

namespace AirportAwdl.Election

open ByteBuffer Transaction

variable {s s' : State} {now : ℕ} {start : Requests} {calls : Calls Op} {op : Op}

/-- What control calls ask for. -/
structure Requests where
  role : ℕ
  forced : Mac
  sequence : Sequence
  presence : UInt8
  parent : Option Mac
deriving DecidableEq, Repr

/-- The requests in effect. -/
def State.requests (s : State) : Requests where
  role := s.syncRole.toNat
  forced := s.forcedSync
  sequence := s.ownSequence
  presence := s.ownPresence
  parent := if s.nativeParentSelected then some s.nativeParent else none

/-- The requests of a transaction. -/
def Controls.requests (c : Controls) : Requests where
  role := c.role.toNat
  forced := c.forced
  sequence := c.sequence
  presence := c.presence
  parent := if c.parentSelected then some c.parent else none

/-- The requests of the transaction in progress. -/
def State.pendingRequests (s : State) : Option Requests :=
  if s.controlsHeld then some s.pendingControls.requests else none

/-- The requests after an accepted call: it replaces its own part. -/
def Requests.call (r : Requests) : Op → Requests
  | .setSyncRole role address => { r with role := role, forced := address }
  | .setPresence value =>
    { r with presence := value, sequence := { r.sequence with step := value - 1 } }
  | .setSequence value => { r with sequence := value, presence := value.step + 1 }
  | .setSocialChannel index channel =>
    let value := { r.sequence with channels := r.sequence.channels.setIfInBounds index channel }
    if index < r.sequence.count.toNat ∧ validSequence value then
      { r with sequence := value, presence := value.step + 1 }
    else r
  | .selectNativeParent address _ _ => { r with parent := some address }
  | .clearNativeParent => { r with parent := none }
  | _ => r

@[simp] lemma Requests.call_setSyncRole (r : Requests) (role : ℕ) (address : Mac) :
    r.call (.setSyncRole role address) = { r with role := role, forced := address } := rfl

lemma Requests.call_setSocialChannel (r : Requests) (index : ℕ) (channel : UInt8) :
    r.call (.setSocialChannel index channel) =
      let value := { r.sequence with channels := r.sequence.channels.setIfInBounds index channel }
      if index < r.sequence.count.toNat ∧ validSequence value then
        { r with sequence := value, presence := value.step + 1 }
      else r := rfl

@[simp] lemma Requests.call_selectNativeParent (r : Requests) (address : Mac)
    (root : Option Mac) (acquire : Bool) :
    r.call (.selectNativeParent address root acquire) = { r with parent := some address } := rfl

@[simp] lemma Requests.call_clearNativeParent (r : Requests) :
    r.call .clearNativeParent = { r with parent := none } := rfl

/-- What an accepted operation does to the transaction. -/
def Op.act (op : Op) : Option (Act Op) :=
  match op with
  | .holdControls => some .hold
  | .releaseControls => some .commit
  | .discardControls => some .abort
  | op => if op.isControl then some (.call op) else none

lemma Op.eq_of_act_abort {op : Op} (h : op.act = some .abort) : op = .discardControls := by
  cases op with
  | discardControls => rfl
  | _ => exact absurd h (by rintro ⟨⟩)

/-- An accepted call during a hold: it edits the transaction, and leaves a mark unless it asks
for what is pending already. -/
structure HeldCall (op : Op) (s s' : State) : Prop where
  held : s'.controlsHeld = s.controlsHeld
  requests : s'.requests = s.requests
  pending : s'.pendingControls.requests = s.pendingControls.requests.call op
  clean : s'.controlsDirty = false →
    s.controlsDirty = false ∧ s'.pendingControls = s.pendingControls

lemma HeldCall.setSyncRole (hheld : s.controlsHeld) {role : ℕ} {address : Mac}
    (hacc : (s.setSyncRole role address).1 = true) :
    HeldCall (.setSyncRole role address) s (s.setSyncRole role address).2 := by
  unfold State.setSyncRole at hacc ⊢
  by_cases hrole : State.roleAccepted s.mac s.nativeElectionManaged role address = true
  · rw [if_neg (by simp [hrole]), if_pos hheld]
    have hbyte := State.roleAccepted_toNat hrole
    split
    · exact ⟨rfl, rfl, by simp [Controls.requests, hbyte], by simp⟩
    · rename_i hsame
      simp only [not_or, ne_eq, not_not] at hsame
      refine ⟨rfl, rfl, ?_, fun h => ⟨h, rfl⟩⟩
      simp only [Controls.requests, Requests.call_setSyncRole, hsame]
  grind

lemma HeldCall.setPresence (hinv : Inv s) (hheld : s.controlsHeld) {value : UInt8}
    (hacc : (s.setPresence value now).1 = true) :
    HeldCall (.setPresence value) s (s.setPresence value now).2 := by
  unfold State.setPresence at hacc ⊢
  by_cases hv : validPresence value.toNat = true
  · rw [if_neg (by simp [hv]), if_pos hheld]
    split
    · exact ⟨rfl, rfl, rfl, by simp⟩
    · rename_i hsame
      rw [not_not] at hsame
      have hstep : s.pendingControls.sequence.step = value - 1 := by
        rw [← hsame, (hinv.pendingPlan hheld).presence_eq, UInt8.add_sub_cancel]
      refine ⟨rfl, rfl, ?_, fun h => ⟨h, rfl⟩⟩
      show s.pendingControls.requests = { s.pendingControls.requests with
        presence := value, sequence := { s.pendingControls.sequence with step := value - 1 } }
      rw [← hstep, ← hsame]
      rfl
  grind

lemma setSequence_held (hinv : Inv s) (hheld : s.controlsHeld) (value : Sequence) (now : ℕ) :
    (s.setSequence value now).1 = validSequence value ∧
      if validSequence value then HeldCall (.setSequence value) s (s.setSequence value now).2
      else (s.setSequence value now).2 = s := by
  unfold State.setSequence
  by_cases hv : validSequence value = true
  · rw [if_neg (setSequence_accepts.mpr hv), if_pos hheld, if_pos hv, hv]
    split
    · exact ⟨rfl, rfl, rfl, rfl, by simp⟩
    · rename_i hsame
      rw [not_not] at hsame
      refine ⟨rfl, rfl, rfl, ?_, fun h => ⟨h, rfl⟩⟩
      show s.pendingControls.requests = { s.pendingControls.requests with
        sequence := value, presence := value.step + 1 }
      rw [← hsame, ← (hinv.pendingPlan hheld).presence_eq]
      rfl
  grind

lemma HeldCall.setSocialChannel (hinv : Inv s) (hheld : s.controlsHeld) (index : ℕ)
    (channel : UInt8) (now : ℕ) :
    HeldCall (.setSocialChannel index channel) s (s.setSocialChannel index channel now) := by
  unfold State.setSocialChannel
  rw [if_pos hheld]
  by_cases hindex : index < s.pendingControls.sequence.count.toNat
  · rw [if_neg (not_le.mpr hindex)]
    set value : Sequence := { s.pendingControls.sequence with
      channels := s.pendingControls.sequence.channels.setIfInBounds index channel }
    obtain ⟨-, hset⟩ := setSequence_held hinv hheld value now
    by_cases hv : validSequence value = true
    · rw [if_pos hv] at hset
      exact ⟨hset.held, hset.requests, hset.pending.trans (if_pos ⟨hindex, hv⟩).symm, hset.clean⟩
    · rw [if_neg hv] at hset
      rw [hset]
      exact ⟨rfl, rfl, (if_neg fun h => hv h.2).symm, fun h => ⟨h, rfl⟩⟩
  · rw [if_pos (not_lt.mp hindex)]
    exact ⟨rfl, rfl, (if_neg fun h => hindex h.1).symm, fun h => ⟨h, rfl⟩⟩

lemma HeldCall.selectNativeParent (hheld : s.controlsHeld) (address : Mac) (root : Option Mac)
    (acquire : Bool) : HeldCall (.selectNativeParent address root acquire) s
      (s.selectNativeParent address root acquire) := by
  unfold State.selectNativeParent
  extract_lets n
  rw [if_pos (show n.controlsHeld = true from hheld)]
  split
  · exact ⟨rfl, rfl, rfl, by simp⟩
  · rename_i hsame
    simp only [not_or, Bool.not_eq_true', Bool.not_eq_false, ne_eq, not_not] at hsame
    refine ⟨rfl, rfl, ?_, fun h => ⟨h, rfl⟩⟩
    simp only [Controls.requests, Requests.call_selectNativeParent, hsame, if_true]
    rfl

lemma HeldCall.clearNativeParent (hheld : s.controlsHeld) :
    HeldCall .clearNativeParent s s.clearNativeParent := by
  unfold State.clearNativeParent
  extract_lets n
  rw [if_pos (show n.controlsHeld = true from hheld)]
  split
  · exact ⟨rfl, rfl, rfl, by simp⟩
  · rename_i hsame
    refine ⟨rfl, rfl, ?_, fun h => ⟨h, rfl⟩⟩
    simp only [Controls.requests, Requests.call_clearNativeParent, hsame, Bool.false_eq_true,
      if_false]
    rfl

/-- An accepted call outside a hold takes effect at once. -/
structure FreeCall (op : Op) (s s' : State) : Prop where
  free : s'.controlsHeld = false
  requests : s'.requests = s.requests.call op

lemma FreeCall.setSyncRole (hfree : s.controlsHeld = false) {role : ℕ} {address : Mac}
    (hacc : (s.setSyncRole role address).1 = true) :
    FreeCall (.setSyncRole role address) s (s.setSyncRole role address).2 := by
  unfold State.setSyncRole at hacc ⊢
  by_cases hrole : State.roleAccepted s.mac s.nativeElectionManaged role address = true
  · rw [if_neg (by simp [hrole]), if_neg (by simp [hfree])]
    have hbyte := State.roleAccepted_toNat hrole
    split
    · rename_i hsame
      refine ⟨hfree, ?_⟩
      simp only [State.requests, Requests.call_setSyncRole, hsame.1, hsame.2]
    · refine ⟨hfree, ?_⟩
      simp only [State.requests, Requests.call_setSyncRole, State.applySyncRole, State.holdClock,
        hbyte]
      rfl
  grind

lemma FreeCall.setPresence (hfree : s.controlsHeld = false) {value : UInt8}
    (hacc : (s.setPresence value now).1 = true) :
    FreeCall (.setPresence value) s (s.setPresence value now).2 := by
  unfold State.setPresence at hacc ⊢
  by_cases hv : validPresence value.toNat = true
  · rw [if_neg (by simp [hv]), if_neg (by simp [hfree])]
    unfold State.applyPresence
    dsimp only
    split <;> exact ⟨hfree, rfl⟩
  grind

lemma setSequence_free (hfree : s.controlsHeld = false) (value : Sequence) (now : ℕ) :
    (s.setSequence value now).1 = validSequence value ∧
      if validSequence value then FreeCall (.setSequence value) s (s.setSequence value now).2
      else (s.setSequence value now).2 = s := by
  unfold State.setSequence
  by_cases hv : validSequence value = true
  · rw [if_neg (setSequence_accepts.mpr hv), if_neg (by simp [hfree]), if_pos hv, hv,
      State.applySequence_eq hfree hv]
    split <;> exact ⟨rfl, hfree, rfl⟩
  grind

lemma FreeCall.setSocialChannel (hfree : s.controlsHeld = false) (index : ℕ) (channel : UInt8)
    (now : ℕ) :
    FreeCall (.setSocialChannel index channel) s (s.setSocialChannel index channel now) := by
  unfold State.setSocialChannel
  simp only [hfree, Bool.false_eq_true, if_false]
  by_cases hindex : index < s.ownSequence.count.toNat
  · rw [if_neg (not_le.mpr hindex)]
    set value : Sequence := { s.ownSequence with
      channels := s.ownSequence.channels.setIfInBounds index channel }
    obtain ⟨-, hset⟩ := setSequence_free hfree value now
    by_cases hv : validSequence value = true
    · rw [if_pos hv] at hset
      exact ⟨hset.free, hset.requests.trans (if_pos ⟨hindex, hv⟩).symm⟩
    · rw [if_neg hv] at hset
      rw [hset]
      exact ⟨hfree, (if_neg fun h => hv h.2).symm⟩
  · rw [if_pos (not_lt.mp hindex)]
    exact ⟨hfree, (if_neg fun h => hindex h.1).symm⟩

lemma FreeCall.selectNativeParent (hfree : s.controlsHeld = false) (address : Mac)
    (root : Option Mac) (acquire : Bool) : FreeCall (.selectNativeParent address root acquire) s
      (s.selectNativeParent address root acquire) := by
  unfold State.selectNativeParent
  extract_lets n
  rw [if_neg (show ¬n.controlsHeld = true by rw [show n.controlsHeld = false from hfree]; decide)]
  exact ⟨hfree, rfl⟩

lemma FreeCall.clearNativeParent (hfree : s.controlsHeld = false) :
    FreeCall .clearNativeParent s s.clearNativeParent := by
  unfold State.clearNativeParent
  extract_lets n
  rw [if_neg (show ¬n.controlsHeld = true by rw [show n.controlsHeld = false from hfree]; decide)]
  exact ⟨hfree, rfl⟩

lemma requests_of_controlFields (h : s'.controlFields = s.controlFields) :
    s'.requests = s.requests ∧ s'.controlsHeld = s.controlsHeld ∧
      s'.controlsDirty = s.controlsDirty ∧ s'.pendingControls = s.pendingControls := by
  grind [State.controlFields, State.requests]

lemma commitControls_requests (hinv : Inv s) (hheld : s.controlsHeld) (hdirty : s.controlsDirty)
    (now : ℕ) : (s.commitControls now).requests = s.pendingControls.requests ∧
      (s.commitControls now).controlsHeld = false := by
  have hinst := Installed.committedRequests hinv hheld now
  have hfree : (s.committedRequests now).controlsHeld = false :=
    congrArg (fun x => x.2.2.1) (s.transaction_committedPlan now)
  have hrequests : (s.committedRequests now).requests = s.pendingControls.requests := by
    simp only [State.requests, Controls.requests, hinst.role, hinst.forced, hinst.sequence,
      hinst.presence]
    rfl
  rw [State.commitControls_eq, if_pos hdirty]
  split
  · rename_i hclear
    have hnone : s.pendingControls.parentSelected = false := by simpa using hclear.2
    have hcall := FreeCall.clearNativeParent hfree
    refine ⟨hcall.requests.trans ?_, hcall.free⟩
    rw [hrequests]
    simp only [Requests.call_clearNativeParent, Controls.requests, hnone, Bool.false_eq_true,
      if_false]
  · exact ⟨hrequests, hfree⟩

lemma releaseControls_requests (hinv : Inv s) (hheld : s.controlsHeld)
    (hclean : s.controlsDirty = false → s.pendingControls.requests = s.requests) (now : ℕ) :
    (s.releaseControls now).2.requests = s.pendingControls.requests ∧
      (s.releaseControls now).2.controlsHeld = false := by
  unfold State.releaseControls
  rw [if_neg (by simp [hheld])]
  obtain ⟨hsame, hstill, -⟩ := requests_of_controlFields ((s.commitControls now).controlFields_elect now)
  rw [hsame, hstill]
  cases hdirty : s.controlsDirty with
  | true => exact commitControls_requests hinv hheld hdirty now
  | false =>
    rw [State.commitControls_eq, hdirty, if_neg Bool.false_ne_true]
    exact ⟨(hclean hdirty).symm, rfl⟩

/-- The engine's requests are those of the calls kept so far, starting from `start`. A
transaction that is not dirty asks for what is in effect. -/
structure Tracks (start : Requests) (calls : Calls Op) (s : State) : Prop where
  inv : Inv s
  follows : Follows Requests.call start calls s.requests s.pendingRequests
  clean : s.controlsHeld → s.controlsDirty = false → s.pendingControls.requests = s.requests

lemma State.pendingRequests_held (hheld : s.controlsHeld) :
    s.pendingRequests = some s.pendingControls.requests := if_pos hheld

lemma State.pendingRequests_free (hfree : s.controlsHeld = false) : s.pendingRequests = none :=
  if_neg (by simp [hfree])

lemma Tracks.of_init (hinv : Inv s) (hfree : s.controlsHeld = false) : Tracks s.requests {} s where
  inv := hinv
  follows := ⟨rfl, State.pendingRequests_free hfree⟩
  clean hheld := by cases hfree.symm.trans hheld

lemma Tracks.of_controlFields (h : Tracks start calls s) (hinv : Inv s')
    (heq : s'.controlFields = s.controlFields) : Tracks start calls s' := by
  obtain ⟨hrequests, hheld, hdirty, hpending⟩ := requests_of_controlFields heq
  refine ⟨hinv, ?_, ?_⟩
  · rw [State.pendingRequests, hrequests, hheld, hpending]
    exact h.follows
  · rw [hheld, hdirty, hpending, hrequests]
    exact h.clean

lemma Tracks.of_held (h : Tracks start calls s) (hheld : s.controlsHeld) (hinv : Inv s')
    (hcall : HeldCall op s s') : Tracks start (calls.step (.call op)) s' := by
  have hheld' : s'.controlsHeld = true := hcall.held.trans hheld
  have hfollows := h.follows
  rw [State.pendingRequests_held hheld] at hfollows
  refine ⟨hinv, ?_, fun _ hclean => ?_⟩
  · rw [State.pendingRequests_held hheld', hcall.requests, hcall.pending]
    exact hfollows.call_held op
  · obtain ⟨hdirty, hsame⟩ := hcall.clean hclean
    rw [hsame, hcall.requests]
    exact h.clean hheld hdirty

lemma Tracks.of_free (h : Tracks start calls s) (hfree : s.controlsHeld = false) (hinv : Inv s')
    (hcall : FreeCall op s s') : Tracks start (calls.step (.call op)) s' := by
  have hfollows := h.follows
  rw [State.pendingRequests_free hfree] at hfollows
  refine ⟨hinv, ?_, fun hheld => absurd (hcall.free.symm.trans hheld) Bool.false_ne_true⟩
  rw [State.pendingRequests_free hcall.free, hcall.requests]
  exact hfollows.call_free op

lemma Tracks.of_call (h : Tracks start calls s) (hinv : Inv s')
    (hheld : s.controlsHeld → HeldCall op s s')
    (hfree : s.controlsHeld = false → FreeCall op s s') :
    Tracks start (calls.step (.call op)) s' := by
  cases hcontrols : s.controlsHeld with
  | true => exact h.of_held hcontrols hinv (hheld hcontrols)
  | false => exact h.of_free hcontrols hinv (hfree hcontrols)

lemma Tracks.holdControls (h : Tracks start calls s) :
    Tracks start (calls.step .hold) s.holdControls := by
  have hinv := h.inv.holdControls
  have hfollows := h.follows.hold
  unfold State.holdControls at hinv ⊢
  split at hinv
  · rename_i hheld
    rw [if_pos hheld]
    rw [State.pendingRequests_held hheld] at hfollows
    exact ⟨hinv, by rw [State.pendingRequests_held hheld]; exact hfollows, h.clean⟩
  · rename_i hfree
    rw [if_neg hfree]
    rw [State.pendingRequests_free (Bool.eq_false_iff.mpr hfree)] at hfollows
    exact ⟨hinv, hfollows, fun _ _ => rfl⟩

lemma Tracks.releaseControls (h : Tracks start calls s) (now : ℕ) :
    Tracks start (calls.step .commit) (s.releaseControls now).2 := by
  have hfollows := h.follows.commit
  cases hheld : s.controlsHeld with
  | true =>
    obtain ⟨hrequests, hfree⟩ := releaseControls_requests h.inv hheld (h.clean hheld) now
    rw [State.pendingRequests_held hheld] at hfollows
    refine ⟨h.inv.releaseControls now, ?_, fun h => absurd (hfree.symm.trans h) Bool.false_ne_true⟩
    rw [State.pendingRequests_free hfree, hrequests]
    exact hfollows
  | false =>
    rw [State.pendingRequests_free hheld] at hfollows
    unfold State.releaseControls
    rw [if_pos (by simp [hheld])]
    exact ⟨h.inv, by rw [State.pendingRequests_free hheld]; exact hfollows, h.clean⟩

lemma Tracks.discardControls (h : Tracks start calls s) :
    Tracks start (calls.step .abort) s.discardControls :=
  ⟨h.inv.discardControls, h.follows.abort, fun h => absurd h Bool.false_ne_true⟩

lemma State.setSyncRole_refused {role : ℕ} {address : Mac}
    (h : (s.setSyncRole role address).1 = false) : (s.setSyncRole role address).2 = s := by
  unfold State.setSyncRole at h ⊢
  split_ifs at h ⊢
  rfl

lemma State.setPresence_refused {value : UInt8} (h : (s.setPresence value now).1 = false) :
    (s.setPresence value now).2 = s := by
  unfold State.setPresence at h ⊢
  split_ifs at h ⊢
  rfl

lemma State.setSequence_refused {value : Sequence} (h : (s.setSequence value now).1 = false) :
    (s.setSequence value now).2 = s := by
  unfold State.setSequence at h ⊢
  split_ifs at h ⊢
  rfl

lemma Tracks.of_setter {accepted : Bool} (h : Tracks start calls s)
    (hrefused : accepted = false → s' = s)
    (haccepted : accepted = true → Tracks start (calls.step (.call op)) s') :
    Tracks start (calls.advance (if accepted then some (.call op) else none)) s' := by
  cases accepted with
  | true => exact haccepted rfl
  | false =>
    rw [hrefused rfl]
    exact h

/-- **Every operation moves the requests as its act in the transaction does.** -/
theorem Tracks.apply (h : Tracks start calls s) (op : Op) (now : ℕ) :
    Tracks start (calls.advance (if op.accepted s now then op.act else none))
      (op.apply s now) := by
  have hinv := h.inv.apply op now
  cases op with
  | receiveAction frame =>
    have hnone : (if (Op.receiveAction frame).accepted s now then (Op.receiveAction frame).act
        else none) = none := by split <;> rfl
    rw [hnone]
    exact h.of_controlFields hinv (s.controlFields_receiveAction frame now)
  | elect => exact h.of_controlFields hinv (s.controlFields_elect now)
  | holdClock deadline => exact h.of_controlFields hinv rfl
  | startTimeline => exact h.of_controlFields hinv rfl
  | nextFrame => exact h.of_controlFields hinv rfl
  | holdControls => exact h.holdControls
  | releaseControls => exact h.releaseControls now
  | discardControls => exact h.discardControls
  | setSyncRole role address =>
    refine h.of_setter State.setSyncRole_refused fun hacc => ?_
    exact h.of_call hinv (fun hheld => .setSyncRole hheld hacc) fun hfree => .setSyncRole hfree hacc
  | setPresence value =>
    refine h.of_setter State.setPresence_refused fun hacc => ?_
    exact h.of_call hinv (fun hheld => .setPresence h.inv hheld hacc) fun hfree =>
      .setPresence hfree hacc
  | setSequence value =>
    refine h.of_setter State.setSequence_refused fun hacc => ?_
    refine h.of_call hinv (fun hheld => ?_) fun hfree => ?_
    · obtain ⟨hvalid, hcall⟩ := setSequence_held h.inv hheld value now
      rwa [if_pos (hvalid.symm.trans hacc)] at hcall
    · obtain ⟨hvalid, hcall⟩ := setSequence_free hfree value now
      rwa [if_pos (hvalid.symm.trans hacc)] at hcall
  | setSocialChannel index channel =>
    exact h.of_call hinv (fun hheld => .setSocialChannel h.inv hheld index channel now) fun hfree =>
      .setSocialChannel hfree index channel now
  | selectNativeParent address root acquire =>
    exact h.of_call hinv (fun hheld => .selectNativeParent hheld address root acquire) fun hfree =>
      .selectNativeParent hfree address root acquire
  | clearNativeParent =>
    exact h.of_call hinv (fun hheld => .clearNativeParent hheld) fun hfree =>
      .clearNativeParent hfree

end AirportAwdl.Election
