import AirportAwdl.Lib.Trace
import AirportAwdl.Wcl.Success

/-!
# One completion for every join

Two facts about the trace. A join that was accepted is closed once (`joinStep` is a monitor of
the trace that knows which join is open). And while no post finds the ring full, what was
posted is what was delivered and what the ring still holds, in this order (`Flowing`). A call
either keeps all it posts or posts more than the ring had room for (`Fills`).

Both need a condition. A ring of 32 messages is full if nothing drains it, and a post that finds
it full is lost, which no caller looks at. And a join that is resumed, completed by an event
that arrives during its state change and then refused by that state change is completed twice.
-/

namespace AirportAwdl.Wcl

open Native (IOReturn)

/-- The BSSID of the open join; a completion of no join or of another one is refused. -/
def joinStep (current : Option Mac) : JoinEvent → Option (Option Mac)
  | .pending .request bssid => if current = none then some (some bssid) else none
  | .pending .resume bssid => if current = some bssid then some current else none
  | .posted (.connectComplete c) | .dropped (.connectComplete c) =>
    if current = some c.bssid then some none else none
  | .withdrawn => if current = none then none else some none
  | .refused .request => some none
  | _ => some current

/-- The messages that were delivered, in order. -/
def delivered (trace : List JoinEvent) : List JoinMessage :=
  trace.filterMap fun | .delivered m => some m | _ => none

lemma delivered_append (first rest : List JoinEvent) :
    delivered (first ++ rest) = delivered first ++ delivered rest :=
  List.filterMap_append

/-- A state change that fails delivers nothing that ends a join meanwhile. -/
def Transition.Quiet (t : Transition) : Prop :=
  t.error ≠ 0 → ∀ e ∈ t.events, e ≠ .assocDone ∧ e ≠ .deauth

namespace WclInterface

/-- The monitor of the trace has this join open. -/
def Accounted (current : Option Mac) (w : WclInterface) : Prop :=
  Trace.after joinStep none w.trace = some current

/-- The join that the interface takes for open. -/
def current (w : WclInterface) : Option Mac := if w.joinPending then some w.joinBSSID else none

variable {w v : WclInterface} {current : Option Mac} {e : JoinEvent}

lemma Accounted.snoc {current' : Option Mac} {trace : List JoinEvent}
    (h : w.Accounted current) (htrace : trace = w.trace ++ [e])
    (he : joinStep current e = some current') : Trace.after joinStep none trace = some current' := by
  rw [htrace, Trace.after_append, h, Option.bind_some, Trace.after_cons, he]
  rfl

lemma joinStep_report {m : JoinMessage} (he : e = .posted m ∨ e = .dropped m)
    (hm : ∀ c, m ≠ .connectComplete c) : joinStep current e = some current := by
  rcases he with rfl | rfl
  all_goals
    cases m with
    | connectComplete c => exact absurd rfl (hm c)
    | _ => rfl

lemma joinStep_complete {c : ConnectionEvent}
    (he : e = .posted (.connectComplete c) ∨ e = .dropped (.connectComplete c)) :
    joinStep (some c.bssid) e = some none := by
  rcases he with rfl | rfl <;> exact if_pos rfl

lemma Accounted.post {m : JoinMessage} (h : w.Accounted current)
    (hm : ∀ c, m ≠ .connectComplete c) : (w.post m).Accounted current := by
  obtain ⟨messages, e, he, hpost⟩ := w.post_eq m
  rw [hpost]
  exact h.snoc rfl (joinStep_report he hm)

lemma current_of_pending (h : w.joinPending = true) : w.current = some w.joinBSSID := if_pos h

lemma current_of_idle (h : w.joinPending = false) : w.current = none :=
  if_neg (Bool.eq_false_iff.mp h)

lemma current_post (w : WclInterface) (m : JoinMessage) : (w.post m).current = w.current := by
  obtain ⟨_, _, _, hpost⟩ := w.post_eq m
  rw [hpost]
  rfl

lemma Accounted.finishWCLJoin {status reason : UInt16} {driverStatus : IOReturn}
    (h : w.Accounted w.current) : (w.finishWCLJoin status reason driverStatus).Accounted
      (w.finishWCLJoin status reason driverStatus).current ∧
      (w.finishWCLJoin status reason driverStatus).joinPending = false := by
  unfold WclInterface.finishWCLJoin
  split
  · rename_i hidle
    exact ⟨h, by simpa using hidle⟩
  rename_i hpending
  simp only [Bool.not_eq_true, Bool.not_eq_false'] at hpending
  obtain ⟨messages, e, he, hpost⟩ := post_eq { w with
    joinPending := false, joinDeferred := false, deferredJoin := {}, joinTimer := none }
    (.connectComplete { status, reason, bssid := w.joinBSSID, driverStatus })
  rw [hpost]
  rw [current_of_pending hpending] at h
  exact ⟨h.snoc rfl (joinStep_complete he), rfl⟩

lemma Accounted.act (hact : RxAct w v) (h : w.Accounted w.current) : v.Accounted v.current := by
  cases hact with
  | quiet => exact h
  | link up => exact h.snoc rfl rfl
  | report m hm =>
    rw [current_post]
    exact h.post hm
  | association hpending =>
    unfold announceAssociation
    rw [current_post]
    exact Accounted.post (show Accounted w.current { w with assocNotified := _ } from h) nofun
  | beacon hpending hassoc =>
    unfold announceBeacon
    rw [current_post, current_post]
    exact Accounted.post (Accounted.post (show Accounted w.current
      { w with firstBeaconNotified := true, wclLinkIndicated := true } from h) nofun) nofun
  | finish => exact h.finishWCLJoin.1

lemma Accounted.path (h : w.Accounted w.current) (hpath : RxPath w v) : v.Accounted v.current :=
  hpath.keeps (P := fun w => w.Accounted w.current) (fun _ _ => Accounted.act) h

lemma Accounted.idlePath (h : w.Accounted current) (hpending : w.joinPending = false)
    (hpath : RxPath w v) : v.Accounted current ∧ v.joinPending = false ∧
      v.joinBSSID = w.joinBSSID := by
  refine hpath.keeps (P := fun v => v.Accounted current ∧ v.joinPending = false ∧
    v.joinBSSID = w.joinBSSID) (fun w v hact hw => ?_) ⟨h, hpending, rfl⟩
  obtain ⟨hw, hpending, hbssid⟩ := hw
  cases hact with
  | quiet => exact ⟨hw, hpending, hbssid⟩
  | link up => exact ⟨hw.snoc rfl rfl, hpending, hbssid⟩
  | report m hm =>
    obtain ⟨_, _, _, hpost⟩ := w.post_eq m
    grind [hw.post]
  | association hp | beacon hp => cases hpending.symm.trans hp
  | finish =>
    grind [WclInterface.finishWCLJoin]

lemma Accounted.leaveWCLNetwork (t : Transition) (h : w.Accounted w.current) :
    (w.leaveWCLNetwork t).Accounted (w.leaveWCLNetwork t).current := by
  unfold WclInterface.leaveWCLNetwork
  extract_lets marked ic left
  have hleft : left.Accounted left.current := by
    show Trace.after joinStep none marked.trace = some none
    unfold marked
    split
    · rename_i hpending
      rw [current_of_pending hpending] at h
      exact h.snoc rfl rfl
    · rename_i hpending
      rwa [current_of_idle (Bool.eq_false_iff.mpr hpending)] at h
  split
  · exact hleft.path (newState_path t left)
  · exact hleft

lemma Accounted.leaveIdle (t : Transition) (h : w.Accounted current)
    (hpending : w.joinPending = false) : (w.leaveWCLNetwork t).Accounted current ∧
      (w.leaveWCLNetwork t).joinPending = false ∧
      (w.leaveWCLNetwork t).joinBSSID = w.joinBSSID := by
  unfold WclInterface.leaveWCLNetwork
  extract_lets marked ic left
  have hmarked : marked = w := if_neg (Bool.eq_false_iff.mp hpending)
  have hleft : left.Accounted current := by
    show Trace.after joinStep none marked.trace = some current
    rwa [hmarked]
  have hbssid : left.joinBSSID = w.joinBSSID := by
    show marked.joinBSSID = w.joinBSSID
    rw [hmarked]
  split
  · rw [← hbssid]
    exact hleft.idlePath rfl (newState_path t left)
  · exact ⟨hleft, rfl, hbssid⟩

lemma Accounted.scanForRequest (join : JoinRequest) (t : Transition) (h : w.Accounted none) :
    (w.scanForJoin .request join t).2.Accounted (w.scanForJoin .request join t).2.current := by
  unfold WclInterface.scanForJoin
  extract_lets started searched
  have hstarted : started.Accounted started.current := h.snoc rfl rfl
  split
  · have hsearched : searched.Accounted searched.current := hstarted.path (newState_path t started)
    split
    · exact hsearched.snoc rfl rfl
    · exact hsearched
  · exact hstarted

/-- A join that looks for its network, with the flags still down. -/
structure Searching (bssid : Mac) (w : WclInterface) : Prop where
  accounted : w.Accounted (some bssid)
  pending : w.joinPending = true
  bssid : w.joinBSSID = bssid
  assoc : w.assocNotified = false
  beacon : w.firstBeaconNotified = false

lemma Searching.post {bssid : Mac} {m : JoinMessage} (h : w.Searching bssid)
    (hm : ∀ c, m ≠ .connectComplete c) : (w.post m).Searching bssid := by
  have haccounted := h.accounted.post hm
  obtain ⟨_, _, _, hpost⟩ := w.post_eq m
  rw [hpost] at haccounted ⊢
  exact ⟨haccounted, h.pending, h.bssid, h.assoc, h.beacon⟩

lemma Searching.receive {bssid : Mac} (e : RxEvent) (h : w.Searching bssid)
    (hassoc : e ≠ .assocDone) (hdeauth : e ≠ .deauth) : (w.receive e).Searching bssid := by
  cases e with
  | changed ic => exact ⟨h.accounted, h.pending, h.bssid, h.assoc, h.beacon⟩
  | link up =>
    show (w.handleWCLLink up).Searching bssid
    unfold WclInterface.handleWCLLink
    split
    · exact h
    extract_lets arrived reported
    have harrived : arrived.Searching bssid :=
      ⟨h.accounted.snoc rfl rfl, h.pending, h.bssid, h.assoc, h.beacon⟩
    have hreported : reported.Searching bssid := by
      unfold reported
      split
      · refine Searching.post ?_ fun c => nofun
        exact ⟨harrived.accounted, harrived.pending, harrived.bssid, harrived.assoc,
          harrived.beacon⟩
      · exact harrived
    rw [if_neg (by rw [hreported.beacon, Bool.and_false]; decide)]
    exact hreported
  | beacon b =>
    cases b with
    | none => exact h
    | some beacon =>
      show (if w.wclStopping then w else w.beaconReceived beacon).Searching bssid
      split
      · exact h
      unfold WclInterface.beaconReceived
      rw [h.assoc]
      simp only [Bool.false_and, Bool.false_eq_true, if_false]
      have hpublished : (w.publishWCLBeacon beacon.node).Searching bssid := by
        unfold WclInterface.publishWCLBeacon
        split
        · exact h
        split
        · exact h
        split
        · exact h
        · rw [if_neg (by rw [h.assoc, Bool.false_and]; decide)]
          exact h
      split
      · rw [hpublished.assoc, Bool.and_false, Bool.false_and, Bool.false_and, Bool.false_and]
        exact hpublished
      grind
  | scanDone =>
    show (if w.wclStopping then w else w.scanEnded).Searching bssid
    unfold WclInterface.scanEnded
    split_ifs <;> exact ⟨h.accounted, h.pending, h.bssid, h.assoc, h.beacon⟩
  | assocDone => exact absurd rfl hassoc
  | deauth => exact absurd rfl hdeauth

lemma Searching.newState {bssid : Mac} {t : Transition} (h : w.Searching bssid)
    (hquiet : ∀ e ∈ t.events, e ≠ .assocDone ∧ e ≠ .deauth) : (w.newState t).Searching bssid := by
  unfold WclInterface.newState
  generalize t.events = events at hquiet
  induction events generalizing w with
  | nil => exact h
  | cons e rest ih =>
    grind [h.receive]

/-- A start of a join that was put off: it is open throughout, and still open when the start
fails. -/
structure Resumed (bssid : Mac) (result : IOReturn × WclInterface) : Prop where
  started : result.1 = .success → result.2.Accounted result.2.current
  failed : result.1 ≠ .success →
    result.2.Accounted (some bssid) ∧ result.2.joinBSSID = bssid

lemma Accounted.scanForResume (join : JoinRequest) {t : Transition} (h : w.Accounted (some join.bssid))
    (hquiet : t.Quiet) : Resumed join.bssid (w.scanForJoin .resume join t) := by
  unfold WclInterface.scanForJoin
  extract_lets started searched
  have haccounted : started.Accounted (some join.bssid) := h.snoc rfl (if_pos rfl)
  have hstarted : started.Searching join.bssid := ⟨haccounted, rfl, rfl, rfl, rfl⟩
  split
  · split
    · rename_i herror
      have hsearched : searched.Searching join.bssid := hstarted.newState (hquiet herror)
      exact ⟨nofun, fun _ => ⟨hsearched.accounted.snoc rfl rfl, hsearched.bssid⟩⟩
    · have hsearched : searched.Accounted searched.current :=
        Accounted.path (w := started) haccounted (newState_path t started)
      exact ⟨fun _ => hsearched, fun hne => absurd rfl hne⟩
  · exact ⟨fun _ => haccounted, fun hne => absurd rfl hne⟩

lemma Accounted.startRequest (join : JoinRequest) (a : JoinAnswers)
    (h : w.Accounted w.current) : (w.startWCLJoin .request join a).2.Accounted
      (w.startWCLJoin .request join a).2.current := by
  unfold WclInterface.startWCLJoin
  extract_lets auth left
  split
  · rename_i hdefers
    have hpending : w.joinPending = false := by
      unfold defers at hdefers
      simp only [Bool.and_eq_true, Bool.not_eq_true'] at hdefers
      exact hdefers.1.1.2
    rw [current_of_idle hpending] at h
    exact h.snoc rfl rfl
  split
  · exact h
  split
  · exact h
  rename_i hbusy
  simp only [Bool.or_eq_true, not_or, Bool.not_eq_true] at hbusy
  rw [current_of_idle hbusy.1.2] at h
  have hleft : left.Accounted none ∧ left.joinPending = false := by
    unfold left
    split
    · have hleave := h.leaveIdle a.leave hbusy.1.2
      exact ⟨hleave.1, hleave.2.1⟩
    · exact ⟨h, hbusy.1.2⟩
  split
  · exact hleft.1.scanForRequest join a.scan
  · show left.Accounted left.current
    rw [current_of_idle hleft.2]
    exact hleft.1

lemma Accounted.startResume {join : JoinRequest} {a : JoinAnswers}
    (h : w.Accounted (some join.bssid)) (hpending : w.joinPending = false)
    (hbssid : w.joinBSSID = join.bssid) (hdefers : w.defers join = false)
    (hquiet : a.scan.Quiet) : Resumed join.bssid (w.startWCLJoin .resume join a) := by
  unfold WclInterface.startWCLJoin
  extract_lets auth left
  rw [if_neg (Bool.eq_false_iff.mp hdefers)]
  split
  · exact ⟨nofun, fun _ => ⟨h, hbssid⟩⟩
  split
  · exact ⟨nofun, fun _ => ⟨h, hbssid⟩⟩
  have hleft : left.Accounted (some join.bssid) ∧ left.joinBSSID = join.bssid := by
    unfold left
    split
    · have hleave := h.leaveIdle a.leave hpending
      exact ⟨hleave.1, hleave.2.2.trans hbssid⟩
    · exact ⟨h, hbssid⟩
  split
  · exact hleft.1.scanForResume join hquiet
  · rename_i hstatus
    exact ⟨fun hsuccess => absurd hsuccess hstatus, fun _ => hleft⟩

lemma Accounted.resumeWCLJoin {a : JoinAnswers} (h : w.Accounted w.current)
    (hcoherent : w.Coherent) (hready : w.ic.macReconfig = false) (hquiet : a.scan.Quiet) :
    (w.resumeWCLJoin a).Accounted (w.resumeWCLJoin a).current := by
  unfold WclInterface.resumeWCLJoin
  split
  · exact h
  rename_i hgo
  simp only [Bool.or_eq_true, not_or, Bool.not_eq_true, Bool.not_eq_false'] at hgo
  obtain ⟨hpending, hbssid⟩ := hcoherent hgo.1
  rw [current_of_pending hpending, ← hbssid] at h
  extract_lets join taken
  have hdefers : taken.defers join = false := by
    show (_ && _ && w.ic.macReconfig && _) = false
    rw [hready, Bool.and_false, Bool.false_and]
  have hstart : Resumed join.bssid (taken.startWCLJoin .resume join a) :=
    Accounted.startResume (w := taken) h rfl hbssid.symm hdefers hquiet
  generalize taken.startWCLJoin .resume join a = result at hstart ⊢
  obtain ⟨status, v⟩ := result
  dsimp only at hstart ⊢
  split
  · rename_i hfailed
    obtain ⟨hv, hvbssid⟩ := hstart.failed hfailed
    refine (Accounted.finishWCLJoin (w := { v with joinPending := true }) ?_).1
    rw [show v.joinBSSID = join.bssid from hvbssid]
    exact hv
  · rename_i hsuccess
    exact hstart.started (not_not.mp hsuccess)

lemma Accounted.driverChanged {ready : Bool} {a : JoinAnswers} (h : w.Accounted w.current)
    (hcoherent : w.Coherent) (hquiet : ready = true → a.scan.Quiet) :
    (w.driverChanged ready a).Accounted (w.driverChanged ready a).current := by
  unfold WclInterface.driverChanged
  cases ready with
  | true =>
    exact Accounted.resumeWCLJoin (w := { w with ic := _ }) h hcoherent
      (consumeMacReconfiguration_ready w.ic.macReconfig) (hquiet rfl)
  | false =>
    exact (h.path (finishWCLScan_path _ w)).finishWCLJoin.1

lemma Accounted.stopWCL (h : w.Accounted w.current) : w.stopWCL.Accounted w.stopWCL.current := by
  unfold WclInterface.stopWCL
  extract_lets marked
  unfold marked
  split
  · rename_i hpending
    rw [current_of_pending hpending] at h
    exact h.snoc rfl rfl
  · rename_i hpending
    rwa [current_of_idle (Bool.eq_false_iff.mpr hpending)] at h

/-- How often a message was posted, whether the ring took it or not. -/
def posts (trace : List JoinEvent) : ℕ := (posted trace).length + (dropped trace).length

lemma posts_append (first rest : List JoinEvent) : posts (first ++ rest) = posts first + posts rest := by
  simp only [posts, posted_append, dropped_append, List.length_append]
  omega

/-- The ring can take messages. -/
def Works (w : WclInterface) : Prop :=
  w.wclStopping = false ∧ w.wclJoinLock = true ∧ w.wclJoinMessageTimer = true

/-- From `w` to `v` nothing is delivered, and the ring keeps every message that is posted, unless
there are more of them than it had room for. -/
def Fills (w v : WclInterface) : Prop :=
  v.Works ∧ ∃ news, v.trace = w.trace ++ news ∧ delivered news = [] ∧
    (dropped news = [] ∧ v.wclJoinMessages.toList = w.wclJoinMessages.toList ++ posted news ∨
      32 < w.wclJoinMessages.count + posts news)

lemma size_le_payloadSize (m : JoinMessage) : m.size ≤ payloadSize := by
  cases m <;> simp [JoinMessage.size, payloadSize]

lemma Works.fills (h : w.Works) : w.Fills w :=
  ⟨h, [], (List.append_nil _).symm, rfl, .inl ⟨rfl, (List.append_nil _).symm⟩⟩

lemma Fills.note (h : w.Fills v) (hposted : posted [e] = [])
    (hdropped : dropped [e] = []) (hdelivered : delivered [e] = []) : w.Fills (v.record e) := by
  obtain ⟨hworks, news, htrace, hnone, hring⟩ := h
  refine ⟨hworks, news ++ [e], ?_, ?_, ?_⟩
  · rw [← List.append_assoc, ← htrace]
    rfl
  · rw [delivered_append, hnone, hdelivered, List.nil_append]
  · rw [dropped_append, posted_append, posts_append, hdropped, hposted, List.append_nil,
      List.append_nil]
    exact hring.imp_right fun hfull => by omega

/-- A post goes to the end of the ring, or finds it full. -/
lemma Fills.post (m : JoinMessage) (h : w.Fills v) : w.Fills (v.post m) := by
  obtain ⟨⟨hrunning, hlock, htimer⟩, news, htrace, hnone, hring⟩ := h
  have hsize := size_le_payloadSize m
  have hlength : v.wclJoinMessages.toList = w.wclJoinMessages.toList ++ posted news →
      v.wclJoinMessages.count = w.wclJoinMessages.count + (posted news).length := by
    intro heq
    simpa using congrArg List.length heq
  unfold WclInterface.post postWCLJoinMessage
  rw [if_neg (by rw [hlock, hrunning]; decide), if_neg (by omega),
    if_neg (by rw [htimer]; decide)]
  split
  · rename_i hfull
    have hcount := BoundedRing.push?_eq_none.mp hfull
    refine ⟨⟨hrunning, hlock, htimer⟩, news ++ [.dropped m], ?_, ?_, .inr ?_⟩
    · rw [← List.append_assoc, ← htrace]
      rfl
    · rw [delivered_append, hnone]
      rfl
    · have hone : posts [.dropped m] = 1 := rfl
      rw [posts_append, hone]
      rcases hring with ⟨hkept, hqueue⟩ | hmore
      · have := hlength hqueue
        unfold posts
        omega
      · omega
  · rename_i messages hpush
    refine ⟨⟨hrunning, hlock, htimer⟩, news ++ [.posted m], ?_, ?_, ?_⟩
    · rw [← List.append_assoc, ← htrace]
      rfl
    · rw [delivered_append, hnone]
      rfl
    rcases hring with ⟨hkept, hqueue⟩ | hmore
    · refine .inl ⟨by rw [dropped_append, hkept]; rfl, ?_⟩
      show messages.toList = _
      rw [BoundedRing.toList_push? hpush, hqueue, posted_append, List.append_assoc]
      rfl
    · refine .inr ?_
      rw [posts_append]
      omega

lemma Fills.finishWCLJoin {status reason : UInt16} {driverStatus : IOReturn} (h : w.Fills v) :
    w.Fills (v.finishWCLJoin status reason driverStatus) := by
  unfold WclInterface.finishWCLJoin
  split
  · exact h
  · exact Fills.post _ h

lemma Fills.act {u : WclInterface} (hact : RxAct v u) (h : w.Fills v) : w.Fills u := by
  cases hact with
  | quiet => exact h
  | link up => exact Fills.note (v := { v with portAuthorized := up }) h rfl rfl rfl
  | report m => exact h.post m
  | association => exact Fills.post _ h
  | beacon => exact Fills.post _ (Fills.post _ h)
  | finish => exact h.finishWCLJoin

lemma Fills.path {u : WclInterface} (h : w.Fills v) (hpath : RxPath v u) : w.Fills u :=
  hpath.keeps (P := w.Fills) (fun _ _ => Fills.act) h

lemma Fills.leaveWCLNetwork (t : Transition) (h : w.Fills v) : w.Fills (v.leaveWCLNetwork t) := by
  unfold WclInterface.leaveWCLNetwork
  extract_lets marked ic left
  have hmarked : w.Fills marked := by
    unfold marked
    split
    · exact h.note rfl rfl rfl
    · exact h
  have hleft : w.Fills left := hmarked
  split
  · exact hleft.path (newState_path t left)
  · exact hleft

lemma Fills.scanForJoin (origin : Origin) (join : JoinRequest) (t : Transition) (h : w.Fills v) :
    w.Fills (v.scanForJoin origin join t).2 := by
  unfold WclInterface.scanForJoin
  extract_lets started searched
  have hstarted : w.Fills started := h.note rfl rfl rfl
  split
  · have hsearched : w.Fills searched := hstarted.path (newState_path t started)
    split
    · exact hsearched.note rfl rfl rfl
    · exact hsearched
  · exact hstarted

lemma Fills.startWCLJoin (origin : Origin) (join : JoinRequest) (a : JoinAnswers)
    (h : w.Fills v) : w.Fills (v.startWCLJoin origin join a).2 := by
  unfold WclInterface.startWCLJoin
  extract_lets auth left
  split
  · exact h.note rfl rfl rfl
  split
  · exact h
  split
  · exact h
  have hleft : w.Fills left := by
    unfold left
    split
    · exact h.leaveWCLNetwork a.leave
    · exact h
  split
  · exact hleft.scanForJoin origin join a.scan
  · exact hleft

lemma Fills.resumeWCLJoin (a : JoinAnswers) (h : w.Fills v) : w.Fills (v.resumeWCLJoin a) := by
  unfold WclInterface.resumeWCLJoin
  split
  · exact h
  extract_lets join taken
  have htaken : w.Fills taken := h
  have hstart := htaken.startWCLJoin .resume join a
  generalize taken.startWCLJoin .resume join a = result at hstart ⊢
  obtain ⟨status, u⟩ := result
  dsimp only at hstart ⊢
  split
  · exact Fills.finishWCLJoin (v := { u with joinPending := true }) hstart
  · exact hstart

lemma Fills.driverChanged (ready : Bool) (a : JoinAnswers) (h : w.Fills v) :
    w.Fills (v.driverChanged ready a) := by
  unfold WclInterface.driverChanged
  cases ready with
  | true =>
    exact Fills.resumeWCLJoin a h
  | false =>
    exact (h.path (finishWCLScan_path _ v)).finishWCLJoin

/-- The ring works and has lost no message: what was posted is what was delivered and what is
queued. -/
structure Flowing (w : WclInterface) : Prop where
  works : w.Works
  kept : dropped w.trace = []
  order : delivered w.trace ++ w.wclJoinMessages.toList = posted w.trace

/-- While the ring has room for what is posted, no message is lost. -/
lemma Flowing.fills (h : w.Flowing) (hfills : w.Fills v)
    (hroom : w.wclJoinMessages.count + posts (v.trace.drop w.trace.length) ≤ 32) : v.Flowing := by
  obtain ⟨hworks, news, htrace, hnone, hring⟩ := hfills
  rw [htrace, List.drop_left] at hroom
  obtain ⟨hkept, hqueue⟩ := hring.resolve_right (by omega)
  refine ⟨hworks, ?_, ?_⟩
  · rw [htrace, dropped_append, h.kept, hkept, List.nil_append]
  · rw [htrace, delivered_append, posted_append, hnone, hqueue, ← h.order, List.append_nil,
      List.append_assoc]

lemma Flowing.drainWCLJoinMessages (h : w.Flowing) : w.drainWCLJoinMessages.Flowing := by
  unfold WclInterface.drainWCLJoinMessages
  split
  · exact h
  rename_i hqueued
  simp only [Bool.or_eq_true, decide_eq_true_eq, not_or] at hqueued
  have hqueue := BoundedRing.toList_drop hqueued.2
  refine ⟨h.works, ?_, ?_⟩
  · show dropped (w.trace ++ [.delivered _]) = []
    rw [dropped_append, h.kept]
    rfl
  · show delivered (w.trace ++ [.delivered w.wclJoinMessages.front]) ++
      w.wclJoinMessages.drop.toList = posted (w.trace ++ [.delivered _])
    have hfront : delivered [.delivered w.wclJoinMessages.front] = [w.wclJoinMessages.front] := rfl
    rw [delivered_append, posted_append, hfront, ← h.order, hqueue, List.append_assoc]
    exact (List.append_nil _).symm

/-- The messages that a call posts, whether the ring takes them or not. -/
def callPosts (w : WclInterface) (c : WclCall) : ℕ :=
  posts ((w.step c).trace.drop w.trace.length)

end WclInterface

/-- The ring has room for what the call posts, and a resumed join that is refused was not
completed before. -/
def orderly (w : WclInterface) (c : WclCall) : Prop :=
  w.wclJoinMessages.count + w.callPosts c ≤ 32 ∧ ∀ a, c = .driver true a → a.scan.Quiet

/-- No message was lost, and all that were not discarded by the interface's stop were delivered
in the order they were posted, or are queued in it. -/
structure Delivery (w : WclInterface) : Prop where
  kept : dropped w.trace = []
  order : delivered w.trace <+: posted w.trace
  queue : w.wclStopping = false → delivered w.trace ++ w.wclJoinMessages.toList = posted w.trace

namespace WclInterface

/-- The ring works, or the interface has stopped. -/
def Sound (w : WclInterface) : Prop :=
  w.Flowing ∨ w.wclStopping = true ∧ dropped w.trace = [] ∧ delivered w.trace <+: posted w.trace

variable {w v : WclInterface}

lemma Sound.delivery (h : w.Sound) : Delivery w := by
  rcases h with h | ⟨hstopping, hkept, horder⟩
  · exact ⟨h.kept, ⟨_, h.order⟩, fun _ => h.order⟩
  · exact ⟨hkept, horder, fun hrunning => absurd (hrunning.symm.trans hstopping) nofun⟩

lemma Sound.stopWCL (h : w.Sound) : w.stopWCL.Sound := by
  have hdelivery := h.delivery
  unfold WclInterface.stopWCL
  extract_lets marked
  refine .inr ⟨rfl, ?_⟩
  unfold marked
  split
  · show dropped (w.trace ++ [.withdrawn]) = [] ∧
      delivered (w.trace ++ [.withdrawn]) <+: posted (w.trace ++ [.withdrawn])
    rw [dropped_append, delivered_append, posted_append, hdelivery.kept]
    exact ⟨rfl, (List.append_nil _).symm ▸ (List.append_nil _).symm ▸ hdelivery.order⟩
  · exact ⟨hdelivery.kept, hdelivery.order⟩

/-- A call for which the ring has room loses nothing. -/
lemma Sound.step (c : WclCall) (h : w.Sound)
    (hroom : w.wclJoinMessages.count + w.callPosts c ≤ 32) : (w.step c).Sound := by
  rcases h with h | hstopped
  · have hfills := h.works.fills
    have hgate : ∀ {v : WclInterface}, w.Fills v → w.Fills (if w.wclStopping then w else v) := by
      intro v hv
      rwa [if_neg (Bool.eq_false_iff.mp h.works.1)]
    cases c with
    | drain => exact .inl h.drainWCLJoinMessages
    | stop => exact Sound.stopWCL (.inl h)
    | received e => exact .inl (h.fills (hfills.path (receive_path e w)) hroom)
    | scanTimer => exact .inl (h.fills (hfills.path w.completeWCLScan_path) hroom)
    | scanAbort =>
      exact .inl (h.fills (hgate (hfills.path (WclInterface.finishWCLScan_path .aborted w))) hroom)
    | driver ready a => exact .inl (h.fills (hgate (hfills.driverChanged ready a)) hroom)
    | join request a =>
      exact .inl (h.fills (hgate (hfills.startWCLJoin .request request a)) hroom)
    | leave t | abort t => exact .inl (h.fills (hgate (hfills.leaveWCLNetwork t)) hroom)
    | timeout t =>
      exact .inl (h.fills (hgate (hfills.finishWCLJoin.leaveWCLNetwork t)) hroom)
    | scan a => exact .inl (h.fills (hgate (hfills.path (beginWCLScan_path a w))) hroom)
  · -- a stopped interface does nothing but follow net80211
    have hgate : ∀ v : WclInterface, (if w.wclStopping then w else v).Sound := by
      intro v
      rw [if_pos hstopped.1]
      exact .inr hstopped
    cases c with
    | received e =>
      cases e with
      | changed ic => exact .inr hstopped
      | link up => exact hgate _
      | beacon b =>
        cases b with
        | none => exact .inr hstopped
        | some beacon => exact hgate _
      | scanDone | assocDone | deauth => exact hgate _
    | drain =>
      show w.drainWCLJoinMessages.Sound
      unfold WclInterface.drainWCLJoinMessages
      rw [if_pos (by rw [hstopped.1]; rfl)]
      exact .inr hstopped
    | stop => exact Sound.stopWCL (.inr hstopped)
    | scanTimer | driver | join | leave | abort | timeout | scan | scanAbort => exact hgate _

/-- A call keeps the account of the open join. -/
lemma Accounted.step (c : WclCall) (h : w.Accounted w.current) (hcoherent : w.Coherent)
    (hquiet : ∀ a, c = .driver true a → a.scan.Quiet) : (w.step c).Accounted (w.step c).current := by
  have hgate : ∀ {v : WclInterface}, v.Accounted v.current →
      (if w.wclStopping then w else v).Accounted (if w.wclStopping then w else v).current := by
    intro v hv
    split
    · exact h
    · exact hv
  cases c with
  | received e => exact h.path (receive_path e w)
  | drain =>
    show w.drainWCLJoinMessages.Accounted w.drainWCLJoinMessages.current
    unfold WclInterface.drainWCLJoinMessages
    split
    · exact h
    · exact h.snoc rfl rfl
  | scanTimer => exact h.path w.completeWCLScan_path
  | scanAbort => exact hgate (h.path (WclInterface.finishWCLScan_path .aborted w))
  | stop => exact h.stopWCL
  | driver ready a => exact hgate (h.driverChanged hcoherent fun hready => hquiet a (by rw [hready]))
  | join request a => exact hgate (h.startRequest request a)
  | leave t | abort t => exact hgate (h.leaveWCLNetwork t)
  | timeout t => exact hgate (h.finishWCLJoin.1.leaveWCLNetwork t)
  | scan a => exact hgate (h.path (beginWCLScan_path a w))

end WclInterface

/-- A completion was posted. -/
def JoinEvent.completes : JoinEvent → Bool
  | .posted (.connectComplete _) => true
  | _ => false

def completions (trace : List JoinEvent) : ℕ := trace.countP JoinEvent.completes

/-- `own` is what happened from the acceptance of a join on until the next one was accepted,
or until now. -/
structure Own (trace before : List JoinEvent) (bssid : Mac) (own rest : List JoinEvent) :
    Prop where
  split : trace = before ++ .pending .request bssid :: (own ++ rest)
  own : ∀ e ∈ own, e.opens = false
  next : ∀ e ∈ rest.head?, e.opens = true

section
variable {trace before own rest : List JoinEvent} {bssid : Mac} {current : Option Mac}

/-- What an accepted event does to the open join. -/
lemma joinStep_cases {s s' : Option Mac} {e : JoinEvent} (h : joinStep s e = some s') :
    (∃ b, e = .pending .request b ∧ s = none ∧ s' = some b) ∨
    (∃ c, (e = .posted (.connectComplete c) ∨ e = .dropped (.connectComplete c)) ∧
      s = some c.bssid ∧ s' = none) ∨
    ((e = .withdrawn ∨ e = .refused .request) ∧ s' = none) ∨
    (e.completes = false ∧ e.opens = false ∧ s' = s) := by
  cases e with
  | pending origin b =>
    cases origin with
    | request =>
      obtain ⟨hnone, hsome⟩ := Option.ite_none_right_eq_some.mp h
      exact .inl ⟨b, rfl, hnone, (Option.some.inj hsome).symm⟩
    | resume =>
      obtain ⟨-, hsome⟩ := Option.ite_none_right_eq_some.mp h
      exact .inr (.inr (.inr ⟨rfl, rfl, (Option.some.inj hsome).symm⟩))
  | refused origin =>
    cases origin with
    | request => exact .inr (.inr (.inl ⟨.inr rfl, (Option.some.inj h).symm⟩))
    | resume => exact .inr (.inr (.inr ⟨rfl, rfl, (Option.some.inj h).symm⟩))
  | withdrawn =>
    obtain ⟨-, hsome⟩ := Option.ite_none_left_eq_some.mp h
    exact .inr (.inr (.inl ⟨.inl rfl, (Option.some.inj hsome).symm⟩))
  | link | delivered => exact .inr (.inr (.inr ⟨rfl, rfl, (Option.some.inj h).symm⟩))
  | posted m =>
    cases m with
    | connectComplete c =>
      obtain ⟨hcurrent, hsome⟩ := Option.ite_none_right_eq_some.mp h
      exact .inr (.inl ⟨c, .inl rfl, hcurrent, (Option.some.inj hsome).symm⟩)
    | _ => exact .inr (.inr (.inr ⟨rfl, rfl, (Option.some.inj h).symm⟩))
  | dropped m =>
    cases m with
    | connectComplete c =>
      obtain ⟨hcurrent, hsome⟩ := Option.ite_none_right_eq_some.mp h
      exact .inr (.inl ⟨c, .inr rfl, hcurrent, (Option.some.inj hsome).symm⟩)
    | _ => exact .inr (.inr (.inr ⟨rfl, rfl, (Option.some.inj h).symm⟩))

lemma Own.monitor (h : Own trace before bssid own rest)
    (htrace : Trace.after joinStep none trace = some current) :
    ∃ s, Trace.after joinStep (some bssid) own = some s ∧
      (rest ≠ [] → s = none) ∧ (rest = [] → s = current) := by
  rw [h.split] at htrace
  obtain ⟨m, m', -, hrequest, hrest⟩ := Trace.after_split_at htrace
  obtain rfl : some bssid = m' :=
    Option.some.inj (Option.ite_none_right_eq_some.mp hrequest).2
  obtain ⟨s, hown, hend⟩ := Trace.after_split hrest
  refine ⟨s, hown, fun hne => ?_, fun hnil => ?_⟩
  · -- the next request is accepted only when nothing is open
    obtain ⟨e, rest', rfl⟩ := List.exists_cons_of_ne_nil hne
    have hopens := h.next e rfl
    obtain ⟨s', hstep, -⟩ := Option.bind_eq_some_iff.mp hend
    rcases joinStep_cases hstep with ⟨-, -, hs, -⟩ | ⟨c, rfl | rfl, -⟩ | ⟨rfl | rfl, -⟩ | ⟨-, ho, -⟩
    · exact hs
    · cases hopens
    · cases hopens
    · cases hopens
    · cases hopens
    · cases ho.symm.trans hopens
  · rw [hnil] at hend
    exact Option.some.inj hend

lemma Own.completions (h : Own trace before bssid own rest)
    (htrace : Trace.after joinStep none trace = some current) (hkept : dropped trace = [])
    (hrefused : .refused .request ∉ own) (hwithdrawn : .withdrawn ∉ own) :
    completions own ≤ 1 ∧ (rest ≠ [] ∨ current = none → completions own = 1) := by
  obtain ⟨s, hown, hnext, hnow⟩ := h.monitor htrace
  have hdropped : ∀ m, .dropped m ∉ own := by
    intro m hm
    rw [h.split, dropped, List.filterMap_eq_nil_iff] at hkept
    cases hkept (.dropped m) (by simp [hm])
  have hcount := Trace.count_eq (fun _ => True) JoinEvent.completes
    (fun s : Option Mac => if s = none then 0 else 1) hown trivial fun u e u' _ he hstep => by
      refine ⟨trivial, ?_⟩
      rcases joinStep_cases hstep with
        ⟨b, rfl, -⟩ | ⟨c, rfl | rfl, rfl, rfl⟩ | ⟨rfl | rfl, -⟩ | ⟨hc, -, rfl⟩
      · exact absurd (h.own _ he).symm Bool.false_ne_true
      · rfl
      · exact absurd he (hdropped _)
      · exact absurd he hwithdrawn
      · exact absurd he hrefused
      · rw [hc]
        rfl
  unfold Wcl.completions
  grind

end

/-- A join is put off; when it is resumed a deauthentication arrives during the state change,
which then fails. -/
def repeatedJoin : List WclCall :=
  [.received (.changed { scanning with macReconfig := true, state := .init }),
    .join { lowerAuth := 1, bssid := homeBssid } {},
    .driver true { scan := { error := 5, events := [.deauth] } }]

/-- It is completed twice. -/
theorem repeatedJoin_completed_twice : ∃ w own, WclRun (fun _ _ => True) w ∧
    Own w.trace [] homeBssid own [] ∧ .refused .request ∉ own ∧ .withdrawn ∉ own ∧
    completions own = 2 := by
  refine ⟨repeatedJoin.foldl WclInterface.step {},
    (repeatedJoin.foldl WclInterface.step {}).trace.tail,
    WclRun.start.calls _ (admitted_true _ _), ⟨by decide +kernel, by decide +kernel, nofun⟩,
    by decide +kernel, by decide +kernel, by decide +kernel⟩

end AirportAwdl.Wcl
