import Mathlib.Logic.Relation
import AirportAwdl.Wcl.Join

/-!
# What an event can do to a join

Every event of the receive path is a short sequence of actions (`RxAct`) on the part of the
interface that joins depend on: a report, a flag with its report, a completion. `receive_path`
says so for every event; what is kept by the six actions is then kept by every event and by
every state change of net80211 (`RxPath.keeps`).
-/

namespace AirportAwdl.Wcl

open Native (IOReturn)

namespace WclInterface

/-- The reports of the first beacon, with the flag they stand for. -/
def announceBeacon (w : WclInterface) : WclInterface :=
  ({ w with firstBeaconNotified := true, wclLinkIndicated := true }.post
    (.linkStatus { bssid := w.joinBSSID, up := true, reason := 255 })).post
      (.firstBeacon { bssid := w.joinBSSID })

/-- The report of an association, with the flag it stands for. -/
def announceAssociation (w : WclInterface) : WclInterface :=
  { w with assocNotified := w.ic.assocStatus = 0 }.post (.assocComplete
    { status := w.ic.assocStatus, bssid := w.joinBSSID
      driverStatus := if w.ic.assocStatus ≠ 0 then .error else .success })

/-- What an event is made of. -/
inductive RxAct : WclInterface → WclInterface → Prop where
  /-- What joins do not depend on. -/
  | quiet (w : WclInterface) (ic : Ieee80211com)
      (scanPending scanCompleted scanSkipCompletion wclBssValid wclLinkIndicated : Bool)
      (wclAssociatedBeacons wclLqmBeacons wclLqmReportedBeacons : UInt32) :
      RxAct w { w with
        ic, scanPending, scanCompleted, scanSkipCompletion, wclBssValid, wclLinkIndicated,
        wclAssociatedBeacons, wclLqmBeacons, wclLqmReportedBeacons }
  | link (w : WclInterface) (up : Bool) :
      RxAct w ({ w with portAuthorized := up }.record (.link up))
  | report (w : WclInterface) (m : JoinMessage) (hm : ∀ c, m ≠ .connectComplete c) :
      RxAct w (w.post m)
  | association (w : WclInterface) (hpending : w.joinPending = true) :
      RxAct w w.announceAssociation
  | beacon (w : WclInterface) (hpending : w.joinPending = true) (hassoc : w.assocNotified = true) :
      RxAct w w.announceBeacon
  | finish (w : WclInterface) (status reason : UInt16) (driverStatus : IOReturn)
      (hstatus : status = 0 → w.firstBeaconNotified = true ∧ w.portAuthorized = true) :
      RxAct w (w.finishWCLJoin status reason driverStatus)

/-- Actions in a row. -/
def RxPath : WclInterface → WclInterface → Prop := Relation.ReflTransGen RxAct

variable {w v : WclInterface}

lemma RxAct.path (h : RxAct w v) : RxPath w v := .single h

/-- What every action keeps is kept by actions in a row. -/
lemma RxPath.keeps {P : WclInterface → Prop} (hact : ∀ w v, RxAct w v → P w → P v)
    (h : RxPath w v) (hw : P w) : P v := by
  induction h with
  | refl => exact hw
  | tail _ hstep ih => exact hact _ _ hstep ih

lemma publishWCLBeacon_path (node : Node) (w : WclInterface) :
    RxPath w (w.publishWCLBeacon node) := by
  unfold publishWCLBeacon
  split
  · exact .refl
  split
  · exact .refl
  split
  · exact .refl
  split
  · exact (RxAct.quiet w ..).path
  · exact .refl

lemma finishWCLScan_path (status : IOReturn) (w : WclInterface) :
    RxPath w (w.finishWCLScan status) := by
  have hfold : ∀ (nodes : List Node) (v : WclInterface),
      RxPath v (nodes.foldl (fun v node => v.publishWCLBeacon node) v) := by
    intro nodes
    induction nodes with
    | nil => exact fun _ => .refl
    | cons node rest ih => exact fun v => (publishWCLBeacon_path node v).trans (ih _)
  unfold finishWCLScan
  split
  · exact .refl
  have hended : RxPath w { w with scanPending := false, scanCompleted := false } :=
    (RxAct.quiet w ..).path
  split
  · exact hended.trans (hfold _ _)
  · exact hended

lemma finishWCLJoin_path {status reason : UInt16} {driverStatus : IOReturn}
    (hstatus : status = 0 → w.firstBeaconNotified = true ∧ w.portAuthorized = true) :
    RxPath w (w.finishWCLJoin status reason driverStatus) :=
  (RxAct.finish w status reason driverStatus hstatus).path

lemma handleWCLLink_path (up : Bool) (w : WclInterface) : RxPath w (w.handleWCLLink up) := by
  unfold handleWCLLink
  split
  · exact .refl
  have hlink : RxPath w ({ w with portAuthorized := up }.record (.link up)) :=
    (RxAct.link w up).path
  cases up with
  | false =>
    simp only [Bool.false_and, Bool.false_eq_true, if_false]
    split
    · have hquiet := hlink.trans (RxAct.quiet _ w.ic w.scanPending w.scanCompleted
        w.scanSkipCompletion false false w.wclAssociatedBeacons w.wclLqmBeacons
        w.wclLqmReportedBeacons).path
      exact hquiet.trans (RxAct.report _ (.linkStatus _) fun c => nofun).path
    · exact hlink
  | true =>
    simp only [Bool.not_true, Bool.false_and, Bool.false_eq_true, if_false, Bool.true_and]
    split
    · rename_i hready
      rw [Bool.and_eq_true] at hready
      exact hlink.trans (finishWCLJoin_path fun _ => ⟨hready.2, rfl⟩)
    · exact hlink

lemma countBeacon_path (w : WclInterface) : RxPath w w.countBeacon := by
  unfold countBeacon
  have hcounted : RxPath w { w with
      wclAssociatedBeacons := w.wclAssociatedBeacons + 1, wclLqmBeacons := w.wclLqmBeacons + 1 } :=
    (RxAct.quiet w ..).path
  dsimp only
  split
  · split
    · exact hcounted
    · rename_i update _
      have hpost := hcounted.trans (RxAct.report _ (.lqmUpdate update) fun c => nofun).path
      split
      · exact hpost.trans (RxAct.quiet _ ..).path
      · exact hpost
  · exact hcounted

lemma post_eq (w : WclInterface) (m : JoinMessage) : ∃ messages e, (e = .posted m ∨ e = .dropped m) ∧
    w.post m = { w with wclJoinMessages := messages, trace := w.trace ++ [e] } := by
  unfold post postWCLJoinMessage
  split
  · exact ⟨_, _, .inr rfl, rfl⟩
  split
  · exact ⟨_, _, .inr rfl, rfl⟩
  split
  · exact ⟨_, _, .inr rfl, rfl⟩
  split
  · exact ⟨_, _, .inr rfl, rfl⟩
  · exact ⟨_, _, .inl rfl, rfl⟩

lemma firstBeacon_path (w : WclInterface) (hpending : w.joinPending = true)
    (hassoc : w.assocNotified = true) : RxPath w w.firstBeacon := by
  have hannounced : RxPath w w.announceBeacon := (RxAct.beacon w hpending hassoc).path
  have hflag : w.announceBeacon.firstBeaconNotified = true := by
    unfold announceBeacon
    obtain ⟨_, _, -, hlink⟩ := post_eq { w with firstBeaconNotified := true, wclLinkIndicated := true }
      (.linkStatus { bssid := w.joinBSSID, up := true, reason := 255 })
    obtain ⟨_, _, -, hbeacon⟩ := post_eq _ (.firstBeacon { bssid := w.joinBSSID })
    rw [hbeacon, hlink]
  show RxPath w (if w.announceBeacon.portAuthorized then
    w.announceBeacon.finishWCLJoin 0 0 .success else w.announceBeacon)
  split
  · rename_i hport
    exact hannounced.trans (finishWCLJoin_path fun _ => ⟨hflag, hport⟩)
  · exact hannounced

lemma beaconReceived_path (beacon : BeaconEvent) (w : WclInterface) :
    RxPath w (w.beaconReceived beacon) := by
  unfold beaconReceived
  extract_lets counted published
  have hcounted : RxPath w counted := by
    unfold counted
    split
    · exact w.countBeacon_path
    · exact .refl
  have hpublished : RxPath w published := by
    unfold published
    split
    · exact hcounted.trans (publishWCLBeacon_path beacon.node counted)
    · exact hcounted
  split
  · rename_i hfirst
    simp only [Bool.and_eq_true] at hfirst
    exact hpublished.trans (published.firstBeacon_path hfirst.1.1.1.1 hfirst.1.1.1.2)
  · exact hpublished

lemma associationDone_path (w : WclInterface) : RxPath w w.associationDone := by
  unfold associationDone
  split
  case isFalse => exact .refl
  rename_i hfresh
  rw [Bool.and_eq_true] at hfresh
  have hannounced : RxPath w w.announceAssociation := (RxAct.association w hfresh.1).path
  show RxPath w (if w.ic.assocStatus ≠ 0 then
    w.announceAssociation.finishWCLJoin w.ic.assocStatus 0 .error else w.announceAssociation)
  split
  · rename_i hstatus
    exact hannounced.trans (finishWCLJoin_path fun hzero => absurd hzero hstatus)
  · exact hannounced

lemma deauthenticated_path (w : WclInterface) : RxPath w w.deauthenticated := by
  have hreport : RxPath w (w.post (.deauth ⟨w.ic.deauthReason, w.ic.bss.getD zeroMac⟩)) :=
    (RxAct.report w (.deauth _) fun c => nofun).path
  exact hreport.trans (finishWCLJoin_path fun hone => absurd hone (by decide))

lemma scanEnded_path (w : WclInterface) : RxPath w w.scanEnded := by
  unfold scanEnded
  split
  · split <;> exact (RxAct.quiet w ..).path
  · exact .refl

/-- Every event of the receive path is a sequence of actions. -/
theorem receive_path (e : RxEvent) (w : WclInterface) : RxPath w (w.receive e) := by
  have hgate : ∀ {v : WclInterface}, RxPath w v → RxPath w (if w.wclStopping then w else v) := by
    intro v hv
    split
    · exact .refl
    · exact hv
  cases e with
  | changed ic => exact (RxAct.quiet w ..).path
  | link up => exact handleWCLLink_path up w
  | beacon b =>
    cases b with
    | none => exact .refl
    | some beacon => exact hgate (beaconReceived_path beacon w)
  | scanDone => exact hgate w.scanEnded_path
  | assocDone => exact hgate w.associationDone_path
  | deauth => exact hgate w.deauthenticated_path

/-- So is a state change of net80211. -/
theorem newState_path (t : Transition) (w : WclInterface) : RxPath w (w.newState t) := by
  unfold newState
  generalize t.events = events
  induction events generalizing w with
  | nil => exact .refl
  | cons e rest ih => exact (receive_path e w).trans (ih _)

lemma completeWCLScan_path (w : WclInterface) : RxPath w w.completeWCLScan := by
  unfold completeWCLScan
  split
  · exact .refl
  · exact finishWCLScan_path _ w

lemma beginWCLScan_path (a : ScanAnswers) (w : WclInterface) :
    RxPath w (w.beginWCLScan a).2 := by
  unfold beginWCLScan
  split
  · exact .refl
  split
  · exact .refl
  split
  · exact .refl
  split
  · exact .refl
  extract_lets begun ic searched
  have hbegun : RxPath w begun := (RxAct.quiet w ..).path
  split
  · split
    · have hdone : RxPath w { begun with scanCompleted := true } := (RxAct.quiet w ..).path
      exact hdone.trans (finishWCLScan_path .success _)
    · split
      · exact (RxAct.quiet w ..).path
      · exact (RxAct.quiet w ..).path
  · split
    · have hsearched : RxPath w searched := hbegun.trans (newState_path a.scan begun)
      split
      · exact hsearched.trans (RxAct.quiet searched ..).path
      · exact hsearched
    · exact hbegun

lemma RxPath.joinDeferred (hpath : RxPath w v)
    (h : w.joinDeferred = false) : v.joinDeferred = false := by
  refine hpath.keeps (P := fun w => w.joinDeferred = false) (fun w v hact hw => ?_) h
  have hpost : ∀ (w : WclInterface) m, (w.post m).joinDeferred = w.joinDeferred := by
    intro w m
    obtain ⟨_, _, _, hpost⟩ := w.post_eq m
    rw [hpost]
  cases hact with
  | quiet | link => exact hw
  | report m => rw [hpost, hw]
  | association => rw [announceAssociation, hpost]; exact hw
  | beacon => rw [announceBeacon, hpost, hpost]; exact hw
  | finish status reason driverStatus =>
    unfold WclInterface.finishWCLJoin
    split
    · exact hw
    · rw [hpost]

/-- A join that is put off is the pending one. -/
def Coherent (w : WclInterface) : Prop :=
  w.joinDeferred = true → w.joinPending = true ∧ w.deferredJoin.bssid = w.joinBSSID

lemma coherent_of_joinDeferred (h : w.joinDeferred = false) : w.Coherent :=
  fun hd => by cases h.symm.trans hd

lemma Coherent.post (h : w.Coherent) (m : JoinMessage) : (w.post m).Coherent := by
  obtain ⟨_, _, _, hpost⟩ := w.post_eq m
  rw [hpost]
  exact h

lemma Coherent.finishWCLJoin (h : w.Coherent) (status reason : UInt16) (driverStatus : IOReturn) :
    (w.finishWCLJoin status reason driverStatus).Coherent := by
  unfold WclInterface.finishWCLJoin
  split
  · exact h
  · refine Coherent.post ?_ _
    exact coherent_of_joinDeferred rfl

lemma Coherent.path (h : w.Coherent) (hpath : RxPath w v) : v.Coherent := by
  refine hpath.keeps (fun w v hact hw => ?_) h
  cases hact with
  | quiet | link => exact hw
  | report m => exact hw.post m
  | association => exact Coherent.post (w := { w with assocNotified := w.ic.assocStatus = 0 }) hw _
  | beacon =>
    exact (Coherent.post (w := { w with
      firstBeaconNotified := true, wclLinkIndicated := true }) hw _).post _
  | finish status reason driverStatus => exact hw.finishWCLJoin status reason driverStatus

lemma joinDeferred_leaveWCLNetwork (t : Transition) (w : WclInterface) :
    (w.leaveWCLNetwork t).joinDeferred = false := by
  unfold leaveWCLNetwork
  extract_lets marked ic left
  split
  · exact (newState_path t left).joinDeferred rfl
  · rfl

lemma joinDeferred_scanForJoin (origin : Origin) (join : JoinRequest) (t : Transition)
    (h : w.joinDeferred = false) : (w.scanForJoin origin join t).2.joinDeferred = false := by
  unfold scanForJoin
  extract_lets started searched
  split
  · have hsearched : searched.joinDeferred = false := (newState_path t started).joinDeferred h
    split
    · exact hsearched
    · exact hsearched
  · exact h

lemma Coherent.startWCLJoin (origin : Origin) (join : JoinRequest) (a : JoinAnswers)
    (h : w.Coherent) : (w.startWCLJoin origin join a).2.Coherent := by
  unfold WclInterface.startWCLJoin
  extract_lets auth left
  split
  · exact fun _ => ⟨rfl, rfl⟩
  split
  · exact h
  split
  · exact h
  rename_i hbusy
  simp only [Bool.or_eq_true, not_or, Bool.not_eq_true] at hbusy
  have hleft : left.joinDeferred = false := by
    unfold left
    split
    · exact joinDeferred_leaveWCLNetwork a.leave w
    · refine Bool.eq_false_iff.mpr fun hd => ?_
      cases hbusy.1.2.symm.trans (h hd).1
  split
  · exact coherent_of_joinDeferred (joinDeferred_scanForJoin origin join a.scan hleft)
  · exact coherent_of_joinDeferred hleft

lemma consumeMacReconfiguration_ready (pending : Bool) :
    (consumeMacReconfiguration pending true).2 = false := by
  cases pending <;> rfl

lemma Coherent.resumeWCLJoin (a : JoinAnswers) (h : w.Coherent) :
    (w.resumeWCLJoin a).Coherent := by
  unfold WclInterface.resumeWCLJoin
  split
  · exact h
  extract_lets join taken
  have hstart : (taken.startWCLJoin .resume join a).2.Coherent :=
    Coherent.startWCLJoin .resume join a (coherent_of_joinDeferred rfl)
  generalize taken.startWCLJoin .resume join a = result at hstart ⊢
  obtain ⟨status, v⟩ := result
  dsimp only at hstart ⊢
  split
  · exact Coherent.finishWCLJoin (w := { v with joinPending := true })
      (fun hd => ⟨rfl, (hstart hd).2⟩) 1 0 status
  · exact hstart

lemma Coherent.driverChanged (ready : Bool) (a : JoinAnswers) (h : w.Coherent) :
    (w.driverChanged ready a).Coherent := by
  unfold WclInterface.driverChanged
  cases ready with
  | true =>
    exact Coherent.resumeWCLJoin a h
  | false =>
    exact (h.path (finishWCLScan_path _ w)).finishWCLJoin 1 0 .offline

end WclInterface

/-- In every run a join that is put off is the pending one. -/
theorem WclRun.coherent {admitted : WclInterface → WclCall → Prop} {w : WclInterface}
    (h : WclRun admitted w) : w.Coherent := by
  refine WclRun.invariant (P := WclInterface.Coherent) nofun (fun w c hw _ => ?_) h
  have hgate : ∀ {v : WclInterface}, v.Coherent → (if w.wclStopping then w else v).Coherent := by
    intro v hv
    split
    · exact hw
    · exact hv
  cases c with
  | received e => exact hw.path (WclInterface.receive_path e w)
  | drain =>
    show w.drainWCLJoinMessages.Coherent
    unfold WclInterface.drainWCLJoinMessages
    split
    · exact hw
    · exact hw
  | scanTimer => exact hw.path w.completeWCLScan_path
  | stop => exact nofun
  | driver ready a => exact hgate (hw.driverChanged ready a)
  | join request a => exact hgate (hw.startWCLJoin .request request a)
  | leave t | abort t | timeout t =>
    refine hgate (WclInterface.coherent_of_joinDeferred ?_)
    exact WclInterface.joinDeferred_leaveWCLNetwork t _
  | scan a => exact hgate (hw.path (WclInterface.beginWCLScan_path a w))
  | scanAbort => exact hgate (hw.path (WclInterface.finishWCLScan_path .aborted w))

end AirportAwdl.Wcl
