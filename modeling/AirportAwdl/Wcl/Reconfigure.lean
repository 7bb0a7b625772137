import AirportAwdl.Wcl.Success

/-!
# Joins during a change of the hardware address

`setHardwareAddress` on a running interface restarts the firmware: it sets `ic_wcl_mac_reconfig`
and calls the hardware layer's `disable` and then `enable`, which report DRIVER_STOPPED and
DRIVER_READY. None of this is under the interface's gate, so commands and events come in between.
A join that finds the flag set is put off until DRIVER_READY (`startWCLJoin`).

DRIVER_STOPPED completes whatever join is pending, one that was put off included. So a join
outlives the restart when it comes after that event (`macRun_join_resumed`), and is lost when it
comes before (`earlyJoin_lost`).
-/

namespace AirportAwdl.Wcl

open ByteBuffer
open Native (IOReturn)

inductive MacUpdate where
  | invalid | unchanged | busy | change
deriving DecidableEq, Repr

def planMacUpdate (current : Mac) (requested : Bytes) (initializing : Bool) : MacUpdate :=
  if requested.length ≠ 6 || byteAt requested 0 &&& 1 ≠ 0 then .invalid
  else if requested.all (· = 0) then .invalid
  else if current.toList = requested then .unchanged
  else if initializing then .busy else .change

/-- How far the restart has come. -/
inductive MacPhase where
  /-- `ic_wcl_mac_reconfig` is set and `disable` runs. -/
  | disabling
  /-- The flags are down and DRIVER_STOPPED is raised. -/
  | poweredDown
  /-- DRIVER_STOPPED is handled and `enable` runs. -/
  | enabling
  /-- The flags are up and DRIVER_READY is raised. -/
  | poweredUp
deriving DecidableEq, Repr

/-- The interface during a restart. -/
structure MacChange where
  phase : MacPhase
  wcl : WclInterface

/-- What `setHardwareAddress` comes to: a result at once, or a restart. -/
inductive AddressOutcome where
  | done (status : IOReturn)
  | restarts (change : MacChange)

namespace WclInterface

/-- `setHardwareAddress` up to the call of `disable`; `assigned` is whether the BSD interface took
the address. -/
def setHardwareAddress (current : Mac) (address : Bytes) (assigned : Bool) (w : WclInterface) :
    AddressOutcome :=
  let initializing := w.ic.up && !w.ic.running
  let update := planMacUpdate current address initializing
  if update = .invalid then .done .badArgument
  else if update = .busy then .done .busy
  else if !assigned then .done .error
  else if update = .unchanged then .done .success
  -- a stopped interface takes the address when it is enabled
  else if !w.ic.running then .done .success
  else .restarts ⟨.disabling, { w with ic := { w.ic with macReconfig := true } }⟩

/-- `disable` up to DRIVER_STOPPED. -/
def powerDown (t : Transition) (w : WclInterface) : WclInterface :=
  let w := if w.ic.state ≠ .init then w.newState t else w
  { w with ic := { w.ic with up := false, running := false } }

/-- `enable` up to DRIVER_READY. DRIVER_RESET_BEGIN is not passed on during an address change. -/
def powerUp (w : WclInterface) : WclInterface :=
  { w with ic := { w.ic with up := true, running := true } }

end WclInterface

/-- A driver event, which only the restart raises. -/
def WclCall.isDriver : WclCall → Bool
  | .driver .. => true
  | _ => false

/-- The flags that only a restart writes. -/
def Ieee80211com.flags (ic : Ieee80211com) : Bool × Bool × Bool := (ic.macReconfig, ic.up, ic.running)

inductive MacStep where
  | powerDown (t : Transition)
  | stopped
  | powerUp
  /-- A command, a timer or an event of the receive path in between. -/
  | call (c : WclCall)
deriving DecidableEq, Repr

/-- The steps of a restart whose `disable` and `enable` succeed, in their order. -/
def MacChange.step (s : MacChange) : MacStep → Option MacChange
  | .powerDown t =>
    if s.phase = .disabling then some ⟨.poweredDown, s.wcl.powerDown t⟩ else none
  | .stopped =>
    if s.phase = .poweredDown then some ⟨.enabling, s.wcl.step (.driver false {})⟩ else none
  | .powerUp => if s.phase = .enabling then some ⟨.poweredUp, s.wcl.powerUp⟩ else none
  | .call c =>
    if c.isDriver = false ∧ (s.wcl.step c).ic.flags = s.wcl.ic.flags then
      some { s with wcl := s.wcl.step c }
    else none

/-- A part of a restart whose steps were all admitted in the state before them. -/
inductive MacRun (admitted : WclInterface → MacStep → Prop) : MacChange → MacChange → Prop where
  | done (s : MacChange) : MacRun admitted s s
  | step {s s' s'' : MacChange} (m : MacStep) : admitted s.wcl m → s.step m = some s' →
      MacRun admitted s' s'' → MacRun admitted s s''

/-- A part of a restart, given by its steps. -/
def MacChange.run (s : MacChange) (steps : List MacStep) : Option MacChange :=
  steps.foldlM MacChange.step s

/-- Neither an abort nor a leave, a timeout or the interface's stop. -/
def MacStep.persists : MacStep → Bool
  | .call (.leave _) | .call (.abort _) | .call (.timeout _) | .call .stop => false
  | _ => true

namespace WclInterface

/-- An event that completes a pending join: a deauthentication, a failed association, or the last
of association, first beacon and link. -/
def completes (w : WclInterface) : RxEvent → Bool
  | .deauth => true
  | .assocDone => !w.assocNotified && w.ic.assocStatus ≠ 0
  | .link up => up && w.firstBeaconNotified
  | .beacon (some beacon) =>
    w.assocNotified && !w.firstBeaconNotified && w.portAuthorized &&
      beacon.node.bssid = w.joinBSSID && (w.publishWCLBeacon beacon.node).wclBssValid
  | .beacon none | .changed _ | .scanDone => false

/-- A step that leaves a pending join alone. -/
def spares (w : WclInterface) : MacStep → Bool
  | .call (.received e) => !w.completes e
  | _ => true

/-- The request is put off, nothing stands in its way, and no completion was posted since
`base`. -/
structure Waiting (request : JoinRequest) (base : List JoinEvent) (w : WclInterface) : Prop where
  working : w.wclStopping = false
  pending : w.joinPending = true
  deferred : w.joinDeferred = true
  kept : w.deferredJoin = request
  bssid : w.joinBSSID = request.bssid
  supported : classifyLegacyAuth request ≠ .invalid
  running : w.ic.running = true
  silent : ∃ since, w.trace = base ++ since ∧ ∀ c, .posted (.connectComplete c) ∉ since

variable {request : JoinRequest} {base : List JoinEvent} {w : WclInterface}

lemma Waiting.snoc (h : w.Waiting request base) {e : JoinEvent}
    (he : ∀ c, e ≠ .posted (.connectComplete c)) :
    ∃ since, w.trace ++ [e] = base ++ since ∧ ∀ c, .posted (.connectComplete c) ∉ since := by
  obtain ⟨since, htrace, hsilent⟩ := h.silent
  refine ⟨since ++ [e], by rw [htrace, List.append_assoc], fun c hc => ?_⟩
  grind

lemma Waiting.post (h : w.Waiting request base) {m : JoinMessage}
    (hm : ∀ c, m ≠ .connectComplete c) : (w.post m).Waiting request base := by
  obtain ⟨messages, e, he, hpost⟩ := w.post_eq m
  rw [hpost]
  refine { h with silent := h.snoc fun c hc => ?_ }
  grind

lemma publishWCLBeacon_eq (node : Node) (w : WclInterface) :
    ∃ valid, w.publishWCLBeacon node = { w with wclBssValid := valid } := by
  unfold publishWCLBeacon
  split
  · exact ⟨_, rfl⟩
  split
  · exact ⟨_, rfl⟩
  split
  · exact ⟨_, rfl⟩
  split
  · exact ⟨_, rfl⟩
  · exact ⟨_, rfl⟩

lemma Waiting.publishWCLBeacon (h : w.Waiting request base) (node : Node) :
    (w.publishWCLBeacon node).Waiting request base := by
  obtain ⟨valid, hpublish⟩ := publishWCLBeacon_eq node w
  rw [hpublish]
  exact { h with }

lemma Waiting.countBeacon (h : w.Waiting request base) : w.countBeacon.Waiting request base := by
  unfold WclInterface.countBeacon
  extract_lets counted
  have hcounted : counted.Waiting request base := { h with }
  split
  · split
    · exact hcounted
    · rename_i update _
      have hpost : (counted.post (.lqmUpdate update)).Waiting request base := hcounted.post nofun
      dsimp only
      split
      · exact { hpost with }
      · exact hpost
  · exact hcounted

lemma Waiting.firstBeacon (h : w.Waiting request base) (hport : w.portAuthorized = false) :
    w.firstBeacon.Waiting request base := by
  have hannounced : w.announceBeacon.Waiting request base := by
    have hflags : { w with firstBeaconNotified := true, wclLinkIndicated := true }.Waiting
      request base := { h with }
    exact (hflags.post (m := .linkStatus _) nofun).post nofun
  have hlink : w.announceBeacon.portAuthorized = false := by
    unfold announceBeacon
    obtain ⟨_, _, -, hlink⟩ := post_eq { w with firstBeaconNotified := true, wclLinkIndicated := true }
      (.linkStatus { bssid := w.joinBSSID, up := true, reason := 255 })
    obtain ⟨_, _, -, hbeacon⟩ := post_eq _ (.firstBeacon { bssid := w.joinBSSID })
    rw [hbeacon, hlink]
    exact hport
  show (if w.announceBeacon.portAuthorized then
    w.announceBeacon.finishWCLJoin 0 0 .success else w.announceBeacon).Waiting request base
  rw [if_neg (by rw [hlink]; exact nofun)]
  exact hannounced

lemma Waiting.handleWCLLink (h : w.Waiting request base) {up : Bool}
    (hspared : w.completes (.link up) = false) : (w.handleWCLLink up).Waiting request base := by
  unfold WclInterface.handleWCLLink
  extract_lets linked reported
  have hlinked : linked.Waiting request base := { h with silent := h.snoc nofun }
  have hreported : reported.Waiting request base := by
    unfold reported
    split
    · have hquiet : { linked with wclLinkIndicated := false, wclBssValid := false }.Waiting
        request base := { hlinked with }
      exact hquiet.post nofun
    · exact hlinked
  -- the last report completes the join only on a link that is up
  have hflag : (up && reported.firstBeaconNotified) = false := by
    have hsame : reported.firstBeaconNotified = w.firstBeaconNotified := by
      unfold reported
      split
      · obtain ⟨_, _, -, hpost⟩ := post_eq { linked with wclLinkIndicated := false, wclBssValid := false }
          (.linkStatus { bssid := linked.joinBSSID, up := false, reason := 255 })
        rw [hpost]
        rfl
      · rfl
    rw [hsame]
    exact hspared
  grind

lemma Waiting.associationDone (h : w.Waiting request base)
    (hspared : w.completes .assocDone = false) : w.associationDone.Waiting request base := by
  unfold WclInterface.associationDone
  split
  case isFalse => exact h
  rename_i hfresh
  rw [Bool.and_eq_true] at hfresh
  have hannounced : w.announceAssociation.Waiting request base := by
    have hflag : { w with assocNotified := w.ic.assocStatus = 0 }.Waiting request base := { h with }
    exact hflag.post nofun
  have hstatus : ¬w.ic.assocStatus ≠ 0 := by
    intro hfailed
    have hboth : (!w.assocNotified && decide (w.ic.assocStatus ≠ 0)) = true := by
      rw [hfresh.2, decide_eq_true hfailed]
      rfl
    cases hboth.symm.trans hspared
  rw [if_neg hstatus]
  exact hannounced

lemma Waiting.scanEnded (h : w.Waiting request base) : w.scanEnded.Waiting request base := by
  unfold WclInterface.scanEnded
  split
  · split <;> exact { h with }
  · exact h

/-- The fields that decide what a beacon means to a join. -/
structure SameJoin (w v : WclInterface) : Prop where
  assoc : v.assocNotified = w.assocNotified
  first : v.firstBeaconNotified = w.firstBeaconNotified
  port : v.portAuthorized = w.portAuthorized
  bssid : v.joinBSSID = w.joinBSSID
  valid : v.wclBssValid = w.wclBssValid

lemma SameJoin.publishWCLBeacon {v : WclInterface} (h : SameJoin w v) (node : Node) :
    (v.publishWCLBeacon node).wclBssValid = (w.publishWCLBeacon node).wclBssValid := by
  unfold WclInterface.publishWCLBeacon
  rw [h.assoc, h.bssid]
  split
  · exact h.valid
  split
  · exact h.valid
  split
  · exact h.valid
  split
  · rfl
  · exact h.valid

lemma sameJoin_countBeacon (w : WclInterface) : SameJoin w w.countBeacon := by
  unfold countBeacon
  extract_lets counted
  split
  · split
    · exact ⟨rfl, rfl, rfl, rfl, rfl⟩
    · rename_i update _
      obtain ⟨_, _, -, hpost⟩ := counted.post_eq (.lqmUpdate update)
      change (counted.postWCLJoinMessage (.lqmUpdate update)).2 = _ at hpost
      dsimp only
      rw [hpost]
      split
      · exact ⟨rfl, rfl, rfl, rfl, rfl⟩
      · exact ⟨rfl, rfl, rfl, rfl, rfl⟩
  · exact ⟨rfl, rfl, rfl, rfl, rfl⟩

lemma Waiting.beaconReceived (h : w.Waiting request base) {beacon : BeaconEvent}
    (hspared : w.completes (.beacon (some beacon)) = false) :
    (w.beaconReceived beacon).Waiting request base := by
  unfold WclInterface.beaconReceived
  extract_lets counted published
  have hcounted : counted.Waiting request base ∧ SameJoin w counted := by
    unfold counted
    split
    · exact ⟨h.countBeacon, sameJoin_countBeacon w⟩
    · exact ⟨h, ⟨rfl, rfl, rfl, rfl, rfl⟩⟩
  obtain ⟨hwaiting, hsame⟩ := hcounted
  -- a pending join publishes every beacon
  have hpublish : published = counted.publishWCLBeacon beacon.node := by
    unfold published
    rw [if_pos (by rw [hwaiting.pending, Bool.or_true, Bool.true_or, Bool.true_or])]
  obtain ⟨valid, hvalid⟩ := publishWCLBeacon_eq beacon.node counted
  have hpublished : published.Waiting request base := hpublish ▸ hwaiting.publishWCLBeacon beacon.node
  split
  case isFalse => exact hpublished
  rename_i hfirst
  simp only [Bool.and_eq_true, Bool.not_eq_true', decide_eq_true_eq] at hfirst
  obtain ⟨⟨⟨⟨-, hassoc⟩, hfresh⟩, hbssid⟩, hbss⟩ := hfirst
  rw [hpublish, hsame.publishWCLBeacon] at hbss
  rw [hpublish, hvalid] at hassoc hfresh hbssid
  have hassoc : w.assocNotified = true := hsame.assoc ▸ hassoc
  have hfresh : w.firstBeaconNotified = false := hsame.first ▸ hfresh
  have hbssid : beacon.node.bssid = w.joinBSSID := hbssid.trans hsame.bssid
  -- the link is down, or this beacon would be the last report
  have hport : published.portAuthorized = false := by
    rw [hpublish, hvalid]
    refine hsame.port.trans ?_
    simpa only [completes, hassoc, hfresh, hbssid, hbss, decide_true, Bool.not_false,
      Bool.true_and, Bool.and_true] using hspared
  exact hpublished.firstBeacon hport

lemma Waiting.receive (h : w.Waiting request base) {e : RxEvent} (hspared : w.completes e = false)
    (hflags : (w.receive e).ic.flags = w.ic.flags) : (w.receive e).Waiting request base := by
  have hgate : ∀ v : WclInterface, (if w.wclStopping then w else v) = v := by
    intro v
    rw [if_neg (by rw [h.working]; exact nofun)]
  cases e with
  | changed ic =>
    have hrunning : ic.running = w.ic.running := congrArg (·.2.2) hflags
    exact { h with running := hrunning.trans h.running }
  | link up => exact h.handleWCLLink hspared
  | beacon b =>
    cases b with
    | none => exact h
    | some beacon =>
      show (if w.wclStopping then w else w.beaconReceived beacon).Waiting request base
      rw [hgate]
      exact h.beaconReceived hspared
  | scanDone =>
    show (if w.wclStopping then w else w.scanEnded).Waiting request base
    rw [hgate]
    exact h.scanEnded
  | assocDone =>
    show (if w.wclStopping then w else w.associationDone).Waiting request base
    rw [hgate]
    exact h.associationDone hspared
  | deauth => exact nomatch hspared

lemma Waiting.startWCLJoin (h : w.Waiting request base) (origin : Origin) (join : JoinRequest)
    (a : JoinAnswers) : (w.startWCLJoin origin join a).2 = w := by
  have hdefers : w.defers join = false := by
    simp only [defers, h.pending, Bool.not_true, Bool.and_false, Bool.false_and]
  unfold WclInterface.startWCLJoin
  rw [hdefers, if_neg nofun]
  split
  · rfl
  · rw [if_pos (by rw [h.pending, Bool.or_true, Bool.true_or])]

lemma Waiting.beginWCLScan (h : w.Waiting request base) (a : ScanAnswers) :
    (w.beginWCLScan a).2 = w := by
  unfold WclInterface.beginWCLScan
  split
  · rfl
  · rw [if_pos (by rw [h.pending, Bool.or_true, Bool.true_or])]

lemma Waiting.finishWCLScan (h : w.Waiting request base) (status : IOReturn) :
    (w.finishWCLScan status).Waiting request base := by
  have hfold : ∀ (nodes : List Node) (v : WclInterface), v.Waiting request base →
      (nodes.foldl (fun v node => v.publishWCLBeacon node) v).Waiting request base := by
    intro nodes
    induction nodes with
    | nil => exact fun _ hv => hv
    | cons node rest ih => exact fun v hv => ih _ (hv.publishWCLBeacon node)
  unfold WclInterface.finishWCLScan
  split
  · exact h
  have hended : { w with scanPending := false, scanCompleted := false }.Waiting request base :=
    { h with }
  split
  · exact hfold _ _ hended
  · exact hended

lemma Waiting.drainWCLJoinMessages (h : w.Waiting request base) :
    w.drainWCLJoinMessages.Waiting request base := by
  unfold WclInterface.drainWCLJoinMessages
  split
  · exact h
  · exact { h with silent := h.snoc nofun }

/-- Nothing that happens meanwhile touches a join that waits, but the calls that withdraw it and
the events that complete it. -/
lemma Waiting.step (h : w.Waiting request base) {c : WclCall}
    (hdriver : c.isDriver = false) (hflags : (w.step c).ic.flags = w.ic.flags)
    (hpersists : (MacStep.call c).persists = true) (hspared : w.spares (.call c) = true) :
    (w.step c).Waiting request base := by
  have hgate : ∀ v : WclInterface, v.Waiting request base →
      (if w.wclStopping then w else v).Waiting request base := by
    intro v hv
    split
    · exact h
    · exact hv
  cases c with
  | received e => exact h.receive (Bool.not_eq_true' _ ▸ hspared) hflags
  | driver ready a => exact nomatch hdriver
  | join other a =>
    refine hgate _ ?_
    rw [h.startWCLJoin]
    exact h
  | scan a =>
    refine hgate _ ?_
    rw [h.beginWCLScan]
    exact h
  | scanAbort => exact hgate _ (h.finishWCLScan .aborted)
  | scanTimer => exact hgate _ (h.finishWCLScan _)
  | drain => exact h.drainWCLJoinMessages
  | leave t | abort t | timeout t | stop => exact nomatch hpersists

end WclInterface

variable {s s' : MacChange}

/-- A join that waits after DRIVER_STOPPED waits until DRIVER_READY. -/
lemma MacRun.waiting {request : JoinRequest} {base : List JoinEvent}
    (hrun : MacRun (fun w m => m.persists = true ∧ w.spares m = true) s s')
    (hphase : s.phase = .poweredUp) (h : s.wcl.Waiting request base) :
    s'.wcl.Waiting request base := by
  induction hrun with
  | done => exact h
  | @step s s' _ m hadmitted hstep _ ih =>
    cases m with
    | powerDown t => exact nomatch hstep.symm.trans (if_neg (by rw [hphase]; exact nofun))
    | stopped => exact nomatch hstep.symm.trans (if_neg (by rw [hphase]; exact nofun))
    | powerUp => exact nomatch hstep.symm.trans (if_neg (by rw [hphase]; exact nofun))
    | call c =>
      obtain ⟨⟨hdriver, hflags⟩, heq⟩ := Option.ite_none_right_eq_some.mp hstep
      grind [h.step]

/-- The flags are down while the firmware is, and up when DRIVER_READY is raised. -/
def MacChange.Staged (s : MacChange) : Prop :=
  match s.phase with
  | .disabling => True
  | .poweredDown | .enabling => s.wcl.ic.up = false
  | .poweredUp => s.wcl.ic.running = true

namespace WclInterface

lemma ic_post (w : WclInterface) (m : JoinMessage) : (w.post m).ic = w.ic := by
  obtain ⟨_, _, -, hpost⟩ := w.post_eq m
  rw [hpost]

lemma ic_finishWCLJoin (w : WclInterface) (status reason : UInt16) (driverStatus : IOReturn) :
    (w.finishWCLJoin status reason driverStatus).ic = w.ic := by
  unfold finishWCLJoin
  split
  · rfl
  · rw [ic_post]

lemma finishWCLScan_stopped (w : WclInterface) : ∃ pending completed,
    w.finishWCLScan (if w.ic.macReconfig then .aborted else .offline) =
      { w with scanPending := pending, scanCompleted := completed } := by
  have hstatus : (if w.ic.macReconfig then IOReturn.aborted else .offline) ≠ .success := by
    split
    · exact nofun
    · exact nofun
  unfold finishWCLScan
  split
  · exact ⟨_, _, rfl⟩
  grind

lemma up_driverStopped (w : WclInterface) (a : JoinAnswers) :
    (w.step (.driver false a)).ic.up = w.ic.up := by
  obtain ⟨pending, completed, hended⟩ := w.finishWCLScan_stopped
  show (if w.wclStopping then w else w.driverChanged false a).ic.up = w.ic.up
  split
  · rfl
  · show ((w.finishWCLScan (if w.ic.macReconfig then .aborted else .offline)).finishWCLJoin
      1 0 .offline).ic.up = w.ic.up
    rw [ic_finishWCLJoin, hended]

end WclInterface

/-- A step of the restart keeps the flags as its phase says. -/
lemma MacChange.Staged.step {m : MacStep} (h : s.Staged)
    (hstep : s.step m = some s') : s'.Staged := by
  cases m with
  | powerDown t =>
    obtain ⟨-, heq⟩ := Option.ite_none_right_eq_some.mp hstep
    obtain rfl := Option.some.inj heq
    rfl
  | stopped =>
    obtain ⟨hphase, heq⟩ := Option.ite_none_right_eq_some.mp hstep
    obtain rfl := Option.some.inj heq
    have hdown : s.wcl.ic.up = false := by
      unfold Staged at h
      rwa [hphase] at h
    exact (s.wcl.up_driverStopped {}).trans hdown
  | powerUp =>
    obtain ⟨-, heq⟩ := Option.ite_none_right_eq_some.mp hstep
    obtain rfl := Option.some.inj heq
    rfl
  | call c =>
    obtain ⟨⟨-, hflags⟩, heq⟩ := Option.ite_none_right_eq_some.mp hstep
    have hup : (s.wcl.step c).ic.up = s.wcl.ic.up := congrArg (·.2.1) hflags
    have hrunning : (s.wcl.step c).ic.running = s.wcl.ic.running := congrArg (·.2.2) hflags
    unfold Staged at h ⊢
    grind

/-- So they are in the whole restart. -/
lemma MacRun.staged {admitted : WclInterface → MacStep → Prop}
    (hrun : MacRun admitted s s') (h : s.Staged) : s'.Staged := by
  induction hrun with
  | done => exact h
  | step m _ hstep _ ih => exact ih (h.step hstep)

lemma WclInterface.staged_of_restarts {w : WclInterface} {current : Mac} {address : Bytes}
    {assigned : Bool}
    (h : w.setHardwareAddress current address assigned = .restarts s) : s.Staged := by
  unfold setHardwareAddress at h
  extract_lets initializing update at h
  split at h
  · exact nomatch h
  split at h
  · exact nomatch h
  split at h
  · exact nomatch h
  split at h
  · exact nomatch h
  split at h
  · exact nomatch h
  · obtain rfl := AddressOutcome.restarts.inj h
    trivial

namespace WclInterface

/-- What comes later, as far as a start is concerned. -/
structure Continues (w v : WclInterface) : Prop where
  started : v.started = w.started
  bssid : v.joinBSSID = w.joinBSSID
  trace : w.trace <+: v.trace

variable {request : JoinRequest} {base : List JoinEvent} {w v u : WclInterface}

lemma Continues.refl (w : WclInterface) : w.Continues w := ⟨rfl, rfl, List.prefix_rfl⟩

lemma Continues.trans (h : w.Continues v) (h' : v.Continues u) : w.Continues u :=
  ⟨h'.started.trans h.started, h'.bssid.trans h.bssid, h.trace.trans h'.trace⟩

lemma Continues.record (h : w.Continues v) (e : JoinEvent) : w.Continues (v.record e) :=
  ⟨h.started, h.bssid, h.trace.trans (List.prefix_append _ _)⟩

lemma Continues.post (h : w.Continues v) (m : JoinMessage) : w.Continues (v.post m) := by
  obtain ⟨_, e, -, hpost⟩ := v.post_eq m
  rw [hpost]
  exact { h.record e with }

lemma Continues.finishWCLJoin (h : w.Continues v) (status reason : UInt16)
    (driverStatus : IOReturn) : w.Continues (v.finishWCLJoin status reason driverStatus) := by
  unfold WclInterface.finishWCLJoin
  split
  · exact h
  · refine Continues.post ?_ _
    exact { h with }

lemma RxAct.continues (hact : RxAct w v) : w.Continues v := by
  have hrefl := Continues.refl w
  cases hact with
  | quiet => exact { hrefl with }
  | link up => exact { hrefl.record (.link up) with }
  | report m => exact hrefl.post m
  | association =>
    refine Continues.post ?_ _
    exact { hrefl with }
  | beacon =>
    refine Continues.post (Continues.post ?_ _) _
    exact { hrefl with }
  | finish status reason driverStatus => exact hrefl.finishWCLJoin status reason driverStatus

lemma RxPath.continues (hpath : RxPath w v) : w.Continues v :=
  hpath.keeps (P := fun v => w.Continues v) (fun _ _ hact h => h.trans hact.continues)
    (Continues.refl w)

lemma continues_leaveWCLNetwork (t : Transition) (w : WclInterface) :
    w.Continues (w.leaveWCLNetwork t) := by
  unfold leaveWCLNetwork
  extract_lets marked ic left
  have hleft : w.Continues left := by
    have hmarked : w.Continues marked := by
      unfold marked
      split
      · exact (Continues.refl w).record .withdrawn
      · exact Continues.refl w
    exact { hmarked with }
  split
  · exact hleft.trans (newState_path t left).continues
  · exact hleft

/-- A search for the network is a start of exactly this request. -/
structure Begun (origin : Origin) (request : JoinRequest) (w v : WclInterface) : Prop where
  started : v.started = some request
  trace : w.trace ++ [.pending origin request.bssid] <+: v.trace

lemma Begun.continues {origin : Origin} {request : JoinRequest} (h : Begun origin request w v)
    (h' : v.Continues u) : Begun origin request w u :=
  ⟨h'.started.trans h.started, h.trace.trans h'.trace⟩

lemma Begun.since {origin : Origin} {request : JoinRequest} (h : Begun origin request v u)
    (hv : w.Continues v) : u.started = some request ∧
      ∃ since, u.trace = w.trace ++ since ∧ .pending origin request.bssid ∈ since := by
  obtain ⟨before, hbefore⟩ := hv.trace
  obtain ⟨after, hafter⟩ := h.trace
  refine ⟨h.started, before ++ [.pending origin request.bssid] ++ after, ?_, by simp⟩
  rw [← hafter, ← hbefore, List.append_assoc, List.append_assoc, List.append_assoc]

lemma begun_scanForJoin (origin : Origin) (request : JoinRequest) (t : Transition)
    (w : WclInterface) : Begun origin request w (w.scanForJoin origin request t).2 := by
  unfold scanForJoin
  extract_lets started searched
  have hstarted : Begun origin request w started := ⟨rfl, List.prefix_rfl⟩
  split
  · have hsearched : Begun origin request w searched :=
      hstarted.continues (newState_path t started).continues
    split
    · have hrefused : searched.Continues
          ({ searched with joinPending := false, joinTimer := none }.record (.refused origin)) :=
        { (Continues.refl searched).record (.refused origin) with }
      exact hsearched.continues hrefused
    · exact hsearched
  · exact hstarted

/-- DRIVER_READY starts the request: with the credentials installed, net80211 looks for its
network; otherwise its completion tells what went wrong. -/
structure Starts (request : JoinRequest) (a : JoinAnswers) (w v : WclInterface) : Prop where
  started : installSecurity (classifyLegacyAuth request) request a.security = .success →
    v.started = some request ∧
      ∃ since, v.trace = w.trace ++ since ∧ .pending .resume request.bssid ∈ since
  refused : ∀ status, installSecurity (classifyLegacyAuth request) request a.security = status →
    status ≠ .success → ∃ earlier e, v.trace = earlier ++ [e] ∧ w.trace <+: earlier ∧
      (e = .posted (.connectComplete ⟨1, 0, request.bssid, status⟩) ∨
        e = .dropped (.connectComplete ⟨1, 0, request.bssid, status⟩))

/-- The present network is left before another one is joined. -/
def leaveFirst (t : Transition) (w : WclInterface) : WclInterface :=
  if w.ic.state = .run || w.ic.state = .auth || w.ic.state = .assoc then w.leaveWCLNetwork t else w

lemma continues_leaveFirst (t : Transition) (w : WclInterface) : w.Continues (w.leaveFirst t) := by
  unfold leaveFirst
  split
  · exact continues_leaveWCLNetwork t w
  · exact Continues.refl w

/-- Nothing turns a supported request away. -/
structure Open (join : JoinRequest) (w : WclInterface) : Prop where
  settled : w.ic.macReconfig = false
  supported : classifyLegacyAuth join ≠ .invalid
  running : w.ic.running = true
  idle : w.joinPending = false
  scan : w.scanPending = false

lemma Open.startWCLJoin {join : JoinRequest} (h : w.Open join) (origin : Origin) (a : JoinAnswers) :
    (installSecurity (classifyLegacyAuth join) join a.security = .success →
      w.startWCLJoin origin join a = (w.leaveFirst a.leave).scanForJoin origin join a.scan) ∧
    (installSecurity (classifyLegacyAuth join) join a.security ≠ .success →
      w.startWCLJoin origin join a =
        (installSecurity (classifyLegacyAuth join) join a.security, w.leaveFirst a.leave)) := by
  have hdefers : w.defers join = false := by
    simp only [defers, h.settled, Bool.and_false, Bool.false_and]
  have hidle : ¬(!w.ic.running || w.joinPending || w.scanPending) = true := by
    rw [h.running, h.idle, h.scan]
    exact nofun
  unfold WclInterface.startWCLJoin
  extract_lets auth left
  rw [hdefers, if_neg nofun, if_neg h.supported, if_neg hidle]
  constructor
  · intro hinstalled
    split
    · rfl
    · rename_i hfailed
      exact absurd hinstalled hfailed
  · intro hfailed
    split
    · rename_i hinstalled
      exact absurd hinstalled hfailed
    · rfl

lemma Waiting.resumeWCLJoin (a : JoinAnswers) (h : w.Waiting request base)
    (hscan : w.scanPending = false) (hconsumed : w.ic.macReconfig = false) : Starts request a w (w.resumeWCLJoin a) := by
  unfold WclInterface.resumeWCLJoin
  rw [if_neg (by rw [h.deferred, h.working]; exact nofun)]
  extract_lets join taken
  obtain rfl : join = request := h.kept
  have hopen : taken.Open join := ⟨hconsumed, h.supported, h.running, rfl, hscan⟩
  have hleft : w.Continues (taken.leaveFirst a.leave) := by
    have htaken : w.Continues taken := { Continues.refl w with }
    exact htaken.trans (continues_leaveFirst a.leave taken)
  obtain ⟨hstart, hrefuse⟩ := hopen.startWCLJoin .resume a
  generalize taken.leaveFirst a.leave = left at hleft hstart hrefuse
  constructor
  · intro hinstalled
    have hbegun := begun_scanForJoin .resume join a.scan left
    rw [hstart hinstalled]
    generalize left.scanForJoin .resume join a.scan = result at hbegun ⊢
    obtain ⟨status, v⟩ := result
    have hfinished : v.Continues ({ v with joinPending := true }.finishWCLJoin 1 0 status) := by
      refine Continues.finishWCLJoin ?_ 1 0 status
      exact { Continues.refl v with }
    dsimp only at hbegun ⊢
    split
    · exact (hbegun.continues hfinished).since hleft
    · exact hbegun.since hleft
  · rintro status rfl hfailed
    rw [hrefuse hfailed]
    generalize installSecurity (classifyLegacyAuth join) join a.security = status at hfailed ⊢
    dsimp only
    rw [if_pos hfailed]
    obtain ⟨messages, e, he, hpost⟩ := post_eq { left with
      joinPending := false, joinDeferred := false, deferredJoin := {}, joinTimer := none }
      (.connectComplete ⟨1, 0, left.joinBSSID, status⟩)
    refine ⟨left.trace, e, congrArg WclInterface.trace hpost, hleft.trace, ?_⟩
    rw [← h.bssid, ← hleft.bssid]
    exact he

lemma Waiting.ready (a : JoinAnswers) (h : w.Waiting request base) (hscan : w.scanPending = false) :
    Starts request a w (w.step (.driver true a)) := by
  let settled : WclInterface := { w with ic := { w.ic with
    macReconfig := (consumeMacReconfiguration w.ic.macReconfig true).2 } }
  have hready : w.step (.driver true a) = settled.resumeWCLJoin a := by
    show (if w.wclStopping then w else w.driverChanged true a) = _
    rw [if_neg (by rw [h.working]; exact nofun)]
    rfl
  have hwaiting : settled.Waiting request base := { h with }
  have hstarts := hwaiting.resumeWCLJoin a hscan (consumeMacReconfiguration_ready w.ic.macReconfig)
  rw [hready]
  exact { hstarts with }

lemma waiting_of_defers {join : JoinRequest} (a : JoinAnswers) (hworking : w.wclStopping = false)
    (hdefers : w.defers join = true) (hrunning : w.ic.running = true) :
    (w.step (.join join a)).Waiting join w.trace := by
  have hput : w.step (.join join a) = ({ w with
      deferredJoin := join
      joinBSSID := join.bssid
      joinDeferred := true
      joinPending := true
      joinTimer := some 30000 }.record (.pending .request join.bssid)) := by
    show (if w.wclStopping then w else (w.startWCLJoin .request join a).2) = _
    grind [WclInterface.startWCLJoin]
  have hsupported : classifyLegacyAuth join ≠ .invalid := by
    simp only [defers, Bool.and_eq_true] at hdefers
    exact of_decide_eq_true hdefers.1.1.1
  rw [hput]
  exact ⟨hworking, rfl, rfl, rfl, rfl, hsupported, hrunning, [.pending .request join.bssid], rfl,
    by simp⟩

end WclInterface

/-- What becomes of a request until DRIVER_READY is raised, and then. -/
structure Survives (request : JoinRequest) (a : WclInterface.JoinAnswers) (accepted w : WclInterface) :
    Prop where
  pending : w.joinPending = true
  deferred : w.joinDeferred = true
  kept : w.deferredJoin = request
  silent : ∃ since, w.trace = accepted.trace ++ since ∧ ∀ c, .posted (.connectComplete c) ∉ since
  starts : WclInterface.Starts request a w (w.step (.driver true a))

/-- A join that is put off after DRIVER_STOPPED outlives the address change, if no scan is pending
when DRIVER_READY is raised. -/
theorem macRun_join_resumed {w : WclInterface} {current : Mac} {address : Bytes} {assigned : Bool}
    {s accepting accepted raised : MacChange} {request : JoinRequest}
    {a : WclInterface.JoinAnswers}
    (hchange : w.setHardwareAddress current address assigned = .restarts s)
    (hbefore : MacRun (fun _ _ => True) s accepting)
    (hworking : accepting.wcl.wclStopping = false)
    (hdefers : accepting.wcl.defers request = true)
    (hjoin : accepting.step (.call (.join request a)) = some accepted)
    (hafter : MacRun (fun w m => m.persists = true ∧ w.spares m = true) accepted raised)
    (hstopped : accepting.phase = .enabling ∨ accepting.phase = .poweredUp)
    (hscan : raised.wcl.scanPending = false) (answers : WclInterface.JoinAnswers) :
    Survives request answers accepting.wcl raised.wcl := by
  have hstaged := hbefore.staged (WclInterface.staged_of_restarts hchange)
  have hup : accepting.wcl.ic.up = true := by
    simp only [WclInterface.defers, Bool.and_eq_true] at hdefers
    exact hdefers.2
  -- only an interface that is up puts a join off
  have hphase : accepting.phase = .poweredUp := by
    rcases hstopped with hphase | hphase
    · unfold MacChange.Staged at hstaged
      rw [hphase] at hstaged
      cases hstaged.symm.trans hup
    · exact hphase
  have hrunning : accepting.wcl.ic.running = true := by
    unfold MacChange.Staged at hstaged
    rwa [hphase] at hstaged
  obtain ⟨-, heq⟩ := Option.ite_none_right_eq_some.mp hjoin
  obtain rfl := Option.some.inj heq
  have hwaiting : raised.wcl.Waiting request accepting.wcl.trace :=
    hafter.waiting hphase (WclInterface.waiting_of_defers a hworking hdefers hrunning)
  exact ⟨hwaiting.pending, hwaiting.deferred, hwaiting.kept, hwaiting.silent,
    hwaiting.ready answers hscan⟩

/-- A request for an open network. -/
def openRequest : JoinRequest := { lowerAuth := 1, bssid := homeBssid }

/-- The restart that follows when a scanning interface is given a private address. -/
def privateAddress : MacChange := ⟨.disabling, { ic := { scanning with macReconfig := true } }⟩

lemma MacRun.of_run {P : MacStep → Prop} {steps : List MacStep} (hsteps : ∀ m ∈ steps, P m)
    (h : s.run steps = some s') : MacRun (fun _ m => P m) s s' := by
  induction steps generalizing s with
  | nil =>
    obtain rfl := Option.some.inj h
    exact .done s
  | cons m rest ih =>
    unfold MacChange.run at h
    obtain ⟨t, hstep, hrest⟩ := Option.bind_eq_some_iff.mp h
    exact .step m (hsteps m (List.mem_cons_self ..)) hstep
      (ih (fun m' hm' => hsteps m' (List.mem_cons_of_mem _ hm')) hrest)

/-- The firmware is down and up again. -/
def firmwareRestarted : List MacStep := [.powerDown {}, .stopped, .powerUp]

/-- A scan runs when the request comes, and is aborted before DRIVER_READY. -/
theorem macRun_join_resumed_privateAddress : ∃ accepting raised : MacChange,
    privateAddress.run (firmwareRestarted ++ [.call (.scan {})]) = some accepting ∧
    accepting.run [.call (.join openRequest {}), .call .scanAbort] = some raised ∧
    accepting.wcl.scanPending = true ∧ Survives openRequest {} accepting.wcl raised.wcl := by
  have hrestarts : ({ ic := scanning } : WclInterface).setHardwareAddress zeroMac
      [2, 0, 0, 0, 0, 9] true = .restarts privateAddress := rfl
  obtain ⟨accepting, haccepting⟩ : ∃ t,
      privateAddress.run (firmwareRestarted ++ [.call (.scan {})]) = some t :=
    Option.isSome_iff_exists.mp (by decide +kernel)
  have hbefore : MacRun (fun _ _ => True) privateAddress accepting :=
    MacRun.of_run (fun _ _ => trivial) haccepting
  have hstate : (privateAddress.run (firmwareRestarted ++ [.call (.scan {})])).map (fun t =>
      (t.wcl.wclStopping, t.wcl.defers openRequest, t.phase, t.wcl.scanPending)) =
        some (false, true, .poweredUp, true) := by decide +kernel
  have hrun : (privateAddress.run (firmwareRestarted ++ [.call (.scan {})])).map (fun t =>
      ((t.step (.call (.join openRequest {}))).isSome,
        (t.run [.call (.join openRequest {}), .call .scanAbort]).map (·.wcl.scanPending))) =
          some (true, some false) := by decide +kernel
  rw [haccepting] at hstate hrun
  simp only [Option.map_some, Option.some.injEq, Prod.mk.injEq] at hstate hrun
  obtain ⟨hworking, hdefers, hphase, hpending⟩ := hstate
  obtain ⟨hsome, hended⟩ := hrun
  obtain ⟨accepted, haccepted⟩ := Option.isSome_iff_exists.mp hsome
  obtain ⟨raised, hraised, hscan⟩ := Option.map_eq_some_iff.mp hended
  have habort : accepted.step (.call .scanAbort) = some raised := by
    simpa only [MacChange.run, List.foldlM_cons, List.foldlM_nil, haccepted, Option.bind_eq_bind,
      Option.bind_some, Option.pure_def, Option.bind_fun_some] using hraised
  exact ⟨accepting, raised, haccepting, hraised, hpending,
    macRun_join_resumed hrestarts hbefore hworking hdefers haccepted
      (.step (.call .scanAbort) ⟨rfl, rfl⟩ habort (.done raised)) (.inr hphase) hscan {}⟩

/-- The request comes while the interface is still up. It is put off, then completed as offline,
and DRIVER_READY starts nothing. -/
theorem earlyJoin_lost :
    WclRun (fun _ _ => True) ({ ic := scanning } : WclInterface) ∧
    ({ ic := scanning } : WclInterface).setHardwareAddress zeroMac [2, 0, 0, 0, 0, 9] true =
      .restarts privateAddress ∧
    privateAddress.wcl.wclStopping = false ∧ privateAddress.wcl.defers openRequest = true ∧
    ∃ accepted raised, privateAddress.step (.call (.join openRequest {})) = some accepted ∧
      MacRun (fun _ m => m.persists = true) accepted raised ∧ raised.phase = .poweredUp ∧
      raised.wcl.joinPending = false ∧ raised.wcl.joinDeferred = false ∧
      .posted (.connectComplete ⟨1, 0, homeBssid, .offline⟩) ∈ raised.wcl.trace ∧
      (raised.wcl.step (.driver true {})).started = none := by
  have hrun : WclRun (fun _ _ => True) ({ ic := scanning } : WclInterface) :=
    .call (.received (.changed scanning)) .start trivial
  obtain ⟨accepted, haccepted⟩ : ∃ t, privateAddress.step (.call (.join openRequest {})) = some t :=
    Option.isSome_iff_exists.mp (by decide +kernel)
  have hsome : ((privateAddress.step (.call (.join openRequest {}))).bind
      (·.run firmwareRestarted)).isSome = true := by decide +kernel
  have hstate : ((privateAddress.step (.call (.join openRequest {}))).bind
      (·.run firmwareRestarted)).map (fun t => (t.phase, t.wcl.joinPending, t.wcl.joinDeferred,
        decide (JoinEvent.posted (.connectComplete ⟨1, 0, homeBssid, .offline⟩) ∈ t.wcl.trace),
        (t.wcl.step (.driver true {})).started)) = some (.poweredUp, false, false, true, none) := by
    decide +kernel
  rw [haccepted] at hsome hstate
  obtain ⟨raised, hraised⟩ := Option.isSome_iff_exists.mp hsome
  rw [hraised] at hstate
  obtain ⟨hphase, hpending, hdeferred, hposted, hstarted⟩ : raised.phase = .poweredUp ∧
      raised.wcl.joinPending = false ∧ raised.wcl.joinDeferred = false ∧
      JoinEvent.posted (.connectComplete ⟨1, 0, homeBssid, .offline⟩) ∈ raised.wcl.trace ∧
      (raised.wcl.step (.driver true {})).started = none := by
    simpa only [Option.map_some, Option.some.injEq, Prod.mk.injEq, decide_eq_true_eq] using hstate
  have hafter : MacRun (fun _ m => m.persists = true) accepted raised :=
    MacRun.of_run (by decide) hraised
  exact ⟨hrun, rfl, by decide +kernel, by decide +kernel, accepted, raised, haccepted, hafter, hphase,
    hpending, hdeferred, hposted, hstarted⟩

end AirportAwdl.Wcl
