import AirportAwdl.Wcl.Actions

/-!
# What a successful join report stands for

A completion with status 0 is reported when three flags are set. Here the flags are read as
statements about the trace since the request was accepted (`Evidence`): what was reported, in
which order, and that the link has come up. Every event keeps this reading, and so does every
start of a join except one: a request that is put off keeps the flags of the join before it.
-/

namespace AirportAwdl.Wcl

open Native (IOReturn)

/-- The message of a post, whether or not the ring took it. -/
def JoinEvent.offer : JoinEvent → Option JoinMessage
  | .posted m | .dropped m => some m
  | _ => none

/-- The messages that were to be posted, in order. -/
def offered (trace : List JoinEvent) : List JoinMessage := trace.filterMap JoinEvent.offer

/-- The messages that were posted, in order. -/
def posted (trace : List JoinEvent) : List JoinMessage :=
  trace.filterMap fun | .posted m => some m | _ => none

/-- The messages that were lost, in order. -/
def dropped (trace : List JoinEvent) : List JoinMessage :=
  trace.filterMap fun | .dropped m => some m | _ => none

/-- Events after which the join before them is over. -/
def JoinEvent.closes : JoinEvent → Bool
  | .posted (.connectComplete _) | .dropped (.connectComplete _) | .withdrawn => true
  | _ => false

/-- A new request was accepted. -/
def JoinEvent.opens : JoinEvent → Bool
  | .pending .request _ => true
  | _ => false

/-- A successful association, the link and the first beacon of a BSS were reported, in this
order. -/
def Announced (bssid : Mac) (messages : List JoinMessage) : Prop :=
  ∃ (a : AssociationEvent) (l : LinkStatusEvent) (f : FirstBeaconEvent),
    a.status = 0 ∧ a.bssid = bssid ∧ l.up = true ∧ l.bssid = bssid ∧ f.bssid = bssid ∧
      [.assocComplete a, .linkStatus l, .firstBeacon f].Sublist messages

/-- The link came up and has not gone down since. -/
def LinkUp (trace : List JoinEvent) : Prop :=
  ∃ earlier later, trace = earlier ++ .link true :: later ∧ .link false ∉ later

/-- `since` is what happened since the last request was accepted, for `bssid`, and the join is
not over. -/
structure Pending (bssid : Mac) (trace since : List JoinEvent) : Prop where
  accepted : ∃ before, trace = before ++ .pending .request bssid :: since
  last : ∀ e ∈ since, e.opens = false
  open_ : ∀ e ∈ since, e.closes = false

/-- The flags of a pending join as statements about the trace since it was accepted. -/
structure Evidence (bssid : Mac) (assoc beacon link : Bool) (since : List JoinEvent) : Prop where
  assoc : assoc = true → ∃ a : AssociationEvent, a.status = 0 ∧ a.bssid = bssid ∧
    .assocComplete a ∈ offered since
  beacon : beacon = true → Announced bssid (offered since)
  link : link = true → LinkUp since

/-- Every successful completion in the trace was preceded by all it stands for. -/
def Successful (trace : List JoinEvent) : Prop :=
  ∀ before e after, trace = before ++ e :: after →
    ∀ c, e.offer = some (.connectComplete c) → c.status = 0 →
      ∃ since, Pending c.bssid before since ∧ Announced c.bssid (offered since) ∧ LinkUp since

lemma offered_append (first rest : List JoinEvent) :
    offered (first ++ rest) = offered first ++ offered rest :=
  List.filterMap_append

lemma posted_append (first rest : List JoinEvent) :
    posted (first ++ rest) = posted first ++ posted rest :=
  List.filterMap_append

lemma dropped_append (first rest : List JoinEvent) :
    dropped (first ++ rest) = dropped first ++ dropped rest :=
  List.filterMap_append

variable {trace since : List JoinEvent}

lemma offered_eq_posted (h : dropped trace = []) : offered trace = posted trace := by
  refine List.filterMap_congr fun e he => ?_
  cases e with
  | dropped m => cases List.filterMap_eq_nil_iff.mp h _ he
  | _ => rfl

lemma Announced.mono {bssid : Mac} {first rest : List JoinMessage} (h : Announced bssid first)
    (hsub : first.Sublist rest) : Announced bssid rest := by
  obtain ⟨a, l, f, ha, hab, hl, hlb, hfb, horder⟩ := h
  exact ⟨a, l, f, ha, hab, hl, hlb, hfb, horder.trans hsub⟩

lemma LinkUp.append {since more : List JoinEvent} (h : LinkUp since)
    (hmore : .link false ∉ more) : LinkUp (since ++ more) := by
  obtain ⟨earlier, later, rfl, hlater⟩ := h
  refine ⟨earlier, later ++ more, by simp, ?_⟩
  rw [List.mem_append]
  exact not_or.mpr ⟨hlater, hmore⟩

lemma Pending.append {bssid : Mac} (h : Pending bssid trace since) (more : List JoinEvent)
    (hlast : ∀ e ∈ more, e.opens = false) (hopen : ∀ e ∈ more, e.closes = false) :
    Pending bssid (trace ++ more) (since ++ more) := by
  obtain ⟨before, hbefore⟩ := h.accepted
  refine ⟨⟨before, by rw [hbefore]; simp⟩, ?_, ?_⟩
  · grind [h.last]
  grind [h.open_]

lemma Evidence.append {bssid : Mac} {assoc beacon link : Bool}
    (h : Evidence bssid assoc beacon link since) (more : List JoinEvent)
    (hmore : .link false ∉ more) : Evidence bssid assoc beacon link (since ++ more) where
  assoc hassoc := by
    obtain ⟨a, ha, hb, hmem⟩ := h.assoc hassoc
    refine ⟨a, ha, hb, ?_⟩
    rw [offered_append]
    exact List.mem_append_left _ hmem
  beacon hbeacon := by
    rw [offered_append]
    exact (h.beacon hbeacon).mono (List.sublist_append_left _ _)
  link hlink := (h.link hlink).append hmore

lemma successful_nil : Successful [] := by
  intro before e after h
  simp at h

lemma Successful.snoc {e : JoinEvent} (h : Successful trace)
    (he : ∀ c, e.offer = some (.connectComplete c) → c.status = 0 →
      ∃ since, Pending c.bssid trace since ∧ Announced c.bssid (offered since) ∧ LinkUp since) :
    Successful (trace ++ [e]) := by
  intro before e' after hsplit c hc hstatus
  rcases List.eq_nil_or_concat after with rfl | ⟨rest, last, rfl⟩
  · simp_all
  · rw [List.concat_eq_append, ← List.cons_append, ← List.append_assoc] at hsplit
    obtain ⟨hfirst, -⟩ := List.append_inj' hsplit rfl
    exact h before e' rest hfirst c hc hstatus

namespace WclInterface

/-- The flags of a pending join have their evidence, and every success so far was justified. -/
structure Justified (w : WclInterface) : Prop where
  pending : w.joinPending = true → ∃ since, Pending w.joinBSSID w.trace since ∧
    Evidence w.joinBSSID w.assocNotified w.firstBeaconNotified w.portAuthorized since
  successful : Successful w.trace

variable {w : WclInterface} {v : WclInterface}

lemma post_neutral {e : JoinEvent} {m : JoinMessage} (h : e = .posted m ∨ e = .dropped m) :
    e.offer = some m ∧ e.opens = false ∧ e ≠ .link false ∧
      ((∀ c, m ≠ .connectComplete c) → e.closes = false) := by
  rcases h with rfl | rfl
  all_goals
    refine ⟨rfl, rfl, nofun, fun hm => ?_⟩
    cases m with
    | connectComplete c => exact absurd rfl (hm c)
    | _ => rfl

lemma Justified.record {e : JoinEvent} (h : w.Justified) (hopens : e.opens = false)
    (hcloses : e.closes = false) (hlink : e ≠ .link false)
    (hoffer : ∀ c, e.offer ≠ some (.connectComplete c)) : (w.record e).Justified where
  pending hpending := by
    obtain ⟨since, hsince, hevidence⟩ := h.pending hpending
    exact ⟨since ++ [e], hsince.append [e] (by simpa using hopens) (by simpa using hcloses),
      hevidence.append [e] (by simpa using hlink.symm)⟩
  successful := h.successful.snoc fun c hc => absurd hc (hoffer c)

lemma Justified.post {m : JoinMessage} (h : w.Justified) (hm : ∀ c, m ≠ .connectComplete c) :
    (w.post m).Justified := by
  obtain ⟨messages, e, he, hpost⟩ := w.post_eq m
  obtain ⟨hoffer, hopens, hlink, hcloses⟩ := post_neutral he
  have hrecord := h.record hopens (hcloses hm) hlink fun c hc => by
    rw [hoffer] at hc
    exact hm c (Option.some.inj hc)
  rw [hpost]
  exact ⟨hrecord.pending, hrecord.successful⟩

lemma Justified.idle (h : Successful w.trace) (hpending : w.joinPending = false) :
    w.Justified where
  pending hp := by cases hpending.symm.trans hp
  successful := h

lemma Justified.finishWCLJoin {status reason : UInt16} {driverStatus : IOReturn}
    (h : w.Justified) (hstatus : status = 0 →
      w.firstBeaconNotified = true ∧ w.portAuthorized = true) :
    (w.finishWCLJoin status reason driverStatus).Justified := by
  unfold WclInterface.finishWCLJoin
  split
  · exact h
  rename_i hpending
  simp only [Bool.not_eq_true, Bool.not_eq_false'] at hpending
  obtain ⟨messages, e, he, hpost⟩ := post_eq { w with
    joinPending := false, joinDeferred := false, deferredJoin := {}, joinTimer := none }
    (.connectComplete { status, reason, bssid := w.joinBSSID, driverStatus })
  rw [hpost]
  refine .idle (h.successful.snoc fun c hc hzero => ?_) rfl
  rw [(post_neutral he).1] at hc
  obtain ⟨since, hsince, hevidence⟩ := h.pending hpending
  grind [hevidence.beacon, hevidence.link]

lemma Justified.link (up : Bool) (h : w.Justified) :
    ({ w with portAuthorized := up }.record (.link up)).Justified := by
  refine ⟨fun hpending => ?_, h.successful.snoc nofun⟩
  obtain ⟨since, hsince, hevidence⟩ := h.pending hpending
  refine ⟨since ++ [JoinEvent.link up], hsince.append [.link up] (by simp [JoinEvent.opens])
    (by simp [JoinEvent.closes]), fun hassoc => ?_, fun hbeacon => ?_, fun hup => ?_⟩
  · obtain ⟨a, ha, hb, hmem⟩ := hevidence.assoc hassoc
    exact ⟨a, ha, hb, by rw [offered_append]; exact List.mem_append_left _ hmem⟩
  · rw [offered_append]
    exact (hevidence.beacon hbeacon).mono (List.sublist_append_left _ _)
  · obtain rfl : up = true := hup
    exact ⟨since, [], rfl, List.not_mem_nil⟩

lemma Justified.announceAssociation (h : w.Justified) (hpending : w.joinPending = true) :
    w.announceAssociation.Justified := by
  obtain ⟨since, hsince, hevidence⟩ := h.pending hpending
  unfold WclInterface.announceAssociation
  obtain ⟨messages, e, he, hpost⟩ := post_eq { w with assocNotified := w.ic.assocStatus = 0 }
    (.assocComplete { status := w.ic.assocStatus, bssid := w.joinBSSID
                      driverStatus := if w.ic.assocStatus ≠ 0 then .error else .success })
  rw [hpost]
  obtain ⟨hoffer, hopens, hlink, hcloses⟩ := post_neutral he
  have hmore := hevidence.append [e] (by simpa using hlink.symm)
  refine ⟨fun _ => ⟨since ++ [e], ?_, fun hok => ?_, hmore.beacon, hmore.link⟩,
    h.successful.snoc fun c hc => ?_⟩
  · exact hsince.append [e] (by simpa using hopens) (by simpa using hcloses nofun)
  · refine ⟨{ status := w.ic.assocStatus, bssid := w.joinBSSID
              driverStatus := if w.ic.assocStatus ≠ 0 then .error else .success },
      of_decide_eq_true hok, rfl, ?_⟩
    grind [offered]
  · rw [hoffer] at hc
    cases hc

lemma Justified.announceBeacon (h : w.Justified) (hpending : w.joinPending = true)
    (hassoc : w.assocNotified = true) : w.announceBeacon.Justified := by
  obtain ⟨since, hsince, hevidence⟩ := h.pending hpending
  obtain ⟨a, ha, hab, hmem⟩ := hevidence.assoc hassoc
  unfold WclInterface.announceBeacon
  obtain ⟨m, e, he, hpost⟩ := post_eq { w with firstBeaconNotified := true, wclLinkIndicated := true }
    (.linkStatus { bssid := w.joinBSSID, up := true, reason := 255 })
  rw [hpost]
  obtain ⟨m', e', he', hpost'⟩ := post_eq { w with
    firstBeaconNotified := true, wclLinkIndicated := true, wclJoinMessages := m,
    trace := w.trace ++ [e] } (.firstBeacon { bssid := w.joinBSSID })
  rw [hpost']
  obtain ⟨hoffer, hopens, hlink, hcloses⟩ := post_neutral he
  obtain ⟨hoffer', hopens', hlink', hcloses'⟩ := post_neutral he'
  have hmore := hevidence.append [e, e'] (by simp [hlink.symm, hlink'.symm])
  have hoffered : offered (since ++ [e, e']) = offered since ++
      [.linkStatus { bssid := w.joinBSSID, up := true, reason := 255 },
        .firstBeacon { bssid := w.joinBSSID }] := by
    simp [offered, hoffer, hoffer']
  refine ⟨fun _ => ⟨since ++ [e, e'], ?_, hmore.assoc, fun _ => ?_, hmore.link⟩, ?_⟩
  · grind [hsince.append]
  · refine ⟨a, { bssid := w.joinBSSID, up := true, reason := 255 }, { bssid := w.joinBSSID },
      ha, hab, rfl, rfl, rfl, ?_⟩
    rw [hoffered]
    exact (List.singleton_sublist.mpr hmem).append (List.Sublist.refl _)
  · refine (h.successful.snoc fun c hc => ?_).snoc fun c hc => ?_
    · rw [hoffer] at hc
      cases hc
    · rw [hoffer'] at hc
      cases hc

lemma Justified.act (hact : RxAct w v) (h : w.Justified) : v.Justified := by
  cases hact with
  | quiet => exact ⟨h.pending, h.successful⟩
  | link up => exact h.link up
  | report m hm => exact h.post hm
  | association hpending => exact h.announceAssociation hpending
  | beacon hpending hassoc => exact h.announceBeacon hpending hassoc
  | finish status reason driverStatus hstatus => exact h.finishWCLJoin hstatus

lemma Justified.path (h : w.Justified) (hpath : RxPath w v) : v.Justified :=
  hpath.keeps (fun _ _ => Justified.act) h

lemma Justified.leaveWCLNetwork (t : Transition) (h : Successful w.trace) :
    (w.leaveWCLNetwork t).Justified := by
  unfold WclInterface.leaveWCLNetwork
  extract_lets marked ic left
  have hmarked : Successful marked.trace := by
    unfold marked
    split
    · exact h.snoc nofun
    · exact h
  have hleft : left.Justified := .idle hmarked rfl
  split
  · exact hleft.path (newState_path t left)
  · exact hleft

lemma Justified.scanForJoin (origin : Origin) (join : JoinRequest) (t : Transition)
    (h : Successful w.trace)
    (hresumed : origin = .resume → ∃ since, Pending join.bssid w.trace since) :
    (w.scanForJoin origin join t).2.Justified := by
  have hclean : ∀ since, Evidence join.bssid false false false since := fun _ => ⟨nofun, nofun, nofun⟩
  have hsuccessful : Successful (w.trace ++ [.pending origin join.bssid]) := h.snoc nofun
  have hpending : ∃ since, Pending join.bssid (w.trace ++ [.pending origin join.bssid]) since := by
    cases origin with
    | request => exact ⟨[], ⟨w.trace, rfl⟩, nofun, nofun⟩
    | resume =>
      obtain ⟨since, hsince⟩ := hresumed rfl
      exact ⟨_, hsince.append [.pending .resume join.bssid] (by simp [JoinEvent.opens])
        (by simp [JoinEvent.closes])⟩
  unfold WclInterface.scanForJoin
  extract_lets started searched
  have hstarted : started.Justified := by
    refine ⟨fun _ => ?_, hsuccessful⟩
    obtain ⟨since, hsince⟩ := hpending
    exact ⟨since, hsince, hclean since⟩
  split
  · have hsearched : searched.Justified := hstarted.path (newState_path t started)
    split
    · exact .idle (hsearched.successful.snoc nofun) rfl
    · exact hsearched
  · exact hstarted

lemma RxPath.idle {bssid : Mac} (hpath : RxPath w v)
    (hpending : w.joinPending = false) (h : ∃ since, Pending bssid w.trace since) :
    v.joinPending = false ∧ ∃ since, Pending bssid v.trace since := by
  refine hpath.keeps (P := fun w => w.joinPending = false ∧ ∃ since, Pending bssid w.trace since)
    (fun w v hact hw => ?_) ⟨hpending, h⟩
  obtain ⟨hpending, since, hsince⟩ := hw
  cases hact with
  | quiet => exact ⟨hpending, since, hsince⟩
  | link up =>
    exact ⟨hpending, _, hsince.append [.link up] (by simp [JoinEvent.opens])
      (by simp [JoinEvent.closes])⟩
  | report m hm =>
    obtain ⟨messages, e, he, hpost⟩ := w.post_eq m
    obtain ⟨-, hopens, -, hcloses⟩ := post_neutral he
    rw [hpost]
    exact ⟨hpending, _, hsince.append [e] (by simpa using hopens) (by simpa using hcloses hm)⟩
  | association hp | beacon hp => cases hpending.symm.trans hp
  | finish =>
    have hsame : ∀ status reason driverStatus,
        w.finishWCLJoin status reason driverStatus = w := by
      grind [WclInterface.finishWCLJoin]
    rw [hsame]
    exact ⟨hpending, since, hsince⟩

lemma Justified.startWCLJoin {join : JoinRequest} (origin : Origin) (a : JoinAnswers)
    (h : w.Justified) (hdefers : w.defers join = false)
    (hresumed : origin = .resume → ∃ since, Pending join.bssid w.trace since) :
    (w.startWCLJoin origin join a).2.Justified := by
  unfold WclInterface.startWCLJoin
  extract_lets auth left
  rw [if_neg (Bool.eq_false_iff.mp hdefers)]
  split
  · exact h
  split
  · exact h
  rename_i hbusy
  have hleft : left.Justified ∧
      (origin = .resume → ∃ since, Pending join.bssid left.trace since) := by
    unfold left
    split
    · refine ⟨.leaveWCLNetwork a.leave h.successful, fun horigin => ?_⟩
      -- nothing is marked pending while a resumed join leaves the old network
      unfold WclInterface.leaveWCLNetwork
      extract_lets marked ic out
      have hout : ∃ since, Pending join.bssid out.trace since := by
        grind
      split
      · exact ((newState_path a.leave out).idle rfl hout).2
      · exact hout
    · exact ⟨h, hresumed⟩
  obtain ⟨hjust, hsince⟩ := hleft
  split
  · exact .scanForJoin origin join a.scan hjust.successful hsince
  · exact hjust

lemma Justified.request {join : JoinRequest} (a : JoinAnswers) (h : w.Justified)
    (hclean : w.defers join = true → w.assocNotified = false ∧ w.firstBeaconNotified = false ∧
      w.portAuthorized = false) : (w.startWCLJoin .request join a).2.Justified := by
  cases hdefers : w.defers join with
  | false => exact h.startWCLJoin .request a hdefers nofun
  | true =>
    obtain ⟨hassoc, hbeacon, hport⟩ := hclean hdefers
    unfold WclInterface.startWCLJoin
    rw [hdefers]
    refine ⟨fun _ => ⟨[], ⟨⟨w.trace, rfl⟩, nofun, nofun⟩, ?_⟩, h.successful.snoc nofun⟩
    refine ⟨fun ha => ?_, fun hb => ?_, fun hl => ?_⟩
    · cases hassoc.symm.trans ha
    · cases hbeacon.symm.trans hb
    · cases hport.symm.trans hl

lemma Justified.failed (reason : UInt16) (driverStatus : IOReturn) (h : Successful w.trace) :
    ({ w with joinPending := true }.finishWCLJoin 1 reason driverStatus).Justified := by
  unfold WclInterface.finishWCLJoin
  obtain ⟨messages, e, he, hpost⟩ := post_eq { w with
    joinPending := false, joinDeferred := false, deferredJoin := {}, joinTimer := none }
    (.connectComplete { status := 1, reason, bssid := w.joinBSSID, driverStatus })
  rw [hpost]
  refine .idle (h.snoc fun c hc hzero => ?_) rfl
  rw [(post_neutral he).1] at hc
  grind

lemma Justified.resumeWCLJoin (a : JoinAnswers) (h : w.Justified) (hcoherent : w.Coherent)
    (hready : w.ic.macReconfig = false) : (w.resumeWCLJoin a).Justified := by
  unfold WclInterface.resumeWCLJoin
  split
  · exact h
  rename_i hgo
  simp only [Bool.or_eq_true, not_or, Bool.not_eq_true, Bool.not_eq_false'] at hgo
  obtain ⟨hpending, hbssid⟩ := hcoherent hgo.1
  obtain ⟨since, hsince, -⟩ := h.pending hpending
  extract_lets join taken
  have htaken : taken.Justified := .idle h.successful rfl
  have hdefers : taken.defers join = false := by
    show (_ && _ && w.ic.macReconfig && _) = false
    rw [hready, Bool.and_false, Bool.false_and]
  have hstart := htaken.startWCLJoin .resume a hdefers fun _ =>
    ⟨since, by rw [show join.bssid = w.joinBSSID from hbssid]; exact hsince⟩
  generalize taken.startWCLJoin .resume join a = result at hstart ⊢
  obtain ⟨status, v⟩ := result
  dsimp only at hstart ⊢
  split
  · exact .failed 0 status hstart.successful
  · exact hstart

lemma Justified.driverChanged (ready : Bool) (a : JoinAnswers) (h : w.Justified)
    (hcoherent : w.Coherent) : (w.driverChanged ready a).Justified := by
  unfold WclInterface.driverChanged
  cases ready with
  | true =>
    exact Justified.resumeWCLJoin a ⟨h.pending, h.successful⟩ hcoherent
      (consumeMacReconfiguration_ready w.ic.macReconfig)
  | false =>
    have hscan := h.path (finishWCLScan_path (if w.ic.macReconfig then .aborted else .offline) w)
    generalize w.finishWCLScan (if w.ic.macReconfig then .aborted else .offline) = v at hscan ⊢
    have hdone : (v.finishWCLJoin 1 0 .offline).Justified :=
      hscan.finishWCLJoin fun hone => by cases hone
    refine ⟨fun hp => ?_, hdone.successful⟩
    obtain ⟨since, hsince, hevidence⟩ := hdone.pending hp
    exact ⟨since, hsince, hevidence.assoc, hevidence.beacon, nofun⟩

lemma Justified.stopWCL (h : w.Justified) : w.stopWCL.Justified := by
  unfold WclInterface.stopWCL
  extract_lets marked
  refine .idle ?_ rfl
  unfold marked
  split
  · exact h.successful.snoc nofun
  · exact h.successful

lemma Justified.drainWCLJoinMessages (h : w.Justified) : w.drainWCLJoinMessages.Justified := by
  unfold WclInterface.drainWCLJoinMessages
  split
  · exact h
  · have hrecord := h.record (e := .delivered w.wclJoinMessages.front) rfl rfl nofun nofun
    exact ⟨hrecord.pending, hrecord.successful⟩

end WclInterface

/-- A request that is put off finds the flags of the join before it down. -/
def cleanDeferral (w : WclInterface) : WclCall → Prop
  | .join request _ => w.defers request = true →
      w.assocNotified = false ∧ w.firstBeaconNotified = false ∧ w.portAuthorized = false
  | _ => True

/-- A call keeps the evidence, if the flags are down whenever it puts a join off. -/
lemma WclInterface.Justified.step {w : WclInterface} (c : WclCall) (h : w.Justified)
    (hcoherent : w.Coherent) (hclean : cleanDeferral w c) : (w.step c).Justified := by
  have hgate : ∀ {v : WclInterface}, v.Justified → (if w.wclStopping then w else v).Justified := by
    intro v hv
    split
    · exact h
    · exact hv
  cases c with
  | received e => exact h.path (receive_path e w)
  | drain => exact h.drainWCLJoinMessages
  | scanTimer => exact h.path w.completeWCLScan_path
  | scanAbort => exact hgate (h.path (WclInterface.finishWCLScan_path .aborted w))
  | stop => exact h.stopWCL
  | driver ready a => exact hgate (h.driverChanged ready a hcoherent)
  | join request a => exact hgate (h.request a hclean)
  | leave t | abort t => exact hgate (.leaveWCLNetwork t h.successful)
  | timeout t =>
    have hdone : (w.finishWCLJoin 1 1004 .timeout).Justified :=
      h.finishWCLJoin fun hone => by cases hone
    exact hgate (.leaveWCLNetwork t hdone.successful)
  | scan a => exact hgate (h.path (beginWCLScan_path a w))

/-- In every run of such calls the successes are justified. -/
lemma wclRun_justified {w : WclInterface} (h : WclRun cleanDeferral w) : w.Justified := by
  induction h with
  | start => exact .idle successful_nil rfl
  | call c hrun hclean ih => exact ih.step c hrun.coherent hclean

/-- A completion with status 0 comes after the reports it stands for, all of them about the join
that it completes, and with the link up. -/
theorem wclRun_success {w : WclInterface} (h : WclRun cleanDeferral w)
    (hposts : dropped w.trace = []) {before after : List JoinEvent} {c : ConnectionEvent}
    (hc : w.trace = before ++ .posted (.connectComplete c) :: after) (hstatus : c.status = 0) :
    ∃ since, Pending c.bssid before since ∧ Announced c.bssid (posted since) ∧ LinkUp since := by
  obtain ⟨since, hsince, hannounced, hlink⟩ :=
    (wclRun_justified h).successful before _ after hc c rfl hstatus
  refine ⟨since, hsince, ?_, hlink⟩
  obtain ⟨earlier, hearlier⟩ := hsince.accepted
  rwa [← offered_eq_posted]
  rw [hc, hearlier, dropped, List.filterMap_eq_nil_iff] at hposts
  rw [dropped, List.filterMap_eq_nil_iff]
  intro e he
  exact hposts e (by simp [he])

/-- Two networks, and a radio that is up. -/
def homeBssid : Mac := Mac.of 2 0 0 0 0 1
def otherBssid : Mac := Mac.of 2 0 0 0 0 2
def scanning : Ieee80211com := { up := true, running := true, state := .scan }

/-- A join of an open network up to its completion. -/
def openJoin (bssid : Mac) : List WclCall :=
  [.received (.changed scanning), .join { lowerAuth := 1, bssid } {}, .received .assocDone,
    .received (.beacon (some { node := { bssid, channel := some 6 }, frame := [] })),
    .received (.link true)]

theorem wclRun_success_openJoin :
    ∃ since, Pending homeBssid
        ((openJoin homeBssid).foldl WclInterface.step {}).trace.dropLast since ∧
      Announced homeBssid (posted since) ∧ LinkUp since := by
  have hrun : WclRun cleanDeferral ((openJoin homeBssid).foldl WclInterface.step {}) := by
    refine WclRun.start.calls (openJoin homeBssid) ⟨trivial, ?_, trivial, trivial, trivial, trivial⟩
    exact fun hdefers => absurd hdefers (by decide +kernel)
  have hdone : ((openJoin homeBssid).foldl WclInterface.step {}).trace =
      ((openJoin homeBssid).foldl WclInterface.step {}).trace.dropLast ++
        .posted (.connectComplete ⟨0, 0, homeBssid, .success⟩) :: [] := by
    decide +kernel
  exact wclRun_success hrun (by decide +kernel) hdone rfl

/-- The station moves to another network while its address changes: the request is put off with
the flags of the old association, and the link completes it. -/
def movedJoin : List WclCall :=
  openJoin homeBssid ++ [.received (.changed { scanning with macReconfig := true }),
    .received (.link false), .driver false {}, .join { lowerAuth := 1, bssid := otherBssid } {},
    .received (.link true)]

/-- A report about an association with this BSS. -/
def JoinMessage.associates (bssid : Mac) : JoinMessage → Bool
  | .assocComplete a => a.bssid = bssid
  | _ => false

/-- The report about the second network is a success that nothing stands behind. -/
theorem movedJoin_unannounced : ∃ w before c, WclRun (fun _ _ => True) w ∧ dropped w.trace = [] ∧
    w.trace = before ++ [.posted (.connectComplete c)] ∧ c.status = 0 ∧
    ¬∃ since, Pending c.bssid before since ∧ Announced c.bssid (posted since) := by
  refine ⟨movedJoin.foldl WclInterface.step {}, (movedJoin.foldl WclInterface.step {}).trace.dropLast,
    ⟨0, 0, otherBssid, .success⟩, WclRun.start.calls _ (admitted_true _ _), by decide +kernel,
    by decide +kernel, rfl, ?_⟩
  rintro ⟨since, hsince, a, l, f, -, hbssid, -, -, -, horder⟩
  obtain ⟨earlier, hearlier⟩ := hsince.accepted
  have hnone : ∀ m ∈ posted (movedJoin.foldl WclInterface.step {}).trace.dropLast,
      m.associates otherBssid = false := by
    decide +kernel
  have hmem : .assocComplete a ∈ posted (movedJoin.foldl WclInterface.step {}).trace.dropLast := by
    rw [hearlier, posted_append]
    exact List.mem_append_right _ (horder.subset List.mem_cons_self)
  exact absurd hbssid (of_decide_eq_false (hnone _ hmem))

end AirportAwdl.Wcl
