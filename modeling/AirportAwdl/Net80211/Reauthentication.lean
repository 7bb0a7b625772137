import AirportAwdl.Net80211.Handshake

/-!
# Authentication attempts

A commit that is sent on entering AUTH belongs to a new session exactly if no session with the same
network is left over (`commit_fresh_iff`). SCAN and INIT clear the session; nothing does when a
network deauthenticates the station in RUN.
-/

namespace AirportAwdl.Net80211

open FallibleProgram Trace

variable {W D : Type} {host : Host W D} {ic : Com W D} {n ni : ℕ} {s : SaeSession D}
  {P : Com W D → ℕ → Prop}

/-- A commit of the session `n`, sent between `ic` and `ic'`, starts a new attempt: the session was
not there before, the peer's commit and the own confirm are still to come, and the next commit that
arrives goes to hostap. -/
structure Fresh (host : Host W D) (ic ic' : Com W D) (n : ℕ) : Prop where
  unknown : ∀ e ∈ ic.log, e.session ≠ n
  live : ∃ s, ic'.sae = some n ∧ ic'.sessions n = some s ∧ s.committed = false ∧
    s.confirmed = false
  answered : ∀ calls later, (performAll host calls).run ic' = .ok ((), later) →
    (∀ f, .commitReceived n f true ∉ later.log) →
    ∀ s f ni, later.sessions n = some s → addressed later s f → f.seq = 1 →
      f.status = (if s.h2e then 126 else 0) →
      ∃ last accepted since, (saeReceive host ni f).run later = .ok ((), last) ∧
        last.log = later.log ++ since ∧ .commitReceived n f accepted ∈ since

lemma commit_processed (h : Inv ic) (hs : ic.sessions n = some s) (hnot : s.committed = false)
    {f : AuthFrame} (hf : addressed ic s f) (hseq : f.seq = 1)
    (hstatus : f.status = (if s.h2e then 126 else 0)) (ni : ℕ) :
    wp (saeReceive host ni f) (fun _ ic' => ∃ accepted since, ic'.log = ic.log ++ since ∧
      .commitReceived n f accepted ∈ since) ic := by
  have hsae : ic.sae = some n := (h.heap n).mpr (hs ▸ Option.some_ne_none s)
  have hnoToken : ¬(f.seq = 1 ∧ f.status = 76 ∧ (!s.committed) = true) := by
    grind
  refine wp_bind (wp_get ?_)
  rw [hsae]
  refine wp_bind (wp_session hs (wp_ite (fun hno => absurd hf hno) fun _ =>
    wp_ite (fun h => absurd h hnoToken) fun _ => wp_ite (fun _ => ?_) fun h => absurd ⟨hseq, hstatus⟩ h))
  refine wp_bind (wp_session hs (wp_ite (fun _ => ?_) fun h => absurd (by simp [hnot]) h))
  refine wp_seq (good_crypto ⟨h, Keeps.refl ic⟩ hs _) fun error ic₁ hc => ?_
  obtain ⟨sae, -, -, h₁, hs₁, hsame⟩ := hc
  have h₂ := h₁.record (e := .commitReceived n f (decide (error = 0))) trivial (h₁.inv.lt hs₁) (by simp)
    (by simp) (by simp)
  refine wp_bind (wp_record (wp_mono (good_answerCommit h₁.inv hs₁ hnot ⟨h₂.inv, Keeps.refl _⟩ ni) ?_))
  rintro - ic' ⟨-, new, hlog, -⟩
  refine ⟨_, [.commitReceived n f (decide (error = 0))] ++ new, ?_, List.mem_cons_self⟩
  rw [hlog, hsame.1, List.append_assoc]

lemma answered_of_inv (h : Inv ic) (n : ℕ) (calls : List Call) (later : Com W D)
    (hrun : (performAll host calls).run ic = .ok ((), later))
    (hnone : ∀ f, .commitReceived n f true ∉ later.log) (s : SaeSession D) (f : AuthFrame) (ni : ℕ)
    (hs : later.sessions n = some s) (hf : addressed later s f) (hseq : f.seq = 1)
    (hstatus : f.status = (if s.h2e then 126 else 0)) :
    ∃ last accepted since, (saeReceive host ni f).run later = .ok ((), last) ∧
      last.log = later.log ++ since ∧ .commitReceived n f accepted ∈ since := by
  obtain ⟨_, later', hrun', hgood⟩ := good_performAll host h calls
  obtain ⟨-, rfl⟩ := Prod.mk.inj (Except.ok.inj (hrun.symm.trans hrun'))
  have hnot : s.committed = false := by
    by_contra hc
    obtain ⟨before, since, hlog, -, hcommitted⟩ := (hgood.inv.story n s hs).told
    grind
  obtain ⟨_, last, hlast, accepted, since, hlog, hmem⟩ : wp (saeReceive host ni f) _ later :=
    commit_processed hgood.inv hs hnot hf hseq hstatus ni
  exact ⟨last, accepted, since, hlast, hlog, hmem⟩

/-- What the log tells about the commits that were sent between `ic` and `ic'`. -/
def Commits (P : ℕ → Prop) (ic ic' : Com W D) : Prop :=
  ∃ new, ic'.log = ic.log ++ new ∧ ∀ n, .commitSent n ∈ new → P n

lemma log_mgmtOutput (timer : ℕ) : wp (mgmtOutput host timer) (fun _ ic' => ic'.log = ic.log ∧
    ic'.sae = ic.sae ∧ ic'.sessions = ic.sessions) ic :=
  wp_bind (wp_ask (wp_ite (fun _ => wp_modify ⟨rfl, rfl, rfl⟩) fun _ => wp_pure ⟨rfl, rfl, rfl⟩))

lemma open_sendAuth {seq : UInt16}
    (hopen : ¬(ic.saeEnabled = true ∧ (ic.nodes ni).rsnakms = akmSae)) :
    wp (sendAuth host ni seq) (fun _ ic' => Commits (P ic') ic ic') ic := by
  have hnothing : ∀ {ic' : Com W D}, ic'.log = ic.log → Commits (P ic') ic ic' := fun hlog =>
    ⟨[], by rw [hlog, List.append_nil], fun _ hn => absurd hn (by simp)⟩
  refine wp_bind (wp_get (wp_ite (fun h => absurd h hopen) fun _ => wp_bind (wp_ask ?_)))
  refine wp_ite (fun _ => ?_) fun _ => wp_pure (hnothing rfl)
  exact wp_mono (log_mgmtOutput transWait) fun _ _ h => hnothing h.1

lemma old_sendAuth (h : Inv ic) {m : ℕ} (hm : Matches ic ni m s) (hP : ∀ ic', P ic' m) :
    wp (sendAuth host ni 1) (fun _ ic' => Commits (P ic') ic ic') ic := by
  by_cases hsae : ic.saeEnabled = true ∧ (ic.nodes ni).rsnakms = akmSae
  · obtain ⟨-, -, token, tokenLength, -⟩ := h.story m s hm.session
    refine wp_mono (renews_sendAuth hm (by omega) hsae.1 hsae.2) fun _ ic' hic' => ?_
    obtain ⟨sae, w, timer, sent, rfl⟩ := hic'
    refine ⟨_, rfl, fun n hn => ?_⟩
    grind
  · exact open_sendAuth hsae

lemma leave_sessionless (h : Inv ic) (hnone : ¬∃ m s, Matches ic ni m s) :
    wp (saeLeave ni) (fun _ ic' => ic'.sae = none ∧ ic'.made = ic.made ∧
      Commits (fun _ => False) ic ic') ic := by
  refine wp_bind (wp_get ?_)
  cases hsae : ic.sae with
  | none => exact wp_pure ⟨hsae, rfl, [], by simp, fun n hn => by simp at hn⟩
  | some m =>
    obtain ⟨s, hs⟩ := h.live hsae
    refine wp_bind (wp_session hs (wp_ite (fun _ => ?_) fun hsame => ?_))
    · refine wp_bind (wp_bind (wp_get ?_))
      rw [hsae]
      refine wp_bind (wp_session hs (wp_bind (wp_record (wp_modify (wp_bind (wp_modify
        (wp_ite (fun hf => absurd hf Bool.false_ne_true) fun _ => wp_pure ⟨rfl, rfl, ?_⟩)))))))
      exact ⟨[.ended m], rfl, fun n hn => by simp at hn⟩
    · rw [not_or, not_not, not_not] at hsame
      exact absurd ⟨m, s, hsae, hs, hsame.1, hsame.2⟩ hnone

/-- The commits between `ic` and `ic'` belong to a new session. -/
def CommitsNew (ic ic' : Com W D) : Prop :=
  Commits (fun n => n = ic.made ∧ ∃ s, ic'.sae = some n ∧ ic'.sessions n = some s ∧
    s.committed = false ∧ s.confirmed = false) ic ic'

lemma new_saeAuth (h : Inv ic) (hnone : ¬∃ m s, Matches ic ni m s) :
    wp (saeAuth host ni 1) (fun _ => CommitsNew ic) ic := by
  have hunsent : ∀ {ic' : Com W D}, Commits (fun _ => False) ic ic' → CommitsNew ic ic' := by
    rintro ic' ⟨new, hlog, hnew⟩
    exact ⟨new, hlog, fun n hn => absurd hn (hnew n)⟩
  refine wp_bind (wp_get (wp_ite (fun _ => wp_pure (hunsent ⟨[], by simp, by simp⟩)) fun _ => ?_))
  refine wp_seq (leave_sessionless h hnone) fun _ ic₁ hc => wp_bind (wp_get ?_)
  obtain ⟨hsae, hmade, gone, hlog, hgone⟩ := hc
  rw [hsae]
  refine wp_ite (fun _ => wp_pure (hunsent ⟨gone, hlog, hgone⟩)) fun _ => ?_
  refine wp_bind (wp_bind (wp_ask (wp_ite (fun _ => wp_pure (wp_pure (hunsent ⟨gone, hlog, hgone⟩)))
    fun _ => wp_bind (wp_get (wp_bind (wp_ask ?_))))))
  generalize rtwSaeBegin host _ _ _ _ _ _ = answer
  cases answer.1 with
  | none => exact wp_pure (wp_pure (hunsent ⟨gone, hlog, hgone⟩))
  | some sae =>
    refine wp_bind (wp_get (wp_bind (wp_record (wp_bind (wp_modify (wp_pure ?_))))))
    refine wp_mono (renews_frame (Function.update_self _ _ _) (Nat.zero_le _)) fun _ ic' hic' => ?_
    obtain ⟨⟨sae', w, timer, sent, rfl⟩, -⟩ := hic'
    refine ⟨gone ++ [.begun ic₁.made ic₁.myaddr (ic₁.nodes ni).bssid] ++
      if sent = true then [.commitSent ic₁.made] else [], ?_, fun n hn => ?_⟩
    · grind
    · obtain rfl : n = ic₁.made := by
        grind
      exact ⟨hmade, _, rfl, Function.update_self _ _ _, rfl, rfl⟩

lemma new_sendAuth (h : Inv ic) (hnone : ¬∃ m s, Matches ic ni m s) :
    wp (sendAuth host ni 1) (fun _ => CommitsNew ic) ic := by
  by_cases hsae : ic.saeEnabled = true ∧ (ic.nodes ni).rsnakms = akmSae
  · refine wp_bind (wp_get (wp_ite (fun _ => ?_) fun h => absurd hsae h))
    refine wp_seq (new_saeAuth h hnone) fun m ic' hic' => ?_
    cases m with
    | none => exact wp_pure hic'
    | some m =>
      refine wp_mono (log_mgmtOutput transWait) fun _ ic'' hc => ?_
      grind [CommitsNew, Commits]
  · exact open_sendAuth (P := fun ic' n => n = ic.made ∧ ∃ s, ic'.sae = some n ∧
      ic'.sessions n = some s ∧ s.committed = false ∧ s.confirmed = false) hsae

lemma commits_newstate (hstate : ic.state ≠ .auth)
    (hsend : wp (sendAuth host ic.bss 1) (fun _ ic' => Commits (P ic') ic ic')
      { ic with state := .auth })
    (hother : wp (sendAuth host ic.bss 2) (fun _ _ => True) { ic with state := .auth }) (mgt : Mgt) :
    wp (newstate host .auth mgt) (fun _ ic' => ic'.state = .auth → Commits (P ic') ic ic') ic := by
  have hnothing : ∀ {ic' : Com W D}, ic'.log = ic.log → Commits (P ic') ic ic' := fun hlog =>
    ⟨[], by rw [hlog, List.append_nil], fun _ hn => absurd hn (by simp)⟩
  have hcommits : wp (sendAuth host ic.bss 1) (fun _ ic' => ic'.state = .auth →
      Commits (P ic') ic ic') { ic with state := .auth } := wp_mono hsend fun _ _ h _ => h
  refine wp_bind (wp_get (wp_bind (wp_ite (fun h => absurd h (by decide)) fun _ => wp_pure (wp_bind
    (wp_modify (wp_bind (wp_get ?_)))))))
  cases hold : ic.state with
  | init => exact wp_pure fun _ => hnothing rfl
  | scan => exact hcommits
  | auth => exact absurd hold hstate
  | assoc => exact wp_ite (fun _ => hcommits) fun _ => wp_pure fun _ => hnothing rfl
  | run =>
    refine wp_ite (fun _ => ?_) fun _ => wp_ite (fun _ => hcommits) fun _ => wp_pure fun _ =>
      hnothing rfl
    -- it stays in RUN
    exact wp_seq hother fun _ ic' _ => wp_modify fun h => by cases h

/-- For every run, and every way into AUTH from a state other than AUTH: a commit that is sent on
the way starts a new attempt exactly if no session with the network is left. -/
theorem commit_fresh_iff (host : Host W D) (config : Config) (world : W) (calls : List Call) (mgt : Mgt) :
    ∃ ic ic', (performAll host calls).run (Com.start config world) = .ok ((), ic) ∧
      (newstate host .auth mgt).run ic = .ok ((), ic') ∧
      (ic.state ≠ .auth → ic'.state = .auth → ∃ new, ic'.log = ic.log ++ new ∧
        ∀ n, .commitSent n ∈ new →
          (Fresh host ic ic' n ↔ ¬∃ m s, Matches ic ic.bss m s)) := by
  obtain ⟨_, ic, hrun, hgood⟩ := good_performAll host (inv_start config world) calls
  obtain ⟨_, ic', hstep, hgood'⟩ : wp (newstate host .auth mgt) (fun _ => Good ic) ic :=
    good_newstate ⟨hgood.inv, Keeps.refl ic⟩ .auth mgt
  refine ⟨ic, ic', hrun, hstep, fun hstate hauth => ?_⟩
  have hinv : Good ic { ic with state := .auth } :=
    (Good.mk hgood.inv (Keeps.refl ic)).alike ⟨rfl, rfl, rfl, rfl, rfl, fun _ => rfl⟩
  have hother : wp (sendAuth host ic.bss 2) (fun _ _ => True) { ic with state := .auth } :=
    wp_mono (good_sendAuth hinv ic.bss 2) fun _ _ _ => trivial
  by_cases hlive : ∃ m s, Matches ic ic.bss m s
  · obtain ⟨m, s, hm⟩ := hlive
    obtain ⟨_, ic'', hstep', hcommits⟩ := commits_newstate (P := fun _ n => n = m) hstate
      (old_sendAuth hinv.inv ⟨hm.sae, hm.session, hm.peer, hm.own⟩ fun _ => rfl) hother mgt
    obtain ⟨-, rfl⟩ := Prod.mk.inj (Except.ok.inj (hstep.symm.trans hstep'))
    obtain ⟨new, hlog, hnew⟩ := hcommits hauth
    refine ⟨new, hlog, fun n hn => iff_of_false (fun hfresh => ?_) (not_not.mpr ⟨m, s, hm⟩)⟩
    -- the session was begun before
    obtain ⟨before, since, hbefore, -⟩ := (hgood.inv.story m s hm.session).told
    refine hfresh.unknown (.begun m s.own s.peer) ?_ (hnew n hn).symm
    rw [hbefore]
    simp
  · obtain ⟨_, ic'', hstep', hcommits⟩ := commits_newstate (P := fun ic' n => n = ic.made ∧ ∃ s,
      ic'.sae = some n ∧ ic'.sessions n = some s ∧ s.committed = false ∧ s.confirmed = false) hstate
      (new_sendAuth hinv.inv fun ⟨m, s, hm⟩ => hlive ⟨m, s, hm.sae, hm.session, hm.peer, hm.own⟩)
      hother mgt
    obtain ⟨-, rfl⟩ := Prod.mk.inj (Except.ok.inj (hstep.symm.trans hstep'))
    obtain ⟨new, hlog, hnew⟩ := hcommits hauth
    refine ⟨new, hlog, fun n hn => iff_of_true ?_ hlive⟩
    obtain ⟨hmade, s, hsae, hs, hcommitted, hconfirmed⟩ := hnew n hn
    refine ⟨fun e he => ?_, ⟨s, hsae, hs, hcommitted, hconfirmed⟩, answered_of_inv hgood'.inv n⟩
    have hknown := hgood.inv.known e he
    omega

/-- Frames of the network in a handshake. -/
def commitFrame : AuthFrame where
  addr1 := ownMac
  addr2 := peerMac
  addr3 := peerMac
  seq := 1
  status := 0
  body := List.replicate 98 0

def confirmFrame : AuthFrame := { commitFrame with seq := 2, body := List.replicate 34 0 }

/-- The station authenticates and associates. -/
def connecting : List Call :=
  joining ++ [.receive 0 commitFrame, .receive 0 confirmFrame, .newstate .run .none]

/-- The network deauthenticates the station in RUN. The commit that is sent then belongs to the
session of the first attempt, and the network's new commit is not looked at. -/
theorem reauthentication_reuses_session : ∃ ic ic' last,
    (performAll willing connecting).run (Com.start saeConfig ()) = .ok ((), ic) ∧
      (newstate willing .auth .deauth).run ic = .ok ((), ic') ∧
      (saeReceive willing 0 commitFrame).run ic' = .ok ((), last) ∧
      ic.state = .run ∧ ic'.state = .auth ∧ ic'.log = ic.log ++ [.commitSent 0] ∧
      last.log = ic'.log ∧ ¬Fresh willing ic ic' 0 := by
  obtain ⟨_, ic, hrun, hgood⟩ := good_performAll willing (inv_start saeConfig ()) connecting
  obtain ⟨_, ic', hstep, hgood'⟩ : wp (newstate willing .auth .deauth) _ ic :=
    good_newstate hgood .auth .deauth
  obtain ⟨_, last, hlast, -⟩ : wp (saeReceive willing 0 commitFrame) _ ic' :=
    good_saeReceive hgood' 0 commitFrame
  have heval : ∀ {β : Type} (f : Com Unit Unit → Com Unit Unit → Com Unit Unit → β) {v : β},
      (((performAll willing connecting).run (Com.start saeConfig ())).toOption.bind fun r =>
        ((newstate willing .auth .deauth).run r.2).toOption.bind fun r' =>
          ((saeReceive willing 0 commitFrame).run r'.2).toOption.map fun r'' => f r.2 r'.2 r''.2) =
        some v → f ic ic' last = v := by
    intro β f v hv
    simp only [hrun, hstep, hlast, Except.toOption, Option.bind_some, Option.map_some] at hv
    exact Option.some.inj hv
  have hstate : ic.state = .run := heval (fun ic _ _ => ic.state) (by decide +kernel)
  have hauth : ic'.state = .auth := heval (fun _ ic' _ => ic'.state) (by decide +kernel)
  have hsent : decide (ic'.log = ic.log ++ [.commitSent 0]) = true :=
    heval (fun ic ic' _ => decide (ic'.log = ic.log ++ [.commitSent 0])) (by decide +kernel)
  have hignored : decide (last.log = ic'.log) = true :=
    heval (fun _ ic' last => decide (last.log = ic'.log)) (by decide +kernel)
  have hbegun : decide (.begun 0 ownMac peerMac ∈ ic.log) = true :=
    heval (fun ic _ _ => decide (.begun 0 ownMac peerMac ∈ ic.log)) (by decide +kernel)
  refine ⟨ic, ic', last, hrun, hstep, hlast, hstate, hauth, of_decide_eq_true hsent,
    of_decide_eq_true hignored, fun hfresh => ?_⟩
  exact hfresh.unknown _ (of_decide_eq_true hbegun) rfl

end AirportAwdl.Net80211
