import AirportAwdl.Lib.Trace
import AirportAwdl.Net80211.Sae

/-!
# Keys only after a handshake

In every run of the SAE handlers keys are written, and the association is started, only at the end
of a handshake in one session that is still there (`keys_after_handshake`).
-/

namespace AirportAwdl.Net80211

open ByteBuffer CheckedMemory FallibleProgram Trace

variable {W D α : Type} {host : Host W D} {ic ic₀ : Com W D} {n ni : ℕ} {s : SaeSession D}
  {Q : α → Com W D → Prop}

lemma wp_ask {f : W → α × W}
    (h : Q (f ic.world).1 { ic with world := (f ic.world).2 }) : wp (ask f) Q ic := ⟨_, _, rfl, h⟩

lemma wp_record {e : SaeEvent} {Q : Unit → Com W D → Prop}
    (h : Q () { ic with log := ic.log ++ [e] }) : wp (record e) Q ic := ⟨_, _, rfl, h⟩

lemma wp_session {Q : SaeSession D → Com W D → Prop} (hs : ic.sessions n = some s) (h : Q s ic) :
    wp (session n) Q ic := by
  refine wp_bind (wp_get ?_)
  rw [hs]
  exact wp_pure h

lemma wp_assign {f : SaeSession D → SaeSession D} {Q : Unit → Com W D → Prop}
    (hs : ic.sessions n = some s)
    (h : Q () { ic with sessions := Function.update ic.sessions n (some (f s)) }) :
    wp (assign n f) Q ic := wp_bind (wp_session hs (wp_modify h))

lemma wp_crypto {f : RtwSae D → W → (α × RtwSae D) × W} (hs : ic.sessions n = some s)
    (h : ∀ a sae w, f s.crypto ic.world = ((a, sae), w) → Q a { ic with
      world := w
      sessions := Function.update ic.sessions n (some { s with crypto := sae }) }) :
    wp (crypto n f) Q ic :=
  wp_bind (wp_session hs (wp_bind (wp_ask (wp_bind (wp_assign hs (wp_pure (h _ _ _ rfl)))))))

lemma wp_inBounds {m : Checked α} {a : α} (hm : m = .ok a) (h : Q a ic) : wp (inBounds m) Q ic := by
  subst hm
  exact wp_pure h

/-- A handshake in the session `n` up to a frame from its peer: the peer's commit was accepted, then
the confirm was made, and the session was not freed. -/
def Handshake (log : List SaeEvent) (n : ℕ) (f : AuthFrame) : Prop :=
  ∃ before own peer start g middle rest,
    log = before ++ .begun n own peer ::
      (start ++ .commitReceived n g true :: (middle ++ .confirmMade n :: rest)) ∧
    .ended n ∉ start ∧ .ended n ∉ middle ∧ .ended n ∉ rest ∧
    f.addr2 = peer ∧ f.addr3 = peer ∧ f.addr1 = own

/-- Keys are written after a handshake whose confirm was accepted in AUTH, and the association is
started after that. -/
def Due (log : List SaeEvent) : SaeEvent → Prop
  | .keys n => ∃ before f, log = before ++ [.confirmReceived n f .auth true] ∧ Handshake before n f
  | .associate n => ∃ before f, log = before ++ [.confirmReceived n f .auth true, .keys n] ∧
      Handshake before n f
  | _ => True

/-- What the log tells about a session that is not freed. -/
def Told (log : List SaeEvent) (n : ℕ) (own peer : Mac) (committed confirmed : Bool) : Prop :=
  ∃ before since, log = before ++ .begun n own peer :: since ∧ .ended n ∉ since ∧
    (committed = true → ∃ start g rest, since = start ++ .commitReceived n g true :: rest ∧
      (confirmed = true → .confirmMade n ∈ rest))

/-- A session that is not freed. -/
structure Story (log : List SaeEvent) (n : ℕ) (s : SaeSession D) : Prop where
  told : Told log n s.own s.peer s.committed s.confirmed
  order : s.confirmed = true → s.committed = true
  token : s.token.length = 256
  tokenLength : s.tokenLength ≤ 256
  requests : s.tokenRequests = UInt32.ofNat (log.count (.tokenRequest n))

def SaeEvent.session : SaeEvent → ℕ
  | .begun n _ _ | .ended n | .commitSent n | .tokenRequest n | .resend n | .commitReceived n _ _
  | .confirmMade n | .confirmReceived n _ _ _ | .keys n | .associate n => n

/-- One session at most is not freed, and the log is in order. -/
structure Inv (ic : Com W D) : Prop where
  heap : ∀ n, ic.sae = some n ↔ ic.sessions n ≠ none
  made : ∀ n, ic.sae = some n → n < ic.made
  known : ∀ e ∈ ic.log, e.session < ic.made
  story : ∀ n s, ic.sessions n = some s → Story ic.log n s
  due : Justified Due ic.log
  resends : ∀ n, ic.log.count (.tokenRequest n) < 2 ^ 32 →
    ic.log.count (.resend n) ≤ 3 ∧ ic.log.count (.resend n) ≤ ic.log.count (.tokenRequest n)

/-- Between two states: the log grew, and the keys are the same unless it says otherwise. -/
def Keeps (ic₀ ic : Com W D) : Prop :=
  ∃ new, ic.log = ic₀.log ++ new ∧ ((∀ n, .keys n ∉ new) →
    ic.psk = ic₀.psk ∧ ∀ ni, (ic.nodes ni).pmkid = (ic₀.nodes ni).pmkid)

lemma Keeps.refl (ic : Com W D) : Keeps ic ic := ⟨[], by simp, fun _ => ⟨rfl, fun _ => rfl⟩⟩

/-- A good state behind `ic₀`. -/
structure Good (ic₀ ic : Com W D) : Prop where
  inv : Inv ic
  keeps : Keeps ic₀ ic

/-- The same sessions, log and keys. -/
structure Alike (ic ic' : Com W D) : Prop where
  sae : ic'.sae = ic.sae
  sessions : ic'.sessions = ic.sessions
  made : ic'.made = ic.made
  log : ic'.log = ic.log
  psk : ic'.psk = ic.psk
  pmkid : ∀ ni, (ic'.nodes ni).pmkid = (ic.nodes ni).pmkid

lemma Good.alike (h : Good ic₀ ic) {ic' : Com W D} (ha : Alike ic ic') : Good ic₀ ic' := by
  obtain ⟨⟨heap, made, known, story, due, resends⟩, new, hnew, hkeys⟩ := h
  rw [← ha.sae, ← ha.sessions] at heap
  rw [← ha.sae, ← ha.made] at made
  rw [← ha.log, ← ha.made] at known
  rw [← ha.sessions, ← ha.log] at story
  rw [← ha.log] at due resends hnew
  refine ⟨⟨heap, made, known, story, due, resends⟩, new, hnew, fun hnone => ?_⟩
  obtain ⟨hpsk, hpmkid⟩ := hkeys hnone
  exact ⟨ha.psk.trans hpsk, fun ni => (ha.pmkid ni).trans (hpmkid ni)⟩

section
variable {log : List SaeEvent} {own peer : Mac} {committed confirmed : Bool}

lemma Told.append (h : Told log n own peer committed confirmed) {e : SaeEvent}
    (hended : e ≠ .ended n) : Told (log ++ [e]) n own peer committed confirmed := by
  obtain ⟨before, since, hlog, hsince, hcommitted⟩ := h
  refine ⟨before, since ++ [e], ?_, ?_, ?_⟩
  · rw [hlog, List.append_assoc, List.cons_append]
  · grind
  grind

lemma Told.commit (h : Told log n own peer committed confirmed) (f : AuthFrame) :
    Told (log ++ [.commitReceived n f true]) n own peer true false := by
  obtain ⟨before, since, hlog, hsince, -⟩ := h
  refine ⟨before, since ++ [.commitReceived n f true], ?_, by simpa using hsince, fun _ =>
    ⟨since, f, [], rfl, fun hc => absurd hc Bool.false_ne_true⟩⟩
  rw [hlog, List.append_assoc, List.cons_append]

lemma Told.confirm (h : Told log n own peer committed confirmed) (hc : committed = true) :
    Told (log ++ [.confirmMade n]) n own peer committed true := by
  obtain ⟨before, since, hlog, hsince, hcommitted⟩ := h
  obtain ⟨start, g, rest, hs, -⟩ := hcommitted hc
  refine ⟨before, since ++ [.confirmMade n], ?_, by simpa using hsince, fun _ =>
    ⟨start, g, rest ++ [.confirmMade n], ?_, fun _ => by simp⟩⟩
  · rw [hlog, List.append_assoc, List.cons_append]
  · rw [hs, List.append_assoc, List.cons_append]

lemma Told.handshake (h : Told log n own peer true true) {f : AuthFrame} (hpeer : f.addr2 = peer)
    (hbss : f.addr3 = peer) (hown : f.addr1 = own) : Handshake log n f := by
  obtain ⟨before, since, hlog, hsince, hcommitted⟩ := h
  obtain ⟨start, g, rest, hs, hconfirmed⟩ := hcommitted rfl
  obtain ⟨middle, rest', rfl⟩ := List.append_of_mem (hconfirmed rfl)
  subst hs
  simp only [List.mem_append, List.mem_cons, not_or] at hsince
  obtain ⟨hstart, -, hmiddle, -, hrest⟩ := hsince
  exact ⟨before, own, peer, start, g, middle, rest', hlog, hstart, hmiddle, hrest, hpeer, hbss, hown⟩

lemma Story.append (h : Story log n s) {e : SaeEvent} (hended : e ≠ .ended n)
    (hrequest : e ≠ .tokenRequest n) : Story (log ++ [e]) n s := by
  refine ⟨h.told.append hended, h.order, h.token, h.tokenLength, ?_⟩
  rw [List.count_append, List.count_singleton, if_neg (by simpa using hrequest), Nat.add_zero]
  exact h.requests

end

/-- The log of a good state grows by an event that is due, and the live session follows. -/
lemma Good.step (h : Good ic₀ ic) {e : SaeEvent} (hdue : Due ic.log e) (hknown : e.session < ic.made)
    {sessions : ℕ → Option (SaeSession D)} (hheap : ∀ m, sessions m ≠ none ↔ ic.sessions m ≠ none)
    (hstory : ∀ m t, sessions m = some t → Story (ic.log ++ [e]) m t)
    (hresends : ∀ m, (ic.log ++ [e]).count (.tokenRequest m) < 2 ^ 32 →
      (ic.log ++ [e]).count (.resend m) ≤ 3 ∧
        (ic.log ++ [e]).count (.resend m) ≤ (ic.log ++ [e]).count (.tokenRequest m)) :
    Good ic₀ { ic with log := ic.log ++ [e], sessions := sessions } := by
  obtain ⟨⟨heap, made, known, -, due, -⟩, new, hnew, hkeys⟩ := h
  refine ⟨⟨fun m => (heap m).trans (hheap m).symm, made, ?_, hstory, due.append hdue, hresends⟩,
    new ++ [e], ?_, fun hnone => hkeys fun m hm => hnone m (List.mem_append_left _ hm)⟩
  · grind
  · rw [← List.append_assoc, ← hnew]

lemma Good.record (h : Good ic₀ ic) {e : SaeEvent} (hdue : Due ic.log e)
    (hknown : e.session < ic.made) (hended : ∀ n, e ≠ .ended n) (hrequest : ∀ n, e ≠ .tokenRequest n)
    (hresend : ∀ n, e ≠ .resend n) : Good ic₀ { ic with log := ic.log ++ [e] } := by
  refine h.step hdue hknown (fun _ => Iff.rfl)
    (fun m t ht => (h.inv.story m t ht).append (hended m) (hrequest m)) fun m => ?_
  have hcounts := h.inv.resends m
  grind

lemma Good.assign (h : Good ic₀ ic) (hs : ic.sessions n = some s) {s' : SaeSession D}
    (hstory : Story ic.log n s') :
    Good ic₀ { ic with sessions := Function.update ic.sessions n (some s') } := by
  obtain ⟨⟨heap, made, known, story, due, resends⟩, keeps⟩ := h
  refine ⟨⟨fun m => ?_, made, known, fun m t ht => ?_, due, resends⟩, keeps⟩
  · grind
  grind

lemma Inv.live (h : Inv ic) (hsae : ic.sae = some n) : ∃ s, ic.sessions n = some s :=
  Option.ne_none_iff_exists'.mp ((h.heap n).mp hsae)

lemma wp_onlyIf {c : Bool} {m : Net W D Unit} {Q : Unit → Com W D → Prop} (hm : wp m Q ic)
    (h : Q () ic) : wp (onlyIf c m) Q ic := wp_ite (fun _ => hm) fun _ => wp_pure h

lemma good_ask (h : Good ic₀ ic) (f : W → α × W) : wp (ask f) (fun _ => Good ic₀) ic :=
  wp_ask (h.alike ⟨rfl, rfl, rfl, rfl, rfl, fun _ => rfl⟩)

lemma good_saeFree (h : Good ic₀ ic) :
    wp saeFree (fun _ ic' => Good ic₀ { ic' with sae := none }) ic := by
  refine wp_bind (wp_get ?_)
  cases hsae : ic.sae with
  | none => exact wp_pure (h.alike ⟨hsae.symm, rfl, rfl, rfl, rfl, fun _ => rfl⟩)
  | some n =>
    obtain ⟨s, hs⟩ := h.inv.live hsae
    refine wp_bind (wp_session hs (wp_bind (wp_record (wp_modify ?_))))
    obtain ⟨⟨heap, made, known, story, due, resends⟩, new, hnew, hkeys⟩ := h
    -- no session is left
    have hfree : ∀ m, Function.update ic.sessions n none m = none := by
      grind
    refine ⟨⟨fun m => ?_, fun m hm => absurd hm.symm (Option.some_ne_none m), ?_, fun m t ht => ?_,
      due.append trivial, fun m => ?_⟩, new ++ [.ended n], ?_, fun hnone => hkeys fun m hm =>
        hnone m (List.mem_append_left _ hm)⟩
    · exact ⟨fun hm => absurd hm.symm (Option.some_ne_none m), fun hm => absurd (hfree m) hm⟩
    · intro e he
      rcases List.mem_append.mp he with hold | hlast
      · exact known e hold
      · rw [List.mem_singleton.mp hlast]
        exact made n hsae
    · exact absurd ((hfree m).symm.trans ht).symm (Option.some_ne_none t)
    · simpa [List.count_append] using resends m
    · rw [← List.append_assoc, ← hnew]

lemma good_saeClear (h : Good ic₀ ic) (credentials : Bool) :
    wp (saeClear credentials) (fun _ => Good ic₀) ic := by
  refine wp_bind (wp_mono (good_saeFree h) fun _ ic' hic' => wp_bind (wp_modify ?_))
  refine wp_ite (fun _ => wp_modify ?_) fun _ => wp_pure hic'
  exact hic'.alike ⟨rfl, rfl, rfl, rfl, rfl, fun _ => rfl⟩

lemma good_saeLeave (h : Good ic₀ ic) (ni : ℕ) : wp (saeLeave ni) (fun _ => Good ic₀) ic := by
  refine wp_bind (wp_get ?_)
  cases hsae : ic.sae with
  | none => exact wp_pure h
  | some n =>
    obtain ⟨s, hs⟩ := h.inv.live hsae
    exact wp_bind (wp_session hs (wp_ite (fun _ => good_saeClear h false) fun _ => wp_pure h))

lemma Good.begin (h : Good ic₀ ic) (hsae : ic.sae = none) (hnew : s.committed = false)
    (hconfirmed : s.confirmed = false) (htoken : s.token.length = 256) (hlength : s.tokenLength = 0)
    (hrequests : s.tokenRequests = 0) {ic' : Com W D} (hsae' : ic'.sae = some ic.made)
    (hmade' : ic'.made = ic.made + 1)
    (hsessions' : ic'.sessions = Function.update ic.sessions ic.made (some s))
    (hlog' : ic'.log = ic.log ++ [.begun ic.made s.own s.peer]) (hpsk' : ic'.psk = ic.psk)
    (hnodes' : ic'.nodes = ic.nodes) : Good ic₀ ic' := by
  obtain ⟨⟨heap, made, known, story, due, resends⟩, new, hnewlog, hkeys⟩ := h
  have hunknown : ∀ {e : SaeEvent}, e.session = ic.made → e ∉ ic.log := fun he hmem =>
    absurd (known _ hmem) (by omega)
  refine ⟨⟨fun m => ?_, fun m hm => ?_, ?_, fun m t ht => ?_, ?_, fun m => ?_⟩,
    new ++ [.begun ic.made s.own s.peer], ?_, fun hnone => ?_⟩
  · rw [hsae', hsessions']
    grind
  · grind
  · intro e he
    rw [hlog'] at he
    rw [hmade']
    rcases List.mem_append.mp he with hold | hlast
    · exact Nat.lt_succ_of_lt (known e hold)
    · rw [List.mem_singleton.mp hlast]
      exact Nat.lt_succ_self ic.made
  · rw [hsessions'] at ht
    by_cases hm : m = ic.made
    · subst hm
      rw [Function.update_self] at ht
      obtain rfl := Option.some.inj ht
      rw [hlog']
      refine ⟨⟨ic.log, [], rfl, by simp, fun hc => ?_⟩, fun hc => ?_, htoken, by omega, ?_⟩
      · rw [hnew] at hc
        cases hc
      · rw [hconfirmed] at hc
        cases hc
      · rw [hrequests, List.count_append, List.count_eq_zero_of_not_mem (hunknown rfl)]
        rfl
    grind
  · rw [hlog']
    exact due.append trivial
  · rw [hlog']
    simpa [List.count_append] using resends m
  · rw [hlog', hnewlog, List.append_assoc]
  · rw [hpsk', hnodes']
    exact hkeys fun m hm => hnone m (List.mem_append_left _ hm)

lemma good_saeBegin (h : Good ic₀ ic) (hsae : ic.sae = none) (ni : ℕ) :
    wp (saeBegin host ni) (fun r ic' => Good ic₀ ic' ∧ ∀ n, r = some n → ic'.sae = some n) ic := by
  have hnone : ∀ {ic' : Com W D}, Good ic₀ ic' →
      Good ic₀ ic' ∧ ∀ n, (none : Option ℕ) = some n → ic'.sae = some n :=
    fun h => ⟨h, fun n hn => absurd hn.symm (Option.some_ne_none n)⟩
  refine wp_bind (wp_ask (wp_ite (fun _ => wp_pure (hnone ?_)) fun _ => wp_bind (wp_get
    (wp_bind (wp_ask ?_)))))
  · exact h.alike ⟨rfl, rfl, rfl, rfl, rfl, fun _ => rfl⟩
  generalize rtwSaeBegin host _ _ _ _ _ _ = answer
  cases answer.1 with
  | none => exact wp_pure (hnone (h.alike ⟨rfl, rfl, rfl, rfl, rfl, fun _ => rfl⟩))
  | some sae =>
    refine wp_bind (wp_get (wp_bind (wp_record (wp_bind (wp_modify (wp_pure ⟨?_, ?_⟩))))))
    · exact h.begin (s := { crypto := sae, peer := _, own := _, h2e := (ic.nodes ni).saeH2e }) hsae
        rfl rfl List.length_replicate rfl rfl rfl rfl rfl rfl rfl rfl
    · intro n hn
      exact hn

/-- What a store to a session leaves alone. -/
structure Same (ic ic' : Com W D) : Prop where
  log : ic'.log = ic.log
  made : ic'.made = ic.made
  state : ic'.state = ic.state

lemma good_assign (h : Good ic₀ ic) (hs : ic.sessions n = some s) {f : SaeSession D → SaeSession D}
    (hstory : Story ic.log n (f s)) :
    wp (assign n f) (fun _ ic' => Good ic₀ ic' ∧ ic'.sessions n = some (f s) ∧ Same ic ic') ic :=
  wp_assign hs ⟨h.assign hs hstory, Function.update_self n _ _, rfl, rfl, rfl⟩

lemma good_crypto (h : Good ic₀ ic) (hs : ic.sessions n = some s)
    (f : RtwSae D → W → (α × RtwSae D) × W) :
    wp (crypto n f) (fun a ic' => ∃ sae w, f s.crypto ic.world = ((a, sae), w) ∧ Good ic₀ ic' ∧
      ic'.sessions n = some { s with crypto := sae } ∧ Same ic ic') ic := by
  refine wp_crypto hs fun a sae w hanswer =>
    ⟨sae, w, hanswer, ?_, Function.update_self n _ _, rfl, rfl, rfl⟩
  have hworld : Good ic₀ { ic with world := w } := h.alike ⟨rfl, rfl, rfl, rfl, rfl, fun _ => rfl⟩
  obtain ⟨told, order, token, tokenLength, requests⟩ := h.inv.story n s hs
  exact hworld.assign hs ⟨told, order, token, tokenLength, requests⟩

lemma Inv.lt (h : Inv ic) (hs : ic.sessions n = some s) : n < ic.made :=
  h.made n ((h.heap n).mpr (hs ▸ Option.some_ne_none s))

lemma good_authBody (h : Good ic₀ ic) (hs : ic.sessions n = some s) (seq : UInt16) :
    wp (authBody host n seq) (fun _ ic' => Good ic₀ ic' ∧ ∃ s', ic'.sessions n = some s') ic := by
  have hstory := h.inv.story n s hs
  refine wp_bind (wp_session hs (wp_ite (fun _ => ?_) fun _ => wp_ite (fun hseq => ?_) fun _ => ?_))
  · -- the commit, with the token that is stored
    have htoken := hstory.token
    have hlength := hstory.tokenLength
    refine wp_bind (wp_inBounds (Span.readSlice_ok (Span.inside_all _) (by
      simp only [Span.all]
      omega)) ?_)
    grind [wp_mono, good_crypto]
  · refine wp_ite (fun _ => ?_) fun _ => wp_pure ⟨h, s, hs⟩
    refine wp_seq (good_crypto h hs _) fun out ic₁ hc => ?_
    obtain ⟨sae, -, -, h₁, hs₁, -⟩ := hc
    cases out with
    | none => exact wp_pure ⟨h₁, _, hs₁⟩
    | some out =>
      obtain ⟨told, order, token, tokenLength, requests⟩ := h₁.inv.story n _ hs₁
      refine wp_seq (good_assign h₁ hs₁ ⟨told, order, token, tokenLength, requests⟩)
        fun _ ic₂ hc => ?_
      obtain ⟨h₂, hs₂, hsame⟩ := hc
      refine wp_ite (fun _ => wp_pure ⟨h₂, _, hs₂⟩) fun _ => ?_
      -- 34 bytes: the confirm is made
      refine wp_bind (wp_record ?_)
      have h₃ := h₂.record (e := .confirmMade n) trivial (h₂.inv.lt hs₂) (by simp) (by simp) (by simp)
      rw [← hsame.log] at told requests
      refine wp_seq (good_assign h₃ hs₂ ⟨?_, fun _ => hseq.2, token, tokenLength, ?_⟩) fun _ ic₄ hc => ?_
      · exact told.confirm hseq.2
      · rw [List.count_append, List.count_singleton]
        exact requests
      · obtain ⟨h₄, hs₄, -⟩ := hc
        exact wp_bind (wp_session hs₄ (wp_pure ⟨h₄, _, hs₄⟩))
  · exact wp_pure ⟨h, s, hs⟩

lemma good_authFrame (h : Good ic₀ ic) (hs : ic.sessions n = some s) (seq : UInt16)
    (body : Option Bytes) : wp (authFrame host n seq body) (fun _ => Good ic₀) ic := by
  cases body with
  | none => exact wp_pure h
  | some body =>
    refine wp_ite (fun _ => wp_pure h) fun _ => wp_bind (wp_ask ?_)
    have h₁ : Good ic₀ { ic with world := (host.getmgmt (body.length + 6) ic.world).2 } :=
      h.alike ⟨rfl, rfl, rfl, rfl, rfl, fun _ => rfl⟩
    refine wp_ite (fun _ => wp_pure h₁) fun _ => wp_bind (wp_session hs ?_)
    refine wp_bind (wp_onlyIf (wp_record (wp_pure ?_)) (wp_pure h₁))
    exact h₁.record trivial (h₁.inv.lt hs) (by simp) (by simp) (by simp)

/-- Sending a commit or a confirm. -/
lemma good_saeAuth (h : Good ic₀ ic) (ni : ℕ) (seq : UInt16) :
    wp (saeAuth host ni seq) (fun _ => Good ic₀) ic := by
  have hframe : ∀ {n : ℕ} {ic' : Com W D}, Good ic₀ ic' → ic'.sae = some n →
      wp (authBody host n seq >>= authFrame host n seq) (fun _ => Good ic₀) ic' := by
    intro n ic' h' hsae
    obtain ⟨s, hs⟩ := h'.inv.live hsae
    refine wp_seq (good_authBody h' hs seq) fun body ic'' hc => ?_
    obtain ⟨h'', s', hs'⟩ := hc
    exact good_authFrame h'' hs' seq body
  refine wp_bind (wp_get (wp_ite (fun _ => wp_pure h) fun _ => ?_))
  refine wp_seq (good_saeLeave h ni) fun _ ic₁ h₁ => wp_bind (wp_get ?_)
  cases hsae : ic₁.sae with
  | some n => exact hframe h₁ hsae
  | none =>
    refine wp_ite (fun _ => wp_pure h₁) fun _ => ?_
    refine wp_seq (good_saeBegin h₁ hsae ni) fun r ic₂ hc => ?_
    obtain ⟨h₂, hsae₂⟩ := hc
    cases r with
    | none => exact wp_pure h₂
    | some n => exact hframe h₂ (hsae₂ n rfl)

lemma good_mgmtOutput (h : Good ic₀ ic) (timer : ℕ) :
    wp (mgmtOutput host timer) (fun _ => Good ic₀) ic := by
  refine wp_seq (good_ask h _) fun _ ic₁ h₁ => wp_ite (fun _ => wp_modify ?_) fun _ => wp_pure h₁
  exact h₁.alike ⟨rfl, rfl, rfl, rfl, rfl, fun _ => rfl⟩

lemma good_sendAuth (h : Good ic₀ ic) (ni : ℕ) (seq : UInt16) :
    wp (sendAuth host ni seq) (fun _ => Good ic₀) ic := by
  refine wp_bind (wp_get (wp_ite (fun _ => ?_) fun _ => ?_))
  · refine wp_seq (good_saeAuth h ni seq) fun m ic₁ h₁ => ?_
    cases m with
    | none => exact wp_pure h₁
    | some m => exact good_mgmtOutput h₁ transWait
  · exact wp_seq (good_ask h _) fun _ ic₁ h₁ =>
      wp_ite (fun _ => good_mgmtOutput h₁ transWait) fun _ => wp_pure h₁

lemma good_sendOther (h : Good ic₀ ic) (timer : ℕ) :
    wp (sendOther host timer) (fun _ => Good ic₀) ic :=
  wp_seq (good_ask h _) fun _ _ h₁ => wp_ite (fun _ => good_mgmtOutput h₁ timer) fun _ => wp_pure h₁

lemma pmkid_update {nodes : ℕ → Node} {node : Node} (h : node.pmkid = (nodes ni).pmkid) (k : ℕ) :
    (Function.update nodes ni node k).pmkid = (nodes k).pmkid := by
  grind

/-- A change of the interface's state. -/
lemma good_newstate (h : Good ic₀ ic) (nstate : IcState) (mgt : Mgt) :
    wp (newstate host nstate mgt) (fun _ => Good ic₀) ic := by
  refine wp_bind (wp_get (wp_seq (P := fun _ => Good ic₀) (wp_onlyIf (good_saeClear h false) h)
    fun _ ic₁ h₁ => wp_bind (wp_modify ?_)))
  have h₂ : Good ic₀ { ic₁ with state := nstate } :=
    h₁.alike ⟨rfl, rfl, rfl, rfl, rfl, fun _ => rfl⟩
  cases nstate with
  | init =>
    refine wp_seq (P := fun _ => Good ic₀) (wp_onlyIf (good_sendOther h₂ 0) h₂) fun _ ic₃ h₃ => ?_
    refine wp_seq (P := fun _ => Good ic₀) (wp_onlyIf (good_sendOther h₃ 0) h₃) fun _ ic₄ h₄ => ?_
    refine wp_ite (fun _ => wp_modify ?_) fun _ => wp_pure h₄
    exact h₄.alike ⟨rfl, rfl, rfl, rfl, rfl, fun _ => rfl⟩
  | scan => exact wp_modify (h₂.alike ⟨rfl, rfl, rfl, rfl, rfl, pmkid_update rfl⟩)
  | auth =>
    refine wp_bind (wp_get ?_)
    cases ic.state with
    | init => exact wp_pure h₂
    | scan => exact good_sendAuth h₂ _ 1
    | auth | assoc => exact wp_ite (fun _ => good_sendAuth h₂ _ 1) fun _ => wp_pure h₂
    | run =>
      refine wp_ite (fun _ => ?_) fun _ =>
        wp_ite (fun _ => good_sendAuth h₂ _ 1) fun _ => wp_pure h₂
      refine wp_seq (good_sendAuth h₂ _ 2) fun _ ic₃ h₃ => wp_modify ?_
      exact h₃.alike ⟨rfl, rfl, rfl, rfl, rfl, fun _ => rfl⟩
  | assoc => exact wp_ite (fun _ => good_sendOther h₂ transWait) fun _ => wp_pure h₂
  | run =>
    refine wp_ite (fun _ => wp_modify ?_) fun _ => wp_pure h₂
    exact h₂.alike ⟨rfl, rfl, rfl, rfl, rfl, fun _ => rfl⟩

lemma good_newState (h : Good ic₀ ic) (nstate : IcState) (mgt : Mgt) :
    wp (newState host nstate mgt) (fun _ => Good ic₀) ic :=
  wp_seq (good_ask h _) fun _ _ h₁ =>
    wp_ite (fun _ => good_newstate h₁ nstate mgt) fun _ => wp_pure h₁

lemma requestedToken_ok (h2e : Bool) {body : Bytes} (hlength : 3 ≤ body.length) :
    ∃ token, requestedToken h2e body = .ok token ∧ ∀ t, token = some t → t.length ≤ 256 := by
  have hinside : (Span.mk 2 (body.length - 2)).Inside body := by
    simp only [Span.Inside]
    omega
  have hadvance : (Span.all body).advance 2 = .ok ⟨2, body.length - 2⟩ := by
    rw [Span.advance_ok (by simp only [Span.all]; omega)]
    rfl
  have hnone : ∀ {m : Checked (Option Bytes)}, m = .ok none →
      ∃ token, m = .ok token ∧ ∀ t, token = some t → t.length ≤ 256 :=
    fun h => ⟨none, h, fun t ht => absurd ht.symm (Option.some_ne_none t)⟩
  unfold requestedToken
  rw [hadvance, ok_bind]
  dsimp only
  cases h2e with
  | false =>
    rw [if_neg Bool.false_ne_true]
    split
    · exact hnone rfl
    · rename_i hsize
      rw [Span.readSlice_ok hinside (by simp), ok_bind]
      refine ⟨_, rfl, fun t ht => ?_⟩
      grind [slice]
  | true =>
    rw [if_pos rfl]
    split
    · exact hnone rfl
    · rename_i hthree
      have hread : ∀ {i : ℕ}, i < 3 → (Span.mk 2 (body.length - 2)).read body i =
          .ok (byteAt ((Span.mk 2 (body.length - 2)).view body) i) := fun hi =>
        Span.read_ok hinside (by dsimp only; omega)
      rw [hread (by decide), ok_bind, hread (by decide), ok_bind, hread (by decide), ok_bind]
      split
      · exact hnone rfl
      split
      · exact hnone rfl
      rename_i hbounds hshort
      have hfits : 3 ≤ (Span.mk 2 (body.length - 2)).length := by
        dsimp only
        omega
      rw [Span.advance_ok hfits, ok_bind,
        Span.readSlice_ok ((Span.within_advance hfits).inside hinside) (by dsimp only; omega), ok_bind]
      refine ⟨_, rfl, fun t ht => ?_⟩
      grind [slice]

lemma Good.request (h : Good ic₀ ic) (hs : ic.sessions n = some s) :
    Good ic₀ { ic with
      log := ic.log ++ [.tokenRequest n]
      sessions := Function.update ic.sessions n
        (some { s with tokenRequests := s.tokenRequests + 1 }) } := by
  refine h.step (e := .tokenRequest n) trivial (h.inv.lt hs) (fun m => ?_) (fun m t ht => ?_)
    fun m => ?_
  · grind
  · by_cases hm : m = n
    · subst hm
      rw [Function.update_self] at ht
      obtain rfl := Option.some.inj ht
      obtain ⟨told, order, token, tokenLength, requests⟩ := h.inv.story m s hs
      refine ⟨told.append (by simp), order, token, tokenLength, ?_⟩
      simp_all
    · rw [Function.update_of_ne hm] at ht
      exact (h.inv.story m t ht).append (by simp) (by simpa using Ne.symm hm)
  · have hcounts := h.inv.resends m
    grind

lemma Good.resend (h : Good ic₀ ic) (hs : ic.sessions n = some s) (hfew : s.tokenRequests ≤ 3)
    (hroom : ic.log.count (.tokenRequest n) < 2 ^ 32 →
      ic.log.count (.resend n) < ic.log.count (.tokenRequest n)) :
    Good ic₀ { ic with log := ic.log ++ [.resend n] } := by
  refine h.step (e := .resend n) trivial (h.inv.lt hs) (fun _ => Iff.rfl)
    (fun m t ht => (h.inv.story m t ht).append (by simp) (by simp)) fun m => ?_
  have hcounts := h.inv.resends m
  have hrequests := (h.inv.story n s hs).requests
  by_cases hm : m = n
  · subst hm
    simp only [List.count_append, List.count_singleton, reduceCtorEq, beq_iff_eq, if_false,
      Nat.add_zero, if_true]
    intro hlt
    have hthree : ic.log.count (.tokenRequest m) ≤ 3 := by
      have hle := UInt32.le_iff_toNat_le.mp hfew
      rw [hrequests, UInt32.toNat_ofNat_of_lt' hlt] at hle
      exact hle
    omega
  grind

lemma good_receiveTokenRequest (h : Good ic₀ ic) (hs : ic.sessions n = some s) (ni : ℕ)
    (body : Bytes) : wp (receiveTokenRequest host ni n body) (fun _ => Good ic₀) ic := by
  refine wp_ite (fun _ => wp_pure h) fun hlength => ?_
  refine wp_bind (wp_inBounds (Span.readSlice_ok (Span.inside_all _) (by
    simp only [Span.all]
    omega)) (wp_ite (fun _ => wp_pure h) fun _ => ?_))
  -- the request is counted
  refine wp_bind (wp_record (wp_bind (wp_assign hs ?_)))
  have h₁ := h.request hs
  have hroom : ∀ {ic₁ : Com W D}, ic₁.log = ic.log ++ [.tokenRequest n] →
      ic₁.log.count (.tokenRequest n) < 2 ^ 32 →
        ic₁.log.count (.resend n) < ic₁.log.count (.tokenRequest n) := by
    intro ic₁ hlog
    have hcounts := h.inv.resends n
    grind
  refine wp_bind (wp_session (Function.update_self n _ _) (wp_ite (fun _ => wp_pure h₁) fun hfew => ?_))
  obtain ⟨token, htoken, hsize⟩ := @requestedToken_ok s.h2e body (by omega)
  refine wp_bind (wp_inBounds htoken ?_)
  cases token with
  | none => exact wp_pure h₁
  | some token =>
    obtain ⟨told, order, hlength, -, requests⟩ := h₁.inv.story n _ (Function.update_self n _ _)
    have hfits : 0 + token.length ≤ s.token.length := by
      grind
    refine wp_bind (wp_inBounds (storeList_ok token hfits) ?_)
    refine wp_seq (good_assign h₁ (Function.update_self n _ _)
      ⟨told, order, (length_overwrite token s.token 0).trans hlength, hsize token rfl, requests⟩)
      fun _ ic₂ hc => ?_
    obtain ⟨h₂, hs₂, hsame⟩ := hc
    refine wp_bind (wp_record ?_)
    exact good_sendAuth (h₂.resend hs₂ (UInt32.not_lt.mp hfew) (hroom hsame.log)) ni 1

lemma good_answerCommit {error : UInt32} {f : AuthFrame} {ic₁ : Com W D} (h₁ : Inv ic₁)
    (hs₁ : ic₁.sessions n = some s) (hnot : s.committed = false)
    (h : Good ic₀ { ic₁ with log := ic₁.log ++ [.commitReceived n f (decide (error = 0))] }) (ni : ℕ) :
    wp (answerCommit host ni n error) (fun _ => Good ic₀)
      { ic₁ with log := ic₁.log ++ [.commitReceived n f (decide (error = 0))] } := by
  refine wp_ite (fun _ => wp_modify ?_) fun hok => ?_
  · exact h.alike ⟨rfl, rfl, rfl, rfl, rfl, fun _ => rfl⟩
  · rw [not_not] at hok
    obtain ⟨told, order, token, tokenLength, requests⟩ := h₁.story n s hs₁
    have hunconfirmed : s.confirmed = false := by
      grind
    refine wp_seq (good_assign h hs₁ ⟨?_, fun _ => rfl, token, tokenLength, ?_⟩) fun _ ic₃ hc => ?_
    · show Told _ n s.own s.peer true s.confirmed
      rw [hunconfirmed, hok, decide_eq_true rfl]
      exact told.commit f
    · grind
    · obtain ⟨h₃, -⟩ := hc
      refine wp_bind (wp_modify (good_sendAuth ?_ ni 2))
      exact h₃.alike ⟨rfl, rfl, rfl, rfl, rfl, fun _ => rfl⟩

/-- A commit that was received. -/
lemma good_receiveCommit (h : Good ic₀ ic) (hs : ic.sessions n = some s) (ni : ℕ) (f : AuthFrame) :
    wp (receiveCommit host ni n f) (fun _ => Good ic₀) ic := by
  refine wp_bind (wp_session hs (wp_ite (fun hnot => ?_) fun _ => good_sendAuth h ni 2))
  refine wp_seq (good_crypto h hs _) fun error ic₁ hc => ?_
  obtain ⟨sae, -, -, h₁, hs₁, -⟩ := hc
  refine wp_bind (wp_record (good_answerCommit h₁.inv hs₁ (by simpa using hnot) ?_ ni))
  exact h₁.record trivial (h₁.inv.lt hs₁) (by simp) (by simp) (by simp)

lemma rtwSaeRxConfirm_accepted {body : Bytes} {sae sae' : RtwSae D} {w w' : W}
    (h : rtwSaeRxConfirm host body sae w = ((true, sae'), w')) : sae'.state = .accepted := by
  grind [rtwSaeRxConfirm]

lemma good_rtwSaeKeys (h : Good ic₀ ic) (hs : ic.sessions n = some s)
    (haccepted : s.crypto.state = .accepted) (hdue : Due ic.log (.keys n)) (ni : ℕ) :
    wp (rtwSaeKeys host n ni) (fun _ ic' => Good ic₀ ic' ∧ ic'.sessions = ic.sessions ∧
      ic'.log = ic.log ++ [.keys n]) ic := by
  refine wp_bind (wp_session hs (wp_ite (fun hnot => absurd haccepted hnot) fun _ =>
    wp_bind (wp_record (wp_modify ⟨?_, rfl, rfl⟩))))
  have hinv := (h.record (e := .keys n) hdue (h.inv.lt hs) (by simp) (by simp) (by simp)).inv
  obtain ⟨old, hold, -⟩ := h.keeps
  refine ⟨⟨hinv.heap, hinv.made, hinv.known, hinv.story, hinv.due, hinv.resends⟩, old ++ [.keys n], ?_,
    fun hnone => absurd (by simp) (hnone n)⟩
  show ic.log ++ [.keys n] = _
  rw [hold, List.append_assoc]

/-- A confirm that was received. -/
lemma good_receiveConfirm (h : Good ic₀ ic) (hs : ic.sessions n = some s) (ni : ℕ) {f : AuthFrame}
    (hf : addressed ic s f) (hconfirmed : s.confirmed = true) :
    wp (receiveConfirm host ni n f) (fun _ => Good ic₀) ic := by
  obtain ⟨-, hauth, hpeer, hbss, hown⟩ := hf
  refine wp_ite (fun _ => wp_modify (h.alike ⟨rfl, rfl, rfl, rfl, rfl, fun _ => rfl⟩)) fun _ => ?_
  refine wp_seq (good_crypto h hs _) fun accepted ic₁ hc => ?_
  obtain ⟨sae, w, hanswer, h₁, hs₁, hsame⟩ := hc
  refine wp_bind (wp_get (wp_bind (wp_record ?_)))
  have h₂ := h₁.record (e := .confirmReceived n f ic₁.state accepted) trivial (h₁.inv.lt hs₁) (by simp)
    (by simp) (by simp)
  refine wp_ite (fun _ => wp_modify (h₂.alike ⟨rfl, rfl, rfl, rfl, rfl, fun _ => rfl⟩)) fun hok => ?_
  obtain rfl : accepted = true := by simpa using hok
  -- the frame completes the handshake
  have hhandshake : Handshake ic₁.log n f := by
    obtain ⟨told, order, -⟩ := h₁.inv.story n _ hs₁
    have hcommitted : s.committed = true := order hconfirmed
    rw [hcommitted, hconfirmed] at told
    exact told.handshake hpeer hbss hown
  have hstate : ic₁.state = .auth := hsame.state.trans hauth
  have h₃ : Good ic₀ { ic₁ with
      log := ic₁.log ++ [.confirmReceived n f ic₁.state true]
      saeStage := 4
      saeError := 0 } := h₂.alike ⟨rfl, rfl, rfl, rfl, rfl, fun _ => rfl⟩
  refine wp_bind (wp_modify (wp_seq (good_rtwSaeKeys h₃ hs₁ (rtwSaeRxConfirm_accepted hanswer)
    ⟨ic₁.log, f, by rw [hstate], hhandshake⟩ ni) fun _ ic₄ hc => ?_))
  obtain ⟨h₄, hsessions, hlog⟩ := hc
  refine wp_bind (wp_modify (wp_bind (wp_record (good_newState ?_ .assoc .auth))))
  have h₅ : Good ic₀ { ic₄ with
      flagPsk := true
      nodes := Function.update ic₄.nodes ni
        { ic₄.nodes ni with hasPmkid := true, portValid := false, replaycntOk := false }
      mgtTimer := 0
      assocStatus := 0xffff } := h₄.alike ⟨rfl, rfl, rfl, rfl, rfl, pmkid_update rfl⟩
  refine h₅.record (e := .associate n) ⟨ic₁.log, f, ?_, hhandshake⟩ ?_ (by simp) (by simp) (by simp)
  · rw [hlog, hstate, List.append_assoc]
    rfl
  · exact h₅.inv.lt (hsessions ▸ hs₁)

lemma good_saeReceive (h : Good ic₀ ic) (ni : ℕ) (f : AuthFrame) :
    wp (saeReceive host ni f) (fun _ => Good ic₀) ic := by
  refine wp_bind (wp_get ?_)
  cases hsae : ic.sae with
  | none => exact wp_pure h
  | some n =>
    obtain ⟨s, hs⟩ := h.inv.live hsae
    refine wp_bind (wp_session hs (wp_ite (fun _ => wp_pure h) fun hf => ?_))
    refine wp_ite (fun _ => good_receiveTokenRequest h hs ni f.body) fun _ => ?_
    refine wp_ite (fun _ => good_receiveCommit h hs ni f) fun _ => ?_
    refine wp_ite (fun hc => ?_) fun _ => wp_pure h
    exact good_receiveConfirm h hs ni (not_not.mp hf) hc.2.2

/-- Every call of the handlers keeps the state good. -/
lemma good_perform (h : Good ic₀ ic) (call : Call) : wp (perform host call) (fun _ => Good ic₀) ic := by
  cases call with
  | auth ni seq => exact good_sendAuth h ni seq
  | receive ni frame => exact good_saeReceive h ni frame
  | clear credentials => exact good_saeClear h credentials
  | newstate nstate mgt => exact good_newstate h nstate mgt
  | configure config => exact wp_modify (h.alike ⟨rfl, rfl, rfl, rfl, rfl, fun _ => rfl⟩)

lemma inv_start (config : Config) (world : W) : Inv (Com.start config world : Com W D) where
  heap := by
    intro n
    exact ⟨fun h => absurd h.symm (Option.some_ne_none n), fun h => absurd rfl h⟩
  made := by
    intro n h
    cases h.symm
  known := by
    intro e he
    cases he
  story := by
    intro n s hs
    cases hs.symm
  due := justified_nil
  resends := by
    intro n _
    exact ⟨Nat.zero_le 3, le_refl _⟩

/-- So does a run of them. -/
lemma good_performAll (host : Host W D) (hinv : Inv ic) (calls : List Call) :
    wp (performAll host calls) (fun _ => Good ic) ic :=
  wp_forM (fun call _ h => good_perform h call) calls ⟨hinv, Keeps.refl ic⟩

/-- In every run of the SAE handlers, with any frames, changes of state and answers from outside,
nothing that was freed is used and no access is out of bounds. Keys are written, and the association
is started, only for the frame whose confirm was just accepted in AUTH, sent by the peer of the
session to its own address, after a handshake in that session. At any time a session that has made
its confirm has accepted a commit, and a step changes the keys only if it says so. A session answers
three token requests at most, unless it gets `2 ^ 32` of them. -/
theorem keys_after_handshake (host : Host W D) (config : Config) (world : W) (calls : List Call) :
    ∃ ic, (performAll host calls).run (Com.start config world) = .ok ((), ic) ∧
      (∀ before n later, ic.log = before ++ .keys n :: later → ∃ earlier f,
        before = earlier ++ [.confirmReceived n f .auth true] ∧ Handshake earlier n f) ∧
      (∀ before n later, ic.log = before ++ .associate n :: later → ∃ earlier f,
        before = earlier ++ [.confirmReceived n f .auth true, .keys n] ∧ Handshake earlier n f) ∧
      (∀ n s, ic.sessions n = some s → ic.sae = some n ∧
        (s.confirmed = true → s.committed = true)) ∧
      (∀ call, ∃ ic', (perform host call).run ic = .ok ((), ic') ∧ Keeps ic ic') ∧
      ∀ n, ic.log.count (.tokenRequest n) < 2 ^ 32 → ic.log.count (.resend n) ≤ 3 := by
  obtain ⟨_, ic, hrun, h⟩ := good_performAll host (inv_start config world) calls
  refine ⟨ic, hrun, fun before n later hlog => h.inv.due before _ later hlog,
    fun before n later hlog => h.inv.due before _ later hlog, fun n s hs => ?_, fun call => ?_,
    fun n hfew => (h.inv.resends n hfew).1⟩
  · exact ⟨(h.inv.heap n).mpr (hs ▸ Option.some_ne_none s), (h.inv.story n s hs).order⟩
  · obtain ⟨_, ic', hstep, hgood⟩ : wp (perform host call) (fun _ => Good ic) ic :=
      good_perform ⟨h.inv, Keeps.refl ic⟩ call
    exact ⟨ic', hstep, hgood.keeps⟩

/-- The session that `ieee80211_sae_auth` goes on with. -/
structure Matches (ic : Com W D) (ni n : ℕ) (s : SaeSession D) : Prop where
  sae : ic.sae = some n
  session : ic.sessions n = some s
  peer : s.peer = (ic.nodes ni).bssid
  own : s.own = ic.myaddr

/-- A commit of the session is made, and sent if there was memory. -/
def Renews (n : ℕ) (s : SaeSession D) (ic ic' : Com W D) : Prop :=
  ∃ sae w timer sent, ic' = { ic with
    world := w
    mgtTimer := timer
    sessions := Function.update ic.sessions n (some { s with crypto := sae })
    log := ic.log ++ if sent = true then [.commitSent n] else [] }

lemma renews_frame (hs : ic.sessions n = some s) (htoken : s.tokenLength ≤ s.token.length) :
    wp (authBody host n 1 >>= authFrame host n 1) (fun r ic' => Renews n s ic ic' ∧
      (r.isSome → ic'.log = ic.log ++ [.commitSent n])) ic := by
  refine wp_bind (wp_bind (wp_session hs (wp_ite (fun _ => ?_) fun h => absurd rfl h)))
  refine wp_bind (wp_inBounds (Span.readSlice_ok (Span.inside_all _) (by
    simp only [Span.all]
    omega)) (wp_crypto hs fun body sae w _ => ?_))
  have hunsent : ∀ w, Renews n s ic { ic with
      world := w
      sessions := Function.update ic.sessions n (some { s with crypto := sae }) } :=
    fun w => ⟨sae, w, ic.mgtTimer, false, by simp⟩
  cases body with
  | none => exact wp_pure ⟨hunsent w, fun h => absurd h (by simp)⟩
  | some body =>
    refine wp_ite (fun _ => wp_pure ⟨hunsent w, fun h => absurd h (by simp)⟩) fun _ => wp_bind (wp_ask ?_)
    refine wp_ite (fun _ => wp_pure ⟨hunsent _, fun h => absurd h (by simp)⟩) fun _ => ?_
    refine wp_bind (wp_session (Function.update_self n _ _) (wp_bind (wp_ite (fun _ => wp_record ?_)
      fun h => absurd rfl h)))
    exact wp_pure ⟨⟨sae, _, ic.mgtTimer, true, rfl⟩, fun _ => rfl⟩

lemma renews_sendAuth (hm : Matches ic ni n s) (htoken : s.tokenLength ≤ s.token.length)
    (henabled : ic.saeEnabled = true) (hakm : (ic.nodes ni).rsnakms = akmSae) :
    wp (sendAuth host ni 1) (fun _ => Renews n s ic) ic := by
  have hleave : wp (saeLeave ni) (fun _ ic' => ic' = ic) ic := by
    refine wp_bind (wp_get ?_)
    rw [hm.sae]
    exact wp_bind (wp_session hm.session (wp_ite (fun h => absurd h (by simp [hm.peer, hm.own]))
      fun _ => wp_pure rfl))
  refine wp_bind (wp_get (wp_ite (fun _ => ?_) fun h => absurd ⟨henabled, hakm⟩ h))
  refine wp_seq (P := fun _ => Renews n s ic) ?_ fun m ic' hic' => ?_
  · refine wp_bind (wp_get (wp_ite (fun h => absurd h (by simp [henabled, hakm])) fun _ => ?_))
    refine wp_seq hleave fun _ ic' hic' => ?_
    subst hic'
    refine wp_bind (wp_get ?_)
    rw [hm.sae]
    exact wp_mono (renews_frame hm.session htoken) fun _ _ h => h.1
  · cases m with
    | none => exact wp_pure hic'
    | some m =>
      obtain ⟨sae, w, timer, sent, rfl⟩ := hic'
      exact wp_bind (wp_ask (wp_ite (fun _ => wp_modify ⟨sae, _, transWait, sent, rfl⟩) fun _ =>
        wp_pure ⟨sae, _, timer, sent, rfl⟩))

/-! ## A flood of token requests

The counter of token requests has 32 bits and is not stopped at its end: the request that brings it
back to zero is answered again. -/

/-- A token request of the network `peer`. -/
def tokenRequestFrame (own peer : Mac) : AuthFrame where
  addr1 := own
  addr2 := peer
  addr3 := peer
  seq := 1
  status := 76
  body := [19, 0, 7]

/-- A session after `k` requests. -/
structure Flooded (own peer : Mac) (n k : ℕ) (ic : Com W D) : Prop where
  live : ∃ s, Matches ic 0 n s ∧ addressed ic s (tokenRequestFrame own peer) ∧ s.committed = false ∧
    s.h2e = false ∧ s.token.length = 256 ∧ s.tokenLength ≤ 256 ∧ s.tokenRequests = UInt32.ofNat k
  akm : (ic.nodes 0).rsnakms = akmSae
  resends : min k 3 + (if k = 2 ^ 32 then 1 else 0) ≤ ic.log.count (.resend n)

lemma Flooded.request {own peer : Mac} {k : ℕ} (h : Flooded own peer n k ic) (hk : k < 2 ^ 32) :
    wp (saeReceive host 0 (tokenRequestFrame own peer)) (fun _ => Flooded own peer n (k + 1)) ic := by
  obtain ⟨⟨s, hm, hf, hcommitted, hh2e, htoken, hlength, hrequests⟩, hakm, hresends⟩ := h
  have hgroup : (Span.all [19, 0, 7]).readSlice [19, 0, 7] 0 2 = .ok [(19 : UInt8), 0] := rfl
  have hrequested : requestedToken false [19, 0, 7] = .ok (some [7]) := rfl
  have hcount : s.tokenRequests + 1 = UInt32.ofNat (k + 1) := by
    rw [hrequests, UInt32.ofNat_add]
    rfl
  refine wp_bind (wp_get ?_)
  rw [hm.sae]
  refine wp_bind (wp_session hm.session (wp_ite (fun h => absurd hf h) fun _ =>
    wp_ite (fun _ => ?_) fun h => absurd ⟨rfl, rfl, by simp [hcommitted]⟩ h))
  refine wp_ite (fun h => absurd h (by simp [tokenRequestFrame])) fun _ => wp_bind (wp_inBounds hgroup
    (wp_ite (fun h => absurd h (by decide)) fun _ => ?_))
  refine wp_bind (wp_record (wp_bind (wp_assign hm.session (wp_bind (wp_session
    (Function.update_self n _ _) (wp_ite (fun hmany => wp_pure ?_) fun hfew => ?_))))))
  · -- more than three: the request is only counted
    rw [gt_iff_lt, UInt32.lt_iff_toNat_lt, hcount, UInt32.toNat_ofNat'] at hmany
    refine ⟨⟨_, ⟨hm.sae, Function.update_self n _ _, hm.peer, hm.own⟩, hf, hcommitted, hh2e, htoken,
      hlength, hcount⟩, hakm, ?_⟩
    grind
  · dsimp only
    rw [hh2e]
    refine wp_bind (wp_inBounds hrequested (wp_bind (wp_inBounds (storeList_ok [7] (by
      rw [htoken]
      decide)) ?_)))
    refine wp_bind (wp_assign (Function.update_self n _ _) (wp_bind (wp_record ?_)))
    refine wp_mono (renews_sendAuth (n := n) ⟨hm.sae, Function.update_self n _ _, hm.peer, hm.own⟩ ?_
      hf.1 hakm) fun _ ic' hic' => ?_
    · show 1 ≤ (overwrite s.token 0 [7]).length
      rw [length_overwrite, htoken]
      decide
    · obtain ⟨sae, w, timer, sent, rfl⟩ := hic'
      refine ⟨⟨_, ⟨hm.sae, Function.update_self n _ _, hm.peer, hm.own⟩, hf, hcommitted, rfl,
        (length_overwrite _ _ _).trans htoken, (show 1 ≤ 256 by decide), hcount⟩, hakm, ?_⟩
      grind

lemma Flooded.requests {own peer : Mac} {j : ℕ} (h : Flooded own peer n j ic) (k : ℕ)
    (hk : j + k ≤ 2 ^ 32) :
    wp (performAll host (List.replicate k (.receive 0 (tokenRequestFrame own peer))))
      (fun _ => Flooded own peer n (j + k)) ic := by
  induction k generalizing j ic with
  | zero => exact wp_pure h
  | succ k ih =>
    rw [List.replicate_succ, show j + (k + 1) = j + 1 + k by ring]
    exact wp_seq (h.request (by omega)) fun _ _ h' => ih h' (by omega)

/-- hostap, memory and the driver do what is asked. -/
def willing : Host Unit Unit where
  malloc w := (true, w)
  prepare _ _ _ _ _ w := (some (), w)
  writeCommit _ _ w := ((some (List.replicate 98 0), ()), w)
  parseCommit _ _ w := ((0, ()), w)
  processCommit _ w := ((false, ()), w)
  writeConfirm _ w := ((some (List.replicate 34 0), ()), w)
  checkConfirm _ _ w := ((false, ()), w)
  pmk _ := List.replicate 32 1
  pmkid _ := List.replicate 16 2
  getmgmt _ w := (true, w)
  mgmtOutput w := (true, w)
  driverNewstate _ _ w := (true, w)

def ownMac : Mac := Mac.of 2 0 0 0 0 1

def peerMac : Mac := Mac.of 2 0 0 0 0 2

/-- A network that asks for SAE. -/
def saeNode : Node where
  bssid := peerMac
  rsnakms := akmSae
  saeH2e := false
  essid := [0x6e]
  pmkid := []
  hasPmkid := false
  portValid := false
  replaycntOk := false

def saeConfig : Config where
  saeEnabled := true
  saePassword := [0x70]
  myaddr := ownMac
  bss := 0
  nodes _ := saeNode

/-- A network that is found in SCAN is joined. -/
def joining : List Call := [.newstate .scan .none, .configure saeConfig, .newstate .auth .none]

lemma flooded_joining : wp (performAll willing joining) (fun _ => Flooded ownMac peerMac 0 0)
    (Com.start saeConfig ()) := by
  obtain ⟨_, ic, hok, hgood⟩ := good_performAll willing (inv_start saeConfig ()) joining
  refine ⟨(), ic, hok, ?_⟩
  -- the state is evaluated where the flood looks at it
  have heval : ∀ {β : Type} (f : Com Unit Unit → β) {v : β},
      ((performAll willing joining).run (Com.start saeConfig ())).toOption.map (fun r => f r.2) =
        some v → f ic = v := by
    intro β f v hv
    rw [hok] at hv
    exact Option.some.inj hv
  have hsae : ic.sae = some 0 := heval Com.sae (by decide +kernel)
  have hstate : ic.state = .auth := heval Com.state (by decide +kernel)
  have henabled : ic.saeEnabled = true := heval (fun ic => ic.saeEnabled) (by decide +kernel)
  have hmyaddr : ic.myaddr = ownMac := heval (fun ic => ic.myaddr) (by decide +kernel)
  have hnode : ic.nodes 0 = saeNode := heval (fun ic => ic.nodes 0) (by decide +kernel)
  have hresends : ic.log.count (.resend 0) = 0 :=
    heval (fun ic => ic.log.count (.resend 0)) (by decide +kernel)
  obtain ⟨s, hs⟩ := hgood.inv.live hsae
  have hfield : ∀ {β : Type} (f : SaeSession Unit → β) {v : β},
      ((performAll willing joining).run (Com.start saeConfig ())).toOption.map
        (fun r => (r.2.sessions 0).map f) = some (some v) → f s = v := by
    intro β f v hv
    have hv := heval (fun ic => (ic.sessions 0).map f) hv
    rw [hs] at hv
    exact Option.some.inj hv
  have hpeer : s.peer = peerMac := hfield SaeSession.peer (by decide +kernel)
  have hown : s.own = ownMac := hfield SaeSession.own (by decide +kernel)
  have hcommitted : s.committed = false := hfield SaeSession.committed (by decide +kernel)
  have hh2e : s.h2e = false := hfield SaeSession.h2e (by decide +kernel)
  have htoken : s.token.length = 256 := hfield (fun s => s.token.length) (by decide +kernel)
  have hlength : s.tokenLength = 0 := hfield SaeSession.tokenLength (by decide +kernel)
  have hrequests : s.tokenRequests = 0 := hfield SaeSession.tokenRequests (by decide +kernel)
  refine ⟨⟨s, ⟨hsae, hs, ?_, ?_⟩, ⟨henabled, hstate, hpeer.symm, hpeer.symm, hown.symm⟩, hcommitted,
    hh2e, htoken, by omega, hrequests⟩, ?_, ?_⟩
  · rw [hpeer, hnode]
    rfl
  · rw [hown, hmyaddr]
  · rw [hnode]
    rfl
  · rw [hresends]
    decide

/-- The session answers a fourth request when the counter has come around. -/
theorem resends_after_flood : ∃ calls ic,
    (performAll willing calls).run (Com.start saeConfig ()) = .ok ((), ic) ∧
      ¬ic.log.count (.resend 0) ≤ 3 := by
  have hflood : wp (performAll willing (joining ++ List.replicate (2 ^ 32)
      (.receive 0 (tokenRequestFrame ownMac peerMac)))) (fun _ => Flooded ownMac peerMac 0 (2 ^ 32))
      (Com.start saeConfig ()) := by
    show wp (forM (joining ++ _) (perform willing)) _ _
    rw [List.forM_append]
    refine wp_seq flooded_joining fun _ _ h => ?_
    have hall : wp (performAll willing _) _ _ := h.requests (2 ^ 32) (by omega)
    rwa [Nat.zero_add] at hall
  obtain ⟨_, ic, hrun, hic⟩ := hflood
  refine ⟨_, ic, hrun, ?_⟩
  have hresends := hic.resends
  rw [if_pos rfl] at hresends
  omega

end AirportAwdl.Net80211
