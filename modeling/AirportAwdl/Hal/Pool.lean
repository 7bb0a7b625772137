import AirportAwdl.Hal.Lease

/-!
# The pool over whole runs

`Sound` ties the pool to the log at every moment: an entry's state is how far the driver has taken
its station, its `registered` is what the registry was told, and every station that was freed had
been taken down. It holds in the middle of a call. `Settled` is what holds between calls.
-/

namespace AirportAwdl.Hal

open StateProgram Scheduler
open Native (PeerResult)

section
variable {D : Type} {driver : Driver D} {c : Context D} {i : Fin 16} {sta : Station}
  {primary : Option Mac} {log : List HalEvent} {r : Registry} {c' : Context D} {op : DriverOp}
  {address : Mac}

/-- It was safe to free a station after `log`: it was not registered, the driver had given it up,
and if the gate was paused the queues had been drained just before its teardown. -/
structure Safe (sta : Station) (log : List HalEvent) : Prop where
  unregistered : registeredIn sta log = false
  notexist : ladder sta log = staNotexist
  drained : pausedIn log = true →
    ∃ before teardown, log = before ++ .txDrain 0 :: teardown ∧ ∀ e ∈ teardown, e.about = some sta

def FreesSafe (log : List HalEvent) : Prop :=
  ∀ before sta later, log = before ++ .free sta :: later → Safe sta before

lemma FreesSafe.append (h : FreesSafe log) {e : HalEvent}
    (he : ∀ sta, e = .free sta → Safe sta log) : FreesSafe (log ++ [e]) := by
  intro before sta later heq
  rcases List.eq_nil_or_concat later with rfl | ⟨later', last, rfl⟩
  · simp_all
  · rw [List.concat_eq_append, ← List.cons_append, ← List.append_assoc] at heq
    exact h before sta later' (List.append_inj' heq rfl).1

lemma FreesSafe.append_all {log seg : List HalEvent} (h : FreesSafe log)
    (hseg : ∀ e ∈ seg, ∀ sta, e ≠ .free sta) : FreesSafe (log ++ seg) := by
  induction seg using List.reverseRecOn with
  | nil => simpa using h
  | append_singleton seg e ih =>
    rw [← List.append_assoc]
    refine (ih fun e' he' => hseg e' (by simp [he'])).append fun sta he => ?_
    exact absurd he (hseg e (by simp) sta)

/-- The registry holds a station of the pool. -/
def Registry.Holds (r : Registry) (sta : Station) : Prop :=
  ∃ slot p, r.peers slot = some p ∧ p.holder = .awdl sta

structure Sound (c : Context D) : Prop where
  clean : ∀ i, (c.entries i).station = none → c.entries i = {}
  bounded : ∀ i sta, (c.entries i).station = some sta → sta < c.stations
  own : ∀ i j sta, (c.entries i).station = some sta → (c.entries j).station = some sta → i = j
  distinct : ∀ i j, (c.entries i).station.isSome → (c.entries j).station.isSome →
    (c.entries i).address = (c.entries j).address → i = j
  ladder : ∀ i sta, (c.entries i).station = some sta → ladder sta c.log = (c.entries i).state
  registered : ∀ i sta, (c.entries i).station = some sta →
    registeredIn sta c.log = (c.entries i).registered
  held : ∀ sta, registeredIn sta c.log = true → ∃ i, (c.entries i).station = some sta
  fresh : ∀ sta, c.stations ≤ sta → Hal.ladder sta c.log = staNotexist
  registry : ∀ sta, c.registry.Holds sta → registeredIn sta c.log = true
  gate : pausedIn c.log = c.paused
  frees : FreesSafe c.log

lemma Sound.entry (h : Sound c) (hi : (c.entries i).station = some sta) {d : D} {e : PoolEntry}
    {l : List HalEvent}
    (hl : ∀ ev ∈ l, ev.isGate = false ∧ ev.about = some sta)
    (hstation : e.station = some sta ∧ e.address = (c.entries i).address ∨ e = {})
    (hladder : e.station = some sta → Hal.ladder sta (c.log ++ l) = e.state)
    (hregistered : registeredIn sta (c.log ++ l) = e.registered)
    (hregistry : ∀ sta', r.Holds sta' → registeredIn sta' (c.log ++ l) = true)
    (hfrees : FreesSafe (c.log ++ l)) :
    Sound { c with
      driver := d, entries := Function.update c.entries i e, registry := r, log := c.log ++ l } := by
  -- Other stations do not notice the step.
  have hother : ∀ sta', sta' ≠ sta → Hal.ladder sta' (c.log ++ l) = Hal.ladder sta' c.log ∧
      registeredIn sta' (c.log ++ l) = registeredIn sta' c.log := by
    intro sta' hne
    have habout : ∀ ev ∈ l, ev.about ≠ some sta' := fun ev hev heq =>
      hne (Option.some.inj (heq.symm.trans (hl ev hev).2))
    exact ⟨ladder_append habout, registeredIn_append habout⟩
  have hentry : ∀ j sta', (Function.update c.entries i e j).station = some sta' →
      j = i ∧ sta' = sta ∧ e.station = some sta ∨
      j ≠ i ∧ sta' ≠ sta ∧ (c.entries j).station = some sta' := by
    intro j sta' hj
    by_cases hji : j = i
    · grind
    grind [h.own]
  refine ⟨?_, ?_, ?_, ?_, ?_, ?_, ?_, ?_, hregistry, ?_, hfrees⟩
  · intro j hj
    by_cases hji : j = i
    · grind
    grind [h.clean]
  · intro j sta' hj
    rcases hentry j sta' hj with ⟨-, rfl, -⟩ | ⟨-, -, hj⟩
    · exact h.bounded i sta' hi
    · exact h.bounded j sta' hj
  · grind [h.own]
  · grind [h.distinct]
  · intro j sta' hj
    rcases hentry j sta' hj with ⟨rfl, rfl, hs⟩ | ⟨hji, hne, hj⟩
    · simp only [Function.update_self]
      exact hladder hs
    grind [h.ladder]
  · intro j sta' hj
    rcases hentry j sta' hj with ⟨rfl, rfl, hs⟩ | ⟨hji, hne, hj⟩
    · simp only [Function.update_self]
      exact hregistered
    · simp only [Function.update_of_ne hji]
      exact (hother sta' hne).2.trans (h.registered j sta' hj)
  · intro sta' hheld
    by_cases hsta : sta' = sta
    · subst hsta
      rcases hstation with ⟨hs, -⟩ | hnone
      · exact ⟨i, by simpa using hs⟩
      · rw [hregistered, hnone] at hheld
        cases hheld
    · obtain ⟨j, hj⟩ := h.held sta' ((hother sta' hsta).2 ▸ hheld)
      have hji : j ≠ i := by
        rintro rfl
        exact hsta (Option.some.inj (hj.symm.trans hi))
      exact ⟨j, by simpa [Function.update_of_ne hji] using hj⟩
  · intro sta' hle
    have hne : sta' ≠ sta := by
      have hlt := h.bounded i sta hi
      rintro rfl
      exact absurd hle (Nat.not_le.mpr hlt)
    exact (hother sta' hne).1.trans (h.fresh sta' hle)
  · exact (pausedIn_append fun ev hev => (hl ev hev).1).trans h.gate

lemma Sound.beside (h : Sound c) (hentries : c'.entries = c.entries)
    (hstations : c'.stations = c.stations)
    (hregistry : ∀ sta, c'.registry.Holds sta → c.registry.Holds sta)
    (hlog : ∃ seg, c'.log = c.log ++ seg ∧ ∀ e ∈ seg, e.about = none)
    (hgate : pausedIn c'.log = c'.paused) : Sound c' := by
  obtain ⟨seg, hseg, habout⟩ := hlog
  have hladder : ∀ sta, Hal.ladder sta c'.log = Hal.ladder sta c.log := fun sta => by
    rw [hseg]
    exact ladder_append fun e he => by simp [habout e he]
  have hregistered : ∀ sta, registeredIn sta c'.log = registeredIn sta c.log := fun sta => by
    rw [hseg]
    exact registeredIn_append fun e he => by simp [habout e he]
  refine ⟨?_, ?_, ?_, ?_, ?_, ?_, ?_, ?_, ?_, hgate, ?_⟩
  · rw [hentries]
    exact h.clean
  · rw [hentries, hstations]
    exact h.bounded
  · rw [hentries]
    exact h.own
  · rw [hentries]
    exact h.distinct
  · intro i sta hi
    rw [hentries] at hi ⊢
    rw [hladder, h.ladder i sta hi]
  · intro i sta hi
    rw [hentries] at hi ⊢
    rw [hregistered, h.registered i sta hi]
  · intro sta hsta
    rw [hentries]
    exact h.held sta (hregistered sta ▸ hsta)
  · intro sta hsta
    rw [hladder]
    exact h.fresh sta (hstations ▸ hsta)
  · intro sta hsta
    rw [hregistered]
    exact h.registry sta (hregistry sta hsta)
  · rw [hseg]
    refine h.frees.append_all fun e he sta heq => ?_
    have hnone := habout e he
    rw [heq] at hnone
    exact absurd hnone nofun

lemma Sound.of_askedOnly (h : Sound c) (hasked : AskedOnly c c') : Sound c' := by
  obtain ⟨seg, hseg, hall⟩ := hasked.log
  have hkeep := hasked.rest
  refine h.beside ?_ ?_ ?_ ⟨seg, hseg, fun e he => (hall e he).2⟩ ?_
  · rw [hkeep]
  · rw [hkeep]
  · rw [hkeep]
    exact fun _ => id
  · rw [hseg, pausedIn_append fun e he => (hall e he).1, h.gate, hkeep]

lemma ladder_staState {old next : StaState} {result : Errno} :
    Hal.ladder sta (log ++ [.driver (.staState sta old next) result]) =
      if result = 0 then next else Hal.ladder sta log := by
  simp [Hal.ladder]

lemma ladder_staLinks {held : Bool} : Hal.ladder sta (log ++ [.driver (.staLinks sta) held]) =
      if held then staNone else Hal.ladder sta log := by
  simp [Hal.ladder]

lemma registeredIn_driver {answer : op.Result} :
    registeredIn sta (log ++ [.driver op answer]) = registeredIn sta log := by
  simp [registeredIn]

lemma FreesSafe.append_driver (h : FreesSafe log)
    (answer : op.Result) : FreesSafe (log ++ [.driver op answer]) := h.append nofun

lemma Sound.assign (h : Sound c) (hi : (c.entries i).station = some sta) {f : PoolEntry → PoolEntry}
    (hs : (f (c.entries i)).station = (c.entries i).station)
    (ha : (f (c.entries i)).address = (c.entries i).address)
    (hstate : (f (c.entries i)).state = (c.entries i).state)
    (hregistered : (f (c.entries i)).registered = (c.entries i).registered) :
    Sound (c.setEntry i f) := by
  have hlog : c.log ++ [] = c.log := List.append_nil _
  have hsound := h.entry hi (d := c.driver) (e := f (c.entries i)) (r := c.registry) (l := []) nofun
    (.inl ⟨hs.trans hi, ha⟩) (fun _ => by rw [hlog, hstate, h.ladder i sta hi])
    (by rw [hlog, hregistered, h.registered i sta hi]) (by rw [hlog]; exact h.registry)
    (by rw [hlog]; exact h.frees)
  rw [hlog] at hsound
  exact hsound

lemma Sound.moved (h : Sound c) (hi : (c.entries i).station = some sta)
    (habout : ∀ answer, (HalEvent.driver op answer).about = some sta) {next : StaState}
    (hnext : Hal.ladder sta (c.asked driver op).log = next) :
    Sound ((c.asked driver op).setEntry i fun e => { e with state := next }) := by
  refine h.entry hi (l := [.driver op _]) (by simp [HalEvent.isGate, habout]) (.inl ⟨hi, rfl⟩)
    (fun _ => hnext) ?_ ?_ (h.frees.append_driver _)
  · rw [registeredIn_driver]
    exact h.registered i sta hi
  · intro sta' hsta'
    rw [registeredIn_driver]
    exact h.registry sta' hsta'

lemma Sound.asked (h : Sound c) (hi : (c.entries i).station = some sta)
    (habout : ∀ answer, (HalEvent.driver op answer).about = some sta)
    (hstay : Hal.ladder sta (c.asked driver op).log = Hal.ladder sta c.log) :
    Sound (c.asked driver op) := by
  have hsound := h.entry hi (d := (driver op c.driver).2) (e := c.entries i) (r := c.registry)
    (l := [.driver op (driver op c.driver).1]) (by simp [HalEvent.isGate, habout])
    (.inl ⟨hi, rfl⟩) (fun _ => hstay.trans (h.ladder i sta hi))
    (registeredIn_driver.trans (h.registered i sta hi))
    (fun sta' hsta' => registeredIn_driver.trans (h.registry sta' hsta')) (h.frees.append_driver _)
  rw [Function.update_eq_self] at hsound
  exact hsound

/-- Everything but the pool with its stations, the registry, the driver and the log. -/
def Context.besidePool (c : Context D) : Context Unit where
  driver := ()
  started := c.started
  interfaceAdded := c.interfaceAdded
  scanning := c.scanning
  awdlRecovery := c.awdlRecovery
  station := c.station
  vif := c.vif
  awdlInterface := c.awdlInterface
  paused := c.paused
  txResume := c.txResume
  awdlPeers := c.awdlPeers

/-- Only entry `i` has changed, and it is still for the same station. -/
structure Kept (i : Fin 16) (c c' : Context D) : Prop where
  beside : c'.besidePool = c.besidePool
  others : ∀ j ≠ i, c'.entries j = c.entries j
  station : (c'.entries i).station = (c.entries i).station
  address : (c'.entries i).address = (c.entries i).address

instance : IsPreorder (Context D) (Kept i) where
  refl _ := ⟨rfl, fun _ _ => rfl, rfl, rfl⟩
  trans _ _ _ h h' := ⟨h'.beside.trans h.beside,
    fun j hj => (h'.others j hj).trans (h.others j hj), h'.station.trans h.station,
    h'.address.trans h.address⟩

lemma kept_setEntry (c : Context D) {f : PoolEntry → PoolEntry}
    (hf : ∀ e, (f e).station = e.station ∧ (f e).address = e.address) :
    Kept i c (c.setEntry i f) := by
  refine ⟨rfl, fun j hj => entries_setEntry_of_ne c hj f, ?_, ?_⟩
  · rw [entries_setEntry_self, (hf _).1]
  · rw [entries_setEntry_self, (hf _).2]

lemma kept_asked (c : Context D) (op : DriverOp) : Kept i c (c.asked driver op) :=
  ⟨rfl, fun _ _ => rfl, rfl, rfl⟩

lemma AskedOnly.kept (h : AskedOnly c c') : Kept i c c' := by
  rw [h.rest]
  exact ⟨rfl, fun _ _ => rfl, rfl, rfl⟩

/-- If the gate is paused, the queues were drained and only `sta` was torn down since. -/
def Drained (sta : Station) (c : Context D) : Prop :=
  c.paused = true →
    ∃ before teardown, c.log = before ++ .txDrain 0 :: teardown ∧ ∀ e ∈ teardown, e.about = some sta

lemma Drained.grown (h : Drained sta c) (hpaused : c'.paused = c.paused)
    {e : HalEvent} (hlog : c'.log = c.log ++ [e]) (he : e.about = some sta) : Drained sta c' := by
  intro hp
  obtain ⟨before, teardown, hsplit, hall⟩ := h (hpaused ▸ hp)
  grind

lemma lowerPeer_spec {state : StaState} (h : Sound c) (hi : (c.entries i).station = some sta)
    (hstate : (c.entries i).state = state) (hdrained : Drained sta c) :
    wp (lowerPeer driver i sta state) (fun r c' =>
      Sound c' ∧ Kept i c c' ∧ Drained sta c' ∧
      (c'.entries i).registered = (c.entries i).registered ∧
      (c'.entries i).retiring = (c.entries i).retiring ∧
      (r = true → (c'.entries i).state = staNotexist)) c := by
  induction state generalizing c with
  | zero => exact ⟨h, refl_of (Kept i) c, hdrained, rfl, rfl, fun _ => hstate⟩
  | succ next ih =>
    have hdown : Drained sta (c.asked driver (.staState sta (next + 1) next)) :=
      hdrained.grown rfl rfl rfl
    refine wp_bind.mpr (wp_ask.mpr (wp_ite.mpr ⟨fun hfail => ?_, fun hok => ?_⟩))
    · exact ⟨h.asked hi (fun _ => rfl) (ladder_staState.trans (if_neg hfail)), kept_asked c _, hdown, rfl, rfl, nofun⟩
    · have hmoved := h.moved hi (fun _ => rfl) (ladder_staState.trans (if_pos (not_not.mp hok)))
      set c₁ := (c.asked driver (.staState sta (next + 1) next)).setEntry i
        fun e => { e with state := next } with hc₁
      have hentry : c₁.entries i = { c.entries i with state := next } := entries_setEntry_self ..
      have hkept : Kept i c c₁ := trans_of (Kept i) (kept_asked c _)
        (kept_setEntry (f := fun e => { e with state := next }) _ fun _ => ⟨rfl, rfl⟩)
      refine wp_bind.mpr (wp_modify.mpr (wp_mono
        (ih hmoved (hkept.station.trans hi) (by rw [hentry]) hdown) ?_))
      intro r c' ⟨hsound, hkept', hdrained', hregistered, hretiring, hzero⟩
      rw [hentry] at hregistered hretiring
      exact ⟨hsound, trans_of (Kept i) hkept hkept', hdrained', hregistered, hretiring, hzero⟩

lemma rtw89MacosAwdlTxDrain_log :
    wp (rtw89MacosAwdlTxDrain driver) (fun r c' => ∃ before, c'.log = before ++ [.txDrain r]) c :=
  wp_seq (drainQueues_askedOnly c) fun _ c₁ _ => ⟨c₁.log, rfl⟩

lemma drainForRelease_spec (sta : Station) :
    wp (drainForRelease driver) (fun r c' => AskedOnly c c' ∧ (r = true → Drained sta c')) c := by
  refine wp_bind.mpr (wp_get.mpr (wp_ite.mpr ⟨fun _ => ?_, fun hopen => ?_⟩))
  · refine wp_seq (wp_and (rtw89MacosAwdlTxDrain_askedOnly c) rtw89MacosAwdlTxDrain_log)
      fun r c' ⟨hasked, before, hlog⟩ => ⟨hasked, fun hzero _ => ?_⟩
    have hr : r = 0 := of_decide_eq_true hzero
    subst hr
    exact ⟨before, [], hlog, nofun⟩
  · exact ⟨refl_of AskedOnly c, fun _ hp => absurd hp hopen⟩

lemma Registry.holds_removeSta {sta' : Station} (h : (r.removeSta sta).Holds sta') :
    r.Holds sta' ∧ sta' ≠ sta := by
  obtain ⟨slot, p, hp, hholder⟩ := h
  simp only [Registry.removeSta, Option.filter_eq_some_iff] at hp
  refine ⟨⟨slot, p, hp.1, hholder⟩, ?_⟩
  rintro rfl
  simp [hholder] at hp

/-- The stack registers or unregisters a station, and its entry says so. -/
lemma Sound.setRegistered (h : Sound c) (hi : (c.entries i).station = some sta) {e : HalEvent}
    {registered : Bool} (he : e = .register sta ∨ e = .unregister sta)
    (hnow : registeredIn sta (c.log ++ [e]) = registered)
    (hregistry : ∀ sta', r.Holds sta' →
      sta' = sta ∧ registered = true ∨ sta' ≠ sta ∧ c.registry.Holds sta') :
    Sound (({ c with registry := r, log := c.log ++ [e] } : Context D).setEntry i
      fun x => { x with registered }) ∧
    Kept i c (({ c with registry := r, log := c.log ++ [e] } : Context D).setEntry i
      fun x => { x with registered }) := by
  have habout : ∀ ev ∈ [e], ev.isGate = false ∧ ev.about = some sta := by
    intro ev hev
    obtain rfl := List.mem_singleton.mp hev
    rcases he with rfl | rfl <;> exact ⟨rfl, rfl⟩
  have hladder : Hal.ladder sta (c.log ++ [e]) = Hal.ladder sta c.log := by
    rcases he with rfl | rfl <;> simp [Hal.ladder]
  have hfrees : FreesSafe (c.log ++ [e]) := by
    rcases he with rfl | rfl <;> exact h.frees.append nofun
  constructor
  · refine h.entry hi habout (.inl ⟨hi, rfl⟩) (fun _ => hladder.trans (h.ladder i sta hi)) hnow ?_
      hfrees
    intro sta' hholds
    rcases hregistry sta' hholds with ⟨rfl, htrue⟩ | ⟨hne, hheld⟩
    · exact hnow.trans htrue
    · have hother : ∀ ev ∈ [e], ev.about ≠ some sta' := fun ev hev heq =>
        hne (Option.some.inj (heq.symm.trans (habout ev hev).2))
      rw [registeredIn_append hother]
      exact h.registry sta' hheld
  · exact trans_of (Kept i)
      (⟨rfl, fun _ _ => rfl, rfl, rfl⟩ : Kept i c { c with registry := r, log := c.log ++ [e] })
      (kept_setEntry (f := fun x => { x with registered }) _ fun _ => ⟨rfl, rfl⟩)

lemma unregisterPeer_spec (h : Sound c) (hi : (c.entries i).station = some sta)
    (hdrained : Drained sta c) :
    wp (unregisterPeer i sta) (fun _ c' =>
      Sound c' ∧ Kept i c c' ∧ Drained sta c' ∧ (c'.entries i).registered = false ∧
      (c'.entries i).retiring = (c.entries i).retiring) c := by
  refine wp_bind.mpr (wp_get.mpr (wp_ite.mpr ⟨fun _ => ?_, fun hnot => ?_⟩))
  · have hgone : registeredIn sta (c.log ++ [.unregister sta]) = false := by simp [registeredIn]
    obtain ⟨hsound, hkept⟩ := h.setRegistered hi (.inr rfl) (r := c.registry.removeSta sta) hgone
      fun sta' hholds => .inr (Registry.holds_removeSta hholds).symm
    refine wp_bind.mpr (wp_modify.mpr (wp_modify.mpr
      ⟨hsound, hkept, hdrained.grown rfl rfl rfl, ?_, ?_⟩))
    · rw [entries_setEntry_self]
    · rw [entries_setEntry_self]
  · exact ⟨h, refl_of (Kept i) c, hdrained, Bool.eq_false_iff.mpr hnot, rfl⟩

lemma releaseAwdlPeer_spec (h : Sound c) (i : Fin 16) :
    wp (releaseAwdlPeer driver i) (fun r c' =>
      Sound c' ∧ c'.besidePool = c.besidePool ∧ (∀ j ≠ i, c'.entries j = c.entries j) ∧
      (r = true → c'.entries i = {}) ∧
      (r = false → Kept i c c' ∧ (c'.entries i).retiring = true)) c := by
  refine wp_bind.mpr (wp_get.mpr ?_)
  cases hi : (c.entries i).station with
  | none => exact ⟨h, rfl, fun _ _ => rfl, fun _ => h.clean i hi, nofun⟩
  | some sta =>
    set c₁ := c.setEntry i fun e => { e with retiring := true }
    have hkept₁ : Kept i c c₁ :=
      kept_setEntry (f := fun e => { e with retiring := true }) c fun _ => ⟨rfl, rfl⟩
    have hretiring₁ : (c₁.entries i).retiring = true :=
      congrArg PoolEntry.retiring (entries_setEntry_self ..)
    have hsound₁ : Sound c₁ := h.assign hi rfl rfl rfl rfl
    refine wp_bind.mpr (wp_modify.mpr (wp_seq (drainForRelease_spec sta) ?_))
    intro drained c₂ ⟨hasked, hdrained⟩
    have hkept₂ : Kept i c c₂ := trans_of (Kept i) hkept₁ hasked.kept
    have hretiring₂ : (c₂.entries i).retiring = true := by
      rw [hasked.rest]
      exact hretiring₁
    have hsound₂ : Sound c₂ := hsound₁.of_askedOnly hasked
    refine wp_ite.mpr ⟨fun _ => ?_, fun hok => ?_⟩
    · exact ⟨hsound₂, hkept₂.beside, hkept₂.others, nofun, fun _ => ⟨hkept₂, hretiring₂⟩⟩
    refine wp_seq (unregisterPeer_spec hsound₂ (hkept₂.station.trans hi)
      (hdrained (by simpa using hok))) fun _ c₃ ⟨hsound₃, hkept₃, hdrained₃, hreg₃, hret₃⟩ => ?_
    have hi₃ : (c₃.entries i).station = some sta :=
      (hkept₃.station.trans hkept₂.station).trans hi
    refine wp_bind.mpr (wp_get.mpr (wp_seq (lowerPeer_spec hsound₃ hi₃ rfl hdrained₃) ?_))
    intro down c₄ ⟨hsound₄, hkept₄, hdrained₄, hreg₄, hret₄, hzero⟩
    have hkept : Kept i c c₄ := trans_of (Kept i) hkept₂ (trans_of (Kept i) hkept₃ hkept₄)
    have hi₄ : (c₄.entries i).station = some sta := hkept.station.trans hi
    refine wp_ite.mpr ⟨fun _ => ?_, fun hdown => ?_⟩
    · exact ⟨hsound₄, hkept.beside, hkept.others, nofun,
        fun _ => ⟨hkept, hret₄.trans (hret₃.trans hretiring₂)⟩⟩
    -- The driver has given the station up, so its memory may go.
    have hunregistered : registeredIn sta c₄.log = false := by
      rw [hsound₄.registered i sta hi₄, hreg₄, hreg₃]
    have hsafe : Safe sta c₄.log := by
      refine ⟨hunregistered, ?_, fun hp => hdrained₄ (hsound₄.gate ▸ hp)⟩
      rw [hsound₄.ladder i sta hi₄]
      exact hzero (by simpa using hdown)
    have hfree : ∀ sta', registeredIn sta' (c₄.log ++ [.free sta]) = registeredIn sta' c₄.log := by
      intro sta'
      simp [registeredIn]
    refine wp_bind.mpr (wp_modify.mpr (wp_bind.mpr (wp_modify.mpr (wp_pure.mpr
      ⟨?_, hkept.beside, ?_, fun _ => entries_setEntry_self .., nofun⟩))))
    · refine hsound₄.entry hi₄ (l := [.free sta]) (by simp [HalEvent.isGate, HalEvent.about])
        (.inr rfl) nofun ((hfree sta).trans hunregistered) ?_ (hsound₄.frees.append ?_)
      · exact fun sta' hholds => (hfree sta').trans (hsound₄.registry sta' hholds)
      · rintro sta' ⟨rfl⟩
        exact hsafe
    · intro j hj
      exact (entries_setEntry_of_ne _ hj _).trans (hkept.others j hj)

/-- Entry `i` keeps its station and what was said about its registration. -/
structure Carried (i : Fin 16) (c c' : Context D) : Prop where
  kept : Kept i c c'
  registered : (c'.entries i).registered = (c.entries i).registered
  retiring : (c'.entries i).retiring = (c.entries i).retiring

instance : IsPreorder (Context D) (Carried i) where
  refl c := ⟨refl_of (Kept i) c, rfl, rfl⟩
  trans _ _ _ h h' := ⟨trans_of (Kept i) h.kept h'.kept, h'.registered.trans h.registered,
    h'.retiring.trans h.retiring⟩

lemma carried_asked (c : Context D) (op : DriverOp) : Carried i c (c.asked driver op) :=
  ⟨kept_asked c op, rfl, rfl⟩

lemma carried_state (c : Context D) (state : StaState) :
    Carried i c (c.setEntry i fun e => { e with state }) := by
  refine ⟨kept_setEntry c fun _ => ⟨rfl, rfl⟩, ?_, ?_⟩
  · rw [entries_setEntry_self]
  · rw [entries_setEntry_self]

lemma attachPeer_spec (h : Sound c) (hi : (c.entries i).station = some sta) (vif : AwdlVif) :
    wp (attachPeer driver vif i sta) (fun r c' =>
      Sound c' ∧ Carried i c c' ∧ (r = 0 → (c'.entries i).state = staNone)) c := by
  refine wp_bind.mpr (wp_ask.mpr (wp_ite.mpr ⟨fun hok => ?_, fun hfail => ?_⟩))
  · refine wp_bind.mpr (wp_modify.mpr (wp_pure.mpr ⟨?_, ?_, fun _ => ?_⟩))
    · exact h.moved hi (fun _ => rfl) (ladder_staState.trans (if_pos hok))
    · exact trans_of (Carried i) (carried_asked c _) (carried_state _ _)
    · rw [entries_setEntry_self]
  set c₁ := c.asked driver (.staState sta staNotexist staNone)
  have hsound₁ : Sound c₁ := h.asked hi (fun _ => rfl) (ladder_staState.trans (if_neg hfail))
  have hcarried₁ : Carried i c c₁ := carried_asked c _
  have hi₁ : (c₁.entries i).station = some sta := hi
  refine wp_bind.mpr (wp_ite.mpr ⟨fun _ => ?_, fun _ => ?_⟩)
  · exact ⟨hsound₁, hcarried₁, fun h0 => absurd h0 hfail⟩
  refine wp_ask.mpr (wp_ite.mpr ⟨fun hheld => ?_, fun hfree => ?_⟩)
  · refine wp_bind.mpr (wp_modify.mpr (wp_pure.mpr ⟨?_, ?_, fun h0 => absurd h0 hfail⟩))
    · exact hsound₁.moved hi₁ (fun _ => rfl) (ladder_staLinks.trans (if_pos hheld))
    · exact trans_of (Carried i) hcarried₁
        (trans_of (Carried i) (carried_asked c₁ _) (carried_state _ _))
  · refine ⟨hsound₁.asked hi₁ (fun _ => rfl) (ladder_staLinks.trans (if_neg hfree)), ?_,
      fun h0 => absurd h0 hfail⟩
    exact trans_of (Carried i) hcarried₁ (carried_asked c₁ _)

lemma raisePeer_spec (h : Sound c) (hi : (c.entries i).station = some sta) {left : ℕ}
    (hleft : (c.entries i).state + left = staAuthorized) :
    wp (raisePeer driver i sta left) (fun r c' =>
      Sound c' ∧ Carried i c c' ∧ (r = 0 → (c'.entries i).state = staAuthorized)) c := by
  induction left generalizing c with
  | zero => exact ⟨h, refl_of (Carried i) c, fun _ => hleft⟩
  | succ left ih =>
    refine wp_bind.mpr (wp_get.mpr (wp_bind.mpr (wp_ask.mpr (wp_ite.mpr
      ⟨fun hfail => ?_, fun hok => ?_⟩))))
    · exact ⟨h.asked hi (fun _ => rfl) (ladder_staState.trans (if_neg hfail)), carried_asked c _,
        fun h0 => absurd h0 hfail⟩
    · have hmoved := h.moved hi (fun _ => rfl) (ladder_staState.trans (if_pos (not_not.mp hok)))
      set c₁ := (c.asked driver (.staState sta (c.entries i).state ((c.entries i).state + 1))).setEntry
        i fun e => { e with state := (c.entries i).state + 1 }
      have hcarried : Carried i c c₁ :=
        trans_of (Carried i) (carried_asked c _) (carried_state _ _)
      have hstate : (c₁.entries i).state = (c.entries i).state + 1 :=
        congrArg PoolEntry.state (entries_setEntry_self ..)
      refine wp_bind.mpr (wp_modify.mpr (wp_mono (ih hmoved (hcarried.kept.station.trans hi)
        (by rw [hstate, ← hleft, Nat.add_assoc, Nat.add_comm 1])) fun r c' ⟨hsound, hcarried', hzero⟩ => ?_))
      exact ⟨hsound, trans_of (Carried i) hcarried hcarried', hzero⟩

lemma Registry.holds_addSta {addr : Mac} {sta' : Station}
    (h : (r.addSta sta addr).2.Holds sta') : r.Holds sta' ∨ sta' = sta := by
  obtain ⟨slot, p, hp, hholder⟩ := h
  unfold Registry.addSta at hp
  split at hp
  · exact .inl ⟨slot, p, hp, hholder⟩
  split at hp
  · exact .inl ⟨slot, p, hp, hholder⟩
  split at hp
  · rename_i free _
    by_cases hslot : slot = free
    · grind
    · simp only [Function.update_of_ne hslot] at hp
      exact .inl ⟨slot, p, hp, hholder⟩
  · exact .inl ⟨slot, p, hp, hholder⟩

lemma registerPeer_spec (h : Sound c) (hi : (c.entries i).station = some sta)
    (hnot : (c.entries i).registered = false) :
    wp (registerPeer i sta) (fun r c' =>
      Sound c' ∧ Kept i c c' ∧ (c'.entries i).registered = r ∧
      (c'.entries i).state = (c.entries i).state ∧
      (c'.entries i).retiring = (c.entries i).retiring) c := by
  refine wp_bind.mpr (wp_get.mpr (wp_ite.mpr ⟨fun hadded => ?_, fun hfull => ?_⟩))
  · have hnow : registeredIn sta (c.log ++ [.register sta]) = true := by simp [registeredIn]
    obtain ⟨hsound, hkept⟩ := h.setRegistered hi (.inl rfl) (hnow.trans hadded.symm)
      (r := (c.registry.addSta sta (c.entries i).address).2) fun sta' hholds => by
        by_cases hsame : sta' = sta
        · exact .inl ⟨hsame, hadded⟩
        · exact .inr ⟨hsame, (Registry.holds_addSta hholds).resolve_right hsame⟩
    refine wp_bind.mpr (wp_modify.mpr (wp_bind.mpr (wp_modify.mpr (wp_pure.mpr
      ⟨hsound, hkept, ?_, ?_, ?_⟩))))
    · rw [entries_setEntry_self]
    · rw [entries_setEntry_self]
    · rw [entries_setEntry_self]
  · have hfalse : (c.registry.addSta sta (c.entries i).address).1 = false :=
      Bool.eq_false_iff.mpr hfull
    refine wp_bind.mpr (wp_modify.mpr (wp_pure.mpr ⟨?_, ?_, ?_, ?_, ?_⟩))
    · exact h.assign hi rfl rfl rfl (hfalse.trans hnot.symm)
    · grind [kept_setEntry]
    · rw [entries_setEntry_self]
    · rw [entries_setEntry_self]
    · rw [entries_setEntry_self]

/-- A station that can be used. -/
structure PoolEntry.Live (e : PoolEntry) : Prop where
  registered : e.registered = true
  retiring : e.retiring = false
  state : e.state = staAuthorized

lemma admitPeer_spec (h : Sound c) (hi : (c.entries i).station = some sta)
    (hnot : (c.entries i).registered = false) (hretiring : (c.entries i).retiring = false)
    (vif : AwdlVif) :
    wp (admitPeer driver vif i sta) (fun r c' =>
      Sound c' ∧ Kept i c c' ∧ (r = 0 → (c'.entries i).Live)) c := by
  refine wp_seq (attachPeer_spec h hi vif) fun r c₁ ⟨hsound₁, hcarried₁, hnone⟩ => wp_ite.mpr
    ⟨fun hfail => ⟨hsound₁, hcarried₁.kept, fun h0 => absurd h0 hfail⟩, fun hok => ?_⟩
  have hi₁ : (c₁.entries i).station = some sta := hcarried₁.kept.station.trans hi
  refine wp_seq (registerPeer_spec hsound₁ hi₁ (hcarried₁.registered.trans hnot))
    fun added c₂ ⟨hsound₂, hkept₂, hadded, hstate, hret₂⟩ => wp_ite.mpr
    ⟨fun _ => ?_, fun hdone => ?_⟩
  · exact ⟨hsound₂, trans_of (Kept i) hcarried₁.kept hkept₂, fun h0 => absurd h0 enospc_ne_zero⟩
  have hstate₂ : (c₂.entries i).state = staNone := hstate.trans (hnone (not_not.mp hok))
  have hi₂ : (c₂.entries i).station = some sta := hkept₂.station.trans hi₁
  refine wp_bind.mpr (wp_get.mpr (wp_mono (raisePeer_spec hsound₂ hi₂ ?_)
    fun r c' ⟨hsound, hcarried, hauthorized⟩ => ⟨hsound, ?_, fun h0 => ?_⟩))
  · rw [hstate₂]
    rfl
  · exact trans_of (Kept i) hcarried₁.kept (trans_of (Kept i) hkept₂ hcarried.kept)
  · refine ⟨?_, ?_, hauthorized h0⟩
    · rw [hcarried.registered, hadded]
      simpa using hdone
    · rw [hcarried.retiring, hret₂, hcarried₁.retiring, hretiring]

lemma Sound.allocate (h : Sound c) (hi : (c.entries i).station = none)
    (hnew : ∀ j, (c.entries j).station.isSome → (c.entries j).address ≠ address) :
    Sound ({ c with stations := c.stations + 1 }.setEntry i fun e =>
      { e with station := some c.stations, address }) := by
  set c' := ({ c with stations := c.stations + 1 } : Context D).setEntry i fun e =>
    { e with station := some c.stations, address }
  have hself : c'.entries i = { station := some c.stations, address := address } := by
    have hclean := h.clean i hi
    have hset : c'.entries i = { c.entries i with station := some c.stations, address := address } :=
      entries_setEntry_self ..
    rw [hset, hclean]
  have hother : ∀ j, j ≠ i → c'.entries j = c.entries j := fun j hj => entries_setEntry_of_ne _ hj _
  -- A number that was not given out yet is neither in the pool nor registered.
  have hfresh : ∀ j, (c.entries j).station ≠ some c.stations := fun j hj =>
    absurd (h.bounded j _ hj) (Nat.lt_irrefl _)
  have hunregistered : registeredIn c.stations c.log = false := by
    grind [h.held]
  have hentry : ∀ j sta, (c'.entries j).station = some sta →
      j = i ∧ sta = c.stations ∨ j ≠ i ∧ (c.entries j).station = some sta := by
    grind
  refine ⟨?_, ?_, ?_, ?_, ?_, ?_, ?_, ?_, h.registry, h.gate, h.frees⟩
  · grind [h.clean]
  · intro j sta hj
    rcases hentry j sta hj with ⟨-, rfl⟩ | ⟨-, hj⟩
    · exact Nat.lt_succ_self _
    · exact Nat.lt_succ_of_lt (h.bounded j sta hj)
  · grind [h.own]
  · intro j k hj hk heq
    by_cases hji : j = i
    · grind
    · rw [hother j hji] at hj heq
      by_cases hki : k = i
      · grind
      · rw [hother k hki] at hk heq
        exact h.distinct j k hj hk heq
  · intro j sta hj
    rcases hentry j sta hj with ⟨rfl, rfl⟩ | ⟨hji, hj⟩
    · rw [hself]
      exact h.fresh _ (Nat.le_refl _)
    · rw [hother j hji]
      exact h.ladder j sta hj
  · intro j sta hj
    rcases hentry j sta hj with ⟨rfl, rfl⟩ | ⟨hji, hj⟩
    · rw [hself]
      exact hunregistered
    · rw [hother j hji]
      exact h.registered j sta hj
  · intro sta hheld
    obtain ⟨j, hj⟩ := h.held sta hheld
    have hji : j ≠ i := by
      grind
    exact ⟨j, by rw [hother j hji]; exact hj⟩
  · intro sta hle
    exact h.fresh sta (Nat.le_of_succ_le hle)

/-- What holds between the calls, with `primary` for the address of the primary interface. -/
structure Settled (primary : Option Mac) (c : Context D) : Prop where
  sound : Sound c
  started : c.started = true
  vif : c.vif = primary
  interface : ∀ v ∈ c.awdlInterface.vif, c.awdlInterface.hardwareAdded = true ∧
    c.awdlInterface.registered = true ∧ c.awdlPeers = true
  empty : c.awdlInterface.vif = none → ∀ i, (c.entries i).station = none
  usable : ∀ i, (c.entries i).station.isSome → stationAddress (c.entries i).address = true ∧
    (∀ v ∈ c.awdlInterface.vif, (c.entries i).address ≠ v.addr) ∧
    c.vif ≠ some (c.entries i).address
  live : c.awdlRecovery = false → ∀ i, (c.entries i).station.isSome → (c.entries i).Live

/-- The pool has a station for an address. -/
def Context.Has (c : Context D) (address : Mac) (P : PoolEntry → Prop) : Prop :=
  ∃ i, (c.entries i).station.isSome ∧ (c.entries i).address = address ∧ P (c.entries i)

lemma foundEntry_none (h : foundEntry c address = none) (i : Fin 16)
    (hi : (c.entries i).station.isSome) : (c.entries i).address ≠ address := by
  intro heq
  have hall := List.find?_eq_none.mp h i (by simp)
  simp [hi, heq] at hall

lemma foundEntry_some (h : foundEntry c address = some i) :
    (c.entries i).station.isSome ∧ (c.entries i).address = address := by
  simpa using List.find?_some h

lemma emptyEntry_some (h : emptyEntry c = some i) : (c.entries i).station = none := by
  simpa using List.find?_some h

/-- Only entry `i` and the demand for recovery have changed. -/
structure Touched (i : Fin 16) (c c' : Context D) : Prop where
  beside : c'.besidePool = { c.besidePool with awdlRecovery := c'.awdlRecovery }
  others : ∀ j ≠ i, c'.entries j = c.entries j

lemma recovery_of_beside (h : c'.besidePool = c.besidePool) : c'.awdlRecovery = c.awdlRecovery := by
  have hfield := congrArg Context.awdlRecovery h
  exact hfield

lemma touched_of_beside (h : c'.besidePool = c.besidePool)
    (hothers : ∀ j ≠ i, c'.entries j = c.entries j) : Touched i c c' := by
  refine ⟨?_, hothers⟩
  rw [h, recovery_of_beside h]
  rfl

/-- How an entry is left by a call with an answer: with a live station for the address, with one
that could not be released, which asks for recovery, or empty. -/
inductive Left (address : Mac) (i : Fin 16) (c c' : Context D) : PeerResult → Prop
  | live (hrecovery : c'.awdlRecovery = c.awdlRecovery) (hstation : (c'.entries i).station.isSome)
      (haddress : (c'.entries i).address = address) (hlive : (c'.entries i).Live) :
      Left address i c c' .success
  | stuck (hrecovery : c'.awdlRecovery = true) (hstation : (c'.entries i).station.isSome)
      (haddress : (c'.entries i).address = address) (hretiring : (c'.entries i).retiring = true) :
      Left address i c c' .recoveryRequired
  | gone {r : PeerResult} (hr : r ≠ .recoveryRequired)
      (hrecovery : c'.awdlRecovery = c.awdlRecovery) (hempty : c'.entries i = {}) :
      Left address i c c' r

lemma releaseOrRecover_spec (h : Sound c) (hi : (c.entries i).station.isSome)
    {result : PeerResult} (hresult : result ≠ .recoveryRequired) :
    wp (releaseOrRecover driver i result) (fun r c' => Sound c' ∧ Touched i c c' ∧
      Left (c.entries i).address i c c' r ∧ (r = .recoveryRequired ∨ r = result ∧
        c'.entries i = {})) c := by
  refine wp_seq (releaseAwdlPeer_spec h i) fun r c₁ ⟨hsound, hbeside, hothers, hdone, hkept⟩ =>
    wp_ite.mpr ⟨fun hr => ?_, fun hr => ?_⟩
  · exact ⟨hsound, touched_of_beside hbeside hothers,
      .gone hresult (recovery_of_beside hbeside) (hdone hr), .inr ⟨rfl, hdone hr⟩⟩
  · obtain ⟨hkept, hretiring⟩ := hkept (Bool.eq_false_iff.mpr hr)
    set c₂ : Context D := { c₁ with awdlRecovery := true }
    have hsound₂ : Sound c₂ := hsound.beside rfl rfl (fun _ => id) (grown_refl _) hsound.gate
    have hbeside₂ : c₂.besidePool = { c.besidePool with awdlRecovery := true } := by
      rw [← hbeside]
      rfl
    have hstation : (c₂.entries i).station.isSome := by
      rw [hkept.station]
      exact hi
    exact ⟨hsound₂, ⟨hbeside₂, hothers⟩, .stuck rfl hstation hkept.address hretiring, .inl rfl⟩

lemma Touched.trans {c' c'' : Context D} (h : Touched i c c') (h' : Touched i c' c'') :
    Touched i c c'' := by
  refine ⟨?_, fun j hj => (h'.others j hj).trans (h.others j hj)⟩
  rw [h'.beside, h.beside]

lemma admissionError_ne (result : Errno) :
    admissionError result ≠ .recoveryRequired ∧ admissionError result ≠ .success := by
  grind [admissionError]

lemma addPeer_spec (h : Sound c) (hi : (c.entries i).station = none) (vif : AwdlVif)
    (hnew : ∀ j, (c.entries j).station.isSome → (c.entries j).address ≠ address) :
    wp (addPeer driver vif i address) (fun r c' => Sound c' ∧ Touched i c c' ∧
      Left address i c c' r ∧ (r = .success → (c'.entries i).station.isSome)) c := by
  set c₁ := c.asked driver .allocate
  have hasked : AskedOnly c c₁ := ask_askedOnly _ (fun _ => rfl) c
  have hsound₁ : Sound c₁ := h.of_askedOnly hasked
  refine wp_bind.mpr (wp_ask.mpr (wp_ite.mpr ⟨fun _ => ?_, fun _ => ?_⟩))
  · exact ⟨hsound₁, touched_of_beside rfl fun _ _ => rfl,
      .gone nofun rfl (h.clean i hi), nofun⟩
  set c₂ := ({ c₁ with stations := c₁.stations + 1 } : Context D).setEntry i fun e =>
    { e with station := some c₁.stations, address }
  have hsound₂ : Sound c₂ := hsound₁.allocate hi hnew
  have hentry : c₂.entries i = { station := some c₁.stations, address := address } := by
    have hclean : c.entries i = {} := h.clean i hi
    have hset : c₂.entries i = { c.entries i with station := some c₁.stations, address := address } :=
      entries_setEntry_self ..
    rw [hset, hclean]
  have htouched₂ : Touched i c c₂ :=
    touched_of_beside rfl fun j hj => entries_setEntry_of_ne _ hj _
  have hrecovery₂ : c₂.awdlRecovery = c.awdlRecovery := rfl
  have hi₂ : (c₂.entries i).station = some c₁.stations := by rw [hentry]
  refine wp_bind.mpr (wp_get.mpr (wp_bind.mpr (wp_modify.mpr (wp_bind.mpr (wp_modify.mpr
    (wp_seq (admitPeer_spec hsound₂ hi₂ ?_ ?_ vif) ?_))))))
  · rw [hentry]
  · rw [hentry]
  intro result c₃ ⟨hsound₃, hkept₃, hlive⟩
  have htouched₃ : Touched i c c₃ :=
    htouched₂.trans (touched_of_beside hkept₃.beside hkept₃.others)
  have hrecovery₃ : c₃.awdlRecovery = c.awdlRecovery :=
    (recovery_of_beside hkept₃.beside).trans hrecovery₂
  have hstation : (c₃.entries i).station.isSome := by
    rw [hkept₃.station, hentry]
    rfl
  have haddress : (c₃.entries i).address = address := by rw [hkept₃.address, hentry]
  refine wp_ite.mpr ⟨fun hzero => ?_, fun _ => ?_⟩
  · exact ⟨hsound₃, htouched₃, .live hrecovery₃ hstation haddress (hlive hzero),
      fun _ => hstation⟩
  · refine wp_mono (releaseOrRecover_spec hsound₃ hstation (admissionError_ne result).1)
      fun r c' ⟨hsound, htouched, hleft, hr⟩ => ⟨hsound, htouched₃.trans htouched, ?_, ?_⟩
    · rw [haddress] at hleft
      cases hleft with
      | live hrecovery hs ha hl => exact .live (hrecovery.trans hrecovery₃) hs ha hl
      | stuck hrecovery hs ha hret => exact .stuck hrecovery hs ha hret
      | gone hne hrecovery hempty => exact .gone hne (hrecovery.trans hrecovery₃) hempty
    grind [admissionError_ne]

/-- An address that a station of the pool may have. -/
def Context.Usable (c : Context D) (address : Mac) : Prop :=
  stationAddress address = true ∧ (∀ v ∈ c.awdlInterface.vif, address ≠ v.addr) ∧
    c.vif ≠ some address

lemma Settled.touched (h : Settled primary c) {vif : AwdlVif} (hvif : c.awdlInterface.vif = some vif)
    (hsound : Sound c') (htouched : Touched i c c')
    (husable : (c'.entries i).station.isSome → c.Usable (c'.entries i).address)
    (hlive : c'.awdlRecovery = false →
      c.awdlRecovery = false ∧ ((c'.entries i).station.isSome → (c'.entries i).Live)) :
    Settled primary c' := by
  have hstarted := congrArg Context.started htouched.beside
  have hinterface := congrArg Context.awdlInterface htouched.beside
  have hprimary := congrArg Context.vif htouched.beside
  have hpeers := congrArg Context.awdlPeers htouched.beside
  simp only [Context.besidePool] at hstarted hinterface hprimary hpeers
  refine ⟨hsound, hstarted.trans h.started, hprimary.trans h.vif, ?_, ?_, ?_, ?_⟩
  · rw [hinterface, hpeers]
    exact h.interface
  · rw [hinterface, hvif]
    exact nofun
  · intro j hj
    rw [hinterface, hprimary]
    by_cases hji : j = i
    · subst hji
      exact husable hj
    · rw [htouched.others j hji] at hj ⊢
      exact h.usable j hj
  · intro hcalm j hj
    obtain ⟨hbefore, hlive⟩ := hlive hcalm
    by_cases hji : j = i
    · subst hji
      exact hlive hj
    · rw [htouched.others j hji] at hj ⊢
      exact h.live hbefore j hj

lemma Settled.of_askedOnly (h : Settled primary c) (hasked : AskedOnly c c') :
    Settled primary c' := by
  have hsound := h.sound.of_askedOnly hasked
  rw [hasked.rest] at hsound ⊢
  exact ⟨hsound, h.started, h.vif, h.interface, h.empty, h.usable, h.live⟩

lemma Left.settled {r : PeerResult}
    (hleft : Left address i c c' r) (h : Settled primary c) {vif : AwdlVif}
    (hvif : c.awdlInterface.vif = some vif) (hsound : Sound c') (htouched : Touched i c c')
    (husable : c.Usable address) : Settled primary c' := by
  cases hleft with
  | live hrecovery hs ha hl =>
    exact h.touched hvif hsound htouched (fun _ => ha ▸ husable)
      fun hcalm => ⟨hrecovery.symm.trans hcalm, fun _ => hl⟩
  | stuck hrecovery hs ha hret =>
    grind [h.touched]
  | gone hne hrecovery hempty =>
    refine h.touched hvif hsound htouched ?_ fun hcalm => ⟨hrecovery.symm.trans hcalm, ?_⟩
    · rw [hempty]
      exact nofun
    · rw [hempty]
      exact nofun

lemma Left.keeps_recovery {r : PeerResult}
    (hleft : Left address i c c' r) (h : c.awdlRecovery = true) : c'.awdlRecovery = true := by
  cases hleft with
  | live hrecovery _ _ _ => exact hrecovery.trans h
  | stuck hrecovery _ _ _ => exact hrecovery
  | gone _ hrecovery _ => exact hrecovery.trans h

lemma Touched.not_has (htouched : Touched i c c')
    (hempty : c'.entries i = {}) (hother : ∀ j ≠ i, (c.entries j).station.isSome →
      (c.entries j).address ≠ address) : ¬ c'.Has address fun _ => True := by
  rintro ⟨j, hj, ha, -⟩
  by_cases hji : j = i
  · grind
  · rw [htouched.others j hji] at hj ha
    exact hother j hji hj ha

/-- What the answer to an addition tells. -/
structure Added (address : Mac) (c c' : Context D) (r : PeerResult) : Prop where
  success : r = .success → c'.Has address PoolEntry.Live
  refused : r ≠ .success → r ≠ .recoveryRequired → ¬ c'.Has address fun _ => True
  recovery : r = .recoveryRequired → c'.awdlRecovery = true ∧
    (c.awdlRecovery = false → c'.Has address fun e => e.retiring = true)
  blocked : c.awdlRecovery = true → r ≠ .success

/-- What the answer to a removal tells. -/
structure Removed (address : Mac) (c' : Context D) (r : PeerResult) : Prop where
  success : r = .success → ¬ c'.Has address fun _ => True
  recovery : r = .recoveryRequired → c'.awdlRecovery = true ∧
    c'.Has address fun e => e.retiring = true

lemma removePeer_spec (h : Settled primary c) {vif : AwdlVif} (hvif : c.awdlInterface.vif = some vif)
    (address : Mac) :
    wp (removePeer driver address) (fun r c' => Settled primary c' ∧ Removed address c' r ∧
      (c.awdlRecovery = true → c'.awdlRecovery = true)) c := by
  refine wp_bind.mpr (wp_get.mpr ?_)
  cases hfound : foundEntry c address with
  | none =>
    exact ⟨h, ⟨fun _ ⟨i, hi, ha, _⟩ => foundEntry_none hfound i hi ha, nofun⟩, id⟩
  | some i =>
    obtain ⟨hi, rfl⟩ := foundEntry_some hfound
    have hne : PeerResult.success ≠ .recoveryRequired := nofun
    refine wp_mono (releaseOrRecover_spec h.sound hi hne)
      fun r c' ⟨hsound, htouched, hleft, hr⟩ => ⟨?_, ⟨fun hok => ?_, fun hstuck => ?_⟩, ?_⟩
    · exact hleft.settled h hvif hsound htouched (h.usable i hi)
    · grind [htouched.not_has, h.sound.distinct]
    · subst hstuck
      cases hleft with
      | stuck hrecovery hs ha hret => exact ⟨hrecovery, i, hs, ha, hret⟩
      | gone hne _ _ => exact absurd rfl hne
    · exact hleft.keeps_recovery

lemma Added.absent {r : PeerResult} (hok : r ≠ .success)
    (hcalm : r ≠ .recoveryRequired) (habsent : ¬ c'.Has address fun _ => True) :
    Added address c c' r :=
  ⟨fun h => absurd h hok, fun _ _ => habsent, fun h => absurd h hcalm, fun _ => hok⟩

lemma Settled.not_has (h : Settled primary c) (hbad : ¬ c.Usable address) :
    ¬ c.Has address fun _ => True := by
  rintro ⟨i, hi, rfl, -⟩
  exact hbad (h.usable i hi)

lemma setPeer_add_spec (h : Settled primary c) (address : Mac) :
    wp (rtw89LinuxAwdlSetPeer driver address true) (fun r c' => Settled primary c' ∧ Added address c c' r ∧
      (c.awdlRecovery = true → c'.awdlRecovery = true)) c := by
  refine wp_ite.mpr ⟨fun hbad => ?_, fun hstation => wp_bind.mpr (wp_get.mpr ?_)⟩
  · have habsent : ¬ c.Has address fun _ => True :=
      h.not_has fun husable => by simp [husable.1] at hbad
    exact ⟨h, .absent nofun nofun habsent, id⟩
  cases hvif : c.awdlInterface.vif with
  | none =>
    have habsent : ¬ c.Has address fun _ => True := by
      rintro ⟨i, hi, -⟩
      rw [h.empty hvif i] at hi
      cases hi
    exact ⟨h, .absent nofun nofun habsent, id⟩
  | some vif =>
    obtain ⟨hadded, hregistered, hpeers⟩ := h.interface vif hvif
    refine wp_ite.mpr ⟨fun hnot => ?_, fun _ => wp_ite.mpr ⟨fun hown => ?_, fun hother => ?_⟩⟩
    · simp [h.started, hadded, hregistered, hpeers] at hnot
    · refine ⟨h, .absent nofun nofun (h.not_has fun ⟨_, hv, hp⟩ => ?_), id⟩
      exact hown.elim (hv vif hvif) hp
    have husable : c.Usable address := by
      refine ⟨by simpa using hstation, fun v hv heq => hother (.inl ?_), fun hp => hother (.inr hp)⟩
      grind
    refine wp_ite.mpr ⟨fun habsurd => absurd habsurd nofun, fun _ => wp_ite.mpr
      ⟨fun hrecovery => ?_, fun hcalm => ?_⟩⟩
    · exact ⟨h, ⟨nofun, fun _ hne => absurd rfl hne, fun _ => ⟨hrecovery, fun hc => by
        simp [hrecovery] at hc⟩, fun _ => nofun⟩, id⟩
    have hcalm : c.awdlRecovery = false := Bool.eq_false_iff.mpr hcalm
    cases hfound : foundEntry c address with
    | some i =>
      -- Without a demand for recovery every station is live.
      obtain ⟨hi, ha⟩ := foundEntry_some hfound
      have hlive := h.live hcalm i hi
      have hcond : (!(c.entries i).retiring && (c.entries i).registered &&
          (c.entries i).state == staAuthorized) = true := by
        simp [hlive.retiring, hlive.registered, hlive.state]
      refine wp_pure.mpr ⟨h, ?_, id⟩
      rw [if_pos hcond]
      exact ⟨fun _ => ⟨i, hi, ha, hlive⟩, fun hne => absurd rfl hne, nofun, fun hr => by
        simp [hcalm] at hr⟩
    | none =>
      have hnew := foundEntry_none hfound
      have habsent : ¬ c.Has address fun _ => True := fun ⟨i, hi, ha, _⟩ => hnew i hi ha
      refine wp_ite.mpr ⟨fun _ => ⟨h, .absent nofun nofun habsent, id⟩, fun _ => ?_⟩
      set c₁ := c.asked driver .chip
      have hsettled₁ : Settled primary c₁ := h.of_askedOnly (ask_askedOnly _ (fun _ => rfl) c)
      refine wp_bind.mpr (wp_ask.mpr ?_)
      cases hempty : emptyEntry c with
      | none => exact ⟨hsettled₁, .absent nofun nofun habsent, id⟩
      | some i =>
        refine wp_ite.mpr ⟨fun _ => ⟨hsettled₁, .absent nofun nofun habsent, id⟩, fun _ => ?_⟩
        refine wp_mono (addPeer_spec hsettled₁.sound (emptyEntry_some hempty) vif hnew)
          fun r c' ⟨hsound, htouched, hleft, hfull⟩ => ⟨?_, ?_, fun hr => ?_⟩
        · exact hleft.settled hsettled₁ hvif hsound htouched husable
        · cases hleft with
          | live hrecovery hs ha hl =>
            exact ⟨fun _ => ⟨i, hs, ha, hl⟩, fun hne => absurd rfl hne, nofun, fun hr => by
              simp [hcalm] at hr⟩
          | stuck hrecovery hs ha hret =>
            exact ⟨nofun, fun _ hne => absurd rfl hne, fun _ => ⟨hrecovery, fun _ => ⟨i, hs, ha, hret⟩⟩,
              fun _ => nofun⟩
          | gone hne hrecovery hgone =>
            refine .absent (fun hok => ?_) hne (htouched.not_has hgone fun j _ => hnew j)
            grind
        · simp [hcalm] at hr

lemma setPeer_remove_spec (h : Settled primary c) (address : Mac) :
    wp (rtw89LinuxAwdlSetPeer driver address false) (fun r c' => Settled primary c' ∧
      Removed address c' r ∧ (c.awdlRecovery = true → c'.awdlRecovery = true)) c := by
  refine wp_ite.mpr ⟨fun _ => ⟨h, ⟨nofun, nofun⟩, id⟩, fun _ => wp_bind.mpr (wp_get.mpr ?_)⟩
  cases hvif : c.awdlInterface.vif with
  | none => exact ⟨h, ⟨nofun, nofun⟩, id⟩
  | some vif =>
    refine wp_ite.mpr ⟨fun _ => ⟨h, ⟨nofun, nofun⟩, id⟩, fun _ => wp_ite.mpr
      ⟨fun _ => ⟨h, ⟨nofun, nofun⟩, id⟩, fun _ => wp_ite.mpr ⟨fun _ => ?_, fun hadd => ?_⟩⟩⟩
    · exact removePeer_spec h hvif address
    · exact absurd rfl hadd

/-- What the releases of all entries keep, with the entries that are left to do. -/
structure Releasing (c : Context D) (rest : List (Fin 16)) (okay : Bool) (c' : Context D) :
    Prop where
  nodup : rest.Nodup
  sound : Sound c'
  beside : c'.besidePool = c.besidePool
  entries : ∀ i, c'.entries i = {} ∨ (c'.entries i).station = (c.entries i).station ∧
    (c'.entries i).address = (c.entries i).address
  tried : ∀ i ∉ rest, c'.entries i = {} ∨ (c'.entries i).retiring = true
  gone : okay = true → ∀ i ∉ rest, c'.entries i = {}
  stuck : okay = false → ∃ i ∉ rest, (c'.entries i).retiring = true

lemma releaseAll_spec (h : Sound c) : wp (releaseAll driver) (Releasing c []) c := by
  have hstart : Releasing c (List.finRange 16) true c :=
    ⟨List.nodup_finRange 16, h, rfl, fun _ => .inr ⟨rfl, rfl⟩,
      fun i hi => absurd (List.mem_finRange i) hi,
      fun _ i hi => absurd (List.mem_finRange i) hi, nofun⟩
  refine wp_foldlM (I := Releasing c) ?_ (List.finRange 16) hstart
  intro i rest okay c₁ hrel
  obtain ⟨hi, hrest⟩ := List.nodup_cons.mp hrel.nodup
  refine wp_seq (releaseAwdlPeer_spec hrel.sound i)
    fun r c₂ ⟨hsound, hbeside, hothers, hdone, hkept⟩ => wp_pure.mpr ?_
  have hentries : ∀ j, c₂.entries j = {} ∨ (c₂.entries j).station = (c.entries j).station ∧
      (c₂.entries j).address = (c.entries j).address := by
    intro j
    by_cases hji : j = i
    · subst hji
      cases r with
      | true => exact .inl (hdone rfl)
      | false =>
        obtain ⟨hkept, -⟩ := hkept rfl
        rcases hrel.entries j with hempty | ⟨hs, ha⟩
        · left
          apply hsound.clean j
          rw [hkept.station, hempty]
        · exact .inr ⟨hkept.station.trans hs, hkept.address.trans ha⟩
    · rw [hothers j hji]
      exact hrel.entries j
  refine ⟨hrest, hsound, hbeside.trans hrel.beside, hentries, fun j hj => ?_, fun hok j hj => ?_,
    fun hfail => ?_⟩
  · by_cases hji : j = i
    · grind
    grind [hrel.tried]
  · obtain ⟨rfl, rfl⟩ := Bool.and_eq_true_iff.mp hok
    by_cases hji : j = i
    · subst hji
      exact hdone rfl
    grind [hrel.gone]
  · cases r with
    | false => exact ⟨i, hi, (hkept rfl).2⟩
    | true =>
      obtain ⟨j, hj, hretiring⟩ := hrel.stuck (by simpa using hfail)
      grind

lemma Settled.demand (h : Settled primary c) : Settled primary { c with awdlRecovery := true } :=
  ⟨h.sound.beside rfl rfl (fun _ => id) (grown_refl _) h.sound.gate, h.started, h.vif, h.interface,
    h.empty, h.usable, nofun⟩

lemma Settled.releasing (h : Settled primary c) {rest : List (Fin 16)} {okay : Bool}
    (hrel : Releasing c rest okay c') : Settled primary { c' with awdlRecovery := true } := by
  have hstarted := congrArg Context.started hrel.beside
  have hinterface := congrArg Context.awdlInterface hrel.beside
  have hprimary := congrArg Context.vif hrel.beside
  have hpeers := congrArg Context.awdlPeers hrel.beside
  simp only [Context.besidePool] at hstarted hinterface hprimary hpeers
  have hsound : Sound { c' with awdlRecovery := true } :=
    hrel.sound.beside rfl rfl (fun _ => id) (grown_refl _) hrel.sound.gate
  refine ⟨hsound, hstarted.trans h.started, hprimary.trans h.vif, ?_, ?_, ?_, nofun⟩
  · simp only [hinterface, hpeers]
    exact h.interface
  · grind [hrel.entries, h.empty]
  grind [hrel.entries, h.usable]

lemma Sound.isSome_of_retiring (h : Sound c) (hretiring : (c.entries i).retiring = true) :
    (c.entries i).station.isSome := by
  by_contra hnone
  rw [h.clean i (by simpa using hnone)] at hretiring
  cases hretiring

/-- What the answer of a quiesce tells. -/
structure Quiesced (c' : Context D) (r : Bool) : Prop where
  empty : r = true → ∀ i, (c'.entries i).station = none
  recovery : r = false → c'.awdlRecovery = true ∧ (c'.paused = true ∨
    (∃ i, (c'.entries i).station.isSome) ∧
      ∀ i, (c'.entries i).station.isSome → (c'.entries i).retiring = true)

lemma Registry.holds_removeVif : ¬ r.removeVif.Holds sta := by
  rintro ⟨slot, p, hp, hholder⟩
  simp only [Registry.removeVif, Option.filter_eq_some_iff] at hp
  simp [hholder, Holder.isAwdl] at hp

lemma removeInterface_settled (h : Settled primary c) :
    wp (removeInterface driver) (fun r c' => Settled primary c' ∧ Quiesced c' r) c := by
  refine wp_seq (releaseAll_spec h.sound) fun okay c₁ hrel => wp_ite.mpr
    ⟨fun hfail => ?_, fun hok => ?_⟩
  · obtain ⟨i, -, hretiring⟩ := hrel.stuck (by simpa using hfail)
    have hstation := hrel.sound.isSome_of_retiring hretiring
    have hall : ∀ j, (c₁.entries j).station.isSome → (c₁.entries j).retiring = true := by
      grind [hrel.tried]
    exact ⟨h.releasing hrel, nofun, fun _ => ⟨rfl, .inr ⟨⟨i, hstation⟩, hall⟩⟩⟩
  · have hgone : ∀ i, c₁.entries i = {} := fun i => hrel.gone (by simpa using hok) i (by simp)
    have hnone : ∀ i, (c₁.entries i).station = none := fun i => by rw [hgone i]
    have hstarted := congrArg Context.started hrel.beside
    have hprimary := congrArg Context.vif hrel.beside
    refine wp_bind.mpr (wp_modify.mpr (wp_pure.mpr ⟨⟨?_, ?_, ?_, ?_, ?_, ?_, ?_⟩, ?_⟩))
    · exact hrel.sound.beside rfl rfl (fun _ hholds => absurd hholds Registry.holds_removeVif)
        (grown_refl _) hrel.sound.gate
    · exact hstarted.trans h.started
    · exact hprimary.trans h.vif
    · exact nofun
    · exact fun _ => hnone
    · intro i hi
      simp [hnone i] at hi
    · intro _ i hi
      simp [hnone i] at hi
    · exact ⟨fun _ => hnone, nofun⟩

/-- Only the gate, the ROC, the driver and the log have changed. -/
structure RadioOnly (c c' : Context D) : Prop where
  beside : c'.besideRadio = c.besideRadio
  log : ∃ seg, c'.log = c.log ++ seg ∧ ∀ e ∈ seg, e.about = none
  gate : pausedIn c.log = c.paused → pausedIn c'.log = c'.paused

instance : IsPreorder (Context D) RadioOnly where
  refl c := ⟨rfl, grown_refl c.log, id⟩
  trans _ _ _ h h' := ⟨h'.beside.trans h.beside, grown_trans h.log h'.log, h'.gate ∘ h.gate⟩

lemma RocOnly.radioOnly (h : RocOnly c c') : RadioOnly c c' := by
  obtain ⟨seg, hseg, hall⟩ := h.log
  refine ⟨h.beside, ⟨seg, hseg, fun e he => (hall e he).2⟩, fun hgate => ?_⟩
  rw [hseg, pausedIn_append fun e he => (hall e he).1, hgate, h.paused]

lemma gateResume_radioOnly : Preserves RadioOnly (gateResume (D := D)) := by
  intro c
  refine wp_modify.mpr ⟨rfl, ⟨_, rfl, fun e he => ?_⟩, fun _ => ?_⟩
  · cases htx : c.txResume <;> simp [htx] at he
    · rw [he]
      rfl
    · rcases he with rfl | rfl <;> rfl
  · cases htx : c.txResume <;> simp [Context.opened, pausedIn, htx]

lemma gatePause_radioOnly : Preserves RadioOnly (gatePause (D := D)) := by
  refine .bind .get fun _ => .ite .pure (.bind ?_ fun _ => .pure)
  intro c
  refine wp_modify.mpr ⟨rfl, ⟨[.pause], rfl, fun e he => ?_⟩, fun _ => ?_⟩
  · rw [List.mem_singleton.mp he]
    rfl
  · simp [pausedIn]

lemma rtw89LinuxAwdlReserveRadio_radioOnly (frequency durationMs : ℕ) :
    Preserves RadioOnly (rtw89LinuxAwdlReserveRadio driver frequency durationMs) := by
  have hdrain : Preserves RadioOnly (awaitDrained driver 100) :=
    (awaitDrained_askedOnly 100).mono fun h => h.rocOnly.radioOnly
  have hstart : Preserves RadioOnly (startVisit driver frequency durationMs) :=
    (startVisit_rocOnly frequency durationMs).mono RocOnly.radioOnly
  refine .ite .pure (.bind ?_ fun _ => .ite .pure (.bind .get fun _ => .pure))
  refine .bind gatePause_radioOnly fun _ => .ite .pure (.bind hdrain fun _ => .ite ?_ ?_)
  · exact .bind gateResume_radioOnly fun _ => .pure
  · exact .bind hstart fun _ => .ite (.bind gateResume_radioOnly fun _ => .pure) .pure

lemma rtw89LinuxAwdlRestore_radioOnly : Preserves RadioOnly (rtw89LinuxAwdlRestore driver) := by
  refine .bind .get fun c => ?_
  cases c.awdlInterface.vif with
  | none => exact .pure
  | some vif =>
    refine .bind ((rtw89MacosAwdlRestore_rocOnly vif).mono RocOnly.radioOnly) fun _ => ?_
    exact .ite (.bind gateResume_radioOnly fun _ => .pure) .pure

lemma rtw89LinuxAwdlRestore_failed :
    wp (rtw89LinuxAwdlRestore driver) (fun r c' => r ≠ 0 → c'.paused = c.paused) c := by
  refine wp_bind.mpr (wp_get.mpr ?_)
  cases c.awdlInterface.vif with
  | none => exact fun _ => rfl
  | some vif =>
    refine wp_seq (rtw89MacosAwdlRestore_rocOnly vif c) fun r c₁ honly => wp_ite.mpr
      ⟨fun hzero hne => absurd hzero hne, fun _ _ => honly.paused⟩

lemma Settled.of_radioOnly (h : Settled primary c) (honly : RadioOnly c c') :
    Settled primary c' := by
  have hstarted := congrArg Context.started honly.beside
  have hrecovery := congrArg Context.awdlRecovery honly.beside
  have hprimary := congrArg Context.vif honly.beside
  have hpeers := congrArg Context.awdlPeers honly.beside
  have hentries := congrArg Context.entries honly.beside
  have hstations := congrArg Context.stations honly.beside
  have hregistry := congrArg Context.registry honly.beside
  have hadded := congrArg (fun c => c.awdlInterface.hardwareAdded) honly.beside
  have hregistered := congrArg (fun c => c.awdlInterface.registered) honly.beside
  have hstrip := congrArg (fun c => c.awdlInterface.vif) honly.beside
  simp only [Context.besideRadio] at hstarted hrecovery hprimary hpeers hentries hstations hregistry
  simp only [Context.besideRadio] at hadded hregistered hstrip
  -- The interface is the same one; only its ROC may differ.
  have hvif : ∀ v ∈ c'.awdlInterface.vif, ∃ v' ∈ c.awdlInterface.vif, v'.addr = v.addr := by
    intro v hv
    rw [hv, Option.map_some] at hstrip
    obtain ⟨v', hv', heq⟩ := Option.map_eq_some_iff.mp hstrip.symm
    grind
  refine ⟨?_, hstarted.trans h.started, hprimary.trans h.vif, ?_, ?_, ?_, ?_⟩
  · exact h.sound.beside hentries hstations (by rw [hregistry]; exact fun _ => id) honly.log
      (honly.gate h.sound.gate)
  · grind [h.interface]
  · intro hnone
    rw [hentries]
    refine h.empty ?_
    simp_all
  · intro i hi
    rw [hentries] at hi ⊢
    grind [h.usable]
  · rw [hrecovery, hentries]
    exact h.live

lemma occupied_eq_zero (h : ¬ 0 < occupied c) (i : Fin 16) : (c.entries i).station = none := by
  have hzero : occupied c = 0 := by omega
  have hnone := List.countP_eq_zero.mp hzero i (List.mem_finRange i)
  simpa using hnone

lemma quiesce_settled (h : Settled primary c) :
    wp (rtw89LinuxAwdlQuiesce driver) (fun r c' => Settled primary c' ∧ Quiesced c' r) c := by
  refine wp_bind.mpr (wp_get.mpr (wp_ite.mpr ⟨fun hnone => wp_ite.mpr ⟨fun hfull => ?_, fun hempty => ?_⟩,
    fun _ => wp_ite.mpr ⟨fun hstopped => ?_, fun _ => wp_ite.mpr ⟨fun hpaused => ?_, fun _ => ?_⟩⟩⟩))
  · -- Without an interface there is no station.
    have hvif : c.awdlInterface.vif = none := Option.isNone_iff_eq_none.mp hnone
    have hzero : occupied c = 0 :=
      List.countP_eq_zero.mpr fun i _ => by simp [h.empty hvif i]
    omega
  · have hall := occupied_eq_zero hempty
    have hsettled : Settled primary { c with awdlRecovery := false } := by
      refine ⟨h.sound.beside rfl rfl (fun _ => id) (grown_refl _) h.sound.gate, h.started,
        h.vif, h.interface, h.empty, h.usable, fun _ i hi => ?_⟩
      simp [hall i] at hi
    exact ⟨hsettled, fun _ => hall, nofun⟩
  · simp [h.started] at hstopped
  · refine wp_seq (wp_and (rtw89LinuxAwdlRestore_radioOnly c) rtw89LinuxAwdlRestore_failed)
      fun r c₁ ⟨honly, hfailed⟩ => wp_ite.mpr ⟨fun hne => ?_, fun _ => ?_⟩
    · exact ⟨(h.of_radioOnly honly).demand, nofun,
        fun _ => ⟨rfl, .inl ((hfailed hne).trans hpaused)⟩⟩
    · exact removeInterface_settled (h.of_radioOnly honly)
  · exact removeInterface_settled h

lemma addInterface_settled (h : Settled primary c) (mac : Mac) :
    wp (rtw89LinuxAwdlAddInterface driver mac) (fun _ c' => Settled primary c' ∧
      c'.awdlRecovery = c.awdlRecovery) c := by
  refine wp_bind.mpr (wp_get.mpr (wp_ite.mpr ⟨fun _ => ⟨h, rfl⟩, fun _ => ?_⟩))
  have hpool : wp (allocatePool driver) (fun r c' => Settled primary c' ∧
      c'.awdlRecovery = c.awdlRecovery ∧ c'.awdlInterface = c.awdlInterface ∧
      (r = true → c'.awdlPeers = true)) c := by
    refine wp_bind.mpr (wp_get.mpr (wp_ite.mpr ⟨fun hp => ⟨h, rfl, rfl, fun _ => hp⟩,
      fun hp => ?_⟩))
    set c₁ := c.asked driver .allocate
    have hsettled₁ : Settled primary c₁ := h.of_askedOnly (ask_askedOnly _ (fun _ => rfl) c)
    refine wp_bind.mpr (wp_ask.mpr (wp_ite.mpr ⟨fun _ => ⟨hsettled₁, rfl, rfl, nofun⟩,
      fun _ => ?_⟩))
    -- There was no pool, so there was no interface and no station.
    have hvif : c.awdlInterface.vif = none := by
      by_contra hsome
      obtain ⟨v, hv⟩ := Option.ne_none_iff_exists'.mp hsome
      exact hp (h.interface v hv).2.2
    have hentries : (fun _ => {} : Fin 16 → PoolEntry) = c₁.entries := by
      funext i
      exact (h.sound.clean i (h.empty hvif i)).symm
    rw [hentries]
    refine wp_bind.mpr (wp_modify.mpr (wp_pure.mpr ⟨⟨?_, ?_, ?_, ?_, ?_, ?_, ?_⟩, rfl, rfl,
      fun _ => rfl⟩))
    · exact hsettled₁.sound.beside rfl rfl (fun _ => id) (grown_refl _) hsettled₁.sound.gate
    · exact h.started
    · exact h.vif
    · intro v hv
      cases hv.symm.trans hvif
    · exact h.empty
    · exact h.usable
    · exact h.live
  refine wp_seq hpool fun r c₁ ⟨hsettled, hrecovery, hinterface, hpeers⟩ => wp_ite.mpr
    ⟨fun _ => ⟨hsettled, hrecovery⟩, fun hr => wp_ite.mpr ⟨fun _ => ⟨hsettled, hrecovery⟩,
      fun hfree => ?_⟩⟩
  set c₂ := c₁.asked driver (.addInterface mac)
  have hsettled₂ : Settled primary c₂ := hsettled.of_askedOnly (ask_askedOnly _ (fun _ => rfl) c₁)
  refine wp_bind.mpr (wp_ask.mpr (wp_ite.mpr ⟨fun _ => ⟨hsettled₂, hrecovery⟩, fun _ => ?_⟩))
  have hvif : c₁.awdlInterface.vif = none := by
    simp_all
  have hnone : ∀ i, (c₁.entries i).station = none := hsettled.empty hvif
  refine wp_bind.mpr (wp_modify.mpr (wp_pure.mpr ⟨⟨?_, ?_, ?_, ?_, ?_, ?_, ?_⟩, hrecovery⟩))
  · refine hsettled₂.sound.beside rfl rfl (fun _ => ?_) (grown_refl _) hsettled₂.sound.gate
    exact fun ⟨slot, p, hp, hholder⟩ => ⟨slot, p, hp, hholder⟩
  · exact hsettled.started
  · exact hsettled.vif
  · exact fun _ _ => ⟨rfl, rfl, hpeers (by simpa using hr)⟩
  · exact nofun
  · intro i hi
    exact absurd hi (by simp [Context.asked, hnone i])
  · intro _ i hi
    exact absurd hi (by simp [Context.asked, hnone i])

/-- Other code neither stops the device nor changes the primary address. -/
def HalCall.Steady (vif : Option Mac) : HalCall → Prop
  | .surroundings x => x.started = true ∧ x.vif = vif
  | _ => True

/-- Between the calls the pool is settled; the demand for recovery ends with a quiesce. -/
lemma exec_settled (h : Settled primary c) {call : HalCall} (hsteady : call.Steady primary) :
    wp (call.exec driver) (fun _ c' => Settled primary c' ∧
      (c.awdlRecovery = true → c'.awdlRecovery = false →
        call = .quiesce ∧ ((rtw89LinuxAwdlQuiesce driver).run c).1 = true)) c := by
  -- Calls that do not end a demand for recovery.
  have hkeep : ∀ c' : Context D, Settled primary c' →
      (c.awdlRecovery = true → c'.awdlRecovery = true) → Settled primary c' ∧ (c.awdlRecovery = true → c'.awdlRecovery = false →
        call = .quiesce ∧ ((rtw89LinuxAwdlQuiesce driver).run c).1 = true) := by
    grind
  have hradio : ∀ c', RadioOnly c c' → _ := fun c' honly => by
    have hrecovery := congrArg Context.awdlRecovery honly.beside
    exact hkeep c' (h.of_radioOnly honly) hrecovery.trans
  cases call with
  | reserveRadio frequency durationMs =>
    exact wp_discard.mpr (wp_mono (rtw89LinuxAwdlReserveRadio_radioOnly frequency durationMs c)
      fun _ c' honly => hradio c' honly)
  | restore =>
    exact wp_discard.mpr (wp_mono (rtw89LinuxAwdlRestore_radioOnly c)
      fun _ c' honly => hradio c' honly)
  | setPeer address add =>
    cases add with
    | true =>
      exact wp_discard.mpr (wp_mono (setPeer_add_spec h address)
        fun _ c' ⟨hsettled, _, hstill⟩ => hkeep c' hsettled hstill)
    | false =>
      exact wp_discard.mpr (wp_mono (setPeer_remove_spec h address)
        fun _ c' ⟨hsettled, _, hstill⟩ => hkeep c' hsettled hstill)
  | addInterface mac =>
    exact wp_discard.mpr (wp_mono (addInterface_settled h mac)
      fun _ c' ⟨hsettled, hrecovery⟩ => hkeep c' hsettled hrecovery.trans)
  | quiesce =>
    have hresult : wp (rtw89LinuxAwdlQuiesce driver)
        (fun r _ => r = ((rtw89LinuxAwdlQuiesce driver).run c).1) c := rfl
    refine wp_discard.mpr (wp_mono (wp_and (quiesce_settled h) hresult)
      fun r c' ⟨⟨hsettled, hquiesced⟩, hr⟩ => ⟨hsettled, fun _ hcalm => ⟨rfl, ?_⟩⟩)
    by_contra hfalse
    have hdemand := (hquiesced.recovery (hr.trans (Bool.eq_false_iff.mpr hfalse))).1
    grind
  | surroundings x =>
    obtain ⟨hstarted, hvif⟩ := hsteady
    refine wp_modify.mpr (hkeep _ ⟨?_, hstarted, hvif, h.interface, h.empty, ?_, ?_⟩ ?_)
    · exact h.sound.beside rfl rfl (fun _ => id) (grown_refl _) h.sound.gate
    · grind [h.usable, h.vif]
    · grind [h.live]
    grind
  | otherPeer slot peer =>
    refine wp_modify.mpr (hkeep _ ?_ ?_)
    · split
      · exact h
      refine ⟨?_, h.started, h.vif, h.interface, h.empty, h.usable, h.live⟩
      refine h.sound.beside rfl rfl (fun sta hholds => ?_) (grown_refl _) h.sound.gate
      obtain ⟨slot', p, hp, hholder⟩ := hholds
      by_cases hslot : slot' = slot
      · grind [Option.map_eq_some_iff]
      · simp only [Function.update_of_ne hslot] at hp
        exact ⟨slot', p, hp, hholder⟩
    · split <;> exact id

/-- The pool is settled after any such calls. -/
lemma runCalls_settled (h : Settled primary c) (calls : List HalCall)
    (hsteady : ∀ call ∈ calls, call.Steady primary) : Settled primary (runCalls driver calls c) := by
  induction calls generalizing c with
  | nil => exact h
  | cons call calls ih =>
    exact ih (exec_settled h (hsteady call List.mem_cons_self)).1
      fun call' hcall' => hsteady call' (List.mem_cons_of_mem _ hcall')

/-- Recovery is asked for until a quiesce returns true. -/
lemma runCalls_recovery (h : Settled primary c) (hdemand : c.awdlRecovery = true)
    (calls : List HalCall) (hsteady : ∀ call ∈ calls, call.Steady primary)
    (hfailed : ∀ earlier later, calls = earlier ++ .quiesce :: later →
      ((rtw89LinuxAwdlQuiesce driver).run (runCalls driver earlier c)).1 = false) :
    (runCalls driver calls c).awdlRecovery = true := by
  induction calls generalizing c with
  | nil => exact hdemand
  | cons call calls ih =>
    obtain ⟨hsettled, hend⟩ := exec_settled h (hsteady call List.mem_cons_self)
    refine ih hsettled ?_ (fun call' hcall' => hsteady call' (List.mem_cons_of_mem _ hcall')) ?_
    · by_contra hcalm
      obtain ⟨rfl, hok⟩ := hend hdemand (Bool.eq_false_iff.mpr hcalm)
      have hnot := hfailed [] calls rfl
      grind [runCalls]
    · intro earlier later heq
      exact hfailed (call :: earlier) later (by rw [heq]; rfl)

/-- A started context without AWDL. -/
structure Fresh (c : Context D) : Prop where
  started : c.started = true
  awdlInterface : c.awdlInterface = {}
  entries : c.entries = fun _ => {}
  registry : ∀ slot p, c.registry.peers slot = some p → p.holder.isAwdl = false
  paused : c.paused = false
  log : c.log = []

lemma Fresh.settled (h : Fresh c) : Settled c.vif c := by
  have hnone : ∀ i, (c.entries i).station = none := fun i => by rw [h.entries]
  refine ⟨⟨?_, ?_, ?_, ?_, ?_, ?_, ?_, ?_, ?_, ?_, ?_⟩, h.started, rfl, ?_, fun _ => hnone, ?_, ?_⟩
  · intro i _
    rw [h.entries]
  · intro i sta hi
    exact absurd ((hnone i).symm.trans hi) nofun
  · intro i j sta hi
    exact absurd ((hnone i).symm.trans hi) nofun
  · intro i j hi
    simp [hnone i] at hi
  · intro i sta hi
    exact absurd ((hnone i).symm.trans hi) nofun
  · intro i sta hi
    exact absurd ((hnone i).symm.trans hi) nofun
  · intro sta hheld
    rw [h.log] at hheld
    exact absurd hheld (by simp [registeredIn])
  · intro sta _
    rw [h.log]
    rfl
  · rintro sta ⟨slot, p, hp, hholder⟩
    have hother := h.registry slot p hp
    simp [hholder, Holder.isAwdl] at hother
  · rw [h.log, h.paused]
    rfl
  · intro before sta later heq
    rw [h.log] at heq
    exact absurd heq (by simp)
  · intro v hv
    rw [h.awdlInterface] at hv
    exact absurd hv nofun
  · intro i hi
    simp [hnone i] at hi
  · intro _ i hi
    simp [hnone i] at hi

/-- The pool of AWDL stations, for any driver, after any calls on a context that stays started.

1. Entries have distinct addresses, and the registry holds no station that left the pool.
2. A station was freed only after it was unregistered and the driver had given it up, and with the
   gate paused only after the queues were drained.
3. The answers to additions and removals mean what `Added` and `Removed` say.
4. After a quiesce that returns true the pool is empty; one that returns false asks for recovery.
5. While recovery is asked for no addition succeeds, and only a quiesce that returns true ends
   that. -/
theorem awdl_peer_pool (driver : Driver D) (c₀ : Context D) (h₀ : Fresh c₀)
    (calls : List HalCall) (hsteady : ∀ call ∈ calls, call.Steady c₀.vif) :
    let c := runCalls driver calls c₀
    (∀ i j, (c.entries i).station.isSome → (c.entries j).station.isSome →
      (c.entries i).address = (c.entries j).address → i = j) ∧
    (∀ sta, c.registry.Holds sta → ∃ i, (c.entries i).station = some sta) ∧
    (∀ before sta later, c.log = before ++ .free sta :: later → Safe sta before) ∧
    (∀ address, let out := (rtw89LinuxAwdlSetPeer driver address true).run c
      Added address c out.2 out.1) ∧
    (∀ address, let out := (rtw89LinuxAwdlSetPeer driver address false).run c
      Removed address out.2 out.1) ∧
    (Quiesced ((rtw89LinuxAwdlQuiesce driver).run c).2 ((rtw89LinuxAwdlQuiesce driver).run c).1) ∧
    (c.awdlRecovery = true → ∀ more : List HalCall, (∀ call ∈ more, call.Steady c₀.vif) →
      (∀ earlier later, more = earlier ++ .quiesce :: later →
        ((rtw89LinuxAwdlQuiesce driver).run (runCalls driver earlier c)).1 = false) →
      (runCalls driver more c).awdlRecovery = true ∧
      ∀ address, ((rtw89LinuxAwdlSetPeer driver address true).run (runCalls driver more c)).1 ≠
        .success) := by
  intro c
  have h : Settled c₀.vif c := runCalls_settled h₀.settled calls hsteady
  refine ⟨h.sound.distinct, fun sta hholds => h.sound.held sta (h.sound.registry sta hholds),
    h.sound.frees, fun address => (setPeer_add_spec h address).2.1,
    fun address => (setPeer_remove_spec h address).2.1, (quiesce_settled h).2, ?_⟩
  intro hdemand more hmore hfailed
  have hstill := runCalls_recovery h hdemand more hmore hfailed
  refine ⟨hstill, fun address => ?_⟩
  exact (setPeer_add_spec (runCalls_settled h more hmore) address).2.1.blocked hstill

lemma fresh_primaryOnly : Fresh primaryOnly := ⟨rfl, rfl, rfl, nofun, rfl, rfl⟩

/-- Two stations come, the radio goes on a visit, and one station goes again. -/
theorem awdl_peer_pool_visit :
    let c := runCalls steadyDriver [.addInterface (stationMac 2), .setPeer (stationMac 3) true,
      .reserveRadio 5180 50, .setPeer (stationMac 4) true] primaryOnly
    c.Has (stationMac 3) PoolEntry.Live ∧
    ¬ ((rtw89LinuxAwdlSetPeer steadyDriver (stationMac 3) false).run c).2.Has (stationMac 3)
      fun _ => True := by
  intro c
  have hpool := awdl_peer_pool steadyDriver primaryOnly fresh_primaryOnly
    [.addInterface (stationMac 2), .setPeer (stationMac 3) true, .reserveRadio 5180 50,
      .setPeer (stationMac 4) true] (by simp [HalCall.Steady])
  have hremoved : ((rtw89LinuxAwdlSetPeer steadyDriver (stationMac 3) false).run c).1 = .success := by
    decide +kernel
  have hentry : (c.entries 0).station = some 0 ∧ (c.entries 0).address = stationMac 3 ∧
      (c.entries 0).registered = true ∧ (c.entries 0).retiring = false ∧
      (c.entries 0).state = staAuthorized := by decide +kernel
  obtain ⟨hstation, haddress, hregistered, hretiring, hstate⟩ := hentry
  refine ⟨⟨0, by simp [hstation], haddress, hregistered, hretiring, hstate⟩, ?_⟩
  exact (hpool.2.2.2.2.1 (stationMac 3)).success hremoved

end

end AirportAwdl.Hal
