import AirportAwdl.Hal.Peers

/-!
# The ledger of radio leases

After every call the gate of the primary traffic is paused exactly if the AWDL interface owes a
restore. The driver's functions touch the ROC and nothing else (`RocOnly`), the pool's functions
leave the gate and the ROC alone (`PoolOnly`), so that only the bridge's own reserve and restore
have to be looked at.
-/

namespace AirportAwdl.Hal

open StateProgram Scheduler

section
variable {D : Type} {driver : Driver D} {c : Context D} {c' : Context D}

/-- Everything but the gate, the ROC, the driver and the log. -/
def Context.besideRadio (c : Context D) : Context Unit where
  driver := ()
  started := c.started
  interfaceAdded := c.interfaceAdded
  scanning := c.scanning
  awdlRecovery := c.awdlRecovery
  station := c.station
  vif := c.vif
  awdlInterface := { c.awdlInterface with
    vif := c.awdlInterface.vif.map fun v => { v with roc := {} } }
  txResume := c.txResume
  awdlPeers := c.awdlPeers
  entries := c.entries
  registry := c.registry
  stations := c.stations

/-- The driver was asked, about neither the gate nor a station. -/
structure AskedOnly (c c' : Context D) : Prop where
  rest : c' = { c with driver := c'.driver, log := c'.log }
  log : ∃ seg, c'.log = c.log ++ seg ∧ ∀ e ∈ seg, e.isGate = false ∧ e.about = none

/-- Only the ROC, the driver and the log have changed; no event is about the gate or a station. -/
structure RocOnly (c c' : Context D) : Prop where
  beside : c'.besideRadio = c.besideRadio
  paused : c'.paused = c.paused
  log : ∃ seg, c'.log = c.log ++ seg ∧ ∀ e ∈ seg, e.isGate = false ∧ e.about = none

/-- The pool, the registry and the rest may have changed; the gate and the AWDL interface are as
they were. -/
structure PoolOnly (c c' : Context D) : Prop where
  awdlInterface : c'.awdlInterface = c.awdlInterface
  paused : c'.paused = c.paused
  txResume : c'.txResume = c.txResume
  log : ∃ seg, c'.log = c.log ++ seg ∧ ∀ e ∈ seg, e.isGate = false

lemma grown_refl {P : HalEvent → Prop} (log : List HalEvent) :
    ∃ seg, log = log ++ seg ∧ ∀ e ∈ seg, P e := ⟨[], (List.append_nil log).symm, nofun⟩

lemma grown_trans {P : HalEvent → Prop} {log log' log'' : List HalEvent}
    (h : ∃ seg, log' = log ++ seg ∧ ∀ e ∈ seg, P e)
    (h' : ∃ seg, log'' = log' ++ seg ∧ ∀ e ∈ seg, P e) :
    ∃ seg, log'' = log ++ seg ∧ ∀ e ∈ seg, P e := by
  grind

instance : IsPreorder (Context D) AskedOnly where
  refl c := ⟨rfl, grown_refl c.log⟩
  trans c c' c'' h h' := by
    refine ⟨?_, grown_trans h.log h'.log⟩
    rw [h'.rest, h.rest]

instance : IsPreorder (Context D) RocOnly where
  refl c := ⟨rfl, rfl, grown_refl c.log⟩
  trans _ _ _ h h' :=
    ⟨h'.beside.trans h.beside, h'.paused.trans h.paused, grown_trans h.log h'.log⟩

instance : IsPreorder (Context D) PoolOnly where
  refl c := ⟨rfl, rfl, rfl, grown_refl c.log⟩
  trans _ _ _ h h' := ⟨h'.awdlInterface.trans h.awdlInterface, h'.paused.trans h.paused,
    h'.txResume.trans h.txResume, grown_trans h.log h'.log⟩

lemma AskedOnly.rocOnly (h : AskedOnly c c') : RocOnly c c' := by
  refine ⟨?_, ?_, h.log⟩
  · rw [h.rest]
    rfl
  · rw [h.rest]

lemma AskedOnly.poolOnly (h : AskedOnly c c') : PoolOnly c c' := by
  obtain ⟨seg, hseg, hall⟩ := h.log
  refine ⟨?_, ?_, ?_, seg, hseg, fun e he => (hall e he).1⟩ <;> rw [h.rest]

lemma ask_askedOnly (op : DriverOp) (h : ∀ answer, (HalEvent.driver op answer).about = none) :
    Preserves AskedOnly (ask driver op) := fun c =>
  ⟨rfl, [.driver op (driver op c.driver).1], rfl, fun e he => by
    rw [List.mem_singleton.mp he]
    exact ⟨rfl, h _⟩⟩

lemma awaitTxqEmpty_askedOnly (attempts : ℕ) :
    Preserves AskedOnly (awaitTxqEmpty driver attempts) := by
  induction attempts with
  | zero => exact .pure
  | succ attempts ih =>
    refine .bind (ask_askedOnly _ fun _ => rfl) fun _ => .ite .pure ?_
    exact .bind (ask_askedOnly _ fun _ => rfl) fun _ => .ite (ask_askedOnly _ fun _ => rfl) ih

lemma drainQueues_askedOnly : Preserves AskedOnly (drainQueues driver) := by
  refine .bind (ask_askedOnly _ fun _ => rfl) fun _ => .ite .pure ?_
  exact .bind (ask_askedOnly _ fun _ => rfl) fun _ => .ite .pure (awaitTxqEmpty_askedOnly 20)

lemma rtw89MacosAwdlTxDrain_askedOnly : Preserves AskedOnly (rtw89MacosAwdlTxDrain driver) := by
  have hnote : ∀ result, Preserves AskedOnly (note (D := D) (.txDrain result)) := by
    intro result c
    refine wp_modify.mpr ⟨rfl, [.txDrain result], rfl, fun e he => ?_⟩
    rw [List.mem_singleton.mp he]
    exact ⟨rfl, rfl⟩
  exact .bind drainQueues_askedOnly fun result => .bind (hnote result) fun _ => .pure

lemma awaitDrained_askedOnly (wait : ℕ) : Preserves AskedOnly (awaitDrained driver wait) := by
  induction wait with
  | zero => exact ask_askedOnly _ fun _ => rfl
  | succ wait ih => exact .bind (ask_askedOnly _ fun _ => rfl) fun _ => .ite .pure ih

lemma awdlFrequencyChannel_askedOnly (frequency : ℕ) :
    Preserves AskedOnly (awdlFrequencyChannel driver frequency) := by
  refine .bind (ask_askedOnly _ fun _ => rfl) fun low => ?_
  cases (low.getD []).find? (usableChannel .ghz2 frequency) with
  | some c => exact .pure
  | none => exact .bind (ask_askedOnly _ fun _ => rfl) fun _ => .pure

lemma ask_rocOnly (op : DriverOp) (h : ∀ answer, (HalEvent.driver op answer).about = none) :
    Preserves RocOnly (ask driver op) := (ask_askedOnly op h).mono AskedOnly.rocOnly

lemma assignRoc_rocOnly (f : Roc → Roc) : Preserves RocOnly (assignRoc (D := D) f) := by
  intro c
  refine wp_modify.mpr ⟨?_, rfl, grown_refl c.log⟩
  simp [Context.besideRadio, Context.setRoc, Option.map_map, Function.comp_def]

lemma rtw89RocEnd_rocOnly : Preserves RocOnly (rtw89RocEnd driver) := by
  refine .bind .get fun c => .ite .pure (.ite .pure ?_)
  refine .bind (ask_rocOnly _ fun _ => rfl) fun _ => .ite .pure ?_
  refine .bind (ask_rocOnly _ fun _ => rfl) fun _ => .ite .pure ?_
  refine .bind (assignRoc_rocOnly _) fun _ => ?_
  refine .bind (ask_rocOnly _ fun _ => rfl) fun _ => .ite .pure ?_
  exact .bind (assignRoc_rocOnly _) fun _ => .pure

lemma rtw89RocStartOn_rocOnly (linkId : ℕ) (manual : Bool) :
    Preserves RocOnly (rtw89RocStartOn driver linkId manual) := by
  refine .bind (assignRoc_rocOnly _) fun _ => .bind (ask_rocOnly _ fun _ => rfl) fun _ => .ite ?_ ?_
  · exact .bind (ask_rocOnly _ fun _ => rfl) fun _ => .bind (assignRoc_rocOnly _) fun _ => .pure
  refine .bind .get fun c => .bind (ask_rocOnly _ fun _ => rfl) fun _ => .ite ?_ ?_
  · exact .bind rtw89RocEnd_rocOnly fun _ => .pure
  · exact .bind (assignRoc_rocOnly _) fun _ => .pure

lemma rtw89RocStartInternal_rocOnly (manual : Bool) :
    Preserves RocOnly (rtw89RocStartInternal driver manual) := by
  refine .bind (assignRoc_rocOnly _) fun _ => .bind (ask_rocOnly _ fun _ => rfl) fun _ => .ite ?_ ?_
  · exact .bind (assignRoc_rocOnly _) fun _ => .pure
  refine .bind (ask_rocOnly _ fun _ => rfl) fun link => ?_
  cases link with
  | none => exact .bind (assignRoc_rocOnly _) fun _ => .pure
  | some linkId => exact rtw89RocStartOn_rocOnly linkId manual

lemma rtw89AwdlRocStart_rocOnly (vif : AwdlVif) (channel : Ieee80211Channel) (durationMs : ℕ) :
    Preserves RocOnly (rtw89AwdlRocStart driver vif channel durationMs) := by
  refine .bind (ask_rocOnly _ fun _ => rfl) fun _ => .ite .pure (.ite .pure ?_)
  exact .bind (assignRoc_rocOnly _) fun _ => rtw89RocStartInternal_rocOnly true

lemma rtw89MacosAwdlRestore_rocOnly (vif : AwdlVif) :
    Preserves RocOnly (rtw89MacosAwdlRestore driver vif) := by
  refine .ite .pure (.ite .pure (.ite .pure (.ite ?_ rtw89RocEnd_rocOnly)))
  exact .bind (rtw89MacosAwdlTxDrain_askedOnly.mono AskedOnly.rocOnly) fun _ =>
    .ite .pure rtw89RocEnd_rocOnly

lemma rtw89MacosAwdlReserve_rocOnly (vif : Option AwdlVif) (channel : Option Ieee80211Channel)
    (durationMs : ℕ) :
    Preserves RocOnly (rtw89MacosAwdlReserve driver vif channel durationMs) := by
  cases channel with
  | none => exact .pure
  | some channel =>
    cases vif with
    | none => exact .pure
    | some vif => exact rtw89AwdlRocStart_rocOnly vif channel durationMs

lemma startVisit_rocOnly (frequency durationMs : ℕ) :
    Preserves RocOnly (startVisit driver frequency durationMs) := by
  refine .bind .get fun c => .ite ?_ .pure
  refine .bind ((awdlFrequencyChannel_askedOnly frequency).mono AskedOnly.rocOnly) fun channel => ?_
  exact .bind (rtw89MacosAwdlReserve_rocOnly _ channel durationMs) fun _ => .bind .get fun _ => .pure

/-- The radio is home and the stations are awake. -/
def homeAndAwake : List HalEvent :=
  [.driver (.setChannel none) (0 : Errno), .driver (.stationPs false) (0 : Errno)]

lemma rtw89RocEnd_spec :
    wp (rtw89RocEnd driver) (fun r c' =>
      c'.roc.manual = c.roc.manual ∧
      (r = 0 → c'.roc.state = .idle ∧
        (c.roc.state ≠ .idle → ∃ a, c'.log = c.log ++ a ++ homeAndAwake)) ∧
      (r ≠ 0 → c'.roc.state = c.roc.state)) c := by
  refine wp_bind.mpr (wp_get.mpr (wp_ite.mpr ⟨fun hidle => ?_, fun hidle => ?_⟩))
  · exact ⟨rfl, fun _ => ⟨hidle, fun h => absurd hidle h⟩, fun _ => rfl⟩
  refine wp_ite.mpr ⟨fun _ => ?_, fun _ => ?_⟩
  · exact ⟨rfl, fun h => absurd h einval_ne_zero, fun _ => rfl⟩
  refine wp_bind.mpr (wp_ask.mpr (wp_ite.mpr ⟨fun _ => ?_, fun _ => ?_⟩))
  · exact ⟨rfl, fun h => absurd h enolink_ne_zero, fun _ => rfl⟩
  refine wp_bind.mpr (wp_ask.mpr (wp_ite.mpr ⟨fun hret => ?_, fun hhome => ?_⟩))
  · exact wp_pure.mpr ⟨rfl, fun h => absurd h hret, fun _ => rfl⟩
  -- The radio is home; the lease is not over before the stations are awake.
  have hvif : c.awdlInterface.vif.isSome := isSome_of_roc hidle
  have hroc := roc_setRoc hvif fun r => { r with onChannel := false }
  refine wp_bind.mpr (wp_modify.mpr (wp_bind.mpr (wp_ask.mpr (wp_ite.mpr
    ⟨fun hret => ?_, fun hawake => ?_⟩))))
  · have hmanual := congrArg Roc.manual hroc
    have hstate := congrArg Roc.state hroc
    exact wp_pure.mpr ⟨hmanual, fun h => absurd h hret, fun _ => hstate⟩
  have hended := roc_setRoc (c := c.setRoc fun r => { r with onChannel := false })
    (by simpa [Context.setRoc] using hvif) fun r => { r with state := .idle, announced := false }
  rw [hroc] at hended
  have hmanual := congrArg Roc.manual hended
  have hstate := congrArg Roc.state hended
  refine wp_bind.mpr (wp_modify.mpr (wp_pure.mpr
    ⟨hmanual, fun _ => ⟨hstate, fun _ => ?_⟩, fun h => absurd rfl h⟩))
  refine ⟨[.driver (.link c.roc.linkId) (driver (.link c.roc.linkId) c.driver).1], ?_⟩
  have h1 := not_not.mp hhome
  have h2 := not_not.mp hawake
  simp only [Context.setRoc, Context.asked, homeAndAwake] at h1 h2 ⊢
  rw [h1, h2]
  simp

lemma tuned_asked {channel : Option Ieee80211Channel}
    (h : (driver (.setChannel channel) c.driver).1 = (0 : Errno)) :
    tuned (c.asked driver (.setChannel channel)).log = some channel := by
  simp [tuned, Context.asked, h]

lemma rtw89RocStartOn_spec (hvif : c.awdlInterface.vif.isSome) (linkId : ℕ) (manual : Bool) :
    wp (rtw89RocStartOn driver linkId manual) (fun r c' => r = 0 →
      c'.roc.manual = c.roc.manual ∧ c'.roc.state = c.roc.state ∧
      tuned c'.log = some (some c.roc.chan)) c := by
  have hroc := roc_setRoc hvif fun r => { r with linkId }
  refine wp_bind.mpr (wp_modify.mpr (wp_bind.mpr (wp_ask.mpr (wp_ite.mpr
    ⟨fun hret => ?_, fun _ => ?_⟩))))
  · exact fun hzero => absurd hzero hret
  refine wp_bind.mpr (wp_get.mpr (wp_bind.mpr (wp_ask.mpr (wp_ite.mpr
    ⟨fun hret => ?_, fun hon => ?_⟩))))
  · exact fun hzero => absurd hzero hret
  have hstarted := roc_setRoc (c := c.setRoc fun r => { r with linkId })
    (by simpa [Context.setRoc] using hvif)
    fun r => { r with onChannel := true, announced := !manual }
  rw [hroc] at hstarted
  have hmanual := congrArg Roc.manual hstarted
  have hstate := congrArg Roc.state hstarted
  refine wp_bind.mpr (wp_modify.mpr (wp_pure.mpr fun _ => ⟨hmanual, hstate, ?_⟩))
  -- Programming the channel was the last thing that the driver did.
  have hchan := congrArg (fun roc => some (some (Roc.chan roc))) hroc
  exact (tuned_asked (not_not.mp hon)).trans hchan

lemma rtw89RocStartInternal_spec (hvif : c.awdlInterface.vif.isSome) (manual : Bool) :
    wp (rtw89RocStartInternal driver manual) (fun r c' => r = 0 →
      c'.roc.manual = manual ∧ c'.roc.state = c.roc.state ∧
      tuned c'.log = some (some c.roc.chan)) c := by
  have hroc := roc_setRoc hvif fun r => { r with manual, onChannel := false, announced := false }
  refine wp_bind.mpr (wp_modify.mpr (wp_bind.mpr (wp_ask.mpr (wp_ite.mpr
    ⟨fun _ => ?_, fun _ => ?_⟩))))
  · exact fun hzero => absurd hzero ebusy_ne_zero
  refine wp_bind.mpr (wp_ask.mpr ?_)
  cases (driver .designatedLink _).1 with
  | none => exact fun hzero => absurd hzero enolink_ne_zero
  | some linkId =>
    refine wp_mono (rtw89RocStartOn_spec (by simpa [Context.setRoc, Context.asked] using hvif)
      linkId manual) fun r c' h hzero => ?_
    obtain ⟨hmanual, hstate, htuned⟩ := h hzero
    have hmanual₀ := congrArg Roc.manual hroc
    have hstate₀ := congrArg Roc.state hroc
    have hchan₀ := congrArg (fun roc => some (some (Roc.chan roc))) hroc
    exact ⟨hmanual.trans hmanual₀, hstate.trans hstate₀, htuned.trans hchan₀⟩

lemma rtw89AwdlRocStart_spec {vif : AwdlVif} (hvif : c.awdlInterface.vif = some vif)
    (channel : Ieee80211Channel) (durationMs : ℕ) :
    wp (rtw89AwdlRocStart driver vif channel durationMs) (fun r c' => r = 0 →
      c'.needsRestore = true ∧ tuned c'.log = some (some channel)) c := by
  refine wp_bind.mpr (wp_ask.mpr (wp_ite.mpr ⟨fun _ => ?_, fun _ => wp_ite.mpr
    ⟨fun _ => ?_, fun _ => ?_⟩⟩))
  · exact fun hzero => absurd hzero einval_ne_zero
  · exact fun hzero => absurd hzero ebusy_ne_zero
  have hsome : c.awdlInterface.vif.isSome := by simp [hvif]
  have hroc := roc_setRoc hsome
    fun r => { r with state := .normal, duration := durationMs, chan := channel }
  refine wp_bind.mpr (wp_modify.mpr (wp_mono (rtw89RocStartInternal_spec
    (by simpa [Context.setRoc, Context.asked] using hsome) true) fun r c' h hzero => ?_))
  obtain ⟨hmanual, hstate, htuned⟩ := h hzero
  have hnormal : c'.roc.state = .normal := hstate.trans (congrArg Roc.state hroc)
  refine ⟨by simp [Context.needsRestore, hmanual, hnormal], ?_⟩
  exact htuned.trans (congrArg (fun roc => some (some (Roc.chan roc))) hroc)

lemma awdlFrequencyChannel_spec (frequency : ℕ) :
    wp (awdlFrequencyChannel driver frequency) (fun channel _ =>
      ∀ x ∈ channel, x.centerFreq = frequency) c := by
  have hfound : ∀ (band : Band) (channels : List Ieee80211Channel),
      ∀ x ∈ channels.find? (usableChannel band frequency), x.centerFreq = frequency := by
    intro band channels x hx
    have husable : usableChannel band frequency x = true := List.find?_some hx
    simp only [usableChannel, Bool.and_eq_true, beq_iff_eq] at husable
    exact husable.1.1
  refine wp_bind.mpr (wp_ask.mpr ?_)
  have hlow := hfound .ghz2 ((driver (.supportedChannels .ghz2) c.driver).1.getD [])
  cases hfind : ((driver (.supportedChannels .ghz2) c.driver).1.getD []).find?
      (usableChannel .ghz2 frequency) with
  | some channel =>
    rw [hfind] at hlow
    exact hlow
  | none => exact hfound .ghz5 _

lemma startVisit_spec (frequency durationMs : ℕ) :
    wp (startVisit driver frequency durationMs) (fun out c' =>
      (out.2 = c'.needsRestore ∨ out.1 ≠ 0 ∧ out.2 = false ∧ c' = c) ∧
      (out.1 = 0 → c'.needsRestore = true ∧
        ∃ channel, channel.centerFreq = frequency ∧ tuned c'.log = some (some channel))) c := by
  refine wp_bind.mpr (wp_get.mpr (wp_ite.mpr ⟨fun _ => ?_, fun _ => ?_⟩))
  swap
  · exact ⟨.inr ⟨ebusy_ne_zero, rfl, rfl⟩, fun hzero => absurd hzero ebusy_ne_zero⟩
  refine wp_seq (wp_and (awdlFrequencyChannel_spec frequency)
    (awdlFrequencyChannel_askedOnly frequency c)) fun channel c₁ ⟨hfreq, hasked⟩ => ?_
  have hkeep : c₁.awdlInterface = c.awdlInterface := hasked.poolOnly.awdlInterface
  have hstart : wp (rtw89MacosAwdlReserve driver c.awdlInterface.vif channel durationMs)
      (fun r c' => r = 0 → c'.needsRestore = true ∧
        ∃ channel, channel.centerFreq = frequency ∧ tuned c'.log = some (some channel)) c₁ := by
    cases channel with
    | none => exact fun hzero => absurd hzero einval_ne_zero
    | some channel =>
      cases hvif : c.awdlInterface.vif with
      | none => exact fun hzero => absurd hzero einval_ne_zero
      | some vif =>
        refine wp_mono (rtw89AwdlRocStart_spec (hkeep ▸ hvif) channel durationMs)
          fun r c' h hzero => ?_
        exact ⟨(h hzero).1, channel, hfreq channel rfl, (h hzero).2⟩
  refine wp_seq hstart fun r c' h => ?_
  exact ⟨.inl rfl, h⟩

lemma needsRestore_congr (h : c'.awdlInterface = c.awdlInterface) :
    c'.needsRestore = c.needsRestore := by
  simp only [Context.needsRestore, Context.roc, h]

lemma rtw89MacosAwdlRestore_spec {vif : AwdlVif} (hvif : c.awdlInterface.vif = some vif) :
    wp (rtw89MacosAwdlRestore driver vif) (fun r c' =>
      (r = 0 → c'.needsRestore = false ∧
        (c.needsRestore = true → ∃ a, c'.log = c.log ++ a ++ homeAndAwake)) ∧
      (r ≠ 0 → c'.needsRestore = c.needsRestore)) c := by
  have hroc : c.roc = vif.roc := by simp [Context.roc, hvif]
  refine wp_ite.mpr ⟨fun _ => ?_, fun _ => wp_ite.mpr ⟨fun hidle => ?_, fun hidle => wp_ite.mpr
    ⟨fun _ => ?_, fun _ => ?_⟩⟩⟩
  · exact ⟨fun hzero => absurd hzero einval_ne_zero, fun _ => rfl⟩
  · have hnone : c.needsRestore = false := by simp [Context.needsRestore, hroc, hidle]
    exact ⟨fun _ => ⟨hnone, fun h => absurd h (by simp [hnone])⟩, fun h => absurd rfl h⟩
  · exact ⟨fun hzero => absurd hzero ebusy_ne_zero, fun _ => rfl⟩
  -- The end of the ROC, with the queues drained before it or not.
  have hend : ∀ c₁, AskedOnly c c₁ → wp (rtw89RocEnd driver) (fun r c' =>
      (r = 0 → c'.needsRestore = false ∧
        (c.needsRestore = true → ∃ a, c'.log = c.log ++ a ++ homeAndAwake)) ∧
      (r ≠ 0 → c'.needsRestore = c.needsRestore)) c₁ := by
    intro c₁ hasked
    obtain ⟨seg, hseg, -⟩ := hasked.log
    have hroc₁ : c₁.roc = c.roc := by
      simp only [Context.roc, hasked.poolOnly.awdlInterface]
    refine wp_mono rtw89RocEnd_spec fun r c' hended => ?_
    obtain ⟨hmanual, hzero, hne⟩ := hended
    refine ⟨fun hr => ?_, fun hr => ?_⟩
    · obtain ⟨hstate, hlog⟩ := hzero hr
      refine ⟨by simp [Context.needsRestore, hstate], fun _ => ?_⟩
      grind
    · simp only [Context.needsRestore, hmanual, hne hr, hroc₁]
  refine wp_ite.mpr ⟨fun _ => ?_, fun _ => hend c (refl_of AskedOnly c)⟩
  refine wp_seq (rtw89MacosAwdlTxDrain_askedOnly c) fun ret c₁ hasked => wp_ite.mpr
    ⟨fun hret => ?_, fun _ => hend c₁ hasked⟩
  exact ⟨fun hzero => absurd hzero hret,
    fun _ => needsRestore_congr hasked.poolOnly.awdlInterface⟩

def HalEvent.isResume : HalEvent → Bool
  | .resume => true
  | _ => false

def HalEvent.isTxResume : HalEvent → Bool
  | .txResume => true
  | _ => false

/-- How often the gate was opened. -/
def openings (log : List HalEvent) : ℕ := log.countP HalEvent.isResume

/-- How often the native owner got its signal. -/
def signals (log : List HalEvent) : ℕ := log.countP HalEvent.isTxResume

/-- The gate was opened `k` times, each time with one signal. -/
structure Signalled (k : ℕ) (c c' : Context D) : Prop where
  txResume : c'.txResume = c.txResume
  openings : openings c'.log = openings c.log + k
  signals : signals c'.log = signals c.log + if c.txResume then k else 0

lemma Signalled.trans {k l : ℕ} {c' c'' : Context D} (h : Signalled k c c')
    (h' : Signalled l c' c'') : Signalled (k + l) c c'' := by
  refine ⟨h'.txResume.trans h.txResume, ?_, ?_⟩
  · rw [h'.openings, h.openings]
    omega
  · rw [h'.signals, h.signals, h.txResume]
    split <;> omega

lemma signalled_of_grown (htx : c'.txResume = c.txResume)
    (h : ∃ seg, c'.log = c.log ++ seg ∧ ∀ e ∈ seg, e.isGate = false) : Signalled 0 c c' := by
  obtain ⟨seg, hseg, hall⟩ := h
  have hopen : seg.countP HalEvent.isResume = 0 := by
    grind [HalEvent.isGate, HalEvent.isResume]
  have hsignal : seg.countP HalEvent.isTxResume = 0 := by
    grind [HalEvent.isGate, HalEvent.isTxResume]
  refine ⟨htx, ?_, ?_⟩
  · simp [openings, hseg, List.countP_append, hopen]
  · simp [signals, hseg, List.countP_append, hsignal]

lemma RocOnly.signalled (h : RocOnly c c') : Signalled 0 c c' := by
  obtain ⟨seg, hseg, hall⟩ := h.log
  have htx := congrArg Context.txResume h.beside
  exact signalled_of_grown htx ⟨seg, hseg, fun e he => (hall e he).1⟩

lemma PoolOnly.signalled (h : PoolOnly c c') : Signalled 0 c c' :=
  signalled_of_grown h.txResume h.log

lemma signalled_opened (c : Context D) : Signalled 1 c c.opened := by
  refine ⟨rfl, ?_, ?_⟩
  · cases htx : c.txResume <;> simp [openings, Context.opened, htx, List.countP_cons, HalEvent.isResume]
  · cases htx : c.txResume <;>
      simp [signals, Context.opened, htx, List.countP_cons, HalEvent.isTxResume]

/-- One call as the ledger sees it: afterwards the gate is paused iff a restore is owed, and it was
opened at most once, with one signal. -/
structure LeaseStep (c c' : Context D) : Prop where
  ledger : c'.paused = c'.needsRestore
  signal : ∃ k ≤ 1, Signalled k c c'

/-- A step that leaves the gate and the interface alone. -/
lemma LeaseStep.of_poolOnly (h : PoolOnly c c')
    (hledger : c.paused = c.needsRestore) : LeaseStep c c' :=
  ⟨by rw [h.paused, needsRestore_congr h.awdlInterface, hledger], 0, by omega, h.signalled⟩

lemma signalled_paused (c : Context D) :
    Signalled 0 c { c with paused := true, log := c.log ++ [.pause] } := by
  refine ⟨rfl, ?_, ?_⟩
  · simp [openings, HalEvent.isResume]
  · simp [signals, HalEvent.isTxResume]

lemma rtw89LinuxAwdlReserve_spec (hledger : c.paused = c.needsRestore) (frequency durationMs : ℕ) :
    wp (rtw89LinuxAwdlReserve driver frequency durationMs) (fun r c' =>
      LeaseStep c c' ∧ (c.needsRestore = true → c'.needsRestore = true) ∧
      (r = 0 → c'.paused = true ∧
        ∃ channel, channel.centerFreq = frequency ∧ tuned c'.log = some (some channel))) c := by
  by_cases hp : c.paused = true
  · -- The gate is taken, so nothing happens.
    have hkeep : wp (gatePause (D := D)) (fun b c' => b = false ∧ c' = c) c := by
      refine wp_bind.mpr (wp_get.mpr (wp_ite.mpr ⟨fun _ => ⟨rfl, rfl⟩, fun h => absurd hp h⟩))
    refine wp_seq hkeep fun b c₁ ⟨hb, hc⟩ => ?_
    subst hb hc
    exact ⟨.of_poolOnly (refl_of PoolOnly c₁) hledger, id, fun h => absurd h ebusy_ne_zero⟩
  have hopen : c.needsRestore = false := by simpa [hp] using hledger.symm
  have hpause : wp (gatePause (D := D)) (fun b c' => b = true ∧
      c' = { c with paused := true, log := c.log ++ [.pause] }) c := by
    refine wp_bind.mpr (wp_get.mpr (wp_ite.mpr ⟨fun h => absurd h hp, fun _ => ⟨rfl, rfl⟩⟩))
  refine wp_seq hpause fun b c₁ ⟨hb, hc₁⟩ => ?_
  subst hb
  have hsignal₁ : Signalled 0 c c₁ := hc₁ ▸ signalled_paused c
  have hpaused₁ : c₁.paused = true := by rw [hc₁]
  have hneeds₁ : c₁.needsRestore = false := by rw [← hopen, hc₁]; rfl
  refine wp_seq (awaitDrained_askedOnly 100 c₁) fun drained c₂ hasked => wp_ite.mpr
    ⟨fun _ => ?_, fun _ => ?_⟩
  · -- Some producer stayed inside.
    have hneeds₂ : c₂.opened.needsRestore = false := by
      rw [← hneeds₁]
      exact needsRestore_congr hasked.poolOnly.awdlInterface
    refine wp_bind.mpr (wp_modify.mpr (wp_pure.mpr ⟨⟨hneeds₂.symm, 1, by omega, ?_⟩,
      by simp [hopen], fun h => absurd h ebusy_ne_zero⟩))
    exact (hsignal₁.trans hasked.poolOnly.signalled).trans (signalled_opened c₂)
  refine wp_seq (wp_and (startVisit_spec frequency durationMs) (startVisit_rocOnly _ _ c₂))
    fun out c₃ ⟨⟨howed, hstarted⟩, honly⟩ => ?_
  have hsignal₃ : Signalled 0 c c₃ :=
    (hsignal₁.trans hasked.poolOnly.signalled).trans honly.signalled
  have hpaused₃ : c₃.paused = true := by rw [honly.paused, hasked.poolOnly.paused, hpaused₁]
  refine wp_ite.mpr ⟨fun ⟨hne, hnone⟩ => ?_, fun hkeep => ?_⟩
  · -- The visit failed and left nothing behind.
    have hneeds₃ : c₃.needsRestore = false := by
      grind [needsRestore_congr, hasked.poolOnly.awdlInterface]
    refine wp_bind.mpr (wp_modify.mpr (wp_pure.mpr ⟨⟨?_, 1, by omega, ?_⟩, by simp [hopen],
      fun h => absurd h hne⟩))
    · exact hneeds₃.symm
    · exact hsignal₃.trans (signalled_opened c₃)
  · -- The visit has started, or its rollback is still owed.
    have hneeds₃ : c₃.needsRestore = true := by
      grind
    exact ⟨⟨hpaused₃.trans hneeds₃.symm, 0, by omega, hsignal₃⟩, fun _ => hneeds₃,
      fun hzero => ⟨hpaused₃, (hstarted hzero).2⟩⟩

lemma rtw89LinuxAwdlRestore_spec (hledger : c.paused = c.needsRestore) :
    wp (rtw89LinuxAwdlRestore driver) (fun r c' =>
      LeaseStep c c' ∧
      (r = 0 → c'.needsRestore = false ∧ (c.needsRestore = true →
        ∃ a b, c'.log = c.log ++ a ++ homeAndAwake ++ b)) ∧
      (r ≠ 0 → c'.needsRestore = c.needsRestore)) c := by
  refine wp_bind.mpr (wp_get.mpr ?_)
  cases hvif : c.awdlInterface.vif with
  | none =>
    exact ⟨.of_poolOnly (refl_of PoolOnly c) hledger, fun h => absurd h einval_ne_zero,
      fun _ => rfl⟩
  | some vif =>
    refine wp_seq (wp_and (rtw89MacosAwdlRestore_spec hvif) (rtw89MacosAwdlRestore_rocOnly vif c))
      fun r c₁ ⟨⟨hzero, hne⟩, honly⟩ => wp_ite.mpr ⟨fun hr => ?_, fun hr => ?_⟩
    · obtain ⟨hneeds, hlog⟩ := hzero hr
      refine wp_bind.mpr (wp_modify.mpr (wp_pure.mpr ⟨⟨hneeds.symm, 1, by omega, ?_⟩, fun _ =>
        ⟨hneeds, fun howed => ?_⟩, fun h => absurd hr h⟩))
      · exact honly.signalled.trans (signalled_opened c₁)
      · obtain ⟨a, ha⟩ := hlog howed
        exact ⟨a, .resume :: if c₁.txResume then [.txResume] else [], by rw [← ha]; rfl⟩
    · have hsame : c₁.paused = c₁.needsRestore := by rw [honly.paused, hne hr, hledger]
      exact ⟨⟨hsame, 0, by omega, honly.signalled⟩, fun h => absurd h hr, hne⟩

lemma ask_poolOnly (op : DriverOp) : Preserves PoolOnly (ask driver op) := fun c =>
  ⟨rfl, rfl, rfl, [.driver op (driver op c.driver).1], rfl, fun e he => by
    rw [List.mem_singleton.mp he]
    rfl⟩

lemma note_poolOnly {e : HalEvent} (h : e.isGate = false) :
    Preserves PoolOnly (note (D := D) e) := fun c =>
  wp_modify.mpr ⟨rfl, rfl, rfl, [e], rfl, fun e' he' => by rwa [List.mem_singleton.mp he']⟩

lemma modify_poolOnly {f : Context D → Context D} (h : ∀ c, (f c).awdlInterface = c.awdlInterface ∧
    (f c).paused = c.paused ∧ (f c).txResume = c.txResume ∧ (f c).log = c.log) :
    Preserves PoolOnly (modify f : StateM (Context D) Unit) := fun c =>
  wp_modify.mpr ⟨(h c).1, (h c).2.1, (h c).2.2.1, [], by rw [(h c).2.2.2, List.append_nil], nofun⟩

lemma assignEntry_poolOnly (i : Fin 16) (f : PoolEntry → PoolEntry) :
    Preserves PoolOnly (assignEntry (D := D) i f) := modify_poolOnly fun _ => ⟨rfl, rfl, rfl, rfl⟩

lemma lowerPeer_poolOnly (i : Fin 16) (sta : Station) (state : StaState) :
    Preserves PoolOnly (lowerPeer driver i sta state) := by
  induction state with
  | zero => exact .pure
  | succ next ih =>
    refine .bind (ask_poolOnly _) fun _ => .ite .pure ?_
    exact .bind (assignEntry_poolOnly i _) fun _ => ih

lemma drainForRelease_poolOnly : Preserves PoolOnly (drainForRelease driver) := by
  refine .bind .get fun c => .ite ?_ .pure
  exact .bind (rtw89MacosAwdlTxDrain_askedOnly.mono AskedOnly.poolOnly) fun _ => .pure

lemma unregisterPeer_poolOnly (i : Fin 16) (sta : Station) :
    Preserves PoolOnly (unregisterPeer (D := D) i sta) := by
  refine .bind .get fun c => .ite (.bind ?_ fun _ => assignEntry_poolOnly i _) .pure
  intro c
  refine wp_modify.mpr ⟨rfl, rfl, rfl, [.unregister sta], rfl, fun e he => ?_⟩
  rw [List.mem_singleton.mp he]
  rfl

lemma releaseAwdlPeer_poolOnly (i : Fin 16) : Preserves PoolOnly (releaseAwdlPeer driver i) := by
  refine .bind .get fun c => ?_
  cases (c.entries i).station with
  | none => exact .pure
  | some sta =>
    refine .bind (assignEntry_poolOnly i _) fun _ => .bind drainForRelease_poolOnly fun _ =>
      .ite .pure ?_
    refine .bind (unregisterPeer_poolOnly i sta) fun _ => .bind .get fun _ => ?_
    refine .bind (lowerPeer_poolOnly i sta _) fun _ => .ite .pure ?_
    exact .bind (note_poolOnly rfl) fun _ => .bind (assignEntry_poolOnly i _) fun _ => .pure

lemma registerPeer_poolOnly (i : Fin 16) (sta : Station) :
    Preserves PoolOnly (registerPeer (D := D) i sta) := by
  refine .bind .get fun c => .ite ?_ (.bind (assignEntry_poolOnly i _) fun _ => .pure)
  refine .bind ?_ fun _ => .bind (assignEntry_poolOnly i _) fun _ => .pure
  intro c
  refine wp_modify.mpr ⟨rfl, rfl, rfl, [.register sta], rfl, fun e he => ?_⟩
  rw [List.mem_singleton.mp he]
  rfl

lemma raisePeer_poolOnly (i : Fin 16) (sta : Station) (left : ℕ) :
    Preserves PoolOnly (raisePeer driver i sta left) := by
  induction left with
  | zero => exact .pure
  | succ left ih =>
    refine .bind .get fun _ => .bind (ask_poolOnly _) fun _ => .ite .pure ?_
    exact .bind (assignEntry_poolOnly i _) fun _ => ih

lemma attachPeer_poolOnly (vif : AwdlVif) (i : Fin 16) (sta : Station) :
    Preserves PoolOnly (attachPeer driver vif i sta) := by
  refine .bind (ask_poolOnly _) fun _ => .ite (.bind (assignEntry_poolOnly i _) fun _ => .pure) ?_
  refine .bind (.ite .pure (ask_poolOnly _)) fun _ => .ite ?_ .pure
  exact .bind (assignEntry_poolOnly i _) fun _ => .pure

lemma admitPeer_poolOnly (vif : AwdlVif) (i : Fin 16) (sta : Station) :
    Preserves PoolOnly (admitPeer driver vif i sta) := by
  refine .bind (attachPeer_poolOnly vif i sta) fun _ => .ite .pure ?_
  refine .bind (registerPeer_poolOnly i sta) fun _ => .ite .pure ?_
  exact .bind .get fun _ => raisePeer_poolOnly i sta _

lemma recovery_poolOnly (b : Bool) :
    Preserves PoolOnly (modify fun c : Context D => { c with awdlRecovery := b }) :=
  modify_poolOnly fun _ => ⟨rfl, rfl, rfl, rfl⟩

lemma releaseOrRecover_poolOnly (i : Fin 16) (result : Native.PeerResult) :
    Preserves PoolOnly (releaseOrRecover driver i result) := by
  refine .bind (releaseAwdlPeer_poolOnly i) fun _ => .ite .pure ?_
  exact .bind (recovery_poolOnly true) fun _ => .pure

lemma addPeer_poolOnly (vif : AwdlVif) (i : Fin 16) (address : Mac) :
    Preserves PoolOnly (addPeer driver vif i address) := by
  refine .bind (ask_poolOnly _) fun _ => .ite .pure (.bind .get fun _ => ?_)
  refine .bind (modify_poolOnly fun _ => ⟨rfl, rfl, rfl, rfl⟩) fun _ => ?_
  refine .bind (assignEntry_poolOnly i _) fun _ => .bind (admitPeer_poolOnly vif i _) fun _ => ?_
  exact .ite .pure (releaseOrRecover_poolOnly i _)

lemma removePeer_poolOnly (address : Mac) : Preserves PoolOnly (removePeer driver address) := by
  refine .bind .get fun c => ?_
  cases foundEntry c address with
  | none => exact .pure
  | some i => exact releaseOrRecover_poolOnly i _

lemma rtw89LinuxAwdlSetPeer_poolOnly (address : Mac) (add : Bool) :
    Preserves PoolOnly (rtw89LinuxAwdlSetPeer driver address add) := by
  refine .ite .pure (.bind .get fun c => ?_)
  cases c.awdlInterface.vif with
  | none => exact .pure
  | some vif =>
    refine .ite .pure (.ite .pure (.ite (removePeer_poolOnly address) ?_))
    refine .ite .pure ?_
    cases foundEntry c address with
    | some i => exact .pure
    | none =>
      refine .ite .pure (.bind (ask_poolOnly _) fun _ => ?_)
      cases emptyEntry c with
      | none => exact .pure
      | some i => exact .ite .pure (addPeer_poolOnly vif i address)

lemma releaseAll_poolOnly : Preserves PoolOnly (releaseAll driver) :=
  .foldlM (fun _ i => .bind (releaseAwdlPeer_poolOnly i) fun _ => .pure) _ _

lemma demandRecovery_poolOnly : Preserves PoolOnly (demandRecovery (D := D)) :=
  .bind (recovery_poolOnly true) fun _ => .pure

lemma removeInterface_spec (hopen : c.needsRestore = false) :
    wp (removeInterface driver) (fun _ c' =>
      c'.paused = c.paused ∧ c'.needsRestore = false ∧ Signalled 0 c c' ∧
      ∃ seg, c'.log = c.log ++ seg) c := by
  refine wp_seq (releaseAll_poolOnly c) fun okay c₁ honly => ?_
  refine wp_ite.mpr ⟨fun _ => ?_, fun _ => ?_⟩
  · refine wp_mono (demandRecovery_poolOnly.after honly) fun _ c' honly => ?_
    obtain ⟨seg, hseg, -⟩ := honly.log
    have hneeds : c'.needsRestore = false := by rw [needsRestore_congr honly.awdlInterface, hopen]
    exact ⟨honly.paused, hneeds, honly.signalled, seg, hseg⟩
  · obtain ⟨seg, hseg, -⟩ := honly.log
    obtain ⟨htx, hopenings, hsignals⟩ := honly.signalled
    exact wp_bind.mpr (wp_modify.mpr (wp_pure.mpr
      ⟨honly.paused, rfl, ⟨htx, hopenings, hsignals⟩, seg, hseg⟩))

lemma rtw89LinuxAwdlQuiesce_spec (hledger : c.paused = c.needsRestore) :
    wp (rtw89LinuxAwdlQuiesce driver) (fun _ c' =>
      LeaseStep c c' ∧ (c.needsRestore = true → c'.needsRestore = false →
        ((rtw89LinuxAwdlRestore driver).run c).1 = 0 ∧
        ∃ a b, c'.log = c.log ++ a ++ homeAndAwake ++ b)) c := by
  -- Where only the pool changes, no lease ends.
  have hpool : ∀ c', PoolOnly c c' → LeaseStep c c' ∧ (c.needsRestore = true →
      c'.needsRestore = false → ((rtw89LinuxAwdlRestore driver).run c).1 = 0 ∧
      ∃ a b, c'.log = c.log ++ a ++ homeAndAwake ++ b) := by
    intro c' honly
    refine ⟨.of_poolOnly honly hledger, fun howed hdone => ?_⟩
    rw [needsRestore_congr honly.awdlInterface, howed] at hdone
    cases hdone
  have hdemand := wp_mono (demandRecovery_poolOnly c) fun _ c' honly => hpool c' honly
  refine wp_bind.mpr (wp_get.mpr (wp_ite.mpr ⟨fun _ => ?_, fun _ => wp_ite.mpr
    ⟨fun _ => hdemand, fun _ => wp_ite.mpr ⟨fun hp => ?_, fun hp => ?_⟩⟩⟩))
  · refine wp_ite.mpr ⟨fun _ => hdemand, fun _ => ?_⟩
    exact wp_seq (recovery_poolOnly false c) fun _ c' honly => hpool c' honly
  · have hresult : wp (rtw89LinuxAwdlRestore driver)
        (fun r _ => r = ((rtw89LinuxAwdlRestore driver).run c).1) c := rfl
    refine wp_seq (wp_and (rtw89LinuxAwdlRestore_spec hledger) hresult)
      fun r c₁ ⟨⟨hstep, hzero, hne⟩, hr⟩ => wp_ite.mpr ⟨fun hfail => ?_, fun hdone => ?_⟩
    · -- The restore failed, and the lease is as it was.
      obtain ⟨k, hk, hsignal⟩ := hstep.signal
      refine wp_mono (demandRecovery_poolOnly c₁) fun _ c' honly => ⟨⟨?_, k, hk, ?_⟩, ?_⟩
      · rw [honly.paused, needsRestore_congr honly.awdlInterface, hstep.ledger]
      · exact hsignal.trans honly.signalled
      grind [needsRestore_congr, honly.awdlInterface]
    · have hrestored : r = 0 := not_not.mp hdone
      obtain ⟨hopen, hlog⟩ := hzero hrestored
      obtain ⟨k, hk, hsignal⟩ := hstep.signal
      refine wp_mono (removeInterface_spec hopen)
        fun _ c' ⟨hpaused, hneeds, hkeep, seg, hseg⟩ => ⟨⟨?_, k, hk, hsignal.trans hkeep⟩, ?_⟩
      · rw [hpaused, hneeds, hstep.ledger, hopen]
      grind
  · have hopen : c.needsRestore = false := by simpa [hp] using hledger.symm
    refine wp_mono (removeInterface_spec hopen) fun _ c' ⟨hpaused, hneeds, hsignal, _⟩ => ?_
    refine ⟨⟨by rw [hpaused, hneeds, hledger, hopen], 0, by omega, hsignal⟩, fun howed => ?_⟩
    rw [hopen] at howed
    cases howed

lemma allocatePool_poolOnly : Preserves PoolOnly (allocatePool driver) := by
  refine .bind .get fun _ => .ite .pure (.bind (ask_poolOnly _) fun _ => .ite .pure ?_)
  exact .bind (modify_poolOnly fun _ => ⟨rfl, rfl, rfl, rfl⟩) fun _ => .pure

lemma rtw89LinuxAwdlAddInterface_spec (hledger : c.paused = c.needsRestore) (mac : Mac) :
    wp (rtw89LinuxAwdlAddInterface driver mac) (fun _ c' =>
      LeaseStep c c' ∧ (c.needsRestore = true → c'.needsRestore = true)) c := by
  have hpool : ∀ c', PoolOnly c c' → LeaseStep c c' ∧
      (c.needsRestore = true → c'.needsRestore = true) := fun c' honly =>
    ⟨.of_poolOnly honly hledger, fun h => by rwa [needsRestore_congr honly.awdlInterface]⟩
  refine wp_bind.mpr (wp_get.mpr (wp_ite.mpr ⟨fun _ => hpool c (refl_of PoolOnly c), fun _ => ?_⟩))
  refine wp_seq (allocatePool_poolOnly c) fun _ c₁ honly₁ => wp_ite.mpr
    ⟨fun _ => hpool c₁ honly₁, fun _ => wp_ite.mpr ⟨fun _ => hpool c₁ honly₁, fun hfree => ?_⟩⟩
  refine wp_seq ((ask_poolOnly _).after honly₁) fun _ c₂ honly₂ => wp_ite.mpr
    ⟨fun _ => hpool c₂ honly₂, fun _ => ?_⟩
  -- There was no interface, so there was no lease.
  have hnone : c.awdlInterface.vif = none := by
    simp_all
  have hopen : c.needsRestore = false := by simp [Context.needsRestore, Context.roc, hnone]
  obtain ⟨htx, hopenings, hsignals⟩ := honly₂.signalled
  refine wp_bind.mpr (wp_modify.mpr (wp_pure.mpr ⟨⟨?_, 0, by omega, htx, hopenings, hsignals⟩, ?_⟩))
  · exact (honly₂.paused.trans hledger).trans hopen
  · simp [hopen]

/-- What a call leaves behind, and how a lease ends. -/
lemma exec_lease (hledger : c.paused = c.needsRestore) (call : HalCall) :
    wp (call.exec driver) (fun _ c' =>
      LeaseStep c c' ∧ (c.needsRestore = true → c'.needsRestore = false →
        (call = .restore ∨ call = .quiesce) ∧
        ((rtw89LinuxAwdlRestore driver).run c).1 = 0 ∧
        ∃ a b, c'.log = c.log ++ a ++ homeAndAwake ++ b)) c := by
  -- Calls that keep a lease.
  have hkeep : ∀ c', LeaseStep c c' → (c.needsRestore = true → c'.needsRestore = true) →
      LeaseStep c c' ∧ (c.needsRestore = true → c'.needsRestore = false →
        (call = .restore ∨ call = .quiesce) ∧ ((rtw89LinuxAwdlRestore driver).run c).1 = 0 ∧
        ∃ a b, c'.log = c.log ++ a ++ homeAndAwake ++ b) := by
    grind
  have hpool : ∀ c', PoolOnly c c' → _ := fun c' honly => hkeep c' (.of_poolOnly honly hledger)
    fun h => by rwa [needsRestore_congr honly.awdlInterface]
  cases call with
  | reserveRadio frequency durationMs =>
    refine wp_discard.mpr (wp_ite.mpr ⟨fun _ => hpool c (refl_of PoolOnly c), fun _ => ?_⟩)
    refine wp_seq (rtw89LinuxAwdlReserve_spec hledger frequency durationMs)
      fun r c' ⟨hstep, hstill, _⟩ => wp_ite.mpr ⟨fun _ => ?_, fun _ => ?_⟩
    · exact hkeep c' hstep hstill
    · exact hkeep c' hstep hstill
  | restore =>
    have hresult : wp (rtw89LinuxAwdlRestore driver)
        (fun r _ => r = ((rtw89LinuxAwdlRestore driver).run c).1) c := rfl
    refine wp_discard.mpr (wp_mono (wp_and (rtw89LinuxAwdlRestore_spec hledger) hresult)
      fun r c' ⟨⟨hstep, hzero, hne⟩, hr⟩ => ⟨hstep, fun howed hdone => ?_⟩)
    grind
  | setPeer address add =>
    exact wp_discard.mpr (wp_mono (rtw89LinuxAwdlSetPeer_poolOnly address add c)
      fun _ c' honly => hpool c' honly)
  | addInterface mac =>
    exact wp_discard.mpr (wp_mono (rtw89LinuxAwdlAddInterface_spec hledger mac)
      fun _ c' ⟨hstep, hstill⟩ => hkeep c' hstep hstill)
  | quiesce =>
    refine wp_discard.mpr (wp_mono (rtw89LinuxAwdlQuiesce_spec hledger)
      fun _ c' ⟨hstep, hend⟩ => ⟨hstep, fun howed hdone => ?_⟩)
    exact ⟨.inr rfl, hend howed hdone⟩
  | surroundings x =>
    exact wp_modify.mpr (hpool _ ⟨rfl, rfl, rfl, grown_refl c.log⟩)
  | otherPeer slot peer =>
    refine wp_modify.mpr (hpool _ ?_)
    split
    · exact refl_of PoolOnly c
    · exact ⟨rfl, rfl, rfl, grown_refl c.log⟩

lemma rtw89LinuxAwdlReserveRadio_spec (hledger : c.paused = c.needsRestore) (frequency : ℕ)
    {durationMs : ℕ} (hpos : 1 ≤ durationMs) (hmax : durationMs ≤ 100) :
    wp (rtw89LinuxAwdlReserveRadio driver frequency durationMs) (fun r c' =>
      (r = .granted → c'.paused = true ∧
        ∃ channel, channel.centerFreq = frequency ∧ tuned c'.log = some (some channel)) ∧
      (r = .rejected → c'.paused = false ∧ c'.needsRestore = false)) c := by
  refine wp_ite.mpr ⟨fun h => by omega, fun _ => ?_⟩
  refine wp_seq (rtw89LinuxAwdlReserve_spec hledger frequency durationMs)
    fun r c' ⟨hstep, _, hgranted⟩ => wp_ite.mpr ⟨fun hzero => ?_, fun _ => ?_⟩
  · exact ⟨fun _ => hgranted hzero, nofun⟩
  refine wp_bind.mpr (wp_get.mpr (wp_pure.mpr ?_))
  by_cases hdebt : (c'.awdlRecovery || c'.paused) = true
  · rw [if_pos hdebt]
    exact ⟨nofun, nofun⟩
  · rw [if_neg hdebt]
    have hopen : c'.paused = false := by
      simp only [Bool.or_eq_true, not_or] at hdebt
      simpa using hdebt.2
    exact ⟨nofun, fun _ => ⟨hopen, hstep.ledger ▸ hopen⟩⟩

/-- The ledger holds after any calls. -/
lemma runCalls_ledger (hledger : c.paused = c.needsRestore) (calls : List HalCall) :
    (runCalls driver calls c).paused = (runCalls driver calls c).needsRestore := by
  induction calls generalizing c with
  | nil => exact hledger
  | cons call calls ih => exact ih (exec_lease hledger call).1.ledger

/-- The ledger of radio leases, for any driver, after any calls and changes around the AWDL
interface.

1. After each call the gate is paused iff the AWDL interface owes a restore.
2. A lease is released by restore or quiesce only, when the restore succeeded and the driver had
   programmed the home channel and woken the stations.
3. A call opens the gate at most once, and signals `txResume` as often.
4. A visit is granted with the gate paused and the radio on the requested channel; it is rejected
   with the gate open and nothing owed. -/
theorem radio_lease_ledger (driver : Driver D) (c₀ : Context D)
    (h₀ : c₀.paused = c₀.needsRestore) (calls : List HalCall) :
    let c := runCalls driver calls c₀
    (∀ call : HalCall, let c' := ((call.exec driver).run c).2
      (c'.paused = true ↔ c'.needsRestore = true) ∧
      (c.needsRestore = true → c'.needsRestore = false →
        (call = .restore ∨ call = .quiesce) ∧ ((rtw89LinuxAwdlRestore driver).run c).1 = 0 ∧
        ∃ a b, c'.log = c.log ++ a ++ homeAndAwake ++ b) ∧
      (openings c'.log = openings c.log ∧ signals c'.log = signals c.log ∨
        openings c'.log = openings c.log + 1 ∧
          signals c'.log = signals c.log + if c.txResume then 1 else 0)) ∧
    ∀ frequency durationMs, 1 ≤ durationMs → durationMs ≤ 100 →
      let out := (rtw89LinuxAwdlReserveRadio driver frequency durationMs).run c
      (out.1 = .granted → out.2.paused = true ∧
        ∃ channel, channel.centerFreq = frequency ∧ tuned out.2.log = some (some channel)) ∧
      (out.1 = .rejected → out.2.paused = false ∧ out.2.needsRestore = false) := by
  intro c
  have hledger : c.paused = c.needsRestore := runCalls_ledger h₀ calls
  refine ⟨fun call => ?_, fun frequency durationMs hpos hmax => ?_⟩
  · intro c'
    obtain ⟨hstep, hreleased⟩ : LeaseStep c c' ∧ _ := exec_lease hledger call
    refine ⟨by rw [hstep.ledger], hreleased, ?_⟩
    obtain ⟨k, hk, hsignal⟩ := hstep.signal
    have hopenings := hsignal.openings
    have hsignals := hsignal.signals
    obtain rfl | rfl : k = 0 ∨ k = 1 := by omega
    · exact .inl ⟨hopenings, by simpa using hsignals⟩
    · exact .inr ⟨hopenings, hsignals⟩
  · exact rtw89LinuxAwdlReserveRadio_spec hledger frequency hpos hmax

/-! A driver whose operations succeed, with one usable channel in each band. -/

def steadyDriver : Driver Unit
  | .supportedChannels .ghz2, d => (some [{ centerFreq := 2437 }], d)
  | .supportedChannels .ghz5, d => (some [{ band := .ghz5, centerFreq := 5180 }], d)
  | .supportedChannels .ghz6, d => (none, d)
  | .designatedLink, d => (some 0, d)
  | .chip, d => ({ supportMacidNum := 32, supportMlo := false, supportLinkNum := 1 }, d)
  | .stationPs _, d | .setChannel _, d | .pciTxDrain, d | .staState .., d => ((0 : Errno), d)
  | .scanning, d | .otherRoc, d | .staLinks _, d => (false, d)
  | .txGateDrained, d | .link _, d | .canQueryTxq, d | .running, d | .txqEmpty, d
  | .allocate, d | .addInterface _, d => (true, d)

def stationMac (last : UInt8) : Mac := Mac.of 2 0 0 0 0 last

/-- A running primary interface without AWDL. -/
def primaryOnly : Context Unit :=
  { driver := (), started := true, interfaceAdded := true, vif := some (stationMac 1),
    txResume := true }

/-- A visit to channel 36 and back. -/
theorem radio_lease_visit :
    let c := runCalls steadyDriver [.addInterface (stationMac 2)] primaryOnly
    let away := (rtw89LinuxAwdlReserveRadio steadyDriver 5180 50).run c
    let home := (HalCall.restore.exec steadyDriver).run away.2
    away.1 = .granted ∧ away.2.paused = true ∧ home.2.paused = false := by
  have h := radio_lease_ledger steadyDriver primaryOnly rfl [.addInterface (stationMac 2)]
  have hgranted : ((rtw89LinuxAwdlReserveRadio steadyDriver 5180 50).run
      (runCalls steadyDriver [.addInterface (stationMac 2)] primaryOnly)).1 = .granted := by
    decide +kernel
  refine ⟨hgranted, ((h.2 5180 50 (by decide) (by decide)).1 hgranted).1, ?_⟩
  decide +kernel

end

end AirportAwdl.Hal
