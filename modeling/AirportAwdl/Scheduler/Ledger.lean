import AirportAwdl.Lib.Trace
import AirportAwdl.Scheduler.Run

/-!
# The ledger of leases and native window events

An `Account` follows the log of a run: who has the radio, whether the native side saw a window
start without its end, whether it must be reset. It refuses a log that takes the radio twice or
unbalances the window events. Every run keeps the account that its scheduler's fields show
(`Run.accounted`), so no log is refused, and what the refusals exclude is `Balanced`.
-/

namespace AirportAwdl.Scheduler

open AirportAwdl.Election

/-- Who has the radio. -/
inductive Lease where
  | free | asking | owned
deriving DecidableEq, Repr

/-- What the native side was told of windows. `broken` is an end that was not handed off. -/
inductive Told where
  | nothing | starting | started | ending | broken
deriving DecidableEq, Repr

structure Account where
  lease : Lease := .free
  told : Told := .nothing
  reset : Bool := false
deriving DecidableEq, Repr

/-- The account after an event, `none` if the event is out of order. -/
def Account.step (a : Account) : Event → Option Account
  | .reserve _ _ =>
    if a.lease = .free ∧ a.told = .nothing ∧ a.reset = false then some { a with lease := .asking }
    else none
  | .reserved result =>
    if a.lease = .asking then
      some { a with lease := if result = .rejected then .free else .owned }
    else none
  | .restore restored =>
    if a.lease = .owned ∧ a.told = .nothing then
      some { a with lease := if restored then .free else .owned }
    else none
  | .windowStart _ _ =>
    if a.lease = .owned ∧ a.told = .nothing ∧ a.reset = false then
      some { a with told := .starting }
    else none
  | .started handedOff =>
    if a.told = .starting then some { a with told := if handedOff then .started else .nothing }
    else none
  | .windowEnd _ _ => if a.told = .started then some { a with told := .ending } else none
  | .ended handedOff =>
    if a.told = .ending then some { a with told := if handedOff then .nothing else .broken }
    else none
  | .nativeReset =>
    if a.told = .started ∨ a.told = .broken then some { a with told := .nothing, reset := true }
    else none
  | _ => some a

/-- The account that the scheduler's fields show between two moves. -/
def WindowScheduler.account (s : WindowScheduler) : Account where
  lease := if s.phase = .preparing then .asking else if s.leaseOwned then .owned else .free
  told :=
    match s.phase with
    | .opening => .starting
    | .open => .started
    | .closing => .ending
    | _ => .nothing
  reset := s.nativeResetRequired

variable {D : Type} {driver : WindowDriver D} {s : State} {w w' : World D}

/-- What the phase says about the lease and the reset flag. -/
structure WindowScheduler.Sound (s : WindowScheduler) : Prop where
  leased : s.phase = .reserved ∨ s.phase = .opening ∨ s.phase = .open ∨ s.phase = .closing →
    s.leaseOwned = true
  unleased : s.phase = .stopped ∨ s.phase = .idle ∨ s.phase = .preparing → s.leaseOwned = false
  unreset : s.phase ≠ .reserved → s.phase ≠ .failed → s.nativeResetRequired = false

/-- The log up to here is in order and leads to the account of the scheduler's fields. -/
structure Accounted (w : World D) : Prop where
  sound : w.sched.Sound
  log : Trace.after Account.step {} w.log = some w.sched.account

lemma Accounted.fresh (s : State) (d : D) : Accounted (World.fresh s d) :=
  ⟨⟨by simp [World.fresh], by simp [World.fresh], by simp [World.fresh]⟩, rfl⟩

section
variable (events : List Event)

lemma Accounted.extend (h : Accounted w) (hlog : w'.log = w.log ++ events) (hsound : w'.sched.Sound)
    (hevents : Trace.after Account.step w.sched.account events = some w'.sched.account) :
    Accounted w' := by
  refine ⟨hsound, ?_⟩
  rw [hlog, Trace.after_append, h.log]
  exact hevents

lemma Accounted.quiet (h : Accounted w) (hlog : w'.log = w.log ++ events)
    (hphase : w'.sched.phase = w.sched.phase) (hlease : w'.sched.leaseOwned = w.sched.leaseOwned)
    (hreset : w'.sched.nativeResetRequired = w.sched.nativeResetRequired)
    (hevents : ∀ a : Account, Trace.after Account.step a events = some a) : Accounted w' := by
  refine h.extend events hlog ⟨?_, ?_, ?_⟩ ?_
  · rw [hphase, hlease]
    exact h.sound.leased
  · rw [hphase, hlease]
    exact h.sound.unleased
  · rw [hphase, hreset]
    exact h.sound.unreset
  · rw [hevents]
    simp only [WindowScheduler.account, hphase, hlease, hreset]

end

/-- Native code inside a hook leaves the account as it is. -/
lemma Accounted.calm (h : Accounted w) (hstep : Calm driver w w') : Accounted w' := by
  cases hstep with
  | nothing => exact h
  | stop => exact h.quiet [.stopRequest, .cancelTimer] rfl rfl rfl rfl fun _ => rfl
  | engine hop now => exact h.quiet [_] rfl rfl rfl rfl fun _ => rfl
  | environment d => exact h.quiet [] (List.append_nil _).symm rfl rfl rfl fun _ => rfl

lemma WindowScheduler.sound_home (s : WindowScheduler) :
    WindowScheduler.Sound { s with leaseOwned := false, phase := s.homePhase } := by
  constructor <;> unfold WindowScheduler.homePhase <;>
    cases s.nativeResetRequired <;> cases s.stopRequested <;> simp

lemma WindowScheduler.account_home (s : WindowScheduler) :
    WindowScheduler.account { s with leaseOwned := false, phase := s.homePhase } =
      ⟨.free, .nothing, s.nativeResetRequired⟩ := by
  unfold WindowScheduler.account WindowScheduler.homePhase
  cases s.nativeResetRequired <;> cases s.stopRequested <;> simp

lemma Phase.leaves_cases {p : Phase} (h : p.leaves) : p = .idle ∨ p = .reserved ∨ p = .failed := by
  cases p <;> simp_all [Phase.leaves]

/-- A step logs what the account of the scheduler's fields says. -/
lemma Accounted.step (h : Accounted w) (hstep : Step driver (Calm driver) w w') : Accounted w' := by
  obtain ⟨hleased, hunleased, hunreset⟩ := h.sound
  cases hstep with
  | ask hanswer => cases hanswer <;> exact h.quiet [_] rfl rfl rfl rfl fun _ => rfl
  | tune hcore =>
    simp only [WindowScheduler.core, Prod.mk.injEq] at hcore
    exact h.quiet [] (List.append_nil _).symm hcore.1 hcore.2.2.1 hcore.2.2.2.2 fun _ => rfl
  | native _ hcalm => exact h.calm hcalm
  | requestStop => exact h.quiet [.stopRequest] rfl rfl rfl rfl fun _ => rfl
  | elect now => exact h.quiet [_] rfl rfl rfl rfl fun _ => rfl
  | choose planned => exact h.quiet [] (List.append_nil _).symm rfl rfl rfl fun _ => rfl
  | begin maximumVisitUs preparationLeadUs hphase =>
    have hlease := hunleased (.inl hphase)
    have hreset := hunreset (by simp [hphase]) (by simp [hphase])
    refine h.extend [] (List.append_nil _).symm ?_ ?_
    · exact ⟨by simp [WindowScheduler.begin], fun _ => hlease, fun _ _ => hreset⟩
    · simp [WindowScheduler.account, WindowScheduler.begin, hphase]
  | giveUp request hphase =>
    have hlease := hunleased (.inr (.inl hphase))
    have hreset := hunreset (by simp [hphase]) (by simp [hphase])
    refine h.extend [] (List.append_nil _).symm ?_ ?_
    · exact ⟨by simp, fun _ => hlease, fun _ _ => hreset⟩
    · simp [WindowScheduler.account, hphase]
  | reserve durationMs hphase =>
    have hlease := hunleased (.inr (.inl hphase))
    have hreset := hunreset (by simp [hphase]) (by simp [hphase])
    refine h.extend [_] rfl ?_ ?_
    · exact ⟨by simp, fun _ => hlease, fun _ _ => hreset⟩
    · simp [WindowScheduler.account, Account.step, hphase, hlease, hreset]
  | rejected hphase =>
    have hlease := hunleased (.inr (.inr hphase))
    have hreset := hunreset (by simp [hphase]) (by simp [hphase])
    refine h.extend [_] rfl ?_ ?_
    · exact ⟨by simp, fun _ => hlease, fun _ _ => hreset⟩
    · simp [WindowScheduler.account, Account.step, hphase, hlease]
  | granted hphase hresult =>
    have hreset := hunreset (by simp [hphase]) (by simp [hphase])
    refine h.extend [_] rfl ?_ ?_
    · exact ⟨fun _ => rfl, by simp, fun _ _ => hreset⟩
    · simp [WindowScheduler.account, Account.step, hphase, hresult]
  | issueStart wire hphase hreset =>
    have hlease := hleased (.inl hphase)
    refine h.extend [_, _, _] (World.log_issueStart ..) ?_ ?_
    · exact ⟨fun _ => hlease, by simp, fun _ _ => hreset⟩
    · simp [WindowScheduler.account, Account.step, hphase, hlease, hreset]
  | opened now hphase =>
    have hlease := hleased (.inr (.inl hphase))
    have hreset := hunreset (by simp [hphase]) (by simp [hphase])
    refine h.extend [_, _] (List.append_assoc ..) ?_ ?_
    · exact ⟨fun _ => hlease, by simp, fun _ _ => hreset⟩
    · simp [WindowScheduler.account, Account.step, hphase, hlease, hreset]
  | refused now hphase =>
    have hlease := hleased (.inr (.inl hphase))
    refine h.extend _ ((World.log_endReleasing ..).trans (List.append_assoc ..)) ?_ ?_
    · exact ⟨fun _ => hlease, by simp, by simp⟩
    · simp [WindowScheduler.account, Account.step, hphase, hlease]
  | issueEnd wire hphase =>
    have hlease := hleased (.inr (.inr (.inl hphase)))
    have hreset := hunreset (by simp [hphase]) (by simp [hphase])
    refine h.extend [_] rfl ?_ ?_
    · exact ⟨fun _ => hlease, by simp, fun _ _ => hreset⟩
    · simp [WindowScheduler.account, Account.step, hphase, hlease, hreset]
  | skipEnd hphase =>
    have hlease := hleased (.inr (.inr (.inl hphase)))
    refine h.extend _ ((World.log_endDiscarding ..).trans (List.append_assoc ..)) ?_ ?_
    · exact ⟨fun _ => hlease, by simp, by simp⟩
    · simp [WindowScheduler.account, Account.step, hphase, hlease]
  | endedDropped now hphase =>
    have hlease := hleased (.inr (.inr (.inr hphase)))
    refine h.extend _ ((World.log_endDiscarding ..).trans (List.append_assoc ..)) ?_ ?_
    · exact ⟨fun _ => hlease, by simp, by simp⟩
    · simp [WindowScheduler.account, Account.step, hphase, hlease]
  | endedKept now hphase =>
    have hlease := hleased (.inr (.inr (.inr hphase)))
    refine h.extend _ ((World.log_endReleasing ..).trans (List.append_assoc ..)) ?_ ?_
    · exact ⟨fun _ => hlease, by simp, by simp⟩
    · simp [WindowScheduler.account, Account.step, hphase, hlease]
  | endRefused now hphase =>
    have hlease := hleased (.inr (.inr (.inr hphase)))
    refine h.extend _ (((World.log_endDiscarding ..).trans (List.append_assoc ..)).trans
      (List.append_assoc ..)) ?_ ?_
    · exact ⟨fun _ => hlease, by simp, by simp⟩
    · simp [WindowScheduler.account, Account.step, hphase, hlease]
  | restoreFailed hphase hlease =>
    refine h.extend [_] rfl ⟨fun _ => hlease, by simp, by simp⟩ ?_
    rcases Phase.leaves_cases hphase with hphase | hphase | hphase <;>
      simp [WindowScheduler.account, Account.step, hphase, hlease]
  | restored hphase hlease =>
    refine h.extend [_] rfl w.sched.sound_home ?_
    rw [WindowScheduler.account_home]
    rcases Phase.leaves_cases hphase with hphase | hphase | hphase <;>
      simp [WindowScheduler.account, Account.step, hphase, hlease]
  | unleased hphase hlease =>
    refine h.extend [] (List.append_nil _).symm w.sched.sound_home ?_
    rw [WindowScheduler.account_home]
    rcases Phase.leaves_cases hphase with hphase | hphase | hphase <;>
      simp [WindowScheduler.account, hphase, hlease]

/-- Every run keeps its account. -/
theorem Run.accounted (h : driver.Reentrant) (hrun : Run driver s w) : Accounted w :=
  hrun.invariant h (Accounted.fresh s) Accounted.step Accounted.calm

/-- Events that no window may be open for. -/
def Event.isVisit : Event → Bool
  | .reserve _ _ | .restore _ | .windowStart _ _ => true
  | _ => false

/-- Leases and native window events of a log are in order. -/
structure Balanced (log : List Event) : Prop where
  /-- A reservation returns before the next one is issued. -/
  returned : ∀ before between rest channel durationMs channel' durationMs',
    log = before ++ .reserve channel durationMs :: (between ++ .reserve channel' durationMs' :: rest) →
      ∃ result, .reserved result ∈ between
  /-- No reservation between one that took the radio and a restore that gave it back. -/
  lease : ∀ before between rest result channel durationMs, result ≠ .rejected →
    log = before ++ .reserved result :: (between ++ .reserve channel durationMs :: rest) →
      .restore true ∈ between
  /-- A start that was handed off is matched by exactly one end that was, before the radio is
  reserved or given back and before another start, or the native side must be reset. -/
  matched : ∀ before between rest e, e.isVisit → (∀ e' ∈ between, e'.isVisit = false) →
    log = before ++ .started true :: (between ++ e :: rest) →
      between.count (.ended true) = 1 ∨ .nativeReset ∈ between
  /-- Once the native side must be reset there is no visit any more. -/
  final : ∀ before rest, log = before ++ .nativeReset :: rest →
    ∀ e ∈ rest, (∀ channel durationMs, e ≠ .reserve channel durationMs) ∧
      ∀ window wire, e ≠ .windowStart window wire
  /-- An end is issued for an open start only. -/
  opened : ∀ before rest window wire, log = before ++ .windowEnd window wire :: rest →
    ∃ earlier between, before = earlier ++ .started true :: between ∧
      ∀ e ∈ between, e.isVisit = false ∧ (∀ window wire, e ≠ .windowEnd window wire) ∧
        e ≠ .nativeReset

section
variable {a a' : Account} {e : Event}

/-- The radio is given back by a restore that succeeds. -/
lemma Account.step_owned (ha : a.lease = .owned) (h : a.step e = some a') :
    a'.lease = .owned ∨ e = .restore true := by
  cases e with
  | restore restored =>
    cases restored with
    | false => grind [Account.step]
    | true => exact .inr rfl
  | _ => grind [Account.step]

lemma Account.step_asking (ha : a.lease = .asking) (h : a.step e = some a') :
    a'.lease = .asking ∨ ∃ result, e = .reserved result := by
  cases e with
  | reserved result => exact .inr ⟨result, rfl⟩
  | _ => grind [Account.step]

lemma Account.step_reset (ha : a.reset = true) (h : a.step e = some a') : a'.reset = true := by
  cases e <;> grind [Account.step]

lemma Account.step_unreset (ha : a.reset ≠ true) (h : a.step e = some a')
    (ha' : a'.reset = true) : e = .nativeReset := by
  cases e <;> grind [Account.step]

/-- The native side learns of an open window by a start that is handed off. -/
lemma Account.step_started (ha : a.told ≠ .started) (h : a.step e = some a')
    (ha' : a'.told = .started) : e = .started true := by
  cases e with
  | started handedOff => grind [Account.step]
  | _ => grind [Account.step]

lemma Account.step_within (ha : a.told = .started) (h : a.step e = some a')
    (ha' : a'.told = .started) : e.isVisit = false ∧
      (∀ window wire, e ≠ .windowEnd window wire) ∧ e ≠ .nativeReset := by
  cases e <;> grind [Account.step, Event.isVisit]

/-- Window ends that are still due. -/
def Account.due (a : Account) : ℕ := if a.told = .nothing then 0 else 1

lemma Account.step_due (ha : a.told ≠ .starting) (h : a.step e = some a')
    (hvisit : e.isVisit = false) (hreset : e ≠ .nativeReset) :
    a'.told ≠ .starting ∧ a.due = a'.due + (e == .ended true).toNat := by
  cases e with
  | ended handedOff =>
    cases handedOff <;> simp [Account.step] at h <;> obtain ⟨htold, rfl⟩ := h <;>
      simp [Account.due, htold]
  | _ => simp_all [Account.step, Event.isVisit, Account.due] <;> grind

lemma Account.step_visit (hvisit : e.isVisit) (h : a.step e = some a') : a.told = .nothing := by
  cases e <;> grind [Account.step, Event.isVisit]

end

/-- Once recorded, a native reset stays in the account. -/
lemma Account.reset_after {a a' : Account} {events : List Event} (ha : a.reset = true)
    (h : Trace.after Account.step a events = some a') : a'.reset = true := by
  have hstays : a'.reset = true ∨ ∃ e ∈ events, False :=
    Trace.region_or_exit (fun a : Account => a.reset = true) _ h ha
      fun _ _ _ ha h => .inl (Account.step_reset ha h)
  simpa using hstays

lemma Account.reset_iff {log : List Event} {a : Account}
    (h : Trace.after Account.step {} log = some a) : a.reset = true ↔ .nativeReset ∈ log := by
  constructor
  · intro ha
    obtain ⟨first, e, rest, m, m', rfl, hm, hentry, hm', -, -⟩ :=
      Trace.last_entry (fun a : Account => a.reset = true) h (by simp) ha
    obtain rfl := Account.step_unreset hm hentry hm'
    simp
  · intro hmem
    obtain ⟨first, rest, rfl⟩ := List.append_of_mem hmem
    obtain ⟨m, m', -, hreset, hrest⟩ := Trace.after_split_at h
    exact Account.reset_after (by grind [Account.step]) hrest

/-- A log that the account accepts is in order. -/
theorem balanced_of_after {log : List Event} {final : Account}
    (h : Trace.after Account.step {} log = some final) : Balanced log where
  returned before between rest channel durationMs channel' durationMs' hlog := by
    rw [hlog] at h
    obtain ⟨a, a', -, hreserve, hrest⟩ := Trace.after_split_at h
    have hasking : a'.lease = .asking := by grind [Account.step]
    obtain ⟨e, hmem, result, rfl⟩ := Trace.exists_between
      (fun a : Account => a.lease = .asking) _ hrest hasking (fun _ _ _ => Account.step_asking)
      (fun a ha => by simp [Account.step, ha])
    exact ⟨result, hmem⟩
  lease before between rest result channel durationMs hresult hlog := by
    rw [hlog] at h
    obtain ⟨a, a', -, hreserved, hrest⟩ := Trace.after_split_at h
    have howned : a'.lease = .owned := by grind [Account.step]
    obtain ⟨e, hmem, rfl⟩ := Trace.exists_between
      (fun a : Account => a.lease = .owned) _ hrest howned (fun _ _ _ => Account.step_owned)
      (fun a ha => by simp [Account.step, ha])
    exact hmem
  matched before between rest e hvisit hquiet hlog := by
    rw [hlog] at h
    obtain ⟨a, a', -, hstarted, hrest⟩ := Trace.after_split_at h
    obtain ⟨m, m', hbetween, hstep, -⟩ := Trace.after_split_at hrest
    by_cases hreset : .nativeReset ∈ between
    · exact .inr hreset
    left
    have htold : a'.told = .started := by grind [Account.step]
    have hdue := Trace.count_eq (fun a : Account => a.told ≠ .starting) (· == .ended true)
      Account.due hbetween (by rw [htold]; decide) fun a e a' ha hmem hstep =>
        Account.step_due ha hstep (hquiet e hmem) fun heq => hreset (heq ▸ hmem)
    -- one end was due after the start, none is when the visit is allowed
    have hbefore : a'.due = 1 := by simp [Account.due, htold]
    have hafter : m.due = 0 := by simp [Account.due, Account.step_visit hvisit hstep]
    rw [hbefore, hafter, zero_add] at hdue
    exact hdue.symm
  final before rest hlog e hmem := by
    rw [hlog] at h
    obtain ⟨a, a', -, hreset, hrest⟩ := Trace.after_split_at h
    have hset : a'.reset = true := by grind [Account.step]
    obtain ⟨earlier, later, rfl⟩ := List.append_of_mem hmem
    obtain ⟨m, m', hearlier, hstep, -⟩ := Trace.after_split_at hrest
    have hm : m.reset = true := Account.reset_after hset hearlier
    grind [Account.step]
  opened before rest window wire hlog := by
    rw [hlog] at h
    obtain ⟨a, a', hbefore, hend, -⟩ := Trace.after_split_at h
    have htold : a.told = .started := by grind [Account.step]
    obtain ⟨earlier, e, between, m, m', rfl, hm, hentry, hm', -, hbetween⟩ :=
      Trace.last_entry (fun a : Account => a.told = .started) hbefore (by simp) htold
    obtain rfl := Account.step_started hm hentry hm'
    refine ⟨earlier, between, rfl, fun e' he' => ?_⟩
    grind [Account.step_within]

/-- **The ledger is balanced.** In every run, whatever the driver answers and whatever native
code does inside its hooks, the radio is not taken twice, every start that was handed off is
ended once before anything else happens to the radio, or the native side is to be reset and
there is no visit any more, and no end is issued without its start. -/
theorem ledger_balanced (h : driver.Reentrant) (hrun : Run driver s w) :
    Balanced w.log ∧ (w.sched.nativeResetRequired = true ↔ .nativeReset ∈ w.log) := by
  have hlog := (hrun.accounted h).log
  exact ⟨balanced_of_after hlog, Account.reset_iff hlog⟩

/-- A visit that native code stops from inside the start event. -/
theorem ledger_balanced_stopAtStart :
    let w := (benchStart { stopAtStart := true }).tick
    .started true ∈ w.log ∧ w.sched.phase = .stopped ∧ Balanced w.log ∧ .nativeReset ∉ w.log := by
  have hledger := ledger_balanced bench_reentrant (benchStart_run { stopAtStart := true }).tick
  refine ⟨by decide +kernel, by decide +kernel, hledger.1, fun hmem => ?_⟩
  exact absurd (hledger.2.mpr hmem) (by decide +kernel)

end AirportAwdl.Scheduler
