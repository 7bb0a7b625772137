import AirportAwdl.Lib.LeadsTo

/-!
# Polling the receive ring

`rtw88_napi_schedule` and `rtw88_napi_thread_wrapper` hand the receive ring from one invocation of the
poll loop to the next through two flags. `running` is a token: whoever sets it from 0 to 1 owns the
ring, through entering the thread call up to the end of the invocation. `pending` is a request that
the owner has not yet taken up.

Each step below is one atomic operation of one thread, or the start or the return of one `poll`; the
steps of all threads interleave in any order. The structure is set up, and is not torn down, so `poll`
and the thread call are there.
-/

namespace AirportAwdl.Compat

open Progress

variable {ι : Type} [DecidableEq ι]

/-- The next step of a thread. -/
inductive NapiPhase where
  | idle
  /-- `rtw88_napi_schedule`: set `pending`, -/
  | store
  /-- try to set `running`, -/
  | swap
  /-- enter the thread call. -/
  | enter
  /-- `rtw88_napi_thread_wrapper`: clear `pending`, -/
  | clear
  /-- call `poll`, with `iters` calls done, -/
  | poll (iters : ℕ)
  /-- return from it, -/
  | polling (iters : ℕ)
  /-- set `pending` where the budget is used up, -/
  | mark
  /-- clear `running`, -/
  | release
  /-- look at `pending`, -/
  | check
  /-- try to set `running`, -/
  | reswap
  /-- enter the thread call again. -/
  | reenter
deriving DecidableEq, Repr

/-- `napi_struct`, with the thread call and the threads that use it. -/
structure Napi (ι : Type) where
  running : Bool := false
  pending : Bool := false
  /-- Calls of the thread call that were entered and have not begun. -/
  entered : ℕ := 0
  threads : ι → NapiPhase := fun _ => .idle

inductive NapiEvent (ι : Type) where
  /-- The thread calls `rtw88_napi_schedule`. -/
  | schedule (i : ι)
  /-- An entered call begins on the thread. -/
  | invoke (i : ι)
  /-- The thread takes its next step; a `poll` returns `work`. -/
  | step (i : ι) (work : ℤ)

namespace Napi

/-- `napi->weight` -/
def weight : ℤ := 64

/-- The thread stands before another step. -/
def goes (s : Napi ι) (i : ι) (p : NapiPhase) : Napi ι :=
  { s with threads := Function.update s.threads i p }

/-- One step of `rtw88_napi_schedule` or `rtw88_napi_thread_wrapper`. -/
def threadStep (s : Napi ι) (i : ι) (work : ℤ) : Napi ι :=
  match s.threads i with
  | .idle => s
  | .store => { s with pending := true }.goes i .swap
  | .swap => if s.running then s.goes i .idle else { s with running := true }.goes i .enter
  | .enter => { s with entered := s.entered + 1 }.goes i .idle
  | .clear => { s with pending := false }.goes i (.poll 0)
  | .poll iters => s.goes i (.polling iters)
  | .polling iters =>
    if work ≥ weight then
      if iters + 1 < 64 then s.goes i (.poll (iters + 1)) else s.goes i .mark
    else s.goes i .release
  | .mark => { s with pending := true }.goes i .release
  | .release => { s with running := false }.goes i .check
  | .check => if s.pending then s.goes i .reswap else s.goes i .idle
  | .reswap => if s.running then s.goes i .idle else { s with running := true }.goes i .reenter
  | .reenter => { s with entered := s.entered + 1 }.goes i .idle

/-- A thread that is busy does not begin another call, and no call begins that was not entered. -/
def step (s : Napi ι) : NapiEvent ι → Napi ι
  | .schedule i => if s.threads i = .idle then s.goes i .store else s
  | .invoke i =>
    if s.threads i = .idle ∧ 0 < s.entered then
      { s with entered := s.entered - 1 }.goes i .clear
    else s
  | .step i work => s.threadStep i work

/-- The state after `n` events. -/
def history (σ : ℕ → NapiEvent ι) : ℕ → Napi ι
  | 0 => {}
  | n + 1 => (history σ n).step (σ n)

end Napi

namespace NapiPhase

/-- The thread owns the ring: it has set `running` and not yet passed it on. -/
def Owns : NapiPhase → Prop
  | .enter | .clear | .poll _ | .polling _ | .mark | .release | .reenter => True
  | .idle | .store | .swap | .check | .reswap => False

/-- The thread is in the part of an invocation that owns the ring. -/
def Serves : NapiPhase → Prop
  | .clear | .poll _ | .polling _ | .mark | .release => True
  | .idle | .store | .swap | .enter | .check | .reswap | .reenter => False

/-- The thread is between its first and its last call of `poll`. -/
def Polls : NapiPhase → Prop
  | .polling _ => True
  | .poll iters => 0 < iters
  | _ => False

/-- The thread will still try to set `running`. -/
def Asks : NapiPhase → Prop
  | .swap | .check | .reswap => True
  | _ => False

lemma Serves.owns {p : NapiPhase} (h : p.Serves) : p.Owns := by
  cases p <;> first | exact h | exact trivial

lemma Polls.owns {p : NapiPhase} (h : p.Polls) : p.Owns := by
  cases p <;> first | exact h | exact trivial

end NapiPhase

namespace Napi

/-- What an event can do to the token. -/
inductive Moves (s : Napi ι) : Napi ι → Prop where
  | none : Moves s s
  | plain (i : ι) (p : NapiPhase) (pending : Bool) (h : p.Owns ↔ (s.threads i).Owns) :
      Moves s ({ s with pending := pending }.goes i p)
  | take (i : ι) (p : NapiPhase) (hfree : s.running = false) (h : ¬(s.threads i).Owns) (hp : p.Owns) :
      Moves s ({ s with running := true }.goes i p)
  | release (i : ι) (h : s.threads i = .release) :
      Moves s ({ s with running := false }.goes i .check)
  | enter (i : ι) (h : (s.threads i).Owns) :
      Moves s ({ s with entered := s.entered + 1 }.goes i .idle)
  | invoke (i : ι) (h : s.threads i = .idle) (hentered : 0 < s.entered) :
      Moves s ({ s with entered := s.entered - 1 }.goes i .clear)

lemma moves_threadStep (s : Napi ι) (i : ι) (work : ℤ) : Moves s (s.threadStep i work) := by
  unfold threadStep
  cases hp : s.threads i with
  | idle => exact .none
  | store => exact .plain i .swap true (by rw [hp]; rfl)
  | swap =>
    dsimp only
    split_ifs with hrunning
    · exact .plain i .idle s.pending (by rw [hp]; rfl)
    · exact .take i .enter (Bool.not_eq_true _ ▸ hrunning) (by rw [hp]; exact id) trivial
  | enter => exact .enter i (by rw [hp]; trivial)
  | clear => exact .plain i (.poll 0) false (by rw [hp]; rfl)
  | poll iters => exact .plain i (.polling iters) s.pending (by rw [hp]; rfl)
  | polling iters =>
    dsimp only
    split_ifs
    · exact .plain i (.poll (iters + 1)) s.pending (by rw [hp]; rfl)
    · exact .plain i .mark s.pending (by rw [hp]; rfl)
    · exact .plain i .release s.pending (by rw [hp]; rfl)
  | mark => exact .plain i .release true (by rw [hp]; rfl)
  | release => exact .release i hp
  | check =>
    dsimp only
    split_ifs
    · exact .plain i .reswap s.pending (by rw [hp]; rfl)
    · exact .plain i .idle s.pending (by rw [hp]; rfl)
  | reswap =>
    dsimp only
    split_ifs with hrunning
    · exact .plain i .idle s.pending (by rw [hp]; rfl)
    · exact .take i .reenter (Bool.not_eq_true _ ▸ hrunning) (by rw [hp]; exact id) trivial
  | reenter => exact .enter i (by rw [hp]; trivial)

/-- Every event moves the token in one of these ways. -/
lemma moves_step (s : Napi ι) (e : NapiEvent ι) : Moves s (s.step e) := by
  cases e with
  | schedule i =>
    simp only [step]
    split_ifs with hidle
    · exact .plain i .store s.pending (by rw [hidle]; rfl)
    · exact .none
  | invoke i =>
    simp only [step]
    split_ifs with hidle
    · exact .invoke i hidle.1 hidle.2
    · exact .none
  | step i work => exact moves_threadStep s i work

/-- The token is in one place: with an entered call, with one thread, or free. -/
structure Token (s : Napi ι) : Prop where
  one : ∀ {i j}, (s.threads i).Owns → (s.threads j).Owns → i = j
  apart : 0 < s.entered → ∀ i, ¬(s.threads i).Owns
  single : s.entered ≤ 1
  held : s.running = true ↔ 0 < s.entered ∨ ∃ i, (s.threads i).Owns

lemma goes_self (s : Napi ι) (i : ι) (p : NapiPhase) : (s.goes i p).threads i = p :=
  Function.update_self _ _ _

lemma goes_of_ne (s : Napi ι) {i j : ι} (h : j ≠ i) (p : NapiPhase) :
    (s.goes i p).threads j = s.threads j := Function.update_of_ne h _ _

lemma owns_goes (s : Napi ι) (i j : ι) (p : NapiPhase) :
    ((s.goes i p).threads j).Owns ↔ (j = i ∧ p.Owns) ∨ (j ≠ i ∧ (s.threads j).Owns) := by
  by_cases hj : j = i
  · subst hj
    simp [goes_self]
  · simp [goes_of_ne s hj, hj]

/-- The token stays in one place. -/
lemma Token.moves {s s' : Napi ι} (h : s.Token) (hm : Moves s s') : s'.Token := by
  cases hm with
  | none => exact h
  | plain i p pending hp =>
    have howns : ∀ j, (({ s with pending := pending }.goes i p).threads j).Owns ↔
        (s.threads j).Owns := by
      intro j
      rw [owns_goes]
      grind
    exact {
      one := fun hi hj => h.one ((howns _).1 hi) ((howns _).1 hj)
      apart := fun he j hj => h.apart he j ((howns j).1 hj)
      single := h.single
      held := h.held.trans (or_congr_right (exists_congr fun j => (howns j).symm)) }
  | take i p hfree hi hp =>
    have hnone : ¬(0 < s.entered ∨ ∃ j, (s.threads j).Owns) := by
      rw [← h.held, hfree]
      exact Bool.false_ne_true
    rw [not_or, not_exists] at hnone
    have honly : ∀ j, (({ s with running := true }.goes i p).threads j).Owns → j = i := by
      intro j hj
      rw [owns_goes] at hj
      exact hj.elim And.left fun hj => absurd hj.2 (hnone.2 j)
    exact {
      one := fun ha hb => (honly _ ha).trans (honly _ hb).symm
      apart := fun he => absurd he hnone.1
      single := h.single
      held := ⟨fun _ => .inr ⟨i, by rwa [goes_self]⟩, fun _ => rfl⟩ }
  | release i hi =>
    have howner : (s.threads i).Owns := by
      rw [hi]
      trivial
    have hnone : ∀ j, ¬(({ s with running := false }.goes i .check).threads j).Owns := by
      intro j hj
      rw [owns_goes] at hj
      obtain ⟨-, hcheck⟩ | ⟨hji, hj⟩ := hj
      · exact hcheck
      · exact hji (h.one hj howner)
    have hentered : ¬0 < s.entered := fun he => h.apart he i howner
    exact {
      one := fun ha => absurd ha (hnone _)
      apart := fun he => absurd he hentered
      single := h.single
      held := ⟨fun hr => absurd hr Bool.false_ne_true, by
        rintro (he | ⟨j, hj⟩)
        · exact absurd he hentered
        · exact absurd hj (hnone j)⟩ }
  | enter i hi =>
    have hnone : ∀ j, ¬(({ s with entered := s.entered + 1 }.goes i .idle).threads j).Owns := by
      intro j hj
      rw [owns_goes] at hj
      obtain ⟨-, hidle⟩ | ⟨hji, hj⟩ := hj
      · exact hidle
      · exact hji (h.one hj hi)
    have hentered : s.entered = 0 := by
      by_contra hne
      exact h.apart (Nat.pos_of_ne_zero hne) i hi
    exact {
      one := fun ha => absurd ha (hnone _)
      apart := fun _ => hnone
      single := by
        show s.entered + 1 ≤ 1
        omega
      held := ⟨fun _ => .inl (Nat.succ_pos _), fun _ => h.held.2 (.inr ⟨i, hi⟩)⟩ }
  | invoke i hi hentered =>
    have honly : ∀ j, (({ s with entered := s.entered - 1 }.goes i .clear).threads j).Owns → j = i := by
      intro j hj
      rw [owns_goes] at hj
      exact hj.elim And.left fun hj => absurd hj.2 (h.apart hentered j)
    have hlast : s.entered - 1 = 0 := by
      have := h.single
      omega
    exact {
      one := fun ha hb => (honly _ ha).trans (honly _ hb).symm
      apart := fun he => absurd (show 0 < s.entered - 1 from he) (by omega)
      single := by
        show s.entered - 1 ≤ 1
        omega
      held := ⟨fun _ => .inr ⟨i, by rw [goes_self]; trivial⟩, fun _ => h.held.2 (.inl hentered)⟩ }

/-- Whoever leaves a request behind is followed by somebody who looks at it. -/
def Answered (s : Napi ι) : Prop :=
  s.pending = true → s.running = true ∨ ∃ i, (s.threads i).Asks

lemma Answered.goes {s : Napi ι} (h : s.Answered) {i : ι} (hi : ¬(s.threads i).Asks) (p : NapiPhase) :
    (s.goes i p).Answered := by
  intro hpending
  obtain hrunning | ⟨j, hj⟩ := h hpending
  · exact .inl hrunning
  · have hji : j ≠ i := by
      rintro rfl
      exact hi hj
    exact .inr ⟨j, by rwa [goes_of_ne s hji]⟩

lemma answered_of_asks (s : Napi ι) (i : ι) {p : NapiPhase} (hp : p.Asks) : (s.goes i p).Answered :=
  fun _ => .inr ⟨i, by rwa [goes_self]⟩

lemma Answered.threadStep {s : Napi ι} (h : s.Answered) (ht : s.Token) (i : ι) (work : ℤ) :
    (s.threadStep i work).Answered := by
  unfold Napi.threadStep
  cases hp : s.threads i with
  | idle => exact h
  | store => exact answered_of_asks _ i trivial
  | swap =>
    dsimp only
    split_ifs with hrunning
    · exact fun _ => .inl hrunning
    · exact fun _ => .inl rfl
  | enter => exact h.goes (s := { s with entered := s.entered + 1 }) (by rw [hp]; exact id) _
  | clear => exact fun hpending => by cases hpending
  | poll iters => exact h.goes (by rw [hp]; exact id) _
  | polling iters =>
    dsimp only
    split_ifs <;> exact h.goes (by rw [hp]; exact id) _
  | mark =>
    have howner : (s.threads i).Owns := by
      rw [hp]
      trivial
    exact fun _ => .inl (ht.held.2 (.inr ⟨i, howner⟩))
  | release => exact answered_of_asks _ i trivial
  | check =>
    dsimp only
    split_ifs with hpending
    · exact answered_of_asks _ i trivial
    · exact fun hpending' => absurd hpending' hpending
  | reswap =>
    dsimp only
    split_ifs with hrunning
    · exact fun _ => .inl hrunning
    · exact fun _ => .inl rfl
  | reenter => exact h.goes (s := { s with entered := s.entered + 1 }) (by rw [hp]; exact id) _

/-- Whoever leaves a request behind is still followed by somebody who looks. -/
lemma Answered.step {s : Napi ι} (h : s.Answered) (ht : s.Token) (e : NapiEvent ι) :
    (s.step e).Answered := by
  cases e with
  | schedule i =>
    simp only [Napi.step]
    split_ifs with hidle
    · exact h.goes (by rw [hidle]; exact id) _
    · exact h
  | invoke i =>
    simp only [Napi.step]
    split_ifs with hidle
    · exact h.goes (s := { s with entered := s.entered - 1 }) (by rw [hidle.1]; exact id) _
    · exact h
  | step i work => exact h.threadStep ht i work

/-- In every interleaving the token is in one place. -/
lemma token_history (σ : ℕ → NapiEvent ι) (n : ℕ) : (history σ n).Token := by
  induction n with
  | zero =>
    exact {
      one := fun hi => absurd hi id
      apart := fun he => absurd he (Nat.lt_irrefl 0)
      single := Nat.zero_le _
      held := ⟨fun hr => absurd hr Bool.false_ne_true, by
        rintro (he | ⟨i, hi⟩)
        · exact absurd he (Nat.lt_irrefl 0)
        · exact absurd hi id⟩ }
  | succ n ih => exact ih.moves (moves_step _ _)

/-- In every interleaving a request has somebody who looks at it. -/
lemma answered_history (σ : ℕ → NapiEvent ι) (n : ℕ) : (history σ n).Answered := by
  induction n with
  | zero => exact fun hpending => by cases hpending
  | succ n ih => exact ih.step (token_history σ n) (σ n)

section Progress

variable (σ : ℕ → NapiEvent ι)

/-- An invocation begins. -/
def Invokes (n : ℕ) : Prop :=
  ∃ i, σ n = .invoke i ∧ (history σ n).threads i = .idle ∧ 0 < (history σ n).entered

/-- A call of `poll` begins. -/
def PollStarts (n : ℕ) : Prop :=
  ∃ i work iters, σ n = .step i work ∧ (history σ n).threads i = .poll iters

/-- The thread takes a step. -/
def StepsAt (i : ι) (n : ℕ) : Prop := ∃ work, σ n = .step i work

/-- Every entered call begins, and every thread that is not done goes on. -/
structure Fair : Prop where
  begins : Leads (fun n => 0 < (history σ n).entered) (Invokes σ)
  goes_on : ∀ i, Leads (fun n => (history σ n).threads i ≠ .idle) (StepsAt σ i)

variable {σ} {n : ℕ}

lemma threads_of_not_steps {i : ι} (hbusy : (history σ n).threads i ≠ .idle)
    (hno : ¬StepsAt σ i n) : (history σ (n + 1)).threads i = (history σ n).threads i := by
  show ((history σ n).step (σ n)).threads i = _
  cases he : σ n with
  | schedule j =>
    grind [step, goes_of_ne]
  | invoke j =>
    grind [step, goes_of_ne]
  | step j work =>
    have hij : i ≠ j := by
      rintro rfl
      exact hno ⟨work, he⟩
    grind [step, threadStep, goes_of_ne]

lemma pending_or_clear (hpending : (history σ n).pending = true) :
    (history σ (n + 1)).pending = true ∨
      ∃ i, (history σ n).threads i = .clear ∧ (history σ (n + 1)).threads i = .poll 0 := by
  show ((history σ n).step (σ n)).pending = true ∨
    ∃ i, _ ∧ ((history σ n).step (σ n)).threads i = .poll 0
  cases he : σ n with
  | schedule j =>
    simp only [step]
    split_ifs <;> exact .inl hpending
  | invoke j =>
    simp only [step]
    split_ifs <;> exact .inl hpending
  | step j work =>
    simp only [step]
    unfold threadStep
    split <;> (try split_ifs) <;> first | exact .inl hpending | exact .inl rfl | skip
    rename_i hclear
    exact .inr ⟨j, hclear, goes_self _ _ _⟩

lemma serves_or_invokes (hnone : ∀ i, ¬((history σ n).threads i).Serves) :
    (∀ i, ¬((history σ (n + 1)).threads i).Serves) ∨ Invokes σ n := by
  by_cases hinvokes : Invokes σ n
  · exact .inr hinvokes
  refine .inl fun i => ?_
  show ¬(((history σ n).step (σ n)).threads i).Serves
  have hother : ∀ (s : Napi ι) (j : ι) (p : NapiPhase), s.threads = (history σ n).threads →
      ¬p.Serves → ¬((s.goes j p).threads i).Serves := by
    intro s j p hs hp
    by_cases hij : i = j
    · subst hij
      rwa [goes_self]
    · rw [goes_of_ne _ hij, hs]
      exact hnone i
  cases he : σ n with
  | schedule j =>
    simp only [step]
    split_ifs
    · exact hother _ j _ rfl id
    · exact hnone i
  | invoke j =>
    simp only [step]
    split_ifs with hidle
    · exact absurd ⟨j, he, hidle⟩ hinvokes
    · exact hnone i
  | step j work =>
    simp only [step]
    unfold threadStep
    have hj := hnone j
    split <;> rename_i hp <;> rw [hp] at hj <;> (try split_ifs) <;>
      first
        | exact hnone i
        | exact hother _ j _ rfl id
        | exact absurd trivial hj

/-- A thread in a phase, under a condition that lasts, comes to its next step. -/
lemma Fair.leads_step (hf : Fair σ) (i : ι) {p : NapiPhase} (hp : p ≠ .idle) {C Q : ℕ → Prop}
    (hkeep : ∀ n, (history σ n).threads i = p → C n → C (n + 1) ∨ Q n)
    (hstep : ∀ n work, (history σ n).threads i = p → C n → σ n = .step i work → Q n) :
    Leads (fun n => (history σ n).threads i = p ∧ C n) Q := by
  refine leads_of_fair (H := StepsAt σ i) (fun n hn => hf.goes_on i n fun hidle => hp (hn.1.symm.trans hidle))
    ?_ ?_
  · grind [threads_of_not_steps]
  · rintro n ⟨hthread, hc⟩ ⟨work, he⟩
    exact hstep n work hthread hc he

lemma history_step {i : ι} {work : ℤ} (he : σ n = .step i work) :
    history σ (n + 1) = (history σ n).threadStep i work := by
  rw [history, he]
  rfl

lemma Fair.leads_poll (hf : Fair σ) (i : ι) (iters : ℕ) :
    Leads (fun n => (history σ n).threads i = .poll iters) (PollStarts σ) := by
  have hleads := hf.leads_step i (p := .poll iters) NapiPhase.noConfusion (C := fun _ => True)
    (Q := PollStarts σ) (fun _ _ _ => .inl trivial)
    fun n work hthread _ he => ⟨i, work, iters, he, hthread⟩
  exact fun n hn => hleads n ⟨hn, trivial⟩

lemma Fair.leads_clear (hf : Fair σ) (i : ι) :
    Leads (fun n => (history σ n).threads i = .clear) (PollStarts σ) := by
  have hleads := hf.leads_step i (p := .clear) NapiPhase.noConfusion (C := fun _ => True)
    (Q := fun n => (history σ (n + 1)).threads i = .poll 0) (fun _ _ _ => .inl trivial) <| by
    intro n work hthread _ he
    rw [history_step he, threadStep, hthread]
    exact goes_self _ _ _
  exact fun n hn => (hleads.trans (hf.leads_poll i 0).next) n ⟨hn, trivial⟩

lemma Fair.invokes_leads_poll (hf : Fair σ) : Leads (Invokes σ) (PollStarts σ) := by
  rintro n ⟨i, he, hidle⟩
  have hclear : (history σ (n + 1)).threads i = .clear := by
    rw [history, he, step, if_pos hidle]
    exact goes_self _ _ _
  obtain ⟨m, hm, hpoll⟩ := hf.leads_clear i (n + 1) hclear
  exact ⟨m, by omega, hpoll⟩

/-- The token is on its way to a new invocation. -/
def Bound (n : ℕ) : Prop :=
  0 < (history σ n).entered ∨
    ∃ i, (history σ n).threads i = .enter ∨ (history σ n).threads i = .reenter

lemma Fair.leads_enter (hf : Fair σ) (i : ι) {p : NapiPhase} (hp : p = .enter ∨ p = .reenter) :
    Leads (fun n => (history σ n).threads i = p) (Invokes σ) := by
  have hne : p ≠ .idle := by
    grind
  have hleads := hf.leads_step i hne (C := fun _ => True)
    (Q := fun n => 0 < (history σ (n + 1)).entered) (fun _ _ _ => .inl trivial) <| by
    intro n work hthread _ he
    rw [history_step he, threadStep, hthread]
    obtain rfl | rfl := hp <;> exact Nat.succ_pos _
  exact fun n hn => (hleads.trans hf.begins.next) n ⟨hn, trivial⟩

lemma Fair.bound_leads (hf : Fair σ) : Leads (Bound (σ := σ)) (Invokes σ) := by
  rintro n (hentered | ⟨i, hi⟩)
  · exact hf.begins n hentered
  · obtain hi | hi := hi
    · exact hf.leads_enter i (.inl rfl) n hi
    · exact hf.leads_enter i (.inr rfl) n hi

lemma bound_of_running (hrunning : (history σ n).running = true)
    (hnone : ∀ i, ¬((history σ n).threads i).Serves) : Bound (σ := σ) n := by
  obtain hentered | ⟨i, hi⟩ := (token_history σ n).held.1 hrunning
  · exact .inl hentered
  · have hi' := hnone i
    refine .inr ⟨i, ?_⟩
    cases hp : (history σ n).threads i <;> rw [hp] at hi hi' <;>
      first
        | exact .inl rfl
        | exact .inr rfl
        | exact absurd hi id
        | exact absurd trivial hi'

/-- A request that nobody has taken up while the ring is not served. -/
def Left (n : ℕ) : Prop :=
  (history σ n).pending = true ∧ ∀ i, ¬((history σ n).threads i).Serves

lemma left_or_invokes (h : Left (σ := σ) n) : Left (σ := σ) (n + 1) ∨ Invokes σ n := by
  obtain hnone | hinvokes := serves_or_invokes h.2
  · obtain hpending | ⟨i, hi, -⟩ := pending_or_clear h.1
    · exact .inl ⟨hpending, hnone⟩
    · refine absurd ?_ (h.2 i)
      rw [hi]
      trivial
  · exact .inr hinvokes

lemma Fair.leads_reswap (hf : Fair σ) (i : ι) :
    Leads (fun n => (history σ n).threads i = .reswap ∧ Left (σ := σ) n) (Invokes σ) := by
  have hleads := hf.leads_step i (p := .reswap) NapiPhase.noConfusion (C := Left (σ := σ))
    (Q := fun n => Invokes σ n ∨ Bound (σ := σ) (n + 1))
    (fun n _ hleft => (left_or_invokes hleft).imp_right .inl) <| by
    intro n work hthread hleft he
    have hnext := history_step he
    rw [threadStep, hthread] at hnext
    dsimp only at hnext
    split_ifs at hnext with hrunning
    · obtain hleft' | hinvokes := left_or_invokes hleft
      · refine .inr (bound_of_running ?_ hleft'.2)
        rw [hnext]
        exact hrunning
      · exact .inl hinvokes
    · refine .inr (.inr ⟨i, .inr ?_⟩)
      rw [hnext]
      exact goes_self _ _ _
  exact hleads.trans ((leads_of_imp fun _ => id).or hf.bound_leads.next)

lemma Fair.leads_check (hf : Fair σ) (i : ι) :
    Leads (fun n => (history σ n).threads i = .check ∧ Left (σ := σ) n) (Invokes σ) := by
  have hleads := hf.leads_step i (p := .check) NapiPhase.noConfusion (C := Left (σ := σ))
    (Q := fun n => Invokes σ n ∨
      ((history σ (n + 1)).threads i = .reswap ∧ Left (σ := σ) (n + 1)))
    (fun n _ hleft => (left_or_invokes hleft).imp_right .inl) <| by
    intro n work hthread hleft he
    have hnext := history_step he
    rw [threadStep, hthread] at hnext
    rw [if_pos hleft.1] at hnext
    grind [left_or_invokes, goes_self]
  exact hleads.trans ((leads_of_imp fun _ => id).or (hf.leads_reswap i).next)

lemma pending_of_owner {i : ι} (hi : ((history σ n).threads i).Owns)
    (hclear : (history σ n).threads i ≠ .clear) (hpending : (history σ n).pending = true) :
    (history σ (n + 1)).pending = true := by
  obtain hkept | ⟨j, hj, -⟩ := pending_or_clear hpending
  · exact hkept
  · have howner : ((history σ n).threads j).Owns := by
      rw [hj]
      trivial
    obtain rfl := (token_history σ n).one hi howner
    exact absurd hj hclear

lemma Fair.leads_release (hf : Fair σ) (i : ι) :
    Leads (fun n => (history σ n).threads i = .release ∧ (history σ n).pending = true)
      (Invokes σ) := by
  have hkept : ∀ n, (history σ n).threads i = .release → (history σ n).pending = true →
      (history σ (n + 1)).pending = true := fun n hthread hpending =>
    pending_of_owner (i := i) (by rw [hthread]; trivial) (by rw [hthread]; exact NapiPhase.noConfusion)
      hpending
  have hleads := hf.leads_step i (p := .release) NapiPhase.noConfusion
    (Q := fun n => (history σ (n + 1)).threads i = .check ∧ Left (σ := σ) (n + 1))
    (fun n hthread hpending => .inl (hkept n hthread hpending)) <| by
    intro n work hthread hpending he
    have hnext := history_step he
    rw [threadStep, hthread] at hnext
    have hcheck : (history σ (n + 1)).threads i = .check := by
      rw [hnext]
      exact goes_self _ _ _
    refine ⟨hcheck, hkept n hthread hpending, fun j hj => ?_⟩
    -- the token was with this thread, and now it is free
    have hrunning := (token_history σ (n + 1)).held.2 (.inr ⟨j, hj.owns⟩)
    rw [hnext] at hrunning
    exact Bool.false_ne_true hrunning
  exact hleads.trans (hf.leads_check i).next

lemma Fair.leads_mark (hf : Fair σ) (i : ι) :
    Leads (fun n => (history σ n).threads i = .mark) (Invokes σ) := by
  have hleads := hf.leads_step i (p := .mark) NapiPhase.noConfusion (C := fun _ => True)
    (Q := fun n => (history σ (n + 1)).threads i = .release ∧ (history σ (n + 1)).pending = true)
    (fun _ _ _ => .inl trivial) <| by
    intro n work hthread _ he
    rw [history_step he, threadStep, hthread]
    exact ⟨goes_self _ _ _, rfl⟩
  exact fun n hn => (hleads.trans (hf.leads_release i).next) n ⟨hn, trivial⟩

lemma Fair.leads_polling (hf : Fair σ) (i : ι) (iters : ℕ) :
    Leads (fun n => (history σ n).threads i = .polling iters ∧ (history σ n).pending = true)
      (PollStarts σ) := by
  have hkept : ∀ n, (history σ n).threads i = .polling iters → (history σ n).pending = true →
      (history σ (n + 1)).pending = true := fun n hthread hpending =>
    pending_of_owner (i := i) (by rw [hthread]; trivial) (by rw [hthread]; exact NapiPhase.noConfusion)
      hpending
  have hleads := hf.leads_step i (p := .polling iters) NapiPhase.noConfusion
    (Q := fun n => (history σ (n + 1)).threads i = .poll (iters + 1) ∨
      ((history σ (n + 1)).threads i = .mark ∨
        ((history σ (n + 1)).threads i = .release ∧ (history σ (n + 1)).pending = true)))
    (fun n hthread hpending => .inl (hkept n hthread hpending)) <| by
    intro n work hthread hpending he
    have hnext := history_step he
    grind [threadStep, goes_self]
  exact hleads.trans ((hf.leads_poll i (iters + 1)).next.or
    (((hf.leads_mark i).trans hf.invokes_leads_poll).next.or
      ((hf.leads_release i).trans hf.invokes_leads_poll).next))

/-- A request on a ring that somebody owns is taken up. -/
lemma Fair.leads_claimed (hf : Fair σ) :
    Leads (fun n => (history σ n).running = true ∧ (history σ n).pending = true) (PollStarts σ) := by
  rintro n ⟨hrunning, hpending⟩
  obtain hentered | ⟨i, hi⟩ := (token_history σ n).held.1 hrunning
  · exact (hf.begins.trans hf.invokes_leads_poll) n hentered
  cases hp : (history σ n).threads i with
  | enter => exact ((hf.leads_enter i (.inl rfl)).trans hf.invokes_leads_poll) n hp
  | reenter => exact ((hf.leads_enter i (.inr rfl)).trans hf.invokes_leads_poll) n hp
  | clear => exact hf.leads_clear i n hp
  | poll iters => exact hf.leads_poll i iters n hp
  | polling iters => exact hf.leads_polling i iters n ⟨hp, hpending⟩
  | mark => exact ((hf.leads_mark i).trans hf.invokes_leads_poll) n hp
  | release => exact ((hf.leads_release i).trans hf.invokes_leads_poll) n ⟨hp, hpending⟩
  | idle | store | swap | check | reswap =>
    rw [hp] at hi
    exact absurd hi id

lemma claimed_of_swap {i : ι} (hthread : (history σ n).threads i = .swap) (hsteps : StepsAt σ i n) :
    (history σ (n + 1)).running = true ∧ (history σ (n + 1)).pending = (history σ n).pending := by
  obtain ⟨work, he⟩ := hsteps
  rw [history_step he, threadStep, hthread]
  dsimp only
  split_ifs with hrunning
  · exact ⟨hrunning, rfl⟩
  · exact ⟨rfl, rfl⟩

lemma Fair.leads_swap (hf : Fair σ) (i : ι) :
    Leads (fun n => (history σ n).threads i = .swap ∧ (history σ n).pending = true)
      (PollStarts σ) := by
  have hleads := hf.leads_step i (p := .swap) NapiPhase.noConfusion
    (C := fun n => (history σ n).pending = true)
    (Q := fun n => (∃ j, (history σ (n + 1)).threads j = .poll 0) ∨
      ((history σ (n + 1)).running = true ∧ (history σ (n + 1)).pending = true))
    (fun n _ hpending => (pending_or_clear hpending).imp_right fun hclear =>
      .inl (hclear.imp fun _ => And.right)) <| by
    intro n work hthread hpending he
    obtain ⟨hrunning, hsame⟩ := claimed_of_swap hthread ⟨work, he⟩
    exact .inr ⟨hrunning, hsame.trans hpending⟩
  exact hleads.trans ((leads_exists fun j => hf.leads_poll j 0).next.or hf.leads_claimed.next)

end Progress

/-- The ring has one poller at a time and no request is lost. A schedule makes its request when it sets
`pending`: a `poll` starts after that, and after the whole call unless the request was taken up
before its end. A `poll` that used up its budget 64 times is followed by another invocation. Where
nothing is going on both flags are clear. -/
theorem napi_handoff (σ : ℕ → NapiEvent ι) :
    (∀ n i j, ((history σ n).threads i).Polls → ((history σ n).threads j).Polls → i = j) ∧
    (∀ n, (∀ i, (history σ n).threads i = .idle) → (history σ n).entered = 0 →
      (history σ n).running = false ∧ (history σ n).pending = false) ∧
    (Fair σ →
      (∀ n i, (history σ n).threads i = .store → StepsAt σ i n → ∃ m, n < m ∧ PollStarts σ m) ∧
      (∀ n i, (history σ n).threads i = .swap → StepsAt σ i n →
        (history σ n).running = false ∨ (history σ n).pending = true →
        ∃ m, n < m ∧ PollStarts σ m) ∧
      ∀ n i work, (history σ n).threads i = .polling 63 → σ n = .step i work → weight ≤ work →
        ∃ m, n < m ∧ Invokes σ m) := by
  refine ⟨fun n i j hi hj => (token_history σ n).one hi.owns hj.owns, ?_, fun hf => ⟨?_, ?_, ?_⟩⟩
  · intro n hidle hentered
    have hrunning : (history σ n).running = false := by
      rw [← Bool.not_eq_true, (token_history σ n).held, hentered]
      rintro (hpos | ⟨i, hi⟩)
      · exact absurd hpos (Nat.lt_irrefl 0)
      · rw [hidle i] at hi
        exact hi
    refine ⟨hrunning, ?_⟩
    rw [← Bool.not_eq_true]
    intro hpending
    obtain hr | ⟨i, hi⟩ := answered_history σ n hpending
    · exact Bool.false_ne_true (hrunning.symm.trans hr)
    · rw [hidle i] at hi
      exact hi
  · rintro n i hthread ⟨work, he⟩
    have hnext := history_step he
    rw [threadStep, hthread] at hnext
    have hswap : (history σ (n + 1)).threads i = .swap ∧ (history σ (n + 1)).pending = true := by
      rw [hnext]
      exact ⟨goes_self _ _ _, rfl⟩
    exact hf.leads_swap i (n + 1) hswap
  · rintro n i hthread ⟨work, he⟩ (hfree | hpending)
    · have hnext := history_step he
      rw [threadStep, hthread] at hnext
      have henter : (history σ (n + 1)).threads i = .enter := by
        rw [hnext]
        simp only [hfree, Bool.false_eq_true, if_false]
        exact goes_self _ _ _
      exact ((hf.leads_enter i (.inl rfl)).trans hf.invokes_leads_poll) (n + 1) henter
    · obtain ⟨hrunning, hsame⟩ := claimed_of_swap hthread ⟨work, he⟩
      exact hf.leads_claimed (n + 1) ⟨hrunning, hsame.trans hpending⟩
  · intro n i work hthread he hwork
    have hnext := history_step he
    rw [threadStep, hthread] at hnext
    have hmark : (history σ (n + 1)).threads i = .mark := by
      rw [hnext]
      simp only [ge_iff_le, hwork, if_true]
      exact goes_self _ _ _
    exact hf.leads_mark i (n + 1) hmark

/-- One request, answered by one `poll` that finds nothing; then nothing more happens. -/
def single (n : ℕ) : NapiEvent (Fin 2) :=
  [.schedule 0, .step 0 0, .step 0 0, .step 0 0, .invoke 1].getD n (.step 1 0)

lemma history_single (k : ℕ) : history single (10 + k) = history single 10 := by
  induction k with
  | zero => rfl
  | succ k ih =>
    show (history single (10 + k)).step (single (10 + k)) = _
    rw [ih]
    have hidle : (history single 10).threads 1 = .idle := by decide
    have hevent : single (10 + k) = .step 1 0 := by
      rw [Nat.add_comm]
      rfl
    rw [hevent, step, threadStep, hidle]

lemma fair_single : Fair single := by
  have hlate : ∀ n, ¬n < 10 → history single n = history single 10 := by
    intro n hn
    obtain ⟨k, rfl⟩ := Nat.exists_eq_add_of_le (Nat.le_of_not_lt hn)
    exact history_single k
  constructor
  · intro n hentered
    have hbound : ∀ n < 10, 0 < (history single n).entered → n ≤ 4 := by decide
    by_cases hn : n < 10
    · exact ⟨4, hbound n hn hentered, 1, rfl, by decide, by decide⟩
    · rw [hlate n hn] at hentered
      exact absurd hentered (by decide)
  · intro i n hbusy
    obtain rfl | rfl : i = 0 ∨ i = 1 := by omega
    · have hbound : ∀ n < 10, (history single n).threads 0 ≠ .idle → n ≤ 3 := by decide
      by_cases hn : n < 10
      · exact ⟨3, hbound n hn hbusy, 0, rfl⟩
      · rw [hlate n hn] at hbusy
        exact absurd (by decide) hbusy
    · exact ⟨n + 5, Nat.le_add_right n 5, 0, rfl⟩

theorem napi_handoff_single : Fair single ∧ ∃ m, 1 < m ∧ PollStarts single m :=
  ⟨fair_single, ((napi_handoff single).2.2 fair_single).1 1 0 (by decide) ⟨0, rfl⟩⟩

end Napi

end AirportAwdl.Compat
