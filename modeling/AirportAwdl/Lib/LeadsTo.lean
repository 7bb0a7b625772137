import Mathlib.Tactic

/-!
# Progress along a schedule

Predicates on the moments of an infinite run. `Leads P Q` says that a moment of `P` is followed, at
once or later, by one of `Q`. A predicate that stays until one event comes, and that the event turns
into another, leads there if the event always comes (`leads_of_fair`); such steps are chained by
`Leads.trans`. A rank that every helpful event lowers comes to its end (`leads_of_rank`).
-/

namespace Progress

variable {P Q R H : ℕ → Prop}

/-- A moment of `P` is followed by a moment of `Q`. -/
def Leads (P Q : ℕ → Prop) : Prop := ∀ n, P n → ∃ m, n ≤ m ∧ Q m

lemma leads_of_imp (h : ∀ n, P n → Q n) : Leads P Q := fun n hn => ⟨n, le_rfl, h n hn⟩

lemma Leads.trans (h : Leads P Q) (h' : Leads Q R) : Leads P R := by
  intro n hn
  obtain ⟨m, hm, hq⟩ := h n hn
  obtain ⟨k, hk, hr⟩ := h' m hq
  exact ⟨k, hm.trans hk, hr⟩

lemma Leads.or (h : Leads P R) (h' : Leads Q R) : Leads (fun n => P n ∨ Q n) R := by
  intro n hn
  obtain hn | hn := hn
  · exact h n hn
  · exact h' n hn

lemma leads_exists {ι : Sort*} {P : ι → ℕ → Prop} (h : ∀ i, Leads (P i) Q) :
    Leads (fun n => ∃ i, P i n) Q := fun n hn => h hn.choose n hn.choose_spec

lemma Leads.next (h : Leads P Q) : Leads (fun n => P (n + 1)) Q := by
  intro n hn
  obtain ⟨m, hm, hq⟩ := h (n + 1) hn
  exact ⟨m, by omega, hq⟩

lemma leads_of_fair (hfair : Leads P H) (hkeep : ∀ n, P n → ¬H n → P (n + 1) ∨ Q n)
    (hhelp : ∀ n, P n → H n → Q n) : Leads P Q := by
  intro n hn
  obtain ⟨m, hm, hhm⟩ := hfair n hn
  obtain ⟨k, rfl⟩ := Nat.exists_eq_add_of_le hm
  clear hm
  -- induction on the distance to the event
  induction k generalizing n with
  | zero => exact ⟨n, le_rfl, hhelp n hn hhm⟩
  | succ k ih =>
    by_cases hh : H n
    · exact ⟨n, le_rfl, hhelp n hn hh⟩
    obtain hp | hq := hkeep n hn hh
    · obtain ⟨j, hj, hqj⟩ := ih (n + 1) hp (by rwa [Nat.add_right_comm, Nat.add_assoc])
      exact ⟨j, by omega, hqj⟩
    · exact ⟨n, le_rfl, hq⟩

lemma leads_of_rank {P : ℕ → ℕ → Prop} (hfair : Leads (fun _ => True) H)
    (hkeep : ∀ r n, P r n → ¬H n → P r (n + 1) ∨ Q (n + 1))
    (hhelp : ∀ r n, P r n → H n → (∃ r' < r, P r' (n + 1)) ∨ Q (n + 1)) (r : ℕ) : Leads (P r) Q := by
  induction r using Nat.strong_induction_on with
  | _ r ih =>
    have hlower : Leads (P r) fun n => (∃ r' < r, P r' (n + 1)) ∨ Q (n + 1) :=
      leads_of_fair (fun n _ => hfair n trivial) (fun n hp hh => (hkeep r n hp hh).imp_right .inr)
        (hhelp r)
    intro n hn
    obtain ⟨m, hm, ⟨r', hr', hp⟩ | hq⟩ := hlower n hn
    · obtain ⟨k, hk, hq⟩ := ih r' hr' (m + 1) hp
      exact ⟨k, by omega, hq⟩
    · exact ⟨m + 1, by omega, hq⟩

end Progress
