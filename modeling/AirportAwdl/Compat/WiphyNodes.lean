import AirportAwdl.Lib.TicketQueue
import AirportAwdl.Compat.WiphyWork

/-!
# Wiphy work: the list of nodes

Comparisons of `jiffies` are right for times that are less than half the range apart. A scan of the list
finds a node that is due, or the earliest deadline. The list keeps one link for each queued node, and
every ticket is listed, in hand, run or removed, and only one of these.
-/

namespace AirportAwdl.Compat

open TicketQueue

variable {N : Type}

lemma le_advance (clock lag : ℕ) : clock ≤ advance clock lag := by
  unfold advance
  split_ifs <;> omega

lemma advance_le {clock lag : ℕ} (h : clock ≤ lastMs) : advance clock lag ≤ lastMs := by
  unfold advance
  split_ifs with hlag
  · exact hlag
  · exact h

lemma toNat_jiffies {clock : ℕ} (h : clock ≤ lastMs) : (jiffies clock).toNat = clock := by
  exact Nat.mod_eq_of_lt (h.trans_lt (by decide))

lemma toNat_deadline {queuedAt : ℕ} {delay : UInt64} (hq : queuedAt ≤ lastMs)
    (hd : delay.toNat ≤ 2 ^ 63) : (jiffies queuedAt + delay).toNat = queuedAt + delay.toNat := by
  have hlimit : lastMs < 2 ^ 63 := by decide
  rw [UInt64.toNat_add, toNat_jiffies hq, Nat.mod_eq_of_lt]
  omega

lemma timeAfterEq_iff {clock : ℕ} {deadline : UInt64} (hc : clock ≤ lastMs)
    (hd : deadline.toNat ≤ clock + 2 ^ 63) :
    timeAfterEq (jiffies clock) deadline = true ↔ deadline.toNat ≤ clock := by
  have hlimit : lastMs < 2 ^ 63 := by decide
  rw [timeAfterEq, decide_eq_true_iff, UInt64.toNat_sub, toNat_jiffies hc]
  omega

lemma timeBefore_iff {a b : UInt64} (hab : a.toNat < b.toNat + 2 ^ 63)
    (hba : b.toNat ≤ a.toNat + 2 ^ 63) : timeBefore a b = true ↔ a.toNat < b.toNat := by
  have ha := a.toNat_lt
  rw [timeBefore, decide_eq_true_iff, UInt64.toNat_sub]
  omega

lemma toNat_callDeadline_le {clock : ℕ} (h : clock ≤ lastMs) (expires : UInt64) :
    (callDeadline clock expires).toNat ≤ max expires.toNat (clock + 1) := by
  have hlimit : lastMs < 2 ^ 63 := by decide
  have hdelay : clock + delayMs clock expires % 2 ^ 32 ≤ max expires.toNat (clock + 1) := by
    unfold delayMs
    rw [UInt64.toNat_sub, toNat_jiffies h]
    grind
  exact (Nat.mod_le _ _).trans hdelay

/-- The link was made by a queueing in the past. -/
structure Entry.Made (clock : ℕ) (e : Entry N) : Prop where
  deadline : e.deadline = jiffies e.queuedAt + e.delay
  past : e.queuedAt ≤ clock

/-- The delay is in the range of the comparisons. -/
def Entry.Sane (e : Entry N) : Prop := e.delay.toNat ≤ 2 ^ 63

lemma Entry.Made.later {e : Entry N} {clock clock' : ℕ} (h : e.Made clock) (hle : clock ≤ clock') :
    e.Made clock' := ⟨h.deadline, h.past.trans hle⟩

lemma Entry.Made.toNat_deadline {e : Entry N} {clock : ℕ} (h : e.Made clock) (hclock : clock ≤ lastMs)
    (hsane : e.Sane) : e.deadline.toNat = e.due := by
  rw [h.deadline]
  exact Compat.toNat_deadline (h.past.trans hclock) hsane

lemma Entry.Made.due_of_timeAfterEq {x : Entry N} {clock later : ℕ} (h : x.Made clock)
    (hclock : clock ≤ later) (hlast : later ≤ lastMs) (hsane : x.Sane)
    (hdue : timeAfterEq (jiffies later) x.deadline = true) : x.due ≤ later := by
  have hdeadline := h.toNat_deadline (hclock.trans hlast) hsane
  have hpast := h.past
  have hdelay : x.delay.toNat ≤ 2 ^ 63 := hsane
  have hrange : x.deadline.toNat ≤ later + 2 ^ 63 := by
    rw [hdeadline, Entry.due]
    omega
  rw [timeAfterEq_iff hlast hrange, hdeadline] at hdue
  exact hdue

lemma scan_found {clock : ℕ} (hclock : clock ≤ lastMs) (lags : List ℕ) (l : List (Entry N))
    (earliest : Option UInt64) :
    clock ≤ (scan clock lags l earliest).1 ∧ (scan clock lags l earliest).1 ≤ lastMs ∧
      ∀ e, (scan clock lags l earliest).2.1 = some e → e ∈ l ∧
        timeAfterEq (jiffies (scan clock lags l earliest).1) e.deadline = true := by
  induction l generalizing clock lags earliest with
  | nil => exact ⟨le_rfl, hclock, fun e he => absurd he.symm (Option.some_ne_none e)⟩
  | cons x rest ih =>
    rw [scan]
    split_ifs with hdue
    · refine ⟨le_advance _ _, advance_le hclock, fun e he => ?_⟩
      rw [← Option.some.inj he]
      exact ⟨List.mem_cons_self, hdue⟩
    all_goals
      obtain ⟨hle, hlast, hfound⟩ := ih (advance_le hclock) lags.tail _
      refine ⟨(le_advance _ _).trans hle, hlast, fun e he => ?_⟩
      exact ⟨List.mem_cons_of_mem x (hfound e he).1, (hfound e he).2⟩

lemma sooner_spec {start clock : ℕ} {e : Entry N} {earliest : Option UInt64} (hclock : clock ≤ lastMs)
    (hstart : start ≤ clock) (he : e.Made start) (hsane : e.Sane)
    (hearliest : ∀ x, earliest = some x → start < x.toNat ∧ x.toNat ≤ start + 2 ^ 63)
    (hdue : ¬timeAfterEq (jiffies clock) e.deadline = true) :
    ∃ y, (if earliest.all fun x => timeBefore e.deadline x then some e.deadline else earliest) =
        some y ∧ (start < y.toNat ∧ y.toNat ≤ start + 2 ^ 63) ∧ y.toNat ≤ e.due ∧
        ∀ x, earliest = some x → y.toNat ≤ x.toNat := by
  have hdeadline := he.toNat_deadline (hstart.trans hclock) hsane
  have hpast := he.past
  have hrange : e.due ≤ start + 2 ^ 63 := by
    have hdelay : e.delay.toNat ≤ 2 ^ 63 := hsane
    rw [Entry.due]
    omega
  rw [timeAfterEq_iff hclock (by omega)] at hdue
  cases earliest with
  | none =>
    grind
  | some x =>
    obtain ⟨hlow, hhigh⟩ := hearliest x rfl
    have hbefore := timeBefore_iff (show e.deadline.toNat < x.toNat + 2 ^ 63 by omega)
    grind

lemma scan_earliest {start clock : ℕ} (hclock : clock ≤ lastMs) (hstart : start ≤ clock)
    (lags : List ℕ) (l : List (Entry N)) (earliest : Option UInt64)
    (hl : ∀ e ∈ l, e.Made start ∧ e.Sane)
    (hearliest : ∀ x, earliest = some x → start < x.toNat ∧ x.toNat ≤ start + 2 ^ 63)
    (hnone : (scan clock lags l earliest).2.1 = none) :
    (l = [] ∧ (scan clock lags l earliest).2.2 = earliest) ∨
      ∃ x, (scan clock lags l earliest).2.2 = some x ∧ (∀ e ∈ l, x.toNat ≤ e.due) ∧
        ∀ y, earliest = some y → x.toNat ≤ y.toNat := by
  induction l generalizing clock lags earliest with
  | nil => exact .inl ⟨rfl, rfl⟩
  | cons e rest ih =>
    rw [scan] at hnone ⊢
    set clock' := advance clock (lags.headD 0) with hclock'
    have hlast : clock' ≤ lastMs := advance_le hclock
    have hlater : start ≤ clock' := hstart.trans (le_advance _ _)
    by_cases hdue : timeAfterEq (jiffies clock') e.deadline = true
    · grind
    rw [if_neg hdue] at hnone ⊢
    obtain ⟨hmade, hsane⟩ := hl e List.mem_cons_self
    obtain ⟨y, hy, hbounds, hye, hyx⟩ := sooner_spec hlast hlater hmade hsane hearliest hdue
    dsimp only at hnone ⊢
    rw [hy] at hnone ⊢
    have hrest := ih hlast hlater lags.tail (some y) (fun e he => hl e (List.mem_cons_of_mem _ he))
      (fun x hx => Option.some.inj hx ▸ hbounds) hnone
    refine .inr ?_
    grind

section Hand

variable [DecidableEq N] (l : Nodes N)

@[simp] lemma Nodes.accept_hand (now clock : ℕ) (w : N) (delay : UInt64) :
    (l.accept now clock w delay).hand = l.hand := by
  unfold accept
  split_ifs <;> rfl

@[simp] lemma Nodes.cancel_hand (w : N) : (l.cancel w).hand = l.hand := by
  unfold cancel
  split_ifs <;> rfl

omit [DecidableEq N] in
@[simp] lemma Nodes.start_hand (clock : ℕ) (flushed : Bool) : (l.start clock flushed).hand = none := by
  unfold start
  split
  · assumption
  · rfl

end Hand

namespace Nodes

variable [DecidableEq N]

/-- The nodes that are still to be called. -/
def entries (l : Nodes N) : List (Entry N) := l.pending ++ l.hand.toList

/-- `queued` says which nodes are linked, a node is linked once, and none was freed that is still to be
called. -/
structure Listed (l : Nodes N) : Prop where
  queued : ∀ w, l.queued w = true ↔ ∃ e ∈ l.pending, e.node = w
  once : (l.pending.map Entry.node).Nodup
  live : ∀ e ∈ l.entries, l.freed e.node = false

/-- Where every ticket is. -/
def tickets (l : Nodes N) : List ℕ :=
  l.pending.map Entry.ticket ++ l.hand.toList.map Entry.ticket ++ l.runs.map (fun r => r.entry.ticket) ++
    l.removed

section Listed

variable {l : Nodes N} {w : N}

lemma Listed.split (h : l.Listed) (hw : l.queued w = true) :
    ∃ x, x ∈ l.pending ∧ x.node = w ∧ l.entry w = some x ∧
      l.pending.Perm (x :: (l.unlink w).pending) ∧
      (l.unlink w).pending.Sublist l.pending ∧ ∀ y ∈ (l.unlink w).pending, y.node ≠ w := by
  obtain ⟨x, hx, hnode⟩ := (h.queued w).1 hw
  obtain ⟨a, b, hpending, hothers, hentry, herase⟩ := split_of_nodup h.once hx
  have hunlink : (l.unlink x.node).pending = a ++ b := herase
  subst hnode
  refine ⟨x, hx, rfl, hentry, ?_, List.eraseP_sublist, fun y hy => ?_⟩
  · rw [hunlink, hpending]
    exact List.perm_middle
  · rw [hunlink] at hy
    exact hothers y hy

lemma Listed.unlink (h : l.Listed) (hw : l.queued w = true) {hand : Option (Entry N)}
    (hhand : ∀ e ∈ hand, l.freed e.node = false) (removed : List ℕ) :
    ({ l.unlink w with hand := hand, removed := removed } : Nodes N).Listed := by
  obtain ⟨x, -, hnode, -, hperm, hsub, hothers⟩ := h.split hw
  refine ⟨fun v => ?_, h.once.sublist (hsub.map _), fun e he => ?_⟩
  · show Function.update l.queued w false v = true ↔ ∃ e ∈ (l.unlink w).pending, e.node = v
    by_cases hv : v = w
    · grind
    grind [h.queued]
  · obtain he | he := List.mem_append.mp he
    · exact h.live e (List.mem_append_left _ (hsub.subset he))
    · exact hhand e (Option.mem_toList.mp he)

lemma Listed.accept (h : l.Listed) (hfreed : l.freed w = false) (now clock : ℕ) (delay : UInt64) :
    (l.accept now clock w delay).Listed := by
  unfold Nodes.accept
  split_ifs with hfree
  · rw [Bool.and_eq_true, Bool.not_eq_true', Bool.not_eq_true'] at hfree
    have hnew : ∀ y ∈ l.pending, y.node ≠ w := by
      intro y hy heq
      exact Bool.false_ne_true (hfree.2.symm.trans ((h.queued w).2 ⟨y, hy, heq⟩))
    refine ⟨fun v => ?_, ?_, fun e he => ?_⟩
    · show Function.update l.queued w true v = true ↔ ∃ e ∈ l.pending ++ [_], e.node = v
      by_cases hv : v = w
      · simp_all
      grind [h.queued]
    · rw [List.map_append]
      refine h.once.append (List.nodup_singleton _) (List.disjoint_singleton.mpr ?_)
      grind
    grind [entries, h.live]
  · exact h

lemma Listed.cancel (h : l.Listed) (w : N) : (l.cancel w).Listed := by
  unfold Nodes.cancel
  split_ifs with hw
  · exact h.unlink hw (fun e he => h.live e (List.mem_append_right _ (Option.mem_toList.mpr he))) _
  · exact h

lemma Listed.flush (h : l.Listed) (w : N) : (l.flush w).Listed := by
  unfold Nodes.flush
  split_ifs with hw
  · rw [Bool.and_eq_true] at hw
    obtain ⟨x, hx, -, hentry, -⟩ := h.split hw.1
    refine h.unlink hw.1 (fun e he => ?_) _
    rw [hentry] at he
    rw [← Option.some.inj he]
    exact h.live x (List.mem_append_left _ hx)
  · exact h.cancel w

lemma Listed.take (h : l.Listed) {x : Entry N} (hx : x ∈ l.pending) : (l.take x).Listed := by
  refine h.unlink ((h.queued _).2 ⟨x, hx, rfl⟩) (fun e he => ?_) _
  rw [← Option.some.inj he]
  exact h.live x (List.mem_append_left _ hx)

omit [DecidableEq N] in
lemma Listed.start (h : l.Listed) (clock : ℕ) (flushed : Bool) : (l.start clock flushed).Listed := by
  unfold Nodes.start
  split
  · exact h
  · exact ⟨h.queued, h.once, fun e he => h.live e (List.mem_append_left _ (by simpa [entries] using he))⟩

lemma Listed.drain (h : l.Listed) : l.drain.Listed := by
  refine ⟨fun w => ?_, List.nodup_nil, fun e he => h.live e (List.mem_append_right _ he)⟩
  have hnone : l.drain.queued w = false := by
    show (l.queued w && !l.pending.any fun e => e.node = w) = false
    cases hw : l.queued w with
    | false => rfl
    | true =>
      obtain ⟨x, hx, hnode⟩ := (h.queued w).1 hw
      grind
  grind [Nodes.drain]

lemma Listed.free (h : l.Listed) (hidle : l.queued w = false) (hhand : l.hand = none) :
    ({ l with freed := Function.update l.freed w true } : Nodes N).Listed := by
  refine ⟨h.queued, h.once, fun e he => ?_⟩
  have hpending : e ∈ l.pending := by
    have he' : e ∈ l.pending ++ l.hand.toList := he
    rw [hhand] at he'
    simpa using he'
  have hne : e.node ≠ w := by
    rintro rfl
    exact Bool.false_ne_true (hidle.symm.trans ((h.queued _).2 ⟨e, hpending, rfl⟩))
  show Function.update l.freed w true e.node = false
  rw [Function.update_of_ne hne]
  exact h.live e (List.mem_append_left _ hpending)

lemma mem_entries_accept {now clock : ℕ} {delay : UInt64} {x : Entry N}
    (hx : x ∈ (l.accept now clock w delay).entries) :
    x ∈ l.entries ∨ x = ⟨w, jiffies clock + delay, now, clock, delay⟩ := by
  grind [Nodes.accept, entries]

lemma entries_cancel (l : Nodes N) (w : N) : (l.cancel w).entries ⊆ l.entries := by
  unfold Nodes.cancel
  split_ifs
  · exact (List.eraseP_sublist.append_right _).subset
  · exact List.Subset.refl _

lemma entries_flush (l : Nodes N) (w : N) : (l.flush w).entries ⊆ l.entries := by
  unfold Nodes.flush
  split_ifs
  · intro x hx
    obtain hx | hx := List.mem_append.mp hx
    · exact List.mem_append_left _ (List.eraseP_sublist.subset hx)
    · exact List.mem_append_left _ (List.mem_of_find?_eq_some (Option.mem_toList.mp hx))
  · exact l.entries_cancel w

lemma entries_take {x : Entry N} (hx : x ∈ l.pending) : (l.take x).entries ⊆ l.entries := by
  intro y hy
  obtain hy | hy := List.mem_append.mp hy
  · exact List.mem_append_left _ (List.eraseP_sublist.subset hy)
  · rw [← Option.some.inj (Option.mem_toList.mp hy)]
    exact List.mem_append_left _ hx

omit [DecidableEq N] in
lemma entries_start (l : Nodes N) (clock : ℕ) (flushed : Bool) :
    (l.start clock flushed).entries ⊆ l.entries := by
  grind [Nodes.start, entries]

lemma tickets_accept (l : Nodes N) (now clock : ℕ) (w : N) (delay : UInt64) :
    (l.accept now clock w delay).tickets.Perm l.tickets ∨
      (l.accept now clock w delay).tickets.Perm (now :: l.tickets) := by
  unfold Nodes.accept
  split_ifs
  · refine .inr ?_
    grind [tickets]
  · exact .inl (List.Perm.refl _)

lemma Listed.tickets_cancel (h : l.Listed) (w : N) : (l.cancel w).tickets.Perm l.tickets := by
  unfold Nodes.cancel
  split_ifs with hw
  · obtain ⟨x, -, -, hentry, hperm, -⟩ := h.split hw
    have hmap := (hperm.map Entry.ticket).append_right
      (l.hand.toList.map Entry.ticket ++ l.runs.map (fun r => r.entry.ticket) ++ l.removed)
    rw [hentry]
    simp only [tickets, List.append_assoc] at hmap ⊢
    refine List.Perm.trans ?_ hmap.symm
    have hlast := List.perm_append_singleton x.ticket ((l.unlink w).pending.map Entry.ticket ++
      (l.hand.toList.map Entry.ticket ++ (l.runs.map (fun r => r.entry.ticket) ++ l.removed)))
    simp only [List.append_assoc] at hlast
    exact hlast
  · exact List.Perm.refl _

lemma Listed.tickets_hand (h : l.Listed) (hw : l.queued w = true) (hhand : l.hand = none)
    {x : Entry N} (hentry : l.entry w = some x) :
    ({ l.unlink w with hand := some x } : Nodes N).tickets.Perm l.tickets := by
  obtain ⟨y, -, -, hy, hperm, -⟩ := h.split hw
  obtain rfl := Option.some.inj (hentry.symm.trans hy)
  have hmap := (hperm.map Entry.ticket).append_right
    (l.runs.map (fun r => r.entry.ticket) ++ l.removed)
  simp only [tickets, hhand, List.append_assoc] at hmap ⊢
  refine List.Perm.trans ?_ hmap.symm
  exact List.perm_middle

lemma Listed.tickets_flush (h : l.Listed) (hhand : l.hand = none) (w : N) :
    (l.flush w).tickets.Perm l.tickets := by
  unfold Nodes.flush
  split_ifs with hw
  · rw [Bool.and_eq_true] at hw
    obtain ⟨x, -, -, hentry, -⟩ := h.split hw.1
    rw [hentry]
    exact h.tickets_hand hw.1 hhand hentry
  · exact h.tickets_cancel w

lemma Listed.tickets_take (h : l.Listed) (hhand : l.hand = none) {x : Entry N} (hx : x ∈ l.pending) :
    (l.take x).tickets.Perm l.tickets := by
  obtain ⟨a, b, -, -, hentry, -⟩ := split_of_nodup h.once hx
  exact h.tickets_hand ((h.queued _).2 ⟨x, hx, rfl⟩) hhand hentry

omit [DecidableEq N] in
lemma tickets_start (l : Nodes N) (clock : ℕ) (flushed : Bool) :
    (l.start clock flushed).tickets.Perm l.tickets := by
  unfold Nodes.start
  cases hhand : l.hand with
  | none => exact List.Perm.refl _
  | some x =>
    grind [tickets]

lemma tickets_drain (l : Nodes N) : l.drain.tickets.Perm l.tickets := by
  grind [tickets, Nodes.drain]

end Listed

end Nodes

end AirportAwdl.Compat
