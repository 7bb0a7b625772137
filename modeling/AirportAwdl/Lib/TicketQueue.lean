import Mathlib.Tactic

/-!
# Queues with tickets

Items wait in a line, each with a ticket that tells when it was put there. They are taken from the
front, one at a time, started and finished; any of them may be removed while it waits. A `Line` is
such a queue with its books: what was queued, started, finished and removed so far.

The books always balance (`Line.Kept`): tickets are started in their order, and every ticket that was
given out is waiting, in hand, started or removed, and only one of these.
-/

namespace TicketQueue

lemma split_of_nodup {α β : Type} [DecidableEq β] {f : α → β} {l : List α} (h : (l.map f).Nodup)
    {x : α} (hx : x ∈ l) :
    ∃ a b, l = a ++ x :: b ∧ (∀ y ∈ a ++ b, f y ≠ f x) ∧
      (l.find? fun y => f y = f x) = some x ∧ (l.eraseP fun y => f y = f x) = a ++ b := by
  obtain ⟨a, b, hl⟩ := List.append_of_mem hx
  rw [hl, List.map_append, List.map_cons, List.nodup_middle, List.nodup_cons, ← List.map_append] at h
  grind

variable {α : Type}

structure Line (α : Type) where
  waiting : List (α × ℕ) := []
  /-- Taken from the line and not yet started. -/
  hand : Option (α × ℕ) := none
  /-- Started and not yet finished. -/
  busy : Option (α × ℕ) := none
  queued : List (α × ℕ) := []
  started : List ℕ := []
  finished : List ℕ := []
  removed : List ℕ := []

namespace Line

/-- The tickets of some entries. -/
def tickets (l : List (α × ℕ)) : List ℕ := l.map Prod.snd

@[simp] lemma tickets_nil : tickets ([] : List (α × ℕ)) = [] := rfl

@[simp] lemma tickets_cons (e : α × ℕ) (l : List (α × ℕ)) : tickets (e :: l) = e.2 :: tickets l := rfl

@[simp] lemma tickets_append (l r : List (α × ℕ)) : tickets (l ++ r) = tickets l ++ tickets r :=
  List.map_append

variable {e : α × ℕ} {now : ℕ} {q q' : Line α}

lemma mem_tickets {l : List (α × ℕ)} (h : e ∈ l) : e.2 ∈ tickets l :=
  List.mem_map_of_mem h

/-- What is still to be started, in its order. -/
def ahead (q : Line α) : List (α × ℕ) := q.hand.toList ++ q.waiting

/-- What can happen to a line at a time. -/
inductive Moves (now : ℕ) (q : Line α) : Line α → Prop where
  | same : Moves now q q
  | enqueue (a : α) : Moves now q { q with
      waiting := q.waiting ++ [(a, now)]
      queued := q.queued ++ [(a, now)] }
  | take (e : α × ℕ) (rest : List (α × ℕ)) (hwaiting : q.waiting = e :: rest) (hhand : q.hand = none) :
      Moves now q { q with waiting := rest, hand := some e }
  | start (e : α × ℕ) (hhand : q.hand = some e) (hbusy : q.busy = none) :
      Moves now q { q with hand := none, busy := some e, started := q.started ++ [e.2] }
  | finish (e : α × ℕ) (hbusy : q.busy = some e) :
      Moves now q { q with busy := none, finished := q.finished ++ [e.2] }
  | remove (l : List (α × ℕ)) (e : α × ℕ) (r : List (α × ℕ)) (hwaiting : q.waiting = l ++ e :: r) :
      Moves now q { q with waiting := l ++ r, removed := q.removed ++ [e.2] }

/-- The books balance. -/
structure Kept (now : ℕ) (q : Line α) : Prop where
  /-- Tickets are started in their order. -/
  ordered : (q.started ++ tickets q.ahead).Pairwise (· < ·)
  /-- Every ticket is in one place. -/
  account : (tickets q.queued).Perm (q.started ++ tickets q.ahead ++ q.removed)
  past : ∀ e ∈ q.queued, e.2 < now
  distinct : (tickets q.queued).Nodup
  known : ∀ e ∈ q.ahead ++ q.busy.toList, e ∈ q.queued
  underway : q.started = q.finished ++ tickets q.busy.toList

lemma kept_empty (now : ℕ) : Kept now ({} : Line α) where
  ordered := List.Pairwise.nil
  account := List.Perm.refl _
  past := fun _ he => absurd he List.not_mem_nil
  distinct := List.nodup_nil
  known := fun _ he => absurd he List.not_mem_nil
  underway := rfl

lemma Kept.later (h : q.Kept now) : q.Kept (now + 1) :=
  { h with past := fun e he => Nat.lt_succ_of_lt (h.past e he) }

lemma Kept.unique (h : q.Kept now) {e e' : α × ℕ} (he : e ∈ q.queued) (he' : e' ∈ q.queued)
    (hsame : e.2 = e'.2) : e = e' := List.inj_on_of_nodup_map h.distinct he he' hsame

lemma Kept.lt_now (h : q.Kept now) {n : ℕ} (hn : n ∈ q.started ++ tickets q.ahead) : n < now := by
  have hmem : n ∈ tickets q.queued := h.account.mem_iff.2 (List.mem_append_left _ hn)
  obtain ⟨e, he, rfl⟩ := List.mem_map.mp hmem
  exact h.past e he

lemma Kept.moves (h : q.Kept now) (hm : Moves now q q') : q'.Kept (now + 1) := by
  cases hm with
  | same => exact h.later
  | enqueue a =>
    have hahead : ahead { q with waiting := q.waiting ++ [(a, now)], queued := q.queued ++ [(a, now)] } =
        q.ahead ++ [(a, now)] := (List.append_assoc _ _ _).symm
    exact {
      ordered := by
        rw [hahead, tickets_append, ← List.append_assoc, List.pairwise_append]
        refine ⟨h.ordered, List.pairwise_singleton _ _, fun n hn m hm => ?_⟩
        obtain rfl := List.mem_singleton.mp hm
        exact h.lt_now hn
      account := by
        rw [hahead, tickets_append, tickets_append]
        have hmove : (tickets q.queued ++ tickets [(a, now)]).Perm
            (q.started ++ tickets q.ahead ++ q.removed ++ tickets [(a, now)]) :=
          h.account.append_right _
        refine hmove.trans ?_
        grind
      past := by
        intro e he
        obtain he | he := List.mem_append.mp he
        · exact Nat.lt_succ_of_lt (h.past e he)
        grind
      distinct := by
        rw [tickets_append]
        refine h.distinct.append (List.nodup_singleton _) (List.disjoint_singleton.mpr ?_)
        intro hmem
        obtain ⟨e, he, heq⟩ := List.mem_map.mp hmem
        exact absurd (h.past e he) (by rw [heq]; exact Nat.lt_irrefl now)
      known := by
        grind [h.known]
      underway := h.underway }
  | take e rest hwaiting hhand =>
    have hahead : ahead { q with waiting := rest, hand := some e } = q.ahead := by
      simp [ahead, hwaiting, hhand]
    exact {
      ordered := by
        rw [hahead]
        exact h.ordered
      account := by
        rw [hahead]
        exact h.account
      past := h.later.past
      distinct := h.distinct
      known := by
        rw [hahead]
        exact h.known
      underway := h.underway }
  | start e hhand hbusy =>
    have hahead : q.ahead = e :: q.waiting := by simp [ahead, hhand]
    have hmoved : q.started ++ tickets q.ahead = q.started ++ [e.2] ++ tickets q.waiting := by
      simp [hahead]
    exact {
      ordered := hmoved ▸ h.ordered
      account := hmoved ▸ h.account
      past := h.later.past
      distinct := h.distinct
      known := by
        intro f hf
        apply h.known
        rw [hahead]
        obtain hf | hf := List.mem_append.mp hf
        · exact List.mem_append_left _ (List.mem_cons_of_mem e hf)
        grind
      underway := by
        have hunder := h.underway
        rw [hbusy] at hunder
        show q.started ++ [e.2] = q.finished ++ [e.2]
        rw [hunder]
        simp }
  | finish e hbusy =>
    exact {
      ordered := h.ordered
      account := h.account
      past := h.later.past
      distinct := h.distinct
      known := fun f hf => by
        obtain hf | hf := List.mem_append.mp hf
        · exact h.known f (List.mem_append_left _ hf)
        · exact absurd hf List.not_mem_nil
      underway := by
        have hunder := h.underway
        rw [hbusy] at hunder
        show q.started = q.finished ++ [e.2] ++ []
        rw [hunder]
        simp }
  | remove l e r hwaiting =>
    have hsub : (l ++ r).Sublist q.waiting := by
      grind
    have hahead : (ahead { q with waiting := l ++ r, removed := q.removed ++ [e.2] }).Sublist q.ahead :=
      hsub.append_left _
    exact {
      ordered := h.ordered.sublist ((hahead.map _).append_left _)
      account := by
        refine h.account.trans ?_
        have hmove : (tickets l ++ e.2 :: (tickets r ++ q.removed)).Perm
            (tickets l ++ (tickets r ++ (q.removed ++ [e.2]))) := by
          refine (List.perm_middle.trans (List.perm_append_singleton _ _).symm).trans ?_
          grind
        simp only [ahead, hwaiting, tickets_append, tickets_cons, List.append_assoc, List.cons_append]
        exact (hmove.append_left _).append_left _
      past := h.later.past
      distinct := h.distinct
      known := by
        grind [h.known]
      underway := h.underway }

lemma Kept.place (h : q.Kept now) (he : e ∈ q.queued) :
    e ∈ q.ahead ∨ e.2 ∈ q.started ∨ e.2 ∈ q.removed := by
  have hmem := h.account.mem_iff.1 (mem_tickets he)
  rw [List.mem_append, List.mem_append] at hmem
  obtain (hstarted | hahead) | hremoved := hmem
  · exact .inr (.inl hstarted)
  · obtain ⟨f, hf, hsame⟩ := List.mem_map.mp hahead
    exact .inl (h.unique (h.known f (List.mem_append_left _ hf)) he hsame ▸ hf)
  · exact .inr (.inr hremoved)

lemma Kept.finished_or_busy (h : q.Kept now) (he : e ∈ q.queued)
    (hstarted : e.2 ∈ q.started) : e.2 ∈ q.finished ∨ q.busy = some e := by
  rw [h.underway, List.mem_append] at hstarted
  obtain hfinished | hbusy := hstarted
  · exact .inl hfinished
  · obtain ⟨f, hf, hsame⟩ := List.mem_map.mp hbusy
    have hfe := h.unique (h.known f (List.mem_append_right _ hf)) he hsame
    exact .inr (hfe ▸ Option.mem_toList.mp hf)

lemma Kept.not_started (h : q.Kept now) (he : e ∈ q.ahead) : e.2 ∉ q.started := by
  intro hstarted
  exact Nat.lt_irrefl _ ((List.pairwise_append.mp h.ordered).2.2 _ hstarted _ (mem_tickets he))

lemma Moves.place (hm : Moves now q q') {l r : List (α × ℕ)} (hwaiting : q.waiting = l ++ e :: r) :
    (∃ l' r', q'.waiting = l' ++ e :: r' ∧ l'.length ≤ l.length) ∨ q'.hand = some e ∨
      e.2 ∈ q'.removed := by
  cases hm with
  | same => exact .inl ⟨l, r, hwaiting, le_rfl⟩
  | enqueue a => exact .inl ⟨l, r ++ [(a, now)], by simp [hwaiting], le_rfl⟩
  | take f rest hfront hhand =>
    rw [hwaiting] at hfront
    cases l with
    | nil => exact .inr (.inl (congrArg some (List.cons.inj hfront).1.symm))
    | cons g l => exact .inl ⟨l, r, (List.cons.inj hfront).2.symm, by simp⟩
  | start f hhand hbusy => exact .inl ⟨l, r, hwaiting, le_rfl⟩
  | finish f hbusy => exact .inl ⟨l, r, hwaiting, le_rfl⟩
  | remove l' f r' hplace =>
    rw [hwaiting] at hplace
    obtain ⟨m, rfl, hm⟩ | ⟨m, rfl, hm⟩ := List.append_eq_append_iff.mp hplace
    · cases m with
      | nil =>
        grind
      | cons g m =>
        grind
    · cases m with
      | nil =>
        grind
      | cons g m =>
        obtain ⟨rfl, rfl⟩ := List.cons.inj hm
        exact .inl ⟨l' ++ m, r, by simp, by simp⟩

/-- Entries that are new in the line carry the present time, and nothing is taken from the books. -/
structure Grows (now : ℕ) (q q' : Line α) : Prop where
  waiting : ∀ e ∈ q'.waiting, e ∈ q.waiting ∨ e.2 = now
  queued : ∀ e ∈ q'.queued, e ∈ q.queued ∨ e.2 = now
  given : q.queued ⊆ q'.queued
  finished : q.finished ⊆ q'.finished
  removed : q.removed ⊆ q'.removed

lemma Moves.grows (hm : Moves now q q') : Grows now q q' := by
  cases hm with
  | same => exact ⟨fun _ => .inl, fun _ => .inl, fun _ => id, fun _ => id, fun _ => id⟩
  | enqueue a =>
    have hnew : ∀ (l : List (α × ℕ)), ∀ e ∈ l ++ [(a, now)], e ∈ l ∨ e.2 = now := by
      grind
    exact ⟨hnew _, hnew _, fun _ => List.mem_append_left _, fun _ => id, fun _ => id⟩
  | take e rest hwaiting hhand =>
    refine ⟨fun f hf => .inl ?_, fun _ => .inl, fun _ => id, fun _ => id, fun _ => id⟩
    rw [hwaiting]
    exact List.mem_cons_of_mem e hf
  | start e hhand hbusy => exact ⟨fun _ => .inl, fun _ => .inl, fun _ => id, fun _ => id, fun _ => id⟩
  | finish e hbusy =>
    exact ⟨fun _ => .inl, fun _ => .inl, fun _ => id, fun _ => List.mem_append_left _, fun _ => id⟩
  | remove l e r hwaiting =>
    refine ⟨fun f hf => .inl ?_, fun _ => .inl, fun _ => id, fun _ => id, fun _ => List.mem_append_left _⟩
    grind

lemma Moves.mem_ahead (hm : Moves now q q') (hqueued : q'.queued = q.queued)
    (he : e ∈ q'.ahead) : e ∈ q.ahead := by
  cases hm with
  | same => exact he
  | enqueue a => exact absurd (congrArg List.length hqueued) (by simp)
  | take f rest hwaiting hhand =>
    rw [ahead, hwaiting, hhand]
    exact he
  | start f hhand hbusy => exact List.mem_append_right _ he
  | finish f hbusy => exact he
  | remove l f r hwaiting =>
    refine List.mem_append.mpr ((List.mem_append.mp he).imp_right fun he => ?_)
    grind

end Line

end TicketQueue
