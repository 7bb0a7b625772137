import Mathlib.Tactic

/-!
# Monitors of event traces

A *monitor* reads a trace event by event and refuses it at the first event that its state
does not allow. A system whose trace is accepted in every run can be asked what lies between
two events of the trace:

* `exists_between`: if an event is refused in a region of monitor states that only certain
  events leave, then one of those stands between any entry to the region and that event;
* `count_eq`: how many events of a kind stand between two states, when a potential of the
  state counts them;
* `last_entry`: a trace that ends inside a region entered it at some event for the last time.

`Justified` is for traces that are only asked what came before their events.
-/

namespace Trace

variable {E S : Type*} {step : S → E → Option S} {first rest : List E}

/-- The monitor's state after a trace, `none` once an event was refused. -/
def after (step : S → E → Option S) (s : S) : List E → Option S
  | [] => some s
  | e :: rest => (step s e).bind fun s' => after step s' rest

@[simp] lemma after_nil (s : S) : after step s [] = some s := rfl

@[simp] lemma after_cons (s : S) (e : E) (rest : List E) :
    after step s (e :: rest) = (step s e).bind fun s' => after step s' rest := rfl

lemma after_append (s : S) (first rest : List E) :
    after step s (first ++ rest) = (after step s first).bind fun s' => after step s' rest := by
  induction first generalizing s with
  | nil => rfl
  | cons e first ih =>
    rw [List.cons_append, after_cons, after_cons, Option.bind_assoc]
    exact congrArg _ (funext fun s' => ih s')

lemma after_split {s t : S} (h : after step s (first ++ rest) = some t) :
    ∃ m, after step s first = some m ∧ after step m rest = some t := by
  rw [after_append] at h
  exact Option.bind_eq_some_iff.mp h

lemma after_split_at {s t : S} {e : E} (h : after step s (first ++ e :: rest) = some t) :
    ∃ m m', after step s first = some m ∧ step m e = some m' ∧ after step m' rest = some t := by
  obtain ⟨m, hfirst, hrest⟩ := after_split h
  obtain ⟨m', hstep, hrest⟩ := Option.bind_eq_some_iff.mp hrest
  exact ⟨m, m', hfirst, hstep, hrest⟩

lemma foldl_append_neutral {f : S → E → S} {s : S} (trace : List E)
    (h : ∀ e ∈ rest, ∀ s, f s e = s) : (trace ++ rest).foldl f s = trace.foldl f s := by
  rw [List.foldl_append]
  induction rest with
  | nil => rfl
  | cons e rest ih =>
    rw [List.foldl_cons, h e List.mem_cons_self]
    exact ih fun e' he' => h e' (List.mem_cons_of_mem _ he')

/-- Every event of a trace was due: `Due before e` of what came before it. -/
def Justified (Due : List E → E → Prop) (trace : List E) : Prop :=
  ∀ before e later, trace = before ++ e :: later → Due before e

lemma justified_nil {Due : List E → E → Prop} : Justified Due [] := by
  intro before e later h
  simp at h

lemma Justified.append {Due : List E → E → Prop} {trace : List E} (h : Justified Due trace) {e : E}
    (he : Due trace e) : Justified Due (trace ++ [e]) := by
  intro before e' later heq
  rcases List.eq_nil_or_concat later with rfl | ⟨later', last, rfl⟩
  · obtain ⟨rfl, hlast⟩ := List.append_inj' heq rfl
    obtain rfl : e = e' := by simpa using hlast
    exact he
  · rw [List.concat_eq_append, ← List.cons_append, ← List.append_assoc] at heq
    exact h before e' later' (List.append_inj' heq rfl).1

section
variable (Region : S → Prop)

lemma region_or_exit (Exit : E → Prop) {s t : S} {trace : List E}
    (h : after step s trace = some t) (hs : Region s)
    (hleave : ∀ s e s', Region s → step s e = some s' → Region s' ∨ Exit e) :
    Region t ∨ ∃ e ∈ trace, Exit e := by
  induction trace generalizing s with
  | nil =>
    obtain rfl : s = t := Option.some.inj h
    exact .inl hs
  | cons e rest ih =>
    obtain ⟨s', hstep, hrest⟩ := Option.bind_eq_some_iff.mp h
    rcases hleave s e s' hs hstep with hs' | hexit
    · exact (ih hrest hs').imp_right fun ⟨e', hmem, he'⟩ => ⟨e', List.mem_cons_of_mem _ hmem, he'⟩
    · exact .inr ⟨e, List.mem_cons_self, hexit⟩

/-- Between an entry to the region and an event that the region refuses stands an exit. -/
theorem exists_between (Exit : E → Prop) {s t : S} {between rest : List E} {refused : E}
    (h : after step s (between ++ refused :: rest) = some t) (hs : Region s)
    (hleave : ∀ s e s', Region s → step s e = some s' → Region s' ∨ Exit e)
    (hrefuse : ∀ s, Region s → step s refused = none) : ∃ e ∈ between, Exit e := by
  obtain ⟨m, m', hbetween, hstep, -⟩ := after_split_at h
  rcases region_or_exit Region Exit hbetween hs hleave with hm | hexit
  · rw [hrefuse m hm] at hstep
    cases hstep
  · exact hexit

/-- A potential that drops by one with every counted event counts them. -/
theorem count_eq (counted : E → Bool) (potential : S → ℕ) {s t : S} {trace : List E}
    (h : after step s trace = some t) (hs : Region s)
    (hstep : ∀ s e s', Region s → e ∈ trace → step s e = some s' →
      Region s' ∧ potential s = potential s' + (counted e).toNat) :
    potential s = potential t + trace.countP counted := by
  induction trace generalizing s with
  | nil =>
    obtain rfl : s = t := Option.some.inj h
    simp
  | cons e rest ih =>
    obtain ⟨s', hse, hrest⟩ := Option.bind_eq_some_iff.mp h
    obtain ⟨hs', hpotential⟩ := hstep s e s' hs List.mem_cons_self hse
    have htail := ih hrest hs' fun s e s' hs hmem => hstep s e s' hs (List.mem_cons_of_mem _ hmem)
    rw [hpotential, htail, List.countP_cons]
    cases counted e <;> simp; omega

/-- A trace that ends inside a region which it did not start in entered the region for the last
time with one event, and took all later events inside. -/
theorem last_entry {s t : S} {trace : List E} (h : after step s trace = some t)
    (hs : ¬Region s) (ht : Region t) :
    ∃ first e rest m m', trace = first ++ e :: rest ∧ ¬Region m ∧ step m e = some m' ∧ Region m' ∧
      after step m' rest = some t ∧
      ∀ e' ∈ rest, ∃ u u', Region u ∧ step u e' = some u' ∧ Region u' := by
  induction trace using List.reverseRecOn generalizing t with
  | nil =>
    obtain rfl : s = t := Option.some.inj h
    exact absurd ht hs
  | append_singleton earlier last ih =>
    obtain ⟨m, m', hearlier, hstep, hend⟩ := after_split_at h
    obtain rfl : m' = t := Option.some.inj hend
    by_cases hm : Region m
    · -- the last event stays inside, so the entry is the earlier one
      obtain ⟨first, e, rest, u, u', rfl, hu, hentry, hu', hafter, hrest⟩ := ih hearlier hm
      have hafter' : after step u' (rest ++ [last]) = some m' := by
        rw [after_append, hafter, Option.bind_some, after_cons, hstep]
        rfl
      refine ⟨first, e, rest ++ [last], u, u', by simp, hu, hentry, hu', hafter', ?_⟩
      intro e' he'
      rcases List.mem_append.mp he' with hmem | hmem
      · exact hrest e' hmem
      · obtain rfl := List.mem_singleton.mp hmem
        exact ⟨m, m', hm, hstep, ht⟩
    · exact ⟨earlier, last, [], m, m', rfl, hm, hstep, ht, rfl, nofun⟩

end

end Trace
