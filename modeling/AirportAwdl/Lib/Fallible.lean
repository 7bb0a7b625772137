import Mathlib.Tactic

/-!
# Weakest preconditions of programs that may fault

`wp m Q s` says that `m`, run from `s`, ends without a fault in a result and a state that satisfy
`Q`.
-/

namespace FallibleProgram

variable {σ ε α β : Type} {Q Q' : α → σ → Prop} {s : σ} {m : StateT σ (Except ε) α}

/-- `m` run from `s` ends in `Q` without a fault. -/
def wp (m : StateT σ (Except ε) α) (Q : α → σ → Prop) (s : σ) : Prop :=
  ∃ a s', m.run s = .ok (a, s') ∧ Q a s'

lemma wp_mono (h : wp m Q s) (hQ : ∀ a s', Q a s' → Q' a s') : wp m Q' s := by
  obtain ⟨a, s', hrun, hq⟩ := h
  exact ⟨a, s', hrun, hQ a s' hq⟩

lemma wp_pure {a : α} (h : Q a s) : wp (pure a : StateT σ (Except ε) α) Q s := ⟨a, s, rfl, h⟩

lemma wp_seq {f : α → StateT σ (Except ε) β} {P : α → σ → Prop}
    {Q : β → σ → Prop} (hm : wp m P s) (hf : ∀ a s', P a s' → wp (f a) Q s') : wp (m >>= f) Q s := by
  obtain ⟨a, s', hrun, hp⟩ := hm
  obtain ⟨b, s'', hrun', hq⟩ := hf a s' hp
  refine ⟨b, s'', ?_, hq⟩
  rw [StateT.run_bind, hrun]
  exact hrun'

lemma wp_bind {f : α → StateT σ (Except ε) β} {Q : β → σ → Prop}
    (h : wp m (fun a s' => wp (f a) Q s') s) : wp (m >>= f) Q s := wp_seq h fun _ _ h => h

lemma wp_get {Q : σ → σ → Prop} (h : Q s s) : wp (get : StateT σ (Except ε) σ) Q s :=
  ⟨s, s, rfl, h⟩

lemma wp_modify {f : σ → σ} {Q : PUnit → σ → Prop} (h : Q ⟨⟩ (f s)) :
    wp (modify f : StateT σ (Except ε) PUnit) Q s := ⟨⟨⟩, f s, rfl, h⟩

lemma wp_ite {c : Prop} [Decidable c] {m n : StateT σ (Except ε) α} (hm : c → wp m Q s)
    (hn : ¬c → wp n Q s) : wp (if c then m else n) Q s := by
  by_cases hc : c
  · rw [if_pos hc]
    exact hm hc
  · rw [if_neg hc]
    exact hn hc

lemma wp_forM {f : α → StateT σ (Except ε) PUnit} {I : σ → Prop}
    (hstep : ∀ a s, I s → wp (f a) (fun _ => I) s) (l : List α) (hs : I s) :
    wp (l.forM f) (fun _ => I) s := by
  induction l generalizing s with
  | nil => exact wp_pure hs
  | cons a l ih => exact wp_seq (hstep a s hs) fun _ _ hs' => ih hs'

end FallibleProgram
