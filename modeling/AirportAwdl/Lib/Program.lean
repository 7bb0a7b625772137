import Mathlib.Tactic

/-!
# Weakest preconditions of state programs

`wp m Q s` says that the program `m`, run from `s`, ends in a result and a state that
satisfy `Q`. State programs are total and deterministic, so this is total correctness. The
rules below take a program apart along its do-block: sequencing (`wp_bind`), branches
(`wp_ite`), short-circuit conditions (`wp_andM`, `wp_orM`), loops (`wp_forM`, `wp_foldlM`)
and access to the state. `Preserves Rel` is for programs that are only known to keep a preorder
on states; it has the same rules.
-/

namespace StateProgram

variable {σ α β : Type} {Q Q' : α → σ → Prop} {s : σ} {m : StateM σ α}

/-- `m` run from `s` ends in `Q`. -/
def wp (m : StateM σ α) (Q : α → σ → Prop) (s : σ) : Prop := Q (m.run s).1 (m.run s).2

lemma wp_mono (h : wp m Q s) (hQ : ∀ a s', Q a s' → Q' a s') : wp m Q' s :=
  hQ _ _ h

lemma wp_and (h : wp m Q s) (h' : wp m Q' s) : wp m (fun a s' => Q a s' ∧ Q' a s') s := ⟨h, h'⟩

lemma wp_pure {a : α} : wp (pure a) Q s ↔ Q a s := Iff.rfl

lemma wp_bind {f : α → StateM σ β} {Q : β → σ → Prop} :
    wp (m >>= f) Q s ↔ wp m (fun a s' => wp (f a) Q s') s := Iff.rfl

lemma wp_map {f : α → β} {Q : β → σ → Prop} :
    wp (f <$> m) Q s ↔ wp m (fun a s' => Q (f a) s') s := Iff.rfl

lemma wp_discard {Q : PUnit → σ → Prop} :
    wp (discard m) Q s ↔ wp m (fun _ s' => Q ⟨⟩ s') s := Iff.rfl

lemma wp_seq {f : α → StateM σ β} {P : α → σ → Prop} {Q : β → σ → Prop}
    (hm : wp m P s) (hf : ∀ a s', P a s' → wp (f a) Q s') : wp (m >>= f) Q s :=
  hf _ _ hm

lemma wp_get {Q : σ → σ → Prop} : wp get Q s ↔ Q s s := Iff.rfl

lemma wp_modify {f : σ → σ} {Q : PUnit → σ → Prop} : wp (modify f) Q s ↔ Q ⟨⟩ (f s) := Iff.rfl

lemma wp_ite {c : Prop} [Decidable c] {m n : StateM σ α} :
    wp (if c then m else n) Q s ↔ (c → wp m Q s) ∧ (¬c → wp n Q s) := by
  by_cases hc : c
  · rw [if_pos hc]
    exact ⟨fun h => ⟨fun _ => h, fun hn => absurd hc hn⟩, fun h => h.1 hc⟩
  · rw [if_neg hc]
    exact ⟨fun h => ⟨fun hn => absurd hn hc, fun _ => h⟩, fun h => h.2 hc⟩

lemma wp_andM {x y : StateM σ Bool} {Q : Bool → σ → Prop} :
    wp (x <&&> y) Q s ↔ wp x (fun b s' => if b then wp y Q s' else Q false s') s := by
  show wp (x >>= _) Q s ↔ _
  rw [wp_bind]
  unfold wp
  dsimp only
  cases (x.run s).1 <;> exact Iff.rfl

lemma wp_orM {x y : StateM σ Bool} {Q : Bool → σ → Prop} :
    wp (x <||> y) Q s ↔ wp x (fun b s' => if b then Q true s' else wp y Q s') s := by
  show wp (x >>= _) Q s ↔ _
  rw [wp_bind]
  unfold wp
  dsimp only
  cases (x.run s).1 <;> exact Iff.rfl

lemma wp_forM_cons {f : α → StateM σ PUnit} {a : α} {l : List α} {Q : PUnit → σ → Prop} :
    wp ((a :: l).forM f) Q s ↔ wp (f a) (fun _ s' => wp (l.forM f) Q s') s := Iff.rfl

lemma wp_forM {f : α → StateM σ PUnit} {I : σ → Prop} (hstep : ∀ a s, I s → wp (f a) (fun _ => I) s)
    (l : List α) (hs : I s) : wp (l.forM f) (fun _ => I) s := by
  induction l generalizing s with
  | nil => exact hs
  | cons a l ih => exact wp_seq (hstep a s hs) fun _ _ hs' => ih hs'

lemma wp_foldlM {f : β → α → StateM σ β} {I : List α → β → σ → Prop}
    (hstep : ∀ a rest b s, I (a :: rest) b s → wp (f b a) (I rest) s) (l : List α) {b : β}
    (hs : I l b s) : wp (l.foldlM f b) (I []) s := by
  induction l generalizing b s with
  | nil => exact hs
  | cons a l ih => exact wp_seq (hstep a l b s hs) fun _ _ hs' => ih hs'

/-- `m` leads from every state to a related one. -/
def Preserves (Rel : σ → σ → Prop) (m : StateM σ α) : Prop := ∀ s, wp m (fun _ s' => Rel s s') s

namespace Preserves

variable {Rel : σ → σ → Prop} [IsPreorder σ Rel] {m n : StateM σ α}

lemma pure {a : α} : Preserves Rel (Pure.pure a : StateM σ α) := fun s => refl_of Rel s

lemma get : Preserves Rel (MonadState.get : StateM σ σ) := fun s => refl_of Rel s

lemma bind {f : α → StateM σ β} (hm : Preserves Rel m) (hf : ∀ a, Preserves Rel (f a)) :
    Preserves Rel (m >>= f) := fun s =>
  wp_seq (hm s) fun a s' hs' => wp_mono (hf a s') fun _ _ hs'' => trans_of Rel hs' hs''

lemma after {s₁ : σ} (hm : Preserves Rel m) (hs : Rel s s₁) : wp m (fun _ s' => Rel s s') s₁ :=
  trans_of Rel hs (hm s₁)

omit [IsPreorder σ Rel] in
lemma mono {Rel' : σ → σ → Prop} (hm : Preserves Rel m) (h : ∀ {s s'}, Rel s s' → Rel' s s') :
    Preserves Rel' m := fun s => h (hm s)

omit [IsPreorder σ Rel] in
lemma map {f : α → β} (hm : Preserves Rel m) : Preserves Rel (f <$> m) := hm

omit [IsPreorder σ Rel] in
lemma ite {c : Prop} [Decidable c] (hm : Preserves Rel m) (hn : Preserves Rel n) :
    Preserves Rel (if c then m else n) := by
  split
  · exact hm
  · exact hn

lemma andM {x y : StateM σ Bool} (hx : Preserves Rel x) (hy : Preserves Rel y) :
    Preserves Rel (x <&&> y) := by
  refine bind hx fun b => ?_
  cases b
  · exact pure
  · exact hy

lemma orM {x y : StateM σ Bool} (hx : Preserves Rel x) (hy : Preserves Rel y) :
    Preserves Rel (x <||> y) := by
  refine bind hx fun b => ?_
  cases b
  · exact hy
  · exact pure

lemma foldlM {f : β → α → StateM σ β} (h : ∀ b a, Preserves Rel (f b a)) (l : List α) (b : β) :
    Preserves Rel (l.foldlM f b) := by
  induction l generalizing b with
  | nil => exact pure
  | cons a l ih => exact bind (h b a) fun b' => ih b'

end Preserves

end StateProgram
