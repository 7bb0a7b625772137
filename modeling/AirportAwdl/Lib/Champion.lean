import Mathlib.Data.List.MinMax

/-!
# Running maxima

A scan keeps a champion and replaces it by each later element that beats it. When `beats` is
the strict comparison of a key on the scanned elements, the scan is `List.argmax`, and so what
it returns does not depend on the order of the elements, up to equal keys.
-/

namespace Champion

variable {α β : Type*} {beats : α → α → Bool}

/-- One element against the champion so far. -/
def challenge (beats : α → α → Bool) (best : Option α) (a : α) : Option α :=
  match best with
  | none => some a
  | some b => if beats a b then some a else some b

/-- The champion of a list. -/
def scan (beats : α → α → Bool) (l : List α) : Option α := l.foldl (challenge beats) none

variable [LinearOrder β] {key : α → β} {l l' : List α}

lemma foldl_challenge (l : List α) (best : Option α)
    (h : ∀ a b, (a ∈ l ∨ best = some a) → (b ∈ l ∨ best = some b) →
      (beats a b = true ↔ key b < key a)) :
    l.foldl (challenge beats) best =
      l.foldl (List.argAux fun a b => key b < key a) best := by
  induction l generalizing best with
  | nil => rfl
  | cons a l ih =>
    have hstep : challenge beats best a = List.argAux (fun a b => key b < key a) best a := by
      cases best with
      | none => rfl
      | some b =>
        have hab := h a b (.inl List.mem_cons_self) (.inr rfl)
        simp only [challenge, List.argAux, hab]
    have hmem : ∀ c, (c ∈ l ∨ challenge beats best a = some c) → c ∈ a :: l ∨ best = some c := by
      rintro c (hc | hc)
      · exact .inl (List.mem_cons_of_mem a hc)
      · cases best with
        | none => exact .inl (by simp_all [challenge])
        | some b =>
          simp only [challenge] at hc
          split at hc
          · exact .inl (by simp_all)
          · exact .inr hc
    rw [List.foldl_cons, List.foldl_cons, ← hstep]
    exact ih _ fun b c hb hc => h b c (hmem b hb) (hmem c hc)

theorem scan_eq_argmax (h : ∀ a ∈ l, ∀ b ∈ l, (beats a b = true ↔ key b < key a)) :
    scan beats l = l.argmax key := by
  refine foldl_challenge l none fun a b ha hb => h a ?_ b ?_
  · exact ha.resolve_right fun hn => Option.some_ne_none a hn.symm
  · exact hb.resolve_right fun hn => Option.some_ne_none b hn.symm

lemma map_key_argmax (hmem : ∀ a, a ∈ l ↔ a ∈ l') :
    (l.argmax key).map key = (l'.argmax key).map key := by
  cases h : l.argmax key with
  | none =>
    have hnil : l' = [] := by
      rw [List.argmax_eq_none] at h
      subst h
      exact List.eq_nil_iff_forall_not_mem.mpr fun a ha =>
        List.not_mem_nil ((hmem a).mpr ha)
    rw [hnil, List.argmax_nil]
  | some a =>
    cases h' : l'.argmax key with
    | none =>
      rw [List.argmax_eq_none] at h'
      subst h'
      exact absurd ((hmem a).mp (List.argmax_mem h)) List.not_mem_nil
    | some b =>
      have hab := List.le_of_mem_argmax ((hmem a).mp (List.argmax_mem h)) h'
      have hba := List.le_of_mem_argmax ((hmem b).mpr (List.argmax_mem h')) h
      rw [Option.map_some, Option.map_some, le_antisymm hab hba]

lemma argmax_eq_of_mem (hmem : ∀ a, a ∈ l ↔ a ∈ l')
    (hinj : ∀ a ∈ l, ∀ b ∈ l, key a = key b → a = b) : l.argmax key = l'.argmax key := by
  have hkey : (l.argmax key).map key = (l'.argmax key).map key := map_key_argmax hmem
  cases h : l.argmax key with
  | none =>
    rw [h, Option.map_none] at hkey
    exact (Option.map_eq_none_iff.mp hkey.symm).symm
  | some a =>
    rw [h, Option.map_some] at hkey
    obtain ⟨b, hb, hba⟩ := Option.map_eq_some_iff.mp hkey.symm
    rw [hb, hinj b ((hmem b).mpr (List.argmax_mem hb)) a (List.argmax_mem h) hba]

end Champion
