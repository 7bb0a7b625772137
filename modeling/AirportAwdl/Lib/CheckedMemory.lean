import AirportAwdl.Lib.Bytes

/-!
# Bounds-checked memory

Programs that walk through a byte buffer with pointers. A `Span` is a pointer into the buffer with
the length that goes with it; reading outside of a span or of the buffer, moving a pointer past its
span, storing outside of an array and a loop that uses up its fuel are faults. A program that
returns `.ok` has made none of them.

The rules rewrite a program whose accesses are in bounds to the value it computes.
-/

namespace CheckedMemory

open ByteBuffer

inductive Fault where
  | read
  | pointer
  | write
  | endless
deriving DecidableEq, Repr

abbrev Checked := Except Fault

/-- A pointer into a buffer with a length. -/
structure Span where
  start : ℕ
  length : ℕ
deriving DecidableEq, Repr

namespace Span

/-- The whole buffer. -/
def all (b : Bytes) : Span := ⟨0, b.length⟩

/-- The bytes of the span. -/
def view (b : Bytes) (s : Span) : Bytes := slice b s.start s.length

/-- The span is a part of the buffer. -/
def Inside (s : Span) (b : Bytes) : Prop := s.start + s.length ≤ b.length

/-- The span is a part of another one. -/
def Within (s t : Span) : Prop := t.start ≤ s.start ∧ s.start + s.length ≤ t.start + t.length

/-- The byte `i` of the span. -/
def read (b : Bytes) (s : Span) (i : ℕ) : Checked UInt8 :=
  if i < s.length ∧ s.start + i < b.length then pure (byteAt b (s.start + i)) else throw .read

/-- The `n` bytes from `off` on. -/
def readSlice (b : Bytes) (s : Span) (off n : ℕ) : Checked Bytes :=
  (List.range n).mapM fun i => s.read b (off + i)

/-- The pointer moved by `k`, with what is left of the length. -/
def advance (s : Span) (k : ℕ) : Checked Span :=
  if k ≤ s.length then pure ⟨s.start + k, s.length - k⟩ else throw .pointer

/-- A part of the span. -/
def sub (s : Span) (off n : ℕ) : Checked Span :=
  if off + n ≤ s.length then pure ⟨s.start + off, n⟩ else throw .pointer

end Span

/-- Element `i` of an array is set. -/
def store {α : Type} (a : List α) (i : ℕ) (v : α) : Checked (List α) :=
  if i < a.length then pure (a.set i v) else throw .write

/-- The elements from `i` on are set, one after the other. -/
def storeList {α : Type} (a : List α) (i : ℕ) : List α → Checked (List α)
  | [] => pure a
  | v :: rest => do storeList (← store a i v) (i + 1) rest

/-- The array with the elements from `i` on replaced. -/
def overwrite {α : Type} (a : List α) (i : ℕ) : List α → List α
  | [] => a
  | v :: rest => overwrite (a.set i v) (i + 1) rest

variable {b : Bytes} {s t : Span} {α β : Type} {Q P : α → Prop} {i : ℕ}

@[simp] lemma ok_bind (a : α) (f : α → Checked β) : (Except.ok a >>= f) = f a := rfl

@[simp] lemma pure_eq_ok (a : α) : (pure a : Checked α) = .ok a := rfl

/-- A program returns without a fault, with a result that meets the condition. -/
def Safe {α : Type} (m : Checked α) (Q : α → Prop) : Prop := ∃ a, m = .ok a ∧ Q a

lemma safe_pure {a : α} (h : Q a) : Safe (pure a) Q := ⟨a, rfl, h⟩

lemma safe_of_eq {m : Checked α} {a : α} (h : m = .ok a) : Safe m fun _ => True :=
  ⟨a, h, trivial⟩

lemma Safe.bind {m : Checked α} {f : α → Checked β} {Q : β → Prop}
    (hm : Safe m P) (hf : ∀ a, P a → Safe (f a) Q) : Safe (m >>= f) Q := by
  obtain ⟨a, rfl, ha⟩ := hm
  exact hf a ha

lemma safe_ite {c : Prop} [Decidable c] {m m' : Checked α}
    (hm : c → Safe m Q) (hm' : ¬c → Safe m' Q) : Safe (if c then m else m') Q := by
  split
  · exact hm ‹_›
  · exact hm' ‹_›

/-- What every turn of a loop keeps is kept by the loop. -/
lemma safe_foldlM {f : α → β → Checked α}
    (hf : ∀ a b, P a → Safe (f a b) P) (l : List β) {a : α} (ha : P a) : Safe (l.foldlM f a) P := by
  induction l generalizing a with
  | nil => exact safe_pure ha
  | cons b rest ih =>
    rw [List.foldlM_cons]
    exact (hf a b ha).bind fun a' ha' => ih ha'

lemma mapM_ok {l : List α} {f : α → Checked β} {g : α → β}
    (h : ∀ a ∈ l, f a = .ok (g a)) : l.mapM f = .ok (l.map g) := by
  induction l with
  | nil => rfl
  | cons a rest ih =>
    simp_all

namespace Span

lemma inside_all (b : Bytes) : (all b).Inside b := by
  simp [Inside, all]

@[simp] lemma view_all (b : Bytes) : (all b).view b = b := by
  simp [view, all, slice]

lemma length_view (h : s.Inside b) : (s.view b).length = s.length := length_slice h

lemma Within.refl (s : Span) : s.Within s := ⟨le_refl _, le_refl _⟩

lemma Within.trans {u : Span} (h : s.Within t) (h' : t.Within u) : s.Within u := by
  unfold Within at *
  omega

lemma Within.inside (h : s.Within t) (ht : t.Inside b) : s.Inside b := by
  unfold Within Inside at *
  omega

lemma read_ok (h : s.Inside b) {i : ℕ} (hi : i < s.length) :
    s.read b i = .ok (byteAt (s.view b) i) := by
  unfold Inside at h
  rw [read, if_pos ⟨hi, by omega⟩, view, byteAt_slice hi]
  rfl

variable {off n k : ℕ}

lemma readSlice_ok (h : s.Inside b) (hn : off + n ≤ s.length) :
    s.readSlice b off n = .ok (slice (s.view b) off n) := by
  have hread : ∀ i ∈ List.range n, s.read b (off + i) = .ok (byteAt (s.view b) (off + i)) := by
    grind [read_ok]
  have hlength := length_view h
  have hslice : (slice (s.view b) off n).length = n := length_slice (by omega)
  rw [readSlice, mapM_ok hread]
  congr 1
  have htake := take_eq_map hslice.ge
  grind [List.map_congr_left, byteAt_slice]

lemma advance_ok (h : k ≤ s.length) : s.advance k = .ok ⟨s.start + k, s.length - k⟩ := if_pos h

lemma sub_ok (h : off + n ≤ s.length) : s.sub off n = .ok ⟨s.start + off, n⟩ := if_pos h

lemma view_advance (b : Bytes) (s : Span) (k : ℕ) :
    view b ⟨s.start + k, s.length - k⟩ = (s.view b).drop k := by
  rw [view, view, drop_slice]

lemma view_sub (h : off + n ≤ s.length) : view b ⟨s.start + off, n⟩ = slice (s.view b) off n := by
  rw [view, view, slice, slice, slice, List.drop_take, List.drop_drop, List.take_take,
    min_eq_left (by omega)]

lemma within_advance (hk : k ≤ s.length) : Within ⟨s.start + k, s.length - k⟩ s := by
  unfold Within
  dsimp only
  omega

lemma within_sub (h : off + n ≤ s.length) : Within ⟨s.start + off, n⟩ s := by
  unfold Within
  dsimp only
  omega

end Span

lemma store_ok {a : List α} (h : i < a.length) (v : α) : store a i v = .ok (a.set i v) := if_pos h

lemma storeList_ok (l : List α) {a : List α} (h : i + l.length ≤ a.length) :
    storeList a i l = .ok (overwrite a i l) := by
  induction l generalizing a i with
  | nil => rfl
  | cons v rest ih =>
    rw [List.length_cons] at h
    rw [storeList, store_ok (by omega), ok_bind, ih (by rw [List.length_set]; omega)]
    rfl

lemma length_overwrite (l a : List α) (i : ℕ) : (overwrite a i l).length = a.length := by
  induction l generalizing a i with
  | nil => rfl
  | cons v rest ih => rw [overwrite, ih, List.length_set]

lemma overwrite_eq (l : List α) {a : List α} (h : i + l.length ≤ a.length) :
    overwrite a i l = a.take i ++ l ++ a.drop (i + l.length) := by
  induction l generalizing a i with
  | nil => simp [overwrite]
  | cons v rest ih =>
    rw [List.length_cons] at h
    have hi : i < a.length := by omega
    rw [overwrite, ih (by rw [List.length_set]; omega), List.drop_set_of_lt (by omega),
      List.take_add_one, List.take_set_of_le (le_refl i), List.getElem?_set_self hi,
      List.length_cons]
    simp [Nat.add_comm, Nat.add_left_comm]

lemma store_append (a : List α) {x : α} {b : List α} (hi : i = a.length) (v : α) :
    store (a ++ x :: b) i v = .ok (a ++ v :: b) := by
  subst hi
  rw [store_ok (by simp), List.set_append_right _ _ (le_refl _), Nat.sub_self]
  rfl

lemma storeList_append (a : List α) {b l : List α} (hi : i = a.length)
    (h : l.length ≤ b.length) : storeList (a ++ b) i l = .ok (a ++ l ++ b.drop l.length) := by
  subst hi
  have hfit : a.length + l.length ≤ (a ++ b).length := by
    rw [List.length_append]
    omega
  rw [storeList_ok l hfit, overwrite_eq l hfit, List.take_left' rfl, ← List.drop_drop,
    List.drop_left' rfl]

end CheckedMemory
