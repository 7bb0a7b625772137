import Mathlib.Tactic

/-!
# Tables

A vector that is read and written at indices that are in range by their type, so that no proof
stands beside an index.
-/

namespace Vector

variable {α : Type*} {n : ℕ}

instance instGetElemIndex : GetElem (Vector α n) (Fin n) α fun _ _ => True where
  getElem v i _ := v.get i

@[simp] lemma getElem_index (v : Vector α n) (i : Fin n) : v[i] = v[i.val] := rfl

/-- The table with one entry replaced. -/
def put (v : Vector α n) (i : Fin n) (x : α) : Vector α n := v.set i x i.isLt

@[simp] lemma getElem_put_val (v : Vector α n) (i : Fin n) (x : α) (j : ℕ) (h : j < n) :
    (v.put i x)[j] = if i.val = j then x else v[j] := getElem_set i.isLt h

lemma getElem_put (v : Vector α n) (i j : Fin n) (x : α) :
    (v.put i x)[j] = if j = i then x else v[j] := by
  simp only [getElem_index, getElem_put_val, Fin.ext_iff, eq_comm]

@[simp] lemma put_put (v : Vector α n) (i : Fin n) (x y : α) :
    (v.put i x).put i y = v.put i y := by
  simp only [put, set_set]

@[simp] lemma put_getElem (v : Vector α n) (i : Fin n) : v.put i v[i.val] = v :=
  set_getElem_self i.isLt

end Vector
