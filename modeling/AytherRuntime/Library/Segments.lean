import Mathlib.Algebra.BigOperators.Group.List.Basic
import Mathlib.Algebra.Order.Ring.Nat
import Mathlib.Tactic.Linarith

/-! Segments of given lengths, laid end to end from zero. -/
namespace AytherRuntime.Segments

/-- Where a segment starts. -/
def start (lengths : List ℕ) (i : ℕ) : ℕ := (lengths.take i).sum

variable {lengths : List ℕ} {i j n : ℕ}

/-- A place lies in a segment. -/
def Covers (lengths : List ℕ) (i n : ℕ) : Prop :=
  ∃ length, lengths[i]? = some length ∧ start lengths i ≤ n ∧ n < start lengths i + length

@[simp] theorem start_zero : start lengths 0 = 0 := rfl

@[simp] theorem start_cons_succ (length : ℕ) : start (length :: lengths) (i + 1) = length + start lengths i := by
  simp [start]

theorem start_length : start lengths lengths.length = lengths.sum := by
  unfold start
  rw [List.take_length]

theorem start_succ {length : ℕ} (h : lengths[i]? = some length) :
    start lengths (i + 1) = start lengths i + length := by
  unfold start
  rw [List.take_add_one,h,List.sum_append]
  rfl

theorem start_mono (h : i ≤ j) : start lengths i ≤ start lengths j := by
  induction lengths generalizing i j with
  | nil => simp [start]
  | cons length lengths ih =>
    cases i with
    | zero => exact Nat.zero_le _
    | succ i =>
      obtain ⟨j,rfl⟩ : ∃ k, j = k + 1 := ⟨j - 1,by omega⟩
      rw [start_cons_succ,start_cons_succ]
      exact Nat.add_le_add_left (ih (by omega)) length

theorem Covers.lt_sum (h : Covers lengths i n) : n < lengths.sum := by
  obtain ⟨length,hlength,_,hend⟩ := h
  have hi : i < lengths.length := (List.getElem?_eq_some_iff.mp hlength).1
  have hnext := start_succ hlength
  have hmono : start lengths (i + 1) ≤ start lengths lengths.length := start_mono hi
  rw [start_length] at hmono
  omega

/-- No place lies in two segments. -/
theorem Covers.unique (hi : Covers lengths i n) (hj : Covers lengths j n) : i = j := by
  obtain ⟨length,hlength,hstart,hend⟩ := hi
  obtain ⟨other,hother,hstart',hend'⟩ := hj
  have hnext := start_succ hlength
  have hnext' := start_succ hother
  rcases Nat.lt_trichotomy i j with hlt | heq | hgt
  · have hmono : start lengths (i + 1) ≤ start lengths j := start_mono hlt
    omega
  · exact heq
  · have hmono : start lengths (j + 1) ≤ start lengths i := start_mono hgt
    omega

/-- Each place below the whole length lies in a segment. -/
theorem exists_covers (h : n < lengths.sum) : ∃ i, Covers lengths i n := by
  induction lengths generalizing n with
  | nil => exact absurd h (Nat.not_lt_zero n)
  | cons length lengths ih =>
    rw [List.sum_cons] at h
    by_cases hfirst : n < length
    · exact ⟨0,length,rfl,Nat.zero_le n,by rw [start_zero]; omega⟩
    · obtain ⟨i,other,hother,hstart,hend⟩ := @ih (n - length) (by omega)
      refine ⟨i + 1,other,hother,?_,?_⟩
      · rw [start_cons_succ]
        omega
      · rw [start_cons_succ]
        omega

variable {ι α : Type*}

theorem length_flatMap_replicate (items : List ι) (length : ι → ℕ) (value : ι → α) :
    (items.flatMap fun item => List.replicate (length item) (value item)).length = (items.map length).sum := by
  rw [List.length_flatMap]
  congr 1
  exact List.map_congr_left fun item _ => List.length_replicate

/-- Segments that each repeat one value have it at all their places. -/
theorem getElem?_flatMap_replicate {items : List ι} {length : ι → ℕ} {value : ι → α} {item : ι}
    (hitem : items[i]? = some item) (h : Covers (items.map length) i n) :
    (items.flatMap fun item => List.replicate (length item) (value item))[n]? = some (value item) := by
  induction items generalizing i n with
  | nil => cases hitem
  | cons first items ih =>
    obtain ⟨own,hown,hstart,hend⟩ := h
    rw [List.flatMap_cons]
    cases i with
    | zero =>
      obtain rfl : first = item := Option.some.inj hitem
      obtain rfl : length first = own := Option.some.inj hown
      rw [start_zero,Nat.zero_add] at hend
      rw [List.getElem?_append_left (by rw [List.length_replicate]; exact hend),List.getElem?_replicate,if_pos hend]
    | succ i =>
      rw [List.map_cons,start_cons_succ] at hstart hend
      rw [List.getElem?_append_right (by rw [List.length_replicate]; omega),List.length_replicate]
      exact ih hitem ⟨own,hown,by omega,by omega⟩

end AytherRuntime.Segments
