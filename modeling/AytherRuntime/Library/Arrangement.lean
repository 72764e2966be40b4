import Mathlib.Data.List.Perm.Basic
import Mathlib.Data.List.Sort
import Mathlib.Logic.Relation
import Mathlib.Order.Extension.Linear

/-! Rearrangements of a list that bring some of its entries to the front, the first match in what the entries hold, and
counts that agree. A listing of finitely many items in which a relation without cycles never points backwards. -/
namespace AytherRuntime.Arrangement

variable {α β : Type*} {p q : α → Bool} {xs : List α}

/-- The entries of a kind first, and then the others, each in their order. -/
def bringFront (p : α → Bool) (xs : List α) : List α := xs.filter p ++ xs.filter fun x => !p x

theorem bringFront_perm (p : α → Bool) (xs : List α) : (bringFront p xs).Perm xs :=
  List.filter_append_perm p xs

/-- What comes before an entry of the kind is of the kind. -/
theorem of_mem_before {x y : α} {before after : List α}
    (h : bringFront p xs = before ++ x :: after) (hx : p x = true) (hy : y ∈ before) : p y = true := by
  rcases List.append_eq_append_iff.mp h with ⟨rest,rfl,hrest⟩ | ⟨rest,hfront,-⟩
  · have hmem : x ∈ xs.filter fun x => !p x := by
      rw [hrest]
      simp
    simp [hx] at hmem
  · have hmem : y ∈ xs.filter p := by
      rw [hfront]
      exact List.mem_append_left _ hy
    exact (List.mem_filter.mp hmem).2

/-- Every entry of the kind comes before one that is not. -/
theorem mem_before {x y : α} {before after : List α}
    (h : bringFront p xs = before ++ x :: after) (hx : p x = false) (hy : y ∈ xs) (hpy : p y = true) :
    y ∈ before := by
  have hfront : y ∈ xs.filter p := List.mem_filter.mpr ⟨hy,hpy⟩
  rcases List.append_eq_append_iff.mp h with ⟨rest,rfl,-⟩ | ⟨rest,hsplit,hrest⟩
  · exact List.mem_append_left _ hfront
  · cases rest with
    | nil =>
      rw [hsplit,List.append_nil] at hfront
      exact hfront
    | cons z rest =>
      rw [List.cons_append,List.cons.injEq] at hrest
      have hmem : x ∈ xs.filter p := by
        rw [hsplit,hrest.1]
        simp
      rw [(List.mem_filter.mp hmem).2] at hx
      cases hx

/-- Entries that hold nothing can be brought to the front. -/
theorem flatMap_bringFront {f : α → List β} (h : ∀ x ∈ xs, p x = true → f x = []) :
    (bringFront p xs).flatMap f = xs.flatMap f := by
  unfold bringFront
  induction xs with
  | nil => rfl
  | cons x xs ih =>
    have hrest := ih fun y hy => h y (List.mem_cons_of_mem _ hy)
    rw [List.flatMap_append] at hrest ⊢
    by_cases hx : p x = true
    · have hnil := h x (List.mem_cons_self ..) hx
      simp [hx,hnil,← hrest]
    · have hnone : (xs.filter p).flatMap f = [] :=
        List.flatMap_eq_nil_iff.mpr fun y hy =>
          h y (List.mem_cons_of_mem _ (List.mem_filter.mp hy).1) (List.mem_filter.mp hy).2
      rw [hnone,List.nil_append] at hrest
      simp [hx,hnone,hrest]

/-- The first match is one of an entry that was brought to the front, if such an entry has one. -/
theorem exists_find?_bringFront {f : α → List β} {r : β → Bool} {x : α} {z : β} (hx : x ∈ xs)
    (hpx : p x = true) (hz : z ∈ f x) (hr : r z = true) : ∃ y ∈ xs, p y = true ∧ ∃ z ∈ f y,
      ((bringFront p xs).flatMap f).find? r = some z ∧ r z = true := by
  have hsome : (((xs.filter p).flatMap f).find? r).isSome = true :=
    List.find?_isSome.mpr ⟨z,List.mem_flatMap.mpr ⟨x,List.mem_filter.mpr ⟨hx,hpx⟩,hz⟩,hr⟩
  obtain ⟨found,hfound⟩ := Option.isSome_iff_exists.mp hsome
  obtain ⟨y,hy,hmem⟩ := List.mem_flatMap.mp (List.mem_of_find?_eq_some hfound)
  refine ⟨y,(List.mem_filter.mp hy).1,(List.mem_filter.mp hy).2,found,hmem,?_,?_⟩
  · rw [bringFront,List.flatMap_append,List.find?_append,hfound,Option.some_or]
  · exact List.find?_some (p := r) hfound

/-- Where one entry holds all the matches, the first of them is its own first. -/
theorem find?_flatMap_of_single {f : α → List β} {r : β → Bool} {x : α} (hx : x ∈ xs)
    (honly : ∀ y ∈ xs, ∀ z ∈ f y, r z = true → y = x) : (xs.flatMap f).find? r = (f x).find? r := by
  induction xs with
  | nil => cases hx
  | cons y xs ih =>
    have hrest := fun z hz => honly z (List.mem_cons_of_mem y hz)
    rw [List.flatMap_cons,List.find?_append]
    by_cases hy : y = x
    · subst hy
      cases hfound : (f y).find? r with
      | some z => rfl
      | none =>
        rw [Option.none_or,List.find?_eq_none]
        intro z hz hr
        obtain ⟨other,hother,hmem⟩ := List.mem_flatMap.mp hz
        obtain rfl := hrest other hother z hmem hr
        exact List.find?_eq_none.mp hfound z hmem hr
    · have hnone : (f y).find? r = none :=
        List.find?_eq_none.mpr fun z hz hr => hy (honly y (List.mem_cons_self ..) z hz hr)
      rw [hnone,Option.none_or]
      exact ih ((List.mem_cons.mp hx).resolve_left (Ne.symm hy)) hrest

/-- Two counts that agree, of a condition and of a weaker one, count the same entries. -/
theorem of_countP_eq (himp : ∀ x ∈ xs, p x = true → q x = true) (h : xs.countP p = xs.countP q) :
    ∀ x ∈ xs, q x = true → p x = true := by
  induction xs with
  | nil => exact fun _ hmem => by cases hmem
  | cons x xs ih =>
    have hrest := List.countP_mono_left fun y hy => himp y (List.mem_cons_of_mem x hy)
    have hhead := himp x (List.mem_cons_self ..)
    simp only [List.countP_cons] at h
    rw [List.forall_mem_cons]
    by_cases hp : p x = true
    · rw [if_pos hp,if_pos (hhead hp)] at h
      exact ⟨fun _ => hp,ih (fun y hy => himp y (List.mem_cons_of_mem _ hy)) (by omega)⟩
    · have hq : ¬q x = true := by
        intro hq
        rw [if_neg hp,if_pos hq] at h
        omega
      rw [if_neg hp,if_neg hq] at h
      exact ⟨fun hqx => absurd hqx hq,ih (fun y hy => himp y (List.mem_cons_of_mem _ hy)) (by omega)⟩

section Acyclic
open Relation

variable {α : Type*} (R : α → α → Prop)

/-- No item comes before itself. -/
def Acyclic : Prop := ∀ x, ¬TransGen R x x

variable {R}

lemma Acyclic.antisymm (h : Acyclic R) {x y : α} (hxy : ReflTransGen R x y)
    (hyx : ReflTransGen R y x) : x = y := by
  rcases reflTransGen_iff_eq_or_transGen.mp hxy with rfl | hlt
  · rfl
  · exact absurd (hlt.trans_left hyx) (h x)

/-- A relation that some rank increases along has no cycle. -/
theorem acyclic_of_rank (rank : α → ℕ) (h : ∀ x y, R x y → rank x < rank y) : Acyclic R := by
  intro x hcycle
  have hlt : ∀ y z, TransGen R y z → rank y < rank z := by
    intro y z hyz
    induction hyz with
    | single hstep => exact h _ _ hstep
    | tail _ hstep ih => exact ih.trans (h _ _ hstep)
  exact absurd (hlt x x hcycle) (lt_irrefl _)

/-- Any list can be reordered so that nothing precedes what the relation puts before it. -/
theorem Acyclic.exists_perm (h : Acyclic R) (l : List α) :
    ∃ l' : List α, l'.Perm l ∧ l'.Pairwise fun x y => ¬R y x := by
  classical
  have : IsPartialOrder α (ReflTransGen R) :=
    { refl := fun _ => ReflTransGen.refl
      trans := fun _ _ _ => ReflTransGen.trans
      antisymm := fun _ _ => h.antisymm }
  obtain ⟨s,hlinear,hle⟩ := extend_partialOrder (ReflTransGen R)
  refine ⟨l.insertionSort s,List.perm_insertionSort s l,?_⟩
  refine (List.pairwise_insertionSort s l).imp ?_
  intro x y hxy hyx
  have hsame : x = y := antisymm_of s hxy (hle _ _ (ReflTransGen.single hyx))
  exact h x (TransGen.single (hsame ▸ hyx))

end Acyclic

end AytherRuntime.Arrangement
