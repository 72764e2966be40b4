import Mathlib.Data.List.Induction
import Mathlib.Order.Bounds.Basic

/-! The range of each key over some entries: from the least start to the greatest end among those of the key. -/
namespace AytherRuntime.Ranges
variable {κ α : Type*}

/-- The ranges with one more entry, in the range of its key or in a new one. -/
def widen [DecidableEq κ] [Min α] [Max α] (ranges : List (κ × α × α)) (key : κ) (first last : α) : List (κ × α × α) :=
  if ranges.any fun range => range.1 = key then
    ranges.map fun range =>
      if range.1 = key then (key,min range.2.1 first,max range.2.2 last) else range
  else ranges ++ [(key,first,last)]

def firsts (entries : List (κ × α × α)) (key : κ) : Set α := {first | ∃ last, (key,first,last) ∈ entries}

def lasts (entries : List (κ × α × α)) (key : κ) : Set α := {last | ∃ first, (key,first,last) ∈ entries}

/-- Each key of the entries has a range, and a range is the smallest of its key. -/
structure Covering [LE α] (ranges entries : List (κ × α × α)) : Prop where
  keys : ∀ key, key ∈ ranges.map Prod.fst ↔ key ∈ entries.map Prod.fst
  least : ∀ range ∈ ranges, IsLeast (firsts entries range.1) range.2.1
  greatest : ∀ range ∈ ranges, IsGreatest (lasts entries range.1) range.2.2

variable {ranges entries : List (κ × α × α)} {key other : κ} {first last a b : α} {s : Set α}

lemma isLeast_insert [LE α] [Min α] [Std.IsLinearOrder α] [Std.LawfulOrderMin α] (h : IsLeast s a) :
    IsLeast (insert b s) (min a b) := by
  constructor
  · rcases Std.MinEqOr.min_eq_or a b with hmin | hmin
    · rw [hmin]
      exact Or.inr h.1
    · rw [hmin]
      exact Or.inl rfl
  · rintro c (rfl | hc)
    · exact Std.min_le_right
    · exact Std.le_trans Std.min_le_left (h.2 hc)

lemma isGreatest_insert [LE α] [Max α] [Std.IsLinearOrder α] [Std.LawfulOrderMax α] (h : IsGreatest s a) :
    IsGreatest (insert b s) (max a b) := by
  constructor
  · rcases Std.MaxEqOr.max_eq_or a b with hmax | hmax
    · rw [hmax]
      exact Or.inr h.1
    · rw [hmax]
      exact Or.inl rfl
  · rintro c (rfl | hc)
    · exact Std.right_le_max
    · exact Std.le_trans (h.2 hc) Std.left_le_max

lemma firsts_snoc : firsts (entries ++ [(key,first,last)]) key = insert first (firsts entries key) := by
  ext start
  simp [firsts,or_comm,exists_or]

lemma lasts_snoc : lasts (entries ++ [(key,first,last)]) key = insert last (lasts entries key) := by
  ext stop
  simp [lasts,or_comm,exists_or]

lemma firsts_snoc_of_ne (h : other ≠ key) : firsts (entries ++ [(key,first,last)]) other = firsts entries other := by
  ext start
  simp [firsts,h]

lemma lasts_snoc_of_ne (h : other ≠ key) : lasts (entries ++ [(key,first,last)]) other = lasts entries other := by
  ext stop
  simp [lasts,h]

lemma firsts_of_new (h : key ∉ entries.map Prod.fst) : firsts entries key = ∅ := by
  rw [Set.eq_empty_iff_forall_notMem]
  rintro start ⟨stop,hentry⟩
  exact h (List.mem_map_of_mem hentry)

lemma lasts_of_new (h : key ∉ entries.map Prod.fst) : lasts entries key = ∅ := by
  rw [Set.eq_empty_iff_forall_notMem]
  rintro stop ⟨start,hentry⟩
  exact h (List.mem_map_of_mem hentry)

lemma widen_keys [DecidableEq κ] [Min α] [Max α] : other ∈ (widen ranges key first last).map Prod.fst ↔
    other ∈ ranges.map Prod.fst ∨ other = key := by
  unfold widen
  split
  · rename_i hknown
    obtain ⟨range,hrange,hkey⟩ := List.any_eq_true.mp hknown
    have hmem : key ∈ ranges.map Prod.fst := List.mem_map.mpr ⟨range,hrange,of_decide_eq_true hkey⟩
    have hsame : (ranges.map fun range =>
        if range.1 = key then (key,min range.2.1 first,max range.2.2 last) else range).map Prod.fst =
        ranges.map Prod.fst := by
      rw [List.map_map]
      apply List.map_congr_left
      intro range _
      simp only [Function.comp_apply]
      split_ifs with hsame
      · exact hsame.symm
      · rfl
    rw [hsame]
    exact ⟨Or.inl,fun h => h.elim id fun hother => hother ▸ hmem⟩
  · simp

lemma covering_nil [LE α] : Covering ([] : List (κ × α × α)) [] := ⟨by simp,by simp,by simp⟩

section Order
variable [DecidableEq κ] [LE α] [Min α] [Max α]

/-- One more entry widens the range of its key and no other. -/
theorem Covering.widen [Std.IsLinearOrder α] [Std.LawfulOrderMin α] [Std.LawfulOrderMax α]
    (h : Covering ranges entries) (key : κ) (first last : α) :
    Covering (widen ranges key first last) (entries ++ [(key,first,last)]) := by
  suffices hbounds : ∀ range ∈ Ranges.widen ranges key first last,
      IsLeast (firsts (entries ++ [(key,first,last)]) range.1) range.2.1 ∧
      IsGreatest (lasts (entries ++ [(key,first,last)]) range.1) range.2.2 by
    refine ⟨fun other => ?_,fun range hrange => (hbounds range hrange).1,fun range hrange => (hbounds range hrange).2⟩
    rw [widen_keys,h.keys,List.map_append,List.mem_append,List.map_singleton,List.mem_singleton]
  intro range hrange
  unfold Ranges.widen at hrange
  split at hrange
  · obtain ⟨before,hbefore,rfl⟩ := List.mem_map.mp hrange
    split_ifs with hkey
    · subst hkey
      rw [firsts_snoc,lasts_snoc]
      exact ⟨isLeast_insert (h.least before hbefore),isGreatest_insert (h.greatest before hbefore)⟩
    · rw [firsts_snoc_of_ne hkey,lasts_snoc_of_ne hkey]
      exact ⟨h.least before hbefore,h.greatest before hbefore⟩
  · rename_i hnew
    have hnone : ∀ range ∈ ranges, range.1 ≠ key := fun range hrange hkey =>
      hnew (List.any_eq_true.mpr ⟨range,hrange,decide_eq_true hkey⟩)
    rcases List.mem_append.mp hrange with hold | hlast
    · rw [firsts_snoc_of_ne (hnone range hold),lasts_snoc_of_ne (hnone range hold)]
      exact ⟨h.least range hold,h.greatest range hold⟩
    · cases List.mem_singleton.mp hlast
      have habsent : key ∉ entries.map Prod.fst := by
        rw [← h.keys]
        rintro hmem
        obtain ⟨range,hmem,hkey⟩ := List.mem_map.mp hmem
        exact hnone range hmem hkey
      rw [firsts_snoc,lasts_snoc,firsts_of_new habsent,lasts_of_new habsent]
      refine ⟨⟨Or.inl rfl,?_⟩,⟨Or.inl rfl,?_⟩⟩
      · rintro start (rfl | hstart)
        · exact Std.le_refl _
        · exact hstart.elim
      · rintro stop (rfl | hstop)
        · exact Std.le_refl _
        · exact hstop.elim

/-- The ranges of all the entries, one after another. -/
theorem covering_foldl [Std.IsLinearOrder α] [Std.LawfulOrderMin α] [Std.LawfulOrderMax α]
    (entries : List (κ × α × α)) :
    Covering (entries.foldl (fun ranges entry => widen ranges entry.1 entry.2.1 entry.2.2) []) entries := by
  induction entries using List.reverseRecOn with
  | nil => exact covering_nil
  | append_singleton entries entry ih =>
    rw [List.foldl_append]
    exact ih.widen entry.1 entry.2.1 entry.2.2

end Order
end AytherRuntime.Ranges
