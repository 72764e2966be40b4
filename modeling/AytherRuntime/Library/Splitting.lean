import Mathlib.Data.List.Basic
import Mathlib.Data.List.Forall2

/-! A list taken in batches: a batch that is too large is halved until it is taken or cannot be halved any more. Items
joined into batches as they arrive: an item grows the open batch while it fits, and otherwise closes it and starts the
next one. -/
namespace AytherRuntime.Splitting
variable {α σ ε : Type*}

/-- What is answered to a batch. -/
inductive Answer (σ ε : Type*)
  | taken (state : σ)
  | tooLarge
  | failed (state : σ) (error : ε)

inductive Outcome (σ ε : Type*)
  | done (state : σ)
  | indivisible (state : σ)
  | failed (state : σ) (error : ε)

section Loops
variable (answer : σ → List α → Answer σ ε) (first : ℕ → ℕ)

/-- The next batch, of a number of items or of what is left of it after some halvings. -/
def takeFirst (state : σ) (items : List α) (count : ℕ) : Except (Outcome σ ε) (σ × ℕ) :=
  match answer state (items.take count) with
  | .taken next => .ok (next,count)
  | .failed next error => .error (.failed next error)
  | .tooLarge => if count ≤ 1 then .error (.indivisible state) else takeFirst state items (count / 2)
termination_by count

variable {answer} in
lemma takeFirst_ok {state next : σ} {items : List α} {count taken : ℕ} (hcount : 0 < count)
    (h : takeFirst answer state items count = .ok (next,taken)) :
    0 < taken ∧ taken ≤ count ∧ answer state (items.take taken) = .taken next := by
  induction count using Nat.strongRecOn with
  | ind count ih =>
    rw [takeFirst] at h
    cases hanswer : answer state (items.take count) with
    | taken last =>
      rw [hanswer] at h
      obtain ⟨rfl,rfl⟩ := Prod.mk.inj (Except.ok.inj h)
      exact ⟨hcount,Nat.le_refl _,hanswer⟩
    | failed last error =>
      rw [hanswer] at h
      exact nomatch h
    | tooLarge =>
      rw [hanswer] at h
      dsimp only at h
      by_cases hone : count ≤ 1
      · rw [if_pos hone] at h
        exact nomatch h
      · rw [if_neg hone] at h
        obtain ⟨hpos,hle,htaken⟩ := ih (count / 2) (by omega) (by omega) h
        exact ⟨hpos,by omega,htaken⟩

set_option linter.unusedVariables false in
/-- The whole list; `first` is the number of items that is tried first of those that are left. -/
def split (hfirst : ∀ count, 0 < count → 0 < first count) (state : σ) (items : List α) : Outcome σ ε :=
  if hitems : items = [] then .done state
  else
    match h : takeFirst answer state items (first items.length) with
    | .error outcome => outcome
    | .ok (next,count) => split hfirst next (items.drop count)
termination_by items.length
decreasing_by
  have hlength := List.length_pos_iff.mpr hitems
  have hcount := (takeFirst_ok (hfirst _ hlength) h).1
  rw [List.length_drop]
  omega

end Loops

section Batches
variable {answer : σ → List α → Answer σ ε} {first : ℕ → ℕ}
variable {state last : σ} {items : List α} {count : ℕ}

/-- Batches that are taken one after the other. -/
inductive Takes (answer : σ → List α → Answer σ ε) : σ → List (List α) → σ → Prop
  | nil (state : σ) : Takes answer state [] state
  | cons {state next last : σ} {batch : List α} {batches : List (List α)} (hitems : batch ≠ [])
      (htaken : answer state batch = .taken next) (h : Takes answer next batches last) :
      Takes answer state (batch :: batches) last

/-- A batch fails as it is. -/
lemma takeFirst_failed {error : ε} (hcount : 0 < count)
    (h : takeFirst answer state items count = .error (.failed last error)) :
    ∃ tried, 0 < tried ∧ tried ≤ count ∧ answer state (items.take tried) = .failed last error := by
  induction count using Nat.strongRecOn with
  | ind count ih =>
    rw [takeFirst] at h
    cases hanswer : answer state (items.take count) with
    | taken next =>
      rw [hanswer] at h
      exact nomatch h
    | failed next other =>
      rw [hanswer] at h
      obtain ⟨rfl,rfl⟩ := Outcome.failed.inj (Except.error.inj h)
      exact ⟨count,hcount,Nat.le_refl _,hanswer⟩
    | tooLarge =>
      rw [hanswer] at h
      dsimp only at h
      by_cases hone : count ≤ 1
      · rw [if_pos hone] at h
        exact nomatch h
      · rw [if_neg hone] at h
        obtain ⟨tried,hpos,hle,hfailed⟩ := ih (count / 2) (by omega) (by omega) h
        exact ⟨tried,hpos,by omega,hfailed⟩

/-- One item is too large. -/
lemma takeFirst_indivisible (hcount : 0 < count)
    (h : takeFirst answer state items count = .error (.indivisible last)) :
    last = state ∧ answer state (items.take 1) = .tooLarge := by
  induction count using Nat.strongRecOn with
  | ind count ih =>
    rw [takeFirst] at h
    cases hanswer : answer state (items.take count) with
    | taken next =>
      rw [hanswer] at h
      exact nomatch h
    | failed next other =>
      rw [hanswer] at h
      exact nomatch h
    | tooLarge =>
      rw [hanswer] at h
      dsimp only at h
      by_cases hone : count ≤ 1
      · rw [if_pos hone] at h
        obtain rfl : count = 1 := by omega
        exact ⟨(Outcome.indivisible.inj (Except.error.inj h)).symm,hanswer⟩
      · rw [if_neg hone] at h
        exact ih (count / 2) (by omega) (by omega) h

lemma takeFirst_ne_done : takeFirst answer state items count ≠ .error (.done last) := by
  induction count using Nat.strongRecOn with
  | ind count ih =>
    rw [takeFirst]
    cases answer state (items.take count) with
    | taken next => exact nofun
    | failed next error => exact nofun
    | tooLarge =>
      dsimp only
      by_cases hone : count ≤ 1
      · rw [if_pos hone]
        exact nofun
      · rw [if_neg hone]
        exact ih (count / 2) (by omega)

/-- What an outcome says of the items: the batches that are taken are the first ones in their order, and all of them
unless the next batch fails or its first item alone is too large. -/
def Splits (answer : σ → List α → Answer σ ε) (first : ℕ → ℕ) (state : σ) (items : List α) : Outcome σ ε → Prop
  | .done last => ∃ batches, batches.flatten = items ∧ Takes answer state batches last
  | .indivisible last => ∃ batches item rest, batches.flatten ++ item :: rest = items ∧
      Takes answer state batches last ∧ answer last [item] = .tooLarge
  | .failed last error => ∃ batches batch rest middle, batches.flatten ++ (batch ++ rest) = items ∧
      Takes answer state batches middle ∧ batch ≠ [] ∧ batch.length ≤ first (batch ++ rest).length ∧
      answer middle batch = .failed last error

lemma take_ne_nil (hitems : items ≠ []) (hcount : 0 < count) : items.take count ≠ [] := by
  obtain ⟨item,rest,rfl⟩ := List.exists_cons_of_ne_nil hitems
  obtain ⟨more,rfl⟩ := Nat.exists_eq_succ_of_ne_zero (Nat.ne_of_gt hcount)
  rw [List.take_succ_cons]
  exact List.cons_ne_nil _ _

/-- A batch that is taken goes before the others. -/
lemma Splits.cons {next : σ} {batch : List α} (hitems : batch ≠ []) (htaken : answer state batch = .taken next)
    {outcome : Outcome σ ε} (h : Splits answer first next items outcome) :
    Splits answer first state (batch ++ items) outcome := by
  cases outcome with
  | done last =>
    obtain ⟨batches,rfl,htakes⟩ := h
    exact ⟨batch :: batches,rfl,.cons hitems htaken htakes⟩
  | indivisible last =>
    obtain ⟨batches,item,rest,rfl,htakes,hlarge⟩ := h
    exact ⟨batch :: batches,item,rest,by rw [List.flatten_cons,List.append_assoc],.cons hitems htaken htakes,hlarge⟩
  | failed last error =>
    obtain ⟨batches,other,rest,middle,rfl,htakes,hfailed⟩ := h
    exact ⟨batch :: batches,other,rest,middle,by rw [List.flatten_cons,List.append_assoc],
      .cons hitems htaken htakes,hfailed⟩

variable (answer) in
theorem split_splits (hfirst : ∀ count, 0 < count → 0 < first count) (state : σ) (items : List α) :
    Splits answer first state items (split answer first hfirst state items) := by
  induction hlength : items.length using Nat.strongRecOn generalizing state items with
  | ind length ih =>
    rw [split]
    by_cases hitems : items = []
    · rw [dif_pos hitems]
      exact ⟨[],hitems.symm,.nil state⟩
    · rw [dif_neg hitems]
      have hpos := List.length_pos_iff.mpr hitems
      have hcount := hfirst _ hpos
      split
      · rename_i outcome houtcome
        cases outcome with
        | done last => exact absurd houtcome takeFirst_ne_done
        | indivisible last =>
          obtain ⟨rfl,hlarge⟩ := takeFirst_indivisible hcount houtcome
          obtain ⟨item,rest,rfl⟩ := List.exists_cons_of_ne_nil hitems
          exact ⟨[],item,rest,rfl,.nil _,hlarge⟩
        | failed last error =>
          obtain ⟨tried,htried,hle,hfailed⟩ := takeFirst_failed hcount houtcome
          have hbatch := take_ne_nil hitems htried
          refine ⟨[],items.take tried,items.drop tried,state,List.take_append_drop tried items,.nil _,hbatch,?_,hfailed⟩
          rw [List.take_append_drop,List.length_take]
          omega
      · rename_i next count hnext
        obtain ⟨htaken,-,hanswer⟩ := takeFirst_ok hcount hnext
        have hrest := (ih (items.drop count).length (by rw [List.length_drop]; omega) next _ rfl).cons
          (take_ne_nil hitems htaken) hanswer
        rwa [List.take_append_drop] at hrest

/-- The first batch fails at once. -/
lemma split_failed (hfirst : ∀ count, 0 < count → 0 < first count) {error : ε} (hitems : items ≠ [])
    (h : answer state (items.take (first items.length)) = .failed last error) :
    split answer first hfirst state items = .failed last error := by
  have htake : takeFirst answer state items (first items.length) = .error (.failed last error) := by
    rw [takeFirst,h]
  rw [split,dif_neg hitems]
  split
  · rename_i outcome houtcome
    exact Except.error.inj (houtcome.symm.trans htake)
  · rename_i next count hnext
    exact nomatch htake.symm.trans hnext

end Batches
section Joined
variable {α β : Type} (start : α → β) (grow : β → α → β) (fits : β → α → Bool)

/-- The batches of some items behind an open one. -/
def batches : Option β → List α → List β
  | pending, [] => pending.toList
  | none, item :: items => batches (some (start item)) items
  | some pending, item :: items =>
    if fits pending item then batches (some (grow pending item)) items
    else pending :: batches (some (start item)) items

variable {start grow fits} {Q : α → Prop} {P : β → List α → Prop}

/-- Every batch holds what holds of one item and stays when an item that fits is added; the groups are all the
items in their order. -/
lemma batches_groups (hstart : ∀ item, Q item → P (start item) [item])
    (hgrow : ∀ batch group item, Q item → P batch group → fits batch item = true →
      P (grow batch item) (group ++ [item]))
    (pending : β) (group items : List α) (h : P pending group) (hitems : ∀ item ∈ items, Q item) :
    ∃ groups : List (List α), groups.flatten = group ++ items ∧
      List.Forall₂ P (batches start grow fits (some pending) items) groups := by
  induction items generalizing pending group with
  | nil => exact ⟨[group],by simp,.cons h .nil⟩
  | cons item items ih =>
    obtain ⟨hitem,hitems⟩ := List.forall_mem_cons.mp hitems
    rw [batches]
    split_ifs with hfits
    · obtain ⟨groups,hflatten,hgroups⟩ := ih _ _ (hgrow pending group item hitem h hfits) hitems
      exact ⟨groups,by rw [hflatten,List.append_assoc,List.singleton_append],hgroups⟩
    · obtain ⟨groups,hflatten,hgroups⟩ := ih _ _ (hstart item hitem) hitems
      exact ⟨group :: groups,by rw [List.flatten_cons,hflatten,List.singleton_append],.cons h hgroups⟩

lemma batches_none_groups (hstart : ∀ item, Q item → P (start item) [item])
    (hgrow : ∀ batch group item, Q item → P batch group → fits batch item = true →
      P (grow batch item) (group ++ [item]))
    (items : List α) (hitems : ∀ item ∈ items, Q item) :
    ∃ groups : List (List α), groups.flatten = items ∧
      List.Forall₂ P (batches start grow fits none items) groups := by
  cases items with
  | nil => exact ⟨[],rfl,.nil⟩
  | cons item items =>
    obtain ⟨hitem,hitems⟩ := List.forall_mem_cons.mp hitems
    exact batches_groups hstart hgrow (start item) [item] items (hstart item hitem) hitems

end Joined

end AytherRuntime.Splitting
