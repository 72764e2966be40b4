import Mathlib.Data.List.Basic

/-! Finite runs of deterministic machines. A reactive machine answers every input with a list of
outputs; a guarded machine refuses the inputs its state does not allow. -/
namespace AytherRuntime.Machine

variable {σ ι ω : Type*}

section Reactive
variable (step : σ → ι → σ × List ω)

/-- The state a finite input sequence leads to. -/
def final (s : σ) (is : List ι) : σ := is.foldl (fun s i => (step s i).1) s

/-- Everything emitted while a finite input sequence is consumed, in the order of emission. -/
def emitted : σ → List ι → List ω
  | _, [] => []
  | s, i :: is => (step s i).2 ++ emitted (step s i).1 is

@[simp] theorem final_nil (s : σ) : final step s [] = s := rfl
@[simp] theorem final_cons (s : σ) (i : ι) (is : List ι) :
    final step s (i :: is) = final step (step s i).1 is := rfl
@[simp] theorem emitted_nil (s : σ) : emitted step s [] = [] := rfl
@[simp] theorem emitted_cons (s : σ) (i : ι) (is : List ι) :
    emitted step s (i :: is) = (step s i).2 ++ emitted step (step s i).1 is := rfl

theorem final_append (s : σ) (is js : List ι) :
    final step s (is ++ js) = final step (final step s is) js := List.foldl_append

theorem emitted_append (s : σ) (is js : List ι) :
    emitted step s (is ++ js) = emitted step s is ++ emitted step (final step s is) js := by
  induction is generalizing s with
  | nil => rfl
  | cons i is ih => rw [List.cons_append,emitted_cons,ih,emitted_cons,final_cons,List.append_assoc]

variable {step}

/-- What every step preserves holds after every input sequence. -/
theorem final_invariant {P : σ → Prop} (hstep : ∀ s i, P s → P (step s i).1) {s : σ} (h : P s)
    (is : List ι) : P (final step s is) := by
  induction is generalizing s with
  | nil => exact h
  | cons i is ih => exact ih (hstep s i h)

/-- Outputs that no step can emit while a preserved property holds are never emitted. -/
theorem emitted_forall {P : σ → Prop} {Q : ω → Prop} (hstep : ∀ s i, P s → P (step s i).1)
    (hout : ∀ s i, P s → ∀ o ∈ (step s i).2, Q o) {s : σ} (h : P s) (is : List ι) :
    ∀ o ∈ emitted step s is, Q o := by
  induction is generalizing s with
  | nil => intro o ho; cases ho
  | cons i is ih =>
    intro o ho
    rcases List.mem_append.mp ho with hnow | hlater
    · exact hout s i h o hnow
    · exact ih (hstep s i h) o hlater

/-- What every step preserves of the state and of everything emitted so far holds of a whole run. -/
theorem final_emitted_invariant {P : σ → List ω → Prop}
    (hstep : ∀ s os i, P s os → P (step s i).1 (os ++ (step s i).2)) {s : σ} {os : List ω} (h : P s os)
    (is : List ι) : P (final step s is) (os ++ emitted step s is) := by
  induction is generalizing s os with
  | nil => simpa using h
  | cons i is ih =>
    rw [final_cons,emitted_cons,← List.append_assoc]
    exact ih (hstep s os i h)

end Reactive

section Guarded
variable {step : σ → ι → Option σ}

/-- A run of a guarded machine: every input was allowed in the state that received it. -/
inductive Steps (step : σ → ι → Option σ) : σ → List ι → σ → Prop
  | done (s) : Steps step s [] s
  | next {s i t is u} (head : step s i = some t) (tail : Steps step t is u) :
      Steps step s (i :: is) u

/-- The induction rule of guarded runs. -/
theorem Steps.invariant {P : σ → Prop} (hstep : ∀ {s i t}, P s → step s i = some t → P t) {s t : σ}
    {is : List ι} (h : Steps step s is t) (hs : P s) : P t := by
  induction h with
  | done s => exact hs
  | next head tail ih => exact ih (hstep hs head)

/-- Each step of the run meets the condition `C` in the state that receives its input. -/
inductive Meets (step : σ → ι → Option σ) (C : σ → ι → Prop) : σ → List ι → σ → Prop
  | done (s) : Meets step C s [] s
  | next {s i t is u} (head : step s i = some t) (met : C s i) (tail : Meets step C t is u) :
      Meets step C s (i :: is) u

theorem Meets.steps {C : σ → ι → Prop} {s t : σ} {is : List ι} (h : Meets step C s is t) :
    Steps step s is t := by
  induction h with
  | done s => exact .done s
  | next head met tail ih => exact .next head ih

/-- A guarded machine run over a list of inputs. -/
def run (step : σ → ι → Option σ) (s : σ) (is : List ι) : Option σ := is.foldlM step s

theorem run_steps {s t : σ} {is : List ι} (h : run step s is = some t) : Steps step s is t := by
  induction is generalizing s with
  | nil =>
    obtain rfl : s = t := Option.some.inj h
    exact .done s
  | cons i is ih =>
    unfold run at h
    rw [List.foldlM_cons] at h
    obtain ⟨u,hhead,htail⟩ := Option.bind_eq_some_iff.mp h
    exact .next hhead (ih htail)

/-- Every step of a run meets a condition that can be decided. -/
theorem run_meets {C : σ → ι → Prop} [∀ s i, Decidable (C s i)] {s t : σ} {is : List ι}
    (h : run (fun s i => if C s i then step s i else none) s is = some t) : Meets step C s is t := by
  induction is generalizing s with
  | nil =>
    obtain rfl : s = t := Option.some.inj h
    exact .done s
  | cons i is ih =>
    unfold run at h
    rw [List.foldlM_cons] at h
    obtain ⟨u,hhead,htail⟩ := Option.bind_eq_some_iff.mp h
    split_ifs at hhead with hmet
    exact .next hhead hmet (ih htail)

/-- The induction rule of guarded runs, for a property whose preservation needs a condition
on each step. -/
theorem Meets.invariant {C : σ → ι → Prop} {P : σ → Prop}
    (hstep : ∀ {s i t}, P s → C s i → step s i = some t → P t) {s t : σ} {is : List ι}
    (h : Meets step C s is t) (hs : P s) : P t := by
  induction h with
  | done s => exact hs
  | next head met tail ih => exact ih (hstep hs met head)

end Guarded
end AytherRuntime.Machine
