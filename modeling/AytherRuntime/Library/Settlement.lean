import Mathlib.Data.Set.Basic

/-! Items that name the causes they depend on, over arbitrary identities: which of them settle, and
the value that a settled one inherits from its causes. -/
namespace AytherRuntime.Settlement

variable {ι φ β : Type*}

/-- An item has an identity and the identities of its causes. -/
structure Dependencies (ι φ : Type*) where
  id : φ → ι
  causes : φ → List ι

variable (D : Dependencies ι φ)

/-- What is given settles, and so does an item whose causes all settle. -/
inductive Settles (items : Set φ) (given : Set ι) : ι → Prop
  | given {i} (h : i ∈ given) : Settles items given i
  | item {f} (h : f ∈ items) (causes : ∀ c ∈ D.causes f, Settles items given c) :
      Settles items given (D.id f)

/-- The value of a settled identity: a base value where it is given, else what its item combines
from the values of its causes, in their order. -/
inductive Evaluates (base : β) (combine : φ → List β → β) (items : Set φ) (given : Set ι) :
    ι → β → Prop
  | given {i} (h : i ∈ given) : Evaluates base combine items given i base
  | item {f} (h : f ∈ items) (values : ι → β)
      (causes : ∀ c ∈ D.causes f, Evaluates base combine items given c (values c)) :
      Evaluates base combine items given (D.id f) (combine f ((D.causes f).map values))

/-- No two items have one identity, and none has a given one. -/
structure Distinct (items : Set φ) (given : Set ι) : Prop where
  id : ∀ f ∈ items, ∀ g ∈ items, D.id f = D.id g → f = g
  given : ∀ f ∈ items, D.id f ∉ given

variable {D} {base : β} {combine : φ → List β → β} {items items' : Set φ} {given given' : Set ι}

theorem Settles.mono (hitems : items ⊆ items') (hgiven : given ⊆ given') {i : ι}
    (h : Settles D items given i) : Settles D items' given' i := by
  induction h with
  | given h => exact .given (hgiven h)
  | item h causes ih => exact .item (hitems h) ih

theorem Evaluates.mono (hitems : items ⊆ items') (hgiven : given ⊆ given') {i : ι} {b : β}
    (h : Evaluates D base combine items given i b) :
    Evaluates D base combine items' given' i b := by
  induction h with
  | given h => exact .given (hgiven h)
  | item h values causes ih => exact .item (hitems h) values ih

/-- An identity of distinct items has at most one value. -/
theorem Evaluates.unique (hdistinct : Distinct D items given) {i : ι} {b b' : β}
    (h : Evaluates D base combine items given i b)
    (h' : Evaluates D base combine items given i b') : b = b' := by
  induction h generalizing b' with
  | given h =>
    cases h' with
    | given => rfl
    | item hg => exact absurd h (hdistinct.given _ hg)
  | @item f hf values causes ih =>
    generalize hid : D.id f = j at h'
    cases h' with
    | given hg => exact absurd (hid ▸ hg) (hdistinct.given f hf)
    | @item g hg values' causes' =>
      obtain rfl := hdistinct.id f hf g hg hid
      exact congrArg _ (List.map_congr_left fun c hc => ih c hc (causes' c hc))

end AytherRuntime.Settlement
