import Mathlib.Algebra.Ring.Nat
import Mathlib.Data.List.Basic

/-! The facts of a run as the audio evidence carries them, and the numbers their texts name. -/
namespace AytherRuntime

inductive Availability
  | known | notApplicable | unknown
  deriving DecidableEq, Repr

structure Field (α : Type) where
  availability : Availability := .unknown
  value : Option α := none
  reasonCode : String := ""
  deriving DecidableEq, Repr

structure FactId where
  runId : String
  producerId : String
  producerSequence : ℕ
  deriving DecidableEq, Repr

/-- `Cause`: a fact, or the context that existed before the run. -/
inductive Cause
  | fact (id : FactId)
  | preexistingContext (contextId : String)
  deriving DecidableEq, Repr

structure SharedStateOrder where
  stateId : String
  sequence : ℕ
  deriving DecidableEq, Repr

inductive FactFieldUnit
  | none | emulationFrame | sampleFrame | bytes | count | linearGain | framesPerSecond | nanoseconds
  deriving DecidableEq, Repr

/-- `FactFieldValue`; a `double` is kept by its sixty-four bits. -/
inductive FactFieldValue
  | monostate
  | bool (value : Bool)
  | uint64 (value : ℕ)
  | int64 (value : Int)
  | double (bits : UInt64)
  | text (value : String)
  | factId (value : FactId)
  deriving DecidableEq, Repr

structure FactField where
  name : String
  availability : Availability := .unknown
  unit : FactFieldUnit := .none
  value : FactFieldValue := .monostate
  unavailableReason : String := ""
  deriving DecidableEq, Repr


structure Fact where
  id : FactId
  kind : String
  frameIndex : Field ℕ := {}
  causeIds : List Cause := []
  decisionId : Field String := {}
  assignmentId : Field String := {}
  occurrenceId : Field String := {}
  reasonCode : Field String := {}
  sharedStateOrder : Field (List SharedStateOrder) := {}
  fields : List FactField := []
  deriving DecidableEq, Repr

/-- `std::from_chars` over a whole text: decimal digits alone, at least one, below the bound of
the unsigned type it reads. -/
def fromChars (bound : ℕ) (digits : List Char) : Option ℕ :=
  if digits ≠ [] ∧ digits.all Char.isDigit then
    let value := digits.foldl (fun value digit => 10 * value + (digit.toNat - '0'.toNat)) 0
    if value < bound then some value else none
  else none

def producerSlots : ℕ := 64

def maxIdentityBytes : ℕ := 256

def maxReplayTraceFacts : ℕ := 10000000

def enginePrefix : List Char := "engine-".toList

/-- `producer_number`: the slot that an `engine-<n>` producer names. -/
def producerNumber (value : String) : Option ℕ :=
  if enginePrefix.isPrefixOf value.toList then
    match fromChars (2 ^ 32) (value.toList.drop enginePrefix.length) with
    | some result => if result = 0 ∨ producerSlots < result then none else some result
    | none => none
  else none

/-- `occurrence`: the number of the occurrence text, and zero without one. -/
def Fact.occurrence (fact : Fact) : ℕ :=
  match fact.occurrenceId.value with
  | some text => (fromChars (2 ^ 64) text.toList).getD 0
  | none => 0

lemma producerNumber_range {value : String} {producer : ℕ} (h : producerNumber value = some producer) :
    1 ≤ producer ∧ producer ≤ producerSlots := by
  unfold producerNumber at h
  split at h
  · split at h
    · split at h
      · cases h
      · cases h
        omega
    · cases h
  · cases h

/-- The decimal text of a number reads as the number, where it fits. -/
lemma fromChars_toString (bound n : ℕ) :
    fromChars bound (toString n).toList = if n < bound then some n else none := by
  have hdigits : (toString n).toList = Nat.toDigits 10 n := Nat.toList_repr
  have hall : (Nat.toDigits 10 n).all Char.isDigit = true :=
    List.all_eq_true.mpr fun c hc => Nat.isDigit_of_mem_toDigits (by decide) (by decide) hc
  have hvalue := Nat.ofDigitChars_ten_toDigits (n := n)
  rw [Nat.ofDigitChars_eq_foldl] at hvalue
  rw [hdigits,fromChars,if_pos ⟨Nat.toDigits_ne_nil,hall⟩]
  dsimp only
  rw [hvalue]

/-- The producers that the Engine spells are read back where a slot exists. -/
lemma producerNumber_engine (n : ℕ) : producerNumber ("engine-" ++ toString n) =
    if n = 0 ∨ producerSlots < n then none else some n := by
  have hstart : enginePrefix.isPrefixOf ("engine-" ++ toString n).toList = true := by
    rw [String.toList_append,List.isPrefixOf_iff_prefix]
    exact List.prefix_append _ _
  have hrest : ("engine-" ++ toString n).toList.drop enginePrefix.length = (toString n).toList := by
    rw [String.toList_append]
    exact List.drop_left
  rw [producerNumber,if_pos hstart,hrest,fromChars_toString]
  by_cases hn : n < 2 ^ 32
  · rw [if_pos hn]
  · rw [if_neg hn,if_pos (Or.inr (by unfold producerSlots; omega))]

end AytherRuntime
