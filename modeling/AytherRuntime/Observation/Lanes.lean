import Mathlib.Data.Nat.Count
import Mathlib.Tactic.SplitIfs

/-! The fact queues of an observation bridge: each producer has a queue of its own, one of the dedicated ones or one of
the regular ones, which are numbered without the dedicated producers. -/
namespace AytherRuntime.Observation

/-- The template parameters of `RuntimeObservationBridge` for its facts, as its assertion admits them; the dedicated
producer zero is none. -/
structure BridgeShape where
  producerSlots : ℕ
  factCapacity : ℕ
  burstProducer : ℕ := 0
  burstFactCapacity : ℕ := 1
  secondBurstProducer : ℕ := 0
  secondBurstFactCapacity : ℕ := 1
  thirdBurstProducer : ℕ := 0
  thirdBurstFactCapacity : ℕ := 1
  fourthBurstProducer : ℕ := 0
  fourthBurstFactCapacity : ℕ := 1
  positive : 0 < producerSlots ∧ 0 < factCapacity ∧ 0 < burstFactCapacity ∧ 0 < secondBurstFactCapacity ∧
    0 < thirdBurstFactCapacity ∧ 0 < fourthBurstFactCapacity
  within : burstProducer ≤ producerSlots ∧ secondBurstProducer ≤ producerSlots ∧
    thirdBurstProducer ≤ producerSlots ∧ fourthBurstProducer ≤ producerSlots
  distinct : (burstProducer = 0 ∨ secondBurstProducer = 0 ∨ burstProducer ≠ secondBurstProducer) ∧
    (burstProducer = 0 ∨ thirdBurstProducer = 0 ∨ burstProducer ≠ thirdBurstProducer) ∧
    (secondBurstProducer = 0 ∨ thirdBurstProducer = 0 ∨ secondBurstProducer ≠ thirdBurstProducer) ∧
    (burstProducer = 0 ∨ fourthBurstProducer = 0 ∨ burstProducer ≠ fourthBurstProducer) ∧
    (secondBurstProducer = 0 ∨ fourthBurstProducer = 0 ∨ secondBurstProducer ≠ fourthBurstProducer) ∧
    (thirdBurstProducer = 0 ∨ fourthBurstProducer = 0 ∨ thirdBurstProducer ≠ fourthBurstProducer)

/-- `ProductionObservationBridge` -/
def productionObservationBridge : BridgeShape where
  producerSlots := 9
  factCapacity := 54
  burstProducer := 5
  burstFactCapacity := 6144
  secondBurstProducer := 3
  secondBurstFactCapacity := 4096
  thirdBurstProducer := 6
  thirdBurstFactCapacity := 384
  fourthBurstProducer := 4
  fourthBurstFactCapacity := 1024
  positive := by decide
  within := by decide
  distinct := by decide

/-- `VisibleObservationBridge` -/
def visibleObservationBridge : BridgeShape :=
  { productionObservationBridge with burstFactCapacity := 4096, positive := by decide }

/-- A queue of the bridge. -/
inductive Lane
  | regular (index : ℕ)
  | burst | secondBurst | thirdBurst | fourthBurst
  deriving DecidableEq, Repr

namespace BridgeShape
variable (shape : BridgeShape)

/-- `dedicated_fact_queues` -/
def dedicatedFactQueues : ℕ :=
  (if shape.burstProducer = 0 then 0 else 1) + (if shape.secondBurstProducer = 0 then 0 else 1) +
    (if shape.thirdBurstProducer = 0 then 0 else 1) + if shape.fourthBurstProducer = 0 then 0 else 1

/-- `regular_fact_index` -/
def regularFactIndex (producer : ℕ) : ℕ :=
  let index := producer
  let index := if shape.burstProducer ≠ 0 ∧ shape.burstProducer - 1 < producer then index - 1 else index
  let index := if shape.secondBurstProducer ≠ 0 ∧ shape.secondBurstProducer - 1 < producer then index - 1 else index
  let index := if shape.thirdBurstProducer ≠ 0 ∧ shape.thirdBurstProducer - 1 < producer then index - 1 else index
  if shape.fourthBurstProducer ≠ 0 ∧ shape.fourthBurstProducer - 1 < producer then index - 1 else index

/-- The queue that `try_consume_fact_at` reads. -/
def laneAt (index : ℕ) : Lane :=
  if shape.burstProducer ≠ 0 ∧ index = shape.burstProducer - 1 then .burst
  else if shape.secondBurstProducer ≠ 0 ∧ index = shape.secondBurstProducer - 1 then .secondBurst
  else if shape.thirdBurstProducer ≠ 0 ∧ index = shape.thirdBurstProducer - 1 then .thirdBurst
  else if shape.fourthBurstProducer ≠ 0 ∧ index = shape.fourthBurstProducer - 1 then .fourthBurst
  else .regular (shape.regularFactIndex index)

/-- The queue that `receive_fact` pushes to. -/
def laneOf (producer : ℕ) : Lane :=
  if shape.burstProducer ≠ 0 ∧ producer = shape.burstProducer then .burst
  else if shape.secondBurstProducer ≠ 0 ∧ producer = shape.secondBurstProducer then .secondBurst
  else if shape.thirdBurstProducer ≠ 0 ∧ producer = shape.thirdBurstProducer then .thirdBurst
  else if shape.fourthBurstProducer ≠ 0 ∧ producer = shape.fourthBurstProducer then .fourthBurst
  else .regular (shape.regularFactIndex (producer - 1))

/-- `fact_capacity` -/
def factCapacityAt (index : ℕ) : ℕ :=
  if shape.burstProducer ≠ 0 ∧ index = shape.burstProducer - 1 then shape.burstFactCapacity
  else if shape.secondBurstProducer ≠ 0 ∧ index = shape.secondBurstProducer - 1 then shape.secondBurstFactCapacity
  else if shape.thirdBurstProducer ≠ 0 ∧ index = shape.thirdBurstProducer - 1 then shape.thirdBurstFactCapacity
  else if shape.fourthBurstProducer ≠ 0 ∧ index = shape.fourthBurstProducer - 1 then shape.fourthBurstFactCapacity
  else shape.factCapacity

lemma laneOf_succ (index : ℕ) : shape.laneOf (index + 1) = shape.laneAt index := by
  unfold laneOf laneAt
  have hsame : ∀ producer, (producer ≠ 0 ∧ index + 1 = producer) = (producer ≠ 0 ∧ index = producer - 1) := by
    intro producer
    apply propext
    omega
  simp only [hsame,Nat.add_sub_cancel]

/-- A producer that has a dedicated queue. -/
def Dedicated (index : ℕ) : Prop :=
  (shape.burstProducer ≠ 0 ∧ index = shape.burstProducer - 1) ∨
    (shape.secondBurstProducer ≠ 0 ∧ index = shape.secondBurstProducer - 1) ∨
    (shape.thirdBurstProducer ≠ 0 ∧ index = shape.thirdBurstProducer - 1) ∨
    (shape.fourthBurstProducer ≠ 0 ∧ index = shape.fourthBurstProducer - 1)

instance (index : ℕ) : Decidable (shape.Dedicated index) := inferInstanceAs (Decidable (_ ∨ _))

/-- One for a dedicated producer below another one. -/
def below (dedicated producer : ℕ) : ℕ := if dedicated ≠ 0 ∧ dedicated - 1 < producer then 1 else 0

lemma below_succ (dedicated producer : ℕ) :
    below dedicated (producer + 1) =
      below dedicated producer + if dedicated ≠ 0 ∧ producer = dedicated - 1 then 1 else 0 := by
  unfold below
  split_ifs <;> omega

/-- The dedicated producers below a producer, as they are counted off one by one. -/
def dedicatedBelow (producer : ℕ) : ℕ :=
  below shape.burstProducer producer + below shape.secondBurstProducer producer +
    below shape.thirdBurstProducer producer + below shape.fourthBurstProducer producer

/-- At most one of four conditions holds. -/
lemma one_of_four {a b c d : Prop} [Decidable a] [Decidable b] [Decidable c] [Decidable d]
    (hab : ¬(a ∧ b)) (hac : ¬(a ∧ c)) (had : ¬(a ∧ d)) (hbc : ¬(b ∧ c)) (hbd : ¬(b ∧ d)) (hcd : ¬(c ∧ d)) :
    (if a then 1 else 0) + (if b then 1 else 0) + (if c then 1 else 0) + (if d then 1 else 0) =
      if a ∨ b ∨ c ∨ d then 1 else 0 := by
  by_cases ha : a <;> by_cases hb : b <;> by_cases hc : c <;> by_cases hd : d <;> simp_all

lemma dedicatedBelow_succ (producer : ℕ) : shape.dedicatedBelow (producer + 1) =
    shape.dedicatedBelow producer + if shape.Dedicated producer then 1 else 0 := by
  obtain ⟨hfirst,hsecond,hthird,hfourth,hfifth,hsixth⟩ := shape.distinct
  have hone : (_ : ℕ) = if shape.Dedicated producer then 1 else 0 :=
    one_of_four (by omega) (by omega) (by omega) (by omega) (by omega) (by omega)
  unfold dedicatedBelow
  rw [below_succ,below_succ,below_succ,below_succ,← hone]
  omega

/-- The producers below one are the regular and the dedicated ones. -/
lemma count_add_dedicatedBelow (producer : ℕ) :
    Nat.count (fun index => ¬shape.Dedicated index) producer + shape.dedicatedBelow producer = producer := by
  induction producer with
  | zero => simp [dedicatedBelow,below]
  | succ producer ih =>
    rw [Nat.count_succ,dedicatedBelow_succ]
    by_cases hdedicated : shape.Dedicated producer
    · rw [if_pos hdedicated,if_neg (not_not.mpr hdedicated)]
      omega
    · rw [if_neg hdedicated,if_pos hdedicated]
      omega

lemma regularFactIndex_eq (producer : ℕ) :
    shape.regularFactIndex producer = Nat.count (fun index => ¬shape.Dedicated index) producer := by
  have hcount := shape.count_add_dedicatedBelow producer
  have hless : ∀ dedicated index : ℕ, (if dedicated ≠ 0 ∧ dedicated - 1 < producer then index - 1 else index) =
      index - below dedicated producer := by
    intro dedicated index
    unfold below
    split_ifs <;> rfl
  unfold dedicatedBelow at hcount
  unfold regularFactIndex
  dsimp only
  rw [hless,hless,hless,hless]
  omega

/-- A regular producer has a queue among the regular ones. -/
lemma regularFactIndex_lt {index : ℕ} (hindex : index < shape.producerSlots) (hregular : ¬shape.Dedicated index) :
    shape.regularFactIndex index < shape.producerSlots - shape.dedicatedFactQueues := by
  have hall : ∀ dedicated : ℕ, dedicated ≤ shape.producerSlots →
      below dedicated shape.producerSlots = if dedicated = 0 then 0 else 1 := by
    intro dedicated hle
    have hpositive := shape.positive.1
    unfold below
    split_ifs <;> omega
  obtain ⟨hfirst,hsecond,hthird,hfourth⟩ := shape.within
  have hcount := shape.count_add_dedicatedBelow shape.producerSlots
  have hlt := @Nat.count_strict_mono (fun index => ¬shape.Dedicated index) _ _ _ hregular hindex
  unfold dedicatedBelow at hcount
  rw [hall _ hfirst,hall _ hsecond,hall _ hthird,hall _ hfourth] at hcount
  rw [regularFactIndex_eq]
  unfold dedicatedFactQueues
  omega

/-- The producers that read from a queue. -/
def Reads (index : ℕ) : Lane → Prop
  | .burst => shape.burstProducer ≠ 0 ∧ index = shape.burstProducer - 1
  | .secondBurst => shape.secondBurstProducer ≠ 0 ∧ index = shape.secondBurstProducer - 1
  | .thirdBurst => shape.thirdBurstProducer ≠ 0 ∧ index = shape.thirdBurstProducer - 1
  | .fourthBurst => shape.fourthBurstProducer ≠ 0 ∧ index = shape.fourthBurstProducer - 1
  | .regular lane => ¬shape.Dedicated index ∧ lane = shape.regularFactIndex index

lemma reads_laneAt (index : ℕ) : shape.Reads index (shape.laneAt index) := by
  unfold laneAt
  split_ifs with hburst hsecond hthird hfourth
  · exact hburst
  · exact hsecond
  · exact hthird
  · exact hfourth
  · refine ⟨fun hdedicated => ?_,rfl⟩
    rcases hdedicated with h | h | h | h
    · exact hburst h
    · exact hsecond h
    · exact hthird h
    · exact hfourth h

lemma regularFactIndex_injective {first second : ℕ} (hfirst : ¬shape.Dedicated first)
    (hsecond : ¬shape.Dedicated second)
    (h : shape.regularFactIndex first = shape.regularFactIndex second) : first = second := by
  rw [regularFactIndex_eq,regularFactIndex_eq] at h
  exact @Nat.count_injective (fun index => ¬shape.Dedicated index) _ _ _ hfirst hsecond h

/-- Two producers never share a queue. -/
lemma laneAt_injective {first second : ℕ} (h : shape.laneAt first = shape.laneAt second) : first = second := by
  have hfirst := shape.reads_laneAt first
  have hsecond := shape.reads_laneAt second
  rw [h] at hfirst
  cases hlane : shape.laneAt second with
  | regular lane =>
    rw [hlane] at hfirst hsecond
    exact shape.regularFactIndex_injective hfirst.1 hsecond.1 (hfirst.2.symm.trans hsecond.2)
  | burst =>
    rw [hlane] at hfirst hsecond
    exact hfirst.2.trans hsecond.2.symm
  | secondBurst =>
    rw [hlane] at hfirst hsecond
    exact hfirst.2.trans hsecond.2.symm
  | thirdBurst =>
    rw [hlane] at hfirst hsecond
    exact hfirst.2.trans hsecond.2.symm
  | fourthBurst =>
    rw [hlane] at hfirst hsecond
    exact hfirst.2.trans hsecond.2.symm

/-- Five of the nine producers share the capacity of the regular queues. -/
example : (List.range 9).map productionObservationBridge.laneAt =
    [.regular 0,.regular 1,.secondBurst,.fourthBurst,.burst,.thirdBurst,.regular 2,.regular 3,.regular 4] := by
  decide

example : (List.range 9).map visibleObservationBridge.factCapacityAt = [54,54,4096,1024,4096,384,54,54,54] := by
  decide

end BridgeShape
end AytherRuntime.Observation
