import AytherRuntime.Trace.Accumulator

/-! The gate between the Engine and the evidence: in silence it withholds the facts, and keeps for each
producer the first and the last sequence that it withheld. The threads of the producers and of the
session meet in its atomics, so that each load, store and exchange is a step. -/
namespace AytherRuntime.Inspection
open Trace

structure ExcludedInterval where
  producer : ℕ
  first : ℕ
  last : ℕ
  deriving DecidableEq, Repr

/-- `SilentProductionGate`; the arrays are read by slot, and a sequence of zero is none. The taps of
the audio timing are left out. -/
structure SilentProductionGate where
  silent : Bool := false
  excludedFacts : ℕ := 0
  excludedFirst : ℕ → ℕ := fun _ => 0
  excludedLast : ℕ → ℕ := fun _ => 0
  excludedUnordered : ℕ → Bool := fun _ => false

/-- Where `receive_fact` is with a withheld fact of a slot: the fact is counted, the last sequence of
the slot is loaded, or what it asks of the slot is marked and its own sequence is left to store. -/
inductive Receiving
  | counted (sequence : ℕ)
  | loaded (sequence last : ℕ)
  | marked (sequence : ℕ)
  deriving DecidableEq, Repr

/-- The slot of a producer, from zero on. -/
def slotOf (id : CompactId) : Option ℕ :=
  if id.producer ≠ 0 ∧ id.producer ≤ producerSlots then some (id.producer - 1) else none

lemma slotOf_eq_some {id : CompactId} {slot : ℕ} (h : slot < producerSlots) :
    slotOf id = some slot ↔ id.producer = slot + 1 := by
  unfold slotOf
  split_ifs with hslot
  · rw [Option.some.injEq]
    omega
  · refine iff_of_false (by simp) fun hproducer => hslot ⟨?_,?_⟩ <;> omega

namespace SilentProductionGate
variable (gate : SilentProductionGate)

def setSilent (silent : Bool) : SilentProductionGate := { gate with silent }

/-- `receive_fact` found the gate silent. -/
def count : SilentProductionGate := { gate with excludedFacts := gate.excludedFacts + 1 }

/-- The next load or store of `receive_fact` in a slot. -/
def proceed (slot : ℕ) : Receiving → SilentProductionGate × Option Receiving
  | .counted sequence => (gate,some (.loaded sequence (gate.excludedLast slot)))
  | .loaded sequence last =>
    let gate :=
      if last = 0 then
        { gate with excludedFirst := Function.update gate.excludedFirst slot sequence }
      else if sequence ≤ last then
        { gate with excludedUnordered := Function.update gate.excludedUnordered slot true }
      else gate
    (gate,some (.marked sequence))
  | .marked sequence =>
    ({ gate with excludedLast := Function.update gate.excludedLast slot sequence },none)

/-- The three exchanges of `take_exclusions` in a slot. -/
def exchangeLast (slot : ℕ) : SilentProductionGate × ℕ :=
  ({ gate with excludedLast := Function.update gate.excludedLast slot 0 },gate.excludedLast slot)

def exchangeFirst (slot : ℕ) : SilentProductionGate × ℕ :=
  ({ gate with excludedFirst := Function.update gate.excludedFirst slot 0 },gate.excludedFirst slot)

def exchangeUnordered (slot : ℕ) : SilentProductionGate × Bool :=
  ({ gate with excludedUnordered := Function.update gate.excludedUnordered slot false },
    gate.excludedUnordered slot)

/-- What `take_exclusions` makes of the values of a slot: an interval, unless it is empty or its
sequences did not grow. -/
def keptInterval (slot last first : ℕ) (unordered : Bool) : Option ExcludedInterval :=
  if last = 0 ∨ unordered ∨ first = 0 ∨ last < first then none else some ⟨slot + 1,first,last⟩

/-- What the slot of a producer says of the sequences withheld from it since its last exchange. -/
def Keeps (slot : ℕ) (sequences : List ℕ) : Prop :=
  gate.excludedFirst slot = sequences.headD 0 ∧
    gate.excludedLast slot = (sequences.getLast?).getD 0 ∧ gate.excludedUnordered slot = false

/-- The slot keeps the sequences, the last of which may be on its way through `receive_fact`. -/
def Keeping (slot : ℕ) : Option Receiving → List ℕ → Prop
  | none, sequences => gate.Keeps slot sequences
  | some (.counted sequence), sequences =>
    ∃ earlier, sequences = earlier ++ [sequence] ∧ gate.Keeps slot earlier
  | some (.loaded sequence last), sequences =>
    ∃ earlier, sequences = earlier ++ [sequence] ∧ gate.Keeps slot earlier ∧
      last = (earlier.getLast?).getD 0
  | some (.marked sequence), sequences =>
    ∃ earlier, sequences = earlier ++ [sequence] ∧ gate.excludedFirst slot = sequences.headD 0 ∧
      gate.excludedUnordered slot = false

/-- The interval from the first to the last of some sequences. -/
def spanned (producer : ℕ) (sequences : List ℕ) : Option ExcludedInterval :=
  match sequences.head?, sequences.getLast? with
  | some first, some last => some ⟨producer,first,last⟩
  | _, _ => none

variable {gate} {slot : ℕ} {sequences : List ℕ}

/-- Growing sequences give the interval they span. -/
lemma keptInterval_eq (hpos : ∀ s ∈ sequences, 0 < s) (hgrow : sequences.Pairwise (· < ·)) :
    keptInterval slot ((sequences.getLast?).getD 0) (sequences.headD 0) false =
      spanned (slot + 1) sequences := by
  unfold keptInterval spanned
  cases sequences with
  | nil => simp
  | cons first rest =>
    obtain ⟨last,hget⟩ : ∃ last, (first :: rest).getLast? = some last :=
      ⟨_,List.getLast?_eq_some_getLast (by simp)⟩
    have hmem : last ∈ first :: rest := List.mem_of_getLast? hget
    have hle : first ≤ last := by
      rcases List.mem_cons.mp hmem with rfl | hmem
      · exact le_rfl
      · exact ((List.pairwise_cons.mp hgrow).1 last hmem).le
    have hfirstPos := hpos first (List.mem_cons_self ..)
    have hlastPos := hpos last hmem
    have hcond : ¬(last = 0 ∨ false = true ∨ first = 0 ∨ last < first) := by
      simp only [Bool.false_eq_true,false_or]
      omega
    rw [hget]
    exact if_neg hcond

lemma Keeping.ordered {receiving : Option Receiving} (h : gate.Keeping slot receiving sequences) :
    gate.excludedUnordered slot = false := by
  rcases receiving with _ | _ | _ | _
  · exact h.2.2
  · obtain ⟨_,-,hkeeps⟩ := h
    exact hkeeps.2.2
  · obtain ⟨_,-,hkeeps,-⟩ := h
    exact hkeeps.2.2
  · obtain ⟨_,-,-,hunordered⟩ := h
    exact hunordered

/-- What a slot keeps depends on its own atomics alone. -/
lemma Keeping.congr {gate' : SilentProductionGate} {receiving : Option Receiving}
    (h : gate.Keeping slot receiving sequences) (hfirst : gate'.excludedFirst slot = gate.excludedFirst slot)
    (hlast : gate'.excludedLast slot = gate.excludedLast slot)
    (hunordered : gate'.excludedUnordered slot = gate.excludedUnordered slot) :
    gate'.Keeping slot receiving sequences := by
  have hkeeps : ∀ {sequences : List ℕ}, gate.Keeps slot sequences → gate'.Keeps slot sequences :=
    fun h => ⟨hfirst.trans h.1,hlast.trans h.2.1,hunordered.trans h.2.2⟩
  rcases receiving with _ | _ | _ | _
  · exact hkeeps h
  · obtain ⟨earlier,hsplit,h⟩ := h
    exact ⟨earlier,hsplit,hkeeps h⟩
  · obtain ⟨earlier,hsplit,h,hloaded⟩ := h
    exact ⟨earlier,hsplit,hkeeps h,hloaded⟩
  · obtain ⟨earlier,hsplit,hhead,hordered⟩ := h
    exact ⟨earlier,hsplit,hfirst.trans hhead,hunordered.trans hordered⟩

/-- `receive_fact` proceeds with the last of growing sequences. -/
lemma Keeping.proceed {receiving : Receiving} (h : gate.Keeping slot (some receiving) sequences)
    (hpos : ∀ s ∈ sequences, 0 < s) (hgrow : sequences.Pairwise (· < ·)) :
    (gate.proceed slot receiving).1.Keeping slot (gate.proceed slot receiving).2 sequences := by
  cases receiving with
  | counted sequence =>
    obtain ⟨earlier,hsplit,hkeeps⟩ := h
    exact ⟨earlier,hsplit,hkeeps,hkeeps.2.1⟩
  | loaded sequence last =>
    obtain ⟨earlier,rfl,⟨hfirst,-,hunordered⟩,rfl⟩ := h
    refine ⟨earlier,rfl,?_⟩
    cases earlier with
    | nil => simp [SilentProductionGate.proceed,hunordered]
    | cons first rest =>
      obtain ⟨last,hget⟩ : ∃ last, (first :: rest).getLast? = some last :=
        ⟨_,List.getLast?_eq_some_getLast (by simp)⟩
      have hmem := List.mem_of_getLast? hget
      have hlastPos := hpos last (List.mem_append_left _ hmem)
      have hlt := (List.pairwise_append.mp hgrow).2.2 last hmem sequence (List.mem_singleton.mpr rfl)
      unfold SilentProductionGate.proceed
      dsimp only
      rw [hget,Option.getD_some,if_neg (by omega),if_neg (by omega)]
      exact ⟨hfirst,hunordered⟩
  | marked sequence =>
    obtain ⟨earlier,rfl,hfirst,hunordered⟩ := h
    refine ⟨hfirst,?_,hunordered⟩
    simp [SilentProductionGate.proceed]

/-- `receive_fact` writes to no slot but its own. -/
lemma proceed_other {other : ℕ} (hne : slot ≠ other) (receiving : Receiving) :
    (gate.proceed other receiving).1.excludedFirst slot = gate.excludedFirst slot ∧
      (gate.proceed other receiving).1.excludedLast slot = gate.excludedLast slot ∧
        (gate.proceed other receiving).1.excludedUnordered slot = gate.excludedUnordered slot := by
  cases receiving with
  | counted => exact ⟨rfl,rfl,rfl⟩
  | loaded sequence last =>
    unfold proceed
    dsimp only
    split_ifs
    · exact ⟨Function.update_of_ne hne ..,rfl,rfl⟩
    · exact ⟨rfl,rfl,Function.update_of_ne hne ..⟩
    · exact ⟨rfl,rfl,rfl⟩
  | marked sequence => exact ⟨rfl,Function.update_of_ne hne ..,rfl⟩

@[simp] lemma proceed_silent (slot : ℕ) (receiving : Receiving) :
    (gate.proceed slot receiving).1.silent = gate.silent := by
  cases receiving with
  | counted | marked => rfl
  | loaded =>
    unfold proceed
    dsimp only
    split_ifs <;> rfl

end SilentProductionGate
end AytherRuntime.Inspection
