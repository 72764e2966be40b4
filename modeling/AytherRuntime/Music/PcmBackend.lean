import AytherRuntime.Library.History
import AytherRuntime.Library.Machine
import Mathlib.Algebra.Ring.Nat
import Mathlib.Data.List.Induction
import Mathlib.Data.Nat.Basic
import Mathlib.Tactic.SplitIfs

/-! The PCM of the music under generations: samples are queued and taken, or discarded while a generation takes the
place of the one before it. -/
namespace AytherRuntime.Music
open History Machine

section Backend
variable {α : Type}

structure MusicPcmOutput (α : Type) where
  generation : ℕ := 0
  firstFrame : ℕ := 0
  samples : List α := []

/-- `MusicPcmBackend` -/
structure MusicPcmBackend (α : Type) where
  queue : List α := []
  activeGeneration : ℕ := 0
  requestFrame : ℕ := 0
  confirmationFrame : ℕ := 0
  firstOutputFrame : ℕ := 0
  discardedFrames : ℕ := 0
  deliveriesStopped : Bool := false
  drainPerformed : Bool := false
  confirmed : Bool := false

namespace MusicPcmBackend
variable (backend : MusicPcmBackend α)

def enqueue (generation : ℕ) (samples : List α) : Bool × MusicPcmBackend α :=
  if generation = 0 ∨ samples = [] ∨ (backend.activeGeneration ≠ 0 ∧ generation ≠ backend.activeGeneration) ∨
      backend.deliveriesStopped then (false,backend)
  else (true,{ backend with activeGeneration := generation, queue := backend.queue ++ samples })

def stopDeliveries (requestFrame : ℕ) : Bool × MusicPcmBackend α :=
  if backend.deliveriesStopped ∨ requestFrame = 0 then (false,backend)
  else (true,{ backend with deliveriesStopped := true, requestFrame })

def invalidateAndDrain (generation : ℕ) : Bool × MusicPcmBackend α :=
  if !backend.deliveriesStopped ∨ generation ≠ backend.activeGeneration then (false,backend)
  else
    (true,{ backend with
      discardedFrames := (backend.discardedFrames + backend.queue.length) % 2 ^ 64
      queue := []
      drainPerformed := true })

def confirmDrained (confirmationFrame : ℕ) : Bool × MusicPcmBackend α :=
  if !backend.deliveriesStopped ∨ !backend.drainPerformed ∨ !backend.queue.isEmpty ∨
      confirmationFrame < backend.requestFrame then (false,backend)
  else (true,{ backend with confirmed := true, confirmationFrame })

def publishGeneration (generation boundary : ℕ) : Bool × MusicPcmBackend α :=
  if !backend.confirmed ∨ generation ≤ backend.activeGeneration ∨ boundary < backend.confirmationFrame then
    (false,backend)
  else
    (true,{ backend with
      activeGeneration := generation
      firstOutputFrame := boundary
      deliveriesStopped := false
      confirmed := false
      drainPerformed := false })

def rollback (generation : ℕ) : Bool × MusicPcmBackend α :=
  if !backend.deliveriesStopped ∨ generation ≠ backend.activeGeneration then (false,backend)
  else (true,{ backend with deliveriesStopped := false, confirmed := false, drainPerformed := false })

def consume : MusicPcmOutput α × MusicPcmBackend α :=
  if backend.deliveriesStopped then ({},backend)
  else (⟨backend.activeGeneration,backend.firstOutputFrame,backend.queue⟩,{ backend with queue := [] })

end MusicPcmBackend

inductive MusicPcmOperation (α : Type)
  | enqueue (generation : ℕ) (samples : List α)
  | stopDeliveries (requestFrame : ℕ)
  | invalidateAndDrain (generation : ℕ)
  | confirmDrained (confirmationFrame : ℕ)
  | publishGeneration (generation boundary : ℕ)
  | rollback (generation : ℕ)
  | consume

/-- What an operation did: a refused one nothing. -/
inductive MusicPcmEvent (α : Type)
  | enqueued (generation : ℕ) (samples : List α)
  | stopped (requestFrame : ℕ)
  | drained
  | confirmed (confirmationFrame : ℕ)
  | published (generation boundary : ℕ)
  | rolledBack
  | consumed (output : MusicPcmOutput α)

/-- The event of an operation that was accepted. -/
def ifAccepted (result : Bool × MusicPcmBackend α) (event : MusicPcmEvent α) :
    MusicPcmBackend α × List (MusicPcmEvent α) := (result.2,if result.1 then [event] else [])

def MusicPcmBackend.step (backend : MusicPcmBackend α) :
    MusicPcmOperation α → MusicPcmBackend α × List (MusicPcmEvent α)
  | .enqueue generation samples => ifAccepted (backend.enqueue generation samples) (.enqueued generation samples)
  | .stopDeliveries requestFrame => ifAccepted (backend.stopDeliveries requestFrame) (.stopped requestFrame)
  | .invalidateAndDrain generation => ifAccepted (backend.invalidateAndDrain generation) .drained
  | .confirmDrained confirmationFrame =>
    ifAccepted (backend.confirmDrained confirmationFrame) (.confirmed confirmationFrame)
  | .publishGeneration generation boundary =>
    ifAccepted (backend.publishGeneration generation boundary) (.published generation boundary)
  | .rollback generation => ifAccepted (backend.rollback generation) .rolledBack
  | .consume => (backend.consume.2,[.consumed backend.consume.1])

end Backend

section History
variable {α : Type}

/-- The samples enqueued, each with the generation that it was enqueued under. -/
def enqueuedSamples (history : List (MusicPcmEvent α)) : List (ℕ × α) :=
  history.flatMap fun
    | .enqueued generation samples => samples.map fun sample => (generation,sample)
    | _ => []

/-- The samples taken, each with the generation that it came out under. -/
def outputSamples (history : List (MusicPcmEvent α)) : List (ℕ × α) :=
  history.flatMap fun
    | .consumed output => output.samples.map fun sample => (output.generation,sample)
    | _ => []

/-- The frame of the stop that is in force, and of the last confirmation since. -/
def cycle : List (MusicPcmEvent α) → Option (ℕ × Option ℕ) :=
  List.foldl (fun
    | _, .stopped requestFrame => some (requestFrame,none)
    | some (requestFrame,_), .confirmed confirmationFrame => some (requestFrame,some confirmationFrame)
    | _, .published _ _ => none
    | _, .rolledBack => none
    | cycle, _ => cycle) none

/-- Of two events in their order: published generations increase, and no sample of an earlier generation comes out
after one is published. -/
def InGenerations : MusicPcmEvent α → MusicPcmEvent α → Prop
  | .published generation _, .published next _ => generation < next
  | .published generation _, .consumed output => output.samples ≠ [] → generation ≤ output.generation
  | _, _ => True

/-- Of an event after the events before it: nothing comes out while deliveries are stopped, and a boundary is at or
after its confirmation, which is at or after its request. -/
def InCycle (before : List (MusicPcmEvent α)) : MusicPcmEvent α → Prop
  | .consumed output => (cycle before).isSome = true → output.samples = []
  | .published _ boundary =>
    ∃ requestFrame confirmationFrame, cycle before = some (requestFrame,some confirmationFrame) ∧
      requestFrame ≤ confirmationFrame ∧ confirmationFrame ≤ boundary
  | _ => True

/-- Every sample enqueued so far is either settled, as one that came out or was discarded, or still queued. -/
structure Settled (history : List (MusicPcmEvent α)) (backend : MusicPcmBackend α) (settled : List (Bool × ℕ × α)) :
    Prop where
  enqueued : enqueuedSamples history =
    settled.map Prod.snd ++ backend.queue.map fun sample => (backend.activeGeneration,sample)
  output : outputSamples history = (settled.filter fun sample => sample.1).map Prod.snd
  discarded : backend.discardedFrames = (settled.filter fun sample => !sample.1).length % 2 ^ 64

/-- What holds of a backend after its history. -/
structure Runs (history : List (MusicPcmEvent α)) (backend : MusicPcmBackend α) : Prop where
  settled : ∃ settled, Settled history backend settled
  unset : backend.activeGeneration = 0 → backend.queue = []
  drained : backend.drainPerformed = true → backend.deliveriesStopped = true ∧ backend.queue = []
  confirmed : backend.confirmed = true →
    backend.drainPerformed = true ∧ backend.requestFrame ≤ backend.confirmationFrame
  cycle : cycle history =
    if backend.deliveriesStopped then
      some (backend.requestFrame,if backend.confirmed then some backend.confirmationFrame else none)
    else none
  published : ∀ generation boundary, .published generation boundary ∈ history → generation ≤ backend.activeGeneration
  generations : history.Pairwise InGenerations
  each : Each InCycle history

variable {history : List (MusicPcmEvent α)} {backend : MusicPcmBackend α}

lemma cycle_snoc (history : List (MusicPcmEvent α)) (event : MusicPcmEvent α) :
    cycle (history ++ [event]) =
      match cycle history, event with
      | _, .stopped requestFrame => some (requestFrame,none)
      | some (requestFrame,_), .confirmed confirmationFrame => some (requestFrame,some confirmationFrame)
      | _, .published _ _ => none
      | _, .rolledBack => none
      | cycle, _ => cycle := by
  unfold cycle
  rw [List.foldl_append]
  rfl

/-- Samples that are neither enqueued nor taken leave what is settled as it is. -/
lemma samples_snoc {event : MusicPcmEvent α} (henqueued : enqueuedSamples [event] = [])
    (houtput : outputSamples [event] = []) :
    enqueuedSamples (history ++ [event]) = enqueuedSamples history ∧
      outputSamples (history ++ [event]) = outputSamples history := by
  constructor
  · rw [enqueuedSamples,List.flatMap_append]
    exact (congrArg _ henqueued).trans (List.append_nil _)
  · rw [outputSamples,List.flatMap_append]
    exact (congrArg _ houtput).trans (List.append_nil _)

/-- The generations published before an event that publishes none. -/
lemma published_snoc {bound : ℕ} (h : ∀ generation boundary, .published generation boundary ∈ history →
    generation ≤ bound)
    {event : MusicPcmEvent α} (hevent : ∀ generation boundary, event ≠ .published generation boundary) :
    ∀ generation boundary, .published generation boundary ∈ history ++ [event] → generation ≤ bound := by
  intro generation boundary hmem
  rcases List.mem_append.mp hmem with hbefore | hnow
  · exact h generation boundary hbefore
  · exact absurd (List.mem_singleton.mp hnow).symm (hevent generation boundary)

lemma generations_snoc (h : history.Pairwise InGenerations) {event : MusicPcmEvent α}
    (hevent : ∀ before ∈ history, InGenerations before event) : (history ++ [event]).Pairwise InGenerations :=
  List.pairwise_append.mpr ⟨h,List.pairwise_singleton _ _,fun before hbefore other hother => by
    rw [List.mem_singleton.mp hother]
    exact hevent before hbefore⟩

lemma Runs.enqueue (h : Runs history backend) {generation : ℕ} {samples : List α}
    (haccepted : (backend.enqueue generation samples).1 = true) :
    Runs (history ++ [MusicPcmEvent.enqueued generation samples]) (backend.enqueue generation samples).2 := by
  unfold MusicPcmBackend.enqueue at haccepted ⊢
  split_ifs at haccepted ⊢ with hrefused
  simp only [not_or,not_and,not_not] at hrefused
  obtain ⟨hgeneration,-,hactive,hstopped⟩ := hrefused
  obtain ⟨settled,hsettled⟩ := h.settled
  have hqueue : backend.queue.map (fun sample => (backend.activeGeneration,sample)) =
      backend.queue.map fun sample => (generation,sample) := by
    by_cases hunset : backend.activeGeneration = 0
    · rw [h.unset hunset]
      rfl
    · rw [hactive hunset]
  refine ⟨⟨settled,?_,?_,hsettled.discarded⟩,fun hzero => absurd hzero hgeneration,fun hdrained => ?_,h.confirmed,
    ?_,?_,?_,
    h.each.snoc trivial⟩
  · rw [enqueuedSamples,List.flatMap_append]
    show enqueuedSamples history ++ enqueuedSamples [_] = _
    rw [hsettled.enqueued,hqueue]
    simp [enqueuedSamples]
  · rw [outputSamples,List.flatMap_append]
    exact (List.append_nil _).trans hsettled.output
  · exact absurd (h.drained hdrained).1 hstopped
  · rw [cycle_snoc,h.cycle,if_neg hstopped]
  · refine published_snoc (fun other boundary hother => ?_) (by simp)
    have hle := h.published other boundary hother
    by_cases hunset : backend.activeGeneration = 0
    · omega
    · exact (hactive hunset) ▸ hle
  · refine generations_snoc h.generations fun before _ => ?_
    cases before <;> trivial

lemma Runs.stopDeliveries (h : Runs history backend) {requestFrame : ℕ}
    (haccepted : (backend.stopDeliveries requestFrame).1 = true) :
    Runs (history ++ [MusicPcmEvent.stopped requestFrame]) (backend.stopDeliveries requestFrame).2 := by
  unfold MusicPcmBackend.stopDeliveries at haccepted ⊢
  split_ifs at haccepted ⊢ with hrefused
  simp only [not_or] at hrefused
  obtain ⟨hrunning,-⟩ := hrefused
  obtain ⟨settled,hsettled⟩ := h.settled
  obtain ⟨henqueued,houtput⟩ := @samples_snoc α history (.stopped requestFrame) rfl rfl
  have hdrained : backend.drainPerformed ≠ true := fun hdrained => hrunning (h.drained hdrained).1
  have hconfirmed : backend.confirmed ≠ true := fun hconfirmed => hdrained (h.confirmed hconfirmed).1
  refine ⟨⟨settled,henqueued.trans hsettled.enqueued,houtput.trans hsettled.output,hsettled.discarded⟩,h.unset,
    fun hnow => absurd hnow hdrained,fun hnow => absurd hnow hconfirmed,?_,published_snoc h.published (by simp),?_,
    h.each.snoc trivial⟩
  · rw [cycle_snoc,if_pos rfl,if_neg hconfirmed]
  · refine generations_snoc h.generations fun before _ => ?_
    cases before <;> trivial

lemma Runs.invalidateAndDrain (h : Runs history backend) {generation : ℕ}
    (haccepted : (backend.invalidateAndDrain generation).1 = true) :
    Runs (history ++ [MusicPcmEvent.drained]) (backend.invalidateAndDrain generation).2 := by
  unfold MusicPcmBackend.invalidateAndDrain at haccepted ⊢
  split_ifs at haccepted ⊢ with hrefused
  simp only [not_or,Bool.not_eq_true',Bool.not_eq_false] at hrefused
  obtain ⟨hstopped,-⟩ := hrefused
  obtain ⟨settled,hsettled⟩ := h.settled
  obtain ⟨henqueued,houtput⟩ := @samples_snoc α history .drained rfl rfl
  -- The queued samples are settled as discarded.
  refine ⟨⟨settled ++ backend.queue.map fun sample => (false,backend.activeGeneration,sample),?_,?_,?_⟩,fun _ => rfl,
    fun _ => ⟨hstopped,rfl⟩,fun hconfirmed => ⟨rfl,(h.confirmed hconfirmed).2⟩,?_,
      published_snoc h.published (by simp),?_,
    h.each.snoc trivial⟩
  · rw [henqueued,hsettled.enqueued]
    simp [Function.comp_def]
  · rw [houtput,hsettled.output,List.filter_append,List.map_append]
    simp [List.filter_map,Function.comp_def]
  · rw [hsettled.discarded,List.filter_append,List.length_append]
    simp [List.filter_map,Function.comp_def]
  · rw [cycle_snoc,h.cycle,if_pos hstopped]
  · refine generations_snoc h.generations fun before _ => ?_
    cases before <;> trivial

lemma Runs.confirmDrained (h : Runs history backend) {confirmationFrame : ℕ}
    (haccepted : (backend.confirmDrained confirmationFrame).1 = true) :
    Runs (history ++ [MusicPcmEvent.confirmed confirmationFrame]) (backend.confirmDrained confirmationFrame).2 := by
  unfold MusicPcmBackend.confirmDrained at haccepted ⊢
  split_ifs at haccepted ⊢ with hrefused
  simp only [not_or,Bool.not_eq_true',Bool.not_eq_false,not_lt] at hrefused
  obtain ⟨hstopped,hdrained,-,hframe⟩ := hrefused
  obtain ⟨settled,hsettled⟩ := h.settled
  obtain ⟨henqueued,houtput⟩ := @samples_snoc α history (.confirmed confirmationFrame) rfl rfl
  refine ⟨⟨settled,henqueued.trans hsettled.enqueued,houtput.trans hsettled.output,hsettled.discarded⟩,h.unset,
    h.drained,fun _ => ⟨hdrained,hframe⟩,?_,published_snoc h.published (by simp),?_,h.each.snoc trivial⟩
  · rw [cycle_snoc,h.cycle]
    dsimp only
    rw [if_pos hstopped,if_pos hstopped,if_pos rfl]
  · refine generations_snoc h.generations fun before _ => ?_
    cases before <;> trivial

lemma Runs.publishGeneration (h : Runs history backend) {generation boundary : ℕ}
    (haccepted : (backend.publishGeneration generation boundary).1 = true) :
    Runs (history ++ [MusicPcmEvent.published generation boundary])
      (backend.publishGeneration generation boundary).2 := by
  unfold MusicPcmBackend.publishGeneration at haccepted ⊢
  split_ifs at haccepted ⊢ with hrefused
  simp only [not_or,Bool.not_eq_true',Bool.not_eq_false,not_lt,not_le] at hrefused
  obtain ⟨hconfirmed,hnext,hboundary⟩ := hrefused
  obtain ⟨hdrained,hframes⟩ := h.confirmed hconfirmed
  obtain ⟨hstopped,hempty⟩ := h.drained hdrained
  obtain ⟨settled,hsettled⟩ := h.settled
  obtain ⟨henqueued,houtput⟩ := @samples_snoc α history (.published generation boundary) rfl rfl
  refine ⟨⟨settled,?_,houtput.trans hsettled.output,hsettled.discarded⟩,fun _ => hempty,fun hnow => (by cases hnow),
    fun hnow => (by cases hnow),?_,?_,?_,h.each.snoc ?_⟩
  · rw [henqueued,hsettled.enqueued,hempty]
    rfl
  · rw [cycle_snoc,h.cycle,if_pos hstopped]
    rfl
  · intro other otherBoundary hother
    rcases List.mem_append.mp hother with hbefore | hnow
    · exact Nat.le_trans (h.published other otherBoundary hbefore) (Nat.le_of_lt hnext)
    · cases List.mem_singleton.mp hnow
      exact le_refl _
  · refine generations_snoc h.generations fun before hbefore => ?_
    cases before with
    | published other otherBoundary => exact Nat.lt_of_le_of_lt (h.published other otherBoundary hbefore) hnext
    | _ => trivial
  · refine ⟨backend.requestFrame,backend.confirmationFrame,?_,hframes,hboundary⟩
    rw [h.cycle,if_pos hstopped,if_pos hconfirmed]

lemma Runs.rollback (h : Runs history backend) {generation : ℕ} (haccepted : (backend.rollback generation).1 = true) :
    Runs (history ++ [MusicPcmEvent.rolledBack]) (backend.rollback generation).2 := by
  unfold MusicPcmBackend.rollback at haccepted ⊢
  split_ifs at haccepted ⊢ with hrefused
  simp only [not_or,Bool.not_eq_true',Bool.not_eq_false] at hrefused
  obtain ⟨hstopped,-⟩ := hrefused
  obtain ⟨settled,hsettled⟩ := h.settled
  obtain ⟨henqueued,houtput⟩ := @samples_snoc α history .rolledBack rfl rfl
  refine ⟨⟨settled,henqueued.trans hsettled.enqueued,houtput.trans hsettled.output,hsettled.discarded⟩,h.unset,
    fun hnow => (by cases hnow),fun hnow => (by cases hnow),?_,published_snoc h.published (by simp),?_,
    h.each.snoc trivial⟩
  · rw [cycle_snoc,h.cycle,if_pos hstopped]
    rfl
  · refine generations_snoc h.generations fun before _ => ?_
    cases before <;> trivial

lemma Runs.consume (h : Runs history backend) :
    Runs (history ++ [MusicPcmEvent.consumed backend.consume.1]) backend.consume.2 := by
  obtain ⟨settled,hsettled⟩ := h.settled
  have hgenerations : backend.deliveriesStopped ≠ true →
      ∀ before ∈ history, InGenerations before (.consumed backend.consume.1) := by
    intro hstopped before hbefore
    cases before with
    | published generation boundary =>
      unfold MusicPcmBackend.consume
      rw [if_neg hstopped]
      exact fun _ => h.published generation boundary hbefore
    | _ => trivial
  unfold MusicPcmBackend.consume at hgenerations ⊢
  by_cases hstopped : backend.deliveriesStopped = true
  · rw [if_pos hstopped]
    obtain ⟨henqueued,houtput⟩ := @samples_snoc α history (.consumed {}) rfl rfl
    refine ⟨⟨settled,henqueued.trans hsettled.enqueued,houtput.trans hsettled.output,hsettled.discarded⟩,h.unset,
      h.drained,h.confirmed,?_,published_snoc h.published (by simp),?_,h.each.snoc fun _ => rfl⟩
    · rw [cycle_snoc,h.cycle]
    · refine generations_snoc h.generations fun before _ => ?_
      cases before with
      | published generation boundary => exact fun hsome => absurd rfl hsome
      | _ => trivial
  · rw [if_neg hstopped] at hgenerations ⊢
    -- The queued samples are settled as taken.
    refine ⟨⟨settled ++ backend.queue.map fun sample => (true,backend.activeGeneration,sample),?_,?_,?_⟩,fun _ => rfl,
      fun hdrained => absurd (h.drained hdrained).1 hstopped,h.confirmed,?_,published_snoc h.published (by simp),
      generations_snoc h.generations (hgenerations hstopped),h.each.snoc fun hcycle => ?_⟩
    · rw [enqueuedSamples,List.flatMap_append]
      show enqueuedSamples history ++ [] = _
      rw [hsettled.enqueued]
      simp [Function.comp_def]
    · rw [outputSamples,List.flatMap_append]
      show outputSamples history ++ outputSamples [_] = _
      rw [hsettled.output]
      simp [outputSamples,List.filter_map,Function.comp_def]
    · rw [hsettled.discarded,List.filter_append,List.length_append]
      simp [List.filter_map,Function.comp_def]
    · rw [cycle_snoc,h.cycle]
    · rw [h.cycle,if_neg hstopped] at hcycle
      cases hcycle

/-- An operation that is refused changes nothing and tells nothing. -/
lemma Runs.ifAccepted (h : Runs history backend) {result : Bool × MusicPcmBackend α} {event : MusicPcmEvent α}
    (hrefused : result.1 ≠ true → result.2 = backend)
    (haccepted : result.1 = true → Runs (history ++ [event]) result.2) :
    Runs (history ++ (ifAccepted result event).2) (Music.ifAccepted result event).1 := by
  unfold Music.ifAccepted
  by_cases hresult : result.1 = true
  · rw [if_pos hresult]
    exact haccepted hresult
  · rw [if_neg hresult,hrefused hresult,List.append_nil]
    exact h

lemma refused_keeps {refused : Prop} [Decidable refused] {next : MusicPcmBackend α}
    (h : (if refused then (false,backend) else (true,next)).1 ≠ true) :
    (if refused then (false,backend) else (true,next)).2 = backend := by
  split_ifs at h ⊢
  · rfl
  · exact absurd rfl h

lemma Runs.step (h : Runs history backend) (operation : MusicPcmOperation α) :
    Runs (history ++ (backend.step operation).2) (backend.step operation).1 := by
  cases operation with
  | enqueue generation samples => exact h.ifAccepted refused_keeps h.enqueue
  | stopDeliveries requestFrame => exact h.ifAccepted refused_keeps h.stopDeliveries
  | invalidateAndDrain generation => exact h.ifAccepted refused_keeps h.invalidateAndDrain
  | confirmDrained confirmationFrame => exact h.ifAccepted refused_keeps h.confirmDrained
  | publishGeneration generation boundary => exact h.ifAccepted refused_keeps h.publishGeneration
  | rollback generation => exact h.ifAccepted refused_keeps h.rollback
  | consume => exact h.consume

lemma runs (operations : List (MusicPcmOperation α)) :
    Runs (emitted MusicPcmBackend.step {} operations) (final MusicPcmBackend.step {} operations) := by
  induction operations using List.reverseRecOn with
  | nil =>
    exact ⟨⟨[],rfl,rfl,rfl⟩,fun _ => rfl,fun hdrained => (by cases hdrained),
      fun hconfirmed => (by cases hconfirmed),rfl,
      fun _ _ hmem => (by cases hmem),List.Pairwise.nil,each_nil⟩
  | append_singleton operations operation ih =>
    rw [emitted_append,final_append,emitted_cons,emitted_nil,List.append_nil]
    exact ih.step operation

/-- What is settled is, with what is queued, everything that was enqueued: the samples that came out keep their
generation and their order. -/
lemma Settled.output_sublist {settled : List (Bool × ℕ × α)} (h : Settled history backend settled) :
    (outputSamples history).Sublist (enqueuedSamples history) := by
  rw [h.output,h.enqueued]
  exact (List.filter_sublist.map _).trans (List.sublist_append_left _ _)

lemma Settled.count {settled : List (Bool × ℕ × α)} (h : Settled history backend settled) :
    (enqueuedSamples history).length =
      (outputSamples history).length + (settled.filter fun sample => !sample.1).length + backend.queue.length := by
  rw [h.enqueued,h.output,List.length_append,List.length_map,List.length_map,List.length_map,
    List.length_eq_length_filter_add fun sample => sample.1]

/-- After any operations, each sample enqueued came out under its own generation and in its order, was discarded or is
queued; nothing came out in a stop, nor of a generation before one published. -/
theorem musicPcm_generations (operations : List (MusicPcmOperation α)) :
    let history := emitted MusicPcmBackend.step {} operations
    let backend := final MusicPcmBackend.step {} operations
    (∃ settled, Settled history backend settled ∧ (outputSamples history).Sublist (enqueuedSamples history) ∧
      (enqueuedSamples history).length =
        (outputSamples history).length + (settled.filter fun sample => !sample.1).length + backend.queue.length) ∧
    history.Pairwise InGenerations ∧ Each InCycle history := by
  have h := runs operations
  obtain ⟨settled,hsettled⟩ := h.settled
  exact ⟨⟨settled,hsettled,hsettled.output_sublist,hsettled.count⟩,h.generations,h.each⟩

end History
end AytherRuntime.Music
