import AytherRuntime.Library.History
import AytherRuntime.Library.Machine
import AytherRuntime.Observation.Bridge
import Mathlib.Algebra.BigOperators.Group.Finset.Piecewise
import Mathlib.Algebra.Order.Ring.Nat
import Mathlib.Tactic.Linarith

/-! The accounting of an observation bridge, on which the detection of losses rests, under every interleaving of its
producers, its consumer and its closing. -/
namespace AytherRuntime.Observation
open Finset History Machine

variable {φ : Type}

namespace ProducerStep

/-- A call that has not come to its counter yet. -/
def inFlight : ProducerStep φ → ℕ
  | .idle | .enqueued _ | .countedFull => 0
  | _ => 1

/-- A call that holds a place of its producer beside the queue. -/
def ownHeld : ProducerStep φ → ℕ
  | .reservedOwn _ | .reserved _ _ | .refused _ | .releasedTotal _ => 1
  | _ => 0

def totalHeld : ProducerStep φ → ℕ
  | .reserved _ _ | .refused _ => 1
  | _ => 0

/-- A call whose fact names a producer of the bridge. -/
def Slotted : ProducerStep φ → Prop
  | .idle | .attempted _ => False
  | _ => True

/-- A call whose fact was accepted and is not counted as enqueued yet. -/
def uncounted : ProducerStep φ → ℕ
  | .accepted _ => 1
  | _ => 0

end ProducerStep

namespace ConsumerStep

def ownHeld (index : ℕ) : ConsumerStep → ℕ
  | .delivered other _ | .counted other _ | .releasedTotal other _ => if other = index then 1 else 0
  | _ => 0

def totalHeld : ConsumerStep → ℕ
  | .delivered _ _ | .counted _ _ => 1
  | _ => 0

def uncounted : ConsumerStep → ℕ
  | .delivered _ _ => 1
  | _ => 0

/-- The call stands before its delivery. -/
def Searching : ConsumerStep → Prop
  | .delivered _ _ | .counted _ _ | .releasedTotal _ _ => False
  | _ => True

lemma Searching.weights {step : ConsumerStep} (h : step.Searching) :
    (∀ index, step.ownHeld index = 0) ∧ step.totalHeld = 0 ∧ step.uncounted = 0 := by
  cases step with
  | delivered => exact h.elim
  | counted => exact h.elim
  | releasedTotal => exact h.elim
  | _ => exact ⟨fun _ => rfl,rfl,rfl⟩

end ConsumerStep

section Counts
variable (shape : BridgeShape) (bridge : RuntimeObservationBridge φ)

/-- The calls of the producers that came to a counter. -/
def settledCalls : ℕ :=
  bridge.enqueuedFact + bridge.invalidProducer + bridge.invalidFact + bridge.fullFact + bridge.closedFact

def queuedFacts : ℕ := ∑ index ∈ range shape.producerSlots, (bridge.queue (shape.laneAt index)).length

def overProducers (weight : ProducerStep φ → ℕ) : ℕ :=
  ∑ producer ∈ range producerIdentities, weight (bridge.producers producer)

/-- The counters against the calls that are under way and the facts that are queued. -/
structure Counts : Prop where
  attempted : bridge.attemptedFact = settledCalls bridge + overProducers bridge ProducerStep.inFlight
  enqueued : bridge.enqueuedFact + overProducers bridge ProducerStep.uncounted =
    bridge.consumedFact + bridge.consumer.uncounted + queuedFacts shape bridge
  total : bridge.currentFactOccupancy =
    queuedFacts shape bridge + overProducers bridge ProducerStep.totalHeld + bridge.consumer.totalHeld
  own : ∀ index < shape.producerSlots, bridge.currentFactOccupancyByProducer index =
    (bridge.queue (shape.laneAt index)).length + (bridge.producers (index + 1)).ownHeld + bridge.consumer.ownHeld index
  strangers : ∀ producer, producer = 0 ∨ shape.producerSlots < producer →
    bridge.producers producer = .idle ∨ ∃ fact, bridge.producers producer = .attempted fact
  outside : ∀ producer, producerIdentities ≤ producer → bridge.producers producer = .idle

variable {shape bridge}

lemma Counts.within (h : Counts shape bridge) {producer : ℕ} {step : ProducerStep φ}
    (hstep : bridge.producers producer = step) (hcall : step ≠ .idle) : producer < producerIdentities := by
  by_contra hle
  exact hcall (hstep.symm.trans (h.outside producer (by omega)))

lemma Counts.slot (h : Counts shape bridge) {producer : ℕ} {step : ProducerStep φ}
    (hstep : bridge.producers producer = step) (hslotted : step.Slotted) :
    producer < producerIdentities ∧ 0 < producer ∧ producer ≤ shape.producerSlots := by
  refine ⟨h.within hstep fun hidle => ?_,?_⟩
  · rw [hidle] at hslotted
    exact hslotted
  · by_contra hnot
    rcases h.strangers producer (by omega) with hfound | ⟨fact,hfound⟩
    · rw [← hstep,hfound] at hslotted
      exact hslotted
    · rw [← hstep,hfound] at hslotted
      exact hslotted

lemma queue_setQueue (index other : ℕ) (facts : List (EngineFact φ)) :
    (bridge.setQueue (shape.laneAt index) facts).queue (shape.laneAt other) =
      if other = index then facts else bridge.queue (shape.laneAt other) := by
  unfold RuntimeObservationBridge.setQueue
  dsimp only
  split_ifs with hsame
  · rw [hsame,Function.update_self]
  · exact Function.update_of_ne (fun hlane => hsame (shape.laneAt_injective hlane)) _ _

/-- A sum over the first places of a function that is changed at one of them. -/
lemma sum_weight_update {ι : Type*} {places place : ℕ} (h : place < places) (weight : ι → ℕ) (f : ℕ → ι) (value : ι) :
    (∑ i ∈ range places, weight (Function.update f place value i)) + weight (f place) =
      (∑ i ∈ range places, weight (f i)) + weight value := by
  have hcomp : ∀ i, weight (Function.update f place value i) =
      Function.update (fun i => weight (f i)) place (weight value) i :=
    fun i => congrFun (Function.comp_update weight f place value) i
  rw [sum_congr rfl fun i _ => hcomp i,sum_update_of_mem (mem_range.mpr h),
    sum_eq_sum_sdiff_singleton_add (mem_range.mpr h) fun i => weight (f i)]
  omega

lemma queuedFacts_setQueue {index : ℕ} (hindex : index < shape.producerSlots) (facts : List (EngineFact φ)) :
    queuedFacts shape (bridge.setQueue (shape.laneAt index) facts) + (bridge.queue (shape.laneAt index)).length =
      queuedFacts shape bridge + facts.length := by
  have hlength : ∀ other, ((bridge.setQueue (shape.laneAt index) facts).queue (shape.laneAt other)).length =
      (Function.update (fun other => bridge.queue (shape.laneAt other)) index facts other).length := by
    intro other
    rw [queue_setQueue,Function.update_apply]
  unfold queuedFacts
  rw [sum_congr rfl fun other _ => hlength other]
  exact sum_weight_update hindex List.length (fun other => bridge.queue (shape.laneAt other)) facts

/-- A step of a producer that moves the counters, its call and the queues together. -/
lemma Counts.produce (h : Counts shape bridge) {producer : ℕ} {next : ProducerStep φ}
    {after : RuntimeObservationBridge φ} (hidentity : producer < producerIdentities)
    (hconsumer : after.consumer = bridge.consumer ∧ after.consumedFact = bridge.consumedFact)
    (hproducers : after.producers = Function.update bridge.producers producer next)
    (hattempted : after.attemptedFact + settledCalls bridge + (bridge.producers producer).inFlight =
      bridge.attemptedFact + settledCalls after + next.inFlight)
    (henqueued : after.enqueuedFact + next.uncounted + queuedFacts shape bridge =
      bridge.enqueuedFact + (bridge.producers producer).uncounted + queuedFacts shape after)
    (htotal : after.currentFactOccupancy + queuedFacts shape bridge + (bridge.producers producer).totalHeld =
      bridge.currentFactOccupancy + queuedFacts shape after + next.totalHeld)
    (hown : ∀ index < shape.producerSlots,
      after.currentFactOccupancyByProducer index + (bridge.queue (shape.laneAt index)).length +
          (if index + 1 = producer then (bridge.producers producer).ownHeld else 0 : ℕ) =
        bridge.currentFactOccupancyByProducer index + (after.queue (shape.laneAt index)).length +
          (if index + 1 = producer then next.ownHeld else 0 : ℕ))
    (hstranger : producer = 0 ∨ shape.producerSlots < producer → next = .idle ∨ ∃ fact, next = .attempted fact) :
    Counts shape after := by
  have hsum : ∀ weight : ProducerStep φ → ℕ, overProducers after weight + weight (bridge.producers producer) =
      overProducers bridge weight + weight next := by
    intro weight
    unfold overProducers
    rw [hproducers]
    exact sum_weight_update hidentity weight bridge.producers next
  refine ⟨?_,?_,?_,fun index hindex => ?_,fun other hother => ?_,fun other hother => ?_⟩
  · have hflight := hsum ProducerStep.inFlight
    have hbefore := h.attempted
    omega
  · have huncounted := hsum ProducerStep.uncounted
    have hbefore := h.enqueued
    rw [hconsumer.1,hconsumer.2]
    omega
  · have hheld := hsum ProducerStep.totalHeld
    have hbefore := h.total
    rw [hconsumer.1]
    omega
  · have hbefore := h.own index hindex
    have hmoved := hown index hindex
    rw [hconsumer.1,hproducers]
    by_cases hsame : index + 1 = producer
    · subst hsame
      rw [if_pos rfl,if_pos rfl] at hmoved
      rw [Function.update_self]
      omega
    · rw [if_neg hsame,if_neg hsame] at hmoved
      rw [Function.update_of_ne hsame]
      omega
  · rw [hproducers]
    by_cases hsame : other = producer
    · rw [hsame] at hother ⊢
      rw [Function.update_self]
      exact hstranger hother
    · rw [Function.update_of_ne hsame]
      exact h.strangers other hother
  · rw [hproducers,Function.update_of_ne (by omega)]
    exact h.outside other hother

/-- A step of a producer that moves its counters and its call alone. -/
lemma Counts.advance (h : Counts shape bridge) {producer : ℕ} {next : ProducerStep φ}
    {after : RuntimeObservationBridge φ} (hidentity : producer < producerIdentities)
    (hqueue : after.queue = bridge.queue)
    (hconsumer : after.consumer = bridge.consumer ∧ after.consumedFact = bridge.consumedFact)
    (hproducers : after.producers = Function.update bridge.producers producer next)
    (hattempted : after.attemptedFact + settledCalls bridge + (bridge.producers producer).inFlight =
      bridge.attemptedFact + settledCalls after + next.inFlight)
    (henqueued : after.enqueuedFact + next.uncounted = bridge.enqueuedFact + (bridge.producers producer).uncounted)
    (htotal : after.currentFactOccupancy + (bridge.producers producer).totalHeld =
      bridge.currentFactOccupancy + next.totalHeld)
    (hown : ∀ index < shape.producerSlots, after.currentFactOccupancyByProducer index +
          (if index + 1 = producer then (bridge.producers producer).ownHeld else 0 : ℕ) =
        bridge.currentFactOccupancyByProducer index + (if index + 1 = producer then next.ownHeld else 0 : ℕ))
    (hstranger : producer = 0 ∨ shape.producerSlots < producer → next = .idle ∨ ∃ fact, next = .attempted fact) :
    Counts shape after := by
  have hqueued : queuedFacts shape after = queuedFacts shape bridge := by
    unfold queuedFacts
    rw [hqueue]
  refine h.produce hidentity hconsumer hproducers hattempted ?_ ?_ (fun index hindex => ?_) hstranger
  · rw [hqueued]
    omega
  · rw [hqueued]
    omega
  · have hmoved := hown index hindex
    rw [hqueue]
    omega

lemma Counts.callReceiveFact (h : Counts shape bridge) (producer : ℕ) (fact : φ) :
    Counts shape (bridge.callReceiveFact producer fact).1 := by
  unfold RuntimeObservationBridge.callReceiveFact
  split_ifs with hcall
  · obtain ⟨hidentity,hidle⟩ := hcall
    have hidle : bridge.producers producer = .idle := by
      cases hstep : bridge.producers producer <;> simp [hstep] at hidle
      rfl
    refine h.advance hidentity rfl ⟨rfl,rfl⟩ rfl ?_ ?_ ?_ (fun index _ => ?_) fun _ => Or.inr ⟨fact,rfl⟩
    · rw [hidle]
      simp only [ProducerStep.inFlight,settledCalls,RuntimeObservationBridge.setProducer]
      omega
    · rw [hidle]
      rfl
    · rw [hidle]
      rfl
    · rw [hidle]
      rfl
  · exact h

lemma addOwnOccupancy_apply {producer : ℕ} (hproducer : 0 < producer) (amount : ℤ) (index : ℕ) :
    (bridge.addOwnOccupancy (producer - 1) amount).currentFactOccupancyByProducer index =
      bridge.currentFactOccupancyByProducer index + if index + 1 = producer then amount else 0 := by
  unfold RuntimeObservationBridge.addOwnOccupancy
  dsimp only
  by_cases hsame : index + 1 = producer
  · subst hsame
    rw [if_pos rfl,Nat.add_sub_cancel,Function.update_self]
  · rw [if_neg hsame,Function.update_of_ne (by omega),add_zero]

/-- A fact that is accepted moves its place from its call to the queue of its producer. -/
lemma Counts.push (h : Counts shape bridge) {producer : ℕ} {fact : φ} {occupancy : ℤ}
    (hstep : bridge.producers producer = .reserved fact occupancy) (pushed : EngineFact φ) :
    Counts shape ((bridge.setQueue (shape.laneOf producer)
      (bridge.queue (shape.laneOf producer) ++ [pushed])).setProducer producer (.accepted occupancy)) := by
  obtain ⟨hidentity,hpositive,hslot⟩ := h.slot hstep trivial
  obtain ⟨index,rfl⟩ : ∃ index, producer = index + 1 := ⟨producer - 1,by omega⟩
  rw [shape.laneOf_succ]
  have hqueued := @queuedFacts_setQueue φ shape bridge index hslot (bridge.queue (shape.laneAt index) ++ [pushed])
  rw [List.length_append,List.length_singleton] at hqueued
  have hsame : queuedFacts shape ((bridge.setQueue (shape.laneAt index)
      (bridge.queue (shape.laneAt index) ++ [pushed])).setProducer (index + 1) (.accepted occupancy)) =
      queuedFacts shape bridge + 1 := Nat.add_right_cancel (hqueued.trans (by omega))
  refine h.produce hidentity ⟨rfl,rfl⟩ rfl ?_ ?_ ?_ (fun other _ => ?_) fun hstranger => by omega
  · rw [hstep]
    rfl
  · rw [hstep,hsame]
    simp only [ProducerStep.uncounted,RuntimeObservationBridge.setProducer,RuntimeObservationBridge.setQueue]
    omega
  · rw [hstep,hsame]
    simp only [ProducerStep.totalHeld,RuntimeObservationBridge.setProducer,RuntimeObservationBridge.setQueue]
    omega
  · have hqueue := @queue_setQueue φ shape bridge index other (bridge.queue (shape.laneAt index) ++ [pushed])
    rw [hstep]
    simp only [ProducerStep.ownHeld,RuntimeObservationBridge.setProducer,RuntimeObservationBridge.setQueue] at hqueue ⊢
    rw [hqueue]
    by_cases hother : other = index
    · rw [if_pos (congrArg Nat.succ hother),if_pos (congrArg Nat.succ hother),if_pos hother,hother,List.length_append,
        List.length_singleton]
      omega
    · have hproducer : ¬other + 1 = index + 1 := by omega
      rw [if_neg hproducer,if_neg hproducer,if_neg hother]

lemma Counts.receiveFact (h : Counts shape bridge) (producer : ℕ) (answer : FactPushResult) :
    Counts shape (bridge.receiveFact shape producer answer).1 := by
  unfold RuntimeObservationBridge.receiveFact
  cases hstep : bridge.producers producer with
  | idle => exact h
  | attempted fact =>
    have hidentity := h.within hstep fun hidle => by cases hidle
    dsimp only
    split_ifs with hstranger
    · refine h.advance hidentity rfl ⟨rfl,rfl⟩ rfl ?_ ?_ ?_ (fun index _ => ?_) fun _ => Or.inl rfl
      all_goals rw [hstep]
      · simp only [ProducerStep.inFlight,settledCalls,RuntimeObservationBridge.setProducer]
        omega
      all_goals rfl
    · refine h.advance hidentity rfl ⟨rfl,rfl⟩ rfl ?_ ?_ ?_ (fun index _ => ?_) fun hnot => absurd hnot hstranger
      all_goals rw [hstep]
      · rfl
      · rfl
      · rfl
      · have hadded := @addOwnOccupancy_apply φ bridge producer (by omega) 1 index
        simp only [ProducerStep.ownHeld,RuntimeObservationBridge.setProducer]
        rw [hadded]
        split_ifs <;> omega
  | reservedOwn fact =>
    obtain ⟨hidentity,hpositive,hslot⟩ := h.slot hstep trivial
    refine h.advance hidentity rfl ⟨rfl,rfl⟩ rfl ?_ ?_ ?_ (fun index _ => ?_) fun hstranger => by omega
    all_goals rw [hstep]
    · rfl
    · rfl
    · simp only [ProducerStep.totalHeld,RuntimeObservationBridge.setProducer,RuntimeObservationBridge.addOccupancy]
      omega
    · rfl
  | reserved fact occupancy =>
    cases answer with
    | accepted =>
      unfold RuntimeObservationBridge.tryPush
      dsimp only
      split_ifs with hfull
      · exact h
      · exact h.push hstep ⟨producer,fact⟩
    | refused refusal =>
      obtain ⟨hidentity,hpositive,hslot⟩ := h.slot hstep trivial
      refine h.advance hidentity rfl ⟨rfl,rfl⟩ rfl ?_ ?_ ?_ (fun index _ => ?_) fun hstranger => by omega
      all_goals rw [hstep]
      all_goals rfl
  | accepted occupancy =>
    obtain ⟨hidentity,hpositive,hslot⟩ := h.slot hstep trivial
    refine h.advance hidentity rfl ⟨rfl,rfl⟩ rfl ?_ ?_ ?_ (fun index _ => ?_) fun hstranger => by omega
    all_goals rw [hstep]
    · simp only [ProducerStep.inFlight,settledCalls,RuntimeObservationBridge.setProducer]
      omega
    · rfl
    · rfl
    · rfl
  | enqueued occupancy =>
    obtain ⟨hidentity,hpositive,hslot⟩ := h.slot hstep trivial
    refine h.advance hidentity rfl ⟨rfl,rfl⟩ rfl ?_ ?_ ?_ (fun index _ => ?_) fun hstranger => by omega
    all_goals rw [hstep]
    all_goals rfl
  | refused refusal =>
    obtain ⟨hidentity,hpositive,hslot⟩ := h.slot hstep trivial
    refine h.advance hidentity rfl ⟨rfl,rfl⟩ rfl ?_ ?_ ?_ (fun index _ => ?_) fun hstranger => by omega
    all_goals rw [hstep]
    · rfl
    · rfl
    · simp only [ProducerStep.totalHeld,RuntimeObservationBridge.setProducer,RuntimeObservationBridge.addOccupancy]
      omega
    · rfl
  | releasedTotal refusal =>
    obtain ⟨hidentity,hpositive,hslot⟩ := h.slot hstep trivial
    refine h.advance hidentity rfl ⟨rfl,rfl⟩ rfl ?_ ?_ ?_ (fun index _ => ?_) fun hstranger => by omega
    all_goals rw [hstep]
    · rfl
    · rfl
    · rfl
    · have hadded := @addOwnOccupancy_apply φ bridge producer hpositive (-1) index
      simp only [ProducerStep.ownHeld,RuntimeObservationBridge.setProducer]
      rw [hadded]
      split_ifs <;> omega
  | released refusal =>
    obtain ⟨hidentity,hpositive,hslot⟩ := h.slot hstep trivial
    cases refusal with
    | _ =>
      refine h.advance hidentity rfl ⟨rfl,rfl⟩ rfl ?_ ?_ ?_ (fun index _ => ?_) fun hstranger => by omega
      all_goals rw [hstep]
      · simp only [ProducerStep.inFlight,settledCalls,RuntimeObservationBridge.setProducer]
        omega
      all_goals rfl
  | countedFull =>
    obtain ⟨hidentity,hpositive,hslot⟩ := h.slot hstep trivial
    refine h.advance hidentity rfl ⟨rfl,rfl⟩ rfl ?_ ?_ ?_ (fun index _ => ?_) fun hstranger => by omega
    all_goals rw [hstep]
    all_goals rfl

/-- A step of the consumer that moves the counters, its call and the queues together. -/
lemma Counts.consume (h : Counts shape bridge) {after : RuntimeObservationBridge φ}
    (hproducers : after.producers = bridge.producers)
    (hcalls : after.attemptedFact = bridge.attemptedFact ∧ after.enqueuedFact = bridge.enqueuedFact ∧
      settledCalls after = settledCalls bridge)
    (hconsumed : after.consumedFact + after.consumer.uncounted + queuedFacts shape after =
      bridge.consumedFact + bridge.consumer.uncounted + queuedFacts shape bridge)
    (htotal : after.currentFactOccupancy + queuedFacts shape bridge + bridge.consumer.totalHeld =
      bridge.currentFactOccupancy + queuedFacts shape after + after.consumer.totalHeld)
    (hown : ∀ index < shape.producerSlots,
      after.currentFactOccupancyByProducer index + (bridge.queue (shape.laneAt index)).length +
          bridge.consumer.ownHeld index =
        bridge.currentFactOccupancyByProducer index + (after.queue (shape.laneAt index)).length +
          after.consumer.ownHeld index) : Counts shape after := by
  have hsum : ∀ weight : ProducerStep φ → ℕ, overProducers after weight = overProducers bridge weight := by
    intro weight
    unfold overProducers
    rw [hproducers]
  refine ⟨?_,?_,?_,fun index hindex => ?_,?_,?_⟩
  · rw [hcalls.1,hcalls.2.2,hsum]
    exact h.attempted
  · have hbefore := h.enqueued
    rw [hcalls.2.1,hsum]
    omega
  · have hbefore := h.total
    rw [hsum]
    omega
  · have hbefore := h.own index hindex
    have hmoved := hown index hindex
    rw [hproducers]
    omega
  · rw [hproducers]
    exact h.strangers
  · rw [hproducers]
    exact h.outside

/-- A step of the consumer that looks for a fact. -/
lemma Counts.search (h : Counts shape bridge) (hsearching : bridge.consumer.Searching) (drain count : ℕ)
    {next : ConsumerStep} (hnext : next.Searching) :
    Counts shape { bridge with drainFact := drain, drainFactCount := count, consumer := next } := by
  obtain ⟨hown,htotal,huncounted⟩ := hsearching.weights
  obtain ⟨hown',htotal',huncounted'⟩ := hnext.weights
  refine h.consume rfl ⟨rfl,rfl,rfl⟩ ?_ ?_ fun index _ => ?_
  · rw [huncounted,huncounted']
    rfl
  · rw [htotal,htotal']
    rfl
  · rw [hown,hown']

/-- A fact that is delivered moves its place from the queue to the call of the consumer. -/
lemma Counts.pop (h : Counts shape bridge) (hsearching : bridge.consumer.Searching) {index : ℕ}
    (hindex : index < shape.producerSlots) {fact : EngineFact φ} {facts : List (EngineFact φ)}
    (hqueue : bridge.queue (shape.laneAt index) = fact :: facts) (drained : Bool) :
    Counts shape ((bridge.setQueue (shape.laneAt index) facts).setConsumer (.delivered index drained)) := by
  obtain ⟨hown,htotal,huncounted⟩ := hsearching.weights
  have hqueued := @queuedFacts_setQueue φ shape bridge index hindex facts
  rw [hqueue,List.length_cons] at hqueued
  have hless : queuedFacts shape ((bridge.setQueue (shape.laneAt index) facts).setConsumer (.delivered index drained)) +
      1 = queuedFacts shape bridge := Nat.add_right_cancel ((Nat.add_right_comm _ _ _).trans hqueued)
  refine h.consume rfl ⟨rfl,rfl,rfl⟩ ?_ ?_ fun other _ => ?_
  · rw [huncounted,← hless]
    simp only [RuntimeObservationBridge.setConsumer,RuntimeObservationBridge.setQueue,ConsumerStep.uncounted]
    omega
  · rw [htotal,← hless]
    simp only [RuntimeObservationBridge.setConsumer,RuntimeObservationBridge.setQueue,ConsumerStep.totalHeld]
    omega
  · have hafter := @queue_setQueue φ shape bridge index other facts
    rw [hown]
    simp only [RuntimeObservationBridge.setConsumer,RuntimeObservationBridge.setQueue,ConsumerStep.ownHeld] at hafter ⊢
    rw [hafter]
    by_cases hsame : other = index
    · rw [if_pos hsame,if_pos hsame.symm,hsame,hqueue,List.length_cons]
      omega
    · rw [if_neg hsame,if_neg fun hindex => hsame hindex.symm]

/-- The steps of the consumer after a delivery. -/
lemma Counts.settle (h : Counts shape bridge) (hdelivered : ¬bridge.consumer.Searching) :
    Counts shape (bridge.tryConsumeFact shape).1 := by
  unfold RuntimeObservationBridge.tryConsumeFact
  cases hstep : bridge.consumer with
  | delivered index drained =>
    refine h.consume rfl ⟨rfl,rfl,rfl⟩ ?_ ?_ fun other _ => ?_
    all_goals rw [hstep]
    · simp only [ConsumerStep.uncounted,RuntimeObservationBridge.setConsumer]
      rfl
    all_goals rfl
  | counted index drained =>
    refine h.consume rfl ⟨rfl,rfl,rfl⟩ ?_ ?_ fun other _ => ?_
    all_goals rw [hstep]
    · rfl
    · have hqueued : queuedFacts shape ((bridge.addOccupancy (-1)).setConsumer (.releasedTotal index drained)) =
          queuedFacts shape bridge := rfl
      rw [hqueued]
      simp only [ConsumerStep.totalHeld,RuntimeObservationBridge.setConsumer,RuntimeObservationBridge.addOccupancy]
      omega
    · rfl
  | releasedTotal index drained =>
    have hreleased : ∀ other, Function.update bridge.currentFactOccupancyByProducer index
        (bridge.currentFactOccupancyByProducer index + -1) other +
          (if index = other then 1 else 0 : ℕ) = bridge.currentFactOccupancyByProducer other := by
      intro other
      by_cases hsame : index = other
      · rw [hsame,Function.update_self,if_pos rfl]
        omega
      · rw [Function.update_of_ne (Ne.symm hsame),if_neg hsame]
        exact Int.add_zero _
    dsimp only
    split_ifs with hdrained
    all_goals
      refine h.consume rfl ⟨rfl,rfl,rfl⟩ ?_ ?_ fun other _ => ?_
      all_goals rw [hstep]
      · rfl
      · rfl
      · have hother := hreleased other
        simp only [ConsumerStep.ownHeld,RuntimeObservationBridge.setConsumer,RuntimeObservationBridge.addOwnOccupancy]
        omega
  | _ =>
    rw [hstep] at hdelivered
    exact absurd trivial hdelivered

end Counts
end AytherRuntime.Observation
