import AytherRuntime.Observation.Occupancy
import Mathlib.Algebra.BigOperators.Ring.Finset

/-! The facts of an observation bridge are delivered once and in order, and the consumer gives up only after it found
each queue empty. -/
namespace AytherRuntime.Observation
open Finset History Machine

variable {φ : Type}

/-- The facts of a producer that a queue accepted, in order. -/
def acceptedOf (producer : ℕ) (log : List (BridgeEvent φ)) : List (EngineFact φ) :=
  log.filterMap fun
    | .accepted fact => if fact.producer = producer then some fact else none
    | _ => none

/-- The facts of a producer that the consumer was given, in order. -/
def deliveredOf (producer : ℕ) (log : List (BridgeEvent φ)) : List (EngineFact φ) :=
  log.filterMap fun
    | .delivered _ fact => if fact.producer = producer then some fact else none
    | _ => none

/-- The latest call of the consumer: whether it could be served and the queues that it found empty. -/
structure ConsumerCall where
  served : Bool := false
  tried : List ℕ := []

def ConsumerCall.next (call : ConsumerCall) : BridgeEvent φ → ConsumerCall
  | .called served => ⟨served,[]⟩
  | .foundEmpty index => { call with tried := call.tried ++ [index] }
  | _ => call

def lastCall (log : List (BridgeEvent φ)) : ConsumerCall := log.foldl ConsumerCall.next {}

/-- A fact delivered is the first one accepted of its producer that was not delivered before. A queue found empty has
delivered all that it accepted, and a call that could be served ends without a fact after it found each queue empty. -/
def InBridge (shape : BridgeShape) (before : List (BridgeEvent φ)) : BridgeEvent φ → Prop
  | .accepted fact => 0 < fact.producer ∧ fact.producer ≤ shape.producerSlots
  | .called _ => True
  | .delivered index fact => index < shape.producerSlots ∧ fact.producer = index + 1 ∧
      ∃ later, acceptedOf fact.producer before = deliveredOf fact.producer before ++ fact :: later
  | .foundEmpty index =>
    index < shape.producerSlots ∧ acceptedOf (index + 1) before = deliveredOf (index + 1) before
  | .returned consumed => consumed = false → (lastCall before).served = true →
      ∀ index < shape.producerSlots, index ∈ (lastCall before).tried

section Log
variable {log : List (BridgeEvent φ)} {event : BridgeEvent φ}

lemma acceptedOf_snoc (producer : ℕ) : acceptedOf producer (log ++ [event]) =
    acceptedOf producer log ++ acceptedOf producer [event] := List.filterMap_append

lemma deliveredOf_snoc (producer : ℕ) : deliveredOf producer (log ++ [event]) =
    deliveredOf producer log ++ deliveredOf producer [event] := List.filterMap_append

lemma lastCall_snoc : lastCall (log ++ [event]) = (lastCall log).next event := by
  unfold lastCall
  rw [List.foldl_append]
  rfl

lemma producer_of_mem_acceptedOf {producer : ℕ} {fact : EngineFact φ} (h : fact ∈ acceptedOf producer log) :
    fact.producer = producer := by
  obtain ⟨event,_,hfact⟩ := List.mem_filterMap.mp h
  cases event with
  | accepted other =>
    dsimp only at hfact
    split_ifs at hfact with hproducer
    rw [← Option.some.inj hfact]
    exact hproducer
  | _ => cases hfact

/-- An event that moves no fact. -/
def BridgeEvent.Quiet : BridgeEvent φ → Prop
  | .accepted _ | .delivered _ _ => False
  | _ => True

lemma BridgeEvent.Quiet.moves (h : event.Quiet) (producer : ℕ) :
    acceptedOf producer [event] = [] ∧ deliveredOf producer [event] = [] := by
  cases event with
  | accepted => exact h.elim
  | delivered => exact h.elim
  | _ => exact ⟨rfl,rfl⟩

end Log

/-- Where the call of the consumer stands, with the queues that it found empty. -/
def Searches (shape : BridgeShape) (bridge : RuntimeObservationBridge φ) (tried : List ℕ) : Prop :=
  match bridge.consumer with
  | .idle => True
  | .drainLoad | .drainTry => bridge.drainFact < shape.producerSlots
  | .scan _ selected => ∀ lane ∈ selected, lane.index < shape.producerSlots
  | .selectedTry selected => selected < shape.producerSlots
  | .fallback offset selected => (∀ index ∈ selected, index < shape.producerSlots ∧ index ∈ tried) ∧
      ∀ past < offset, (bridge.nextFact + past) % shape.producerSlots ∈ tried
  | .delivered index _ | .counted index _ | .releasedTotal index _ => index < shape.producerSlots

/-- A bridge and what happened to it so far. -/
structure Delivers (shape : BridgeShape) (log : List (BridgeEvent φ)) (bridge : RuntimeObservationBridge φ) : Prop where
  counts : Counts shape bridge
  ordered : ∀ index < shape.producerSlots,
    acceptedOf (index + 1) log = deliveredOf (index + 1) log ++ bridge.queue (shape.laneAt index)
  search : Searches shape bridge (lastCall log).tried
  each : Each (InBridge shape) log

section Step
variable {shape : BridgeShape} {log : List (BridgeEvent φ)} {bridge after : RuntimeObservationBridge φ}

lemma Delivers.silent (h : Delivers shape log bridge) (hcounts : Counts shape after)
    (hqueue : after.queue = bridge.queue) (hsearch : Searches shape after (lastCall log).tried) :
    Delivers shape (log ++ []) after := by
  rw [List.append_nil]
  refine ⟨hcounts,fun index hindex => ?_,hsearch,h.each⟩
  rw [hqueue]
  exact h.ordered index hindex

lemma Delivers.mark (h : Delivers shape log bridge) {event : BridgeEvent φ} (hquiet : event.Quiet)
    (hevent : InBridge shape log event) (hcounts : Counts shape after) (hqueue : after.queue = bridge.queue)
    (hsearch : Searches shape after ((lastCall log).next event).tried) : Delivers shape (log ++ [event]) after := by
  refine ⟨hcounts,fun index hindex => ?_,?_,h.each.snoc hevent⟩
  · obtain ⟨haccepted,hdelivered⟩ := hquiet.moves (index + 1)
    rw [acceptedOf_snoc,deliveredOf_snoc,haccepted,hdelivered,List.append_nil,List.append_nil,hqueue]
    exact h.ordered index hindex
  · rw [lastCall_snoc]
    exact hsearch

lemma Delivers.callReceiveFact (h : Delivers shape log bridge) (producer : ℕ) (fact : φ) :
    Delivers shape (log ++ (bridge.callReceiveFact producer fact).2) (bridge.callReceiveFact producer fact).1 := by
  have hcounts := h.counts.callReceiveFact producer fact
  unfold RuntimeObservationBridge.callReceiveFact at hcounts ⊢
  split_ifs at hcounts ⊢ with hcall
  · exact h.silent hcounts rfl h.search
  · exact h.silent hcounts rfl h.search

lemma receiveFact_keeps (producer : ℕ) (answer : FactPushResult) :
    (bridge.receiveFact shape producer answer).1.consumer = bridge.consumer ∧
      (bridge.receiveFact shape producer answer).1.drainFact = bridge.drainFact ∧
      (bridge.receiveFact shape producer answer).1.nextFact = bridge.nextFact := by
  unfold RuntimeObservationBridge.receiveFact RuntimeObservationBridge.tryPush
  cases bridge.producers producer with
  | attempted fact =>
    dsimp only
    split_ifs
    all_goals exact ⟨rfl,rfl,rfl⟩
  | reserved fact occupancy =>
    cases answer with
    | accepted =>
      dsimp only
      split_ifs
      all_goals exact ⟨rfl,rfl,rfl⟩
    | refused => exact ⟨rfl,rfl,rfl⟩
  | released refusal => cases refusal <;> exact ⟨rfl,rfl,rfl⟩
  | _ => exact ⟨rfl,rfl,rfl⟩

/-- A step of a producer moves no fact, or its fact becomes the last of its queue. -/
lemma receiveFact_moves (producer : ℕ) (answer : FactPushResult) :
    ((bridge.receiveFact shape producer answer).2 = [] ∧
        (bridge.receiveFact shape producer answer).1.queue = bridge.queue) ∨
      ∃ fact occupancy, bridge.producers producer = .reserved fact occupancy ∧
        (bridge.receiveFact shape producer answer).2 = [.accepted ⟨producer,fact⟩] ∧
        (bridge.receiveFact shape producer answer).1.queue = (bridge.setQueue (shape.laneOf producer)
          (bridge.queue (shape.laneOf producer) ++ [⟨producer,fact⟩])).queue := by
  unfold RuntimeObservationBridge.receiveFact RuntimeObservationBridge.tryPush
  cases bridge.producers producer with
  | attempted fact =>
    dsimp only
    split_ifs
    all_goals exact Or.inl ⟨rfl,rfl⟩
  | reserved fact occupancy =>
    cases answer with
    | accepted =>
      dsimp only
      split_ifs
      · exact Or.inl ⟨rfl,rfl⟩
      · exact Or.inr ⟨fact,occupancy,rfl,rfl,rfl⟩
    | refused => exact Or.inl ⟨rfl,rfl⟩
  | released refusal => cases refusal <;> exact Or.inl ⟨rfl,rfl⟩
  | _ => exact Or.inl ⟨rfl,rfl⟩

lemma Delivers.receiveFact (h : Delivers shape log bridge) (producer : ℕ) (answer : FactPushResult) :
    Delivers shape (log ++ (bridge.receiveFact shape producer answer).2)
      (bridge.receiveFact shape producer answer).1 := by
  have hcounts := h.counts.receiveFact producer answer
  obtain ⟨hconsumer,hdrain,hnext⟩ := @receiveFact_keeps φ shape bridge producer answer
  have hsearch : Searches shape (bridge.receiveFact shape producer answer).1 (lastCall log).tried := by
    unfold Searches
    rw [hconsumer,hdrain,hnext]
    exact h.search
  rcases @receiveFact_moves φ shape bridge producer answer with ⟨hevents,hqueue⟩ | ⟨fact,occupancy,hstep,hevents,hqueue⟩
  · rw [hevents]
    exact h.silent hcounts hqueue hsearch
  · obtain ⟨_,hpositive,hslot⟩ := h.counts.slot hstep trivial
    obtain ⟨index,rfl⟩ : ∃ index, producer = index + 1 := ⟨producer - 1,by omega⟩
    rw [hevents]
    refine ⟨hcounts,fun other hother => ?_,?_,h.each.snoc ⟨hpositive,hslot⟩⟩
    · have hfacts := @queue_setQueue φ shape bridge index other (bridge.queue (shape.laneAt index) ++
        [⟨index + 1,fact⟩])
      rw [hqueue,shape.laneOf_succ,hfacts,acceptedOf_snoc,deliveredOf_snoc,h.ordered other hother]
      by_cases hsame : other = index
      · subst hsame
        rw [if_pos rfl]
        simp [acceptedOf,deliveredOf]
      · rw [if_neg hsame]
        have hproducer : ¬index = other := fun hindex => hsame hindex.symm
        simp [acceptedOf,deliveredOf,hproducer]
    · rw [lastCall_snoc]
      exact hsearch

/-- A try of a queue delivers its first fact, or finds that it delivered all. -/
lemma Delivers.tryConsumeFactAt (h : Delivers shape log bridge) (hsearching : bridge.consumer.Searching) {index : ℕ}
    (hindex : index < shape.producerSlots) (drained : Bool) {otherwise : RuntimeObservationBridge φ}
    (hcounts : Counts shape otherwise) (hqueue : otherwise.queue = bridge.queue)
    (hsearch : Searches shape otherwise ((lastCall log).tried ++ [index])) :
    Delivers shape (log ++ (bridge.tryConsumeFactAt shape index drained otherwise).2)
      (bridge.tryConsumeFactAt shape index drained otherwise).1 := by
  have hordered := h.ordered index hindex
  unfold RuntimeObservationBridge.tryConsumeFactAt
  cases hfacts : bridge.queue (shape.laneAt index) with
  | nil =>
    rw [hfacts,List.append_nil] at hordered
    exact h.mark trivial ⟨hindex,hordered⟩ hcounts hqueue hsearch
  | cons fact facts =>
    rw [hfacts] at hordered
    have hproducer : fact.producer = index + 1 :=
      producer_of_mem_acceptedOf (hordered ▸ List.mem_append_right _ List.mem_cons_self)
    refine ⟨h.counts.pop hsearching hindex hfacts drained,fun other hother => ?_,?_,
      h.each.snoc ⟨hindex,hproducer,facts,hproducer ▸ hordered⟩⟩
    · have hleft := @queue_setQueue φ shape bridge index other facts
      have hbefore := h.ordered other hother
      simp only [RuntimeObservationBridge.setConsumer]
      rw [hleft,acceptedOf_snoc,deliveredOf_snoc,hbefore]
      by_cases hsame : other = index
      · subst hsame
        rw [if_pos rfl,hfacts]
        simp [acceptedOf,deliveredOf,hproducer]
      · rw [if_neg hsame]
        have hnot : ¬index = other := fun hindex => hsame hindex.symm
        simp [acceptedOf,deliveredOf,hproducer,hnot]
    · exact hindex

lemma Delivers.startScan (h : Delivers shape log bridge) (hsearching : bridge.consumer.Searching) (tried : List ℕ) :
    Counts shape (bridge.startScan shape) ∧ Searches shape (bridge.startScan shape) tried :=
  ⟨h.counts.search hsearching _ _ trivial,fun _ hlane => (by cases hlane)⟩

lemma select_lt {index : ℕ} (hindex : index < shape.producerSlots) {selected : Option SelectedLane}
    (hselected : ∀ lane ∈ selected, lane.index < shape.producerSlots) :
    ∀ lane ∈ bridge.select shape index selected, lane.index < shape.producerSlots := by
  unfold RuntimeObservationBridge.select
  intro lane hlane
  cases selected with
  | none =>
    dsimp only at hlane
    split_ifs at hlane
    · rw [← Option.some.inj hlane]
      exact hindex
    · cases hlane
  | some other =>
    dsimp only at hlane
    split_ifs at hlane
    · rw [← Option.some.inj hlane]
      exact hindex
    · exact hselected lane hlane

/-- The offsets from any queue reach all of them. -/
lemma exists_offset (next : ℕ) {index slots : ℕ} (hindex : index < slots) :
    ∃ offset < slots, (next + offset) % slots = index := by
  have hnext : next % slots < slots := Nat.mod_lt _ (by omega)
  refine ⟨(index + (slots - next % slots)) % slots,Nat.mod_lt _ (by omega),?_⟩
  have hdivided := Nat.div_add_mod next slots
  have hwhole : next + (index + (slots - next % slots)) = index + slots * (next / slots + 1) := by
    rw [Nat.mul_add,Nat.mul_one]
    omega
  rw [Nat.add_mod_mod,hwhole,Nat.add_mul_mod_self_left,Nat.mod_eq_of_lt hindex]

lemma Delivers.tryConsumeFact (h : Delivers shape log bridge) :
    Delivers shape (log ++ (bridge.tryConsumeFact shape).2) (bridge.tryConsumeFact shape).1 := by
  have hsearch := h.search
  have hslots := shape.positive.1
  have hsettle := @Counts.settle φ shape bridge h.counts
  unfold Searches at hsearch
  unfold RuntimeObservationBridge.tryConsumeFact at hsettle ⊢
  cases hstep : bridge.consumer with
  | idle => exact h.silent h.counts rfl h.search
  | drainLoad =>
    have hsearching : bridge.consumer.Searching := hstep ▸ trivial
    obtain ⟨hscanned,hscan⟩ := h.startScan hsearching (lastCall log).tried
    rw [hstep] at hsearch
    dsimp only
    split_ifs
    · exact h.silent (h.counts.search hsearching _ _ trivial) rfl hsearch
    · exact h.silent hscanned rfl hscan
  | drainTry =>
    have hsearching : bridge.consumer.Searching := hstep ▸ trivial
    obtain ⟨hscanned,hscan⟩ := h.startScan hsearching ((lastCall log).tried ++ [bridge.drainFact])
    rw [hstep] at hsearch
    exact h.tryConsumeFactAt hsearching hsearch true hscanned rfl hscan
  | scan offset selected =>
    have hsearching : bridge.consumer.Searching := hstep ▸ trivial
    rw [hstep] at hsearch
    dsimp only
    split_ifs with hoffset
    · exact h.silent (h.counts.search hsearching _ _ trivial) rfl (select_lt (Nat.mod_lt _ hslots) hsearch)
    · cases selected with
      | none =>
        exact h.silent (h.counts.search hsearching _ _ trivial) rfl
          ⟨fun _ hnone => (by cases hnone),fun _ hpast => absurd hpast (Nat.not_lt_zero _)⟩
      | some selected =>
        exact h.silent (h.counts.search hsearching _ _ trivial) rfl (hsearch selected rfl)
  | selectedTry selected =>
    have hsearching : bridge.consumer.Searching := hstep ▸ trivial
    rw [hstep] at hsearch
    refine h.tryConsumeFactAt hsearching hsearch false (h.counts.search hsearching _ _ trivial) rfl
      ⟨fun index hindex => ?_,fun _ hpast => absurd hpast (Nat.not_lt_zero _)⟩
    obtain rfl := Option.some.inj hindex
    exact ⟨hsearch,List.mem_append_right _ List.mem_cons_self⟩
  | fallback offset selected =>
    have hsearching : bridge.consumer.Searching := hstep ▸ trivial
    rw [hstep] at hsearch
    obtain ⟨hselected,hpast⟩ := hsearch
    dsimp only
    split_ifs with hoffset hsame
    · refine h.silent (h.counts.search hsearching _ _ trivial) rfl ⟨hselected,fun past hless => ?_⟩
      rcases Nat.lt_succ_iff_lt_or_eq.mp hless with hbefore | rfl
      · exact hpast past hbefore
      · exact (hselected _ hsame).2
    · refine h.tryConsumeFactAt hsearching (Nat.mod_lt _ hslots) false (h.counts.search hsearching _ _ trivial) rfl
        ⟨fun index hindex => ⟨(hselected index hindex).1,List.mem_append_left _ (hselected index hindex).2⟩,
          fun past hless => ?_⟩
      rcases Nat.lt_succ_iff_lt_or_eq.mp hless with hbefore | rfl
      · exact List.mem_append_left _ (hpast past hbefore)
      · exact List.mem_append_right _ List.mem_cons_self
    · refine h.mark trivial (fun _ _ index hindex => ?_) (h.counts.search hsearching _ _ trivial) rfl trivial
      obtain ⟨past,hless,hreached⟩ := exists_offset bridge.nextFact hindex
      exact hreached ▸ hpast past (by omega)
  | delivered index drained =>
    rw [hstep] at hsearch hsettle
    exact h.silent (hsettle fun hsearching => hsearching) rfl hsearch
  | counted index drained =>
    rw [hstep] at hsearch hsettle
    exact h.silent (hsettle fun hsearching => hsearching) rfl hsearch
  | releasedTotal index drained =>
    rw [hstep] at hsearch hsettle
    dsimp only at hsettle ⊢
    split_ifs at hsettle ⊢ with hdrained
    all_goals
      exact h.mark trivial (fun hconsumed => by cases hconsumed) (hsettle fun hsearching => hsearching) rfl trivial

lemma Delivers.callTryConsumeFact (h : Delivers shape log bridge) (served : Bool) :
    Delivers shape (log ++ (bridge.callTryConsumeFact shape served).2) (bridge.callTryConsumeFact shape served).1 := by
  unfold RuntimeObservationBridge.callTryConsumeFact
  cases hidle : bridge.consumer with
  | idle =>
    have hsearching : bridge.consumer.Searching := hidle ▸ trivial
    have hwaits : Searches shape bridge [] := by
      unfold Searches
      rw [hidle]
      trivial
    cases served with
    | false =>
      have hcalled : Delivers shape (log ++ [BridgeEvent.called false]) bridge :=
        h.mark trivial trivial h.counts rfl hwaits
      have hreturned : Delivers shape (log ++ [BridgeEvent.called false] ++ [BridgeEvent.returned false]) bridge := by
        refine hcalled.mark trivial (fun _ hserved => ?_) h.counts rfl ?_
        · rw [lastCall_snoc] at hserved
          cases hserved
        · rw [lastCall_snoc]
          exact hwaits
      rw [List.append_assoc] at hreturned
      exact hreturned
    | true =>
      have hfree : ¬(!true) = true := Bool.false_ne_true
      dsimp only
      rw [if_neg hfree,if_neg hfree]
      split_ifs with hdrain
      · exact h.mark trivial trivial (h.counts.search hsearching _ _ trivial) rfl hdrain.1
      · obtain ⟨hscanned,hscan⟩ := h.startScan hsearching []
        exact h.mark trivial trivial hscanned rfl hscan
  | _ =>
    have hbusy : (!false) = true := rfl
    dsimp only
    rw [if_pos hbusy]
    exact h.silent h.counts rfl h.search

lemma Delivers.step (h : Delivers shape log bridge) (action : BridgeAction φ) :
    Delivers shape (log ++ (bridge.step shape action).2) (bridge.step shape action).1 := by
  cases action with
  | callReceiveFact producer fact => exact h.callReceiveFact producer fact
  | receiveFact producer answer => exact h.receiveFact producer answer
  | callTryConsumeFact served => exact h.callTryConsumeFact served
  | tryConsumeFact => exact h.tryConsumeFact
  | close lane =>
    exact h.silent (h.counts.consume rfl ⟨rfl,rfl,rfl⟩ rfl rfl fun _ _ => rfl) rfl h.search

lemma Delivers.new (shape : BridgeShape) : Delivers shape [] (.new shape : RuntimeObservationBridge φ) := by
  have hproducers : ∀ weight : ProducerStep φ → ℕ, weight .idle = 0 →
      overProducers (.new shape : RuntimeObservationBridge φ) weight = 0 :=
    fun weight hidle => sum_eq_zero fun _ _ => hidle
  have hqueued : queuedFacts shape (.new shape : RuntimeObservationBridge φ) = 0 := sum_eq_zero fun _ _ => rfl
  refine ⟨⟨?_,?_,?_,fun _ _ => rfl,fun _ _ => Or.inl rfl,fun _ _ => rfl⟩,fun _ _ => rfl,trivial,each_nil⟩
  · rw [hproducers _ rfl]
    rfl
  · rw [hproducers _ rfl,hqueued]
    rfl
  · rw [hproducers _ rfl,hqueued]
    rfl

lemma delivers (shape : BridgeShape) (actions : List (BridgeAction φ)) :
    Delivers shape (emitted (RuntimeObservationBridge.step shape) (.new shape) actions)
      (final (RuntimeObservationBridge.step shape) (.new shape) actions) := by
  induction actions using List.reverseRecOn with
  | nil => exact .new shape
  | append_singleton actions action ih =>
    rw [emitted_append,final_append,emitted_cons,emitted_nil,List.append_nil]
    exact ih.step action

end Step

section Idle
variable {shape : BridgeShape} {bridge : RuntimeObservationBridge φ}

/-- No call of a producer and none of the consumer is in progress. -/
def AtRest (bridge : RuntimeObservationBridge φ) : Prop :=
  (∀ producer, bridge.producers producer = .idle) ∧ bridge.consumer = .idle

lemma Counts.nonneg (h : Counts shape bridge) : 0 ≤ bridge.currentFactOccupancy ∧
    ∀ index < shape.producerSlots, 0 ≤ bridge.currentFactOccupancyByProducer index := by
  refine ⟨?_,fun index hindex => ?_⟩
  · rw [h.total]
    omega
  · rw [h.own index hindex]
    omega

lemma Counts.atRest (h : Counts shape bridge) (hrest : AtRest bridge) :
    bridge.attemptedFact = bridge.enqueuedFact + bridge.invalidProducer + bridge.invalidFact + bridge.fullFact +
        bridge.closedFact ∧
      (bridge.enqueuedFact : ℤ) = bridge.consumedFact + bridge.currentFactOccupancy ∧
      bridge.currentFactOccupancy =
        ∑ index ∈ range shape.producerSlots, bridge.currentFactOccupancyByProducer index := by
  obtain ⟨hproducers,hconsumer⟩ := hrest
  have hnone : ∀ weight : ProducerStep φ → ℕ, weight .idle = 0 → overProducers bridge weight = 0 := by
    intro weight hidle
    refine sum_eq_zero fun producer _ => ?_
    rw [hproducers producer]
    exact hidle
  have hattempted := h.attempted
  have henqueued := h.enqueued
  have htotal := h.total
  rw [hnone _ rfl] at hattempted
  rw [hnone _ rfl,hconsumer] at henqueued
  rw [hnone _ rfl,hconsumer] at htotal
  simp only [ConsumerStep.uncounted,ConsumerStep.totalHeld] at henqueued htotal
  have hown : ∑ index ∈ range shape.producerSlots, bridge.currentFactOccupancyByProducer index =
      (queuedFacts shape bridge : ℤ) := by
    unfold queuedFacts
    rw [Nat.cast_sum]
    refine sum_congr rfl fun index hindex => ?_
    have hplace := h.own index (mem_range.mp hindex)
    rw [hproducers,hconsumer] at hplace
    exact hplace
  refine ⟨hattempted,?_,?_⟩
  · omega
  · rw [hown]
    omega

end Idle

/-- After any interleaving: no occupancy has underflowed, and at rest the counters account for each attempt; producers
share no queue; each fact accepted was delivered, once and in order, or is queued; and what happened, happened in
order. -/
theorem observationBridge_accounts (shape : BridgeShape) (actions : List (BridgeAction φ)) :
    let log := emitted (RuntimeObservationBridge.step shape) (.new shape) actions
    let bridge := final (RuntimeObservationBridge.step shape) (.new shape) actions
    (0 ≤ bridge.currentFactOccupancy ∧
      ∀ index < shape.producerSlots, 0 ≤ bridge.currentFactOccupancyByProducer index) ∧
    (AtRest bridge →
      bridge.attemptedFact = bridge.enqueuedFact + bridge.invalidProducer + bridge.invalidFact + bridge.fullFact +
          bridge.closedFact ∧
        (bridge.enqueuedFact : ℤ) = bridge.consumedFact + bridge.currentFactOccupancy ∧
        bridge.currentFactOccupancy =
          ∑ index ∈ range shape.producerSlots, bridge.currentFactOccupancyByProducer index) ∧
    (∀ index, shape.laneOf (index + 1) = shape.laneAt index ∧ ∀ other, shape.laneAt index = shape.laneAt other →
      index = other) ∧
    (∀ index < shape.producerSlots, ∀ lane, shape.laneAt index = .regular lane →
      lane < shape.producerSlots - shape.dedicatedFactQueues) ∧
    (∀ index < shape.producerSlots,
      acceptedOf (index + 1) log = deliveredOf (index + 1) log ++ bridge.queue (shape.laneAt index)) ∧
    Each (InBridge shape) log := by
  have h := delivers shape actions
  refine ⟨h.counts.nonneg,h.counts.atRest,fun index => ⟨shape.laneOf_succ index,fun other => shape.laneAt_injective⟩,
    fun index hindex lane hlane => ?_,h.ordered,h.each⟩
  have hreads := shape.reads_laneAt index
  rw [hlane] at hreads
  exact hreads.2 ▸ shape.regularFactIndex_lt hindex hreads.1

end AytherRuntime.Observation
