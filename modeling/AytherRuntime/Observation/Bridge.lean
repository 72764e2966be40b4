import AytherRuntime.Observation.Lanes
import Mathlib.Algebra.Ring.Int.Defs
import Mathlib.Algebra.Ring.Nat
import Mathlib.Logic.Function.Basic

/-! The facts of an observation bridge, by the atomic steps of its producers and of its consumer on the counters and the
queues that they share. -/
namespace AytherRuntime.Observation

/-- A fact of the Engine, with the producer of its identity. -/
structure EngineFact (φ : Type) where
  producer : ℕ
  content : φ
  deriving DecidableEq, Repr

/-- Why a queue took no fact. -/
inductive FactRefusal
  | full | invalid | closed
  deriving DecidableEq, Repr

inductive FactPushResult
  | accepted
  | refused (refusal : FactRefusal)
  deriving DecidableEq, Repr

/-- Where a call of `receive_fact` stands, by what it has done. -/
inductive ProducerStep (φ : Type)
  | idle
  | attempted (fact : φ)
  | reservedOwn (fact : φ)
  | reserved (fact : φ) (occupancy : ℤ)
  | accepted (occupancy : ℤ)
  | enqueued (occupancy : ℤ)
  | refused (refusal : FactRefusal)
  | releasedTotal (refusal : FactRefusal)
  | released (refusal : FactRefusal)
  | countedFull
  deriving DecidableEq, Repr

/-- The queue that is closest to its capacity so far. -/
structure SelectedLane where
  index : ℕ
  occupancy : ℤ
  capacity : ℕ
  deriving DecidableEq, Repr

/-- Where the call of `try_consume_fact` stands: before a load or an attempt, or after a delivery. -/
inductive ConsumerStep
  | idle
  | drainLoad
  | drainTry
  | scan (offset : ℕ) (selected : Option SelectedLane)
  | selectedTry (selected : ℕ)
  | fallback (offset : ℕ) (selected : Option ℕ)
  | delivered (index : ℕ) (drained : Bool)
  | counted (index : ℕ) (drained : Bool)
  | releasedTotal (index : ℕ) (drained : Bool)
  deriving DecidableEq, Repr

/-- `RuntimeObservationBridge`, its facts alone, and where its callers stand. The occupancies are integers, so that one
that underflows is below zero. -/
structure RuntimeObservationBridge (φ : Type) where
  attemptedFact : ℕ := 0
  enqueuedFact : ℕ := 0
  consumedFact : ℕ := 0
  currentFactOccupancy : ℤ := 0
  currentFactOccupancyByProducer : ℕ → ℤ := fun _ => 0
  maximumFactOccupancy : ℤ := 0
  invalidProducer : ℕ := 0
  invalidFact : ℕ := 0
  fullFact : ℕ := 0
  closedFact : ℕ := 0
  fullFactByProducer : ℕ → ℕ := fun _ => 0
  queue : Lane → List (EngineFact φ) := fun _ => []
  closed : Lane → Bool := fun _ => false
  nextFact : ℕ := 0
  drainFact : ℕ
  drainFactCount : ℕ := 0
  producers : ℕ → ProducerStep φ := fun _ => .idle
  consumer : ConsumerStep := .idle

/-- What happens to facts and in calls of the consumer. -/
inductive BridgeEvent (φ : Type)
  | accepted (fact : EngineFact φ)
  | called (served : Bool)
  | delivered (index : ℕ) (fact : EngineFact φ)
  | foundEmpty (index : ℕ)
  | returned (consumed : Bool)
  deriving DecidableEq, Repr

/-- The identities of producers are numbers of 32 bits. -/
def producerIdentities : ℕ := 2 ^ 32

def maximumDrainRun : ℕ := 1024

namespace RuntimeObservationBridge
variable {φ : Type} (shape : BridgeShape) (bridge : RuntimeObservationBridge φ)

def new : RuntimeObservationBridge φ := { drainFact := shape.producerSlots }

section Producer
variable (producer : ℕ)

/-- The call of a producer goes on to its next step. -/
def setProducer (next : ProducerStep φ) : RuntimeObservationBridge φ :=
  { bridge with producers := Function.update bridge.producers producer next }

def addOwnOccupancy (index : ℕ) (amount : ℤ) : RuntimeObservationBridge φ :=
  { bridge with
    currentFactOccupancyByProducer := Function.update bridge.currentFactOccupancyByProducer index
      (bridge.currentFactOccupancyByProducer index + amount) }

def addOccupancy (amount : ℤ) : RuntimeObservationBridge φ :=
  { bridge with currentFactOccupancy := bridge.currentFactOccupancy + amount }

def countFull (index : ℕ) : RuntimeObservationBridge φ :=
  { bridge with
    fullFactByProducer := Function.update bridge.fullFactByProducer index (bridge.fullFactByProducer index + 1) }

def setQueue (lane : Lane) (facts : List (EngineFact φ)) : RuntimeObservationBridge φ :=
  { bridge with queue := Function.update bridge.queue lane facts }

/-- `try_push`, with the answer of the queue: it takes a fact only while it is open and below its capacity. -/
def tryPush (fact : φ) (occupancy : ℤ) : FactPushResult → RuntimeObservationBridge φ × List (BridgeEvent φ)
  | .accepted =>
    let lane := shape.laneOf producer
    if bridge.closed lane ∨ shape.factCapacityAt (producer - 1) ≤ (bridge.queue lane).length then (bridge,[])
    else
      ((bridge.setQueue lane (bridge.queue lane ++ [⟨producer,fact⟩])).setProducer producer (.accepted occupancy),
        [.accepted ⟨producer,fact⟩])
  | .refused refusal => (bridge.setProducer producer (.refused refusal),[])

/-- The next atomic step of `receive_fact` of a producer. -/
def receiveFact (answer : FactPushResult) : RuntimeObservationBridge φ × List (BridgeEvent φ) :=
  match bridge.producers producer with
  | .idle => (bridge,[])
  | .attempted fact =>
    if producer = 0 ∨ shape.producerSlots < producer then
      ({ bridge with invalidProducer := bridge.invalidProducer + 1 }.setProducer producer .idle,[])
    else ((bridge.addOwnOccupancy (producer - 1) 1).setProducer producer (.reservedOwn fact),[])
  | .reservedOwn fact =>
    ((bridge.addOccupancy 1).setProducer producer (.reserved fact (bridge.currentFactOccupancy + 1)),[])
  | .reserved fact occupancy => bridge.tryPush shape producer fact occupancy answer
  | .accepted occupancy =>
    ({ bridge with enqueuedFact := bridge.enqueuedFact + 1 }.setProducer producer (.enqueued occupancy),[])
  | .enqueued occupancy =>
    ({ bridge with maximumFactOccupancy := max bridge.maximumFactOccupancy occupancy }.setProducer producer .idle,[])
  | .refused refusal => ((bridge.addOccupancy (-1)).setProducer producer (.releasedTotal refusal),[])
  | .releasedTotal refusal =>
    ((bridge.addOwnOccupancy (producer - 1) (-1)).setProducer producer (.released refusal),[])
  | .released .full => ({ bridge with fullFact := bridge.fullFact + 1 }.setProducer producer .countedFull,[])
  | .released .invalid => ({ bridge with invalidFact := bridge.invalidFact + 1 }.setProducer producer .idle,[])
  | .released .closed => ({ bridge with closedFact := bridge.closedFact + 1 }.setProducer producer .idle,[])
  | .countedFull =>
    (bridge.countFull (producer - 1) |>.setProducer producer .idle,[])

/-- The first step of `receive_fact`, by the thread of an identity that is in no call. -/
def callReceiveFact (fact : φ) : RuntimeObservationBridge φ × List (BridgeEvent φ) :=
  if producer < producerIdentities ∧ bridge.producers producer matches .idle then
    ({ bridge with attemptedFact := bridge.attemptedFact + 1 }.setProducer producer (.attempted fact),[])
  else (bridge,[])

end Producer

section Consumer

def setConsumer (next : ConsumerStep) : RuntimeObservationBridge φ := { bridge with consumer := next }

/-- The consumer forgets the queue that it drained, and looks at all of them. -/
def startScan : RuntimeObservationBridge φ :=
  { bridge with drainFact := shape.producerSlots, drainFactCount := 0, consumer := .scan 0 none }

/-- `try_consume_fact_at`: the first fact is delivered, or the queue is empty. -/
def tryConsumeFactAt (index : ℕ) (drained : Bool) (otherwise : RuntimeObservationBridge φ) :
    RuntimeObservationBridge φ × List (BridgeEvent φ) :=
  match bridge.queue (shape.laneAt index) with
  | [] => (otherwise,[.foundEmpty index])
  | fact :: facts =>
    ((bridge.setQueue (shape.laneAt index) facts).setConsumer (.delivered index drained),[.delivered index fact])

/-- The queue after one more load of an occupancy: a higher normalized occupancy is preferred. -/
def select (index : ℕ) (selected : Option SelectedLane) : Option SelectedLane :=
  let occupancy := bridge.currentFactOccupancyByProducer index
  let capacity := shape.factCapacityAt index
  match selected with
  | none => if occupancy ≠ 0 then some ⟨index,occupancy,capacity⟩ else none
  | some other =>
    if occupancy ≠ 0 ∧ other.occupancy * capacity % 2 ^ 64 < occupancy * other.capacity % 2 ^ 64 then
      some ⟨index,occupancy,capacity⟩
    else selected

/-- The next atomic step of `try_consume_fact`. -/
def tryConsumeFact : RuntimeObservationBridge φ × List (BridgeEvent φ) :=
  let slots := shape.producerSlots
  match bridge.consumer with
  | .idle => (bridge,[])
  | .drainLoad =>
    if bridge.currentFactOccupancyByProducer bridge.drainFact ≠ 0 then (bridge.setConsumer .drainTry,[])
    else (bridge.startScan shape,[])
  | .drainTry => bridge.tryConsumeFactAt shape bridge.drainFact true (bridge.startScan shape)
  | .scan offset selected =>
    if offset < slots then
      let index := (bridge.nextFact + offset) % slots
      (bridge.setConsumer (.scan (offset + 1) (bridge.select shape index selected)),[])
    else
      match selected with
      | some selected => (bridge.setConsumer (.selectedTry selected.index),[])
      | none => (bridge.setConsumer (.fallback 0 none),[])
  | .selectedTry selected =>
    bridge.tryConsumeFactAt shape selected false (bridge.setConsumer (.fallback 0 (some selected)))
  | .fallback offset selected =>
    if offset < slots then
      let index := (bridge.nextFact + offset) % slots
      let next := bridge.setConsumer (.fallback (offset + 1) selected)
      if selected = some index then (next,[]) else bridge.tryConsumeFactAt shape index false next
    else (bridge.setConsumer .idle,[.returned false])
  | .delivered index drained =>
    ({ bridge with consumedFact := bridge.consumedFact + 1 }.setConsumer (.counted index drained),[])
  | .counted index drained => ((bridge.addOccupancy (-1)).setConsumer (.releasedTotal index drained),[])
  | .releasedTotal index drained =>
    let released := (bridge.addOwnOccupancy index (-1)).setConsumer .idle
    if drained then ({ released with drainFactCount := bridge.drainFactCount + 1 },[.returned true])
    else
      ({ released with nextFact := (index + 1) % slots, drainFact := index, drainFactCount := 1 },[.returned true])

/-- The beginning of `try_consume_fact`, of a bridge with a run and with a consumer or not. -/
def callTryConsumeFact (served : Bool) : RuntimeObservationBridge φ × List (BridgeEvent φ) :=
  if !(bridge.consumer matches .idle) then (bridge,[])
  else if !served then (bridge,[.called false,.returned false])
  else if bridge.drainFact < shape.producerSlots ∧ bridge.drainFactCount < maximumDrainRun then
    (bridge.setConsumer .drainLoad,[.called true])
  else (bridge.startScan shape,[.called true])

end Consumer

/-- `close`, of one queue after the other. -/
def close (lane : Lane) : RuntimeObservationBridge φ :=
  { bridge with closed := Function.update bridge.closed lane true }

end RuntimeObservationBridge

/-- One atomic step of some thread. -/
inductive BridgeAction (φ : Type)
  | callReceiveFact (producer : ℕ) (fact : φ)
  | receiveFact (producer : ℕ) (answer : FactPushResult)
  | callTryConsumeFact (served : Bool)
  | tryConsumeFact
  | close (lane : Lane)

/-- A step that its thread cannot take changes nothing. -/
def RuntimeObservationBridge.step {φ : Type} (shape : BridgeShape) (bridge : RuntimeObservationBridge φ) :
    BridgeAction φ → RuntimeObservationBridge φ × List (BridgeEvent φ)
  | .callReceiveFact producer fact => bridge.callReceiveFact producer fact
  | .receiveFact producer answer => bridge.receiveFact shape producer answer
  | .callTryConsumeFact served => bridge.callTryConsumeFact shape served
  | .tryConsumeFact => bridge.tryConsumeFact shape
  | .close lane => (bridge.close lane,[])

end AytherRuntime.Observation
