import AytherRuntime.Fact.Inspection
import Mathlib.Data.List.Perm.Basic
import Mathlib.Logic.Function.Basic
import Mathlib.Tactic.Ring

/-! The fact trace accumulator: facts arrive in any order, wait for their causes, and are published
in cascades that look for one complete audio chain. -/
namespace AytherRuntime.Trace

/-- `CompactId`, and `ReplayTraceFactId` in a summary: a producer and a sequence of its own. -/
structure CompactId where
  producer : ℕ := 0
  sequence : ℕ := 0
  deriving DecidableEq, Repr

inductive TraceKind
  | other | ingress | candidate | selection | request | decision | effect | mix | outputSpan
  deriving DecidableEq, Repr

inductive TraceStage
  | none | ingress | candidate | selection | request | decision | effect | mix
  deriving DecidableEq, Repr

/-- The order of the stages, as the enumeration declares them. -/
def TraceStage.rank : TraceStage → ℕ
  | .none => 0
  | .ingress => 1
  | .candidate => 2
  | .selection => 3
  | .request => 4
  | .decision => 5
  | .effect => 6
  | .mix => 7

def traceKind (kind : String) : TraceKind :=
  if kind = "detector_input" ∨ kind = "detector_input_batch" then .ingress
  else if kind = "assignment_candidate" then .candidate
  else if kind = "assignment_selection" then .selection
  else if kind = "hd_playback_request" then .request
  else if kind = "hd_playback_decision" then .decision
  else if kind = "hd_playback_effect" then .effect
  else if kind = "hd_mix_participant" then .mix
  else if kind = "main_mix_output_span" ∨ kind = "auxiliary_output_span" then .outputSpan
  else .other

structure ReplayTraceSummary where
  observedFactCount : ℕ := 0
  ingress : CompactId := {}
  candidate : CompactId := {}
  selection : CompactId := {}
  playbackRequest : CompactId := {}
  playbackDecision : CompactId := {}
  playbackEffect : CompactId := {}
  mixSpan : CompactId := {}
  occurrence : ℕ := 0
  causallyConnected : Bool := false
  lossFree : Bool := false
  deriving DecidableEq, Repr

structure Chain where
  stage : TraceStage := .none
  id : CompactId := {}
  parent : ℕ := 0
  requestToken : ℕ := 0
  occurrence : ℕ := 0
  deriving DecidableEq, Repr

structure PendingFact where
  id : CompactId
  kind : TraceKind
  occurrence : ℕ
  causes : List CompactId
  deriving DecidableEq, Repr

/-- What a token of the table says of its sequence: the three reserved values, or a chain, zero
when there is none. -/
inductive Slot
  | missing | unresolved | excluded
  | chain (token : ℕ)
  deriving DecidableEq, Repr

/-- The order in which an unordered map is walked: a permutation that may change at every call. -/
structure HashOrder where
  keys : ℕ → List CompactId → List CompactId
  perm : ∀ call ids, (keys call ids).Perm ids

/-- The map walked in the order of its keys. -/
def HashOrder.ascending : HashOrder := ⟨fun _ ids => ids,fun _ _ => .refl _⟩

/-- The tokens that the loops towards the root visit. A parent is always older than its chain. -/
def upward (chains : List Chain) (token : ℕ) : List ℕ :=
  if token = 0 then []
  else
    match chains[token]? with
    | some chain => token :: if chain.parent < token then upward chains chain.parent else []
    | none => []
termination_by token

/-- `ReplayFactTraceAccumulator::Impl`. The bound of `add_chain` on the tokens is left out: a run
has far fewer facts than tokens. -/
structure Accumulator where
  runId : String
  tokens : ℕ → List Slot := fun _ => []
  chains : List Chain := [{}]
  unresolved : List PendingFact := []
  /-- The facts that wait for each cause; an absent entry has none. -/
  waiting : CompactId → List CompactId := fun _ => []
  effects : ℕ → Option ℕ := fun _ => none
  mixes : ℕ → Option ℕ := fun _ => none
  complete : ReplayTraceSummary := {}
  timeline : Option TimelineCompiledRecord := none
  factCount : ℕ := 0
  valid : Bool := true

namespace Accumulator
variable (a : Accumulator)

def new (runId : String) : Accumulator :=
  { runId, valid := decide (runId ≠ "" ∧ runId.utf8ByteSize ≤ maxIdentityBytes) }

def slot (id : CompactId) : Slot := (a.tokens id.producer).getD (id.sequence - 1) .missing

/-- `token`: the chain of an identity, or none while it is unresolved. -/
def token (id : CompactId) : Option ℕ :=
  if id.producer = 0 ∨ producerSlots < id.producer ∨ id.sequence = 0 then none
  else
    match a.slot id with
    | .missing | .unresolved => none
    | .excluded => some 0
    | .chain token => some token

def chainAt (token : ℕ) : Chain := a.chains.getD token {}

def requestAncestor (token : ℕ) : ℕ :=
  ((upward a.chains token).find? fun token => (a.chainAt token).stage = .request).getD 0

def occurrenceMatches (token value : ℕ) : Bool :=
  a.requestAncestor token ≠ 0 ∧ value ≠ 0 ∧ (a.chainAt (a.requestAncestor token)).occurrence = value

def addChain (stage : TraceStage) (id : CompactId) (parent value : ℕ) : Accumulator × ℕ :=
  let index := a.chains.length
  let request := if stage = .request then index else a.requestAncestor parent
  ({ a with chains := a.chains ++ [⟨stage,id,parent,request,value⟩] }, index)

def allCausesResolved (fact : PendingFact) : Bool :=
  fact.causes.all fun cause => (a.token cause).isSome

def betterCause (best : ℕ) (cause : CompactId) : ℕ :=
  match a.token cause with
  | some candidate =>
    if candidate ≠ 0 ∧ (a.chainAt best).stage.rank < (a.chainAt candidate).stage.rank then candidate
    else best
  | none => best

def bestCause (fact : PendingFact) : ℕ := fact.causes.foldl a.betterCause 0

/-- One step of the walk of `remember_complete`. -/
def remember (complete : ReplayTraceSummary) (token : ℕ) : ReplayTraceSummary :=
  let chain := a.chainAt token
  match chain.stage with
  | .ingress => { complete with ingress := chain.id }
  | .candidate => { complete with candidate := chain.id }
  | .selection => { complete with selection := chain.id }
  | .request => { complete with playbackRequest := chain.id, occurrence := chain.occurrence }
  | .decision => { complete with playbackDecision := chain.id }
  | .effect => { complete with playbackEffect := chain.id }
  | .none | .mix => complete

def rememberComplete (request : ℕ) : Accumulator :=
  if a.complete.causallyConnected then a
  else
    match a.effects request, a.mixes request with
    | some effect, some mix =>
      let complete := (upward a.chains effect).foldl a.remember a.complete
      let complete := { complete with mixSpan := (a.chainAt mix).id }
      { a with complete := { complete with
          causallyConnected := decide (complete.occurrence ≠ 0 ∧ complete.ingress.producer ≠ 0 ∧
            complete.candidate.producer ≠ 0 ∧ complete.selection.producer ≠ 0 ∧
            complete.playbackRequest.producer ≠ 0 ∧ complete.playbackDecision.producer ≠ 0 ∧
            complete.playbackEffect.producer ≠ 0 ∧ complete.mixSpan.producer ≠ 0) } }
    | _, _ => a

def resolve (fact : PendingFact) : Accumulator × ℕ :=
  let best := a.bestCause fact
  let bestStage := (a.chainAt best).stage
  match fact.kind with
  | .ingress => a.addChain .ingress fact.id 0 0
  | .candidate =>
    if TraceStage.ingress.rank ≤ bestStage.rank then a.addChain .candidate fact.id best 0
    else (a, best)
  | .selection =>
    if TraceStage.candidate.rank ≤ bestStage.rank then a.addChain .selection fact.id best 0
    else (a, best)
  | .request =>
    if TraceStage.selection.rank ≤ bestStage.rank ∧ fact.occurrence ≠ 0 then
      a.addChain .request fact.id best fact.occurrence
    else (a, best)
  | .decision =>
    if TraceStage.request.rank ≤ bestStage.rank ∧ a.occurrenceMatches best fact.occurrence then
      a.addChain .decision fact.id best fact.occurrence
    else (a, best)
  | .effect =>
    if TraceStage.decision.rank ≤ bestStage.rank ∧ a.occurrenceMatches best fact.occurrence then
      a.addChain .effect fact.id best fact.occurrence
    else (a, best)
  | .mix =>
    if TraceStage.request.rank ≤ bestStage.rank ∧ a.occurrenceMatches best fact.occurrence then
      a.addChain .mix fact.id best fact.occurrence
    else (a, best)
  | .outputSpan | .other => (a, best)

def setSlot (id : CompactId) (slot : Slot) : Accumulator :=
  { a with tokens :=
      Function.update a.tokens id.producer ((a.tokens id.producer).set (id.sequence - 1) slot) }

/-- The first effect and the first mix of each request stay. -/
def registerStage (value : ℕ) : Accumulator :=
  let request := (a.chainAt value).requestToken
  if request = 0 then a
  else
    match (a.chainAt value).stage with
    | .effect =>
      let first := (a.effects request).or (some value)
      { a with effects := Function.update a.effects request first }
    | .mix =>
      let first := (a.mixes request).or (some value)
      { a with mixes := Function.update a.mixes request first }
    | _ => a

/-- A waiting fact goes to the end of the ready ones. -/
def releaseOne (state : Accumulator × List PendingFact) (dependent : CompactId) :
    Accumulator × List PendingFact :=
  match state.1.unresolved.find? fun fact => fact.id = dependent with
  | some fact =>
    ({ state.1 with unresolved := state.1.unresolved.filter fun fact => fact.id ≠ dependent },
      state.2 ++ [fact])
  | none => state

/-- All the facts that wait for a cause are released and its entry is erased. -/
def release (state : Accumulator × List PendingFact) (cause : CompactId) :
    Accumulator × List PendingFact :=
  let state := (state.1.waiting cause).foldl releaseOne state
  ({ state.1 with waiting := Function.update state.1.waiting cause [] }, state.2)

def publish (fact : PendingFact) (value : ℕ) (ready : List PendingFact) :
    Accumulator × List PendingFact :=
  let a := a.setSlot fact.id (.chain value)
  let a := if value = 0 then a else
    let a := a.registerStage value
    let request := (a.chainAt value).requestToken
    if request = 0 then a else a.rememberComplete request
  release (a,ready) fact.id

def defer (fact : PendingFact) : Accumulator :=
  if a.unresolved.any fun other => other.id = fact.id then { a with valid := false }
  else
    fact.causes.foldl (fun a cause =>
        if (a.token cause).isSome then a
        else { a with waiting :=
          Function.update a.waiting cause (a.waiting cause ++ [fact.id]) })
      { a with unresolved := a.unresolved ++ [fact] }

/-- The facts that are still to be published. -/
def pendingCount (state : Accumulator × List PendingFact) : ℕ :=
  state.1.unresolved.length + state.2.length

lemma pendingCount_releaseOne (state : Accumulator × List PendingFact) (dependent : CompactId) :
    pendingCount (releaseOne state dependent) ≤ pendingCount state := by
  unfold releaseOne
  split
  · rename_i fact hfind
    have hlt : (state.1.unresolved.filter fun fact => fact.id ≠ dependent).length <
        state.1.unresolved.length := by
      refine List.length_filter_lt_length_iff_exists.mpr ⟨fact,List.mem_of_find?_eq_some hfind,?_⟩
      simpa using List.find?_some hfind
    simp only [pendingCount,List.length_append,List.length_singleton]
    omega
  · exact le_rfl

lemma pendingCount_release (state : Accumulator × List PendingFact) (cause : CompactId) :
    pendingCount (release state cause) ≤ pendingCount state := by
  have hfold : ∀ (ids : List CompactId) (s : Accumulator × List PendingFact),
      pendingCount (ids.foldl releaseOne s) ≤ pendingCount s := by
    intro ids
    induction ids with
    | nil => exact fun s => le_rfl
    | cons id ids ih => exact fun s => (ih _).trans (pendingCount_releaseOne s id)
  exact hfold (state.1.waiting cause) state

@[simp] lemma addChain_unresolved (stage : TraceStage) (id : CompactId) (parent value : ℕ) :
    (a.addChain stage id parent value).1.unresolved = a.unresolved := rfl

lemma resolve_unresolved (fact : PendingFact) :
    (a.resolve fact).1.unresolved = a.unresolved := by
  unfold resolve
  dsimp only
  split <;> try split
  all_goals rfl

@[simp] lemma rememberComplete_unresolved (request : ℕ) :
    (a.rememberComplete request).unresolved = a.unresolved := by
  unfold rememberComplete
  split
  · rfl
  · split <;> rfl

@[simp] lemma registerStage_unresolved (value : ℕ) :
    (a.registerStage value).unresolved = a.unresolved := by
  unfold registerStage
  dsimp only
  split
  · rfl
  · split <;> rfl

lemma pendingCount_publish (fact : PendingFact) (value : ℕ) (ready : List PendingFact) :
    pendingCount (a.publish fact value ready) ≤ a.unresolved.length + ready.length := by
  refine (pendingCount_release _ _).trans (le_of_eq ?_)
  unfold pendingCount
  dsimp only
  split
  · rfl
  · split
    · rw [registerStage_unresolved]; rfl
    · rw [rememberComplete_unresolved,registerStage_unresolved]; rfl

lemma defer_unresolved_length (fact : PendingFact) :
    (a.defer fact).unresolved.length ≤ a.unresolved.length + 1 := by
  have hfold : ∀ (ids : List CompactId) (b : Accumulator),
      (ids.foldl (fun a cause => if (a.token cause).isSome then a
        else { a with waiting :=
          Function.update a.waiting cause (a.waiting cause ++ [fact.id]) }) b).unresolved =
        b.unresolved := by
    intro ids
    induction ids with
    | nil => exact fun b => rfl
    | cons id ids ih =>
      intro b
      rw [List.foldl_cons,ih]
      split <;> rfl
  unfold defer
  split
  · exact Nat.le_succ _
  · rw [hfold]
    simp

/-- What every turn of `process` makes smaller. -/
def processMeasure (a : Accumulator) (ready : List PendingFact) : ℕ :=
  (a.unresolved.length + ready.length) * (a.unresolved.length + ready.length) + ready.length

lemma processMeasure_publish (current : PendingFact) (ready : List PendingFact) :
    processMeasure ((a.resolve current).1.publish current (a.resolve current).2 ready).1
      ((a.resolve current).1.publish current (a.resolve current).2 ready).2 < a.processMeasure (current :: ready) := by
  have hcount : pendingCount ((a.resolve current).1.publish current (a.resolve current).2 ready) ≤
      a.unresolved.length + ready.length := by
    rw [← resolve_unresolved a current]
    exact pendingCount_publish _ _ _ _
  generalize (a.resolve current).1.publish current (a.resolve current).2 ready = published at hcount ⊢
  have hready : published.2.length ≤ pendingCount published := Nat.le_add_left _ _
  have hsquare : pendingCount published * pendingCount published ≤
      (a.unresolved.length + ready.length) * (a.unresolved.length + ready.length) :=
    Nat.mul_le_mul hcount hcount
  have hnext : (a.unresolved.length + (ready.length + 1)) * (a.unresolved.length + (ready.length + 1))
      = (a.unresolved.length + ready.length) * (a.unresolved.length + ready.length)
        + 2 * (a.unresolved.length + ready.length) + 1 := by ring
  change pendingCount published * pendingCount published + published.2.length < _
  rw [processMeasure,List.length_cons,hnext]
  omega

lemma processMeasure_defer (current : PendingFact) (ready : List PendingFact) :
    (a.defer current).processMeasure ready < a.processMeasure (current :: ready) := by
  have hcount := defer_unresolved_length a current
  have hsum : (a.defer current).unresolved.length + ready.length ≤
      a.unresolved.length + (ready.length + 1) := by omega
  have hsquare := Nat.mul_le_mul hsum hsum
  simp only [processMeasure,List.length_cons]
  omega

/-- Resolves every ready fact whose causes are all known, in order; the others wait. -/
def process (a : Accumulator) : List PendingFact → Accumulator
  | [] => a
  | current :: ready =>
    if a.valid then
      if a.allCausesResolved current then
        let resolved := a.resolve current
        let published := resolved.1.publish current resolved.2 ready
        process published.1 published.2
      else process (a.defer current) ready
    else a
termination_by ready => a.processMeasure ready
decreasing_by
  · exact processMeasure_publish a current ready
  · exact processMeasure_defer a current ready

/-- The slots of an interval become excluded, until one of them is not missing. -/
def markExcluded : List ℕ → List Slot → List Slot × Bool
  | [], slots => (slots,true)
  | sequence :: rest, slots =>
    if slots.getD (sequence - 1) .missing = .missing then
      markExcluded rest (slots.set (sequence - 1) .excluded)
    else (slots,false)

/-- `slots.resize(size, missing_token)` where the slots are fewer. -/
def growSlots (slots : List Slot) (size : ℕ) : List Slot :=
  slots ++ List.replicate (size - slots.length) .missing

/-- The table of a producer holds at least the sequence. -/
def grow (producer sequence : ℕ) : Accumulator :=
  let slots := growSlots (a.tokens producer) sequence
  { a with tokens := Function.update a.tokens producer slots }

def exclude (hash : HashOrder) (exclusion : FactExclusion) : Accumulator :=
  match producerNumber exclusion.producer with
  | none => { a with valid := false }
  | some producer =>
    if maxReplayTraceFacts < exclusion.sequenceTo then { a with valid := false }
    else
      let sequences := List.range' exclusion.sequenceFrom (exclusion.sequenceTo + 1 - exclusion.sequenceFrom)
      let a := a.grow producer exclusion.sequenceTo
      let marked := markExcluded sequences (a.tokens producer)
      let a := { a with tokens := Function.update a.tokens producer marked.1 }
      if marked.2 then
        let waited := hash.keys a.factCount (sequences.map fun sequence => ⟨producer,sequence⟩)
        let released := waited.foldl release (a,[])
        process released.1 released.2
      else { a with valid := false }

/-- The main output of the Engine, whose facts an output span may name without waiting. -/
def mainOutputPcmProducer : ℕ := 7

/-- The causes a fact keeps, or none when one of them cannot be a fact of the run. -/
def compactCauses (runId : String) (kind : TraceKind) : List Cause → Option (List CompactId)
  | [] => some []
  | .preexistingContext _ :: causes => compactCauses runId kind causes
  | .fact id :: causes =>
    match producerNumber id.producerId with
    | none => none
    | some producer =>
      if id.runId ≠ runId ∨ id.producerSequence = 0 then none
      else if kind = .outputSpan ∧ producer = mainOutputPcmProducer then
        compactCauses runId kind causes
      else (compactCauses runId kind causes).map fun kept => ⟨producer,id.producerSequence⟩ :: kept

def inspectionKinds : List String := ["inspection_event","render_frame","render_summary"]

/-- `consume`; a fact that cannot be accepted makes the accumulator invalid for good. -/
def consume (hash : HashOrder) (fact : Fact) : Accumulator :=
  if ¬a.valid then a
  else if fact.id.producerId = inspectionProducer then
    if fact.id.runId ≠ a.runId ∨ fact.id.producerSequence = 0 then { a with valid := false }
    else if fact.kind = "fact_exclusion" then
      match readFactExclusion fact with
      | none => { a with valid := false }
      | some exclusion => { a with factCount := a.factCount + 1 }.exclude hash exclusion
    else if fact.kind = "timeline_compiled" then
      match readTimelineCompiled fact with
      | none => { a with valid := false }
      | some record => { a with timeline := some record, factCount := a.factCount + 1 }
    else if fact.kind ∉ inspectionKinds then { a with valid := false }
    else { a with factCount := a.factCount + 1 }
  else
    match producerNumber fact.id.producerId with
    | none => { a with valid := false }
    | some producer =>
      let sequence := fact.id.producerSequence
      if fact.id.runId ≠ a.runId ∨ sequence = 0 ∨ maxReplayTraceFacts < sequence then
        { a with valid := false }
      else
        let a := a.grow producer sequence
        if a.slot ⟨producer,sequence⟩ ≠ .missing then { a with valid := false }
        else
          let a := a.setSlot ⟨producer,sequence⟩ .unresolved
          let kind := traceKind fact.kind
          match compactCauses a.runId kind fact.causeIds with
          | none => { a with valid := false }
          | some causes =>
            let a := { a with factCount := a.factCount + 1 }
            a.process [⟨⟨producer,sequence⟩,kind,fact.occurrence,causes⟩]

def consumeAll (hash : HashOrder) (facts : List Fact) : Accumulator :=
  facts.foldl (fun a fact => a.consume hash fact) a

/-- Every slot up to the last one of each producer is taken or excluded. -/
def sequencesComplete : Bool :=
  (List.range producerSlots).all fun index => (a.tokens (index + 1)).all fun slot => slot ≠ .missing

def summarize (transportLossFree : Bool) : ReplayTraceSummary :=
  let lossFree := transportLossFree && a.valid && a.sequencesComplete && a.unresolved.isEmpty
  { a.complete with
    observedFactCount := a.factCount
    lossFree
    causallyConnected := lossFree && a.complete.causallyConnected }

end Accumulator

/-- `summarize_replay_facts` after the facts of a run. -/
def traceSummary (hash : HashOrder) (runId : String) (facts : List Fact)
    (transportLossFree : Bool) : ReplayTraceSummary :=
  ((Accumulator.new runId).consumeAll hash facts).summarize transportLossFree

end AytherRuntime.Trace
