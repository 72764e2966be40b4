import AytherRuntime.Fact.Model
import AytherRuntime.Audio.Chunk
import Mathlib.Data.Finset.Basic
import Mathlib.Data.String.Basic

/-! What the campaign audit gathers from the facts of a run, one fact after another. -/
namespace AytherRuntime.Campaign
open Audio (maxUInt64)

section Fields
variable (fact : Fact)

/-- `fact_cause`: the first cause that is a fact, of the producer where one is asked for. -/
def factCause (producer : String) : Option FactId :=
  fact.causeIds.findSome? fun cause =>
    match cause with
    | .fact id => if producer = "" ∨ id.producerId = producer then some id else none
    | .preexistingContext _ => none

def field (name : String) : Option FactField := fact.fields.find? fun field => field.name = name

def knownField (name : String) : Option FactField :=
  (field fact name).filter fun field => field.availability = .known

def number (name : String) : Option ℕ :=
  match (knownField fact name).map FactField.value with
  | some (.uint64 value) => some value
  | _ => none

def text (name : String) : Option String :=
  match (knownField fact name).map FactField.value with
  | some (.text value) => some value
  | _ => none

def boolean (name : String) : Option Bool :=
  match (knownField fact name).map FactField.value with
  | some (.bool value) => some value
  | _ => none

def hasFields (names : List String) : Bool := names.all fun name => (knownField fact name).isSome

end Fields

structure MixRange where
  id : FactId
  sampleRate : ℕ
  begin : ℕ
  stop : ℕ
  deriving DecidableEq, Repr

structure VoiceRange where
  firstSource : ℕ := maxUInt64
  lastSource : ℕ := 0
  firstOutput : ℕ := maxUInt64
  lastOutput : ℕ := 0
  deriving DecidableEq, Repr

structure PendingRestart where
  decision : FactId
  request : FactId
  reason : String
  occurrence : ℕ
  previousOccurrence : ℕ
  deriving DecidableEq, Repr

structure OutputLink where
  output : FactId
  mix : FactId
  pcmSequence : ℕ
  deriving DecidableEq, Repr

/-- `valid_mix`: the range of a mix whose payload is valid. -/
def validMix (fact : Fact) : Option MixRange :=
  match number fact "mix_begin", number fact "mix_end", number fact "mix_sample_rate",
    number fact "track_begin", number fact "track_end", number fact "track_limit",
    boolean fact "links_complete" with
  | some begin, some stop, some rate, some trackBegin, some trackEnd, some trackLimit, some linked =>
    if linked = false ∨ stop ≤ begin ∨ trackEnd ≤ trackBegin ∨ trackLimit < trackEnd ∨ rate = 0 ∨
        192000 < rate ∨
        hasFields fact ["occurrence","key","mix_timeline","track_timeline","track_sample_rate",
          "effective_gain_begin","effective_gain_end","muted_by_gain","nonzero_contribution"] = false then
      none
    else some ⟨fact.id,rate,begin,stop⟩
  | _, _, _, _, _, _, _ => none

/-- `valid_position` -/
def validPosition (fact : Fact) : Bool :=
  match number fact "output_begin", number fact "output_end", number fact "source_begin",
    number fact "source_end", number fact "source_limit", boolean fact "links_complete" with
  | some begin, some stop, some sourceBegin, some sourceEnd, some sourceLimit, some linked =>
    linked && begin < stop && sourceBegin < sourceEnd && sourceEnd ≤ sourceLimit &&
      hasFields fact ["occurrence","key","sample_rate"]
  | _, _, _, _, _, _ => false

/-- The kinds that the audit knows. -/
inductive CampaignKind
  | assignmentDeclared | assignmentParseResult | assignmentLoaded | detectorInput | detectorInputBatch
  | assignmentCandidate | assignmentSelection | assignmentQuery | playbackRequest | playbackDecision
  | playbackEffect | mixParticipant | voicePositionSpan | voiceLoopCrossing | voiceEnd
  | mainMixOutputSpan | other
  deriving DecidableEq, Repr

def campaignKind : String → CampaignKind
  | "pack_assignment_declared" => .assignmentDeclared
  | "pack_assignment_parse_result" => .assignmentParseResult
  | "pack_assignment_loaded" => .assignmentLoaded
  | "detector_input" => .detectorInput
  | "detector_input_batch" => .detectorInputBatch
  | "assignment_candidate" => .assignmentCandidate
  | "assignment_selection" => .assignmentSelection
  | "assignment_query" => .assignmentQuery
  | "hd_playback_request" => .playbackRequest
  | "hd_playback_decision" => .playbackDecision
  | "hd_playback_effect" => .playbackEffect
  | "hd_mix_participant" => .mixParticipant
  | "hd_voice_position_span" => .voicePositionSpan
  | "hd_voice_loop_crossing" => .voiceLoopCrossing
  | "hd_voice_end" => .voiceEnd
  | "main_mix_output_span" => .mainMixOutputSpan
  | _ => .other

/-- The numbers of the summary that each fact adds to. -/
structure StageCounts where
  declaredAssignments : ℕ := 0
  parsedAssignments : ℕ := 0
  detectorInputs : ℕ := 0
  detectorBatches : ℕ := 0
  candidates : ℕ := 0
  selections : ℕ := 0
  playbackRequests : ℕ := 0
  playbackDecisions : ℕ := 0
  playbackEffects : ℕ := 0
  mixSpans : ℕ := 0
  positionSpans : ℕ := 0
  loopCrossings : ℕ := 0
  voiceEnds : ℕ := 0
  mainOutputSpans : ℕ := 0
  reasonedDecisions : ℕ := 0
  reasonedEnds : ℕ := 0
  deriving DecidableEq, Repr

/-- The first fact whose typed payload is not valid. -/
structure InvalidPayload where
  invalidTypedPayloads : ℕ := 0
  kind : String := ""
  id : FactId := ⟨"","",0⟩
  detail : String := ""
  deriving DecidableEq, Repr

/-- The collections of the pass over the facts. An unordered map is a function, an absent list of
mixes an empty one. -/
structure Gathered where
  counts : StageCounts := {}
  typedPayloadComplete : Bool := true
  firstInvalid : InvalidPayload := {}
  loadedSignatures : Finset String := ∅
  selectedSignatures : Finset String := ∅
  requestOccurrences : Finset String := ∅
  decisionOccurrences : Finset String := ∅
  effectOccurrences : Finset String := ∅
  mixOccurrences : Finset String := ∅
  mixRanges : List MixRange := []
  voiceRanges : ℕ → Option VoiceRange := fun _ => none
  causalParent : FactId → Option FactId := fun _ => none
  candidateIds : Finset FactId := ∅
  occurrenceMixes : ℕ → List FactId := fun _ => []
  outputLinks : List OutputLink := []
  pendingRestarts : List PendingRestart := []

/-- `emplace`: the first parent of a fact stays. -/
def emplaceParent (parents : FactId → Option FactId) (id : FactId) (parent : Option FactId) :
    FactId → Option FactId :=
  Function.update parents id ((parents id).or parent)

/-- An optional text joins a set. -/
def insertText (texts : Finset String) (text : Option String) : Finset String :=
  match text with
  | some text => insert text texts
  | none => texts

def extendRange (range : VoiceRange) (sourceBegin sourceEnd outputBegin outputEnd : ℕ) : VoiceRange where
  firstSource := min range.firstSource sourceBegin
  lastSource := max range.lastSource sourceEnd
  firstOutput := min range.firstOutput outputBegin
  lastOutput := max range.lastOutput outputEnd

/-- A valid span of a voice extends the range of its occurrence. -/
def addPosition (ranges : ℕ → Option VoiceRange) (fact : Fact) : ℕ → Option VoiceRange :=
  match number fact "occurrence", number fact "source_begin", number fact "source_end",
    number fact "output_begin", number fact "output_end" with
  | some occurrence, some sourceBegin, some sourceEnd, some outputBegin, some outputEnd =>
    if validPosition fact then
      Function.update ranges occurrence (some
        (extendRange ((ranges occurrence).getD {}) sourceBegin sourceEnd outputBegin outputEnd))
    else ranges
  | _, _, _, _, _ => ranges

/-- The first cause of a selection that is a candidate received before it. -/
def candidateCause (candidateIds : Finset FactId) (fact : Fact) : Option FactId :=
  fact.causeIds.findSome? fun cause =>
    match cause with
    | .fact id => if id ∈ candidateIds then some id else none
    | .preexistingContext _ => none

/-- A restart decision waits for its evidence. -/
def restartOf (fact : Fact) : Option PendingRestart :=
  match text fact "action", text fact "reason", number fact "occurrence",
    number fact "previous_occurrence", factCause fact "" with
  | some action, some reason, some current, some previous, some request =>
    if action = "restart" then some ⟨fact.id,request,reason,current,previous⟩ else none
  | _, _, _, _, _ => none

/-- The links of an output span: one for each mix, all to its PCM. -/
def linksOf (fact : Fact) : List OutputLink :=
  match factCause fact "engine-7" with
  | some pcm => fact.causeIds.filterMap fun cause =>
      match cause with
      | .fact id => if id.producerId = "engine-6" then some ⟨fact.id,id,pcm.producerSequence⟩ else none
      | .preexistingContext _ => none
  | none => []

/-- The parts that the payload of a request must have. -/
def requestParts (fact : Fact) : List (String × Bool) :=
  [("assignment",fact.assignmentId.value.isSome),("occurrence",fact.occurrenceId.value.isSome),
    ("selection",(knownField fact "selection").isSome),("links",(knownField fact "links_complete").isSome)]

def requestDetail (fact : Fact) : String :=
  ",".intercalate ((requestParts fact).map fun part => part.1 ++ "=" ++ if part.2 then "1" else "0")

namespace Gathered
variable (g : Gathered)

/-- What the audit takes from a fact of each kind. -/
def gather (fact : Fact) : Gathered :=
  match campaignKind fact.kind with
  | .assignmentDeclared =>
    { g with
      counts := { g.counts with declaredAssignments := g.counts.declaredAssignments + 1 }
      typedPayloadComplete := g.typedPayloadComplete &&
        hasFields fact ["ordinal","authored_signature","asset_bytes"] }
  | .assignmentParseResult =>
    { g with
      counts := { g.counts with parsedAssignments :=
        g.counts.parsedAssignments + if boolean fact "accepted" = some true then 1 else 0 }
      typedPayloadComplete := g.typedPayloadComplete && (boolean fact "accepted").isSome &&
        (text fact "reason").isSome }
  | .assignmentLoaded =>
    { g with
      loadedSignatures := insertText g.loadedSignatures ((number fact "signature").map toString)
      typedPayloadComplete := g.typedPayloadComplete && (number fact "signature").isSome &&
        hasFields fact ["asset","stage","accepted","reason","parsed_duration","parsed_span",
          "parsed_looping"] }
  | .detectorInput =>
    { g with counts := { g.counts with detectorInputs := g.counts.detectorInputs + 1 } }
  | .detectorInputBatch =>
    { g with counts := { g.counts with detectorBatches := g.counts.detectorBatches + 1 } }
  | .assignmentCandidate =>
    { g with
      counts := { g.counts with candidates := g.counts.candidates + 1 }
      typedPayloadComplete := g.typedPayloadComplete && hasFields fact ["signature","rule","origin"]
      causalParent := emplaceParent g.causalParent fact.id (factCause fact "")
      candidateIds := insert fact.id g.candidateIds }
  | .assignmentSelection =>
    let result := text fact "result"
    let signature := number fact "selected_signature"
    { g with
      counts := { g.counts with selections := g.counts.selections + 1 }
      selectedSignatures :=
        if result = some "selected" ∧ signature ≠ some 0 then
          insertText g.selectedSignatures (signature.map toString)
        else g.selectedSignatures
      typedPayloadComplete := g.typedPayloadComplete && result.isSome && signature.isSome &&
        (text fact "branch").isSome
      causalParent := emplaceParent g.causalParent fact.id (candidateCause g.candidateIds fact) }
  | .assignmentQuery => { g with causalParent := emplaceParent g.causalParent fact.id (factCause fact "") }
  | .playbackRequest =>
    let complete := (requestParts fact).all Prod.snd
    { g with
      counts := { g.counts with playbackRequests := g.counts.playbackRequests + 1 }
      requestOccurrences := insertText g.requestOccurrences fact.occurrenceId.value
      firstInvalid :=
        if g.typedPayloadComplete && !complete then { g.firstInvalid with detail := requestDetail fact }
        else g.firstInvalid
      typedPayloadComplete := g.typedPayloadComplete && complete
      causalParent := emplaceParent g.causalParent fact.id (factCause fact "") }
  | .playbackDecision =>
    { g with
      counts := { g.counts with
        playbackDecisions := g.counts.playbackDecisions + 1
        reasonedDecisions :=
          g.counts.reasonedDecisions + if fact.reasonCode.value.isSome then 1 else 0 }
      decisionOccurrences := insertText g.decisionOccurrences fact.occurrenceId.value
      typedPayloadComplete := g.typedPayloadComplete && hasFields fact ["action","reason","occurrence"]
      pendingRestarts := g.pendingRestarts ++ (restartOf fact).toList }
  | .playbackEffect =>
    { g with
      counts := { g.counts with playbackEffects := g.counts.playbackEffects + 1 }
      effectOccurrences := insertText g.effectOccurrences fact.occurrenceId.value
      typedPayloadComplete := g.typedPayloadComplete && hasFields fact ["result","occurrence"] &&
        (field fact "played").isSome }
  | .mixParticipant =>
    { g with
      counts := { g.counts with mixSpans := g.counts.mixSpans + 1 }
      mixOccurrences := insertText g.mixOccurrences fact.occurrenceId.value
      mixRanges := g.mixRanges ++ (validMix fact).toList
      typedPayloadComplete := g.typedPayloadComplete && (validMix fact).isSome
      occurrenceMixes :=
        match number fact "occurrence" with
        | some occurrence => Function.update g.occurrenceMixes occurrence
            (g.occurrenceMixes occurrence ++ [fact.id])
        | none => g.occurrenceMixes }
  | .voicePositionSpan =>
    { g with
      counts := { g.counts with positionSpans := g.counts.positionSpans + 1 }
      typedPayloadComplete := g.typedPayloadComplete && validPosition fact
      voiceRanges := addPosition g.voiceRanges fact }
  | .voiceLoopCrossing =>
    { g with
      counts := { g.counts with loopCrossings := g.counts.loopCrossings + 1 }
      typedPayloadComplete := g.typedPayloadComplete &&
        hasFields fact ["occurrence","key","output_position","source_before","source_after",
          "loop_begin","loop_end","source_limit","links_complete"] }
  | .voiceEnd =>
    { g with
      counts := { g.counts with
        voiceEnds := g.counts.voiceEnds + 1
        reasonedEnds := g.counts.reasonedEnds + if fact.reasonCode.value.isSome then 1 else 0 }
      typedPayloadComplete := g.typedPayloadComplete && fact.reasonCode.value.isSome &&
        hasFields fact ["occurrence","key","reason","source_position","source_limit",
          "links_complete"] }
  | .mainMixOutputSpan =>
    { g with
      counts := { g.counts with mainOutputSpans := g.counts.mainOutputSpans + 1 }
      outputLinks := g.outputLinks ++ linksOf fact }
  | .other => g

/-- The first fact that leaves the typed payload incomplete is kept. -/
def receive (fact : Fact) : Gathered :=
  let after := g.gather fact
  if g.typedPayloadComplete && !after.typedPayloadComplete then
    { after with firstInvalid := { after.firstInvalid with
        invalidTypedPayloads := 1, kind := fact.kind, id := fact.id } }
  else after

end Gathered

def gatherAll (facts : List Fact) : Gathered := facts.foldl Gathered.receive {}

end AytherRuntime.Campaign
