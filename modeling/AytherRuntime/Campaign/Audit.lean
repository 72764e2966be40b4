import AytherRuntime.Audio.Integrity
import AytherRuntime.Campaign.Gather
import AytherRuntime.Trace.Accumulator
import Mathlib.Data.Finset.Sort

/-! The campaign audit: the facts and the PCM of a run, the chain of each restart, and the verdicts. -/
namespace AytherRuntime.Campaign
open Audio Trace

def maxReferenceMaterials : ℕ := 4096

inductive CampaignAuditError
  | invalidInput | evidenceUnavailable | factIntegrityFailed | audioIntegrityFailed
  deriving DecidableEq, Repr

structure RestartCandidate where
  decision : FactId
  event : FactId
  query : FactId
  candidate : FactId
  selection : FactId
  request : FactId
  mix : FactId
  outputSpan : FactId
  reason : String
  occurrence : ℕ
  previousOccurrence : ℕ
  previousSourceEnd : ℕ
  currentSourceBegin : ℕ
  outputBegin : ℕ
  outputEnd : ℕ
  pcmSequence : ℕ
  pcmBegin : ℕ
  pcmEnd : ℕ
  deriving DecidableEq, Repr

/-- How many restarts have each part of their chain, and the chains that are whole. -/
structure RestartSearch where
  positionComplete : ℕ := 0
  mixLinkComplete : ℕ := 0
  outputComplete : ℕ := 0
  requestParentComplete : ℕ := 0
  selectionParentComplete : ℕ := 0
  candidateParentComplete : ℕ := 0
  chainComplete : ℕ := 0
  firstUnmatchedPcmSequence : ℕ := 0
  restartCandidates : List RestartCandidate := []
  deriving DecidableEq, Repr

/-- The block of a PCM sequence: the first one that begins at it or before and whose successor, if
there is one, begins after it. -/
def pcmBlock (sequence : ℕ) : List (ℕ × SampleFrameRange) → Option (ℕ × SampleFrameRange)
  | [] => none
  | [item] => if item.1 ≤ sequence then some item else none
  | item :: next :: rest =>
    if item.1 ≤ sequence ∧ sequence < next.1 then some item else pcmBlock sequence (next :: rest)

section Restarts
variable (g : Gathered) (pcm : List (ℕ × SampleFrameRange))

/-- The first output link to a mix of an occurrence. -/
def outputLink (occurrence : ℕ) : Option OutputLink :=
  g.outputLinks.find? fun link => link.mix ∈ g.occurrenceMixes occurrence

/-- The search for the evidence of one restart, which goes as far as it can. -/
def RestartSearch.restart (s : RestartSearch) (restart : PendingRestart) : RestartSearch :=
  match g.voiceRanges restart.occurrence, g.voiceRanges restart.previousOccurrence with
  | some current, some previous =>
    if g.occurrenceMixes restart.occurrence = [] then s
    else
      let s := { s with positionComplete := s.positionComplete + 1 }
      match outputLink g restart.occurrence with
      | none => s
      | some output =>
        let s := { s with mixLinkComplete := s.mixLinkComplete + 1 }
        match pcmBlock output.pcmSequence pcm with
        | none =>
          if s.firstUnmatchedPcmSequence = 0 then
            { s with firstUnmatchedPcmSequence := output.pcmSequence }
          else s
        | some block =>
          let s := { s with outputComplete := s.outputComplete + 1 }
          match g.causalParent restart.request with
          | none => s
          | some selection =>
            let s := { s with requestParentComplete := s.requestParentComplete + 1 }
            match g.causalParent selection with
            | none => s
            | some candidate =>
              let s := { s with selectionParentComplete := s.selectionParentComplete + 1 }
              match g.causalParent candidate with
              | none => s
              | some query =>
                { s with
                  candidateParentComplete := s.candidateParentComplete + 1
                  chainComplete := s.chainComplete + 1
                  restartCandidates := s.restartCandidates ++
                    [{ decision := restart.decision
                       event := (g.causalParent query).getD query
                       query
                       candidate
                       selection
                       request := restart.request
                       mix := output.mix
                       outputSpan := output.output
                       reason := restart.reason
                       occurrence := restart.occurrence
                       previousOccurrence := restart.previousOccurrence
                       previousSourceEnd := previous.lastSource
                       currentSourceBegin := current.firstSource
                       outputBegin := current.firstOutput
                       outputEnd := current.lastOutput
                       pcmSequence := output.pcmSequence
                       pcmBegin := block.2.begin
                       pcmEnd := block.2.stop }] }
  | _, _ => s

def searchRestarts : RestartSearch :=
  g.pendingRestarts.foldl (fun s restart => s.restart g pcm restart) {}

end Restarts

/-- The example route of the summary, from an ingress to a stretch of the audio. -/
structure QueryRoute where
  queryOrigin : FactId
  queryMix : FactId
  queryRelation : String := ""
  queryAudioBegin : ℕ := 0
  queryAudioEnd : ℕ := 0
  queryRouteComplete : Bool := false
  deriving DecidableEq, Repr

/-- The identity of an Engine fact, as the audit spells it. -/
def engineFactId (runId : String) (id : CompactId) : FactId :=
  ⟨runId,"engine-" ++ toString id.producer,id.sequence⟩

/-- A range of the audio overlaps the range of a mix. -/
def overlaps (mix : MixRange) (range : SampleFrameRange) : Bool :=
  range.sampleRate = mix.sampleRate && range.begin < mix.stop && mix.begin < range.stop

def queryRoute (runId : String) (trace : ReplayTraceSummary) (mixRanges : List MixRange)
    (audioRanges : List SampleFrameRange) : QueryRoute :=
  let route : QueryRoute :=
    { queryOrigin := engineFactId runId trace.ingress, queryMix := engineFactId runId trace.mixSpan }
  match mixRanges.find? fun range => range.id = route.queryMix with
  | none => route
  | some mix =>
    match audioRanges.find? (overlaps mix) with
    | none => route
    | some output =>
      { route with
        queryRelation := "observed_sample_range_overlap"
        queryAudioBegin := max output.begin mix.begin
        queryAudioEnd := min output.stop mix.stop
        queryRouteComplete := decide (max output.begin mix.begin < min output.stop mix.stop) }

/-- What the audit keeps of the audio. -/
structure AudioEvidence where
  pcmBytes : ℕ := 0
  audioRanges : List SampleFrameRange := []
  pcmIdentityRanges : List (ℕ × SampleFrameRange) := []
  firstPcmIdentity : ℕ := 0
  lastPcmIdentity : ℕ := 0
  deriving DecidableEq, Repr

def AudioEvidence.audioBegin (evidence : AudioEvidence) : ℕ :=
  (evidence.audioRanges.head?.map SampleFrameRange.begin).getD 0

def AudioEvidence.audioEnd (evidence : AudioEvidence) : ℕ :=
  (evidence.audioRanges.getLast?.map SampleFrameRange.stop).getD 0

def AudioEvidence.complete (evidence : AudioEvidence) : Bool :=
  evidence.audioBegin < evidence.audioEnd && 0 < evidence.pcmBytes

/-- `add_checked` -/
def addChecked (target value : ℕ) : Option ℕ :=
  if maxUInt64 - target < value then none else some (target + value)

/-- The bytes of a text, as the audio spells its run. -/
def textBytes (text : String) : Codec.Bytes := text.toUTF8.data.toList

def AudioEvidence.block (runId : String) (evidence : AudioEvidence) (reading : BlockReading) :
    Option AudioEvidence :=
  match reading.block with
  | .error _ => none
  | .ok block =>
    if block.chunk.runId ≠ textBytes runId then none
    else
      match addChecked evidence.pcmBytes block.chunk.bytes.length with
      | none => none
      | some pcmBytes =>
        some {
          pcmBytes
          audioRanges := evidence.audioRanges ++ [block.chunk.range]
          pcmIdentityRanges :=
            evidence.pcmIdentityRanges ++ [(block.chunk.producerSequence,block.chunk.range)]
          firstPcmIdentity :=
            if evidence.firstPcmIdentity = 0 then block.chunk.producerSequence
            else evidence.firstPcmIdentity
          lastPcmIdentity := block.chunk.producerSequence }

/-- The audio of the run, where its blocks are whole and continuous. -/
def readAudio (runId : String) (audio : List BlockReading) : Option AudioEvidence :=
  let audit := auditAudioIntegrity audio .single
  if audit.complete = false ∨ audit.lastVerifiedSample = none then none
  else audio.foldlM (AudioEvidence.block runId) {}

/-- A fragment of facts as it is read; a stored one has at least one fact. -/
structure StoredFactFragment where
  sequence : ℕ
  facts : List Fact
  nonempty : facts ≠ []

/-- The pass over the facts. -/
structure FactPass where
  trace : Accumulator
  factFragments : ℕ := 0
  facts : ℕ := 0
  typedFields : ℕ := 0
  gathered : Gathered := {}

section Pass
variable (hash : HashOrder) (runId : String)

def FactPass.fact (pass : FactPass) (fact : Fact) : Option FactPass :=
  let trace := pass.trace.consume hash fact
  if fact.id.runId ≠ runId ∨ trace.valid = false then none
  else
    match addChecked pass.facts 1, addChecked pass.typedFields fact.fields.length with
    | some facts, some typedFields =>
      some { pass with trace, facts, typedFields, gathered := pass.gathered.receive fact }
    | _, _ => none

def FactPass.fragment (pass : FactPass) (reopened : Option StoredFactFragment) : Option FactPass :=
  match reopened with
  | none => none
  | some fragment =>
    if fragment.sequence ≠ pass.factFragments + 1 then none
    else fragment.facts.foldlM (FactPass.fact hash runId) { pass with factFragments := pass.factFragments + 1 }

def readFacts (fragments : List (Option StoredFactFragment)) : Option FactPass :=
  fragments.foldlM (FactPass.fragment hash runId) { trace := Accumulator.new runId }

end Pass

structure CampaignAuditSummary where
  runId : String
  factFragments : ℕ
  facts : ℕ
  typedFields : ℕ
  counts : StageCounts
  firstInvalid : InvalidPayload
  loadedAssignments : ℕ
  selectedAssignments : ℕ
  pendingAssignments : ℕ
  pendingAssignmentIds : List String
  causalOutputLinks : ℕ
  pcmBlocks : ℕ
  audio : AudioEvidence
  audioBegin : ℕ
  audioEnd : ℕ
  restarts : RestartSearch
  trace : ReplayTraceSummary
  query : QueryRoute
  typedPayloadComplete : Bool
  stageRelationsComplete : Bool
  audioComplete : Bool
  complete : Bool

/-- `stage_relations_complete` -/
def stageRelations (expectedAssignments : ℕ) (g : Gathered) (trace : ReplayTraceSummary) : Bool :=
  trace.lossFree && trace.causallyConnected &&
    decide (g.counts.declaredAssignments = expectedAssignments) &&
    decide (g.counts.parsedAssignments = expectedAssignments) &&
    decide (g.loadedSignatures.card = expectedAssignments) && decide (0 < g.counts.detectorInputs) &&
    decide (0 < g.counts.detectorBatches) && decide (0 < g.counts.candidates) &&
    decide (0 < g.counts.selections) && decide (0 < g.counts.playbackRequests) &&
    decide (g.counts.playbackRequests = g.counts.playbackDecisions) &&
    decide (g.counts.playbackRequests = g.counts.playbackEffects) && decide (0 < g.counts.mixSpans) &&
    decide (g.counts.positionSpans = g.counts.mixSpans) &&
    decide (g.counts.reasonedDecisions = g.counts.playbackDecisions) &&
    decide (g.counts.reasonedEnds = g.counts.voiceEnds) &&
    decide (g.requestOccurrences ⊆ g.decisionOccurrences) &&
    decide (g.requestOccurrences ⊆ g.effectOccurrences) &&
    decide (g.requestOccurrences ⊆ g.mixOccurrences) &&
    decide (g.selectedSignatures ⊆ g.loadedSignatures)

/-- The summary of what the two passes found. -/
def summarize (runId : String) (expectedAssignments : ℕ) (pass : FactPass) (audio : AudioEvidence)
    (pcmBlocks : ℕ) : CampaignAuditSummary :=
  let g := pass.gathered
  let trace := pass.trace.summarize true
  let stages := stageRelations expectedAssignments g trace
  let query := queryRoute runId trace g.mixRanges audio.audioRanges
  let pending := (g.loadedSignatures \ g.selectedSignatures).sort
  { runId
    factFragments := pass.factFragments
    facts := pass.facts
    typedFields := pass.typedFields
    counts := g.counts
    firstInvalid := g.firstInvalid
    loadedAssignments := g.loadedSignatures.card
    selectedAssignments := g.selectedSignatures.card
    pendingAssignments := pending.length
    pendingAssignmentIds := pending
    causalOutputLinks := g.outputLinks.length
    pcmBlocks
    audio
    audioBegin := audio.audioBegin
    audioEnd := audio.audioEnd
    restarts := searchRestarts g audio.pcmIdentityRanges
    trace
    query
    typedPayloadComplete := g.typedPayloadComplete
    stageRelationsComplete := stages
    audioComplete := audio.complete
    complete := g.typedPayloadComplete && stages && audio.complete && query.queryRouteComplete }

/-- `audit_campaign_evidence`, of the files of a run as they are read, in the order of their names. -/
def auditCampaignEvidence (hash : HashOrder) (runId : String) (expectedAssignments : ℕ)
    (fragments : List (Option StoredFactFragment)) (audio : List BlockReading) :
    Except CampaignAuditError CampaignAuditSummary :=
  if runId = "" ∨ maxIdentityBytes < runId.utf8ByteSize ∨ expectedAssignments = 0 ∨
      maxReferenceMaterials < expectedAssignments then .error .invalidInput
  else if fragments = [] ∨ audio = [] then .error .evidenceUnavailable
  else
    match readFacts hash runId fragments with
    | none => .error .factIntegrityFailed
    | some pass =>
      match readAudio runId audio with
      | none => .error .audioIntegrityFailed
      | some evidence => .ok (summarize runId expectedAssignments pass evidence audio.length)

end AytherRuntime.Campaign
