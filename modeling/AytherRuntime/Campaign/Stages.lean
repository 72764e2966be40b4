import AytherRuntime.Campaign.Gather
import Mathlib.Data.Finset.Image
import Mathlib.Tactic.Linarith

/-! What the audit gathers, as the facts of a run say it: each collection is that of the facts of its
kind, and the order of the facts matters only for the links of the output and for the parents. -/
namespace AytherRuntime.Campaign

section Parts
variable (fact : Fact)

def loadedSignature : Option String :=
  if campaignKind fact.kind = .assignmentLoaded then (number fact "signature").map toString else none

def selectedSignature : Option String :=
  if campaignKind fact.kind = .assignmentSelection ∧ text fact "result" = some "selected" ∧
      number fact "selected_signature" ≠ some 0 then (number fact "selected_signature").map toString
  else none

/-- The occurrence that a fact of a kind carries. -/
def occurrenceAt (kind : CampaignKind) : Option String :=
  if campaignKind fact.kind = kind then fact.occurrenceId.value else none

def mixRangeOf : Option MixRange :=
  if campaignKind fact.kind = .mixParticipant then validMix fact else none

def candidateId : Option FactId :=
  if campaignKind fact.kind = .assignmentCandidate then some fact.id else none

/-- The identity of a mix of an occurrence. -/
def mixOf (occurrence : ℕ) : Option FactId :=
  if campaignKind fact.kind = .mixParticipant ∧ number fact "occurrence" = some occurrence then
    some fact.id
  else none

def outputLinksOf : List OutputLink :=
  if campaignKind fact.kind = .mainMixOutputSpan then linksOf fact else []

def pendingRestart : Option PendingRestart :=
  if campaignKind fact.kind = .playbackDecision then restartOf fact else none

/-- A span of a voice, with its occurrence. -/
structure Position where
  occurrence : ℕ
  sourceBegin : ℕ
  sourceEnd : ℕ
  outputBegin : ℕ
  outputEnd : ℕ

def positionOf : Option Position :=
  if campaignKind fact.kind = .voicePositionSpan ∧ validPosition fact = true then
    match number fact "occurrence", number fact "source_begin", number fact "source_end",
      number fact "output_begin", number fact "output_end" with
    | some occurrence, some sourceBegin, some sourceEnd, some outputBegin, some outputEnd =>
      some ⟨occurrence,sourceBegin,sourceEnd,outputBegin,outputEnd⟩
    | _, _, _, _, _ => none
  else none

/-- The payload that a fact of each kind must have. -/
def typedPayload : Bool :=
  match campaignKind fact.kind with
  | .assignmentDeclared => hasFields fact ["ordinal","authored_signature","asset_bytes"]
  | .assignmentParseResult => (boolean fact "accepted").isSome && (text fact "reason").isSome
  | .assignmentLoaded => (number fact "signature").isSome &&
      hasFields fact ["asset","stage","accepted","reason","parsed_duration","parsed_span",
        "parsed_looping"]
  | .assignmentCandidate => hasFields fact ["signature","rule","origin"]
  | .assignmentSelection => (text fact "result").isSome && (number fact "selected_signature").isSome &&
      (text fact "branch").isSome
  | .playbackRequest => (requestParts fact).all Prod.snd
  | .playbackDecision => hasFields fact ["action","reason","occurrence"]
  | .playbackEffect => hasFields fact ["result","occurrence"] && (field fact "played").isSome
  | .mixParticipant => (validMix fact).isSome
  | .voicePositionSpan => validPosition fact
  | .voiceLoopCrossing =>
      hasFields fact ["occurrence","key","output_position","source_before","source_after","loop_begin",
        "loop_end","source_limit","links_complete"]
  | .voiceEnd => fact.reasonCode.value.isSome &&
      hasFields fact ["occurrence","key","reason","source_position","source_limit","links_complete"]
  | .detectorInput | .detectorInputBatch | .assignmentQuery | .mainMixOutputSpan | .other => true

/-- The parent that a fact names, with the candidates that are known. -/
def parentOf (candidateIds : Finset FactId) : Option FactId :=
  match campaignKind fact.kind with
  | .assignmentCandidate | .assignmentQuery | .playbackRequest => factCause fact ""
  | .assignmentSelection => candidateCause candidateIds fact
  | _ => none

end Parts

section Totals
variable (facts : List Fact)

def countKind (kind : CampaignKind) : ℕ := facts.countP fun fact => campaignKind fact.kind = kind

/-- The facts of a kind that also meet a condition. -/
def countWith (kind : CampaignKind) (condition : Fact → Bool) : ℕ :=
  facts.countP fun fact => campaignKind fact.kind = kind && condition fact

/-- How many facts there are of each kind, and how many of them say enough. -/
def stageCounts : StageCounts where
  declaredAssignments := countKind facts .assignmentDeclared
  parsedAssignments := countWith facts .assignmentParseResult fun fact =>
    boolean fact "accepted" = some true
  detectorInputs := countKind facts .detectorInput
  detectorBatches := countKind facts .detectorInputBatch
  candidates := countKind facts .assignmentCandidate
  selections := countKind facts .assignmentSelection
  playbackRequests := countKind facts .playbackRequest
  playbackDecisions := countKind facts .playbackDecision
  playbackEffects := countKind facts .playbackEffect
  mixSpans := countKind facts .mixParticipant
  positionSpans := countKind facts .voicePositionSpan
  loopCrossings := countKind facts .voiceLoopCrossing
  voiceEnds := countKind facts .voiceEnd
  mainOutputSpans := countKind facts .mainMixOutputSpan
  reasonedDecisions := countWith facts .playbackDecision fun fact => fact.reasonCode.value.isSome
  reasonedEnds := countWith facts .voiceEnd fun fact => fact.reasonCode.value.isSome

/-- The texts that some facts give. -/
def textsOf (part : Fact → Option String) : Finset String := (facts.filterMap part).toFinset

def candidateIds : Finset FactId := (facts.filterMap candidateId).toFinset

/-- One more span in the range of its voice. -/
def extendBy (range : Option VoiceRange) (position : Position) : Option VoiceRange :=
  some (extendRange (range.getD {}) position.sourceBegin position.sourceEnd position.outputBegin
    position.outputEnd)

/-- The range of the spans of an occurrence. -/
def voiceRange (occurrence : ℕ) : Option VoiceRange :=
  ((facts.filterMap positionOf).filter fun position => position.occurrence = occurrence).foldl extendBy none

def mixesOf (occurrence : ℕ) : List FactId := facts.filterMap fun fact => mixOf fact occurrence

def outputLinks : List OutputLink := facts.flatMap outputLinksOf

def restarts : List PendingRestart := facts.filterMap pendingRestart

end Totals

namespace Gathered
variable (g : Gathered) (fact : Fact)

/-- Apart from the first invalid payload, a fact is gathered by its kind alone. -/
lemma receive_eq : ∃ invalid, g.receive fact = { g.gather fact with firstInvalid := invalid } := by
  unfold receive
  dsimp only
  split
  · exact ⟨_,rfl⟩
  · exact ⟨_,rfl⟩

lemma receive_loadedSignatures : (g.receive fact).loadedSignatures =
    insertText g.loadedSignatures (loadedSignature fact) := by
  obtain ⟨invalid,h⟩ := g.receive_eq fact
  rw [h]
  unfold gather loadedSignature
  cases campaignKind fact.kind <;> rfl

lemma receive_selectedSignatures : (g.receive fact).selectedSignatures =
    insertText g.selectedSignatures (selectedSignature fact) := by
  obtain ⟨invalid,h⟩ := g.receive_eq fact
  rw [h]
  unfold gather selectedSignature
  cases campaignKind fact.kind <;> try rfl
  dsimp only
  by_cases hselected : text fact "result" = some "selected" ∧ number fact "selected_signature" ≠ some 0
  · rw [if_pos hselected,if_pos ⟨rfl,hselected⟩]
  · rw [if_neg hselected,if_neg fun h => hselected h.2]
    rfl

lemma receive_occurrences :
    (g.receive fact).requestOccurrences =
      insertText g.requestOccurrences (occurrenceAt fact .playbackRequest) ∧
    (g.receive fact).decisionOccurrences =
      insertText g.decisionOccurrences (occurrenceAt fact .playbackDecision) ∧
    (g.receive fact).effectOccurrences =
      insertText g.effectOccurrences (occurrenceAt fact .playbackEffect) ∧
    (g.receive fact).mixOccurrences =
      insertText g.mixOccurrences (occurrenceAt fact .mixParticipant) := by
  obtain ⟨invalid,h⟩ := g.receive_eq fact
  rw [h]
  unfold gather occurrenceAt
  cases campaignKind fact.kind <;> exact ⟨rfl,rfl,rfl,rfl⟩

lemma receive_lists :
    (g.receive fact).mixRanges = g.mixRanges ++ (mixRangeOf fact).toList ∧
    (g.receive fact).outputLinks = g.outputLinks ++ outputLinksOf fact ∧
    (g.receive fact).pendingRestarts = g.pendingRestarts ++ (pendingRestart fact).toList := by
  obtain ⟨invalid,h⟩ := g.receive_eq fact
  rw [h]
  unfold gather mixRangeOf outputLinksOf pendingRestart
  cases campaignKind fact.kind <;> simp

lemma receive_occurrenceMixes (occurrence : ℕ) : (g.receive fact).occurrenceMixes occurrence =
    g.occurrenceMixes occurrence ++ (mixOf fact occurrence).toList := by
  obtain ⟨invalid,h⟩ := g.receive_eq fact
  rw [h]
  unfold gather mixOf
  cases campaignKind fact.kind
  case mixParticipant =>
    dsimp only
    cases number fact "occurrence" with
    | none => simp
    | some value =>
      by_cases hvalue : value = occurrence
      · subst hvalue
        simp
      · simp [hvalue,Function.update_of_ne (Ne.symm hvalue)]
  all_goals simp

lemma receive_voiceRanges (occurrence : ℕ) : (g.receive fact).voiceRanges occurrence =
    ((positionOf fact).toList.filter fun position => position.occurrence = occurrence).foldl extendBy
      (g.voiceRanges occurrence) := by
  obtain ⟨invalid,h⟩ := g.receive_eq fact
  rw [h]
  unfold gather positionOf
  cases campaignKind fact.kind
  case voicePositionSpan =>
    dsimp only
    unfold addPosition
    by_cases hvalid : validPosition fact = true
    · simp only [hvalid,if_true,and_self]
      cases number fact "occurrence" with
      | none => simp
      | some value =>
        cases number fact "source_begin" <;> cases number fact "source_end" <;>
          cases number fact "output_begin" <;> cases number fact "output_end" <;> try simp
        by_cases hvalue : value = occurrence
        · subst hvalue
          simp [extendBy]
        · simp [hvalue,Function.update_of_ne (Ne.symm hvalue)]
    · rw [if_neg fun h => hvalid h.2]
      cases number fact "occurrence" with
      | none => rfl
      | some value =>
        cases number fact "source_begin" <;> cases number fact "source_end" <;>
          cases number fact "output_begin" <;> cases number fact "output_end" <;> simp [hvalid]
  all_goals simp

lemma receive_typedPayloadComplete : (g.receive fact).typedPayloadComplete =
    (g.typedPayloadComplete && typedPayload fact) := by
  obtain ⟨invalid,h⟩ := g.receive_eq fact
  rw [h]
  unfold gather typedPayload
  cases campaignKind fact.kind <;> simp [Bool.and_assoc]

lemma receive_candidateIds : (g.receive fact).candidateIds =
    (candidateId fact).toList.toFinset ∪ g.candidateIds := by
  obtain ⟨invalid,h⟩ := g.receive_eq fact
  rw [h]
  unfold gather candidateId
  cases campaignKind fact.kind <;> simp

lemma receive_causalParent : (g.receive fact).causalParent =
    emplaceParent g.causalParent fact.id (parentOf fact g.candidateIds) := by
  obtain ⟨invalid,h⟩ := g.receive_eq fact
  rw [h]
  unfold gather parentOf
  cases campaignKind fact.kind <;> simp [emplaceParent]

end Gathered

section All
variable (facts : List Fact)

lemma gatherAll_append (fact : Fact) :
    gatherAll (facts ++ [fact]) = (gatherAll facts).receive fact := List.foldl_append

/-- A set that every fact may add a text to. -/
lemma gatherAll_texts (observe : Gathered → Finset String) (part : Fact → Option String)
    (hnone : observe {} = ∅)
    (h : ∀ g fact, observe (g.receive fact) = insertText (observe g) (part fact)) :
    observe (gatherAll facts) = textsOf facts part := by
  induction facts using List.reverseRecOn with
  | nil => exact hnone
  | append_singleton facts fact ih =>
    rw [gatherAll_append,h,ih]
    ext text
    cases hpart : part fact <;> simp [insertText,textsOf,hpart]

/-- A list that every fact may add entries to. -/
lemma gatherAll_list {β : Type} (observe : Gathered → List β) (part : Fact → List β)
    (hnone : observe {} = []) (h : ∀ g fact, observe (g.receive fact) = observe g ++ part fact) :
    observe (gatherAll facts) = facts.flatMap part := by
  induction facts using List.reverseRecOn with
  | nil => exact hnone
  | append_singleton facts fact ih => rw [gatherAll_append,h,ih,List.flatMap_append,List.flatMap_singleton]

lemma gatherAll_loadedSignatures : (gatherAll facts).loadedSignatures = textsOf facts loadedSignature :=
  gatherAll_texts facts _ _ rfl Gathered.receive_loadedSignatures

lemma gatherAll_selectedSignatures :
    (gatherAll facts).selectedSignatures = textsOf facts selectedSignature :=
  gatherAll_texts facts _ _ rfl Gathered.receive_selectedSignatures

lemma gatherAll_requestOccurrences : (gatherAll facts).requestOccurrences =
    textsOf facts fun fact => occurrenceAt fact .playbackRequest :=
  gatherAll_texts facts _ _ rfl fun g fact => (g.receive_occurrences fact).1

lemma gatherAll_decisionOccurrences : (gatherAll facts).decisionOccurrences =
    textsOf facts fun fact => occurrenceAt fact .playbackDecision :=
  gatherAll_texts facts _ _ rfl fun g fact => (g.receive_occurrences fact).2.1

lemma gatherAll_effectOccurrences : (gatherAll facts).effectOccurrences =
    textsOf facts fun fact => occurrenceAt fact .playbackEffect :=
  gatherAll_texts facts _ _ rfl fun g fact => (g.receive_occurrences fact).2.2.1

lemma gatherAll_mixOccurrences : (gatherAll facts).mixOccurrences =
    textsOf facts fun fact => occurrenceAt fact .mixParticipant :=
  gatherAll_texts facts _ _ rfl fun g fact => (g.receive_occurrences fact).2.2.2

lemma gatherAll_mixRanges : (gatherAll facts).mixRanges = facts.filterMap mixRangeOf := by
  rw [List.filterMap_eq_flatMap_toList]
  exact gatherAll_list facts _ _ rfl fun g fact => (g.receive_lists fact).1

lemma gatherAll_outputLinks : (gatherAll facts).outputLinks = outputLinks facts :=
  gatherAll_list facts _ _ rfl fun g fact => (g.receive_lists fact).2.1

lemma gatherAll_pendingRestarts : (gatherAll facts).pendingRestarts = restarts facts := by
  rw [restarts,List.filterMap_eq_flatMap_toList]
  exact gatherAll_list facts _ _ rfl fun g fact => (g.receive_lists fact).2.2

lemma gatherAll_occurrenceMixes (occurrence : ℕ) :
    (gatherAll facts).occurrenceMixes occurrence = mixesOf facts occurrence := by
  rw [mixesOf,List.filterMap_eq_flatMap_toList]
  exact gatherAll_list facts (fun g => g.occurrenceMixes occurrence) _ rfl
    fun g fact => g.receive_occurrenceMixes fact occurrence

lemma gatherAll_voiceRanges (occurrence : ℕ) :
    (gatherAll facts).voiceRanges occurrence = voiceRange facts occurrence := by
  induction facts using List.reverseRecOn with
  | nil => rfl
  | append_singleton facts fact ih =>
    rw [gatherAll_append,Gathered.receive_voiceRanges,ih]
    unfold voiceRange
    rw [List.filterMap_append,List.filter_append,List.foldl_append]
    cases hposition : positionOf fact <;> simp [hposition]

lemma gatherAll_typedPayloadComplete :
    (gatherAll facts).typedPayloadComplete = facts.all typedPayload := by
  induction facts using List.reverseRecOn with
  | nil => rfl
  | append_singleton facts fact ih =>
    rw [gatherAll_append,Gathered.receive_typedPayloadComplete,ih]
    simp

lemma gatherAll_candidateIds : (gatherAll facts).candidateIds = candidateIds facts := by
  induction facts using List.reverseRecOn with
  | nil => rfl
  | append_singleton facts fact ih =>
    rw [gatherAll_append,Gathered.receive_candidateIds,ih]
    unfold candidateIds
    rw [List.filterMap_append,List.toFinset_append,Finset.union_comm]
    cases hcandidate : candidateId fact <;> simp [hcandidate]

lemma gatherAll_counts : (gatherAll facts).counts = stageCounts facts := by
  induction facts using List.reverseRecOn with
  | nil => rfl
  | append_singleton facts fact ih =>
    obtain ⟨invalid,h⟩ := (gatherAll facts).receive_eq fact
    rw [gatherAll_append,h]
    unfold stageCounts countKind countWith at ih ⊢
    unfold Gathered.gather
    simp only [List.countP_append,List.countP_singleton]
    cases campaignKind fact.kind <;> simp [ih]

end All

section Orders
variable {facts facts' : List Fact} (h : facts'.Perm facts)
include h

lemma stageCounts_perm : stageCounts facts' = stageCounts facts := by
  unfold stageCounts countKind countWith
  simp only [h.countP_eq]

lemma textsOf_perm (part : Fact → Option String) : textsOf facts' part = textsOf facts part :=
  List.toFinset_eq_of_perm _ _ (h.filterMap part)

lemma mixesOf_perm (occurrence : ℕ) : (mixesOf facts' occurrence).Perm (mixesOf facts occurrence) :=
  h.filterMap _

lemma restarts_perm : (restarts facts').Perm (restarts facts) := h.filterMap _

/-- The spans of a voice extend its range in any order. -/
lemma voiceRange_perm (occurrence : ℕ) : voiceRange facts' occurrence = voiceRange facts occurrence := by
  have hcomm : RightCommutative extendBy := by
    refine ⟨fun range position other => ?_⟩
    simp only [extendBy,extendRange,Option.getD_some,min_right_comm,max_right_comm]
  exact ((h.filterMap positionOf).filter _).foldl_eq none

end Orders
end AytherRuntime.Campaign
