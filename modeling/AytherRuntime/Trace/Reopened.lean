import AytherRuntime.Library.Search
import AytherRuntime.Trace.LossFree
import Mathlib.Data.List.Pairwise

/-! How the reopened evidence follows a summary: by the texts of the identities, through the causes of
the facts that carry them. -/
namespace AytherRuntime.Trace
open Relation

/-- `domain_id` -/
def domainId (runId : String) (id : CompactId) : FactId :=
  ⟨runId,"engine-" ++ toString id.producer,id.sequence⟩

def findFact (facts : List Fact) (id : FactId) : Option Fact := facts.find? fun fact => fact.id = id

def causeFactId : Cause → Option FactId
  | .fact id => some id
  | .preexistingContext _ => none

/-- The facts that the loop of `ancestor` goes through. -/
def causeGraph (facts : List Fact) : Search.Graph FactId where
  nodes := facts.map Fact.id
  next := fun id =>
    match findFact facts id with
    | none => []
    | some fact => fact.causeIds.filterMap causeFactId
  mem := by
    intro id hnext
    cases hfact : findFact facts id with
    | none => simp [hfact] at hnext
    | some fact =>
      have hid := List.find?_some hfact
      exact List.mem_map.mpr ⟨fact,List.mem_of_find?_eq_some hfact,by simpa using hid⟩

def ancestor (facts : List Fact) (origin descendant : FactId) : Bool :=
  Search.search (causeGraph facts) origin [descendant] []

/-- The relations that a complete chain claims: an ancestor and its descendant. -/
def ReplayTraceSummary.relations (trace : ReplayTraceSummary) : List (CompactId × CompactId) :=
  [(trace.ingress,trace.candidate),(trace.candidate,trace.selection),
    (trace.selection,trace.playbackRequest),(trace.playbackRequest,trace.playbackDecision),
    (trace.playbackDecision,trace.playbackEffect),(trace.playbackRequest,trace.mixSpan)]

def reopenedRelationships (facts : List Fact) (runId : String) (trace : ReplayTraceSummary) : Bool :=
  match findFact facts (domainId runId trace.playbackRequest) with
  | none => false
  | some requestFact => decide <|
    requestFact.occurrenceId.value = some (toString trace.occurrence) ∧
      trace.relations.all fun relation =>
        ancestor facts (domainId runId relation.1) (domainId runId relation.2)

variable {runId : String} {facts facts' : List Fact}

/-- A producer text that the trace reads as one of the Engine. -/
def EngineText (id : FactId) : Prop := (producerNumber id.producerId).isSome

/-- A fact names another one, by its text, as a cause. -/
def TextCause (facts : List Fact) (earlier later : FactId) : Prop :=
  ∃ fact ∈ facts, fact.id = later ∧ Cause.fact earlier ∈ fact.causeIds

lemma producerNumber_domainId {id : CompactId} (hid : id.Valid) :
    producerNumber (domainId runId id).producerId = some id.producer := by
  have hfree : ¬(id.producer = 0 ∨ producerSlots < id.producer) := by
    obtain ⟨hp,hp',-⟩ := hid
    omega
  rw [domainId,producerNumber_engine,if_neg hfree]

lemma domainId_engineText {id : CompactId} (hid : id.Valid) : EngineText (domainId runId id) := by
  rw [EngineText,producerNumber_domainId hid]
  rfl

/-- A readable fact with an Engine text is an Engine fact of the identity it spells. -/
lemma reading_of_engineText {fact : Fact} (hread : reading runId fact ≠ .rejected)
    (htext : EngineText fact.id) : ∃ pending, reading runId fact = .engine pending ∧
      producerNumber fact.id.producerId = some pending.id.producer ∧
      fact.id.producerSequence = pending.id.sequence ∧ fact.id.runId = runId := by
  obtain ⟨producer,hproducer⟩ := Option.isSome_iff_exists.mp htext
  have hinspection : fact.id.producerId ≠ inspectionProducer := by
    intro hsame
    have hnone : producerNumber inspectionProducer = none := by decide +kernel
    rw [hsame,hnone] at hproducer
    cases hproducer
  unfold reading at hread ⊢
  by_cases hguard : fact.id.runId ≠ runId ∨ fact.id.producerSequence = 0
  · exact absurd (if_pos hguard) hread
  rw [if_neg hguard,if_neg hinspection] at hread ⊢
  unfold engineReading at hread ⊢
  rw [hproducer] at hread ⊢
  dsimp only at hread ⊢
  by_cases hmax : maxReplayTraceFacts < fact.id.producerSequence
  · exact absurd (if_pos hmax) hread
  rw [if_neg hmax] at hread ⊢
  cases hcauses : Accumulator.compactCauses runId (traceKind fact.kind) fact.causeIds with
  | none => simp [hcauses] at hread
  | some causes =>
    rw [not_or,not_not] at hguard
    exact ⟨_,rfl,rfl,rfl,hguard.1⟩

/-- The causes of an Engine fact are spelled as Engine facts of the run. -/
lemma compactCauses_engineText {kind : TraceKind} {causes : List Cause} {kept : List CompactId}
    (h : Accumulator.compactCauses runId kind causes = some kept) {id : FactId}
    (hid : Cause.fact id ∈ causes) : EngineText id := by
  induction causes generalizing kept with
  | nil => cases hid
  | cons cause causes ih =>
    cases cause with
    | preexistingContext =>
      exact ih h ((List.mem_cons.mp hid).resolve_left (by simp))
    | fact first =>
      unfold Accumulator.compactCauses at h
      split at h
      · cases h
      rename_i producer hproducer
      rcases List.mem_cons.mp hid with hsame | hrest
      · cases hsame
        simp [EngineText,hproducer]
      · split at h
        · cases h
        split at h
        · exact ih h hrest
        · obtain ⟨rest,hkept,-⟩ := Option.map_eq_some_iff.mp h
          exact ih hkept hrest

lemma reading_causes {fact : Fact} {pending : PendingFact} (h : reading runId fact = .engine pending) :
    Accumulator.compactCauses runId (traceKind fact.kind) fact.causeIds = some pending.causes := by
  unfold reading at h
  split at h
  · cases h
  split at h
  · unfold inspectionReading at h
    repeat' split at h
    all_goals cases h
  unfold engineReading at h
  split at h
  · cases h
  split at h
  · cases h
  split at h
  · cases h
  rename_i causes hcauses
  cases h
  exact hcauses

/-- Facts that take an identity in common are one fact. -/
lemma claims_injective (h : (claimed runId facts).Nodup) {fact other : Fact} (hfact : fact ∈ facts)
    (hother : other ∈ facts) {id : CompactId} (hid : id ∈ (reading runId fact).claims)
    (hid' : id ∈ (reading runId other).claims) : fact = other := by
  by_contra hne
  have hpairwise := (List.nodup_flatMap.mp h).2
  have hsymm : Std.Symm (Function.onFun List.Disjoint fun fact => (reading runId fact).claims) :=
    ⟨fun _ _ hdisjoint _ hx hy => hdisjoint hy hx⟩
  exact hpairwise.forall hfact hother hne hid hid'

section Accounted
variable (haccounted : Accounted runId facts)
include haccounted

lemma Accounted.findFact_iff {id : FactId} (hid : EngineText id) {fact : Fact} :
    findFact facts id = some fact ↔ fact ∈ facts ∧ fact.id = id := by
  constructor
  · intro hfound
    exact ⟨List.mem_of_find?_eq_some hfound,by simpa using List.find?_some hfound⟩
  · rintro ⟨hfact,rfl⟩
    have hsome : (findFact facts fact.id).isSome := List.find?_isSome.mpr ⟨fact,hfact,by simp⟩
    obtain ⟨other,hother⟩ := Option.isSome_iff_exists.mp hsome
    have hmem := List.mem_of_find?_eq_some hother
    have hsame : other.id = fact.id := by simpa using List.find?_some hother
    obtain ⟨pending,hreading,hproducer,hsequence,-⟩ :=
      reading_of_engineText (haccounted.readable fact hfact) hid
    obtain ⟨pending',hreading',hproducer',hsequence',-⟩ :=
      reading_of_engineText (haccounted.readable other hmem) (hsame ▸ hid)
    have hids : pending.id = pending'.id := by
      rw [hsame,hproducer] at hproducer'
      rw [hsame,hsequence] at hsequence'
      cases hp : pending.id
      cases hp' : pending'.id
      rw [hp,hp'] at hproducer' hsequence'
      simp only [Option.some.injEq] at hproducer' hsequence'
      rw [hproducer',hsequence']
    have hclaims : pending.id ∈ (reading runId fact).claims := by simp [hreading,Reading.claims]
    have hclaims' : pending.id ∈ (reading runId other).claims := by
      simp [hreading',Reading.claims,hids]
    rw [hother,claims_injective haccounted.disjoint hmem hfact hclaims' hclaims]

lemma Accounted.textCause_engineText {earlier later : FactId} (hlater : EngineText later)
    (h : TextCause facts earlier later) : EngineText earlier := by
  obtain ⟨fact,hfact,rfl,hcause⟩ := h
  obtain ⟨pending,hreading,-⟩ := reading_of_engineText (haccounted.readable fact hfact) hlater
  exact compactCauses_engineText (reading_causes hreading) hcause

lemma Accounted.follows_iff {earlier later : FactId} (hlater : EngineText later) :
    Search.Follows (causeGraph facts) later earlier ↔ TextCause facts earlier later := by
  unfold Search.Follows causeGraph TextCause
  dsimp only
  have hkeep : ∀ causes : List Cause, earlier ∈ causes.filterMap causeFactId ↔
      Cause.fact earlier ∈ causes := by
    intro causes
    rw [List.mem_filterMap]
    constructor
    · rintro ⟨cause,hcause,hid⟩
      cases cause with
      | fact id => cases hid; exact hcause
      | preexistingContext => cases hid
    · exact fun hcause => ⟨_,hcause,rfl⟩
  cases hfound : findFact facts later with
  | none =>
    simp only [List.not_mem_nil,false_iff]
    rintro ⟨fact,hfact,hid,-⟩
    rw [(haccounted.findFact_iff hlater).mpr ⟨hfact,hid⟩] at hfound
    cases hfound
  | some fact =>
    obtain ⟨hfact,hid⟩ := (haccounted.findFact_iff hlater).mp hfound
    rw [hkeep]
    refine ⟨fun hcause => ⟨fact,hfact,hid,hcause⟩,?_⟩
    rintro ⟨other,hother,hid',hcause⟩
    rw [(haccounted.findFact_iff hlater).mpr ⟨hother,hid'⟩] at hfound
    cases hfound
    exact hcause

/-- Among the facts of a run, the search follows the causes by their texts. -/
theorem Accounted.ancestor_iff {origin descendant : FactId} (hdescendant : EngineText descendant) :
    ancestor facts origin descendant = true ↔ ReflTransGen (TextCause facts) origin descendant := by
  unfold ancestor
  rw [Search.search_start_iff]
  constructor
  · intro hpath
    induction hpath using ReflTransGen.head_induction_on with
    | refl => exact .refl
    | head hstep _ ih =>
      have hcause := (haccounted.follows_iff hdescendant).mp hstep
      exact (ih (haccounted.textCause_engineText hdescendant hcause)).tail hcause
  · intro hpath
    induction hpath with
    | refl => exact .refl
    | tail _ hcause ih =>
      have hearlier := haccounted.textCause_engineText hdescendant hcause
      exact .head ((haccounted.follows_iff hdescendant).mpr hcause) (ih hearlier)

end Accounted

/-- The request of a summary has its occurrence as text, and its relations hold by the texts of the
identities. -/
structure Spelled (runId : String) (facts : List Fact) (trace : ReplayTraceSummary) : Prop where
  occurrence : ∃ fact ∈ facts, fact.id = domainId runId trace.playbackRequest ∧
    fact.occurrenceId.value = some (toString trace.occurrence)
  relations : ∀ relation ∈ trace.relations,
    ReflTransGen (TextCause facts) (domainId runId relation.1) (domainId runId relation.2)

/-- The reopened evidence accepts exactly what the texts spell. -/
theorem Accounted.reopenedRelationships_iff (haccounted : Accounted runId facts)
    {trace : ReplayTraceSummary} (hrequest : trace.playbackRequest.Valid)
    (hvalid : ∀ relation ∈ trace.relations, relation.2.Valid) :
    reopenedRelationships facts runId trace = true ↔ Spelled runId facts trace := by
  have hrelations : (trace.relations.all fun relation =>
      ancestor facts (domainId runId relation.1) (domainId runId relation.2)) = true ↔
      ∀ relation ∈ trace.relations,
        ReflTransGen (TextCause facts) (domainId runId relation.1) (domainId runId relation.2) := by
    rw [List.all_eq_true]
    refine forall₂_congr fun relation hrelation => ?_
    exact haccounted.ancestor_iff (domainId_engineText (hvalid relation hrelation))
  have htext : EngineText (domainId runId trace.playbackRequest) := domainId_engineText hrequest
  unfold reopenedRelationships
  constructor
  · intro haccepts
    cases hfact : findFact facts (domainId runId trace.playbackRequest) with
    | none => simp [hfact] at haccepts
    | some fact =>
      rw [hfact,decide_eq_true_eq] at haccepts
      obtain ⟨hmem,hid⟩ := (haccounted.findFact_iff htext).mp hfact
      exact ⟨⟨fact,hmem,hid,haccepts.1⟩,hrelations.mp haccepts.2⟩
  · rintro ⟨⟨fact,hmem,hid,hoccurrence⟩,hall⟩
    rw [(haccounted.findFact_iff htext).mpr ⟨hmem,hid⟩,decide_eq_true_eq]
    exact ⟨hoccurrence,hrelations.mpr hall⟩

end AytherRuntime.Trace
