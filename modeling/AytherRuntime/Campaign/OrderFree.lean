import AytherRuntime.Campaign.Restarts
import AytherRuntime.Trace.Genuine
import AytherRuntime.Trace.Verdict

/-! When the campaign audit of a run depends on the order in which its fragments hold the facts. -/
namespace AytherRuntime.Campaign
open Arrangement Audio Trace

section Audits

/-- Two summaries have the same restarts and the same verdicts. -/
structure SameSummary (s s' : CampaignAuditSummary) : Prop where
  restarts : SameRestarts s.restarts s'.restarts
  stageRelationsComplete : s.stageRelationsComplete = s'.stageRelationsComplete
  typedPayloadComplete : s.typedPayloadComplete = s'.typedPayloadComplete
  complete : s.complete = s'.complete

def SameAudit (audit audit' : Except CampaignAuditError CampaignAuditSummary) : Prop :=
  match audit, audit' with
  | .ok s, .ok s' => SameSummary s s'
  | .error error, .error error' => error = error'
  | _, _ => False

/-- The fragments of a run are numbered from one. -/
def Numbered (fragments : List StoredFactFragment) : Prop :=
  fragments.map StoredFactFragment.sequence = List.range' 1 fragments.length

def factsOf (fragments : List StoredFactFragment) : List Fact := fragments.flatMap StoredFactFragment.facts

variable (runId : String) (expectedAssignments : ℕ) (facts : List Fact) (audio : List BlockReading)

/-- Every two orders of the facts inside the fragments that are free of loss have the same audit. -/
def AuditOrderFree : Prop :=
  ∀ hash hash' fragments fragments', Numbered fragments → Numbered fragments' →
    (factsOf fragments).Perm facts → (factsOf fragments').Perm facts →
    (traceSummary hash runId (factsOf fragments) true).lossFree = true →
    (traceSummary hash' runId (factsOf fragments') true).lossFree = true →
    SameAudit (auditCampaignEvidence hash runId expectedAssignments (fragments.map some) audio)
      (auditCampaignEvidence hash' runId expectedAssignments (fragments'.map some) audio)

/-- The facts and their fields can be counted. -/
def Counted : Prop :=
  facts.length ≤ maxUInt64 ∧ (facts.map fun fact => fact.fields.length).sum ≤ maxUInt64

instance : Decidable (Counted facts) := inferInstanceAs (Decidable (_ ∧ _))

/-- What the audit of a run needs to give a summary: its arguments, facts that account for the run,
and its audio. -/
structure Audited (evidence : AudioEvidence) : Prop where
  expected : 1 ≤ expectedAssignments ∧ expectedAssignments ≤ maxReferenceMaterials
  run : runId ≠ "" ∧ runId.utf8ByteSize ≤ maxIdentityBytes
  nonempty : facts ≠ []
  accounted : Accounted runId facts
  counted : Counted facts
  audio : readAudio runId audio = some evidence

/-- The relations between the stages, besides the causes. -/
structure StagesRelated : Prop where
  declared : (stageCounts facts).declaredAssignments = expectedAssignments
  parsed : (stageCounts facts).parsedAssignments = expectedAssignments
  loaded : (textsOf facts loadedSignature).card = expectedAssignments
  present : 0 < (stageCounts facts).detectorInputs ∧ 0 < (stageCounts facts).detectorBatches ∧
    0 < (stageCounts facts).candidates ∧ 0 < (stageCounts facts).selections ∧
      0 < (stageCounts facts).playbackRequests ∧ 0 < (stageCounts facts).mixSpans
  decided : (stageCounts facts).playbackRequests = (stageCounts facts).playbackDecisions
  effected : (stageCounts facts).playbackRequests = (stageCounts facts).playbackEffects
  positioned : (stageCounts facts).positionSpans = (stageCounts facts).mixSpans
  reasoned : (stageCounts facts).reasonedDecisions = (stageCounts facts).playbackDecisions ∧
    (stageCounts facts).reasonedEnds = (stageCounts facts).voiceEnds
  occurrences : ∀ kind ∈ [CampaignKind.playbackDecision,.playbackEffect,.mixParticipant],
    (textsOf facts fun fact => occurrenceAt fact .playbackRequest) ⊆
      textsOf facts fun fact => occurrenceAt fact kind
  selected : textsOf facts selectedSignature ⊆ textsOf facts loadedSignature

/-- The audio overlaps the range of a mix. -/
def Routed (audioRanges : List SampleFrameRange) (mix : CompactId) : Prop :=
  ∃ range ∈ facts.filterMap mixRangeOf, range.id = engineFactId runId mix ∧
    ∃ output, audioRanges.find? (overlaps range) = some output ∧
      max output.begin range.begin < min output.stop range.stop

/-- What an audit says of a run that does not depend on the order of its facts: the evidence of its
restarts; where the other relations hold, whether an audio chain connects; and where all else is
complete, whether the mix of the chain that is published first has audio. -/
structure AuditFixed (evidence : AudioEvidence) : Prop where
  restarts : RestartsFixed facts evidence.pcmIdentityRanges
  connected : StagesRelated expectedAssignments facts → ∀ first first',
    FirstEffects runId facts first → FirstEffects runId facts first' →
      (Connects runId facts first ↔ Connects runId facts first')
  routed : facts.all typedPayload = true → StagesRelated expectedAssignments facts →
    evidence.complete = true → ∀ l mix l' mix', Reportable runId facts l mix →
      Reportable runId facts l' mix' →
        (Routed runId facts evidence.audioRanges mix ↔ Routed runId facts evidence.audioRanges mix')

end Audits

section Pass
variable {hash : HashOrder} {runId : String}

lemma addChecked_eq {target : ℕ} (h : target ≤ maxUInt64) (value : ℕ) :
    addChecked target value = if target + value ≤ maxUInt64 then some (target + value) else none := by
  unfold addChecked
  by_cases hfits : target + value ≤ maxUInt64
  · rw [if_neg (by omega),if_pos hfits]
  · rw [if_pos (by omega),if_neg hfits]

/-- The pass over facts that the trace takes counts them all, or stops where they are too many. -/
lemma foldlM_fact (facts : List Fact) (pass : FactPass)
    (hvalid : (pass.trace.consumeAll hash facts).valid = true)
    (hrun : ∀ fact ∈ facts, fact.id.runId = runId)
    (hcounted : pass.facts ≤ maxUInt64 ∧ pass.typedFields ≤ maxUInt64) :
    facts.foldlM (FactPass.fact hash runId) pass =
      if pass.facts + facts.length ≤ maxUInt64 ∧
          pass.typedFields + (facts.map fun fact => fact.fields.length).sum ≤ maxUInt64 then
        some { pass with
          trace := pass.trace.consumeAll hash facts
          facts := pass.facts + facts.length
          typedFields := pass.typedFields + (facts.map fun fact => fact.fields.length).sum
          gathered := facts.foldl Gathered.receive pass.gathered }
      else none := by
  induction facts generalizing pass with
  | nil =>
    rw [if_pos (by simpa using hcounted)]
    rfl
  | cons fact facts ih =>
    have hone : (pass.trace.consumeAll hash [fact]).valid = true := valid_of_append hvalid
    change (pass.trace.consume hash fact).valid = true at hone
    have hfirst : ¬(fact.id.runId ≠ runId ∨ (pass.trace.consume hash fact).valid = false) := by
      rw [hone,hrun fact (List.mem_cons_self ..)]
      simp
    rw [List.foldlM_cons,FactPass.fact,if_neg hfirst,addChecked_eq hcounted.1,addChecked_eq hcounted.2]
    simp only [List.length_cons,List.map_cons,List.sum_cons]
    by_cases hfacts : pass.facts + 1 ≤ maxUInt64
    · by_cases hfields : pass.typedFields + fact.fields.length ≤ maxUInt64
      · rw [if_pos hfacts,if_pos hfields]
        refine (ih _ hvalid (fun other hother => hrun other (List.mem_cons_of_mem _ hother))
          ⟨hfacts,hfields⟩).trans ?_
        simp only [Nat.add_assoc,Nat.add_comm 1]
        rfl
      · rw [if_pos hfacts,if_neg hfields,if_neg (by omega)]
        rfl
    · rw [if_neg hfacts,if_neg (c := _ ∧ _) (by omega)]
      rfl

lemma foldlM_fragment (fragments : List StoredFactFragment) (pass : FactPass)
    (hnumbered : fragments.map StoredFactFragment.sequence =
      List.range' (pass.factFragments + 1) fragments.length)
    (hvalid : (pass.trace.consumeAll hash (factsOf fragments)).valid = true)
    (hrun : ∀ fact ∈ factsOf fragments, fact.id.runId = runId)
    (hcounted : pass.facts ≤ maxUInt64 ∧ pass.typedFields ≤ maxUInt64) :
    (fragments.map some).foldlM (FactPass.fragment hash runId) pass =
      if pass.facts + (factsOf fragments).length ≤ maxUInt64 ∧
          pass.typedFields + ((factsOf fragments).map fun fact => fact.fields.length).sum ≤ maxUInt64 then
        some {
          trace := pass.trace.consumeAll hash (factsOf fragments)
          factFragments := pass.factFragments + fragments.length
          facts := pass.facts + (factsOf fragments).length
          typedFields := pass.typedFields + ((factsOf fragments).map fun fact => fact.fields.length).sum
          gathered := (factsOf fragments).foldl Gathered.receive pass.gathered }
      else none := by
  induction fragments generalizing pass with
  | nil =>
    rw [if_pos (by simpa [factsOf] using hcounted)]
    rfl
  | cons fragment fragments ih =>
    rw [List.map_cons,List.length_cons,List.range'_succ,List.cons.injEq] at hnumbered
    have hsplit : factsOf (fragment :: fragments) = fragment.facts ++ factsOf fragments :=
      List.flatMap_cons
    rw [hsplit] at hvalid hrun ⊢
    have hfirst := foldlM_fact fragment.facts { pass with factFragments := pass.factFragments + 1 }
      (valid_of_append hvalid) (fun fact hfact => hrun fact (List.mem_append_left _ hfact)) hcounted
    rw [List.map_cons,List.foldlM_cons,FactPass.fragment,if_neg (by simp [hnumbered.1]),hfirst]
    dsimp only
    simp only [List.length_append,List.map_append,List.sum_append,← Nat.add_assoc,List.foldl_append]
    by_cases hfits : pass.facts + fragment.facts.length ≤ maxUInt64 ∧
        pass.typedFields + (fragment.facts.map fun fact => fact.fields.length).sum ≤ maxUInt64
    · rw [if_pos hfits]
      refine (ih _ hnumbered.2 ?_ (fun fact hfact => hrun fact (List.mem_append_right _ hfact)) hfits).trans ?_
      · rw [← consumeAll_append]
        exact hvalid
      · rw [consumeAll_append]
        simp only [List.length_cons,Nat.add_assoc,Nat.add_comm 1]
    · rw [if_neg hfits,if_neg (by omega)]
      rfl

end Pass

section Order
variable {runId : String} {expectedAssignments : ℕ} {facts facts' : List Fact} {audio : List BlockReading}
  {evidence : AudioEvidence} {hash : HashOrder} {fragments : List StoredFactFragment}

/-- The pass over the fragments of a run free of loss. -/
def passOf (hash : HashOrder) (runId : String) (fragments : List StoredFactFragment) : FactPass where
  trace := (Accumulator.new runId).consumeAll hash (factsOf fragments)
  factFragments := fragments.length
  facts := (factsOf fragments).length
  typedFields := ((factsOf fragments).map fun fact => fact.fields.length).sum
  gathered := gatherAll (factsOf fragments)

lemma readFacts_eq (hnumbered : Numbered fragments)
    (hloss : (traceSummary hash runId (factsOf fragments) true).lossFree = true) :
    readFacts hash runId (fragments.map some) =
      if Counted (factsOf fragments) then some (passOf hash runId fragments) else none := by
  have hvalid := (summary_lossFree_iff.mp hloss).2.1
  obtain ⟨-,haccounted⟩ := accounted_of_lossFree hloss
  have hrun : ∀ fact ∈ factsOf fragments, fact.id.runId = runId := by
    intro fact hfact
    by_contra hother
    exact haccounted.readable fact hfact (if_pos (Or.inl hother))
  refine (foldlM_fragment fragments { trace := Accumulator.new runId } hnumbered hvalid hrun
    ⟨Nat.zero_le _,Nat.zero_le _⟩).trans ?_
  simp only [Nat.zero_add]
  rfl

lemma Counted.perm (h : Counted facts) (hperm : facts'.Perm facts) : Counted facts' :=
  ⟨hperm.length_eq ▸ h.1,(hperm.map fun fact => fact.fields.length).sum_eq ▸ h.2⟩

lemma factsOf_eq_nil : factsOf fragments = [] ↔ fragments = [] := by
  rw [factsOf,List.flatMap_eq_nil_iff]
  constructor
  · intro h
    cases fragments with
    | nil => rfl
    | cons fragment fragments => exact absurd (h fragment (List.mem_cons_self ..)) fragment.nonempty
  · rintro rfl
    exact fun _ hmem => by cases hmem

lemma readAudio_nil : readAudio runId [] = none := rfl

/-- A run that can be audited has a summary, of the pass over its fragments. -/
lemma audit_ok (haudited : Audited runId expectedAssignments facts audio evidence)
    (hnumbered : Numbered fragments) (hperm : (factsOf fragments).Perm facts)
    (hloss : (traceSummary hash runId (factsOf fragments) true).lossFree = true) :
    auditCampaignEvidence hash runId expectedAssignments (fragments.map some) audio =
      .ok (summarize runId expectedAssignments (passOf hash runId fragments) evidence audio.length) := by
  have harguments : ¬(runId = "" ∨ maxIdentityBytes < runId.utf8ByteSize ∨ expectedAssignments = 0 ∨
      maxReferenceMaterials < expectedAssignments) := by
    have hexpected := haudited.expected
    have hrun := haudited.run
    rintro (hnone | hlong | hzero | hmany)
    · exact hrun.1 hnone
    · omega
    · omega
    · omega
  have hfiles : ¬(fragments.map some = [] ∨ audio = []) := by
    rintro (hnone | rfl)
    · rw [List.map_eq_nil_iff] at hnone
      exact haudited.nonempty (List.nil_perm.mp (factsOf_eq_nil.mpr hnone ▸ hperm))
    · have haudio := haudited.audio
      rw [readAudio_nil] at haudio
      cases haudio
  rw [auditCampaignEvidence,if_neg harguments,if_neg hfiles,readFacts_eq hnumbered hloss,
    if_pos (haudited.counted.perm hperm),haudited.audio]

/-- The other runs have one error, in every order of their facts. -/
lemma exists_audit_error (hnot : ∀ evidence, ¬Audited runId expectedAssignments facts audio evidence) :
    ∃ error, ∀ hash fragments, Numbered fragments → (factsOf fragments).Perm facts →
      (traceSummary hash runId (factsOf fragments) true).lossFree = true →
        auditCampaignEvidence hash runId expectedAssignments (fragments.map some) audio = .error error := by
  by_cases harguments : runId = "" ∨ maxIdentityBytes < runId.utf8ByteSize ∨ expectedAssignments = 0 ∨
      maxReferenceMaterials < expectedAssignments
  · exact ⟨.invalidInput,fun hash fragments _ _ _ => by rw [auditCampaignEvidence,if_pos harguments]⟩
  by_cases hempty : facts = [] ∨ audio = []
  · refine ⟨.evidenceUnavailable,fun hash fragments _ hperm _ => ?_⟩
    have hfiles : fragments.map some = [] ∨ audio = [] := by
      rcases hempty with rfl | haudio
      · exact Or.inl (by rw [factsOf_eq_nil.mp hperm.eq_nil]; rfl)
      · exact Or.inr haudio
    rw [auditCampaignEvidence,if_neg harguments,if_pos hfiles]
  rw [not_or] at hempty
  have hfiles : ∀ fragments, (factsOf fragments).Perm facts → ¬(fragments.map some = [] ∨ audio = []) := by
    rintro fragments hperm (hnone | haudio)
    · rw [List.map_eq_nil_iff] at hnone
      exact hempty.1 (List.nil_perm.mp (factsOf_eq_nil.mpr hnone ▸ hperm))
    · exact hempty.2 haudio
  by_cases hcounted : Counted facts
  · refine ⟨.audioIntegrityFailed,fun hash fragments hnumbered hperm hloss => ?_⟩
    have haudio : readAudio runId audio = none := by
      cases haudio : readAudio runId audio with
      | none => rfl
      | some evidence =>
        obtain ⟨hrun,haccounted⟩ := accounted_of_lossFree hloss
        exact absurd ⟨⟨by omega,by omega⟩,hrun,hempty.1,haccounted.perm hperm.symm,hcounted,haudio⟩
          (hnot evidence)
    rw [auditCampaignEvidence,if_neg harguments,if_neg (hfiles fragments hperm),readFacts_eq hnumbered hloss,
      if_pos (hcounted.perm hperm),haudio]
  · refine ⟨.factIntegrityFailed,fun hash fragments hnumbered hperm hloss => ?_⟩
    rw [auditCampaignEvidence,if_neg harguments,if_neg (hfiles fragments hperm),readFacts_eq hnumbered hloss,
      if_neg fun hsame => hcounted (hsame.perm hperm.symm)]

/-- The facts that the audit knows are facts of the Engine. -/
lemma isEngine_of_known {fact : Fact} (hreadable : reading runId fact ≠ .rejected)
    (hknown : isKnown fact = true) : isEngine runId fact = true := by
  have hkind : campaignKind fact.kind ≠ .other := by simpa [isKnown] using hknown
  unfold Trace.reading at hreadable
  unfold isEngine Trace.reading
  split at hreadable
  · exact absurd rfl hreadable
  · rename_i hrun
    rw [if_neg hrun]
    split at hreadable
    · exfalso
      unfold inspectionReading at hreadable
      by_cases hexclusion : fact.kind = "fact_exclusion"
      · exact hkind (by rw [hexclusion]; rfl)
      · by_cases hcompiled : fact.kind = "timeline_compiled"
        · exact hkind (by rw [hcompiled]; rfl)
        · by_cases hinspection : fact.kind ∈ Accumulator.inspectionKinds
          · simp only [Accumulator.inspectionKinds,List.mem_cons,List.not_mem_nil,or_false] at hinspection
            rcases hinspection with h | h | h <;> exact hkind (by rw [h]; rfl)
          · rw [if_neg hexclusion,if_neg hcompiled,if_neg hinspection] at hreadable
            exact hreadable rfl
    · rename_i hproducer
      rw [if_neg hproducer]
      unfold engineReading at hreadable ⊢
      cases hnumber : producerNumber fact.id.producerId with
      | none => simp [hnumber] at hreadable
      | some producer =>
        simp only [hnumber] at hreadable ⊢
        split at hreadable
        · exact absurd rfl hreadable
        · rename_i hsequence
          rw [if_neg hsequence]
          cases hcauses : Accumulator.compactCauses runId (traceKind fact.kind) fact.causeIds with
          | none => simp [hcauses] at hreadable
          | some causes => rfl

/-- The identity of an Engine fact is read off the one it carries. -/
lemma engineId_of_id {fact other : Fact} (h : isEngine runId fact = true)
    (hother : isEngine runId other = true) (hid : fact.id = other.id) :
    engineId runId fact = engineId runId other := by
  have hread : ∀ {fact : Fact}, isEngine runId fact = true →
      (producerNumber fact.id.producerId).map (fun producer => (⟨producer,fact.id.producerSequence⟩ : CompactId)) =
        some (engineId runId fact) := by
    intro fact h
    obtain ⟨pending,hreading⟩ := isEngine_iff.mp h
    rw [engineId_eq hreading]
    unfold Trace.reading at hreading
    split at hreading
    · cases hreading
    · split at hreading
      · unfold inspectionReading at hreading
        repeat' split at hreading
        all_goals cases hreading
      · unfold engineReading at hreading
        split at hreading
        · cases hreading
        · rename_i producer hnumber
          split at hreading
          · cases hreading
          · split at hreading
            · cases hreading
            · cases hreading
              rw [hnumber]
              rfl
  exact Option.some.inj ((hread h).symm.trans (by rw [hid]; exact hread hother))

lemma distinct_of_accounted (h : Accounted runId facts) : Distinct facts := by
  have hnodup := h.disjoint.sublist (engineIds_sublist runId facts)
  have hsub : (facts.filter isKnown).Sublist (facts.filter (isEngine runId)) := by
    have hknown : facts.filter isKnown = (facts.filter (isEngine runId)).filter isKnown := by
      rw [List.filter_filter]
      refine List.filter_congr fun fact hfact => ?_
      cases hk : isKnown fact with
      | false => rfl
      | true => rw [isEngine_of_known (h.readable fact hfact) hk]; rfl
    rw [hknown]
    exact List.filter_sublist
  have hids := hnodup.sublist (hsub.map _)
  refine (List.nodup_map_iff_inj_on (List.Nodup.of_map _ hids)).mpr fun fact hfact other hother hid => ?_
  have hengine := fun {fact : Fact} (hfact : fact ∈ facts.filter isKnown) =>
    (List.mem_filter.mp (hsub.subset hfact)).2
  exact List.inj_on_of_nodup_map hids hfact hother (engineId_of_id (hengine hfact) (hengine hother) hid)

/-- The relations between the stages are those of the facts, in every order. -/
lemma stageRelations_iff (hperm : facts'.Perm facts) (trace : ReplayTraceSummary) :
    stageRelations expectedAssignments (gatherAll facts') trace = true ↔
      trace.lossFree = true ∧ trace.causallyConnected = true ∧ StagesRelated expectedAssignments facts := by
  simp only [stageRelations,Bool.and_eq_true,decide_eq_true_eq,gatherAll_counts,stageCounts_perm hperm,
    gatherAll_loadedSignatures,gatherAll_selectedSignatures,gatherAll_requestOccurrences,
    gatherAll_decisionOccurrences,gatherAll_effectOccurrences,gatherAll_mixOccurrences,textsOf_perm hperm]
  constructor
  · rintro ⟨⟨⟨⟨⟨⟨⟨⟨⟨⟨⟨⟨⟨⟨⟨⟨⟨⟨⟨hloss,hconnected⟩,hdeclared⟩,hparsed⟩,hloaded⟩,hinputs⟩,hbatches⟩,
      hcandidates⟩,hselections⟩,hrequests⟩,hdecided⟩,heffected⟩,hmixes⟩,hpositioned⟩,hdecisions⟩,hends⟩,
      hdecision⟩,heffect⟩,hmix⟩,hselected⟩
    refine ⟨hloss,hconnected,hdeclared,hparsed,hloaded,
      ⟨hinputs,hbatches,hcandidates,hselections,hrequests,hmixes⟩,hdecided,heffected,hpositioned,
      ⟨hdecisions,hends⟩,?_,hselected⟩
    simp only [List.forall_mem_cons]
    exact ⟨hdecision,heffect,hmix,fun _ hmem => by cases hmem⟩
  · rintro ⟨hloss,hconnected,h⟩
    obtain ⟨hinputs,hbatches,hcandidates,hselections,hrequests,hmixes⟩ := h.present
    exact ⟨⟨⟨⟨⟨⟨⟨⟨⟨⟨⟨⟨⟨⟨⟨⟨⟨⟨⟨hloss,hconnected⟩,h.declared⟩,h.parsed⟩,h.loaded⟩,hinputs⟩,hbatches⟩,
      hcandidates⟩,hselections⟩,hrequests⟩,h.decided⟩,h.effected⟩,hmixes⟩,h.positioned⟩,h.reasoned.1⟩,
      h.reasoned.2⟩,h.occurrences _ (by simp)⟩,h.occurrences _ (by simp)⟩,h.occurrences _ (by simp)⟩,
      h.selected⟩

/-- The route of a mix is that of its range, in every order. -/
lemma queryRoute_complete_iff (hdistinct : Distinct facts) (hperm : facts'.Perm facts)
    (trace : ReplayTraceSummary) (audioRanges : List SampleFrameRange) :
    (queryRoute runId trace (gatherAll facts').mixRanges audioRanges).queryRouteComplete = true ↔
      Routed runId facts audioRanges trace.mixSpan := by
  have hmixes : ∀ {fact : Fact} {range : MixRange}, mixRangeOf fact = some range →
      range.id = fact.id ∧ isKnown fact = true := by
    intro fact range hrange
    unfold mixRangeOf at hrange
    split at hrange
    · rename_i hkind
      refine ⟨?_,by simp [isKnown,hkind]⟩
      unfold validMix at hrange
      split at hrange
      · split at hrange
        · cases hrange
        · cases hrange
          rfl
      · cases hrange
    · cases hrange
  have hunique : ∀ range ∈ facts.filterMap mixRangeOf, ∀ other ∈ facts.filterMap mixRangeOf,
      range.id = other.id → range = other := by
    intro range hrange other hother hid
    obtain ⟨fact,hfact,hmix⟩ := List.mem_filterMap.mp hrange
    obtain ⟨fact',hfact',hmix'⟩ := List.mem_filterMap.mp hother
    obtain ⟨hid₁,hknown⟩ := hmixes hmix
    obtain ⟨hid₂,hknown'⟩ := hmixes hmix'
    obtain rfl := hdistinct.eq hfact hfact' hknown hknown' (by rw [← hid₁,← hid₂,hid])
    exact Option.some.inj (hmix.symm.trans hmix')
  have hmem : ∀ range, range ∈ facts'.filterMap mixRangeOf ↔ range ∈ facts.filterMap mixRangeOf :=
    fun range => (hperm.filterMap mixRangeOf).mem_iff
  rw [gatherAll_mixRanges]
  unfold queryRoute Routed
  dsimp only
  cases hfound : (facts'.filterMap mixRangeOf).find? fun range =>
      range.id = engineFactId runId trace.mixSpan with
  | none =>
    refine iff_of_false (by simp) ?_
    rintro ⟨range,hrange,hid,-⟩
    exact List.find?_eq_none.mp hfound range ((hmem range).mpr hrange) (by simp [hid])
  | some mix =>
    have hmix := (hmem mix).mp (List.mem_of_find?_eq_some hfound)
    have hid : mix.id = engineFactId runId trace.mixSpan := by simpa using List.find?_some hfound
    constructor
    · intro hcomplete
      cases houtput : audioRanges.find? (overlaps mix) with
      | none => simp [houtput] at hcomplete
      | some output => exact ⟨mix,hmix,hid,output,houtput,by simpa [houtput] using hcomplete⟩
    · rintro ⟨range,hrange,hid',output,houtput,hlt⟩
      obtain rfl := hunique range hrange mix hmix (hid'.trans hid.symm)
      simpa [houtput] using hlt

/-- A connected run reports the mix of a chain that some order publishes first. -/
lemma exists_reportable (hperm : facts'.Perm facts)
    (hloss : (traceSummary hash runId facts' true).lossFree = true)
    (hconnected : (traceSummary hash runId facts' true).causallyConnected = true) :
    ∃ l, Reportable runId facts l (traceSummary hash runId facts' true).mixSpan := by
  obtain ⟨a,log,rfl,-,hholds,htraced,hlisting⟩ := lossFree_log hperm hloss
  rw [summary_connected hloss] at hconnected
  obtain ⟨request,effect,mix,l,hfirst,htraces,hreports⟩ :=
    exists_reported hholds htraced hlisting hconnected
  have hmix : (traceSummary hash runId facts' true).mixSpan = mix := hreports.mix
  exact ⟨l,log,request,effect,hlisting,hmix ▸ hfirst,htraces⟩

/-- Some order of the facts reports a chain that can be reported. -/
lemma exists_order_of_reportable {l : Lineage} {mix : CompactId} (h : Reportable runId facts l mix)
    (hrun : runId ≠ "" ∧ runId.utf8ByteSize ≤ maxIdentityBytes) (haccounted : Accounted runId facts) :
    ∃ facts' : List Fact, facts'.Perm facts ∧ ∀ hash,
      (traceSummary hash runId facts' true).lossFree = true ∧
        (traceSummary hash runId facts' true).causallyConnected = true ∧
          (traceSummary hash runId facts' true).mixSpan = mix := by
  obtain ⟨log,request,effect,hlisting,hfirst,-⟩ := h
  obtain ⟨facts',hperm,harrival⟩ := exists_arrival haccounted hrun hlisting
  refine ⟨facts',hperm,fun hash => ?_⟩
  obtain ⟨hloss,hholds,htraced⟩ := harrival hash
  have hcomplete : ∃ request effect mix, Accumulator.CompleteIn runId facts log request effect mix := by
    obtain ⟨before,last,after,hlog,hin,-⟩ := hfirst
    exact ⟨request,effect,mix,by rw [hlog]; simpa using hin.append after⟩
  have hconnected := (Accumulator.connected_iff hholds htraced).mpr hcomplete
  obtain ⟨_,_,mix',_,hfirst',-,hreports⟩ := exists_reported hholds htraced hlisting hconnected
  obtain ⟨-,-,rfl⟩ := hfirst.unique hholds.waits.distinct hfirst'
  exact ⟨hloss,(summary_connected hloss).trans hconnected,hreports.mix⟩

end Order

section Verdicts
variable {runId : String} {expectedAssignments : ℕ} {facts facts' : List Fact} {audio : List BlockReading}
  {evidence : AudioEvidence}

/-- The verdict on the whole run, in one order of its facts. -/
lemma complete_iff_routed (haudited : Audited runId expectedAssignments facts audio evidence)
    {hash : HashOrder} {fragments : List StoredFactFragment} (hperm : (factsOf fragments).Perm facts)
    (blocks : ℕ) :
    (summarize runId expectedAssignments (passOf hash runId fragments) evidence blocks).complete = true ↔
      facts.all typedPayload = true ∧
        (summarize runId expectedAssignments (passOf hash runId fragments) evidence
          blocks).stageRelationsComplete = true ∧ evidence.complete = true ∧
            Routed runId facts evidence.audioRanges
              (traceSummary hash runId (factsOf fragments) true).mixSpan := by
  rw [← queryRoute_complete_iff (distinct_of_accounted haudited.accounted) hperm,← hperm.all_eq,
    ← gatherAll_typedPayloadComplete]
  simp only [summarize,passOf,Bool.and_eq_true,and_assoc]
  rfl

/-- The orders of a run that can be audited, each in one fragment. -/
def inOne (facts : List Fact) (h : facts ≠ []) : List StoredFactFragment := [⟨1,facts,h⟩]

/-- A run whose audit does not depend on the order has one summary for any two of them. -/
lemma AuditOrderFree.summaries (h : AuditOrderFree runId expectedAssignments facts audio)
    (haudited : Audited runId expectedAssignments facts audio evidence) (hash hash' : HashOrder)
    {facts₁ facts₂ : List Fact} (hperm₁ : facts₁.Perm facts) (hperm₂ : facts₂.Perm facts) :
    ∃ fragments fragments', factsOf fragments = facts₁ ∧ factsOf fragments' = facts₂ ∧
      SameSummary (summarize runId expectedAssignments (passOf hash runId fragments) evidence audio.length)
        (summarize runId expectedAssignments (passOf hash' runId fragments') evidence audio.length) := by
  have hnonempty : ∀ {facts' : List Fact}, facts'.Perm facts → facts' ≠ [] := by
    rintro facts' hperm rfl
    exact haudited.nonempty (List.nil_perm.mp hperm)
  have hone : ∀ facts' (h : facts' ≠ []), factsOf (inOne facts' h) = facts' := fun facts' h =>
    List.append_nil facts'
  have hnumbered : ∀ facts' (h : facts' ≠ []), Numbered (inOne facts' h) := fun _ _ => rfl
  have hloss : ∀ hash {facts' : List Fact}, facts'.Perm facts →
      (traceSummary hash runId facts' true).lossFree = true := fun hash facts' hperm =>
    lossFree_of_accounted hash haudited.run (haudited.accounted.perm hperm)
  refine ⟨inOne facts₁ (hnonempty hperm₁),inOne facts₂ (hnonempty hperm₂),hone _ _,hone _ _,?_⟩
  have hsame := h hash hash' (inOne facts₁ (hnonempty hperm₁)) (inOne facts₂ (hnonempty hperm₂)) (hnumbered _ _)
    (hnumbered _ _) (by rwa [hone]) (by rwa [hone]) (by rw [hone]; exact hloss hash hperm₁)
    (by rw [hone]; exact hloss hash' hperm₂)
  rwa [audit_ok haudited (hnumbered _ _) (by rwa [hone]) (by rw [hone]; exact hloss hash hperm₁),
    audit_ok haudited (hnumbered _ _) (by rwa [hone]) (by rw [hone]; exact hloss hash' hperm₂)] at hsame

lemma AuditOrderFree.fixed (h : AuditOrderFree runId expectedAssignments facts audio)
    (haudited : Audited runId expectedAssignments facts audio evidence) :
    AuditFixed runId expectedAssignments facts evidence := by
  have hdistinct := distinct_of_accounted haudited.accounted
  refine ⟨(restartsOrderFree_iff hdistinct).mp ?_,?_,?_⟩
  · intro facts₁ facts₂ hperm₁ hperm₂
    obtain ⟨fragments,fragments',rfl,rfl,hsame⟩ :=
      h.summaries haudited .ascending .ascending hperm₁ hperm₂
    exact hsame.restarts
  · intro hrelated
    refine connects_of_orderFree ?_ haudited.run haudited.accounted
    intro hash hash' facts₁ facts₂ hperm₁ hperm₂ hloss hloss'
    obtain ⟨fragments,fragments',rfl,rfl,hsame⟩ := h.summaries haudited hash hash' hperm₁ hperm₂
    have hstages := Bool.eq_iff_iff.mp hsame.stageRelationsComplete
    have hconnects : ∀ {hash : HashOrder} {fragments : List StoredFactFragment},
        (factsOf fragments).Perm facts →
          (traceSummary hash runId (factsOf fragments) true).lossFree = true →
            ((summarize runId expectedAssignments (passOf hash runId fragments) evidence
              audio.length).stageRelationsComplete = true ↔
                (traceSummary hash runId (factsOf fragments) true).causallyConnected = true) :=
      fun hperm hloss => (stageRelations_iff hperm _).trans
        ⟨fun h => h.2.1,fun h => ⟨hloss,h,hrelated⟩⟩
    rw [hconnects hperm₁ hloss,hconnects hperm₂ hloss'] at hstages
    exact Bool.eq_iff_iff.mpr hstages
  · intro htyped hrelated haudio l mix l' mix' hmix hmix'
    obtain ⟨facts₁,hperm₁,hrun₁⟩ := exists_order_of_reportable hmix haudited.run haudited.accounted
    obtain ⟨facts₂,hperm₂,hrun₂⟩ := exists_order_of_reportable hmix' haudited.run haudited.accounted
    obtain ⟨fragments,fragments',rfl,rfl,hsame⟩ :=
      h.summaries haudited .ascending .ascending hperm₁ hperm₂
    obtain ⟨hloss₁,hconnected₁,rfl⟩ := hrun₁ .ascending
    obtain ⟨hloss₂,hconnected₂,rfl⟩ := hrun₂ .ascending
    have hstages₁ := (stageRelations_iff hperm₁ (traceSummary .ascending runId (factsOf fragments) true)).mpr
      ⟨hloss₁,hconnected₁,hrelated⟩
    have hstages₂ := (stageRelations_iff hperm₂ (traceSummary .ascending runId (factsOf fragments') true)).mpr
      ⟨hloss₂,hconnected₂,hrelated⟩
    have hcomplete := Bool.eq_iff_iff.mp hsame.complete
    rw [complete_iff_routed haudited hperm₁,complete_iff_routed haudited hperm₂] at hcomplete
    exact ⟨fun hrouted => (hcomplete.mp ⟨htyped,hstages₁,haudio,hrouted⟩).2.2.2,
      fun hrouted => (hcomplete.mpr ⟨htyped,hstages₂,haudio,hrouted⟩).2.2.2⟩

lemma AuditFixed.sameSummary (h : AuditFixed runId expectedAssignments facts evidence)
    (haudited : Audited runId expectedAssignments facts audio evidence) {hash hash' : HashOrder}
    {fragments fragments' : List StoredFactFragment} (hperm : (factsOf fragments).Perm facts)
    (hperm' : (factsOf fragments').Perm facts)
    (hloss : (traceSummary hash runId (factsOf fragments) true).lossFree = true)
    (hloss' : (traceSummary hash' runId (factsOf fragments') true).lossFree = true) :
    SameSummary (summarize runId expectedAssignments (passOf hash runId fragments) evidence audio.length)
      (summarize runId expectedAssignments (passOf hash' runId fragments') evidence audio.length) := by
  have hdistinct := distinct_of_accounted haudited.accounted
  have hstages : (summarize runId expectedAssignments (passOf hash runId fragments) evidence
        audio.length).stageRelationsComplete = true ↔
      (summarize runId expectedAssignments (passOf hash' runId fragments') evidence
        audio.length).stageRelationsComplete = true := by
    refine (stageRelations_iff hperm (traceSummary hash runId (factsOf fragments) true)).trans
      (Iff.trans ?_ (stageRelations_iff hperm' (traceSummary hash' runId (factsOf fragments') true)).symm)
    by_cases hrelated : StagesRelated expectedAssignments facts
    · have hfree := orderFree_of_connects fun _ _ => h.connected hrelated
      rw [hloss,hloss',hfree hash hash' _ _ hperm hperm' hloss hloss']
    · exact iff_of_false (fun hall => hrelated hall.2.2) fun hall => hrelated hall.2.2
  refine ⟨(restartsOrderFree_iff hdistinct).mpr h.restarts _ _ hperm hperm',Bool.eq_iff_iff.mpr hstages,?_,?_⟩
  · exact (gatherAll_typedPayloadComplete _).trans
      ((hperm.trans hperm'.symm).all_eq.trans (gatherAll_typedPayloadComplete _).symm)
  · rw [Bool.eq_iff_iff,complete_iff_routed haudited hperm,complete_iff_routed haudited hperm',hstages]
    refine and_congr_right fun htyped => and_congr_right fun hstage => and_congr_right fun haudio => ?_
    obtain ⟨-,hconnected,hrelated⟩ := (stageRelations_iff hperm _).mp (hstages.mpr hstage)
    obtain ⟨-,hconnected',-⟩ := (stageRelations_iff hperm' _).mp hstage
    obtain ⟨l,hmix⟩ := exists_reportable hperm hloss hconnected
    obtain ⟨l',hmix'⟩ := exists_reportable hperm' hloss' hconnected'
    exact h.routed htyped hrelated haudio l _ l' _ hmix hmix'

/-- The audit of a run depends on nothing but its facts and its audio exactly when what it says is
fixed by them, or when the run cannot be audited. -/
theorem auditOrderFree_iff (runId : String) (expectedAssignments : ℕ) (facts : List Fact)
    (audio : List BlockReading) : AuditOrderFree runId expectedAssignments facts audio ↔
      ∀ evidence, Audited runId expectedAssignments facts audio evidence →
        AuditFixed runId expectedAssignments facts evidence := by
  refine ⟨fun h evidence haudited => h.fixed haudited,fun h => ?_⟩
  intro hash hash' fragments fragments' hnumbered hnumbered' hperm hperm' hloss hloss'
  by_cases haudited : ∃ evidence, Audited runId expectedAssignments facts audio evidence
  · obtain ⟨evidence,haudited⟩ := haudited
    rw [audit_ok haudited hnumbered hperm hloss,audit_ok haudited hnumbered' hperm' hloss']
    exact (h evidence haudited).sameSummary haudited hperm hperm' hloss hloss'
  · obtain ⟨error,herror⟩ := exists_audit_error (not_exists.mp haudited)
    rw [herror hash fragments hnumbered hperm hloss,herror hash' fragments' hnumbered' hperm' hloss']
    rfl

end Verdicts

section Run

def engineFact (producer : String) (sequence : ℕ) (kind : String) (causes : List (String × ℕ))
    (fields : List FactField) : Fact :=
  { id := ⟨"r",producer,sequence⟩, kind
    causeIds := causes.map fun cause => .fact ⟨"r",cause.1,cause.2⟩
    fields }

def numberField (name : String) (value : ℕ) : FactField := { name, availability := .known, value := .uint64 value }

def textField (name value : String) : FactField := { name, availability := .known, value := .text value }

def positionSpan (sequence occurrence first : ℕ) : Fact :=
  engineFact "engine-6" sequence "hd_voice_position_span" [("engine-5",3)]
    [numberField "occurrence" occurrence,textField "key" "music",numberField "output_begin" first,
      numberField "output_end" (first + 4),numberField "source_begin" first,
      numberField "source_end" (first + 4),numberField "source_limit" 100,numberField "sample_rate" 44100,
      { name := "links_complete", availability := .known, value := .bool true }]

def selectionChain : List Fact :=
  [engineFact "engine-5" 1 "assignment_candidate" [("engine-3",1)] [],
    engineFact "engine-5" 2 "assignment_selection" [("engine-5",1)] []]

/-- The facts of one restart around its candidate and its selection. -/
def restartRun (chain : List Fact) : List Fact :=
  [engineFact "engine-3" 1 "detector_input" [] []] ++ chain ++
    [engineFact "engine-5" 3 "hd_playback_request" [("engine-5",2)] [],
      engineFact "engine-5" 4 "hd_playback_decision" [("engine-5",3)]
        [textField "action" "restart",textField "reason" "same_key_same_asset",numberField "occurrence" 9,
          numberField "previous_occurrence" 8],
      engineFact "engine-6" 1 "hd_mix_participant" [("engine-5",3)] [numberField "occurrence" 9],
      positionSpan 2 9 10,positionSpan 3 8 6,
      engineFact "engine-8" 1 "main_mix_output_span" [("engine-6",1),("engine-7",2)] []]

def restartAudio : List BlockReading :=
  [⟨1,.ok ⟨1,[],{
    runId := [114], capturePoint := [], producerSequence := 1, format := ⟨.f32le,44100,2⟩
    range := ⟨[],44100,8,16⟩, bytes := List.replicate 64 0, sha256 := {}, checkpointId := {} }⟩⟩]

/-- With the selection before its candidate, the same facts lose the chain of the restart. -/
theorem restartRun_not_orderFree : ¬AuditOrderFree "r" 1 (restartRun selectionChain) restartAudio := by
  intro h
  have hperm : (restartRun selectionChain.reverse).Perm (restartRun selectionChain) :=
    ((List.reverse_perm selectionChain).append_left _).append_right _
  have hsame := h .ascending .ascending [⟨1,restartRun selectionChain,by decide⟩]
    [⟨1,restartRun selectionChain.reverse,by decide⟩] rfl rfl (by rw [factsOf]; simp)
    (by rw [factsOf]; simpa using hperm) (by decide +kernel) (by decide +kernel)
  -- The audits differ in how many restarts have the parent of their selection.
  have hcounts : ((auditCampaignEvidence .ascending "r" 1 [some ⟨1,restartRun selectionChain,by decide⟩]
        restartAudio).toOption.map fun s => s.restarts.selectionParentComplete) = some 1 ∧
      ((auditCampaignEvidence .ascending "r" 1 [some ⟨1,restartRun selectionChain.reverse,by decide⟩]
        restartAudio).toOption.map fun s => s.restarts.selectionParentComplete) = some 0 := by
    constructor <;> decide +kernel
  revert hsame hcounts
  simp only [List.map_cons,List.map_nil]
  generalize auditCampaignEvidence .ascending "r" 1 [some ⟨1,restartRun selectionChain,_⟩] restartAudio = audit
  generalize auditCampaignEvidence .ascending "r" 1 [some ⟨1,restartRun selectionChain.reverse,_⟩]
    restartAudio = audit'
  intro hsame hcounts
  cases audit with
  | error error => cases hcounts.1
  | ok s =>
    cases audit' with
    | error error => cases hcounts.2
    | ok s' =>
      have hone : s.restarts.selectionParentComplete = 1 := Option.some.inj hcounts.1
      have hzero : s'.restarts.selectionParentComplete = 0 := Option.some.inj hcounts.2
      have hcount := hsame.restarts.selectionParentComplete
      omega

end Run
end AytherRuntime.Campaign
