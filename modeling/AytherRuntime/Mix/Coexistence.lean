import AytherRuntime.Mix.Model
import Mathlib.Data.List.Nodup
import Mathlib.Data.List.TakeWhile

/-! The query for the voices that sound together in the range of a marker. -/
namespace AytherRuntime.Binary.Mix
open Codec

structure TransitionMarker where
  runId : Bytes
  markerId : Bytes
  range : SampleFrameRange
  sourceFact : Field FactId := {}
  deriving DecidableEq

inductive VoiceStartProvenance
  | unknown | explicitFact | preexistingContext | mixed
  deriving DecidableEq, Repr

structure CoexistingVoice where
  occurrenceId : OccurrenceId
  assignmentId : Field Bytes
  startProvenance : VoiceStartProvenance
  startCauses : List Cause
  overlappingIntervals : List SampleFrameRange
  deriving DecidableEq

inductive CoexistenceQueryStatus
  | found | noCoexistence | invalidMarker | invalidOccurrence | invalidMixSpan | missingOccurrence | capacityExceeded
  deriving DecidableEq, Repr

structure CoexistenceQueryResult where
  status : CoexistenceQueryStatus
  marker : TransitionMarker
  voices : List CoexistingVoice
  deriving DecidableEq

section Query

def provenance (causes : List Cause) : VoiceStartProvenance :=
  let explicitFact := causes.any fun | .fact _ => true | .preexistingContext _ => false
  let preexisting := causes.any fun | .fact _ => false | .preexistingContext _ => true
  if explicitFact && preexisting then .mixed
  else if explicitFact then .explicitFact
  else if preexisting then .preexistingContext
  else .unknown

variable (marker : TransitionMarker) (occurrences : List Occurrence)

def validMarker : Bool :=
  identifier marker.runId && identifier marker.markerId && wellFormedRange marker.range &&
    marker.range.start ≠ marker.range.stop && validValue (validFactId marker.runId) marker.sourceFact

/-- The occurrences are well formed, and their identities do not repeat. -/
def validOccurrences : Bool :=
  occurrences.all wellFormedOccurrence && (occurrences.map Occurrence.id).Nodup

/-- The intersection of a participation with the marker. -/
def intersection (participant : MixParticipant) : SampleFrameRange :=
  ⟨marker.range.timelineId,marker.range.sampleRate,max participant.mixRange.start marker.range.start,
    min participant.mixRange.stop marker.range.stop⟩

def voiceOf (occurrence : Occurrence) : CoexistingVoice :=
  ⟨occurrence.id,occurrence.assignmentId,provenance occurrence.startCauses,occurrence.startCauses,[]⟩

/-- An interval of the voice of an occurrence, which is added when it is new. -/
def addInterval (voices : List CoexistingVoice) (occurrence : Occurrence) (interval : SampleFrameRange) :
    List CoexistingVoice :=
  let voices :=
    if voices.any fun item => item.occurrenceId = occurrence.id then voices else voices ++ [voiceOf occurrence]
  voices.modify (voices.findIdx fun item => item.occurrenceId = occurrence.id) fun voice =>
    { voice with overlappingIntervals := voice.overlappingIntervals ++ [interval] }

/-- One participant; an error has the voices that are returned with it. -/
def addParticipant (voices : List CoexistingVoice) (participant : MixParticipant) :
    Except (CoexistenceQueryStatus × List CoexistingVoice) (List CoexistingVoice) :=
  if participant.mixRange.timelineId ≠ marker.range.timelineId ∨
      participant.mixRange.sampleRate ≠ marker.range.sampleRate then .ok voices
  else
    let interval := intersection marker participant
    if interval.stop ≤ interval.start then .ok voices
    else
      match occurrences.find? fun item => item.id = participant.occurrenceId with
      | none => .error (.missingOccurrence,[])
      | some occurrence => .ok (addInterval voices occurrence interval)

/-- One span; the voices so far are returned with an invalid one. -/
def addSpan (voices : List CoexistingVoice) (span : MixSpan) :
    Except (CoexistenceQueryStatus × List CoexistingVoice) (List CoexistingVoice) :=
  if !wellFormedSpan span then .error (.invalidMixSpan,voices)
  else if span.runId ≠ marker.runId then .ok voices
  else span.participants.foldlM (addParticipant marker occurrences) voices

/-- `query_coexistence` -/
def queryCoexistence (mixSpans : List MixSpan) : CoexistenceQueryResult :=
  if !validMarker marker then ⟨.invalidMarker,marker,[]⟩
  else if maxReferenceMaterials < occurrences.length ∨ maxReferenceMaterials < mixSpans.length then
    ⟨.capacityExceeded,marker,[]⟩
  else if !validOccurrences occurrences then ⟨.invalidOccurrence,marker,[]⟩
  else
    match mixSpans.foldlM (addSpan marker occurrences) [] with
    | .error (status,voices) => ⟨status,marker,voices⟩
    | .ok voices => ⟨if 1 < voices.length then .found else .noCoexistence,marker,voices⟩

end Query

section Coexisting
variable (marker : TransitionMarker) (occurrences : List Occurrence)

/-- A participation on the timeline and at the rate of the marker, which meets its range. -/
def meets (participant : MixParticipant) : Bool :=
  participant.mixRange.timelineId = marker.range.timelineId &&
    participant.mixRange.sampleRate = marker.range.sampleRate &&
    (intersection marker participant).start < (intersection marker participant).stop

/-- The participations in the spans of the run that meet the marker. -/
def coexisting (mixSpans : List MixSpan) : List MixParticipant :=
  (mixSpans.flatMap fun span => if span.runId = marker.runId then span.participants else []).filter (meets marker)

/-- The occurrence of a participation is given. -/
def listed (participant : MixParticipant) : Bool :=
  (occurrences.find? fun item => item.id = participant.occurrenceId).isSome

/-- The occurrence that a voice is of. -/
def Describes (occurrence : Occurrence) (voice : CoexistingVoice) : Prop :=
  voice.occurrenceId = occurrence.id ∧ voice.assignmentId = occurrence.assignmentId ∧
    voice.startProvenance = provenance occurrence.startCauses ∧ voice.startCauses = occurrence.startCauses

/-- One voice for each occurrence of some participations, with the intersections of its own ones. -/
structure Collected (done : List MixParticipant) (voices : List CoexistingVoice) : Prop where
  once : (voices.map CoexistingVoice.occurrenceId).Nodup
  covers : ∀ id, id ∈ voices.map CoexistingVoice.occurrenceId ↔ id ∈ done.map MixParticipant.occurrenceId
  intervals : ∀ voice ∈ voices, voice.overlappingIntervals =
    (done.filter fun participant => participant.occurrenceId = voice.occurrenceId).map (intersection marker)
  described : ∀ voice ∈ voices, ∃ occurrence ∈ occurrences, Describes occurrence voice

end Coexisting

section Collecting
variable {marker : TransitionMarker} {occurrences : List Occurrence}

/-- With identities that do not repeat, the change of the one that is found is the change of the one that has the
identity. -/
lemma modify_findIdx {voices : List CoexistingVoice} (honce : (voices.map CoexistingVoice.occurrenceId).Nodup)
    (id : OccurrenceId) (change : CoexistingVoice → CoexistingVoice) :
    voices.modify (voices.findIdx fun item => item.occurrenceId = id) change =
      voices.map fun voice => if voice.occurrenceId = id then change voice else voice := by
  induction voices with
  | nil => rfl
  | cons voice voices ih =>
    obtain ⟨hnew,honce⟩ := List.nodup_cons.mp honce
    rw [List.findIdx_cons,List.map_cons]
    by_cases hsame : voice.occurrenceId = id
    · have hothers : voices.map (fun voice => if voice.occurrenceId = id then change voice else voice) = voices := by
        refine (List.map_congr_left fun other hother => if_neg ?_).trans (List.map_id voices)
        rintro rfl
        exact hnew (hsame ▸ List.mem_map_of_mem hother)
      rw [decide_eq_true hsame,cond_true,List.modify_zero_cons,if_pos hsame,hothers]
    · rw [decide_eq_false hsame,cond_false,List.modify_succ_cons,ih honce,if_neg hsame]

lemma collected_nil : Collected marker occurrences [] [] where
  once := List.nodup_nil
  covers _ := Iff.rfl
  intervals := List.forall_mem_nil _
  described := List.forall_mem_nil _

/-- An interval of an occurrence is collected. -/
lemma Collected.addInterval {done : List MixParticipant} {voices : List CoexistingVoice}
    (h : Collected marker occurrences done voices) {participant : MixParticipant} {occurrence : Occurrence}
    (hmem : occurrence ∈ occurrences) (hid : occurrence.id = participant.occurrenceId) :
    Collected marker occurrences (done ++ [participant])
      (addInterval voices occurrence (intersection marker participant)) := by
  -- The voices with that of the occurrence, which has no interval when it is new.
  obtain ⟨started,hstarted,honce,hcovers,hintervals,hdescribed⟩ : ∃ started : List CoexistingVoice,
      (if voices.any fun item => item.occurrenceId = occurrence.id then voices
        else voices ++ [voiceOf occurrence]) = started ∧
      (started.map CoexistingVoice.occurrenceId).Nodup ∧
      (∀ id, id ∈ started.map CoexistingVoice.occurrenceId ↔
        id ∈ (done ++ [participant]).map MixParticipant.occurrenceId) ∧
      (∀ voice ∈ started, voice.overlappingIntervals =
        (done.filter fun participant => participant.occurrenceId = voice.occurrenceId).map (intersection marker)) ∧
      ∀ voice ∈ started, ∃ occurrence ∈ occurrences, Describes occurrence voice := by
    by_cases hknown : occurrence.id ∈ voices.map CoexistingVoice.occurrenceId
    · refine ⟨voices,if_pos ?_,h.once,fun id => ?_,h.intervals,h.described⟩
      · obtain ⟨voice,hvoice,hsame⟩ := List.mem_map.mp hknown
        exact List.any_eq_true.mpr ⟨voice,hvoice,decide_eq_true hsame⟩
      · rw [h.covers,List.map_append,List.mem_append,List.map_singleton,List.mem_singleton]
        refine ⟨Or.inl,fun hor => hor.elim (fun hdone => hdone) ?_⟩
        rintro rfl
        rwa [← h.covers,← hid]
    · have hnone : ∀ earlier ∈ done, earlier.occurrenceId ≠ occurrence.id := by
        intro earlier hearlier hsame
        exact hknown ((h.covers _).mpr (hsame ▸ List.mem_map_of_mem hearlier))
      refine ⟨voices ++ [voiceOf occurrence],if_neg ?_,?_,fun id => ?_,?_,?_⟩
      · rw [List.any_eq_true]
        rintro ⟨voice,hvoice,hsame⟩
        exact hknown (of_decide_eq_true hsame ▸ List.mem_map_of_mem hvoice)
      · rw [List.map_append,List.map_singleton]
        exact h.once.append (List.nodup_singleton _) (List.disjoint_singleton.mpr hknown)
      · rw [List.map_append,List.mem_append,h.covers,List.map_append,List.mem_append,List.map_singleton,
          List.map_singleton,← hid]
        rfl
      · refine List.forall_mem_append.mpr ⟨h.intervals,List.forall_mem_singleton.mpr ?_⟩
        have hempty : (done.filter fun earlier => earlier.occurrenceId = (voiceOf occurrence).occurrenceId) = [] :=
          List.filter_eq_nil_iff.mpr fun earlier hearlier hsame => hnone earlier hearlier (of_decide_eq_true hsame)
        rw [hempty]
        rfl
      · exact List.forall_mem_append.mpr
          ⟨h.described,List.forall_mem_singleton.mpr ⟨occurrence,hmem,rfl,rfl,rfl,rfl⟩⟩
  have hadded : Mix.addInterval voices occurrence (intersection marker participant) = started.map fun voice =>
      if voice.occurrenceId = occurrence.id then
        { voice with overlappingIntervals := voice.overlappingIntervals ++ [intersection marker participant] }
      else voice := by
    unfold Mix.addInterval
    dsimp only
    rw [hstarted,modify_findIdx honce]
  have hids : (Mix.addInterval voices occurrence (intersection marker participant)).map CoexistingVoice.occurrenceId =
      started.map CoexistingVoice.occurrenceId := by
    rw [hadded,List.map_map]
    refine List.map_congr_left fun voice _ => ?_
    dsimp only [Function.comp]
    split_ifs <;> rfl
  refine ⟨hids ▸ honce,fun id => hids ▸ hcovers id,fun voice hvoice => ?_,fun voice hvoice => ?_⟩
  · rw [hadded] at hvoice
    obtain ⟨before,hbefore,rfl⟩ := List.mem_map.mp hvoice
    rw [List.filter_append,List.map_append]
    split_ifs with hsame
    · rw [List.filter_singleton]
      change before.overlappingIntervals ++ _ = _
      rw [hintervals before hbefore,decide_eq_true (hid.symm.trans hsame.symm)]
      rfl
    · rw [List.filter_singleton,hintervals before hbefore,
        decide_eq_false fun hother => hsame (hother.symm.trans hid.symm)]
      exact (List.append_nil _).symm
  · rw [hadded] at hvoice
    obtain ⟨before,hbefore,rfl⟩ := List.mem_map.mp hvoice
    obtain ⟨described,hdescribes,hfields⟩ := hdescribed before hbefore
    split_ifs
    · exact ⟨described,hdescribes,hfields⟩
    · exact ⟨described,hdescribes,hfields⟩

/-- A participant that does not meet the marker leaves the voices, and one that does adds its interval or is missing. -/
lemma addParticipant_cases (marker : TransitionMarker) (occurrences : List Occurrence) (voices : List CoexistingVoice)
    (participant : MixParticipant) :
    (meets marker participant = false ∧ addParticipant marker occurrences voices participant = .ok voices) ∨
    (meets marker participant = true ∧ listed occurrences participant = false ∧
      addParticipant marker occurrences voices participant = .error (.missingOccurrence,[])) ∨
    (meets marker participant = true ∧ ∃ occurrence ∈ occurrences, occurrence.id = participant.occurrenceId ∧
      addParticipant marker occurrences voices participant =
        .ok (addInterval voices occurrence (intersection marker participant))) := by
  unfold addParticipant
  by_cases hforeign : participant.mixRange.timelineId ≠ marker.range.timelineId ∨
      participant.mixRange.sampleRate ≠ marker.range.sampleRate
  · refine Or.inl ⟨?_,if_pos hforeign⟩
    unfold meets
    obtain htimeline | hrate := hforeign
    · simp [htimeline]
    · simp [hrate]
  · rw [if_neg hforeign]
    obtain ⟨htimeline,hrate⟩ := not_or.mp hforeign
    by_cases hempty : (intersection marker participant).stop ≤ (intersection marker participant).start
    · refine Or.inl ⟨?_,if_pos hempty⟩
      simp [meets,Nat.not_lt.mpr hempty]
    · have hmeets : meets marker participant = true := by
        simp [meets,not_not.mp htimeline,not_not.mp hrate,Nat.lt_of_not_le hempty]
      right
      dsimp only
      rw [if_neg hempty]
      cases hfind : occurrences.find? fun item => item.id = participant.occurrenceId with
      | none => exact Or.inl ⟨hmeets,by rw [listed,hfind]; rfl,rfl⟩
      | some occurrence =>
        have hid := List.find?_some hfind
        exact Or.inr ⟨hmeets,occurrence,List.mem_of_find?_eq_some hfind,of_decide_eq_true hid,rfl⟩

/-- Participants whose occurrences are given are collected. -/
lemma Collected.participants {done : List MixParticipant} {voices : List CoexistingVoice}
    (h : Collected marker occurrences done voices) (participants : List MixParticipant)
    (hlisted : ∀ participant ∈ participants.filter (meets marker), listed occurrences participant = true) :
    ∃ voices', participants.foldlM (addParticipant marker occurrences) voices = .ok voices' ∧
      Collected marker occurrences (done ++ participants.filter (meets marker)) voices' := by
  induction participants generalizing done voices with
  | nil => exact ⟨voices,rfl,by rwa [List.filter_nil,List.append_nil]⟩
  | cons participant participants ih =>
    rw [List.foldlM_cons]
    obtain ⟨hmeets,hstep⟩ | ⟨hmeets,hmissing,-⟩ | ⟨hmeets,occurrence,hmem,hid,hstep⟩ :=
      addParticipant_cases marker occurrences voices participant
    · rw [hstep,List.filter_cons,hmeets]
      rw [List.filter_cons,hmeets] at hlisted
      exact ih h hlisted
    · rw [List.filter_cons,hmeets] at hlisted
      rw [hlisted participant List.mem_cons_self] at hmissing
      cases hmissing
    · rw [hstep,List.filter_cons,hmeets,if_pos rfl,List.append_cons]
      rw [List.filter_cons,hmeets,if_pos rfl] at hlisted
      exact ih (h.addInterval hmem hid) (List.forall_mem_cons.mp hlisted).2

/-- A participant whose occurrence is missing ends the query without voices. -/
lemma participants_missing {participants : List MixParticipant}
    (hmissing : ∃ participant ∈ participants.filter (meets marker), listed occurrences participant = false)
    (voices : List CoexistingVoice) :
    participants.foldlM (addParticipant marker occurrences) voices = .error (.missingOccurrence,[]) := by
  induction participants generalizing voices with
  | nil =>
    obtain ⟨participant,hmem,-⟩ := hmissing
    cases hmem
  | cons participant participants ih =>
    rw [List.foldlM_cons]
    obtain ⟨hmeets,hstep⟩ | ⟨hmeets,-,hstep⟩ | ⟨hmeets,occurrence,hmem,hid,hstep⟩ :=
      addParticipant_cases marker occurrences voices participant
    · rw [hstep]
      rw [List.filter_cons,hmeets] at hmissing
      exact ih hmissing voices
    · rw [hstep]
      rfl
    · rw [hstep]
      rw [List.filter_cons,hmeets,if_pos rfl] at hmissing
      obtain ⟨other,hother,hunlisted⟩ := hmissing
      obtain rfl | hlater := List.mem_cons.mp hother
      · have hlisted : listed occurrences other = true := by
          rw [listed,List.find?_isSome]
          exact ⟨occurrence,hmem,decide_eq_true hid⟩
        rw [hlisted] at hunlisted
        cases hunlisted
      · exact ih ⟨other,hlater,hunlisted⟩ _

end Collecting

section Spans
variable {marker : TransitionMarker} {occurrences : List Occurrence}

/-- A well-formed span whose coexisting occurrences are given. -/
def good (marker : TransitionMarker) (occurrences : List Occurrence) (span : MixSpan) : Bool :=
  wellFormedSpan span && (coexisting marker [span]).all (listed occurrences)

lemma coexisting_cons (marker : TransitionMarker) (span : MixSpan) (mixSpans : List MixSpan) :
    coexisting marker (span :: mixSpans) = coexisting marker [span] ++ coexisting marker mixSpans := by
  unfold coexisting
  rw [List.flatMap_cons,List.filter_append,List.flatMap_singleton]

lemma coexisting_of_run {span : MixSpan} (h : span.runId = marker.runId) :
    coexisting marker [span] = span.participants.filter (meets marker) := by
  rw [coexisting,List.flatMap_singleton,if_pos h]

lemma coexisting_foreign {span : MixSpan} (h : span.runId ≠ marker.runId) : coexisting marker [span] = [] := by
  rw [coexisting,List.flatMap_singleton,if_neg h]
  rfl

/-- A good span is collected. -/
lemma Collected.addSpan {done : List MixParticipant} {voices : List CoexistingVoice}
    (h : Collected marker occurrences done voices) {span : MixSpan} (hspan : good marker occurrences span = true) :
    ∃ voices', addSpan marker occurrences voices span = .ok voices' ∧
      Collected marker occurrences (done ++ coexisting marker [span]) voices' := by
  obtain ⟨hwell,hlisted⟩ := Bool.and_eq_true_iff.mp hspan
  rw [List.all_eq_true] at hlisted
  unfold Mix.addSpan
  rw [hwell]
  by_cases hrun : span.runId = marker.runId
  · rw [coexisting_of_run hrun] at hlisted ⊢
    obtain ⟨voices',hloop,hcollected⟩ := h.participants span.participants hlisted
    exact ⟨voices',(if_neg (not_not_intro hrun)).trans hloop,hcollected⟩
  · rw [coexisting_foreign hrun,List.append_nil]
    exact ⟨voices,if_pos hrun,h⟩

lemma Collected.spans {done : List MixParticipant} {voices : List CoexistingVoice}
    (h : Collected marker occurrences done voices) (mixSpans : List MixSpan)
    (hgood : ∀ span ∈ mixSpans, good marker occurrences span = true) :
    ∃ voices', mixSpans.foldlM (Mix.addSpan marker occurrences) voices = .ok voices' ∧
      Collected marker occurrences (done ++ coexisting marker mixSpans) voices' := by
  induction mixSpans generalizing done voices with
  | nil => exact ⟨voices,rfl,by rwa [show coexisting marker [] = [] from rfl,List.append_nil]⟩
  | cons span mixSpans ih =>
    obtain ⟨hhead,htail⟩ := List.forall_mem_cons.mp hgood
    obtain ⟨next,hnext,hcollected⟩ := h.addSpan hhead
    obtain ⟨last,hlast,hall⟩ := ih hcollected htail
    refine ⟨last,?_,by rwa [coexisting_cons,← List.append_assoc]⟩
    rw [List.foldlM_cons,hnext]
    exact hlast

/-- A span that is not good ends the query: a well-formed one without voices, another one with the voices so far. -/
lemma addSpan_bad {span : MixSpan} (hbad : good marker occurrences span = false) (voices : List CoexistingVoice) :
    Mix.addSpan marker occurrences voices span =
      if wellFormedSpan span then .error (.missingOccurrence,[]) else .error (.invalidMixSpan,voices) := by
  unfold Mix.addSpan
  cases hwell : wellFormedSpan span with
  | false => rfl
  | true =>
    rw [good,hwell,Bool.true_and,List.all_eq_false] at hbad
    obtain ⟨participant,hmem,hmissing⟩ := hbad
    have hrun : span.runId = marker.runId := by
      by_contra hforeign
      rw [coexisting_foreign hforeign] at hmem
      cases hmem
    rw [coexisting_of_run hrun] at hmem
    exact (if_neg (not_not_intro hrun)).trans
      (participants_missing ⟨participant,hmem,Bool.eq_false_iff.mpr hmissing⟩ voices)

/-- The first span that is not good ends the query. -/
lemma spans_bad {before : List MixSpan} {bad : MixSpan} (after : List MixSpan)
    (hbefore : ∀ span ∈ before, good marker occurrences span = true) (hbad : good marker occurrences bad = false) :
    ∃ voices, Collected marker occurrences (coexisting marker before) voices ∧
      (before ++ bad :: after).foldlM (Mix.addSpan marker occurrences) [] =
        if wellFormedSpan bad then .error (.missingOccurrence,[]) else .error (.invalidMixSpan,voices) := by
  obtain ⟨voices,hloop,hcollected⟩ := collected_nil.spans before hbefore
  refine ⟨voices,hcollected,?_⟩
  rw [List.foldlM_append,hloop]
  change (bad :: after).foldlM (Mix.addSpan marker occurrences) voices = _
  rw [List.foldlM_cons,addSpan_bad hbad]
  split_ifs <;> rfl

end Spans

section Answers
variable (marker : TransitionMarker) (occurrences : List Occurrence) (mixSpans : List MixSpan)

def Answered (status : CoexistenceQueryStatus) : Prop := status = .found ∨ status = .noCoexistence

instance (status : CoexistenceQueryStatus) : Decidable (Answered status) :=
  inferInstanceAs (Decidable (status = .found ∨ status = .noCoexistence))

/-- An answer has the voices that coexist with the marker, and is found with more than one; an error has none. -/
structure Exact (result : CoexistenceQueryResult) : Prop where
  answer : Answered result.status → Collected marker occurrences (coexisting marker mixSpans) result.voices ∧
    (result.status = .found ↔ 1 < result.voices.length)
  error : ¬Answered result.status → result.voices = []

/-- The marker and the occurrences are valid, and the lists are not too long. -/
def Ready : Prop :=
  validMarker marker = true ∧ occurrences.length ≤ maxReferenceMaterials ∧ mixSpans.length ≤ maxReferenceMaterials ∧
    validOccurrences occurrences = true

/-- A span that is not well formed stands after good ones, and some participation of these coexists with the marker. -/
def Stranded : Prop :=
  ∃ before bad after, mixSpans = before ++ bad :: after ∧ (∀ span ∈ before, good marker occurrences span = true) ∧
    wellFormedSpan bad = false ∧ coexisting marker before ≠ []

variable {marker occurrences mixSpans}

lemma exact_error {status : CoexistenceQueryStatus} (h : ¬Answered status) :
    Exact marker occurrences mixSpans ⟨status,marker,[]⟩ := ⟨fun hanswered => absurd hanswered h,fun _ => rfl⟩

lemma queryCoexistence_ready (h : Ready marker occurrences mixSpans) : queryCoexistence marker occurrences mixSpans =
    match mixSpans.foldlM (addSpan marker occurrences) [] with
    | .error (status,voices) => ⟨status,marker,voices⟩
    | .ok voices => ⟨if 1 < voices.length then .found else .noCoexistence,marker,voices⟩ := by
  obtain ⟨hmarker,hmany,hspans,hoccurrences⟩ := h
  unfold queryCoexistence
  rw [hmarker,if_neg (by decide),if_neg (by omega),hoccurrences,if_neg (by decide)]

lemma queryCoexistence_not_ready (h : ¬Ready marker occurrences mixSpans) :
    ∃ status, ¬Answered status ∧ queryCoexistence marker occurrences mixSpans = ⟨status,marker,[]⟩ := by
  unfold queryCoexistence
  split_ifs with hmarker hlarge hoccurrences
  · exact ⟨_,by simp [Answered],rfl⟩
  · exact ⟨_,by simp [Answered],rfl⟩
  · exact ⟨_,by simp [Answered],rfl⟩
  · exact absurd ⟨by simpa using hmarker,by omega,by omega,by simpa using hoccurrences⟩ h

/-- The spans are all good, or there is a first one that is not. -/
lemma good_or_first (marker : TransitionMarker) (occurrences : List Occurrence) (mixSpans : List MixSpan) :
    (∀ span ∈ mixSpans, good marker occurrences span = true) ∨ ∃ before bad after, mixSpans = before ++ bad :: after ∧
      (∀ span ∈ before, good marker occurrences span = true) ∧ good marker occurrences bad = false := by
  induction mixSpans with
  | nil => exact Or.inl (List.forall_mem_nil _)
  | cons span mixSpans ih =>
    cases hspan : good marker occurrences span with
    | false => exact Or.inr ⟨[],span,mixSpans,rfl,List.forall_mem_nil _,hspan⟩
    | true =>
      obtain hall | ⟨before,bad,after,rfl,hbefore,hbad⟩ := ih
      · exact Or.inl (List.forall_mem_cons.mpr ⟨hspan,hall⟩)
      · exact Or.inr ⟨span :: before,bad,after,rfl,List.forall_mem_cons.mpr ⟨hspan,hbefore⟩,hbad⟩

/-- The first span that is not good is the only one. -/
lemma first_unique {before before' after after' : List MixSpan} {bad bad' : MixSpan}
    (h : before ++ bad :: after = before' ++ bad' :: after')
    (hbefore : ∀ span ∈ before, good marker occurrences span = true) (hbad : good marker occurrences bad = false)
    (hbefore' : ∀ span ∈ before', good marker occurrences span = true) (hbad' : good marker occurrences bad' = false) :
    before = before' ∧ bad = bad' := by
  have htake : ∀ {before after : List MixSpan} {bad : MixSpan}, (∀ span ∈ before, good marker occurrences span = true) →
      good marker occurrences bad = false → (before ++ bad :: after).takeWhile (good marker occurrences) = before := by
    intro before after bad hbefore hbad
    rw [List.takeWhile_append_of_pos hbefore,List.takeWhile_cons,hbad]
    exact List.append_nil _
  have hsame : before = before' := by
    rw [← @htake _ after _ hbefore hbad,h,htake hbefore' hbad']
  subst hsame
  exact ⟨rfl,(List.cons.inj (List.append_cancel_left h)).1⟩

/-- The query is exact unless a span that is not well formed comes after voices. -/
theorem queryCoexistence_exact_iff (marker : TransitionMarker) (occurrences : List Occurrence)
    (mixSpans : List MixSpan) :
    Exact marker occurrences mixSpans (queryCoexistence marker occurrences mixSpans) ↔
      ¬(Ready marker occurrences mixSpans ∧ Stranded marker occurrences mixSpans) := by
  by_cases hready : Ready marker occurrences mixSpans
  · rw [queryCoexistence_ready hready,and_iff_right hready]
    obtain hall | ⟨before,bad,after,rfl,hbefore,hbad⟩ := good_or_first marker occurrences mixSpans
    · obtain ⟨voices,hloop,hcollected⟩ := collected_nil.spans mixSpans hall
      rw [hloop]
      refine iff_of_true ⟨fun _ => ⟨hcollected,?_⟩,fun herror => absurd ?_ herror⟩ ?_
      · dsimp only
        split_ifs with hmany <;> simp [hmany]
      · dsimp only
        split_ifs <;> simp [Answered]
      · rintro ⟨before,bad,after,rfl,-,hbad,-⟩
        have hgood := hall bad (List.mem_append_right _ List.mem_cons_self)
        rw [good,hbad] at hgood
        cases hgood
    · obtain ⟨voices,hcollected,hloop⟩ := spans_bad after hbefore hbad
      rw [hloop]
      cases hwell : wellFormedSpan bad with
      | true =>
        refine iff_of_true (exact_error (by simp [Answered])) ?_
        rintro ⟨before',bad',after',hsame,hbefore',hill,-⟩
        have hbad' : good marker occurrences bad' = false := by
          rw [good,hill,Bool.false_and]
        rw [← (first_unique hsame hbefore hbad hbefore' hbad').2,hwell] at hill
        cases hill
      | false =>
        constructor
        · rintro ⟨-,herror⟩ ⟨before',bad',after',hsame,hbefore',hill,hvoices⟩
          have hbad' : good marker occurrences bad' = false := by
            rw [good,hill,Bool.false_and]
          rw [← (first_unique hsame hbefore hbad hbefore' hbad').1] at hvoices
          have hnone : voices = [] := herror (by simp [Answered])
          obtain ⟨participant,hmem⟩ := List.exists_mem_of_ne_nil _ hvoices
          have hvoice := (hcollected.covers _).mpr (List.mem_map_of_mem hmem)
          rw [hnone] at hvoice
          cases hvoice
        · intro hfree
          have hnone : coexisting marker before = [] := by
            by_contra hsome
            exact hfree ⟨before,bad,after,rfl,hbefore,hwell,hsome⟩
          have hvoices : voices = [] := by
            cases voices with
            | nil => rfl
            | cons voice voices =>
              have hmem := (hcollected.covers voice.occurrenceId).mp List.mem_cons_self
              rw [hnone] at hmem
              cases hmem
          subst hvoices
          exact exact_error (by simp [Answered])
  · obtain ⟨status,herror,hresult⟩ := queryCoexistence_not_ready hready
    rw [hresult]
    exact iff_of_true (exact_error herror) fun h => hready h.1

/-- An error is returned with the voice of the span before the one that is not well formed. -/
theorem queryCoexistence_inexact : ∃ marker occurrences mixSpans,
    (queryCoexistence marker occurrences mixSpans).status = .invalidMixSpan ∧
      ¬Exact marker occurrences mixSpans (queryCoexistence marker occurrences mixSpans) := by
  let range : SampleFrameRange := ⟨[1],48000,110,120⟩
  let span : MixSpan :=
    { runId := [2],spanId := [3],mixRange := range,participants := [⟨⟨[2],1⟩,range,{},{},{},{},{}⟩] }
  refine ⟨⟨[2],[4],range,{}⟩,[{ id := ⟨[2],1⟩ }],[span,{ span with spanId := [] }],by decide +kernel,fun hexact => ?_⟩
  have hvoices := hexact.error (by decide +kernel)
  revert hvoices
  decide +kernel

end Answers
end AytherRuntime.Binary.Mix
