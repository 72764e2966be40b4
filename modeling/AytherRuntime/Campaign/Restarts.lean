import AytherRuntime.Campaign.Audit
import AytherRuntime.Campaign.Parents

/-! The evidence of the restarts of a run, and when it does not depend on the order of the facts. -/
namespace AytherRuntime.Campaign
open Arrangement Audio

section Evidence
variable (g : Gathered) (pcm : List (ℕ × SampleFrameRange)) (restart : PendingRestart)

/-- The ranges of the two voices of a restart whose occurrence has a mix. -/
def position : Option (VoiceRange × VoiceRange) :=
  match g.voiceRanges restart.occurrence, g.voiceRanges restart.previousOccurrence with
  | some current, some previous =>
    if g.occurrenceMixes restart.occurrence = [] then none else some (current,previous)
  | _, _ => none

def linked : Option OutputLink := (position g restart).bind fun _ => outputLink g restart.occurrence

/-- The output link of a restart and the block of its PCM. -/
def played : Option (OutputLink × ℕ × SampleFrameRange) :=
  (linked g restart).bind fun link => (pcmBlock link.pcmSequence pcm).map fun block => (link,block)

def selectionFor : Option FactId := (played g pcm restart).bind fun _ => g.causalParent restart.request

def candidateFor : Option FactId := (selectionFor g pcm restart).bind g.causalParent

def queryFor : Option FactId := (candidateFor g pcm restart).bind g.causalParent

/-- The whole chain of a restart. -/
def chainFor : Option RestartCandidate :=
  match position g restart, played g pcm restart, selectionFor g pcm restart, candidateFor g pcm restart,
    queryFor g pcm restart with
  | some (current,previous), some (output,block), some selection, some candidate, some query =>
    some {
      decision := restart.decision
      event := (g.causalParent query).getD query
      query
      candidate
      selection
      request := restart.request
      mix := output.mix
      outputSpan := output.output
      reason := restart.reason
      occurrence := restart.occurrence
      previousOccurrence := restart.previousOccurrence
      previousSourceEnd := previous.lastSource
      currentSourceBegin := current.firstSource
      outputBegin := current.firstOutput
      outputEnd := current.lastOutput
      pcmSequence := output.pcmSequence
      pcmBegin := block.2.begin
      pcmEnd := block.2.stop }
  | _, _, _, _, _ => none

end Evidence

/-- What a search has found, besides the first PCM sequence without a block. -/
structure Finds (s : RestartSearch) (g : Gathered) (pcm : List (ℕ × SampleFrameRange))
    (rs : List PendingRestart) (s' : RestartSearch) : Prop where
  positionComplete : s'.positionComplete = s.positionComplete + rs.countP fun r => (position g r).isSome
  mixLinkComplete : s'.mixLinkComplete = s.mixLinkComplete + rs.countP fun r => (linked g r).isSome
  outputComplete : s'.outputComplete = s.outputComplete + rs.countP fun r => (played g pcm r).isSome
  requestParentComplete : s'.requestParentComplete =
    s.requestParentComplete + rs.countP fun r => (selectionFor g pcm r).isSome
  selectionParentComplete : s'.selectionParentComplete =
    s.selectionParentComplete + rs.countP fun r => (candidateFor g pcm r).isSome
  candidateParentComplete : s'.candidateParentComplete =
    s.candidateParentComplete + rs.countP fun r => (queryFor g pcm r).isSome
  chainComplete : s'.chainComplete = s.chainComplete + rs.countP fun r => (queryFor g pcm r).isSome
  restartCandidates : s'.restartCandidates = s.restartCandidates ++ rs.filterMap (chainFor g pcm)

section Search
variable (g : Gathered) (pcm : List (ℕ × SampleFrameRange))

/-- A restart adds one to each part of its evidence that is found. -/
lemma restart_eq (s : RestartSearch) (r : PendingRestart) : ∃ unmatched, s.restart g pcm r = {
    positionComplete := s.positionComplete + if (position g r).isSome then 1 else 0
    mixLinkComplete := s.mixLinkComplete + if (linked g r).isSome then 1 else 0
    outputComplete := s.outputComplete + if (played g pcm r).isSome then 1 else 0
    requestParentComplete := s.requestParentComplete + if (selectionFor g pcm r).isSome then 1 else 0
    selectionParentComplete := s.selectionParentComplete + if (candidateFor g pcm r).isSome then 1 else 0
    candidateParentComplete := s.candidateParentComplete + if (queryFor g pcm r).isSome then 1 else 0
    chainComplete := s.chainComplete + if (queryFor g pcm r).isSome then 1 else 0
    firstUnmatchedPcmSequence := unmatched
    restartCandidates := s.restartCandidates ++ (chainFor g pcm r).toList } := by
  unfold RestartSearch.restart chainFor queryFor candidateFor selectionFor played linked position
  cases g.voiceRanges r.occurrence with
  | none => exact ⟨s.firstUnmatchedPcmSequence,by simp⟩
  | some current =>
    cases g.voiceRanges r.previousOccurrence with
    | none => exact ⟨s.firstUnmatchedPcmSequence,by simp⟩
    | some previous =>
      by_cases hmixes : g.occurrenceMixes r.occurrence = []
      · exact ⟨s.firstUnmatchedPcmSequence,by simp [hmixes]⟩
      · cases outputLink g r.occurrence with
        | none => exact ⟨s.firstUnmatchedPcmSequence,by simp [hmixes]⟩
        | some output =>
          cases hblock : pcmBlock output.pcmSequence pcm with
          | none =>
            by_cases hfirst : s.firstUnmatchedPcmSequence = 0
            · exact ⟨output.pcmSequence,by simp [hmixes,hblock,hfirst]⟩
            · exact ⟨s.firstUnmatchedPcmSequence,by simp [hmixes,hblock,hfirst]⟩
          | some block =>
            refine ⟨s.firstUnmatchedPcmSequence,?_⟩
            simp only [hmixes,if_false,hblock,Option.bind_some,Option.map_some]
            cases hselection : g.causalParent r.request with
            | none => simp
            | some selection =>
              cases hcandidate : g.causalParent selection with
              | none => simp [hcandidate]
              | some candidate =>
                cases hquery : g.causalParent candidate with
                | none => simp [hcandidate,hquery]
                | some query => simp [hcandidate,hquery]

lemma finds_foldl (rs : List PendingRestart) (s : RestartSearch) :
    Finds s g pcm rs (rs.foldl (fun s restart => s.restart g pcm restart) s) := by
  induction rs generalizing s with
  | nil => constructor <;> simp
  | cons restart rs ih =>
    obtain ⟨unmatched,hone⟩ := restart_eq g pcm s restart
    obtain ⟨h₁,h₂,h₃,h₄,h₅,h₆,h₇,hcandidates⟩ := ih (s.restart g pcm restart)
    rw [hone] at h₁ h₂ h₃ h₄ h₅ h₆ h₇ hcandidates
    rw [List.foldl_cons,hone]
    constructor
    · rw [h₁,List.countP_cons,Nat.add_assoc,Nat.add_comm (List.countP ..)]
    · rw [h₂,List.countP_cons,Nat.add_assoc,Nat.add_comm (List.countP ..)]
    · rw [h₃,List.countP_cons,Nat.add_assoc,Nat.add_comm (List.countP ..)]
    · rw [h₄,List.countP_cons,Nat.add_assoc,Nat.add_comm (List.countP ..)]
    · rw [h₅,List.countP_cons,Nat.add_assoc,Nat.add_comm (List.countP ..)]
    · rw [h₆,List.countP_cons,Nat.add_assoc,Nat.add_comm (List.countP ..)]
    · rw [h₇,List.countP_cons,Nat.add_assoc,Nat.add_comm (List.countP ..)]
    · rw [hcandidates,List.filterMap_cons,List.append_assoc]
      cases chainFor g pcm restart <;> rfl

lemma searchRestarts_finds (facts : List Fact) :
    Finds {} (gatherAll facts) pcm (restarts facts) (searchRestarts (gatherAll facts) pcm) := by
  rw [← gatherAll_pendingRestarts]
  exact finds_foldl _ _ _ _

end Search

/-- Two searches found the same restart candidates, and as many restarts with each part. -/
structure SameRestarts (s s' : RestartSearch) : Prop where
  restartCandidates : ∀ candidate, candidate ∈ s.restartCandidates ↔ candidate ∈ s'.restartCandidates
  positionComplete : s.positionComplete = s'.positionComplete
  mixLinkComplete : s.mixLinkComplete = s'.mixLinkComplete
  outputComplete : s.outputComplete = s'.outputComplete
  requestParentComplete : s.requestParentComplete = s'.requestParentComplete
  selectionParentComplete : s.selectionParentComplete = s'.selectionParentComplete
  candidateParentComplete : s.candidateParentComplete = s'.candidateParentComplete
  chainComplete : s.chainComplete = s'.chainComplete

section Fixed
variable (facts : List Fact) (pcm : List (ℕ × SampleFrameRange))

/-- An output link to a mix of an occurrence. -/
def Linked (occurrence : ℕ) (link : OutputLink) : Prop :=
  link ∈ outputLinks facts ∧ link.mix ∈ mixesOf facts occurrence

/-- Some block holds the PCM of a link. -/
def Matched (link : OutputLink) : Prop := (pcmBlock link.pcmSequence pcm).isSome = true

/-- Both voices of a restart have positions. -/
def Positioned (restart : PendingRestart) : Prop :=
  (voiceRange facts restart.occurrence).isSome = true ∧
    (voiceRange facts restart.previousOccurrence).isSome = true

/-- An identity and its parents, up to a number of them. -/
def ancestors (parents : FactId → Option FactId) : ℕ → FactId → List FactId
  | 0, id => [id]
  | n + 1, id => id :: (parents id).elim [] (ancestors parents n)

/-- The evidence of the restarts that does not depend on the order of the facts: the links to the
mixes of a restart all lead to PCM or none does; where they do, no open selection is among the
request and its next three parents, and a restart with all three has the links of one span. -/
structure RestartsFixed : Prop where
  matched : ∀ restart ∈ restarts facts, Positioned facts restart → ∀ link link',
    Linked facts restart.occurrence link → Linked facts restart.occurrence link' →
      Matched pcm link → Matched pcm link'
  closed : ∀ restart ∈ restarts facts, Positioned facts restart → ∀ link,
    Linked facts restart.occurrence link → Matched pcm link →
      ∀ id ∈ ancestors (parentIn facts) 3 restart.request, ¬OpenSelection facts id
  single : ∀ restart ∈ restarts facts, Positioned facts restart → ∀ link link',
    Linked facts restart.occurrence link → Linked facts restart.occurrence link' → Matched pcm link →
      (ancestors (parentIn facts) 3 restart.request).length = 4 → link.output = link'.output

/-- Every two orders of the facts give the same evidence of the restarts. -/
def RestartsOrderFree : Prop := ∀ facts₁ facts₂, facts₁.Perm facts → facts₂.Perm facts →
  SameRestarts (searchRestarts (gatherAll facts₁) pcm) (searchRestarts (gatherAll facts₂) pcm)

end Fixed

section Orders
variable {facts facts' : List Fact} {pcm : List (ℕ × SampleFrameRange)} {restart : PendingRestart}

lemma position_perm (h : facts'.Perm facts) (restart : PendingRestart) :
    position (gatherAll facts') restart = position (gatherAll facts) restart := by
  have hnil : mixesOf facts' restart.occurrence = [] ↔ mixesOf facts restart.occurrence = [] := by
    rw [← List.length_eq_zero_iff,← List.length_eq_zero_iff,(mixesOf_perm h _).length_eq]
  simp only [position,gatherAll_voiceRanges,gatherAll_occurrenceMixes,voiceRange_perm h,hnil]

/-- The link of an occurrence is the first of those to its mixes, in the order of the facts. -/
lemma outputLink_perm (h : facts'.Perm facts) (occurrence : ℕ) :
    outputLink (gatherAll facts') occurrence =
      (outputLinks facts').find? fun link => link.mix ∈ mixesOf facts occurrence := by
  simp only [outputLink,gatherAll_outputLinks,gatherAll_occurrenceMixes,(mixesOf_perm h _).mem_iff]

lemma linked_iff_of_perm (h : facts'.Perm facts) {link : OutputLink} :
    link ∈ outputLinks facts' ↔ link ∈ outputLinks facts := (h.flatMap_right _).mem_iff

lemma positioned_of_position (h : (position (gatherAll facts) restart).isSome = true) :
    Positioned facts restart := by
  unfold position at h
  rw [gatherAll_voiceRanges,gatherAll_voiceRanges] at h
  unfold Positioned
  cases hcurrent : voiceRange facts restart.occurrence <;>
    cases hprevious : voiceRange facts restart.previousOccurrence <;> simp_all

lemma position_isSome {link : OutputLink} (h : Positioned facts restart)
    (hlink : Linked facts restart.occurrence link) :
    (position (gatherAll facts) restart).isSome = true := by
  obtain ⟨hcurrent,hprevious⟩ := h
  obtain ⟨current,hcurrent⟩ := Option.isSome_iff_exists.mp hcurrent
  obtain ⟨previous,hprevious⟩ := Option.isSome_iff_exists.mp hprevious
  have hmixes : mixesOf facts restart.occurrence ≠ [] := List.ne_nil_of_mem hlink.2
  simp only [position,gatherAll_voiceRanges,gatherAll_occurrenceMixes,hcurrent,hprevious,hmixes,if_false,
    Option.isSome_some]

/-- The link that a search takes is one of those of the restart. -/
lemma linked_of_played (h : facts'.Perm facts) {link : OutputLink} {block : ℕ × SampleFrameRange}
    (hplayed : played (gatherAll facts') pcm restart = some (link,block)) :
    Positioned facts restart ∧ Linked facts restart.occurrence link ∧
      outputLink (gatherAll facts') restart.occurrence = some link ∧
        pcmBlock link.pcmSequence pcm = some block := by
  obtain ⟨found,hfound,hblock⟩ := Option.bind_eq_some_iff.mp hplayed
  obtain ⟨found',hfound',hpair⟩ := Option.map_eq_some_iff.mp hblock
  obtain ⟨rfl,rfl⟩ := Prod.mk.inj hpair
  obtain ⟨ranges,hranges,hlink⟩ := Option.bind_eq_some_iff.mp hfound
  rw [position_perm h] at hranges
  refine ⟨positioned_of_position (by rw [hranges]; rfl),⟨?_,?_⟩,hlink,hfound'⟩
  · rw [outputLink_perm h] at hlink
    exact (linked_iff_of_perm h).mp (List.mem_of_find?_eq_some hlink)
  · rw [outputLink_perm h] at hlink
    simpa using List.find?_some hlink

/-- A restart with positions and a link gets one of its links in every order. -/
lemma exists_outputLink (h : facts'.Perm facts) {link : OutputLink}
    (hlink : Linked facts restart.occurrence link) : ∃ first,
      outputLink (gatherAll facts') restart.occurrence = some first ∧
        Linked facts restart.occurrence first := by
  have hsome : (outputLink (gatherAll facts') restart.occurrence).isSome = true := by
    rw [outputLink_perm h,List.find?_isSome]
    exact ⟨link,(linked_iff_of_perm h).mpr hlink.1,by simpa using hlink.2⟩
  obtain ⟨first,hfirst⟩ := Option.isSome_iff_exists.mp hsome
  refine ⟨first,hfirst,?_⟩
  rw [outputLink_perm h] at hfirst
  exact ⟨(linked_iff_of_perm h).mp (List.mem_of_find?_eq_some hfirst),by simpa using List.find?_some hfirst⟩

lemma played_of_outputLink (h : facts'.Perm facts) (hposition : Positioned facts restart)
    {link : OutputLink} (hlink : Linked facts restart.occurrence link)
    (hfirst : outputLink (gatherAll facts') restart.occurrence = some link) :
    played (gatherAll facts') pcm restart =
      (pcmBlock link.pcmSequence pcm).map fun block => (link,block) := by
  obtain ⟨ranges,hranges⟩ := Option.isSome_iff_exists.mp (position_isSome hposition hlink)
  rw [played,linked,position_perm h,hranges,Option.bind_some,hfirst,Option.bind_some]

lemma linked_isSome_iff (h : facts'.Perm facts) : (linked (gatherAll facts') restart).isSome = true ↔
    Positioned facts restart ∧ ∃ link, Linked facts restart.occurrence link := by
  constructor
  · intro hsome
    obtain ⟨link,hlink⟩ := Option.isSome_iff_exists.mp hsome
    obtain ⟨ranges,hranges,hfound⟩ := Option.bind_eq_some_iff.mp hlink
    rw [position_perm h] at hranges
    rw [outputLink_perm h] at hfound
    exact ⟨positioned_of_position (by rw [hranges]; rfl),link,
      (linked_iff_of_perm h).mp (List.mem_of_find?_eq_some hfound),by simpa using List.find?_some hfound⟩
  · rintro ⟨hposition,link,hlink⟩
    obtain ⟨ranges,hranges⟩ := Option.isSome_iff_exists.mp (position_isSome hposition hlink)
    obtain ⟨first,hfirst,-⟩ := exists_outputLink h hlink
    rw [linked,position_perm h,hranges,Option.bind_some,hfirst]
    rfl

lemma outputLinksOf_output {fact : Fact} {link : OutputLink} (h : link ∈ outputLinksOf fact) :
    link.output = fact.id ∧ isKnown fact = true := by
  unfold outputLinksOf at h
  split at h
  · rename_i hkind
    refine ⟨?_,by simp [isKnown,hkind]⟩
    unfold linksOf at h
    split at h
    · obtain ⟨cause,-,hcause⟩ := List.mem_filterMap.mp h
      cases cause with
      | fact id =>
        dsimp only at hcause
        split at hcause
        · cases hcause
          rfl
        · cases hcause
      | preexistingContext context => cases hcause
    · cases h
  · cases h

namespace RestartsFixed
variable {facts₁ facts₂ : List Fact} (h : RestartsFixed facts pcm) (hdistinct : Distinct facts)
include h

lemma played_isSome_iff (hperm : facts'.Perm facts) (hrestart : restart ∈ restarts facts) :
    (played (gatherAll facts') pcm restart).isSome = true ↔
      Positioned facts restart ∧ ∃ link, Linked facts restart.occurrence link ∧ Matched pcm link := by
  constructor
  · intro hsome
    obtain ⟨⟨link,block⟩,hplayed⟩ := Option.isSome_iff_exists.mp hsome
    obtain ⟨hposition,hlink,-,hblock⟩ := linked_of_played hperm hplayed
    exact ⟨hposition,link,hlink,by rw [Matched,hblock]; rfl⟩
  · rintro ⟨hposition,link,hlink,hmatched⟩
    obtain ⟨first,hfirst,hlinked⟩ := exists_outputLink hperm hlink
    have hblock := h.matched restart hrestart hposition link first hlink hlinked hmatched
    rw [played_of_outputLink hperm hposition hlinked hfirst,Option.isSome_map]
    exact hblock

include hdistinct

/-- Where all the links of a restart are of one span, every order takes the same one. -/
lemma outputLink_eq (hperm₁ : facts₁.Perm facts) (hperm₂ : facts₂.Perm facts)
    (hrestart : restart ∈ restarts facts) (hposition : Positioned facts restart) {link : OutputLink}
    (hlink : Linked facts restart.occurrence link) (hmatched : Matched pcm link)
    (hlength : (ancestors (parentIn facts) 3 restart.request).length = 4) :
    outputLink (gatherAll facts₁) restart.occurrence = outputLink (gatherAll facts₂) restart.occurrence := by
  obtain ⟨fact,hfact,hmem⟩ := List.mem_flatMap.mp hlink.1
  obtain ⟨hid,hknown⟩ := outputLinksOf_output hmem
  have honly : ∀ other ∈ facts, ∀ z ∈ outputLinksOf other,
      decide (z.mix ∈ mixesOf facts restart.occurrence) = true → other = fact := by
    intro other hother z hz hmix
    obtain ⟨hid',hknown'⟩ := outputLinksOf_output hz
    have hsame := h.single restart hrestart hposition link z hlink
      ⟨List.mem_flatMap.mpr ⟨other,hother,hz⟩,of_decide_eq_true hmix⟩ hmatched hlength
    exact hdistinct.eq hother hfact hknown' hknown (by rw [← hid,← hid',hsame])
  rw [outputLink_perm hperm₁,outputLink_perm hperm₂,outputLinks,outputLinks,
    find?_flatMap_of_single (hperm₁.mem_iff.mpr hfact) fun y hy => honly y (hperm₁.mem_iff.mp hy),
    find?_flatMap_of_single (hperm₂.mem_iff.mpr hfact) fun y hy => honly y (hperm₂.mem_iff.mp hy)]

/-- The evidence of one restart is the same in every order. -/
lemma same_evidence (hperm₁ : facts₁.Perm facts) (hperm₂ : facts₂.Perm facts)
    (hrestart : restart ∈ restarts facts) :
    selectionFor (gatherAll facts₁) pcm restart = selectionFor (gatherAll facts₂) pcm restart ∧
      candidateFor (gatherAll facts₁) pcm restart = candidateFor (gatherAll facts₂) pcm restart ∧
        queryFor (gatherAll facts₁) pcm restart = queryFor (gatherAll facts₂) pcm restart ∧
          chainFor (gatherAll facts₁) pcm restart = chainFor (gatherAll facts₂) pcm restart := by
  have hiff := (h.played_isSome_iff hperm₁ hrestart).trans (h.played_isSome_iff hperm₂ hrestart).symm
  cases hplayed : played (gatherAll facts₁) pcm restart with
  | none =>
    have hnone : played (gatherAll facts₂) pcm restart = none := by simpa [hplayed] using hiff
    simp [selectionFor,candidateFor,queryFor,chainFor,hplayed,hnone]
  | some found =>
    obtain ⟨link,block⟩ := found
    rw [hplayed] at hiff
    obtain ⟨⟨link',block'⟩,hplayed'⟩ := Option.isSome_iff_exists.mp (hiff.mp rfl)
    obtain ⟨hposition,hlink,hfirst,hblock⟩ := linked_of_played hperm₁ hplayed
    obtain ⟨-,-,hfirst',hblock'⟩ := linked_of_played hperm₂ hplayed'
    have hmatched : Matched pcm link := by rw [Matched,hblock]; rfl
    have hclosed := h.closed restart hrestart hposition link hlink hmatched
    -- Every identity on the way has one parent in both orders.
    have hparents : ∀ id ∈ ancestors (parentIn facts) 3 restart.request,
        (gatherAll facts₁).causalParent id = parentIn facts id ∧
          (gatherAll facts₂).causalParent id = parentIn facts id := fun id hid =>
      ⟨causalParent_perm hdistinct hperm₁ (hclosed id hid),
        causalParent_perm hdistinct hperm₂ (hclosed id hid)⟩
    simp only [selectionFor,candidateFor,queryFor,chainFor,hplayed,hplayed',position_perm hperm₁,
      position_perm hperm₂,Option.bind_some]
    obtain ⟨hrequest₁,hrequest₂⟩ := hparents restart.request (by simp [ancestors])
    rw [hrequest₁,hrequest₂]
    cases hselection : parentIn facts restart.request with
    | none => simp
    | some selection =>
      obtain ⟨hselection₁,hselection₂⟩ := hparents selection (by simp [ancestors,hselection])
      rw [Option.bind_some,Option.bind_some,hselection₁,hselection₂]
      cases hcandidate : parentIn facts selection with
      | none => simp
      | some candidate =>
        obtain ⟨hcandidate₁,hcandidate₂⟩ := hparents candidate (by simp [ancestors,hselection,hcandidate])
        rw [Option.bind_some,Option.bind_some,hcandidate₁,hcandidate₂]
        cases hquery : parentIn facts candidate with
        | none => simp
        | some query =>
          obtain ⟨hquery₁,hquery₂⟩ :=
            hparents query (by simp [ancestors,hselection,hcandidate,hquery])
          have hlength : (ancestors (parentIn facts) 3 restart.request).length = 4 := by
            simp [ancestors,hselection,hcandidate,hquery]
          have hsame := h.outputLink_eq hdistinct hperm₁ hperm₂ hrestart hposition hlink hmatched hlength
          obtain rfl : link = link' := Option.some.inj (hfirst.symm.trans (hsame.trans hfirst'))
          obtain rfl : block = block' := Option.some.inj (hblock.symm.trans hblock')
          obtain ⟨ranges,hranges⟩ := Option.isSome_iff_exists.mp (position_isSome hposition hlink)
          simp [hranges,hquery₁,hquery₂]

end RestartsFixed

/-- Counts over the restarts of two orders. -/
lemma countP_restarts {facts₁ facts₂ : List Fact} (hperm₁ : facts₁.Perm facts)
    (hperm₂ : facts₂.Perm facts) {p q : PendingRestart → Bool}
    (h : ∀ restart ∈ restarts facts, p restart = q restart) :
    (restarts facts₁).countP p = (restarts facts₂).countP q := by
  rw [(restarts_perm hperm₁).countP_eq,(restarts_perm hperm₂).countP_eq]
  exact List.countP_congr fun restart hrestart => by rw [h restart hrestart]

/-- Evidence that is fixed is the same in every order of the facts. -/
lemma RestartsFixed.orderFree (h : RestartsFixed facts pcm) (hdistinct : Distinct facts) :
    RestartsOrderFree facts pcm := by
  intro facts₁ facts₂ hperm₁ hperm₂
  have hfinds₁ := searchRestarts_finds pcm facts₁
  have hfinds₂ := searchRestarts_finds pcm facts₂
  have hsame := fun restart (hrestart : restart ∈ restarts facts) =>
    h.same_evidence hdistinct hperm₁ hperm₂ hrestart
  constructor
  · intro candidate
    rw [hfinds₁.restartCandidates,hfinds₂.restartCandidates]
    have hmem : ∀ restart, restart ∈ restarts facts₁ ↔ restart ∈ restarts facts₂ := fun restart =>
      (restarts_perm hperm₁).mem_iff.trans (restarts_perm hperm₂).mem_iff.symm
    simp only [List.nil_append,List.mem_filterMap]
    refine exists_congr fun restart => ?_
    rw [hmem restart]
    refine and_congr_right fun hrestart => ?_
    rw [(hsame restart ((restarts_perm hperm₂).mem_iff.mp hrestart)).2.2.2]
  · rw [hfinds₁.positionComplete,hfinds₂.positionComplete,countP_restarts hperm₁ hperm₂]
    intro restart _
    rw [position_perm hperm₁,position_perm hperm₂]
  · rw [hfinds₁.mixLinkComplete,hfinds₂.mixLinkComplete,countP_restarts hperm₁ hperm₂]
    intro restart _
    rw [Bool.eq_iff_iff,linked_isSome_iff hperm₁,linked_isSome_iff hperm₂]
  · rw [hfinds₁.outputComplete,hfinds₂.outputComplete,countP_restarts hperm₁ hperm₂]
    intro restart hrestart
    rw [Bool.eq_iff_iff,h.played_isSome_iff hperm₁ hrestart,h.played_isSome_iff hperm₂ hrestart]
  · rw [hfinds₁.requestParentComplete,hfinds₂.requestParentComplete,countP_restarts hperm₁ hperm₂]
    intro restart hrestart
    rw [(hsame restart hrestart).1]
  · rw [hfinds₁.selectionParentComplete,hfinds₂.selectionParentComplete,countP_restarts hperm₁ hperm₂]
    intro restart hrestart
    rw [(hsame restart hrestart).2.1]
  · rw [hfinds₁.candidateParentComplete,hfinds₂.candidateParentComplete,countP_restarts hperm₁ hperm₂]
    intro restart hrestart
    rw [(hsame restart hrestart).2.2.1]
  · rw [hfinds₁.chainComplete,hfinds₂.chainComplete,countP_restarts hperm₁ hperm₂]
    intro restart hrestart
    rw [(hsame restart hrestart).2.2.1]

end Orders

section Determined
variable {facts facts₁ facts₂ : List Fact} {pcm : List (ℕ × SampleFrameRange)} {restart : PendingRestart}

lemma outputLinksOf_sequence {fact : Fact} {link link' : OutputLink} (h : link ∈ outputLinksOf fact)
    (h' : link' ∈ outputLinksOf fact) : link.pcmSequence = link'.pcmSequence := by
  have hone : ∃ sequence, ∀ link ∈ outputLinksOf fact, link.pcmSequence = sequence := by
    unfold outputLinksOf linksOf
    split
    · split
      · rename_i pcm _
        refine ⟨pcm.producerSequence,fun link hlink => ?_⟩
        obtain ⟨cause,-,hcause⟩ := List.mem_filterMap.mp hlink
        cases cause with
        | fact id =>
          dsimp only at hcause
          split at hcause
          · cases hcause
            rfl
          · cases hcause
        | preexistingContext context => cases hcause
      · exact ⟨0,by simp⟩
    · exact ⟨0,by simp⟩
  obtain ⟨sequence,hsequence⟩ := hone
  rw [hsequence link h,hsequence link' h']

/-- The PCM of the links of a span is in some block. -/
def leadsToPcm (pcm : List (ℕ × SampleFrameRange)) (fact : Fact) : Bool :=
  (outputLinksOf fact).any fun link => (pcmBlock link.pcmSequence pcm).isSome

lemma leadsToPcm_iff {fact : Fact} {link : OutputLink} (h : link ∈ outputLinksOf fact) :
    leadsToPcm pcm fact = true ↔ Matched pcm link := by
  simp only [leadsToPcm,List.any_eq_true,Matched]
  constructor
  · rintro ⟨other,hother,hblock⟩
    rwa [outputLinksOf_sequence h hother]
  · exact fun hblock => ⟨link,h,hblock⟩

/-- The link of an occurrence is one of the spans that were brought to the front, if one of them
leads to its mixes. -/
lemma outputLink_bringFront {p : Fact → Bool} {fact : Fact} {link : OutputLink} {occurrence : ℕ}
    (hfact : fact ∈ facts) (hp : p fact = true) (hlink : link ∈ outputLinksOf fact)
    (hmix : link.mix ∈ mixesOf facts occurrence) : ∃ other ∈ facts, p other = true ∧
      ∃ first ∈ outputLinksOf other, Linked facts occurrence first ∧
        outputLink (gatherAll (bringFront p facts)) occurrence = some first := by
  obtain ⟨other,hother,hp',first,hfirst,hfound,hmix'⟩ := exists_find?_bringFront
    (r := fun link => decide (link.mix ∈ mixesOf facts occurrence)) hfact hp hlink (by simpa using hmix)
  refine ⟨other,hother,hp',first,hfirst,⟨?_,by simpa using hmix'⟩,?_⟩
  · exact List.mem_flatMap.mpr ⟨other,hother,hfirst⟩
  · rw [outputLink_perm (bringFront_perm p facts),outputLinks]
    exact hfound

lemma chainFor_decision {g : Gathered} {chain : RestartCandidate} (h : chainFor g pcm restart = some chain) :
    chain.decision = restart.decision := by
  unfold chainFor at h
  split at h
  · cases h
    rfl
  · cases h

/-- The restarts of a run have decisions of their own. -/
lemma restart_unique (hdistinct : Distinct facts) {other : PendingRestart} (h : restart ∈ restarts facts)
    (hother : other ∈ restarts facts) (hdecision : restart.decision = other.decision) : restart = other := by
  have hdecided : ∀ {fact : Fact} {r : PendingRestart}, pendingRestart fact = some r →
      r.decision = fact.id ∧ isKnown fact = true := by
    intro fact r hr
    unfold pendingRestart at hr
    split at hr
    · rename_i hkind
      refine ⟨?_,by simp [isKnown,hkind]⟩
      unfold restartOf at hr
      split at hr
      · split at hr
        · cases hr
          rfl
        · cases hr
      · cases hr
    · cases hr
  obtain ⟨fact,hfact,hpending⟩ := List.mem_filterMap.mp h
  obtain ⟨fact',hfact',hpending'⟩ := List.mem_filterMap.mp hother
  obtain ⟨hid,hknown⟩ := hdecided hpending
  obtain ⟨hid',hknown'⟩ := hdecided hpending'
  obtain rfl := hdistinct.eq hfact hfact' hknown hknown' (by rw [← hid,← hid',hdecision])
  exact Option.some.inj (hpending.symm.trans hpending')

/-- What two orders count alike, and one of them finds where the other does, both find. -/
lemma of_countP_restarts (hperm₁ : facts₁.Perm facts) (hperm₂ : facts₂.Perm facts)
    {p q : PendingRestart → Bool} (hcount : (restarts facts₁).countP p = (restarts facts₂).countP q)
    (himp : ∀ restart ∈ restarts facts, p restart = true → q restart = true) :
    ∀ restart ∈ restarts facts, q restart = true → p restart = true := by
  rw [(restarts_perm hperm₁).countP_eq,(restarts_perm hperm₂).countP_eq] at hcount
  exact of_countP_eq himp hcount

/-- With its links and its parents fixed, a restart with three parents has a whole chain. -/
lemma exists_chainFor {facts' : List Fact} (hdistinct : Distinct facts) (hperm : facts'.Perm facts)
    (hclosed : ∀ id ∈ ancestors (parentIn facts) 3 restart.request, ¬OpenSelection facts id)
    {link : OutputLink} {block : ℕ × SampleFrameRange}
    (hplayed : played (gatherAll facts') pcm restart = some (link,block))
    (hlength : (ancestors (parentIn facts) 3 restart.request).length = 4) :
    ∃ chain, chainFor (gatherAll facts') pcm restart = some chain ∧ chain.outputSpan = link.output := by
  have hparents : ∀ id ∈ ancestors (parentIn facts) 3 restart.request,
      (gatherAll facts').causalParent id = parentIn facts id := fun id hid =>
    causalParent_perm hdistinct hperm (hclosed id hid)
  obtain ⟨hposition,hlink,-,-⟩ := linked_of_played hperm hplayed
  obtain ⟨ranges,hranges⟩ := Option.isSome_iff_exists.mp (position_isSome hposition hlink)
  have hrequest := hparents restart.request (by simp [ancestors])
  cases hselection : parentIn facts restart.request with
  | none => simp [ancestors,hselection] at hlength
  | some selection =>
    cases hcandidate : parentIn facts selection with
    | none => simp [ancestors,hselection,hcandidate] at hlength
    | some candidate =>
      cases hquery : parentIn facts candidate with
      | none => simp [ancestors,hselection,hcandidate,hquery] at hlength
      | some query =>
        have hselected := hparents selection (by simp [ancestors,hselection])
        have hfound := hparents candidate (by simp [ancestors,hselection,hcandidate])
        simp [chainFor,selectionFor,candidateFor,queryFor,position_perm hperm,hranges,hplayed,hrequest,
          hselection,hselected,hcandidate,hfound,hquery]

lemma isSome_mono {α : Type} {x y : Option α} (h : ∀ a, x = some a → y = some a) (hx : x.isSome = true) :
    y.isSome = true := by
  obtain ⟨a,ha⟩ := Option.isSome_iff_exists.mp hx
  rw [h a ha]
  rfl

lemma eq_of_isSome {α : Type} {x y : Option α} (h : ∀ a, x = some a → y = some a)
    (hsome : y.isSome = true → x.isSome = true) : x = y := by
  cases hx : x with
  | some a => exact (h a hx).symm
  | none =>
    rw [hx] at hsome
    cases y with
    | none => rfl
    | some a => cases hsome rfl

/-- Where fewer facts have parents, what is found above a restart is found with more. -/
lemma fewerParents {g₁ g₂ : Gathered}
    (hless : ∀ {id parent}, g₁.causalParent id = some parent → g₂.causalParent id = some parent)
    (hplayed : ∀ r, played g₁ pcm r = played g₂ pcm r) :
    (∀ r id, selectionFor g₁ pcm r = some id → selectionFor g₂ pcm r = some id) ∧
      (∀ r id, candidateFor g₁ pcm r = some id → candidateFor g₂ pcm r = some id) ∧
        ∀ r id, queryFor g₁ pcm r = some id → queryFor g₂ pcm r = some id := by
  have hselections : ∀ r id, selectionFor g₁ pcm r = some id → selectionFor g₂ pcm r = some id := by
    intro r id hid
    obtain ⟨found,hfound,hparent⟩ := Option.bind_eq_some_iff.mp hid
    exact Option.bind_eq_some_iff.mpr ⟨found,hplayed r ▸ hfound,hless hparent⟩
  have hcandidates : ∀ r id, candidateFor g₁ pcm r = some id → candidateFor g₂ pcm r = some id := by
    intro r id hid
    obtain ⟨selection,hselection,hparent⟩ := Option.bind_eq_some_iff.mp hid
    exact Option.bind_eq_some_iff.mpr ⟨selection,hselections r selection hselection,hless hparent⟩
  refine ⟨hselections,hcandidates,fun r id hid => ?_⟩
  obtain ⟨candidate,hcandidate,hparent⟩ := Option.bind_eq_some_iff.mp hid
  exact Option.bind_eq_some_iff.mpr ⟨candidate,hcandidates r candidate hcandidate,hless hparent⟩

namespace RestartsOrderFree
variable (h : RestartsOrderFree facts pcm)
include h

/-- In every two orders a restart has one chain. -/
lemma chainFor_eq (hdistinct : Distinct facts) (hperm₁ : facts₁.Perm facts) (hperm₂ : facts₂.Perm facts)
    (hrestart : restart ∈ restarts facts) {chain chain' : RestartCandidate}
    (hchain : chainFor (gatherAll facts₁) pcm restart = some chain)
    (hchain' : chainFor (gatherAll facts₂) pcm restart = some chain') : chain = chain' := by
  have hsame := (h facts₁ facts₂ hperm₁ hperm₂).restartCandidates chain
  rw [(searchRestarts_finds pcm facts₁).restartCandidates,
    (searchRestarts_finds pcm facts₂).restartCandidates,List.nil_append,List.nil_append,
    List.mem_filterMap,List.mem_filterMap] at hsame
  obtain ⟨other,hother,hfound⟩ := hsame.mp ⟨restart,(restarts_perm hperm₁).mem_iff.mpr hrestart,hchain⟩
  obtain rfl := restart_unique hdistinct hrestart ((restarts_perm hperm₂).mem_iff.mp hother)
    ((chainFor_decision hchain).symm.trans (chainFor_decision hfound))
  exact Option.some.inj (hfound.symm.trans hchain')

/-- With the spans that lead to PCM first, and with them last, as many restarts have an output. -/
lemma matched (hrestart : restart ∈ restarts facts) (hposition : Positioned facts restart)
    {link link' : OutputLink} (hlink : Linked facts restart.occurrence link)
    (hlink' : Linked facts restart.occurrence link') (hmatched : Matched pcm link) : Matched pcm link' := by
  have hperm₁ := bringFront_perm (fun fact => !leadsToPcm pcm fact) facts
  have hperm₂ := bringFront_perm (leadsToPcm pcm) facts
  -- With the spans that lead to PCM first, a link to PCM is enough.
  have hfirst : ∀ r, Positioned facts r → ∀ link, Linked facts r.occurrence link → Matched pcm link →
      (played (gatherAll (bringFront (leadsToPcm pcm) facts)) pcm r).isSome = true := by
    intro r hposition link hlink hmatched
    obtain ⟨fact,hfact,hmem⟩ := List.mem_flatMap.mp hlink.1
    obtain ⟨other,-,hleads',first,hmem',hlinked,hfound⟩ :=
      outputLink_bringFront hfact ((leadsToPcm_iff hmem).mpr hmatched) hmem hlink.2
    rw [played_of_outputLink hperm₂ hposition hlinked hfound,Option.isSome_map]
    exact (leadsToPcm_iff hmem').mp hleads'
  have hcount := (h _ _ hperm₁ hperm₂).outputComplete
  rw [(searchRestarts_finds pcm _).outputComplete,(searchRestarts_finds pcm _).outputComplete,
    Nat.add_left_cancel_iff] at hcount
  have hback := of_countP_restarts hperm₁ hperm₂ hcount fun r hr hsome => by
    obtain ⟨⟨link,block⟩,hplayed⟩ := Option.isSome_iff_exists.mp hsome
    obtain ⟨hposition,hlink,-,hblock⟩ := linked_of_played hperm₁ hplayed
    exact hfirst r hposition link hlink (by rw [Matched,hblock]; rfl)
  have hplayed := hback restart hrestart (hfirst restart hposition link hlink hmatched)
  -- With them last, a link without PCM would be taken.
  by_contra hunmatched
  obtain ⟨fact,hfact,hmem⟩ := List.mem_flatMap.mp hlink'.1
  have hnot : (!leadsToPcm pcm fact) = true := by
    rw [Bool.not_eq_true',← Bool.not_eq_true,leadsToPcm_iff hmem]
    exact hunmatched
  obtain ⟨other,-,hother,first,hmem',hlinked,hfound⟩ :=
    outputLink_bringFront (p := fun fact => !leadsToPcm pcm fact) hfact hnot hmem hlink'.2
  rw [played_of_outputLink hperm₁ hposition hlinked hfound,Option.isSome_map] at hplayed
  rw [Bool.not_eq_true',← Bool.not_eq_true,leadsToPcm_iff hmem'] at hother
  exact hother hplayed

variable (hdistinct : Distinct facts)
include hdistinct

/-- With the selections first, as many restarts have each parent as with the candidates first. -/
lemma closed (hrestart : restart ∈ restarts facts) (hposition : Positioned facts restart)
    {link : OutputLink} (hlink : Linked facts restart.occurrence link) (hmatched : Matched pcm link) :
    ∀ id ∈ ancestors (parentIn facts) 3 restart.request, ¬OpenSelection facts id := by
  have hperm₁ := bringFront_perm isSelection facts
  have hperm₂ := bringFront_perm isCandidate facts
  have hlinks₁ : outputLinks (bringFront isSelection facts) = outputLinks facts :=
    flatMap_bringFront fun fact _ hselection => by
      have hkind : campaignKind fact.kind = .assignmentSelection := by simpa [isSelection] using hselection
      simp [outputLinksOf,hkind]
  have hlinks₂ : outputLinks (bringFront isCandidate facts) = outputLinks facts :=
    flatMap_bringFront fun fact _ hcandidate => by
      have hkind : campaignKind fact.kind = .assignmentCandidate := by simpa [isCandidate] using hcandidate
      simp [outputLinksOf,hkind]
  have hplayed : ∀ r, played (gatherAll (bringFront isSelection facts)) pcm r =
      played (gatherAll (bringFront isCandidate facts)) pcm r := by
    intro r
    simp only [played,linked,position_perm hperm₁,position_perm hperm₂,outputLink_perm hperm₁,
      outputLink_perm hperm₂,hlinks₁,hlinks₂]
  have hparents := causalParent_candidatesFirst hdistinct
  have hopen : ∀ {id}, OpenSelection facts id →
      (gatherAll (bringFront isSelection facts)).causalParent id = none :=
    fun hopen => causalParent_selectionsFirst hdistinct hopen
  have hless : ∀ {id parent}, (gatherAll (bringFront isSelection facts)).causalParent id = some parent →
      (gatherAll (bringFront isCandidate facts)).causalParent id = some parent := by
    intro id parent hparent
    by_cases hid : OpenSelection facts id
    · rw [hopen hid] at hparent
      cases hparent
    · rw [hparents,← causalParent_perm hdistinct hperm₁ hid,hparent]
  obtain ⟨first,hfirst,hlinked⟩ := exists_outputLink hperm₂ hlink
  have hblock := h.matched hrestart hposition hlink hlinked hmatched
  obtain ⟨block,hblock⟩ := Option.isSome_iff_exists.mp hblock
  have hplayed₂ : played (gatherAll (bringFront isCandidate facts)) pcm restart = some (first,block) := by
    rw [played_of_outputLink hperm₂ hposition hlinked hfirst,hblock,Option.map_some]
  have hsame := h _ _ hperm₁ hperm₂
  have hfinds₁ := searchRestarts_finds pcm (bringFront isSelection facts)
  have hfinds₂ := searchRestarts_finds pcm (bringFront isCandidate facts)
  have hcount := hsame.requestParentComplete
  have hcount' := hsame.selectionParentComplete
  have hcount'' := hsame.candidateParentComplete
  rw [hfinds₁.requestParentComplete,hfinds₂.requestParentComplete,Nat.add_left_cancel_iff] at hcount
  rw [hfinds₁.selectionParentComplete,hfinds₂.selectionParentComplete,Nat.add_left_cancel_iff] at hcount'
  rw [hfinds₁.candidateParentComplete,hfinds₂.candidateParentComplete,Nat.add_left_cancel_iff] at hcount''
  obtain ⟨hselections,hcandidates,hqueries⟩ := fewerParents hless hplayed
  have hselected := eq_of_isSome (hselections restart)
    (of_countP_restarts hperm₁ hperm₂ hcount (fun r _ => isSome_mono (hselections r)) restart hrestart)
  have hfound := eq_of_isSome (hcandidates restart)
    (of_countP_restarts hperm₁ hperm₂ hcount' (fun r _ => isSome_mono (hcandidates r)) restart hrestart)
  have hqueried := eq_of_isSome (hqueries restart)
    (of_countP_restarts hperm₁ hperm₂ hcount'' (fun r _ => isSome_mono (hqueries r)) restart hrestart)
  intro id hid hopenId
  obtain ⟨parent,hparent,hne⟩ := hopenId.parent hdistinct
  rcases List.mem_cons.mp hid with rfl | hid
  · rw [selectionFor,selectionFor,hplayed,hplayed₂,Option.bind_some,Option.bind_some,hopen hopenId,hparents,
      hparent] at hselected
    cases hselected
  cases hselection : parentIn facts restart.request with
  | none => simp [hselection] at hid
  | some selection =>
    have hselection₂ : selectionFor (gatherAll (bringFront isCandidate facts)) pcm restart = some selection := by
      rw [selectionFor,hplayed₂,Option.bind_some,hparents,hselection]
    rw [hselection] at hid
    rcases List.mem_cons.mp hid with rfl | hid
    · rw [candidateFor,candidateFor,hselected,hselection₂,Option.bind_some,Option.bind_some,hopen hopenId,
        hparents,hparent] at hfound
      cases hfound
    cases hcandidate : parentIn facts selection with
    | none => simp [hcandidate] at hid
    | some candidate =>
      have hcandidate₂ : candidateFor (gatherAll (bringFront isCandidate facts)) pcm restart =
          some candidate := by rw [candidateFor,hselection₂,Option.bind_some,hparents,hcandidate]
      rw [hcandidate] at hid
      rcases List.mem_cons.mp hid with rfl | hid
      · rw [queryFor,queryFor,hfound,hcandidate₂,Option.bind_some,Option.bind_some,hopen hopenId,hparents,
          hparent] at hqueried
        cases hqueried
      cases hquery : parentIn facts candidate with
      | none => simp [hquery] at hid
      | some query =>
        have hquery₂ : queryFor (gatherAll (bringFront isCandidate facts)) pcm restart = some query := by
          rw [queryFor,hcandidate₂,Option.bind_some,hparents,hquery]
        rw [hquery] at hid
        obtain rfl : id = query := by simpa [ancestors] using hid
        -- The two chains begin at different events.
        obtain ⟨ranges,hranges⟩ := Option.isSome_iff_exists.mp (position_isSome hposition hlink)
        have hranges₁ := (position_perm hperm₁ restart).trans hranges
        have hranges₂ := (position_perm hperm₂ restart).trans hranges
        have hplayed₁ := (hplayed restart).trans hplayed₂
        rw [hselection₂] at hselected
        rw [hcandidate₂] at hfound
        rw [hquery₂] at hqueried
        have hevents := congrArg RestartCandidate.event (h.chainFor_eq hdistinct hperm₁ hperm₂ hrestart
          (by simp only [chainFor,hranges₁,hplayed₁,hselected,hfound,hqueried]; rfl)
          (by simp only [chainFor,hranges₂,hplayed₂,hselection₂,hcandidate₂,hquery₂]; rfl))
        simp only [hopen hopenId,hparents,hparent,Option.getD_none,Option.getD_some] at hevents
        exact hne hevents.symm

/-- With the span of either link first, a restart with a whole chain has the same link. -/
lemma single (hrestart : restart ∈ restarts facts) (hposition : Positioned facts restart)
    {link link' : OutputLink} (hlink : Linked facts restart.occurrence link)
    (hlink' : Linked facts restart.occurrence link') (hmatched : Matched pcm link)
    (hlength : (ancestors (parentIn facts) 3 restart.request).length = 4) : link.output = link'.output := by
  have hclosed := h.closed hdistinct hrestart hposition hlink hmatched
  have hspan : ∀ {link : OutputLink}, Linked facts restart.occurrence link → ∃ p chain,
      chainFor (gatherAll (bringFront p facts)) pcm restart = some chain ∧
        chain.outputSpan = link.output := by
    intro link' hlink'
    obtain ⟨fact,hfact,hmem⟩ := List.mem_flatMap.mp hlink'.1
    obtain ⟨hid,-⟩ := outputLinksOf_output hmem
    obtain ⟨other,-,hother,first,hmem',hlinked,hfound⟩ :=
      outputLink_bringFront (p := fun fact => fact.id = link'.output) hfact (by simp [hid]) hmem hlink'.2
    obtain ⟨block,hblock⟩ :=
      Option.isSome_iff_exists.mp (h.matched hrestart hposition hlink hlinked hmatched)
    have hperm := bringFront_perm (fun fact : Fact => decide (fact.id = link'.output)) facts
    obtain ⟨chain,hchain,hspan⟩ := exists_chainFor hdistinct hperm hclosed
      ((played_of_outputLink hperm hposition hlinked hfound).trans (by rw [hblock,Option.map_some])) hlength
    refine ⟨_,chain,hchain,?_⟩
    rw [hspan,(outputLinksOf_output hmem').1]
    simpa using hother
  obtain ⟨p,chain,hchain,houtput⟩ := hspan hlink
  obtain ⟨p',chain',hchain',houtput'⟩ := hspan hlink'
  rw [← houtput,← houtput',h.chainFor_eq hdistinct (bringFront_perm p facts) (bringFront_perm p' facts)
    hrestart hchain hchain']

end RestartsOrderFree

/-- The evidence of the restarts does not depend on the order of the facts exactly when it is fixed. -/
lemma restartsOrderFree_iff (hdistinct : Distinct facts) :
    RestartsOrderFree facts pcm ↔ RestartsFixed facts pcm := by
  refine ⟨fun h => ⟨?_,?_,?_⟩,fun h => h.orderFree hdistinct⟩
  · exact fun restart hrestart hposition link link' hlink hlink' hmatched =>
      h.matched hrestart hposition hlink hlink' hmatched
  · exact fun restart hrestart hposition link hlink hmatched =>
      h.closed hdistinct hrestart hposition hlink hmatched
  · exact fun restart hrestart hposition link link' hlink hlink' hmatched hlength =>
      h.single hdistinct hrestart hposition hlink hlink' hmatched hlength

end Determined
end AytherRuntime.Campaign
