import AytherRuntime.Library.Arrangement
import AytherRuntime.Trace.Arrival

/-! When the verdict of the accumulator depends on the order in which the facts of a run arrive. -/
namespace AytherRuntime.Trace
open Accumulator

variable (runId : String) (facts : List Fact)

/-- What must be published earlier: a cause before its fact, and the effect chosen as the first of
a request before the other effects of that request. -/
def Before (first : CompactId → CompactId) (earlier later : CompactId) : Prop :=
  (∃ fact ∈ consumed runId facts, fact.id = later ∧ earlier ∈ fact.causes) ∨
    ∃ request, StageOf runId facts .effect request later ∧ earlier = first request ∧ earlier ≠ later

/-- A choice of the first effect of every request that the causes allow. -/
structure FirstEffects (first : CompactId → CompactId) : Prop where
  effect : ∀ request effect, StageOf runId facts .effect request effect →
    StageOf runId facts .effect request (first request)
  acyclic : Arrangement.Acyclic (Before runId facts first)

/-- Some request with a mix has a decision over its first effect. -/
def Connects (first : CompactId → CompactId) : Prop :=
  ∃ request, (∃ mix, StageOf runId facts .mix request mix) ∧
    StageOf runId facts .effect request (first request) ∧ Decided runId facts (first request)

/-- Two orders of the facts that are both free of loss have one verdict. -/
def OrderFree : Prop :=
  ∀ hash hash' facts₁ facts₂, facts₁.Perm facts → facts₂.Perm facts →
    (traceSummary hash runId facts₁ true).lossFree = true →
    (traceSummary hash' runId facts₂ true).lossFree = true →
    (traceSummary hash runId facts₁ true).causallyConnected =
      (traceSummary hash' runId facts₂ true).causallyConnected

variable {runId facts} {facts' : List Fact} {log : List CompactId}

/-- A listing chooses first effects. -/
lemma Listing.firstEffects (h : Listing runId facts log)
    (hdistinct : Settlement.Distinct dependencies (consumed runId facts) (excluded runId facts))
    {first : CompactId → CompactId} (hfirst : ∀ request effect,
      StageOf runId facts .effect request effect →
        FirstIn runId facts .effect log request (first request)) : FirstEffects runId facts first where
  effect := fun request effect heffect => (hfirst request effect heffect).stageOf
  acyclic := by
    -- The position in the listing, and zero for what is not published.
    refine Arrangement.acyclic_of_rank (fun id => if id ∈ log then log.idxOf id + 1 else 0) ?_
    rintro earlier later (⟨fact,hfact,rfl,hcause⟩ | ⟨request,hlater,rfl,hne⟩)
    · have hlater := (h.mem fact.id).mpr ⟨fact,hfact,rfl⟩
      obtain ⟨before,after,hlog⟩ := List.append_of_mem hlater
      rw [if_pos hlater]
      rcases h.causal before fact.id after hlog fact hfact rfl earlier hcause with hgiven | hbefore
      · have hnot : earlier ∉ log := by
          intro hmem
          obtain ⟨other,hother,rfl⟩ := (h.mem earlier).mp hmem
          exact hdistinct.given other hother hgiven
        rw [if_neg hnot]
        exact Nat.succ_pos _
      · have hearlier : earlier ∈ log := by rw [hlog]; simp [hbefore]
        rw [if_pos hearlier]
        exact Nat.succ_lt_succ (h.idxOf_lt hlog hbefore)
    · have hchosen := hfirst request later hlater
      have hmemLater : later ∈ log := (h.mem later).mpr (hlater.consumed (by simp))
      rw [if_pos hchosen.mem,if_pos hmemLater]
      obtain ⟨before,after,hlog,hstage,hnone⟩ := hchosen
      have hafter : later ∈ after := by
        rw [hlog,List.mem_append,List.mem_cons] at hmemLater
        rcases hmemLater with hb | rfl | ha
        · exact absurd hlater (hnone later hb)
        · exact absurd rfl hne
        · exact ha
      obtain ⟨middle,rest,rfl⟩ := List.append_of_mem hafter
      have hsplit : log = (before ++ first request :: middle) ++ later :: rest := by rw [hlog]; simp
      exact Nat.succ_lt_succ (h.idxOf_lt hsplit (by simp))

/-- A choice of first effects that the causes allow is the one of some listing. -/
lemma FirstEffects.exists_listing {first : CompactId → CompactId} (h : FirstEffects runId facts first)
    (haccounted : Accounted runId facts) : ∃ log, Listing runId facts log ∧
      ∀ request effect, StageOf runId facts .effect request effect →
        FirstIn runId facts .effect log request (first request) := by
  obtain ⟨log,hperm,hsorted⟩ :=
    h.acyclic.exists_perm ((facts.filter (isEngine runId)).map (engineId runId))
  have hmem : ∀ id, id ∈ log ↔ ∃ fact ∈ consumed runId facts, fact.id = id := by
    intro id
    rw [hperm.mem_iff,List.mem_map]
    constructor
    · rintro ⟨fact,hfact,rfl⟩
      obtain ⟨pending,hreading⟩ := isEngine_iff.mp (List.mem_filter.mp hfact).2
      exact ⟨pending,mem_consumed_iff.mpr ⟨fact,hfact,hreading⟩,(engineId_eq hreading).symm⟩
    · rintro ⟨pending,hpending,rfl⟩
      obtain ⟨fact,hfact,hreading⟩ := mem_consumed_iff.mp hpending
      exact ⟨fact,hfact,engineId_eq hreading⟩
  have hnodup : log.Nodup :=
    hperm.nodup_iff.mpr (haccounted.disjoint.sublist (engineIds_sublist runId facts))
  -- Whatever must come before an entry comes before it.
  have hbefore : ∀ before id after, log = before ++ id :: after → ∀ earlier ∈ log,
      Before runId facts first earlier id → earlier ∈ before := by
    intro before id after hlog earlier hearlier hrelated
    rw [hlog,List.pairwise_append,List.pairwise_cons] at hsorted
    rw [hlog,List.mem_append,List.mem_cons] at hearlier
    rcases hearlier with hb | rfl | ha
    · exact hb
    · exact absurd (Relation.TransGen.single hrelated) (h.acyclic _)
    · exact absurd hrelated (hsorted.2.1.1 earlier ha)
  refine ⟨log,⟨hnodup,hmem,?_⟩,?_⟩
  · intro before id after hlog fact hfact hid cause hcause
    have hsettles := haccounted.settled fact hfact cause hcause
    cases hsettles with
    | given hgiven => exact Or.inl hgiven
    | @item other hother =>
      exact Or.inr (hbefore before id after hlog _ ((hmem _).mpr ⟨other,hother,rfl⟩)
        (Or.inl ⟨fact,hfact,hid,hcause⟩))
  · intro request effect heffect
    have hchosen := h.effect request effect heffect
    obtain ⟨before,after,hlog⟩ := List.append_of_mem ((hmem _).mpr (hchosen.consumed (by simp)))
    refine ⟨before,after,hlog,hchosen,fun other hother hstage => ?_⟩
    have hne : first request ≠ other := by
      rintro rfl
      rw [hlog,List.nodup_append'] at hnodup
      exact List.disjoint_left.mp hnodup.2.2 hother (List.mem_cons_self ..)
    rw [hlog,List.pairwise_append] at hsorted
    exact hsorted.2.2 other hother (first request) (List.mem_cons_self ..)
      (Or.inr ⟨request,hstage,rfl,hne⟩)

lemma Listing.exists_first (h : Listing runId facts log) : ∃ first : CompactId → CompactId,
    ∀ request effect, StageOf runId facts .effect request effect →
      FirstIn runId facts .effect log request (first request) := by
  classical
  refine ⟨fun request => if he : ∃ effect, FirstIn runId facts .effect log request effect then he.choose
    else {},fun request effect heffect => ?_⟩
  have he := exists_firstIn ((h.mem effect).mpr (heffect.consumed (by simp))) heffect
  simpa only [dif_pos he] using he.choose_spec

/-- The verdict of a listing is that of its choice. -/
lemma Listing.complete_iff_connects (h : Listing runId facts log) {first : CompactId → CompactId}
    (hfirst : ∀ request effect, StageOf runId facts .effect request effect →
      FirstIn runId facts .effect log request (first request)) :
    (∃ request effect mix, CompleteIn runId facts log request effect mix) ↔
      Connects runId facts first := by
  constructor
  · rintro ⟨request,effect,mix,hcomplete⟩
    obtain rfl := hcomplete.played.unique (hfirst request effect hcomplete.played.stageOf)
    exact ⟨request,⟨mix,hcomplete.mixed.stageOf⟩,hcomplete.played.stageOf,hcomplete.decided⟩
  · rintro ⟨request,⟨mix,hmix⟩,hchosen,hdecided⟩
    obtain ⟨mix,hmixed⟩ := exists_firstIn ((h.mem mix).mpr (hmix.consumed (by simp))) hmix
    exact ⟨request,first request,mix,hfirst request _ hchosen,hmixed,hdecided⟩

lemma connects_of_orderFree {runId : String} {facts : List Fact} (hfree : OrderFree runId facts)
    (hrun : runId ≠ "" ∧ runId.utf8ByteSize ≤ maxIdentityBytes) (haccounted : Accounted runId facts)
    (first first' : CompactId → CompactId) (hfirst : FirstEffects runId facts first)
    (hfirst' : FirstEffects runId facts first') : Connects runId facts first ↔ Connects runId facts first' := by
  have hreached : ∀ first, FirstEffects runId facts first → ∃ facts' : List Fact,
      facts'.Perm facts ∧ (traceSummary .ascending runId facts' true).lossFree = true ∧
        ((traceSummary .ascending runId facts' true).causallyConnected = true ↔
          Connects runId facts first) := by
    intro first hfirst
    obtain ⟨log,hlisting,hlog⟩ := hfirst.exists_listing haccounted
    obtain ⟨facts',hperm,hrun⟩ := exists_arrival haccounted hrun hlisting
    obtain ⟨hloss,hholds,htraced⟩ := hrun .ascending
    refine ⟨facts',hperm,hloss,?_⟩
    rw [summary_connected hloss,connected_iff hholds htraced,hlisting.complete_iff_connects hlog]
  obtain ⟨facts₁,hperm,hloss,hconnected⟩ := hreached first hfirst
  obtain ⟨facts₂,hperm',hloss',hconnected'⟩ := hreached first' hfirst'
  rw [← hconnected,← hconnected',hfree _ _ facts₁ facts₂ hperm hperm' hloss hloss']

lemma orderFree_of_connects {runId : String} {facts : List Fact}
    (hchoices : runId ≠ "" ∧ runId.utf8ByteSize ≤ maxIdentityBytes → Accounted runId facts →
      ∀ first first', FirstEffects runId facts first → FirstEffects runId facts first' →
        (Connects runId facts first ↔ Connects runId facts first')) : OrderFree runId facts := by
  intro hash hash' facts₁ facts₂ hperm hperm' hloss hloss'
  obtain ⟨hrun,haccounted⟩ := accounted_of_lossFree hloss
  replace haccounted := haccounted.perm hperm.symm
  have hchosen : ∀ (hash : HashOrder) (facts' : List Fact), facts'.Perm facts →
      (traceSummary hash runId facts' true).lossFree = true → ∃ first,
        FirstEffects runId facts first ∧
          ((traceSummary hash runId facts' true).causallyConnected = true ↔
            Connects runId facts first) := by
    intro hash facts' hperm hloss
    obtain ⟨a,log,rfl,-,hholds,htraced,hlisting⟩ := lossFree_log hperm hloss
    obtain ⟨first,hfirst⟩ := hlisting.exists_first
    refine ⟨first,hlisting.firstEffects hholds.waits.distinct hfirst,?_⟩
    rw [summary_connected hloss,connected_iff hholds htraced,hlisting.complete_iff_connects hfirst]
  obtain ⟨first,hfirst,hconnected⟩ := hchosen hash facts₁ hperm hloss
  obtain ⟨first',hfirst',hconnected'⟩ := hchosen hash' facts₂ hperm' hloss'
  rw [Bool.eq_iff_iff,hconnected,hconnected']
  exact hchoices hrun haccounted first first' hfirst hfirst'

/-- The verdict of a run free of loss depends on nothing but its facts exactly when every choice of
first effects that the causes allow connects alike. -/
theorem orderFree_iff (runId : String) (facts : List Fact) :
    OrderFree runId facts ↔
      (runId ≠ "" ∧ runId.utf8ByteSize ≤ maxIdentityBytes → Accounted runId facts →
        ∀ first first', FirstEffects runId facts first → FirstEffects runId facts first' →
          (Connects runId facts first ↔ Connects runId facts first')) :=
  ⟨connects_of_orderFree,orderFree_of_connects⟩

/-- A request with a mix and with two effects, one under its decision and one under its mix. -/
def twoEffects : List Fact :=
  [playbackFact "" 1 "detector_input" [],playbackFact "" 2 "assignment_candidate" [1],
    playbackFact "" 3 "assignment_selection" [2],playbackFact "5" 4 "hd_playback_request" [3],
    playbackFact "5" 5 "hd_playback_decision" [4],playbackFact "5" 6 "hd_mix_participant" [4],
    playbackFact "5" 7 "hd_playback_effect" [5],playbackFact "5" 8 "hd_playback_effect" [6]]

/-- With two effects under one request, the one that arrives first decides the verdict. -/
theorem twoEffects_not_orderFree : ¬OrderFree "r" twoEffects := by
  intro h
  have hperm : (twoEffects.take 6 ++ (twoEffects.drop 6).reverse).Perm twoEffects := by
    conv_rhs => rw [← List.take_append_drop 6 twoEffects]
    exact (List.reverse_perm _).append_left _
  have hsame := h .ascending .ascending twoEffects _ (List.Perm.refl _) hperm
    (by decide +kernel) (by decide +kernel)
  exact absurd hsame (by decide +kernel)

end AytherRuntime.Trace
