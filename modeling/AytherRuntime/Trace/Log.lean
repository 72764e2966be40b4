import AytherRuntime.Trace.LossFree
import AytherRuntime.Trace.Publication

/-! The log that a whole run leaves, and the verdict as a fact about the log: some request has a mix
and a decision over its first effect. -/
namespace AytherRuntime.Trace
namespace Accumulator
variable {a : Accumulator} {items : Set PendingFact} {given : Set CompactId} {log : List CompactId}

section Run

lemma defer_frame (fact : PendingFact) : ∃ unresolved waiting valid,
    a.defer fact = { a with unresolved, waiting, valid } := by
  unfold defer
  split
  · exact ⟨_,_,_,rfl⟩
  · obtain ⟨waiting,hfold,-⟩ :=
      foldl_register fact.id fact.causes { a with unresolved := a.unresolved ++ [fact] }
    exact ⟨_,waiting,_,hfold⟩

/-- The facts that `process` publishes, in their order. -/
def publishedBy (a : Accumulator) : List PendingFact → List CompactId
  | [] => []
  | current :: ready =>
    if a.valid then
      if a.allCausesResolved current then
        let resolved := a.resolve current
        let published := resolved.1.publish current resolved.2 ready
        current.id :: publishedBy published.1 published.2
      else publishedBy (a.defer current) ready
    else []
termination_by ready => a.processMeasure ready
decreasing_by
  · exact processMeasure_publish a current ready
  · exact processMeasure_defer a current ready

/-- The facts that one more fact publishes: itself, or those that its exclusions let go, and what waits for them. -/
def publishedAt (hash : HashOrder) (a : Accumulator) (fact : Fact) : List CompactId :=
  match reading a.runId fact with
  | .engine pending => (a.take pending.id).publishedBy [pending]
  | .exclusion producer first last =>
    let marked := ({ a with factCount := a.factCount + 1 } : Accumulator).mark producer first last
    let ids := (Reading.exclusion producer first last).claims
    let released := (hash.keys (a.factCount + 1) ids).foldl release (marked.1,[])
    released.1.publishedBy released.2
  | _ => []

def publishedFrom (hash : HashOrder) : Accumulator → List Fact → List CompactId
  | _, [] => []
  | a, fact :: facts => a.publishedAt hash fact ++ publishedFrom hash (a.consume hash fact) facts

/-- The order in which the facts of a sequence are published. -/
def publicationOrder (hash : HashOrder) (runId : String) (facts : List Fact) : List CompactId :=
  publishedFrom hash (new runId) facts

lemma publishedFrom_append (hash : HashOrder) (a : Accumulator) (facts more : List Fact) :
    publishedFrom hash a (facts ++ more) =
      publishedFrom hash a facts ++ publishedFrom hash (a.consumeAll hash facts) more := by
  induction facts generalizing a with
  | nil => rfl
  | cons fact facts ih =>
    rw [List.cons_append,publishedFrom,publishedFrom,ih,List.append_assoc]
    rfl

/-- Processing extends the log by what it publishes. -/
lemma Traced.process {ready : List PendingFact} (h : Traced a items given log)
    (hwaits : Waits a ready [] items given) :
    Traced (a.process ready) items given (log ++ a.publishedBy ready) := by
  fun_induction Accumulator.process a ready generalizing log with
  | case1 a =>
    rw [publishedBy,List.append_nil]
    exact h
  | case2 a current ready hvalid hknown _ _ =>
    rename_i ih
    have hrest := ih (h.publish hwaits hknown) (hwaits.publish hknown)
    rw [List.append_assoc] at hrest
    rw [publishedBy,if_pos hvalid,if_pos hknown]
    exact hrest
  | case3 a current ready hvalid hwaiting ih =>
    rw [publishedBy,if_pos hvalid,if_neg hwaiting]
    refine ih ?_ (hwaits.defer (by simpa using hwaiting))
    obtain ⟨unresolved,waiting,valid,hframe⟩ := defer_frame (a := a) current
    rw [hframe]
    exact h.congr rfl rfl rfl rfl (fun _ _ _ => Iff.rfl) (Set.Subset.refl _) (Set.Subset.refl _)
      fun _ hfact _ => hfact
  | case4 a current ready hinvalid => exact absurd hwaits.valid hinvalid

lemma new_traced (runId : String) : Traced (new runId) ∅ ∅ [] := by
  have hlength : (new runId).chains.length = 1 := rfl
  refine ⟨⟨⟨rfl,?_⟩,?_,?_,?_,?_,List.nodup_nil,?_,?_,?_⟩,?_⟩
  · intro i chain hchain hpos
    have hin := (List.getElem?_eq_some_iff.mp hchain).1
    omega
  · intro token hpos hin; omega
  · intro token hpos hin; omega
  · intro id token hid hslot; cases hslot
  · intro id
    refine ⟨fun h => (nomatch h),?_⟩
    rintro ⟨-,token,hslot⟩
    cases hslot
  · intro before id after hlog; simp at hlog
  · intro r hr; rfl
  · intro r hr; rfl
  · refine ⟨fun h => (nomatch h),fun _ => ⟨rfl,?_⟩⟩
    intro r effect mix hdone
    cases hdone.played

lemma take_slot {id : CompactId} (hid : id.Valid) (hmissing : a.slot id = .missing)
    (other : CompactId) (hother : other.Valid) (token : ℕ) :
    (a.take id).slot other = .chain token ↔ a.slot other = .chain token := by
  have hin : id.sequence - 1 < ((a.grow id.producer id.sequence).tokens id.producer).length := by
    have := hid.2.2
    rw [grow_length,if_pos rfl]
    omega
  have hslot := slot_setSlot .unresolved hid hother hin
  rw [slot_grow] at hslot
  refine Iff.trans (Eq.congr_left hslot) ?_
  split_ifs with hsame
  · simp [hsame,hmissing]
  · rfl

/-- A fact that the accumulator takes extends the log by what it publishes. -/
lemma Traced.consume (hash : HashOrder) {runId : String} {facts : List Fact} {fact : Fact}
    (hholds : Holds a runId facts) (h : Traced a (consumed runId facts) (excluded runId facts) log)
    (hvalid : (a.consume hash fact).valid = true) :
    Traced (a.consume hash fact) (consumed runId (facts ++ [fact]))
      (excluded runId (facts ++ [fact])) (log ++ a.publishedAt hash fact) := by
  have hrun := hholds.run
  have hold := hholds.waits.valid
  have hread : reading a.runId fact = reading runId fact := by rw [hrun]
  rw [consumed_append,excluded_append,publishedAt,hread]
  cases hreading : reading runId fact with
  | rejected =>
    rw [consume_rejected hash hold (by rw [hrun,hreading])] at hvalid
    cases hvalid
  | note =>
    obtain ⟨timeline,hconsume⟩ := consume_note hash hold (by rw [hrun,hreading])
    rw [hconsume]
    dsimp only
    rw [List.append_nil]
    refine h.congr rfl rfl rfl rfl (fun _ _ _ => Iff.rfl) Set.subset_union_left Set.subset_union_left ?_
    rintro other (hother | hother) -
    · exact hother
    · cases hother
  | exclusion producer first last =>
    have hbounds := reading_exclusion_valid runId hreading
    obtain ⟨exclusion,hproducer,rfl,rfl,hconsume⟩ :=
      consume_exclusion hash hold (by rw [hrun,hreading])
    rw [hconsume,exclude_eq hash hproducer hbounds.2.2.2.2] at hvalid ⊢
    have hcounted : Waits { a with factCount := a.factCount + 1 } [] [] (consumed runId facts)
        (excluded runId facts) := hholds.waits.congr rfl rfl rfl rfl
    obtain ⟨hiff,hslots,-⟩ := mark_spec { a with factCount := a.factCount + 1 } producer
      exclusion.sequenceTo hbounds.2.2.1
    dsimp only at hvalid ⊢
    split_ifs at hvalid with hok
    rw [if_pos hok]
    have hmarked := hcounted.mark ⟨hbounds.1,hbounds.2.1⟩ hbounds.2.2.1 hbounds.2.2.2.1 hok
    have hreleased := hmarked.release (hash.keys (a.factCount + 1) _)
      fun cause => (hash.perm _ _).mem_iff
    have hmissing := hiff.mp hok
    have hset := hslots hok
    obtain ⟨unresolved,waiting,hframe⟩ := foldl_release_frame
      (hash.keys (a.factCount + 1) (Reading.exclusion producer exclusion.sequenceFrom
        exclusion.sequenceTo).claims)
      ((({ a with factCount := a.factCount + 1 } : Accumulator).mark producer exclusion.sequenceFrom
        exclusion.sequenceTo).1,[])
    have htraced : Traced (({ a with factCount := a.factCount + 1 } : Accumulator).mark producer
        exclusion.sequenceFrom exclusion.sequenceTo).1 (consumed runId facts)
        (excluded runId facts ∪ {id | id ∈ (Reading.exclusion producer exclusion.sequenceFrom
          exclusion.sequenceTo).claims}) log := by
      refine h.congr rfl rfl rfl rfl ?_ (Set.Subset.refl _) Set.subset_union_left
        fun _ hfact _ => hfact
      intro id hid token
      refine Iff.trans (Eq.congr_left (hset id hid)) ?_
      split_ifs with hclaim
      · have hslot : a.slot id = .missing := hmissing id hclaim
        simp [hslot]
      · rfl
    have hframed : Traced ((hash.keys (a.factCount + 1) (Reading.exclusion producer
        exclusion.sequenceFrom exclusion.sequenceTo).claims).foldl Accumulator.release
        ((({ a with factCount := a.factCount + 1 } : Accumulator).mark producer
          exclusion.sequenceFrom exclusion.sequenceTo).1,[])).1 (consumed runId facts)
        (excluded runId facts ∪ {id | id ∈ (Reading.exclusion producer exclusion.sequenceFrom
          exclusion.sequenceTo).claims}) log := by
      rw [hframe]
      exact htraced.congr rfl rfl rfl rfl (fun _ _ _ => Iff.rfl) (Set.Subset.refl _)
        (Set.Subset.refl _) fun _ hfact _ => hfact
    have hprocessed := hframed.process hreleased
    have hitems : consumed runId facts ∪ {pending | Reading.exclusion producer
        exclusion.sequenceFrom exclusion.sequenceTo = .engine pending} = consumed runId facts := by
      simp
    have hgiven : {id | ∃ first last, Reading.exclusion producer exclusion.sequenceFrom
          exclusion.sequenceTo = .exclusion id.producer first last ∧ first ≤ id.sequence ∧
          id.sequence ≤ last} =
        {id | id ∈ (Reading.exclusion producer exclusion.sequenceFrom exclusion.sequenceTo).claims} := by
      ext id
      simp [mem_interval,eq_comm]
    rw [hitems,hgiven]
    exact hprocessed
  | engine pending =>
    obtain ⟨hid,-,hcauses⟩ := reading_engine_valid runId hreading
    rcases consume_engine hash hold (by rw [hrun,hreading]) with
      ⟨-,hinvalid⟩ | ⟨hmissing,hconsume⟩
    · rw [hinvalid] at hvalid
      cases hvalid
    rw [hconsume]
    have hitems : consumed runId facts ∪ {other | Reading.engine pending = .engine other} =
        consumed runId facts ∪ {pending} := by
      ext other
      simp [eq_comm]
    have hgiven : excluded runId facts ∪ {id | ∃ first last, Reading.engine pending =
        .exclusion id.producer first last ∧ first ≤ id.sequence ∧ id.sequence ≤ last} =
        excluded runId facts := by simp
    rw [hitems,hgiven]
    have htaken : Traced (a.take pending.id) (consumed runId facts ∪ {pending})
        (excluded runId facts) log := by
      refine h.congr rfl rfl rfl rfl ?_ Set.subset_union_left (Set.Subset.refl _) ?_
      · exact take_slot hid hmissing
      · rintro other (hother | rfl) hlogged
        · exact hother
        · obtain ⟨-,token,htoken⟩ := (h.logged other.id).mp hlogged
          rw [hmissing] at htoken
          cases htoken
    exact htaken.process (hholds.waits.take hid hcauses hmissing)

/-- Facts that are all taken leave the accumulator with the log of their publication. -/
lemma consumeAll_traced (hash : HashOrder) (runId : String) (facts : List Fact)
    (hvalid : ((new runId).consumeAll hash facts).valid = true) :
    Holds ((new runId).consumeAll hash facts) runId facts ∧
      Traced ((new runId).consumeAll hash facts) (consumed runId facts) (excluded runId facts)
        (publicationOrder hash runId facts) := by
  have hrun : runId ≠ "" ∧ runId.utf8ByteSize ≤ maxIdentityBytes := by
    by_contra hrun
    rw [consumeAll_invalid hash (new_invalid hrun),new_invalid hrun] at hvalid
    cases hvalid
  induction facts using List.reverseRecOn with
  | nil =>
    refine ⟨new_holds hrun,?_⟩
    have hitems : consumed runId [] = ∅ := by simp [consumed]
    have hgiven : excluded runId [] = ∅ := by simp [excluded]
    rw [hitems,hgiven]
    exact new_traced runId
  | append_singleton facts fact ih =>
    have hlast : (new runId).consumeAll hash (facts ++ [fact]) =
        ((new runId).consumeAll hash facts).consume hash fact := by simp [consumeAll]
    rw [hlast] at hvalid ⊢
    have hbefore : ((new runId).consumeAll hash facts).valid = true := by
      by_contra hinvalid
      rw [Bool.not_eq_true] at hinvalid
      rw [consume_invalid hash hinvalid,hinvalid] at hvalid
      cases hvalid
    obtain ⟨hholds,htraced⟩ := ih hbefore
    rcases hholds.consume hash fact with ⟨hnext,-,-⟩ | ⟨hinvalid,-⟩
    · rw [publicationOrder,publishedFrom_append,publishedFrom,publishedFrom,List.append_nil]
      exact ⟨hnext,htraced.consume hash hholds hvalid⟩
    · rw [hinvalid] at hvalid
      cases hvalid

end Run

section Stages
variable (runId : String) (facts : List Fact)

/-- A fact of the run whose lineage is of a stage and belongs to a request. -/
def StageOf (s : TraceStage) (request id : CompactId) : Prop :=
  ∃ l, Lineage.Traces (consumed runId facts) (excluded runId facts) id l ∧ l.stage = s ∧
    l.requestId = some request

variable {runId facts}

lemma StageOf.consumed {s : TraceStage} (hs : s ≠ .none) {request id : CompactId}
    (h : StageOf runId facts s request id) : ∃ fact ∈ consumed runId facts, fact.id = id := by
  obtain ⟨l,htraces,hstage,-⟩ := h
  cases htraces with
  | given => exact absurd hstage.symm hs
  | item hitem => exact ⟨_,hitem,rfl⟩

/-- Once every fact is published, the log has them all. -/
lemma mem_log_of_consumed (hholds : Holds a runId facts)
    (h : Traced a (consumed runId facts) (excluded runId facts) log) (hnil : a.unresolved = [])
    {fact : PendingFact} (hfact : fact ∈ consumed runId facts) : fact.id ∈ log := by
  obtain ⟨token,htoken⟩ := (hholds.waits.taken fact hfact).resolve_left (by simp [hnil])
  exact (h.logged fact.id).mpr ⟨(hholds.waits.identities fact hfact).1,token,htoken⟩

lemma consumed_of_mem_log (hholds : Holds a runId facts)
    (h : Traced a (consumed runId facts) (excluded runId facts) log) {id : CompactId}
    (hid : id ∈ log) : ∃ fact ∈ consumed runId facts, fact.id = id := by
  obtain ⟨hvalid,token,htoken⟩ := (h.logged id).mp hid
  by_contra hnone
  push Not at hnone
  have hmissing := (hholds.waits.owned id hvalid).not
  have hexcluded := hholds.waits.excluded id hvalid
  rw [htoken] at hmissing hexcluded
  simp only [reduceCtorEq,not_false_eq_true,true_iff,false_iff] at hmissing hexcluded
  exact hmissing ⟨hexcluded,hnone⟩

/-- The tokens of a stage under a request token are the facts of that stage under its fact. -/
lemma isStage_iff (hholds : Holds a runId facts)
    (h : Traced a (consumed runId facts) (excluded runId facts) log) {s : TraceStage}
    (hs : s ≠ .none) {r : ℕ} (hr : r ≠ 0) (hin : r < a.chains.length) {id : CompactId}
    (hid : id ∈ log) :
    a.isStage s r (a.value id) = true ↔ StageOf runId facts s (a.chainAt r).id id := by
  obtain ⟨hvalid,token,htoken⟩ := (h.logged id).mp hid
  obtain ⟨hlt,htraces⟩ := h.tokens id token hvalid htoken
  rw [value_eq htoken]
  have hstage := lineage_stage h.ordered hlt
  have hspec := requestAncestor_spec h.ordered hlt
  constructor
  · intro hst
    obtain ⟨hchain,hrequest⟩ : (a.chainAt token).stage = s ∧ (a.chainAt token).requestToken = r := by
      simpa [isStage] using hst
    have hpos : token ≠ 0 := by
      rintro rfl
      rw [chainAt_eq h.ordered.root] at hchain
      exact hs hchain.symm
    rw [h.requests token hpos hlt] at hrequest
    rw [hrequest] at hspec
    obtain ⟨-,-,-,hsome⟩ := hspec.resolve_left fun hz => hr hz.1
    exact ⟨_,htraces,hstage.trans hchain,by simp [Lineage.requestId,hsome,link]⟩
  · rintro ⟨l,hl,hls,hrequest⟩
    obtain rfl := htraces.unique hholds.waits.distinct hl
    have hpos : token ≠ 0 := by
      rintro rfl
      rw [lineage_zero] at hls
      exact hs hls.symm
    rcases hspec with ⟨-,hnone⟩ | ⟨hne,hlt',-,hsome⟩
    · simp [Lineage.requestId,hnone] at hrequest
    · have hids : (a.chainAt (a.requestAncestor token)).id = (a.chainAt r).id := by
        simpa [Lineage.requestId,hsome,link] using hrequest
      have howner := (h.owners _ hne hlt').2
      rw [hids,(h.owners r hr hin).2] at howner
      have hsame : (a.chainAt token).requestToken = r := by
        rw [h.requests token hpos hlt]
        exact (Slot.chain.inj howner).symm
      simp [isStage,← hstage,hls,hsame]

/-- The first entry of a log that is of a stage and belongs to a request. -/
def FirstIn (runId : String) (facts : List Fact) (s : TraceStage) (log : List CompactId)
    (request id : CompactId) : Prop :=
  ∃ before after, log = before ++ id :: after ∧ StageOf runId facts s request id ∧
    ∀ other ∈ before, ¬StageOf runId facts s request other

/-- A lineage of the identity has a decision. -/
def Decided (runId : String) (facts : List Fact) (id : CompactId) : Prop :=
  ∃ l, Lineage.Traces (consumed runId facts) (excluded runId facts) id l ∧ l.hasDecision = true

/-- A request with a first mix, and with a decision over its first effect. -/
structure CompleteIn (runId : String) (facts : List Fact) (log : List CompactId)
    (request effect mix : CompactId) : Prop where
  played : FirstIn runId facts .effect log request effect
  mixed : FirstIn runId facts .mix log request mix
  decided : Decided runId facts effect

lemma FirstIn.stageOf {s : TraceStage} {request id : CompactId}
    (h : FirstIn runId facts s log request id) : StageOf runId facts s request id :=
  h.choose_spec.choose_spec.2.1

lemma FirstIn.mem {s : TraceStage} {request id : CompactId}
    (h : FirstIn runId facts s log request id) : id ∈ log := by
  obtain ⟨before,after,rfl,-⟩ := h
  simp

lemma FirstIn.append {s : TraceStage} {request id : CompactId}
    (h : FirstIn runId facts s log request id) (more : List CompactId) :
    FirstIn runId facts s (log ++ more) request id := by
  obtain ⟨before,after,rfl,hstage,hfirst⟩ := h
  exact ⟨before,after ++ more,by simp,hstage,hfirst⟩

lemma CompleteIn.append {request effect mix : CompactId}
    (h : CompleteIn runId facts log request effect mix) (more : List CompactId) :
    CompleteIn runId facts (log ++ more) request effect mix :=
  ⟨h.played.append more,h.mixed.append more,h.decided⟩

lemma FirstIn.unique {s : TraceStage} {request id other : CompactId}
    (h : FirstIn runId facts s log request id) (h' : FirstIn runId facts s log request other) :
    id = other := by
  obtain ⟨before,after,hlog,hstage,hfirst⟩ := h
  obtain ⟨before',after',hlog',hstage',hfirst'⟩ := h'
  rcases List.append_eq_append_iff.mp (hlog.symm.trans hlog') with
    ⟨rest,hbefore,hafter⟩ | ⟨rest,hbefore,hafter⟩
  · cases rest with
    | nil => simpa using (List.cons.inj hafter).1
    | cons x rest =>
      obtain rfl : id = x := (List.cons.inj hafter).1
      exact absurd hstage (hfirst' id (by rw [hbefore]; simp))
  · cases rest with
    | nil => simpa using (List.cons.inj hafter).1.symm
    | cons x rest =>
      obtain rfl : other = x := (List.cons.inj hafter).1
      exact absurd hstage' (hfirst other (by rw [hbefore]; simp))

lemma exists_firstIn {s : TraceStage} {request id : CompactId} (hmem : id ∈ log)
    (hstage : StageOf runId facts s request id) :
    ∃ first, FirstIn runId facts s log request first := by
  classical
  have hsome : (log.find? fun id => decide (StageOf runId facts s request id)).isSome :=
    List.find?_isSome.mpr ⟨id,hmem,by simpa using hstage⟩
  obtain ⟨first,hfirst⟩ := Option.isSome_iff_exists.mp hsome
  obtain ⟨hp,before,after,hlog,hnone⟩ := List.find?_eq_some_iff_append.mp hfirst
  exact ⟨first,before,after,hlog,by simpa using hp,by simpa using hnone⟩

/-- The first token of a stage under a request token is that of the first entry. -/
lemma find_iff (hholds : Holds a runId facts)
    (h : Traced a (consumed runId facts) (excluded runId facts) log) {s : TraceStage}
    (hs : s ≠ .none) {r : ℕ} (hr : r ≠ 0) (hin : r < a.chains.length) {part : List CompactId}
    (hpart : part ⊆ log) {token : ℕ} :
    (part.map a.value).find? (a.isStage s r) = some token ↔
      ∃ id, a.value id = token ∧ FirstIn runId facts s part (a.chainAt r).id id := by
  rw [List.find?_map,Option.map_eq_some_iff]
  refine exists_congr fun id => ?_
  rw [and_comm,List.find?_eq_some_iff_append]
  refine and_congr_right fun _ => ?_
  constructor
  · rintro ⟨hstage,before,after,hsplit,hnone⟩
    have hid : id ∈ log := hpart (by rw [hsplit]; simp)
    refine ⟨before,after,hsplit,(isStage_iff hholds h hs hr hin hid).mp hstage,?_⟩
    intro other hother hstageOf
    have hmem : other ∈ log := hpart (by rw [hsplit]; simp [hother])
    have hfalse := hnone other hother
    rw [Function.comp_apply,(isStage_iff hholds h hs hr hin hmem).mpr hstageOf] at hfalse
    cases hfalse
  · rintro ⟨before,after,hsplit,hstageOf,hnone⟩
    have hid : id ∈ log := hpart (by rw [hsplit]; simp)
    refine ⟨(isStage_iff hholds h hs hr hin hid).mpr hstageOf,before,after,hsplit,?_⟩
    intro other hother
    have hmem : other ∈ log := hpart (by rw [hsplit]; simp [hother])
    simpa using (isStage_iff hholds h hs hr hin hmem).not.mpr (hnone other hother)

/-- A request that some entry belongs to has a token. -/
lemma exists_request (hholds : Holds a runId facts)
    (h : Traced a (consumed runId facts) (excluded runId facts) log) {s : TraceStage}
    {request id : CompactId} (hid : id ∈ log) (hstage : StageOf runId facts s request id) :
    ∃ r, r ≠ 0 ∧ r < a.chains.length ∧ (a.chainAt r).id = request := by
  obtain ⟨hvalid,token,htoken⟩ := (h.logged id).mp hid
  obtain ⟨hlt,htraces⟩ := h.tokens id token hvalid htoken
  obtain ⟨l,hl,-,hrequest⟩ := hstage
  obtain rfl := htraces.unique hholds.waits.distinct hl
  rcases requestAncestor_spec h.ordered hlt with ⟨-,hnone⟩ | ⟨hne,hin,-,hsome⟩
  · simp [Lineage.requestId,hnone] at hrequest
  · exact ⟨_,hne,hin,by simpa [Lineage.requestId,hsome,link] using hrequest⟩

lemma lineage_traces
    (h : Traced a (consumed runId facts) (excluded runId facts) log) {id : CompactId} (hid : id ∈ log) :
    Lineage.Traces (consumed runId facts) (excluded runId facts) id (a.lineage (a.value id)) := by
  obtain ⟨hvalid,token,htoken⟩ := (h.logged id).mp hid
  rw [value_eq htoken]
  exact (h.tokens id token hvalid htoken).2

/-- The requests that are complete in a part of the log, by their tokens and by their entries. -/
lemma complete_iff (hholds : Holds a runId facts)
    (h : Traced a (consumed runId facts) (excluded runId facts) log) {part : List CompactId}
    (hpart : part <+: log) {r effect mix : ℕ} : a.Complete part r effect mix ↔
      ∃ request e m, (r ≠ 0 ∧ r < a.chains.length ∧ (a.chainAt r).id = request) ∧
        (a.value e = effect ∧ a.value m = mix) ∧ CompleteIn runId facts part request e m := by
  constructor
  · intro hcomplete
    obtain ⟨rest,hlog⟩ := hpart
    have hall := (hcomplete.append rest).played
    rw [hlog] at hall
    obtain ⟨hpos,hlt,-,hrequest,-⟩ := h.first_spec (by simp) hall
    have hin : r < a.chains.length := by
      rw [h.requests effect hpos hlt] at hrequest
      rcases requestAncestor_spec h.ordered hlt with ⟨hz,-⟩ | ⟨-,hlt',-⟩
      · exact absurd (hrequest.symm.trans hz) hcomplete.request
      · rwa [hrequest] at hlt'
    have hsub : part ⊆ log := hlog ▸ List.subset_append_left ..
    obtain ⟨e,he,hplayed⟩ :=
      (find_iff hholds h (by simp) hcomplete.request hin hsub).mp hcomplete.played
    obtain ⟨m,hm,hmixed⟩ :=
      (find_iff hholds h (by simp) hcomplete.request hin hsub).mp hcomplete.mixed
    exact ⟨_,e,m,⟨hcomplete.request,hin,rfl⟩,⟨he,hm⟩,hplayed,hmixed,_,
      lineage_traces h (hsub hplayed.mem),by rw [he]; exact hcomplete.decided⟩
  · rintro ⟨request,e,m,⟨hr,hin,rfl⟩,⟨rfl,rfl⟩,hcomplete⟩
    have hsub := hpart.subset
    obtain ⟨l,hl,hdecision⟩ := hcomplete.decided
    obtain rfl := (lineage_traces h (hsub hcomplete.played.mem)).unique hholds.waits.distinct hl
    exact ⟨hr,(find_iff hholds h (by simp) hr hin hsub).mpr ⟨e,rfl,hcomplete.played⟩,
      (find_iff hholds h (by simp) hr hin hsub).mpr ⟨m,rfl,hcomplete.mixed⟩,hdecision⟩

/-- The same for any request of the log, whose token is not given. -/
lemma exists_complete_iff (hholds : Holds a runId facts)
    (h : Traced a (consumed runId facts) (excluded runId facts) log) {part : List CompactId}
    (hpart : part <+: log) : (∃ r effect mix, a.Complete part r effect mix) ↔
      ∃ request effect mix, CompleteIn runId facts part request effect mix := by
  constructor
  · rintro ⟨r,effect,mix,hcomplete⟩
    obtain ⟨request,e,m,-,-,hin⟩ := (complete_iff hholds h hpart).mp hcomplete
    exact ⟨request,e,m,hin⟩
  · rintro ⟨request,e,m,hin⟩
    obtain ⟨r,hr⟩ := exists_request hholds h (hpart.subset hin.played.mem) hin.played.stageOf
    exact ⟨r,_,_,(complete_iff hholds h hpart).mpr ⟨request,e,m,hr,⟨rfl,rfl⟩,hin⟩⟩

/-- The verdict of a log: some request is complete in it. -/
lemma connected_iff (hholds : Holds a runId facts)
    (h : Traced a (consumed runId facts) (excluded runId facts) log) :
    a.complete.causallyConnected = true ↔
      ∃ request effect mix, CompleteIn runId facts log request effect mix := by
  rw [← exists_complete_iff hholds h (List.prefix_refl _)]
  constructor
  · intro hconnected
    obtain ⟨r,effect,mix,hfirst,-⟩ := h.judged.connected hconnected
    exact ⟨r,effect,mix,hfirst.complete⟩
  · rintro ⟨r,effect,mix,hcomplete⟩
    by_contra hnot
    exact (h.judged.pending (by simpa using hnot)).2 r effect mix hcomplete

end Stages
end Accumulator
end AytherRuntime.Trace
