import AytherRuntime.Trace.Ancestry
import AytherRuntime.Trace.Reopened

/-! When the summary of a connected run reports one genuine audio chain, that the reopened evidence
accepts. -/
namespace AytherRuntime.Trace
open Relation Accumulator Lineage

section Chain
variable (runId : String) (facts : List Fact)

/-- An Engine fact names another one among its causes. -/
def NamesCause (earlier later : CompactId) : Prop :=
  ∃ fact ∈ facts, ∃ pending, reading runId fact = .engine pending ∧ pending.id = later ∧
    ∃ id, Cause.fact id ∈ fact.causeIds ∧ producerNumber id.producerId = some earlier.producer ∧
      id.producerSequence = earlier.sequence

/-- What the seven identities of a summary are called. -/
def ReplayTraceSummary.slots (trace : ReplayTraceSummary) : List (TraceKind × CompactId) :=
  [(.ingress,trace.ingress),(.candidate,trace.candidate),(.selection,trace.selection),
    (.request,trace.playbackRequest),(.decision,trace.playbackDecision),
    (.effect,trace.playbackEffect),(.mix,trace.mixSpan)]

/-- The summary reports one chain of the facts: each of its kind, each relation through the causes,
and the playback of one occurrence. -/
structure Genuine (trace : ReplayTraceSummary) : Prop where
  kinds : ∀ slot ∈ trace.slots, ∃ fact ∈ consumed runId facts, fact.id = slot.2 ∧ fact.kind = slot.1
  relations : ∀ relation ∈ trace.relations, TransGen (NamesCause runId facts) relation.1 relation.2
  occurrence : trace.occurrence ≠ 0
  played : ∀ id ∈ [trace.playbackRequest,trace.playbackDecision,trace.playbackEffect,trace.mixSpan],
    ∃ fact ∈ consumed runId facts, fact.id = id ∧ fact.occurrence = trace.occurrence

/-- The requests that the first decision, the first effect and the end of a lineage answer to have
the occurrence of its first request, and its first effect comes from its first decision. -/
structure Straight (l : Lineage) : Prop where
  requests : ∀ part ∈ [linksOver .decision l,linksOver .effect l,l],
    part.request.map Link.occurrence = (rootmost .request l).map Link.occurrence
  descends : ∀ decision effect, rootmost .decision l = some decision →
    rootmost .effect l = some effect → TransGen (NamesCause runId facts) decision.id effect.id

/-- The first request of a log to be complete, with its effect and its mix. -/
def FirstCompleteIn (log : List CompactId) (request effect mix : CompactId) : Prop :=
  ∃ before last after, log = before ++ last :: after ∧
    CompleteIn runId facts (before ++ [last]) request effect mix ∧
    ∀ request effect mix, ¬CompleteIn runId facts before request effect mix

/-- The lineage and the mix that some order of arrival reports. -/
def Reportable (l : Lineage) (mix : CompactId) : Prop :=
  ∃ log request effect, Listing runId facts log ∧
    FirstCompleteIn runId facts log request effect mix ∧
    Traces (consumed runId facts) (excluded runId facts) effect l

/-- The lineage and the mix of the first request that a sequence of facts completes. -/
def FirstReported (hash : HashOrder) (l : Lineage) (mix : CompactId) : Prop :=
  ∃ request effect, FirstCompleteIn runId facts (publicationOrder hash runId facts) request effect mix ∧
    Traces (consumed runId facts) (excluded runId facts) effect l

def playedStages : List TraceStage := [.ingress,.candidate,.selection,.request,.decision,.effect]

/-- The fact of the first request spells its occurrence, and causes that are written as the facts
they name lead from each stage of a lineage to the next and from its first request to the mix. -/
structure Spells (l : Lineage) (mix : CompactId) : Prop where
  occurrence : ∀ request, rootmost .request l = some request → ∃ fact ∈ facts,
    fact.id = domainId runId request.id ∧ fact.occurrenceId.value = some (toString request.occurrence)
  stages : ∀ pair ∈ playedStages.zip playedStages.tail, ∀ earlier later,
    rootmost pair.1 l = some earlier → rootmost pair.2 l = some later →
      ReflTransGen (TextCause facts) (domainId runId earlier.id) (domainId runId later.id)
  mixed : ∀ request, rootmost .request l = some request →
    ReflTransGen (TextCause facts) (domainId runId request.id) (domainId runId mix)

/-- A fact of the Engine writes identities as `domain_id` does and the occurrence of a request as its number. -/
structure Canonical (fact : Fact) (pending : PendingFact) : Prop where
  id : fact.id = domainId runId pending.id
  causes : ∀ id, Cause.fact id ∈ fact.causeIds → ∃ cause : CompactId, id = domainId runId cause
  occurrence : pending.kind = .request → fact.occurrenceId.value = some (toString pending.occurrence)

end Chain

variable {runId : String} {facts : List Fact} {log : List CompactId}

lemma compactCauses_mem {kind : TraceKind} {causes : List Cause} {kept : List CompactId}
    (h : Accumulator.compactCauses runId kind causes = some kept) {cause : CompactId}
    (hcause : cause ∈ kept) : ∃ id, Cause.fact id ∈ causes ∧
      producerNumber id.producerId = some cause.producer ∧ id.producerSequence = cause.sequence := by
  induction causes generalizing kept with
  | nil => cases h; cases hcause
  | cons first causes ih =>
    have hlater : ∀ {kept : List CompactId}, Accumulator.compactCauses runId kind causes = some kept →
        cause ∈ kept → ∃ id, Cause.fact id ∈ first :: causes ∧
          producerNumber id.producerId = some cause.producer ∧
            id.producerSequence = cause.sequence := by
      intro kept hkept hmem
      obtain ⟨id,hid,hrest⟩ := ih hkept hmem
      exact ⟨id,List.mem_cons_of_mem _ hid,hrest⟩
    cases first with
    | preexistingContext => exact hlater h hcause
    | fact id =>
      unfold Accumulator.compactCauses at h
      split at h
      · cases h
      rename_i producer hproducer
      split at h
      · cases h
      split at h
      · exact hlater h hcause
      · obtain ⟨rest,hrest,rfl⟩ := Option.map_eq_some_iff.mp h
        rcases List.mem_cons.mp hcause with rfl | hmem
        · exact ⟨id,List.mem_cons_self ..,hproducer,rfl⟩
        · exact hlater hrest hmem

lemma CauseOf.names {earlier later : CompactId} (h : CauseOf (consumed runId facts) earlier later) :
    NamesCause runId facts earlier later := by
  obtain ⟨pending,⟨fact,hfact,hreading⟩,hid,hcause⟩ := h
  exact ⟨fact,hfact,pending,hreading,hid,compactCauses_mem (reading_causes hreading) hcause⟩

lemma descends_names {earlier later : CompactId}
    (h : TransGen (CauseOf (consumed runId facts)) earlier later) :
    TransGen (NamesCause runId facts) earlier later :=
  TransGen.mono (fun _ _ => CauseOf.names) _ _ h

lemma exists_fact_of_descends {items : Set PendingFact} {earlier later : CompactId}
    (h : TransGen (CauseOf items) earlier later) : ∃ fact ∈ items, fact.id = later := by
  cases h with
  | single hcause | tail _ hcause =>
    obtain ⟨fact,hfact,hid,-⟩ := hcause
    exact ⟨fact,hfact,hid⟩

section Listed
variable (hlisting : Listing runId facts log)
  (hdistinct : Settlement.Distinct dependencies (consumed runId facts) (excluded runId facts))
include hlisting hdistinct

/-- Ancestors are published earlier. -/
lemma Listing.mem_before {earlier id : CompactId} {before after : List CompactId}
    (hpath : TransGen (CauseOf (consumed runId facts)) earlier id) (hearlier : earlier ∈ log)
    (hlog : log = before ++ id :: after) : earlier ∈ before := by
  have hstep : ∀ x y, CauseOf (consumed runId facts) x y → x ∈ log → log.idxOf x < log.idxOf y := by
    rintro x y ⟨fact,hfact,rfl,hcause⟩ hx
    obtain ⟨before,after,hsplit⟩ := List.append_of_mem ((hlisting.mem fact.id).mpr ⟨fact,hfact,rfl⟩)
    refine hlisting.idxOf_lt hsplit
      ((hlisting.causal _ _ _ hsplit fact hfact rfl x hcause).resolve_left fun hexcluded => ?_)
    obtain ⟨other,hother,rfl⟩ := (hlisting.mem x).mp hx
    exact hdistinct.given other hother hexcluded
  have hlt : log.idxOf earlier < log.idxOf id := by
    clear hlog
    induction hpath with
    | single hcause => exact hstep _ _ hcause hearlier
    | tail hpath hcause ih =>
      exact ih.trans (hstep _ _ hcause ((hlisting.mem _).mpr (exists_fact_of_descends hpath)))
  rw [hlog,List.mem_append,List.mem_cons] at hearlier
  rcases hearlier with hbefore | rfl | hafter
  · exact hbefore
  · exact absurd hlt (lt_irrefl _)
  · obtain ⟨middle,rest,rfl⟩ := List.append_of_mem hafter
    have hsplit : log = (before ++ id :: middle) ++ earlier :: rest := by rw [hlog]; simp
    exact absurd (hlisting.idxOf_lt hsplit (List.mem_append_right _ (List.mem_cons_self ..)))
      (Nat.lt_asymm hlt)

/-- The first entry of a stage is the fact that added its link. -/
lemma Accumulator.FirstIn.exists_head {s : TraceStage} (hs : s ≠ .none) {request id : CompactId}
    (h : FirstIn runId facts s log request id) : ∃ x rest,
      Traces (consumed runId facts) (excluded runId facts) id (x :: rest) ∧ x.id = id ∧ x.stage = s ∧
        Lineage.requestId (x :: rest) = some request := by
  obtain ⟨before,after,hlog,⟨l,htraces,hstage,hrequest⟩,hfirst⟩ := h
  cases l with
  | nil => exact absurd hstage.symm hs
  | cons x rest =>
    have hlink := htraces.linkOf [] x rest rfl
    refine ⟨x,rest,htraces,?_,hstage,hrequest⟩
    rcases reflTransGen_iff_eq_or_transGen.mp hlink.descends with hsame | hpath
    · exact hsame.symm
    · obtain ⟨fact,hfact,-,hid,-⟩ := hlink.fact
      have hmem : x.id ∈ log := (hlisting.mem x.id).mpr ⟨fact,hfact,hid⟩
      exact absurd ⟨_,hlink.traces,hstage,hrequest⟩
        (hfirst x.id (hlisting.mem_before hdistinct hpath hmem hlog))

end Listed

lemma Accumulator.FirstIn.of_append {s : TraceStage} {request id last : CompactId}
    (h : FirstIn runId facts s (log ++ [last]) request id) :
    FirstIn runId facts s log request id ∨ StageOf runId facts s request last := by
  obtain ⟨before,after,hlog,hstage,hfirst⟩ := h
  rcases List.eq_nil_or_concat after with rfl | ⟨rest,other,rfl⟩
  · obtain ⟨-,hlast⟩ := List.append_inj' hlog rfl
    obtain rfl : last = id := by simpa using hlast
    exact Or.inr hstage
  · have hstart : log = before ++ id :: rest := by
      have happend : log ++ [last] = (before ++ id :: rest) ++ [other] := by simpa using hlog
      exact (List.append_inj' happend rfl).1
    exact Or.inl ⟨before,rest,hstart,hstage,hfirst⟩

/-- A request that the last entry of a log completes has that entry. -/
lemma Accumulator.CompleteIn.stageOf_last {request effect mix last : CompactId}
    (h : CompleteIn runId facts (log ++ [last]) request effect mix)
    (hnone : ∀ request effect mix, ¬CompleteIn runId facts log request effect mix) :
    ∃ s, StageOf runId facts s request last := by
  rcases h.played.of_append with hplayed | hstage
  · rcases h.mixed.of_append with hmixed | hstage
    · exact absurd ⟨hplayed,hmixed,h.decided⟩ (hnone request effect mix)
    · exact ⟨_,hstage⟩
  · exact ⟨_,hstage⟩

/-- A log has one request that is the first to be complete. -/
lemma FirstCompleteIn.unique
    (hdistinct : Settlement.Distinct dependencies (consumed runId facts) (excluded runId facts))
    {request effect mix request' effect' mix' : CompactId}
    (h : FirstCompleteIn runId facts log request effect mix)
    (h' : FirstCompleteIn runId facts log request' effect' mix') :
    request = request' ∧ effect = effect' ∧ mix = mix' := by
  obtain ⟨before,last,after,hlog,hcomplete,hnone⟩ := h
  obtain ⟨before',last',after',hlog',hcomplete',hnone'⟩ := h'
  -- A longer part would have the shorter one in it, where a request is complete already.
  have hlonger : ∀ {before before' : List CompactId} {last last' : CompactId} {after after' : List CompactId},
      before ++ last :: after = before' ++ last' :: after' →
      (∃ request effect mix, CompleteIn runId facts (before ++ [last]) request effect mix) →
      (∀ request effect mix, ¬CompleteIn runId facts before' request effect mix) →
      before'.length ≤ before.length := by
    rintro before before' last last' after after' hsame ⟨request,effect,mix,hcomplete⟩ hnone
    by_contra hlt
    rw [← List.singleton_append,← List.append_assoc] at hsame
    rcases List.append_eq_append_iff.mp hsame with ⟨rest,rfl,-⟩ | ⟨rest,hlong,-⟩
    · exact hnone _ _ _ (hcomplete.append rest)
    · cases rest with
      | nil =>
        rw [List.append_nil] at hlong
        exact hnone _ _ _ (hlong ▸ hcomplete)
      | cons x rest =>
        have hlength := congrArg List.length hlong
        simp only [List.length_append,List.length_cons,List.length_nil] at hlength
        omega
  have hlength : before.length = before'.length :=
    le_antisymm (hlonger (hlog'.symm.trans hlog) ⟨_,_,_,hcomplete'⟩ hnone)
      (hlonger (hlog.symm.trans hlog') ⟨_,_,_,hcomplete⟩ hnone')
  obtain ⟨rfl,hrest⟩ := List.append_inj (hlog.symm.trans hlog') hlength
  obtain ⟨rfl,-⟩ := List.cons.inj hrest
  obtain ⟨s,l,hl,-,hrequest⟩ := hcomplete.stageOf_last hnone
  obtain ⟨s',l',hl',-,hrequest'⟩ := hcomplete'.stageOf_last hnone'
  obtain rfl := hl.unique hdistinct hl'
  obtain rfl : request = request' := Option.some.inj (hrequest.symm.trans hrequest')
  exact ⟨rfl,hcomplete.played.unique hcomplete'.played,hcomplete.mixed.unique hcomplete'.mixed⟩

/-- What a connected run reports: the lineage and the mix of the first complete request. -/
lemma exists_reported {a : Accumulator} (hholds : Holds a runId facts)
    (h : Traced a (consumed runId facts) (excluded runId facts) log)
    (hlisting : Listing runId facts log) (hconnected : a.complete.causallyConnected = true) :
    ∃ request effect mix l, FirstCompleteIn runId facts log request effect mix ∧
      Traces (consumed runId facts) (excluded runId facts) effect l ∧ Reports a.complete l mix := by
  obtain ⟨r,e,m,⟨before,last,after,hlog,hcomplete,hnone⟩,hreports⟩ := h.judged.connected hconnected
  have hpart : before ++ [last] <+: log := ⟨after,by rw [hlog]; simp⟩
  obtain ⟨request,effect,mix,-,⟨rfl,rfl⟩,hin⟩ := (complete_iff hholds h hpart).mp hcomplete
  have hbefore : before <+: log := ⟨last :: after,hlog.symm⟩
  have hnoneIn : ∀ request effect mix, ¬CompleteIn runId facts before request effect mix := by
    intro request effect mix hin
    obtain ⟨r,e,m,hdone⟩ := (exists_complete_iff hholds h hbefore).mpr ⟨request,effect,mix,hin⟩
    exact hnone r e m hdone
  have hmixed : FirstIn runId facts .mix log request mix := by
    rw [hlog]
    simpa using hin.mixed.append after
  obtain ⟨x,rest,htraces,hid,-⟩ := hmixed.exists_head hlisting hholds.waits.distinct (by simp)
  have hmix : (a.chainAt (a.value mix)).id = mix := by
    have hlineage := (lineage_traces h hmixed.mem).unique hholds.waits.distinct htraces
    obtain ⟨hvalid,token,htoken⟩ := (h.logged mix).mp hmixed.mem
    have hin := (h.tokens mix token hvalid htoken).1
    rw [value_eq htoken] at hlineage ⊢
    by_cases hpos : token = 0
    · rw [hpos,lineage_zero] at hlineage
      cases hlineage
    · rw [lineage_succ h.ordered hpos hin] at hlineage
      rw [← hid,← (List.cons.inj hlineage).1]
      rfl
  have hpartSub : effect ∈ log := hpart.subset hin.played.mem
  exact ⟨request,effect,mix,_,⟨before,last,after,hlog,hin,hnoneIn⟩,lineage_traces h hpartSub,
    hmix ▸ hreports⟩

section Reported
variable {items : Set PendingFact} {given : Set CompactId} {id request mix : CompactId} {l : Lineage}

/-- The kind of the facts that add a link of the stage. -/
def TraceStage.kind : TraceStage → TraceKind
  | .none => .other
  | .ingress => .ingress
  | .candidate => .candidate
  | .selection => .selection
  | .request => .request
  | .decision => .decision
  | .effect => .effect
  | .mix => .mix

lemma own_stage_kind {fact : PendingFact} (h : (own fact).stage ≠ .none) :
    fact.kind = (own fact).stage.kind := by
  unfold own at h ⊢
  cases hkind : fact.kind <;> simp_all [TraceStage.kind]

/-- The first link of a stage is a fact of its kind, that the links above it admit. -/
lemma Lineage.Traces.exists_fact (h : Traces items given id l) {s : TraceStage} (hs : s ≠ .none)
    {x : Link} (hx : rootmost s l = some x) : ∃ fact ∈ items, fact.id = x.id ∧ fact.kind = s.kind ∧
      own fact = x ∧ (linksOver s l).Admits fact := by
  obtain ⟨hstage,-,before,hsplit⟩ := rootmost_eq_some hx
  obtain ⟨fact,hitem,hown,hid,hadmits⟩ := (h.linkOf before x _ hsplit).fact
  have hkind : fact.kind = s.kind := by
    rw [own_stage_kind (by rw [hown,hstage]; exact hs),hown,hstage]
  refine ⟨fact,hitem,hid,hkind,hown,?_⟩
  split_ifs at hadmits with hingress
  · simp [Admits,hingress]
  · exact hadmits

/-- A mix answers to the nearest request of the lineage, and comes from its first one. -/
lemma Lineage.Traces.exists_mix (hdistinct : Settlement.Distinct dependencies items given)
    (h : Traces items given id l) (hrequest : l.requestId = some request) {x : Link} {rest : Lineage}
    (hmix : Traces items given mix (x :: rest)) (hid : x.id = mix) (hstage : x.stage = .mix)
    (hmixRequest : Lineage.requestId (x :: rest) = some request) :
    ∃ fact ∈ items, fact.id = mix ∧ fact.kind = .mix ∧
      l.request.map Link.occurrence = some fact.occurrence ∧
      ∀ r, rootmost .request l = some r → TransGen (CauseOf items) r.id mix := by
  have hlink := hmix.linkOf [] x rest rfl
  obtain ⟨fact,hitem,hown,hfactId,hadmits⟩ := hlink.fact
  have hkind : fact.kind = .mix := by
    rw [own_stage_kind (by rw [hown,hstage]; simp),hown,hstage]
    rfl
  obtain ⟨-,-,q,hq,hoccurrence⟩ : TraceStage.request.rank ≤ rest.stage.rank ∧
      rest.Carries fact.occurrence := by simpa [Admits,hkind] using hadmits
  have hskip : Lineage.request (x :: rest) = some q := by
    rw [Lineage.request,List.find?_cons_of_neg (by simp [hstage])]
    exact hq
  have hqId : q.id = request := by simpa [Lineage.requestId,hskip] using hmixRequest
  obtain ⟨q',hq',hqId'⟩ := Option.map_eq_some_iff.mp hrequest
  obtain ⟨-,before,above,hsplit,-⟩ := request_eq_some hq
  obtain ⟨hqStage,before',above',hsplit',-⟩ := request_eq_some hq'
  -- The request has one lineage, seen from the effect and from the mix.
  have htraces := (hmix.linkOf (x :: before) q above (by rw [hsplit]; rfl)).traces
  have htraces' := (h.linkOf before' q' above' hsplit').traces
  rw [hqId] at htraces
  rw [hqId'] at htraces'
  obtain ⟨rfl,rfl⟩ := List.cons.inj (htraces.unique hdistinct htraces')
  refine ⟨fact,hitem,hfactId.trans hid,hkind,by rw [hq',Option.map_some,hoccurrence],?_⟩
  intro r hr
  rw [hsplit',rootmost_append_of_mem ⟨q,List.mem_cons_self ..,hqStage⟩] at hr
  obtain ⟨-,-,first,hfirst⟩ := rootmost_eq_some hr
  have hmem : r ∈ q :: above := by rw [hfirst]; simp
  rw [← hid]
  exact hlink.above r (by rw [hsplit]; exact List.mem_append_right _ hmem)

/-- A stage that is reported is a fact of its kind. -/
lemma Lineage.Traces.exists_reported (h : Traces items given id l) {s : TraceStage} (hs : s ≠ .none)
    {reported : CompactId} (hreported : (rootmost s l).map Link.id = some reported) :
    ∃ fact ∈ items, fact.id = reported ∧ fact.kind = s.kind := by
  obtain ⟨link,hlink,rfl⟩ := Option.map_eq_some_iff.mp hreported
  obtain ⟨fact,hitem,hid,hkind,-⟩ := h.exists_fact hs hlink
  exact ⟨fact,hitem,hid,hkind⟩

/-- The first request is a fact with its occurrence, which is not zero. -/
lemma Lineage.Traces.exists_request (h : Traces items given id l) {first : Link}
    (hfirst : rootmost .request l = some first) :
    ∃ fact ∈ items, fact.id = first.id ∧ fact.occurrence = first.occurrence ∧ first.occurrence ≠ 0 := by
  obtain ⟨fact,hitem,hid,hkind,hown,hadmits⟩ := h.exists_fact (by simp) hfirst
  have hlink : first.occurrence = fact.occurrence := by
    rw [← hown]
    simp [own,hkind,TraceStage.kind]
  have hnonzero : fact.occurrence ≠ 0 := by
    simp only [Admits,hkind,TraceStage.kind] at hadmits
    exact hadmits.2
  exact ⟨fact,hitem,hid,hlink.symm,hlink ▸ hnonzero⟩

/-- The first decision and the first effect are facts with the occurrence of the request that they answer to. -/
lemma Lineage.Traces.exists_carried (h : Traces items given id l) {s : TraceStage}
    (hs : s = .decision ∨ s = .effect) {link : Link} (hlink : rootmost s l = some link) :
    ∃ fact ∈ items, fact.id = link.id ∧
      (linksOver s l).request.map Link.occurrence = some fact.occurrence := by
  obtain ⟨fact,hitem,hid,hkind,-,hadmits⟩ := h.exists_fact (by rcases hs with rfl | rfl <;> simp) hlink
  have hcarried : (linksOver s l).Carries fact.occurrence := by
    rcases hs with rfl | rfl <;> simp only [Admits,hkind,TraceStage.kind] at hadmits
    · exact hadmits.2
    · exact hadmits.2
  obtain ⟨-,request,hrequest,hoccurrence⟩ := hcarried
  exact ⟨fact,hitem,hid,by rw [hrequest,Option.map_some,hoccurrence]⟩

/-- A stage up to the request that is reported is a cause of the next one, by the names of the facts. -/
lemma Lineage.Traces.reported_names (h : Traces (consumed runId facts) (excluded runId facts) id l) {s t : TraceStage}
    (hs : s ≠ .none) (hrequest : s.rank ≤ TraceStage.request.rank) (hfloor : s.rank ≤ floor t)
    {earlier later : CompactId} (hearlier : (rootmost s l).map Link.id = some earlier)
    (hlater : (rootmost t l).map Link.id = some later) : TransGen (NamesCause runId facts) earlier later := by
  obtain ⟨x,hx,rfl⟩ := Option.map_eq_some_iff.mp hearlier
  obtain ⟨y,hy,rfl⟩ := Option.map_eq_some_iff.mp hlater
  exact descends_names (h.rootmost_descends hs hrequest hfloor hx hy)

variable {trace : ReplayTraceSummary}

/-- A reported chain is genuine exactly when its lineage is straight: its facts have their kinds, and
all its relations but that of the effect with the decision hold, however it was found. -/
lemma genuine_iff
    (hdistinct : Settlement.Distinct dependencies (consumed runId facts) (excluded runId facts))
    (h : Traces (consumed runId facts) (excluded runId facts) id l)
    (hrequest : l.requestId = some request) {x : Link} {rest : Lineage}
    (hmix : Traces (consumed runId facts) (excluded runId facts) mix (x :: rest)) (hid : x.id = mix)
    (hstage : x.stage = .mix) (hmixRequest : Lineage.requestId (x :: rest) = some request)
    (hreports : Reports trace l mix) : Genuine runId facts trace ↔ Straight runId facts l := by
  obtain ⟨first,hfirst,hfirstId⟩ := Option.map_eq_some_iff.mp hreports.request
  obtain ⟨decision,hdecision,hdecisionId⟩ := Option.map_eq_some_iff.mp hreports.decision
  obtain ⟨effect,heffect,heffectId⟩ := Option.map_eq_some_iff.mp hreports.effect
  have hoccurrence : first.occurrence = trace.occurrence := by
    simpa [hfirst] using hreports.occurrence
  obtain ⟨requestFact,hrequestItem,hrequestFactId,hrequestOccurrence,hnonzero⟩ := h.exists_request hfirst
  obtain ⟨decisionFact,hdecisionItem,hdecisionFactId,hdecisionCarries⟩ := h.exists_carried (Or.inl rfl) hdecision
  obtain ⟨effectFact,heffectItem,heffectFactId,heffectCarries⟩ := h.exists_carried (Or.inr rfl) heffect
  obtain ⟨mixFact,hmixItem,hmixId,hmixKind,hmixOccurrence,hmixPath⟩ :=
    h.exists_mix hdistinct hrequest hmix hid hstage hmixRequest
  constructor
  · intro hgenuine
    have hplayed : ∀ fact ∈ consumed runId facts, fact.id ∈ [trace.playbackRequest,
        trace.playbackDecision,trace.playbackEffect,trace.mixSpan] →
        fact.occurrence = trace.occurrence := by
      intro fact hfact hmem
      obtain ⟨other,hother,hsame,hcarried⟩ := hgenuine.played fact.id hmem
      obtain rfl := hdistinct.id other hother fact hfact hsame
      exact hcarried
    refine ⟨?_,?_⟩
    · intro part hpart
      rw [hfirst,Option.map_some,hoccurrence]
      simp only [List.mem_cons,List.not_mem_nil,or_false] at hpart
      rcases hpart with rfl | rfl | rfl
      · rw [hdecisionCarries,hplayed decisionFact hdecisionItem
          (by simp [hdecisionFactId,hdecisionId])]
      · rw [heffectCarries,hplayed effectFact heffectItem (by simp [heffectFactId,heffectId])]
      · rw [hmixOccurrence,hplayed mixFact hmixItem (by simp [hmixId,hreports.mix])]
    · intro decision' effect' hdecision' heffect'
      obtain rfl : decision = decision' := Option.some.inj (hdecision.symm.trans hdecision')
      obtain rfl : effect = effect' := Option.some.inj (heffect.symm.trans heffect')
      rw [hdecisionId,heffectId]
      exact hgenuine.relations (_,_) (by simp [ReplayTraceSummary.relations])
  · intro hstraight
    have hparts := hstraight.requests
    rw [hfirst,Option.map_some,hoccurrence] at hparts
    refine ⟨?_,?_,hoccurrence ▸ hnonzero,?_⟩
    · intro slot hslot
      simp only [ReplayTraceSummary.slots,List.mem_cons,List.not_mem_nil,or_false] at hslot
      rcases hslot with rfl | rfl | rfl | rfl | rfl | rfl | rfl
      · exact h.exists_reported (by simp) hreports.ingress
      · exact h.exists_reported (by simp) hreports.candidate
      · exact h.exists_reported (by simp) hreports.selection
      · exact h.exists_reported (by simp) hreports.request
      · exact h.exists_reported (by simp) hreports.decision
      · exact h.exists_reported (by simp) hreports.effect
      · exact ⟨mixFact,hmixItem,hmixId.trans hreports.mix.symm,hmixKind⟩
    · intro relation hrelation
      simp only [ReplayTraceSummary.relations,List.mem_cons,List.not_mem_nil,or_false] at hrelation
      rcases hrelation with rfl | rfl | rfl | rfl | rfl | rfl
      · exact h.reported_names (by simp) (by decide) (by decide) hreports.ingress hreports.candidate
      · exact h.reported_names (by simp) (by decide) (by decide) hreports.candidate hreports.selection
      · exact h.reported_names (by simp) (by decide) (by decide) hreports.selection hreports.request
      · exact h.reported_names (by simp) (by decide) (by decide) hreports.request hreports.decision
      · rw [← hdecisionId,← heffectId]
        exact hstraight.descends decision effect hdecision heffect
      · rw [← hfirstId,hreports.mix]
        exact descends_names (hmixPath first hfirst)
    · intro reported hreported
      simp only [List.mem_cons,List.not_mem_nil,or_false] at hreported
      rcases hreported with rfl | rfl | rfl | rfl
      · exact ⟨requestFact,hrequestItem,hrequestFactId.trans hfirstId,hrequestOccurrence.trans hoccurrence⟩
      · have hpart := hparts (linksOver .decision l) (by simp)
        rw [hdecisionCarries] at hpart
        exact ⟨decisionFact,hdecisionItem,hdecisionFactId.trans hdecisionId,Option.some.inj hpart⟩
      · have hpart := hparts (linksOver .effect l) (by simp)
        rw [heffectCarries] at hpart
        exact ⟨effectFact,heffectItem,heffectFactId.trans heffectId,Option.some.inj hpart⟩
      · have hpart := hparts l (by simp)
        rw [hmixOccurrence] at hpart
        exact ⟨mixFact,hmixItem,hmixId.trans hreports.mix.symm,Option.some.inj hpart⟩

end Reported

/-- The reopened evidence asks of a reported chain what its lineage spells. -/
lemma Reports.spelled_iff {trace : ReplayTraceSummary} {l : Lineage} {mix : CompactId}
    (h : Reports trace l mix) : Spelled runId facts trace ↔ Spells runId facts l mix := by
  obtain ⟨ingress,hingress,hingressId⟩ := Option.map_eq_some_iff.mp h.ingress
  obtain ⟨candidate,hcandidate,hcandidateId⟩ := Option.map_eq_some_iff.mp h.candidate
  obtain ⟨selection,hselection,hselectionId⟩ := Option.map_eq_some_iff.mp h.selection
  obtain ⟨request,hrequest,hrequestId⟩ := Option.map_eq_some_iff.mp h.request
  obtain ⟨decision,hdecision,hdecisionId⟩ := Option.map_eq_some_iff.mp h.decision
  obtain ⟨effect,heffect,heffectId⟩ := Option.map_eq_some_iff.mp h.effect
  have hoccurrence : request.occurrence = trace.occurrence := by
    simpa [hrequest] using h.occurrence
  constructor
  · rintro ⟨hspelled,hrelations⟩
    refine ⟨?_,?_,?_⟩
    · intro x hx
      obtain rfl := Option.some.inj (hrequest.symm.trans hx)
      rw [hrequestId,hoccurrence]
      exact hspelled
    · intro pair hpair earlier later hearlier hlater
      refine hrelations (earlier.id,later.id) ?_
      simp only [playedStages,List.tail_cons,List.zip_cons_cons,List.zip_nil_right,List.mem_cons,
        List.not_mem_nil,or_false] at hpair
      rcases hpair with rfl | rfl | rfl | rfl | rfl <;>
        simp_all [ReplayTraceSummary.relations]
    · intro x hx
      obtain rfl := Option.some.inj (hrequest.symm.trans hx)
      exact hrelations (request.id,mix) (by simp [ReplayTraceSummary.relations,hrequestId,h.mix])
  · rintro ⟨hspelled,hstages,hmixed⟩
    refine ⟨?_,?_⟩
    · rw [← hrequestId,← hoccurrence]
      exact hspelled request hrequest
    · intro relation hrelation
      simp only [ReplayTraceSummary.relations,← hingressId,← hcandidateId,← hselectionId,← hrequestId,
        ← hdecisionId,← heffectId,h.mix,List.mem_cons,List.not_mem_nil,or_false] at hrelation
      rcases hrelation with rfl | rfl | rfl | rfl | rfl | rfl
      · exact hstages (.ingress,.candidate) (by decide) _ _ hingress hcandidate
      · exact hstages (.candidate,.selection) (by decide) _ _ hcandidate hselection
      · exact hstages (.selection,.request) (by decide) _ _ hselection hrequest
      · exact hstages (.request,.decision) (by decide) _ _ hrequest hdecision
      · exact hstages (.decision,.effect) (by decide) _ _ hdecision heffect
      · exact hmixed request hrequest

section Canonical
variable (hcanonical : ∀ fact ∈ facts, ∀ pending, reading runId fact = .engine pending →
  Canonical runId fact pending)
include hcanonical

lemma NamesCause.textCause {earlier later : CompactId} (h : NamesCause runId facts earlier later) :
    TextCause facts (domainId runId earlier) (domainId runId later) := by
  obtain ⟨fact,hfact,pending,hreading,rfl,id,hid,hproducer,hsequence⟩ := h
  have hwritten := hcanonical fact hfact pending hreading
  obtain ⟨cause,rfl⟩ := hwritten.causes id hid
  rw [domainId,producerNumber_engine] at hproducer
  split_ifs at hproducer
  obtain rfl : cause = earlier := by
    cases cause
    cases earlier
    cases hproducer
    cases hsequence
    rfl
  exact ⟨fact,hfact,hwritten.id,hid⟩

/-- A genuine chain is spelled where the texts are canonical. -/
lemma Genuine.spelled (haccounted : Accounted runId facts) {trace : ReplayTraceSummary}
    (h : Genuine runId facts trace) : Spelled runId facts trace where
  occurrence := by
    obtain ⟨pending,⟨fact,hfact,hreading⟩,hid,hkind⟩ :=
      h.kinds (.request,trace.playbackRequest) (by simp [ReplayTraceSummary.slots])
    obtain ⟨other,⟨fact',hfact',hreading'⟩,hid',hoccurrence⟩ := h.played trace.playbackRequest (by simp)
    have hclaimed : trace.playbackRequest ∈ (reading runId fact).claims := by
      simpa [hreading,Reading.claims] using hid.symm
    have hclaimed' : trace.playbackRequest ∈ (reading runId fact').claims := by
      simpa [hreading',Reading.claims] using hid'.symm
    obtain rfl : fact = fact' := claims_injective haccounted.disjoint hfact hfact' hclaimed hclaimed'
    obtain rfl : pending = other := Reading.engine.inj (hreading.symm.trans hreading')
    obtain ⟨hwritten,-,hspelled⟩ := hcanonical fact hfact pending hreading
    rw [show pending.id = trace.playbackRequest from hid] at hwritten
    rw [hoccurrence] at hspelled
    exact ⟨fact,hfact,hwritten,hspelled hkind⟩
  relations := fun relation hrelation =>
    ((h.relations relation hrelation).lift (domainId runId)
      fun _ _ => NamesCause.textCause hcanonical).to_reflTransGen

end Canonical

/-- What is reported is genuine exactly when the lineage is straight, and accepted exactly when it is spelled. -/
lemma reported_iff (haccounted : Accounted runId facts)
    (hdistinct : Settlement.Distinct dependencies (consumed runId facts) (excluded runId facts))
    (hlisting : Listing runId facts log) {request effect mix : CompactId} {l : Lineage}
    (hfirst : FirstCompleteIn runId facts log request effect mix)
    (htraces : Traces (consumed runId facts) (excluded runId facts) effect l)
    {trace : ReplayTraceSummary} (hreports : Reports trace l mix) :
    (Genuine runId facts trace ↔ Straight runId facts l) ∧
      (reopenedRelationships facts runId trace = true ↔ Spells runId facts l mix) := by
  obtain ⟨before,last,after,hlog,hcomplete,-⟩ := hfirst
  have hmixed : FirstIn runId facts .mix log request mix := by
    rw [hlog]
    simpa using hcomplete.mixed.append after
  obtain ⟨x,rest,hmixTraces,hmixId,hmixStage,hmixRequest⟩ :=
    hmixed.exists_head hlisting hdistinct (by simp)
  obtain ⟨l',htraces',-,hrequest⟩ := hcomplete.played.stageOf
  obtain rfl := htraces.unique hdistinct htraces'
  have hvalid : ∀ (s : TraceStage) (reported : CompactId), s ≠ .none →
      (rootmost s l).map Link.id = some reported → reported.Valid := by
    intro s reported hs hreported
    obtain ⟨y,hy,rfl⟩ := Option.map_eq_some_iff.mp hreported
    obtain ⟨pending,⟨fact,-,hreading⟩,hid,-⟩ := htraces.exists_fact hs hy
    exact hid ▸ (reading_engine_valid runId hreading).1
  have hmixValid : mix.Valid := by
    obtain ⟨pending,⟨fact,-,hreading⟩,hid⟩ := (hlisting.mem mix).mp hmixed.mem
    exact hid ▸ (reading_engine_valid runId hreading).1
  have hrelations : ∀ relation ∈ trace.relations, relation.2.Valid := by
    intro relation hrelation
    simp only [ReplayTraceSummary.relations,List.mem_cons,List.not_mem_nil,or_false] at hrelation
    rcases hrelation with rfl | rfl | rfl | rfl | rfl | rfl
    · exact hvalid .candidate _ (by simp) hreports.candidate
    · exact hvalid .selection _ (by simp) hreports.selection
    · exact hvalid .request _ (by simp) hreports.request
    · exact hvalid .decision _ (by simp) hreports.decision
    · exact hvalid .effect _ (by simp) hreports.effect
    · exact hreports.mix ▸ hmixValid
  refine ⟨?_,?_⟩
  · exact genuine_iff hdistinct htraces hrequest hmixTraces hmixId hmixStage hmixRequest hreports
  · exact (haccounted.reopenedRelationships_iff (hvalid .request _ (by simp) hreports.request)
      hrelations).trans hreports.spelled_iff

lemma Reports.summary {a : Accumulator} {l : Lineage} {mix : CompactId} (h : Reports a.complete l mix)
    (transportLossFree : Bool) : Reports (a.summarize transportLossFree) l mix :=
  ⟨h.ingress,h.candidate,h.selection,h.request,h.decision,h.effect,h.occurrence,h.mix⟩

/-- A run free of loss that completes a request reports the chain of the first one. -/
lemma FirstReported.reports {hash : HashOrder} {l : Lineage} {mix : CompactId}
    (hloss : (traceSummary hash runId facts true).lossFree = true)
    (h : FirstReported runId facts hash l mix) :
    (traceSummary hash runId facts true).causallyConnected = true ∧
      Reports (traceSummary hash runId facts true) l mix := by
  obtain ⟨request,effect,hfirst,htraces⟩ := h
  obtain ⟨a,log,rfl,rfl,hholds,htraced,hlisting⟩ := lossFree_log (List.Perm.refl facts) hloss
  have hdone : ((new runId).consumeAll hash facts).complete.causallyConnected = true := by
    obtain ⟨before,last,after,hlog,hcomplete,-⟩ := hfirst
    refine (connected_iff hholds htraced).mpr ⟨request,effect,mix,?_⟩
    rw [hlog]
    simpa using hcomplete.append after
  obtain ⟨request',effect',mix',l',hfirst',htraces',hreports⟩ :=
    exists_reported hholds htraced hlisting hdone
  -- A log has only one first request.
  obtain ⟨rfl,rfl,rfl⟩ := hfirst.unique hholds.waits.distinct hfirst'
  obtain rfl := htraces.unique hholds.waits.distinct htraces'
  exact ⟨(summary_connected hloss).trans hdone,hreports.summary true⟩

/-- A sequence of facts after which the summary is connected reports a genuine chain that the
reopened evidence accepts: exactly when the lineage of the first request that it completes is
straight and spelled, and what is straight is spelled where the texts are canonical. -/
theorem reports_genuine_iff (hash : HashOrder) (runId : String) (facts : List Fact)
    (transportLossFree : Bool) :
    (((traceSummary hash runId facts transportLossFree).causallyConnected = true →
        Genuine runId facts (traceSummary hash runId facts transportLossFree) ∧
          reopenedRelationships facts runId (traceSummary hash runId facts transportLossFree) = true) ↔
      (transportLossFree = true → runId ≠ "" ∧ runId.utf8ByteSize ≤ maxIdentityBytes →
        Accounted runId facts → ∀ l mix, FirstReported runId facts hash l mix →
          Straight runId facts l ∧ Spells runId facts l mix)) ∧
    ((∀ fact ∈ facts, ∀ pending, reading runId fact = .engine pending →
        Canonical runId fact pending) →
      runId ≠ "" ∧ runId.utf8ByteSize ≤ maxIdentityBytes → Accounted runId facts →
        ∀ l mix, FirstReported runId facts hash l mix →
          Straight runId facts l → Spells runId facts l mix) := by
  have hjudged : ∀ {l : Lineage} {mix : CompactId}, Accounted runId facts →
      (traceSummary hash runId facts true).lossFree = true → FirstReported runId facts hash l mix →
      Reports (traceSummary hash runId facts true) l mix →
      (Genuine runId facts (traceSummary hash runId facts true) ↔ Straight runId facts l) ∧
        (reopenedRelationships facts runId (traceSummary hash runId facts true) = true ↔
          Spells runId facts l mix) := by
    rintro l mix haccounted hloss ⟨request,effect,hfirst,htraces⟩ hreports
    obtain ⟨a,log,rfl,rfl,hholds,-,hlisting⟩ := lossFree_log (List.Perm.refl facts) hloss
    exact reported_iff haccounted hholds.waits.distinct hlisting hfirst htraces hreports
  have hfree : runId ≠ "" ∧ runId.utf8ByteSize ≤ maxIdentityBytes → Accounted runId facts →
      (traceSummary hash runId facts true).lossFree = true := fun hrun haccounted =>
    summary_lossFree_iff.mpr ⟨rfl,(consumeAll_complete_iff hash runId _).mpr ⟨hrun,haccounted⟩⟩
  refine ⟨⟨?_,?_⟩,?_⟩
  · rintro hall rfl hrun haccounted l mix hfirst
    obtain ⟨hconnected,hreports⟩ := hfirst.reports (hfree hrun haccounted)
    obtain ⟨hgenuine,haccepts⟩ := hall hconnected
    have hboth := hjudged haccounted (hfree hrun haccounted) hfirst hreports
    exact ⟨hboth.1.mp hgenuine,hboth.2.mp haccepts⟩
  · intro hcond hconnected
    have hloss : (traceSummary hash runId facts transportLossFree).lossFree = true ∧
        ((new runId).consumeAll hash facts).complete.causallyConnected = true := by
      simpa [traceSummary,summarize] using hconnected
    obtain ⟨rfl,hcomplete⟩ := summary_lossFree_iff.mp hloss.1
    obtain ⟨hrun,haccounted⟩ := (consumeAll_complete_iff hash runId facts).mp hcomplete
    obtain ⟨a,log,rfl,rfl,hholds,htraced,hlisting⟩ := lossFree_log (List.Perm.refl facts) hloss.1
    obtain ⟨request,effect,mix,l,hfirst,htraces,hreports⟩ :=
      exists_reported hholds htraced hlisting hloss.2
    have hreported : FirstReported runId facts hash l mix := ⟨request,effect,hfirst,htraces⟩
    have hboth := hjudged haccounted hloss.1 hreported (hreports.summary true)
    obtain ⟨hstraight,hspells⟩ := hcond rfl hrun haccounted l mix hreported
    exact ⟨hboth.1.mpr hstraight,hboth.2.mpr hspells⟩
  · intro hcanonical hrun haccounted l mix hfirst hstraight
    obtain ⟨-,hreports⟩ := hfirst.reports (hfree hrun haccounted)
    have hboth := hjudged haccounted (hfree hrun haccounted) hfirst hreports
    exact hreports.spelled_iff.mp ((hboth.1.mpr hstraight).spelled hcanonical haccounted)

/-- A request whose playback, through a mix, leads to the request of another occurrence. -/
def nestedRequest : List Fact :=
  [playbackFact "" 1 "detector_input" [],playbackFact "" 2 "assignment_candidate" [1],
    playbackFact "" 3 "assignment_selection" [2],playbackFact "5" 4 "hd_playback_request" [3],
    playbackFact "5" 5 "hd_mix_participant" [4],playbackFact "5" 6 "hd_playback_effect" [5],
    playbackFact "7" 7 "hd_playback_request" [6],playbackFact "7" 8 "hd_playback_decision" [7],
    playbackFact "7" 9 "hd_playback_effect" [8],playbackFact "7" 10 "hd_mix_participant" [7]]

/-- What is asked of the fact of the Engine that is read. -/
def Reading.satisfies (asked : PendingFact → Bool) : Reading → Bool
  | .engine pending => asked pending
  | _ => true

/-- The summary mixes two requests: its decision has another occurrence, and its effect is not
under the decision, so the reopened evidence refuses it. -/
theorem nestedRequest_not_genuine :
    (traceSummary .ascending "r" nestedRequest true).causallyConnected = true ∧
      ¬Genuine "r" nestedRequest (traceSummary .ascending "r" nestedRequest true) ∧
        reopenedRelationships nestedRequest "r" (traceSummary .ascending "r" nestedRequest true) =
          false := by
  refine ⟨by decide +kernel,?_,by decide +kernel⟩
  intro hgenuine
  obtain ⟨pending,⟨fact,hfact,hreading⟩,hid,hoccurrence⟩ :=
    hgenuine.played _ (List.mem_cons_of_mem _ (List.mem_cons_self ..))
  -- Every fact of the decision's identity has another occurrence.
  have hall : (nestedRequest.all fun fact => (reading "r" fact).satisfies fun pending => decide ¬(
      pending.id = (traceSummary .ascending "r" nestedRequest true).playbackDecision ∧
        pending.occurrence = (traceSummary .ascending "r" nestedRequest true).occurrence)) = true := by decide +kernel
  have hone := List.all_eq_true.mp hall fact hfact
  rw [hreading] at hone
  exact of_decide_eq_true hone ⟨hid,hoccurrence⟩

end AytherRuntime.Trace
