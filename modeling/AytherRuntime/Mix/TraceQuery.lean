import AytherRuntime.Library.Breadth
import AytherRuntime.Mix.Model

/-! The query from an event to the audio that came of it: a route along the causes to each related span, and the
temporal links that are given with it. -/
namespace AytherRuntime.Binary.Mix
open Codec

structure TemporalTraceLink where
  eventId : FactId
  mixSpanId : Bytes
  reasonCode : Bytes
  deriving DecidableEq

inductive TraceRelationBasis
  | explicitCause | temporalCorrelation
  deriving DecidableEq, Repr

structure EventAudioRoute where
  basis : TraceRelationBasis
  factPath : List FactId
  mixSpanId : Bytes
  outputRange : SampleFrameRange
  relationReason : Bytes
  deriving DecidableEq

inductive EventAudioQueryStatus
  | found | notFound | invalidOrigin | invalidFact | duplicateFact | invalidMixSpan | invalidTemporalLink
  | capacityExceeded | rangeUnavailable
  deriving DecidableEq, Repr

structure EventAudioQueryResult where
  status : EventAudioQueryStatus := .notFound
  routes : List EventAudioRoute := []
  deriving DecidableEq

section Query

def causeIds : Bytes := "cause_ids".toUTF8.toList

variable (facts : List Fact)

def factIndex (id : FactId) : Option ℕ := facts.findIdx? fun fact => fact.id = id

def directlyCausedBy (fact : Fact) (cause : FactId) : Bool := fact.causeIds.any fun candidate => candidate = .fact cause

/-- The fact of an index is caused by the one of another. -/
def causedAt (current candidate : ℕ) : Bool :=
  match facts[current]?,facts[candidate]? with
  | some current,some candidate => directlyCausedBy candidate current.id
  | _,_ => false

/-- The first fact that is not well formed or has the identity of one before it. -/
def firstInvalid (previous : List Fact) : List Fact → Option EventAudioQueryStatus
  | [] => none
  | fact :: facts =>
    if !wellFormed fact then some .invalidFact
    else if previous.any fun earlier => earlier.id = fact.id then some .duplicateFact
    else firstInvalid (previous ++ [fact]) facts

/-- A cause of the run that is no fact of the list. -/
def missingCause : Cause → Bool
  | .fact id => (factIndex facts id).isNone
  | .preexistingContext _ => false

def invalidSpan (span : MixSpan) : Bool :=
  !wellFormedSpan span || span.facts.any fun fact => (factIndex facts fact).isNone

/-- `reconstruct_path`; `none` where the walk leaves the facts or goes on past all of them. -/
def reconstructPath (parents : ℕ → Option ℕ) (origin target : ℕ) : Option (List FactId) :=
  (Breadth.walkBack parents origin facts.length target).bind fun reversed =>
    reversed.reverse.mapM fun index => facts[index]?.map Fact.id

/-- The routes so far, and whether a related span had no range. -/
structure RouteState where
  routes : List EventAudioRoute := []
  relatedRangeUnavailable : Bool := false
  deriving DecidableEq

variable (eventId : FactId) (mixSpans : List MixSpan)

/-- The first fact of a span that was found. -/
def spanTarget (parents : ℕ → Option ℕ) (span : MixSpan) : Option ℕ :=
  span.facts.findSome? fun fact => (factIndex facts fact).filter fun index => (parents index).isSome

def addExplicit (parents : ℕ → Option ℕ) (origin : ℕ) (state : RouteState) (span : MixSpan) : Option RouteState :=
  if span.runId ≠ eventId.runId then some state
  else
    match spanTarget facts parents span with
    | none => some state
    | some target =>
      match span.outputRange.value with
      | none => some { state with relatedRangeUnavailable := true }
      | some range => (reconstructPath facts parents origin target).map fun path =>
        { state with routes := state.routes ++ [⟨.explicitCause,path,span.spanId,range,causeIds⟩] }

/-- One temporal link; `none` when it is invalid. -/
def addTemporal (state : RouteState) (link : TemporalTraceLink) : Option RouteState :=
  if !identifier link.mixSpanId || !identifier link.reasonCode then none
  else if link.eventId ≠ eventId then some state
  else
    match mixSpans.find? fun candidate => candidate.runId = eventId.runId ∧ candidate.spanId = link.mixSpanId with
    | none => none
    | some span =>
      if state.routes.any fun route => route.mixSpanId = span.spanId then some state
      else
        match span.outputRange.value with
        | none => some { state with relatedRangeUnavailable := true }
        | some range => some
          { state with routes := state.routes ++ [⟨.temporalCorrelation,[eventId],span.spanId,range,link.reasonCode⟩] }

def routed (state : RouteState) : EventAudioQueryResult where
  status :=
    if state.routes ≠ [] then .found else if state.relatedRangeUnavailable then .rangeUnavailable else .notFound
  routes := state.routes

/-- `query_event_to_audio`; `none` where the path of a route is not reconstructed. -/
def queryEventToAudio (temporalLinks : List TemporalTraceLink) : Option EventAudioQueryResult :=
  if maxReferenceMaterials < facts.length ∨ maxReferenceMaterials < mixSpans.length ∨
      maxReferenceMaterials < temporalLinks.length then some { status := .capacityExceeded }
  else
    match firstInvalid [] facts with
    | some status => some { status }
    | none =>
      match factIndex facts eventId with
      | none => some { status := .invalidOrigin }
      | some origin =>
        if facts.any fun fact => fact.causeIds.any (missingCause facts) then some { status := .invalidFact }
        else if mixSpans.any (invalidSpan facts) then some { status := .invalidMixSpan }
        else
          let parents := (Breadth.found facts.length (causedAt facts) origin).parents
          (mixSpans.foldlM (addExplicit facts eventId parents origin) {}).map fun state =>
            match temporalLinks.foldlM (addTemporal eventId mixSpans) state with
            | none => { status := .invalidTemporalLink }
            | some state => routed state

end Query

section Causes
variable {facts : List Fact}

/-- The identities of the facts do not repeat. -/
def Distinct (facts : List Fact) : Prop := (facts.map Fact.id).Nodup

/-- A fact is caused by another one of the list. -/
def CausedBy (facts : List Fact) (cause id : FactId) : Prop :=
  ∃ fact ∈ facts, fact.id = id ∧ Cause.fact cause ∈ fact.causeIds

/-- A path of causes from one fact to another. -/
def CausePath (facts : List Fact) (first last : FactId) (path : List FactId) : Prop :=
  path.head? = some first ∧ path.getLast? = some last ∧ path.IsChain (CausedBy facts)

lemma factIndex_eq_some_iff (h : Distinct facts) {id : FactId} {index : ℕ} :
    factIndex facts id = some index ↔ facts[index]?.map Fact.id = some id := by
  unfold factIndex
  rw [List.findIdx?_eq_some_iff_getElem]
  constructor
  · rintro ⟨hless,hsame,-⟩
    rw [List.getElem?_eq_getElem hless,Option.map_some,of_decide_eq_true hsame]
  · intro hmap
    obtain ⟨fact,hfact,rfl⟩ := Option.map_eq_some_iff.mp hmap
    obtain ⟨hless,rfl⟩ := List.getElem?_eq_some_iff.mp hfact
    refine ⟨hless,decide_eq_true rfl,fun other hother hsame => ?_⟩
    have hequal : (facts.map Fact.id)[other]? = (facts.map Fact.id)[index]? := by
      rw [List.getElem?_map,List.getElem?_map,hfact,List.getElem?_eq_getElem (hother.trans hless)]
      exact congrArg some (of_decide_eq_true hsame)
    have hplace := (List.getElem?_inj (by rw [List.length_map]; exact hother.trans hless) h).mp hequal
    omega

/-- The fact of an index is caused by that of another when their identities are linked. -/
lemma causedAt_iff (h : Distinct facts) {current candidate : ℕ} {cause id : FactId}
    (hcause : facts[current]?.map Fact.id = some cause) (hid : facts[candidate]?.map Fact.id = some id) :
    causedAt facts current candidate = true ↔ CausedBy facts cause id := by
  obtain ⟨first,hfirst,rfl⟩ := Option.map_eq_some_iff.mp hcause
  obtain ⟨second,hsecond,rfl⟩ := Option.map_eq_some_iff.mp hid
  unfold causedAt directlyCausedBy
  rw [hfirst,hsecond]
  dsimp only
  rw [List.any_eq_true]
  constructor
  · rintro ⟨candidate,hmem,hsame⟩
    rw [of_decide_eq_true hsame] at hmem
    exact ⟨second,List.mem_of_getElem? hsecond,rfl,hmem⟩
  · rintro ⟨fact,hfact,hsame,hmem⟩
    obtain rfl := List.inj_on_of_nodup_map h hfact (List.mem_of_getElem? hsecond) hsame
    exact ⟨_,hmem,decide_eq_true rfl⟩

/-- The fact of an index has an identity. -/
def At (facts : List Fact) (index : ℕ) (id : FactId) : Prop := facts[index]?.map Fact.id = some id

lemma At.lt {index : ℕ} {id : FactId} (h : At facts index id) : index < facts.length := by
  obtain ⟨fact,hfact,-⟩ := Option.map_eq_some_iff.mp h
  exact (List.getElem?_eq_some_iff.mp hfact).1

lemma at_iff (h : Distinct facts) {i j : ℕ} {a b : FactId} (ha : At facts i a) (hb : At facts j b) : i = j ↔ a = b := by
  constructor
  · rintro rfl
    exact Option.some.inj (ha.symm.trans hb)
  · rintro rfl
    exact Option.some.inj (((factIndex_eq_some_iff h).mpr ha).symm.trans ((factIndex_eq_some_iff h).mpr hb))

lemma exists_at {id : FactId} {fact : Fact} (hfact : fact ∈ facts) (hid : fact.id = id) :
    ∃ index, At facts index id := by
  obtain ⟨index,hless,hplace⟩ := List.getElem_of_mem hfact
  exact ⟨index,by rw [At,List.getElem?_eq_getElem hless,hplace,Option.map_some,hid]⟩

/-- A path of indices is a path of the causes between their facts. -/
lemma isPath_iff (h : Distinct facts) {path : List ℕ} {ids : List FactId} (hids : List.Forall₂ (At facts) path ids)
    {first last : ℕ} {firstId lastId : FactId} (hfirst : At facts first firstId) (hlast : At facts last lastId) :
    Breadth.IsPath facts.length (causedAt facts) first last path ↔ CausePath facts firstId lastId ids := by
  have hends : ∀ {path : List ℕ} {ids : List FactId} {i : ℕ} {id : FactId}, List.Forall₂ (At facts) path ids →
      At facts i id → (path.head? = some i ↔ ids.head? = some id) := by
    intro path ids i id hids hid
    cases hids with
    | nil => exact iff_of_false (fun h => by cases h) (fun h => by cases h)
    | cons hhead htail =>
      rw [List.head?_cons,List.head?_cons,Option.some.injEq,Option.some.injEq]
      exact at_iff h hhead hid
  have hchain : path.IsChain (Breadth.Link facts.length (causedAt facts)) ↔ ids.IsChain (CausedBy facts) := by
    clear hfirst hlast
    induction hids with
    | nil => exact iff_of_true List.isChain_nil List.isChain_nil
    | cons hhead htail ih =>
      cases htail with
      | nil => exact iff_of_true (List.isChain_singleton _) (List.isChain_singleton _)
      | cons hnext htail =>
        rw [List.isChain_cons_cons,List.isChain_cons_cons,ih,Breadth.Link,causedAt_iff h hhead hnext,
          and_iff_right hnext.lt]
  have hlasts : path.getLast? = some last ↔ ids.getLast? = some lastId := by
    rw [← List.head?_reverse,← List.head?_reverse]
    exact hends (List.forall₂_reverse_iff.mpr hids) hlast
  rw [Breadth.IsPath,CausePath,hends hids hfirst,hlasts,hchain]

/-- The facts of a path of causes are in the list when the first one is. -/
lemma CausePath.exists_indices {first last : FactId} {ids : List FactId} (h : CausePath facts first last ids)
    (hfirst : ∃ index, At facts index first) : ∃ path, List.Forall₂ (At facts) path ids := by
  obtain ⟨hhead,-,hchain⟩ := h
  clear last
  induction ids generalizing first with
  | nil => exact ⟨[],.nil⟩
  | cons id ids ih =>
    obtain rfl := Option.some.inj hhead
    obtain ⟨index,hindex⟩ := hfirst
    cases ids with
    | nil => exact ⟨[index],.cons hindex .nil⟩
    | cons next ids =>
      obtain ⟨⟨fact,hfact,hsame,-⟩,hchain⟩ := List.isChain_cons_cons.mp hchain
      obtain ⟨path,hpath⟩ := ih (exists_at hfact hsame) rfl hchain
      exact ⟨index :: path,.cons hindex hpath⟩

/-- What is reached through causes is the end of a path. -/
lemma reaches_iff {first last : FactId} :
    Relation.ReflTransGen (CausedBy facts) first last ↔ ∃ ids, CausePath facts first last ids := by
  constructor
  · intro h
    induction h with
    | refl => exact ⟨[first],rfl,rfl,List.isChain_singleton _⟩
    | tail _ hstep ih =>
      obtain ⟨ids,hhead,hlast,hchain⟩ := ih
      refine ⟨ids ++ [_],?_,List.getLast?_concat,?_⟩
      · rw [List.head?_append_of_ne_nil _ (by rintro rfl; cases hhead),hhead]
      · rw [List.isChain_append]
        refine ⟨hchain,List.isChain_singleton _,fun a ha b hb => ?_⟩
        rw [hlast] at ha
        cases ha
        cases hb
        exact hstep
  · rintro ⟨ids,hhead,hlast,hchain⟩
    induction ids generalizing first with
    | nil => cases hhead
    | cons id ids ih =>
      obtain rfl := Option.some.inj hhead
      cases ids with
      | nil =>
        obtain rfl := Option.some.inj hlast
        exact .refl
      | cons next ids =>
        obtain ⟨hstep,hchain⟩ := List.isChain_cons_cons.mp hchain
        exact .head hstep (ih rfl (by rwa [List.getLast?_cons_cons] at hlast) hchain)

end Causes

section Routes
variable {facts : List Fact} {eventId : FactId} {origin : ℕ}

/-- A span of the run of the event with an output range, and with a fact that is the event or came of it. -/
def Related (facts : List Fact) (eventId : FactId) (span : MixSpan) : Prop :=
  span.runId = eventId.runId ∧ span.outputRange.value.isSome ∧
    ∃ fact ∈ span.facts, Relation.ReflTransGen (CausedBy facts) eventId fact

/-- A shortest path of causes from the event to a fact of the span. -/
structure ExplicitRoute (facts : List Fact) (eventId : FactId) (span : MixSpan) (route : EventAudioRoute) : Prop where
  basis : route.basis = .explicitCause
  mixSpanId : route.mixSpanId = span.spanId
  outputRange : span.outputRange.value = some route.outputRange
  path : ∃ fact ∈ span.facts, CausePath facts eventId fact route.factPath ∧
    ∀ other, CausePath facts eventId fact other → route.factPath.length ≤ other.length

/-- A temporal link to a span of the run with an output range, whose identity no route before it has. -/
structure TemporalRoute (eventId : FactId) (mixSpans : List MixSpan) (explicit : List EventAudioRoute)
    (route : EventAudioRoute) : Prop where
  basis : route.basis = .temporalCorrelation
  span : ∃ span ∈ mixSpans, span.runId = eventId.runId ∧ span.spanId = route.mixSpanId ∧
    span.outputRange.value = some route.outputRange
  unexplained : ∀ other ∈ explicit, other.mixSpanId ≠ route.mixSpanId

/-- The facts were searched from the event. -/
structure Searched (facts : List Fact) (eventId : FactId) (origin : ℕ) (parents : ℕ → Option ℕ) : Prop where
  distinct : Distinct facts
  event : At facts origin eventId
  parents : parents = (Breadth.found facts.length (causedAt facts) origin).parents

variable {parents : ℕ → Option ℕ}

lemma exists_mapM {α β : Type} {f : α → Option β} {l : List α} (h : ∀ a ∈ l, (f a).isSome) :
    ∃ images, l.mapM f = some images ∧ List.Forall₂ (fun a b => f a = some b) l images := by
  induction l with
  | nil => exact ⟨[],rfl,.nil⟩
  | cons a l ih =>
    obtain ⟨hhead,htail⟩ := List.forall_mem_cons.mp h
    obtain ⟨b,hb⟩ := Option.isSome_iff_exists.mp hhead
    obtain ⟨images,hmap,hall⟩ := ih htail
    refine ⟨b :: images,?_,.cons hb hall⟩
    rw [List.mapM_cons,hb,hmap]
    rfl

/-- Of each fact that came of the event a shortest path is reconstructed. -/
lemma Searched.reconstruct (h : Searched facts eventId origin parents) {index : ℕ} {id : FactId}
    (hid : At facts index id) :
    (Relation.ReflTransGen (CausedBy facts) eventId id ↔ (parents index).isSome) ∧
      ((parents index).isSome → ∃ ids, reconstructPath facts parents origin index = some ids ∧
        CausePath facts eventId id ids ∧ ∀ other, CausePath facts eventId id other → ids.length ≤ other.length) := by
  have hback : ∀ other, CausePath facts eventId id other → ∃ path,
      Breadth.IsPath facts.length (causedAt facts) origin index path ∧ path.length = other.length := by
    intro other hother
    obtain ⟨path,hpath⟩ := hother.exists_indices ⟨origin,h.event⟩
    exact ⟨path,(isPath_iff h.distinct hpath h.event hid).mpr hother,hpath.length_eq⟩
  obtain ⟨hnone,hsome⟩ := @Breadth.found_spec facts.length (causedAt facts) origin h.event.lt index
  rw [← h.parents] at hnone hsome
  have hfound : (parents index).isSome → ∃ ids, reconstructPath facts parents origin index = some ids ∧
      CausePath facts eventId id ids ∧ ∀ other, CausePath facts eventId id other → ids.length ≤ other.length := by
    intro hparent
    obtain ⟨reversed,hwalk,hpath,hleast⟩ := hsome (Option.isSome_iff_ne_none.mp hparent)
    have hids : ∃ ids, (reversed.reverse.mapM fun index => facts[index]?.map Fact.id) = some ids ∧
        List.Forall₂ (At facts) reversed.reverse ids := by
      apply exists_mapM
      intro node hnode
      have hless := hpath.lt h.event.lt node hnode
      rw [List.getElem?_eq_getElem hless]
      rfl
    obtain ⟨ids,hmap,hids⟩ := hids
    refine ⟨ids,?_,(isPath_iff h.distinct hids h.event hid).mp hpath,fun other hother => ?_⟩
    · rw [reconstructPath,hwalk]
      exact hmap
    · obtain ⟨path,hpath,hlength⟩ := hback other hother
      rw [← hids.length_eq,List.length_reverse,← hlength]
      exact hleast path hpath
  refine ⟨?_,hfound⟩
  rw [reaches_iff]
  constructor
  · rintro ⟨other,hother⟩
    rw [Option.isSome_iff_ne_none]
    intro hmissing
    obtain ⟨path,hpath,-⟩ := hback other hother
    exact hnone hmissing ⟨path,hpath⟩
  · intro hparent
    obtain ⟨ids,-,hpath,-⟩ := hfound hparent
    exact ⟨ids,hpath⟩

/-- The target of a span is a fact of it that came of the event, when there is one. -/
lemma Searched.target (h : Searched facts eventId origin parents) {span : MixSpan}
    (hfacts : ∀ fact ∈ span.facts, (factIndex facts fact).isSome) :
    (spanTarget facts parents span = none →
      ∀ fact ∈ span.facts, ¬Relation.ReflTransGen (CausedBy facts) eventId fact) ∧
    ∀ target, spanTarget facts parents span = some target →
      ∃ fact ∈ span.facts, At facts target fact ∧ (parents target).isSome := by
  constructor
  · intro hnone fact hfact hreach
    obtain ⟨index,hindex⟩ := Option.isSome_iff_exists.mp (hfacts fact hfact)
    have hparent := (h.reconstruct ((factIndex_eq_some_iff h.distinct).mp hindex)).1.mp hreach
    have hmissing := List.findSome?_eq_none_iff.mp hnone fact hfact
    rw [hindex,Option.filter_some,if_pos hparent] at hmissing
    cases hmissing
  · intro target htarget
    obtain ⟨fact,hfact,hsome⟩ := List.exists_of_findSome?_eq_some htarget
    obtain ⟨hindex,hparent⟩ := Option.filter_eq_some_iff.mp hsome
    exact ⟨fact,hfact,(factIndex_eq_some_iff h.distinct).mp hindex,hparent⟩

/-- A span adds a route when it is related, and no route otherwise. -/
lemma Searched.addExplicit (h : Searched facts eventId origin parents) {span : MixSpan}
    (hfacts : ∀ fact ∈ span.facts, (factIndex facts fact).isSome) (state : RouteState) :
    ∃ state', addExplicit facts eventId parents origin state span = some state' ∧
      (Related facts eventId span → ∃ route, ExplicitRoute facts eventId span route ∧
        state'.routes = state.routes ++ [route]) ∧
      (¬Related facts eventId span → state'.routes = state.routes) := by
  obtain ⟨hnone,hsome⟩ := h.target hfacts
  unfold Mix.addExplicit
  by_cases hrun : span.runId = eventId.runId
  · rw [if_neg (not_not_intro hrun)]
    cases htarget : spanTarget facts parents span with
    | none =>
      refine ⟨state,rfl,fun hrelated => ?_,fun _ => rfl⟩
      obtain ⟨-,-,fact,hfact,hreach⟩ := hrelated
      exact absurd hreach (hnone htarget fact hfact)
    | some target =>
      obtain ⟨fact,hfact,hat,hparent⟩ := hsome target htarget
      obtain ⟨hreach,hpath⟩ := h.reconstruct hat
      obtain ⟨ids,hids,hcauses,hleast⟩ := hpath hparent
      dsimp only
      cases hrange : span.outputRange.value with
      | none =>
        refine ⟨_,rfl,fun hrelated => ?_,fun _ => rfl⟩
        have hknown := hrelated.2.1
        rw [hrange] at hknown
        cases hknown
      | some range =>
        dsimp only
        rw [hids]
        refine ⟨_,rfl,fun _ => ⟨_,⟨rfl,rfl,hrange,fact,hfact,hcauses,hleast⟩,rfl⟩,fun hunrelated => ?_⟩
        exact absurd ⟨hrun,by rw [hrange]; rfl,fact,hfact,hreach.mpr hparent⟩ hunrelated
  · rw [if_pos hrun]
    exact ⟨state,rfl,fun hrelated => absurd hrelated.1 hrun,fun _ => rfl⟩

open Classical in
/-- The spans add the routes of the related ones, in order. -/
lemma Searched.explicitRoutes (h : Searched facts eventId origin parents) (spans : List MixSpan)
    (hfacts : ∀ span ∈ spans, ∀ fact ∈ span.facts, (factIndex facts fact).isSome) (state : RouteState) :
    ∃ state' explicit, spans.foldlM (Mix.addExplicit facts eventId parents origin) state = some state' ∧
      state'.routes = state.routes ++ explicit ∧
      List.Forall₂ (ExplicitRoute facts eventId) (spans.filter fun span => Related facts eventId span) explicit := by
  induction spans generalizing state with
  | nil => exact ⟨state,[],rfl,(List.append_nil _).symm,.nil⟩
  | cons span spans ih =>
    obtain ⟨hhead,htail⟩ := List.forall_mem_cons.mp hfacts
    obtain ⟨next,hnext,hrelated,hunrelated⟩ := h.addExplicit hhead state
    obtain ⟨last,explicit,hlast,hroutes,hall⟩ := ih htail next
    rw [List.foldlM_cons,hnext]
    by_cases hspan : Related facts eventId span
    · obtain ⟨route,hroute,hadded⟩ := hrelated hspan
      refine ⟨last,route :: explicit,hlast,?_,?_⟩
      · rw [hroutes,hadded,List.append_assoc,List.singleton_append]
      · rw [List.filter_cons,if_pos (decide_eq_true hspan)]
        exact .cons hroute hall
    · refine ⟨last,explicit,hlast,?_,?_⟩
      · rw [hroutes,hunrelated hspan]
      · rwa [List.filter_cons,if_neg (by simpa using hspan)]

/-- A link adds a temporal route at most, for an identity that no route has. -/
lemma addTemporal_routes {mixSpans : List MixSpan} {state next : RouteState} {link : TemporalTraceLink}
    (h : addTemporal eventId mixSpans state link = some next) :
    next.routes = state.routes ∨ ∃ route, TemporalRoute eventId mixSpans state.routes route ∧
      next.routes = state.routes ++ [route] := by
  unfold addTemporal at h
  split_ifs at h with hinvalid hother
  · exact Or.inl (by rw [← Option.some.inj h])
  split at h
  · cases h
  rename_i span hspan
  split_ifs at h with hexplained
  · exact Or.inl (by rw [← Option.some.inj h])
  cases hrange : span.outputRange.value with
  | none =>
    rw [hrange] at h
    exact Or.inl (by rw [← Option.some.inj h])
  | some range =>
    rw [hrange] at h
    have hmatch := List.find?_some hspan
    rw [decide_eq_true_eq] at hmatch
    refine Or.inr ⟨_,⟨rfl,⟨span,List.mem_of_find?_eq_some hspan,hmatch.1,rfl,hrange⟩,fun other hmem hsame => ?_⟩,by
      rw [← Option.some.inj h]⟩
    exact hexplained (List.any_eq_true.mpr ⟨other,hmem,decide_eq_true hsame⟩)

/-- The links add temporal routes alone. -/
lemma temporalRoutes {mixSpans : List MixSpan} (links : List TemporalTraceLink) {state last : RouteState}
    (h : links.foldlM (addTemporal eventId mixSpans) state = some last) :
    ∃ temporal, last.routes = state.routes ++ temporal ∧
      ∀ route ∈ temporal, TemporalRoute eventId mixSpans state.routes route := by
  induction links generalizing state with
  | nil =>
    cases h
    exact ⟨[],(List.append_nil _).symm,List.forall_mem_nil _⟩
  | cons link links ih =>
    rw [List.foldlM_cons] at h
    obtain ⟨next,hnext,hrest⟩ := Option.bind_eq_some_iff.mp h
    obtain ⟨temporal,hroutes,hall⟩ := ih hrest
    obtain hsame | ⟨route,hroute,hadded⟩ := addTemporal_routes hnext
    · rw [hsame] at hroutes hall
      exact ⟨temporal,hroutes,hall⟩
    · rw [hadded] at hroutes hall
      refine ⟨route :: temporal,by rw [hroutes,List.append_assoc]; rfl,List.forall_mem_cons.mpr ⟨hroute,?_⟩⟩
      intro other hother
      obtain ⟨hbasis,hspan,hunexplained⟩ := hall other hother
      exact ⟨hbasis,hspan,fun earlier hearlier => hunexplained earlier (List.mem_append_left _ hearlier)⟩

/-- Facts that are taken do not repeat an identity. -/
lemma distinct_of_firstInvalid {previous : List Fact} (h : firstInvalid previous facts = none) :
    Distinct facts ∧ ∀ fact ∈ facts, ∀ earlier ∈ previous, earlier.id ≠ fact.id := by
  induction facts generalizing previous with
  | nil => exact ⟨List.nodup_nil,List.forall_mem_nil _⟩
  | cons fact facts ih =>
    unfold firstInvalid at h
    split_ifs at h with hwell hrepeated
    obtain ⟨hdistinct,hnew⟩ := ih h
    have hfirst : ∀ earlier ∈ previous, earlier.id ≠ fact.id :=
      fun earlier hearlier hsame => hrepeated (List.any_eq_true.mpr ⟨earlier,hearlier,decide_eq_true hsame⟩)
    refine ⟨List.nodup_cons.mpr ⟨fun hmem => ?_,hdistinct⟩,
      List.forall_mem_cons.mpr ⟨hfirst,fun other hother earlier hearlier =>
      hnew other hother earlier (List.mem_append_left _ hearlier)⟩⟩
    obtain ⟨other,hother,hsame⟩ := List.mem_map.mp hmem
    exact hnew other hother fact (List.mem_append_right _ (List.mem_singleton_self fact)) hsame.symm

/-- The query gives its answer and not an error. -/
def Accepted (status : EventAudioQueryStatus) : Prop :=
  status = .found ∨ status = .notFound ∨ status = .rangeUnavailable

lemma not_accepted_of_firstInvalid {previous : List Fact} {status : EventAudioQueryStatus}
    (h : firstInvalid previous facts = some status) : ¬Accepted status := by
  induction facts generalizing previous with
  | nil => cases h
  | cons fact facts ih =>
    unfold firstInvalid at h
    split_ifs at h with hwell hrepeated
    · cases h
      simp [Accepted]
    · cases h
      simp [Accepted]
    · exact ih h

open Classical in
/-- The query always ends. Its explicit routes are those of the spans that are related to the event, each along a
shortest path of causes, and its temporal ones are of spans with a range that no explicit route has. -/
theorem queryEventToAudio_routes (facts : List Fact) (eventId : FactId) (mixSpans : List MixSpan)
    (temporalLinks : List TemporalTraceLink) :
    ∃ result, queryEventToAudio facts eventId mixSpans temporalLinks = some result ∧ (Accepted result.status →
      ∃ explicit temporal, result.routes = explicit ++ temporal ∧
        List.Forall₂ (ExplicitRoute facts eventId) (mixSpans.filter fun span => Related facts eventId span) explicit ∧
        ∀ route ∈ temporal, TemporalRoute eventId mixSpans explicit route) := by
  have herror : ∀ {status : EventAudioQueryStatus}, ¬Accepted status →
      ∃ result : EventAudioQueryResult, some { status } = some result ∧ (Accepted result.status →
        ∃ explicit temporal, result.routes = explicit ++ temporal ∧
          List.Forall₂ (ExplicitRoute facts eventId) (mixSpans.filter fun span => Related facts eventId span) explicit ∧
          ∀ route ∈ temporal, TemporalRoute eventId mixSpans explicit route) :=
    fun hstatus => ⟨_,rfl,fun haccepted => absurd haccepted hstatus⟩
  unfold queryEventToAudio
  by_cases hlarge : maxReferenceMaterials < facts.length ∨ maxReferenceMaterials < mixSpans.length ∨
      maxReferenceMaterials < temporalLinks.length
  · rw [if_pos hlarge]
    exact herror (by simp [Accepted])
  rw [if_neg hlarge]
  cases hfirst : firstInvalid [] facts with
  | some status => exact herror (not_accepted_of_firstInvalid hfirst)
  | none =>
    have hdistinct := (distinct_of_firstInvalid hfirst).1
    cases horigin : factIndex facts eventId with
    | none => exact herror (by simp [Accepted])
    | some origin =>
      dsimp only
      split_ifs with hcauses hspans
      · exact herror (by simp [Accepted])
      · exact herror (by simp [Accepted])
      have hsearched : Searched facts eventId origin _ := ⟨hdistinct,(factIndex_eq_some_iff hdistinct).mp horigin,rfl⟩
      have hfacts : ∀ span ∈ mixSpans, ∀ fact ∈ span.facts, (factIndex facts fact).isSome := by
        intro span hspan fact hfact
        by_contra hmissing
        refine hspans (List.any_eq_true.mpr ⟨span,hspan,?_⟩)
        rw [invalidSpan,Bool.or_eq_true,List.any_eq_true]
        exact Or.inr ⟨fact,hfact,by rw [← Option.not_isSome]; simpa using hmissing⟩
      obtain ⟨state,explicit,hloop,hroutes,hexplicit⟩ := hsearched.explicitRoutes mixSpans hfacts {}
      rw [hloop,Option.map_some]
      cases htemporal : temporalLinks.foldlM (addTemporal eventId mixSpans) state with
      | none => exact herror (by simp [Accepted])
      | some last =>
        refine ⟨_,rfl,fun _ => ?_⟩
        obtain ⟨temporal,hlast,hall⟩ := temporalRoutes temporalLinks htemporal
        rw [hroutes] at hlast hall
        exact ⟨explicit,temporal,hlast,hexplicit,hall⟩

example :
    let event : FactId := ⟨[1],[2],1⟩
    let mix : FactId := ⟨[1],[3],1⟩
    let range : SampleFrameRange := ⟨[4],48000,100,132⟩
    queryEventToAudio [{ id := event,kind := [5] },{ id := mix,kind := [5],causeIds := [.fact event] }] event
      [{ runId := [1],spanId := [6],mixRange := range,outputRange := ⟨.known,some range,[]⟩,facts := [mix] }] [] =
        some ⟨.found,[⟨.explicitCause,[event,mix],[6],range,causeIds⟩]⟩ := by decide +kernel

end Routes
end AytherRuntime.Binary.Mix
