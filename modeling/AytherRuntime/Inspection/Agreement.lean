import AytherRuntime.Inspection.Rebuilt
import AytherRuntime.Inspection.Stretches

/-! When the traversal that the supervisor rebuilds is the one of a recorder that is told of the take live: exactly when
no frame is inferred where none was played. -/
namespace AytherRuntime.Inspection

section Calls
variable {last : UInt64} {calls rest : List RecorderCall} {event next : InspectionEvent}

def stretchCalls (resumed until' : UInt64) : List RecorderCall :=
  if resumed ≤ until' then [.framePlayed resumed,.framePlayed until'] else []

/-- The calls that are inferred of some events: each with a stretch up to the next one. -/
def inferredAfter (last : UInt64) : List InspectionEvent → List RecorderCall
  | [] => []
  | event :: rest =>
    let until' := match rest.head? with
      | some next => min next.frameBefore last
      | none => last
    .inspection event :: (stretchCalls (event.frameAfter + 1) until' ++ inferredAfter last rest)

/-- The calls that are inferred of a take. -/
def inferredCalls (last : UInt64) (calls : List RecorderCall) : List RecorderCall :=
  .framePlayed 0 :: .framePlayed (untilOf last calls) :: inferredAfter last (eventsOfCalls calls)

/-- What is inferred after an event of a take. -/
def inferredRest (last : UInt64) (event : InspectionEvent) (rest : List RecorderCall) : List RecorderCall :=
  stretchCalls (event.frameAfter + 1) (untilOf last rest) ++ inferredAfter last (eventsOfCalls rest)

lemma inferredAfter_inspection (last : UInt64) (event : InspectionEvent) (rest : List RecorderCall) :
    inferredAfter last (eventsOfCalls (.inspection event :: rest)) =
      .inspection event :: inferredRest last event rest := rfl

lemma playEvents_inferred (last : UInt64) (recorder : TraversalRecorder) (events : List InspectionEvent) :
    TraversalRecorder.playEvents last recorder events =
      (inferredAfter last events).foldl TraversalRecorder.call recorder := by
  induction events generalizing recorder with
  | nil => rfl
  | cons event rest ih =>
    have hstretch : ∀ (recorder : TraversalRecorder) resumed until',
        (stretchCalls resumed until').foldl TraversalRecorder.call recorder = recorder.playStretch resumed until' := by
      intro recorder resumed until'
      unfold stretchCalls TraversalRecorder.playStretch
      split <;> rfl
    rw [TraversalRecorder.playEvents,ih,inferredAfter,List.foldl_cons,List.foldl_append,hstretch]
    rfl

/-- The traversal of a take is that of a recorder that is told of what is inferred. -/
lemma traversalOfTake_inferred (framesTotal : UInt64) {consumed : UInt64} (h : consumed ≠ 0)
    (calls : List RecorderCall) :
    traversalOfTake framesTotal consumed (eventsOfCalls calls) =
      documentOf framesTotal (inferredCalls (consumed - 1) calls) := by
  rw [traversalOfTake,if_neg h,documentOf,inferredCalls,untilOf]
  cases eventsOfCalls calls with
  | nil => rfl
  | cons event events =>
    dsimp only
    rw [playEvents_inferred]
    rfl

lemma visitsOfCalls_inferred (last : UInt64) (calls : List RecorderCall) :
    visitsOfCalls (inferredCalls last calls) = visitsOfCalls calls := by
  have hevents : ∀ events, eventsOfCalls (inferredAfter last events) = events := by
    intro events
    induction events with
    | nil => rfl
    | cons event events ih =>
      have hstretch : ∀ resumed until', eventsOfCalls (stretchCalls resumed until') = [] := by
        intro resumed until'
        unfold stretchCalls
        split <;> rfl
      unfold eventsOfCalls at ih hstretch ⊢
      rw [inferredAfter,List.filterMap_cons,RecorderCall.event,List.filterMap_append,hstretch,ih]
      rfl
  exact congrArg (List.filter InspectionEvent.isVisit) (hevents (eventsOfCalls calls))

/-- The ends of the stretches of the visits. -/
def stretchEnds (calls : List RecorderCall) : List (Option (UInt64 × UInt64)) :=
  (framesOfVisits calls).map fun visit => endsOf visit.2

lemma stretchEnds_visit (h : event.isVisit = true) :
    stretchEnds (.inspection event :: rest) = endsOf (framesToVisit rest) :: stretchEnds rest := by
  rw [stretchEnds,framesOfVisits_visit h]
  rfl

lemma stretchEnds_interrupted (h : event.isVisit = false) :
    stretchEnds (.inspection event :: rest) = stretchEnds rest := by
  rw [stretchEnds,framesOfVisits_interrupted h]
  rfl

lemma framesToVisit_stretch (resumed until' : UInt64) (calls : List RecorderCall) :
    framesToVisit (stretchCalls resumed until' ++ calls) =
      if resumed ≤ until' then resumed :: until' :: framesToVisit calls else framesToVisit calls := by
  unfold stretchCalls
  split <;> rfl

lemma stretchEnds_rest (last : UInt64) (event : InspectionEvent) (rest : List RecorderCall) :
    stretchEnds (inferredRest last event rest) = stretchEnds (inferredAfter last (eventsOfCalls rest)) := by
  unfold inferredRest stretchCalls
  split <;> rfl

end Calls

section Orderly
variable {last : UInt64} {calls rest : List RecorderCall} {event next : InspectionEvent}

/-- Nothing is played after an interruption, and what happens then is a visit. -/
def Settles : RecorderCall → RecorderCall → Prop
  | .inspection event,call => event.isVisit = false → ∃ next, call = .inspection next ∧ next.isVisit = true
  | _,_ => True

/-- A take whose interruptions leave it where it is. -/
structure Orderly (last : UInt64) (calls : List RecorderCall) : Prop extends Sequential last calls where
  settles : calls.IsChain Settles
  still : ∀ event, .inspection event ∈ calls → event.isVisit = false → event.frameBefore = event.frameAfter

lemma Orderly.tail {first second : RecorderCall} (h : Orderly last (first :: second :: rest)) :
    Orderly last (second :: rest) where
  toSequential := h.toSequential.tail
  settles := (List.isChain_cons_cons.mp h.settles).2
  still event hevent := h.still event (List.mem_cons_of_mem _ hevent)

/-- An interruption is the last call, or a visit comes next. -/
lemma framesToVisit_settled (last : UInt64) (h : List.IsChain Settles (.inspection event :: rest))
    (hevent : event.isVisit = false) :
    framesToVisit rest = [] ∧ framesToVisit (inferredAfter last (eventsOfCalls rest)) = [] := by
  cases rest with
  | nil => exact ⟨rfl,rfl⟩
  | cons call rest =>
    obtain ⟨next,rfl,hnext⟩ := (List.isChain_cons_cons.mp h).1 hevent
    rw [inferredAfter_inspection]
    exact ⟨framesToVisit_visit hnext,framesToVisit_visit hnext⟩

/-- Where no frame is inferred after an event, none is inferred before the next one or at the end. -/
lemma Sequential.unresumed (h : Sequential last (.inspection event :: rest))
    (hquiet : framesToVisit (inferredRest last event rest) = []) :
    untilOf last rest ≤ event.frameAfter ∧ framesToVisit (inferredAfter last (eventsOfCalls rest)) = [] := by
  rw [inferredRest,framesToVisit_stretch] at hquiet
  split at hquiet
  · cases hquiet
  · rename_i hnone
    refine ⟨?_,hquiet⟩
    rw [UInt64.le_iff_toNat_le,toNat_succ (h.events event List.mem_cons_self)] at hnone
    rw [UInt64.le_iff_toNat_le]
    omega

/-- No frame is inferred between the calls of a take or at its end. -/
structure Gapless (last : UInt64) (calls : List RecorderCall) : Prop where
  between : calls.IsChain (StaysBetween last)
  ends : ∀ call ∈ calls.getLast?, EndsAt last call

lemma Gapless.cons {first second : RecorderCall} (h : Gapless last (second :: rest))
    (hstays : StaysBetween last first second) : Gapless last (first :: second :: rest) where
  between := .cons_cons hstays h.between
  ends := by
    rw [List.getLast?_cons_cons]
    exact h.ends

/-- What the stretches of a take say of the event that comes next: those of a visit are its own, and after an
interruption there is none. -/
lemma Orderly.ends_next (h : Orderly last (.inspection next :: rest))
    (hvisits : stretchEnds (.inspection next :: rest) = stretchEnds (.inspection next :: inferredRest last next rest))
    (hquiet : next.isVisit = false → framesToVisit (inferredRest last next rest) = []) :
    endsOf (framesToVisit rest) = endsOf (framesToVisit (inferredRest last next rest)) ∧
      stretchEnds rest = stretchEnds (inferredAfter last (eventsOfCalls rest)) := by
  rw [← stretchEnds_rest last next rest]
  cases hnext : next.isVisit with
  | true =>
    rw [stretchEnds_visit hnext,stretchEnds_visit hnext] at hvisits
    exact List.cons.inj hvisits
  | false =>
    rw [stretchEnds_interrupted hnext,stretchEnds_interrupted hnext] at hvisits
    rw [hquiet hnext,(framesToVisit_settled last h.settles hnext).1]
    exact ⟨rfl,hvisits⟩

/-- A take whose stretches are those that are inferred has no gap: of the stretch that is open only the last frame is
compared, and of each visit all its frames. -/
lemma gapless_of_ends (hlast : last.toNat + 1 < 2 ^ 64) (rest : List RecorderCall) :
    (∀ frame, Orderly last (.framePlayed frame :: rest) →
      (frame :: framesToVisit rest).getLast? =
        (untilOf last rest :: framesToVisit (inferredAfter last (eventsOfCalls rest))).getLast? →
      stretchEnds rest = stretchEnds (inferredAfter last (eventsOfCalls rest)) →
      Gapless last (.framePlayed frame :: rest)) ∧
    ∀ event, Orderly last (.inspection event :: rest) →
      endsOf (framesToVisit rest) = endsOf (framesToVisit (inferredRest last event rest)) →
      stretchEnds rest = stretchEnds (inferredAfter last (eventsOfCalls rest)) →
      Gapless last (.inspection event :: rest) := by
  induction rest with
  | nil =>
    constructor
    · intro frame h hplayed hvisits
      refine ⟨.singleton _,?_⟩
      rintro call ⟨⟩
      exact Option.some.inj hplayed
    · intro event h hends hvisits
      refine ⟨.singleton _,?_⟩
      rintro call ⟨⟩
      exact (h.toSequential.unresumed (endsOf_eq_none hends.symm)).1
  | cons call rest ih =>
    obtain ⟨hframes,hevents⟩ := ih
    constructor
    · intro frame h hplayed hvisits
      cases (List.isChain_cons_cons.mp h.adjoin).1 with
      | frames =>
        have hgapless := hframes (frame + 1) h.tail ?_ hvisits
        · exact hgapless.cons trivial
        · rw [framesToVisit,List.getLast?_cons_cons] at hplayed
          exact hplayed
      | stopped event =>
        have huntil : untilOf last (.inspection event :: rest) = event.frameBefore :=
          if_pos (h.frames _ List.mem_cons_self)
        have hquiet : event.isVisit = false → framesToVisit (inferredRest last event rest) = [] := by
          intro hevent
          obtain ⟨hnone,hinferred⟩ := framesToVisit_settled last h.tail.settles hevent
          rw [inferredAfter_inspection,framesToVisit_interrupted hevent,framesToVisit_interrupted hevent,hnone,huntil]
            at hplayed
          have hstill := h.still event (List.mem_cons_of_mem _ List.mem_cons_self) hevent
          have hroom := h.events event (List.mem_cons_of_mem _ List.mem_cons_self)
          rw [inferredRest,framesToVisit_stretch,hinferred] at hplayed ⊢
          split
          · rename_i hsome
            rw [if_pos hsome] at hplayed
            have hsame : event.frameBefore = untilOf last rest := Option.some.inj hplayed
            rw [← hsame,hstill,UInt64.le_iff_toNat_le,toNat_succ hroom] at hsome
            omega
          · rfl
        obtain ⟨hends,hlater⟩ := h.tail.ends_next hvisits hquiet
        exact (hevents event h.tail hends hlater).cons trivial
    · intro event h hends hvisits
      cases call with
      | framePlayed frame =>
        have hnext : frame = event.frameAfter + 1 := by
          cases (List.isChain_cons_cons.mp h.adjoin).1
          rfl
        subst hnext
        have hle : event.frameAfter + 1 ≤ untilOf last rest := h.tail.toSequential.le_until hlast
        have hgapless := hframes _ h.tail ?_ hvisits
        · exact hgapless.cons trivial
        · have hsame := congrArg (Option.map Prod.snd) hends
          rw [endsOf_last,endsOf_last,inferredRest,framesToVisit_stretch] at hsame
          have huntil : untilOf last (.framePlayed (event.frameAfter + 1) :: rest) = untilOf last rest := rfl
          rw [huntil,if_pos hle,List.getLast?_cons_cons] at hsame
          exact hsame
      | inspection next =>
        have hnone : framesToVisit (.inspection next :: rest) = [] := by
          cases hnext : next.isVisit with
          | true => exact framesToVisit_visit hnext
          | false =>
            rw [framesToVisit_interrupted hnext]
            exact (framesToVisit_settled last h.tail.settles hnext).1
        rw [hnone] at hends
        obtain ⟨hstays,hinferred⟩ := h.toSequential.unresumed (endsOf_eq_none hends.symm)
        have hquiet : next.isVisit = false → framesToVisit (inferredRest last next rest) = [] := by
          intro hnext
          rw [inferredAfter_inspection,framesToVisit_interrupted hnext] at hinferred
          exact hinferred
        obtain ⟨hends,hlater⟩ := h.tail.ends_next hvisits hquiet
        exact (hevents next h.tail hends hlater).cons hstays

end Orderly

section Documents
variable {calls : List RecorderCall}

/-- A traversal says of a take what another one does. -/
structure Agrees (rebuilt live : TraversalDocument) : Prop where
  segments : rebuilt.segments = live.segments
  resumeAfter : rebuilt.resumeAfter = live.resumeAfter
  visits : rebuilt.visits = live.visits
  kind : rebuilt.kind = live.kind
  linearCompleted : rebuilt.linearCompleted = live.linearCompleted

lemma agrees_of_eq {rebuilt live : TraversalDocument} (h : rebuilt = live) : Agrees rebuilt live :=
  h ▸ ⟨rfl,rfl,rfl,rfl,rfl⟩

lemma segmentsOf_ends (frames : List UInt64) :
    (segmentsOf frames).head?.map (fun segment => (segment.first,segment.last)) = endsOf frames := by
  unfold segmentsOf
  cases endsOf frames <;> rfl

lemma endsOf_of_segments {frames played : List UInt64} (h : segmentsOf frames = segmentsOf played) :
    endsOf frames = endsOf played := by
  rw [← segmentsOf_ends frames,← segmentsOf_ends played,h]

/-- Resumes that are the same are those of the same stretches, where each visit has its own sequence. -/
lemma ends_of_resumes {stretches played : List (UInt64 × List UInt64)}
    (hseqs : stretches.map Prod.fst = played.map Prod.fst) (hnodup : (stretches.map Prod.fst).Nodup)
    (h : stretches.flatMap resumeOfVisit = played.flatMap resumeOfVisit) :
    (stretches.map fun visit => endsOf visit.2) = played.map fun visit => endsOf visit.2 := by
  have hof : ∀ (visits : List (UInt64 × List UInt64)) {resume}, resume ∈ visits.flatMap resumeOfVisit →
      resume.seq ∈ visits.map Prod.fst := by
    intro visits resume hresume
    obtain ⟨visit,hvisit,hin⟩ := List.mem_flatMap.mp hresume
    exact List.mem_map.mpr ⟨visit,hvisit,(seq_of_mem_resumeOfVisit hin).symm⟩
  induction stretches generalizing played with
  | nil =>
    cases played with
    | nil => rfl
    | cons visit played => cases hseqs
  | cons visit stretches ih =>
    cases played with
    | nil => cases hseqs
    | cons other played =>
      obtain ⟨seq,frames⟩ := visit
      obtain ⟨seq',frames'⟩ := other
      obtain ⟨rfl,hrest⟩ := List.cons.inj hseqs
      obtain ⟨hfresh,hnodup⟩ := List.nodup_cons.mp hnodup
      rw [List.flatMap_cons,List.flatMap_cons] at h
      rw [List.map_cons,List.map_cons]
      cases hframes : endsOf frames with
      | none =>
        cases hframes' : endsOf frames' with
        | none =>
          rw [resumeOfVisit_none hframes,resumeOfVisit_none hframes'] at h
          rw [ih hrest hnodup h]
        | some ends =>
          rw [resumeOfVisit_none hframes,resumeOfVisit_some hframes',List.nil_append,List.singleton_append] at h
          have hin := hof stretches (h ▸ List.mem_cons_self)
          exact absurd hin hfresh
      | some ends =>
        cases hframes' : endsOf frames' with
        | none =>
          rw [resumeOfVisit_some hframes,resumeOfVisit_none hframes',List.nil_append,List.singleton_append] at h
          have hin := hof played (h ▸ List.mem_cons_self)
          exact absurd (hrest ▸ hin) hfresh
        | some ends' =>
          rw [resumeOfVisit_some hframes,resumeOfVisit_some hframes'] at h
          obtain ⟨hresume,hlater⟩ := List.cons.inj h
          obtain ⟨first,second⟩ := ends
          obtain ⟨first',second'⟩ := ends'
          cases hresume
          rw [ih hrest hnodup hlater]

/-- A take that is rebuilt as it was recorded live has no inferred frame that was not played, where there was room for
its visits and each has its own sequence. -/
lemma inferable_of_agrees {framesTotal consumed : UInt64} (hsome : consumed ≠ 0)
    (hbegun : ∀ frame, calls.head? = some (.framePlayed frame) → frame = 0 ∧ Orderly (consumed - 1) calls)
    (hsettles : calls.IsChain Settles) (hroom : (visitsOfCalls calls).length ≤ maxTraversalVisits)
    (hseqs : ((visitsOfCalls calls).map InspectionEvent.seq).Nodup)
    (h : Agrees (traversalOfTake framesTotal consumed (eventsOfCalls calls)) (documentOf framesTotal calls)) :
    Inferable (consumed - 1) calls := by
  have hsame := visitsOfCalls_inferred (consumed - 1) calls
  have hlive := documentOf_stretches framesTotal calls hroom hseqs
  have hinferred := documentOf_stretches framesTotal (inferredCalls (consumed - 1) calls) (hsame.symm ▸ hroom)
    (hsame.symm ▸ hseqs)
  rw [traversalOfTake_inferred framesTotal hsome] at h
  have hends := endsOf_of_segments (hinferred.1.symm.trans (h.segments.trans hlive.1))
  have hresumes := hinferred.2.symm.trans (h.resumeAfter.trans hlive.2)
  have hvisits : stretchEnds (inferredCalls (consumed - 1) calls) = stretchEnds calls := by
    refine ends_of_resumes ?_ ?_ hresumes
    · rw [framesOfVisits_seqs,framesOfVisits_seqs,hsame]
    · rw [framesOfVisits_seqs,hsame]
      exact hseqs
  cases calls with
  | nil => cases hends
  | cons call rest =>
    cases call with
    | inspection event =>
      have hnone : framesToVisit (.inspection event :: rest) = [] := by
        cases hevent : event.isVisit with
        | true => exact framesToVisit_visit hevent
        | false =>
          rw [framesToVisit_interrupted hevent]
          exact (framesToVisit_settled (consumed - 1) hsettles hevent).1
      rw [hnone] at hends
      cases hends
    | framePlayed frame =>
      obtain ⟨rfl,horderly⟩ := hbegun frame rfl
      have hlast : (consumed - 1).toNat + 1 < 2 ^ 64 := toNat_pred hsome ▸ consumed.toNat_lt
      have hplayed := congrArg (Option.map Prod.snd) hends
      rw [endsOf_last,endsOf_last] at hplayed
      have hgapless := (gapless_of_ends hlast rest).1 0 horderly ?_ hvisits.symm
      · exact ⟨⟨0,rfl⟩,hgapless.between,hgapless.ends⟩
      · rw [inferredCalls,framesToVisit,framesToVisit,List.getLast?_cons_cons] at hplayed
        exact hplayed.symm

end Documents

section Told
variable {length consumed : ℕ} {reports : List Report} {calls : List RecorderCall}

lemma settles_told (first second : Report) (call next : RecorderCall) (h : first.Settles second)
    (hfirst : first.Told call) (hsecond : second.Told next) : Settles call next := by
  cases call with
  | framePlayed frame => trivial
  | inspection inspected =>
    intro hvisit
    cases first with
    | played frame => exact hfirst.elim
    | finished n => exact hfirst.elim
    | event control before after =>
      have hcontrol : inspected.control = "interrupted" := by simpa [InspectionEvent.isVisit] using hvisit
      obtain ⟨control',before',after',rfl,hother⟩ := h (hfirst.1.symm.trans hcontrol)
      cases next with
      | framePlayed frame => exact hsecond.elim
      | inspection inspected' =>
        have hvisit' : inspected'.isVisit = true := by
          rw [InspectionEvent.isVisit,hsecond.1]
          simpa using hother
        exact ⟨inspected',rfl,hvisit'⟩

/-- A take that was closed and that is rebuilt as it was recorded live has no inferred frame that was not played. -/
lemma Sealed.inferable (h : Sealed length consumed reports) (hlength : length < 2 ^ 64)
    (htold : List.Forall₂ Report.Told reports calls) (framesTotal : UInt64) (hsome : consumed ≠ 0)
    (hroom : (visitsOfCalls calls).length ≤ maxTraversalVisits)
    (hseqs : ((visitsOfCalls calls).map InspectionEvent.seq).Nodup)
    (hagrees : Agrees (traversalOfTake framesTotal (.ofNat consumed) (eventsOfCalls calls))
      (documentOf framesTotal calls)) : Inferable (.ofNat consumed - 1) calls := by
  obtain ⟨hbegun,hframes,hevents⟩ := h.told hlength htold
  have hconsumed : UInt64.ofNat consumed ≠ 0 := by
    intro hzero
    have hnat := congrArg UInt64.toNat hzero
    rw [UInt64.toNat_ofNat_of_lt' (lt_of_le_of_lt h.within hlength)] at hnat
    exact hsome hnat
  have hsettles := told_chain settles_told htold h.settles
  refine inferable_of_agrees hconsumed (fun frame hhead => ?_) hsettles hroom hseqs hagrees
  obtain ⟨hzero,hadjoin⟩ := hbegun frame hhead
  refine ⟨hzero,⟨hadjoin,fun frame hframe => ?_,hevents⟩,hsettles,fun event hevent hvisit => ?_⟩
  · have hlt := UInt64.lt_iff_toNat_lt.mp (hframes frame hframe)
    have hlast := toNat_pred hconsumed
    rw [UInt64.le_iff_toNat_le]
    omega
  · obtain ⟨report,hin,htells⟩ := told_mem htold hevent
    cases report with
    | played frame => exact htells.elim
    | finished n => exact htells.elim
    | event control before after =>
      have hcontrol : event.control = "interrupted" := by simpa [InspectionEvent.isVisit] using hvisit
      obtain rfl : control = "interrupted" := htells.1.symm.trans hcontrol
      rw [htells.2.1,htells.2.2,h.still before after hin]

end Told

section Runs
variable {σ : Type}

/-- In every run of the inspection loop that closes its take, the traversal that is rebuilt of the inputs consumed and
of the events agrees with a recorder that is told of each frame and of each event live, if no frame is inferred where
none was played; where each visit has its own sequence and there was room for it, only then. Of the inspection after a
confirmed take it never does. -/
theorem traversal_agrees_iff (step : σ → UInt16 → σ) (buttons : List UInt16) (hlength : buttons.length < 2 ^ 64)
    (init : σ) (lastTake inspectable : Bool) (interval budget size : ℕ) (actions : List (LoopAction σ))
    (s : SessionLoop σ)
    (hrun : Machine.Steps (SessionLoop.next step buttons)
      (SessionLoop.start init buttons.length lastTake inspectable interval budget size) actions s)
    (front back : List Report) (n : ℕ) (hreports : s.reports = front ++ .finished n :: back)
    (take later : List RecorderCall) (htake : List.Forall₂ Report.Told front take)
    (hlater : List.Forall₂ Report.Told back later) :
    ((n ≠ 0 → Inferable (.ofNat n - 1) take) →
      Agrees (traversalOfTake (.ofNat buttons.length) (.ofNat n) (eventsOfCalls take))
        (documentOf (.ofNat buttons.length) take)) ∧
    (((visitsOfCalls take).map InspectionEvent.seq).Nodup → (visitsOfCalls take).length ≤ maxTraversalVisits →
      Agrees (traversalOfTake (.ofNat buttons.length) (.ofNat n) (eventsOfCalls take))
        (documentOf (.ofNat buttons.length) take) →
      n ≠ 0 → Inferable (.ofNat n - 1) take) ∧
    (s.confirmedLinear = true →
      ¬Agrees (traversalOfTake (.ofNat buttons.length) (.ofNat n) (eventsOfCalls later))
        (documentOf (.ofNat buttons.length) later)) := by
  obtain ⟨taken,hclosed⟩ := closed_reports step init lastTake inspectable interval budget size hrun hreports
  refine ⟨fun hinferable => agrees_of_eq (taken.rebuilt hlength htake _ hinferable),fun hseqs hroom hagrees hsome =>
    taken.inferable hlength htake _ hsome hroom hseqs hagrees,fun hconfirmed hagrees => ?_⟩
  obtain ⟨hsome,hquiet⟩ := hclosed hconfirmed
  exact inspection_segments_ne taken hlength hsome hquiet hlater _ hagrees.segments

/-- A take that is inspected: a step back from its second frame, which is then played again, and its end. -/
def inspectedTake : List RecorderCall :=
  [.framePlayed 0,.framePlayed 1,.inspection ⟨1,"pause",1,1,0,0⟩,.inspection ⟨2,"step_back",1,0,0,0⟩,
    .inspection ⟨3,"resume",0,0,0,0⟩,.framePlayed 1,.framePlayed 2]

theorem inspectedTake_agrees : ∃ s,
    Machine.Steps (SessionLoop.next record [5,6,7]) threeFrames
      [playsFrame 0,playsFrame 1,.key .toggle,.key .left,
        .recover { first := ⟨.accepted,steppedFrames false⟩, second := ⟨.accepted,steppedFrames false⟩ },.key .toggle,
        playsFrame 1,playsFrame 2,.key .info] s ∧
    Agrees (traversalOfTake 3 3 (eventsOfCalls inspectedTake)) (documentOf 3 inspectedTake) ∧
    (3 ≠ 0 → Inferable 2 inspectedTake) ∧
    ¬Agrees (traversalOfTake 3 3 [⟨4,"overlay_toggle",2,2,0,0⟩])
      (documentOf 3 [.inspection ⟨4,"overlay_toggle",2,2,0,0⟩]) := by
  have hrun : Machine.Steps (SessionLoop.next record [5,6,7]) threeFrames
      [playsFrame 0,playsFrame 1,.key .toggle,.key .left,
        .recover { first := ⟨.accepted,steppedFrames false⟩, second := ⟨.accepted,steppedFrames false⟩ },.key .toggle,
        playsFrame 1,playsFrame 2,.key .info] _ :=
    .next rfl (.next rfl (.next rfl (.next rfl (.next rfl (.next rfl (.next rfl (.next rfl (.next rfl (.done _)))))))))
  have hagrees := traversal_agrees_iff record [5,6,7] (by decide) [] true true 1 64 8 _ _ hrun
    [.played 0,.played 1,.event "pause" 1 1,.event "step_back" 1 0,.event "resume" 0 0,.played 1,.played 2]
    [.event "overlay_toggle" 2 2] 3 rfl inspectedTake [.inspection ⟨4,"overlay_toggle",2,2,0,0⟩]
    (.cons rfl (.cons rfl (.cons ⟨rfl,rfl,rfl⟩ (.cons ⟨rfl,rfl,rfl⟩ (.cons ⟨rfl,rfl,rfl⟩ (.cons rfl
      (.cons rfl .nil)))))))
    (.cons ⟨rfl,rfl,rfl⟩ .nil)
  have hinferable : Inferable 2 inspectedTake := by
    refine ⟨⟨0,rfl⟩,?_,?_⟩
    · have hpaused : min (1 : UInt64) 2 ≤ 1 := by decide
      have hresumed : min (0 : UInt64) 2 ≤ 0 := by decide
      exact .cons_cons trivial (.cons_cons trivial (.cons_cons hpaused (.cons_cons hresumed (.cons_cons trivial
        (.cons_cons trivial (.singleton _))))))
    · rintro call ⟨⟩
      rfl
  have htold := hagrees.1 fun _ => hinferable
  exact ⟨_,hrun,htold,hagrees.2.1 (by decide) (by decide) htold,hagrees.2.2 rfl⟩

/-- A take that is cancelled after a step back from its last frame. -/
def cancelledTake : List RecorderCall :=
  [.framePlayed 0,.framePlayed 1,.inspection ⟨1,"pause",1,1,0,0⟩,.inspection ⟨2,"step_back",1,0,0,0⟩]

/-- A stretch is inferred after the step back, and nothing was played there. -/
theorem cancelledTake_invents : ∃ s,
    Machine.Steps (SessionLoop.next record [5,6,7]) threeFrames
      [playsFrame 0,playsFrame 1,.key .toggle,.key .left,
        .recover { first := ⟨.accepted,steppedFrames false⟩, second := ⟨.accepted,steppedFrames false⟩ },.cancel] s ∧
    s.reports = [.played 0,.played 1,.event "pause" 1 1,.event "step_back" 1 0,.finished 2] ∧
    (traversalOfTake 3 2 (eventsOfCalls cancelledTake)).resumeAfter = [⟨2,1,1,"continued"⟩] ∧
    ¬Agrees (traversalOfTake 3 2 (eventsOfCalls cancelledTake)) (documentOf 3 cancelledTake) := by
  refine ⟨_,.next rfl (.next rfl (.next rfl (.next rfl (.next rfl (.next rfl (.done _)))))),by decide,by decide,?_⟩
  exact fun hagrees => absurd hagrees.resumeAfter (by decide)

end Runs
end AytherRuntime.Inspection
