import AytherRuntime.Audio.Streamed
import AytherRuntime.Inspection.LiveRecorder
import AytherRuntime.Library.Ranges

/-! The audio segments of a take: the Runtime opens one at each resume and numbers the PCM by them, and the supervisor
finds them again in the stretches of the traversal. -/
namespace AytherRuntime.Inspection
open Audio (AudioChunk BlockOf PcmEvent PcmInput PcmLibrary PcmSegmentInterval PcmView inputOf segmentAt streamedBlocks)
open Ranges (Covering firsts lasts)

section Take

/-- What a take consists of, in its order: the frames of playback, the inspection events, and the PCM at the gate and
behind it. -/
inductive TakeItem
  | played (frame : UInt64)
  | inspection (event : InspectionEvent)
  | silent (silent : Bool)
  | received (view : PcmView)
  | consumed
  | flushed
  deriving DecidableEq

def TakeItem.event : TakeItem → Option InspectionEvent
  | .inspection event => some event
  | _ => none

/-- The session begins a segment with each resume. -/
def TakeItem.pcmEvents : TakeItem → List PcmEvent
  | .played _ => []
  | .inspection event => if event.control = "resume" then [.beginSegment] else []
  | .silent now => [.setSilent now]
  | .received view => [.receivePcm view]
  | .consumed => [.consumePcm]
  | .flushed => [.flush]

def eventsOf (take : List TakeItem) : List InspectionEvent := take.filterMap TakeItem.event

def pcmEventsOf (take : List TakeItem) : List PcmEvent := take.flatMap TakeItem.pcmEvents

/-- A recorder that is told of a take as it happens. -/
def TraversalRecorder.hear (recorder : TraversalRecorder) : TakeItem → TraversalRecorder
  | .played frame => recorder.framePlayed frame
  | .inspection event => recorder.inspection event
  | _ => recorder

def liveTraversal (framesTotal : UInt64) (take : List TakeItem) : TraversalDocument :=
  (take.foldl TraversalRecorder.hear (.new framesTotal)).recorded

def visitsOf (take : List TakeItem) : List InspectionEvent := (eventsOf take).filter InspectionEvent.isVisit

/-- The document of a take keeps each of its resumes. -/
def ResumesKept (take : List TakeItem) : Prop :=
  ∀ event ∈ (visitsOf take).drop maxTraversalVisits, event.control ≠ "resume"

end Take

section Segments

/-- The segment after an event, from the one before it. -/
def InspectionEvent.segmentAfter (segment : ℕ) (event : InspectionEvent) : ℕ :=
  if event.control = "resume" then segment + 1 else segment

/-- The frames between two visits that are kept, with the segment in which they are played. -/
def stretchesFrom (room segment : ℕ) (current : Option (UInt64 × UInt64)) :
    List TakeItem → List (ℕ × UInt64 × UInt64)
  | [] => (current.map fun frames => (segment,frames)).toList
  | .played frame :: rest => stretchesFrom room segment (some ((current.map Prod.fst).getD frame,frame)) rest
  | .inspection event :: rest =>
    if event.isVisit = false ∨ room = 0 then stretchesFrom room segment current rest
    else (current.map fun frames => (segment,frames)).toList ++
      stretchesFrom (room - 1) (event.segmentAfter segment) none rest
  | .silent _ :: rest | .received _ :: rest | .consumed :: rest | .flushed :: rest =>
    stretchesFrom room segment current rest

/-- The stretches of a take, each numbered by the resumes that precede it. -/
def stretches (take : List TakeItem) : List (ℕ × UInt64 × UInt64) := stretchesFrom maxTraversalVisits 0 none take

/-- The segments in which frames are played. -/
def playedSegments (segment : ℕ) : List TakeItem → List ℕ
  | [] => []
  | .played _ :: rest => segment :: playedSegments segment rest
  | .inspection event :: rest => playedSegments (event.segmentAfter segment) rest
  | .silent _ :: rest | .received _ :: rest | .consumed :: rest | .flushed :: rest => playedSegments segment rest

/-- The views that pass the gate, each numbered by the resumes that precede it. -/
def receivedFrom (silent : Bool) (segment : ℕ) : List TakeItem → List (ℕ × PcmView)
  | [] => []
  | .silent silent :: rest => receivedFrom silent segment rest
  | .received view :: rest =>
    if silent then receivedFrom silent segment rest else (segment,view) :: receivedFrom silent segment rest
  | .inspection event :: rest => receivedFrom silent (event.segmentAfter segment) rest
  | .played _ :: rest | .consumed :: rest | .flushed :: rest => receivedFrom silent segment rest

/-- The stretches of a document with the segments that the supervisor gives them. -/
def attributedStretches (traversal : TraversalDocument) (events : List InspectionEvent) :
    List (UInt64 × UInt64 × UInt64) :=
  let resumes := (events.filter fun event => event.control = "resume").map InspectionEvent.seq
  traversal.segments.map (fun segment => (0,segment.first,segment.last)) ++
    traversal.resumeAfter.map fun resume => (resumeSegment resumes resume.seq,resume.fromFrame,resume.last)

end Segments

section Numbers
variable {resumes : List UInt64} {seq : UInt64}

/-- How many resumes there are up to an event. -/
def resumeNumber (resumes : List UInt64) (seq : UInt64) : ℕ :=
  ((resumes.mergeSort (· ≤ ·)).takeWhile (· ≤ seq)).length

def resumesOf (events : List InspectionEvent) : List UInt64 :=
  (events.filter fun event => event.control = "resume").map InspectionEvent.seq

/-- The events of a take are numbered upwards. -/
def Ordered (events : List InspectionEvent) : Prop := events.Pairwise fun a b => a.seq < b.seq

/-- Each event has the number of the resumes up to it, from a number on. -/
def SegmentNumbered (number : UInt64 → ℕ) : ℕ → List InspectionEvent → Prop
  | _, [] => True
  | segment, event :: rest =>
    number event.seq = event.segmentAfter segment ∧ SegmentNumbered number (event.segmentAfter segment) rest

lemma resumesOf_snoc (events : List InspectionEvent) (event : InspectionEvent) :
    (resumesOf (events ++ [event])).length = event.segmentAfter (resumesOf events).length := by
  unfold resumesOf InspectionEvent.segmentAfter
  rw [List.filter_append]
  by_cases hresume : event.control = "resume" <;> simp [hresume]

/-- The resumes up to an event are those before it in the take, and itself. -/
lemma resumeNumber_eq {before after : List InspectionEvent} {event : InspectionEvent}
    (h : Ordered (before ++ event :: after)) :
    resumeNumber (resumesOf (before ++ event :: after)) event.seq = (resumesOf (before ++ [event])).length := by
  have hsplit : before ++ event :: after = (before ++ [event]) ++ after := by simp
  have hsorted : (resumesOf (before ++ event :: after)).Pairwise fun a b => decide (a ≤ b) = true := by
    unfold resumesOf
    rw [List.pairwise_map]
    refine (h.filter _).imp ?_
    intro a b hlt
    exact decide_eq_true (UInt64.le_of_lt hlt)
  have hparts : resumesOf (before ++ event :: after) = resumesOf (before ++ [event]) ++ resumesOf after := by
    rw [hsplit]
    unfold resumesOf
    rw [List.filter_append,List.map_append]
  obtain ⟨hbefore,hcons,hcross⟩ := List.pairwise_append.mp h
  obtain ⟨hafter,-⟩ := List.pairwise_cons.mp hcons
  unfold resumeNumber
  rw [List.mergeSort_of_pairwise hsorted,hparts,List.takeWhile_append_of_pos]
  · have hnone : (resumesOf after).takeWhile (fun seq => decide (seq ≤ event.seq)) = [] := by
      cases hresumes : resumesOf after with
      | nil => rfl
      | cons seq later =>
        have hmem : seq ∈ resumesOf after := by rw [hresumes]; exact List.mem_cons_self
        obtain ⟨next,hnext,rfl⟩ := List.mem_map.mp hmem
        have hlt := hafter next (List.mem_of_mem_filter hnext)
        exact List.takeWhile_cons_of_neg (by simpa using hlt)
    rw [hnone,List.append_nil]
  · intro seq hseq
    obtain ⟨previous,hprevious,rfl⟩ := List.mem_map.mp hseq
    apply decide_eq_true
    rcases List.mem_append.mp (List.mem_of_mem_filter hprevious) with hold | hself
    · exact UInt64.le_of_lt (hcross previous hold event List.mem_cons_self)
    · rw [List.mem_singleton.mp hself]
      exact UInt64.le_refl _

lemma numbered_of_ordered {before after : List InspectionEvent} (h : Ordered (before ++ after)) :
    SegmentNumbered (resumeNumber (resumesOf (before ++ after))) (resumesOf before).length after := by
  induction after generalizing before with
  | nil => trivial
  | cons event after ih =>
    refine ⟨?_,?_⟩
    · rw [resumeNumber_eq h,resumesOf_snoc]
    · rw [← resumesOf_snoc]
      have hmore : before ++ event :: after = (before ++ [event]) ++ after := by simp
      rw [hmore] at h ⊢
      exact ih h

end Numbers

section Recorder
variable {number : UInt64 → ℕ} {recorder : TraversalRecorder} {room segment : ℕ} {closed : List (ℕ × UInt64 × UInt64)}
  {current : Option (UInt64 × UInt64)} {event : InspectionEvent}

/-- The stretches of a document, each with the number of its visit. -/
def numberedStretches (number : UInt64 → ℕ) (traversal : TraversalDocument) : List (ℕ × UInt64 × UInt64) :=
  traversal.segments.map (fun segment => (0,segment.first,segment.last)) ++
    traversal.resumeAfter.map fun resume => (number resume.seq,resume.fromFrame,resume.last)

/-- What a recorder is at: before its first visit, or behind its last one, with the frames played since. -/
inductive At (number : UInt64 → ℕ) (recorder : TraversalRecorder) (segment : ℕ)
    (closed : List (ℕ × UInt64 × UInt64)) (current : Option (UInt64 × UInt64)) : Prop
  | linear (before : recorder.afterVisit = false) (start : segment = 0) (none : closed = [])
      (resumes : recorder.document.resumeAfter = [])
      (segments : recorder.document.segments =
        (current.map fun frames => (⟨frames.1,frames.2,"linear"⟩ : TraversalSegment)).toList)
  | visited (visit : TraversalVisit) (after : recorder.afterVisit = true)
      (last : recorder.document.visits.getLast? = some visit) (counted : number visit.seq = segment)
      (fresh : current = none → ∀ resume ∈ recorder.document.resumeAfter, resume.seq ≠ visit.seq)
      (playing : ∀ frames, current = some frames → ∃ earlier,
        recorder.document.resumeAfter = earlier ++ [⟨visit.seq,frames.1,frames.2,"continued"⟩])

/-- A recorder tells of the stretches that are closed and of the current one. -/
structure Tells (number : UInt64 → ℕ) (recorder : TraversalRecorder) (room segment : ℕ)
    (closed : List (ℕ × UInt64 × UInt64)) (current : Option (UInt64 × UInt64)) : Prop where
  kept : recorder.document.visits.length + room = maxTraversalVisits
  exceeded : recorder.visitLimitExceeded = true → room = 0
  known : ∀ resume ∈ recorder.document.resumeAfter, ∃ visit ∈ recorder.document.visits, visit.seq = resume.seq
  told : numberedStretches number recorder.document =
    closed ++ (current.map fun frames => (segment,frames)).toList
  place : At number recorder segment closed current

lemma tells_new (number : UInt64 → ℕ) (framesTotal : UInt64) :
    Tells number (.new framesTotal) maxTraversalVisits 0 [] none :=
  ⟨Nat.zero_add _,(fun h => nomatch h),(fun _ h => nomatch h),rfl,.linear rfl rfl rfl rfl rfl⟩

lemma Tells.played (h : Tells number recorder room segment closed current) (frame : UInt64) :
    Tells number (recorder.framePlayed frame) room segment closed
      (some ((current.map Prod.fst).getD frame,frame)) := by
  obtain ⟨hroom,hexceeded,hknown,hstretches,hat⟩ := h
  cases hat with
  | linear hvisit hsegment hclosed hresumes hsegments =>
    subst hsegment hclosed
    have hplayed : recorder.framePlayed frame = { recorder with
        lastFrame := some frame
        document := { recorder.document with
          segments := [⟨(current.map Prod.fst).getD frame,frame,"linear"⟩] } } := by
      rw [framePlayed_before hvisit,hsegments]
      cases current <;> rfl
    rw [hplayed]
    refine ⟨hroom,hexceeded,hknown,?_,.linear hvisit rfl rfl hresumes rfl⟩
    simp [numberedStretches,hresumes]
  | visited visit hafter hlast hnumber hfresh hplaying =>
    cases current with
    | none =>
      have hnew : recorder.document.resumeAfter.getLast?.map TraversalResume.seq ≠ some visit.seq := by
        intro hsame
        obtain ⟨resume,hresume,hseq⟩ := Option.map_eq_some_iff.mp hsame
        exact hfresh rfl resume (List.mem_of_getLast? hresume) hseq
      have hplayed : recorder.framePlayed frame = { recorder with
          lastFrame := some frame
          document := { recorder.document with
            resumeAfter := recorder.document.resumeAfter ++ [⟨visit.seq,frame,frame,"continued"⟩] } } := by
        rw [framePlayed_after hafter hlast,if_neg hnew]
      rw [hplayed]
      refine ⟨hroom,hexceeded,?_,?_,?_⟩
      · intro resume hresume
        rcases List.mem_append.mp hresume with hold | hlatest
        · exact hknown resume hold
        · rw [List.mem_singleton.mp hlatest]
          exact ⟨visit,List.mem_of_getLast? hlast,rfl⟩
      · have hclosed : numberedStretches number recorder.document = closed := by simpa using hstretches
        rw [← hclosed,← hnumber]
        simp [numberedStretches]
      · refine .visited visit hafter hlast hnumber (fun hnone => nomatch hnone) ?_
        rintro _ ⟨⟩
        exact ⟨_,rfl⟩
    | some frames =>
      obtain ⟨earlier,hresumes⟩ := hplaying frames rfl
      have hplayed : recorder.framePlayed frame = { recorder with
          lastFrame := some frame
          document := { recorder.document with
            resumeAfter := earlier ++ [⟨visit.seq,frames.1,frame,"continued"⟩] } } := by
        rw [framePlayed_after hafter hlast,hresumes,if_pos (by simp),changeLast_append]
      rw [hplayed]
      refine ⟨hroom,hexceeded,?_,?_,?_⟩
      · intro resume hresume
        rcases List.mem_append.mp hresume with hold | hlatest
        · exact hknown resume (hresumes ▸ List.mem_append_left _ hold)
        · rw [List.mem_singleton.mp hlatest]
          exact ⟨visit,List.mem_of_getLast? hlast,rfl⟩
      · have hfront : recorder.document.segments.map (fun segment => ((0 : ℕ),segment.first,segment.last)) ++
            earlier.map (fun resume => (number resume.seq,resume.fromFrame,resume.last)) = closed := by
          rw [numberedStretches,hresumes,List.map_append,← List.append_assoc] at hstretches
          exact List.append_inj_left' hstretches rfl
        rw [← hfront,← hnumber]
        simp [numberedStretches]
      · refine .visited visit hafter hlast hnumber (fun hnone => nomatch hnone) ?_
        rintro _ ⟨⟩
        exact ⟨earlier,rfl⟩

/-- A visit that is kept closes the current stretch. -/
lemma Tells.visited (h : Tells number recorder (room + 1) segment closed current) (hvisit : event.isVisit = true)
    (hlater : ∀ visit ∈ recorder.document.visits, visit.seq < event.seq) :
    Tells number (recorder.inspection event) room (number event.seq)
      (closed ++ (current.map fun frames => (segment,frames)).toList) none := by
  obtain ⟨hkept,hexceeded,hknown,htold,-⟩ := h
  have hwithin : recorder.visitLimitExceeded ≠ true := fun hfull => Nat.succ_ne_zero room (hexceeded hfull)
  have hroom : ¬(recorder.visitLimitExceeded = true ∨ maxTraversalVisits ≤ recorder.document.visits.length) := by
    rintro (hfull | hfull)
    · exact hwithin hfull
    · omega
  rw [inspection_kept hvisit hroom]
  refine ⟨?_,fun hfull => absurd hfull hwithin,?_,?_,?_⟩
  · dsimp only
    rw [List.length_append,List.length_singleton]
    omega
  · intro resume hresume
    obtain ⟨visit,hmem,hseq⟩ := hknown resume hresume
    exact ⟨visit,List.mem_append_left _ hmem,hseq⟩
  · rw [Option.map_none,Option.toList_none,List.append_nil,← htold]
    rfl
  · refine .visited event.visitOf rfl List.getLast?_concat rfl (fun _ resume hresume hseq => ?_)
      (fun _ hnone => nomatch hnone)
    obtain ⟨visit,hmem,hsame⟩ := hknown resume hresume
    have hlt := hlater visit hmem
    rw [hsame,hseq] at hlt
    exact UInt64.lt_irrefl _ hlt

/-- An interruption, and a visit that is not kept, leave the stretches as they are. -/
lemma Tells.unheard (h : Tells number recorder room segment closed current)
    (hevent : event.isVisit = false ∨ room = 0) :
    Tells number (recorder.inspection event) room segment closed current := by
  cases hvisit : event.isVisit with
  | false =>
    rw [inspection_interrupted hvisit]
    refine ⟨h.kept,h.exceeded,h.known,h.told,?_⟩
    cases h.place with
    | linear hbefore hstart hnone hresumes hsegments => exact .linear hbefore hstart hnone hresumes hsegments
    | visited visit hafter hlast hcounted hfresh hplaying => exact .visited visit hafter hlast hcounted hfresh hplaying
  | true =>
    have hnoroom : room = 0 := hevent.resolve_left (by simp [hvisit])
    have hkept := h.kept
    rw [inspection_dropped hvisit (Or.inr (by omega))]
    refine ⟨h.kept,fun _ => hnoroom,h.known,h.told,?_⟩
    cases h.place with
    | linear hbefore hstart hnone hresumes hsegments => exact .linear hbefore hstart hnone hresumes hsegments
    | visited visit hafter hlast hcounted hfresh hplaying => exact .visited visit hafter hlast hcounted hfresh hplaying

lemma hear_visits (recorder : TraversalRecorder) (event : InspectionEvent) :
    ∀ visit ∈ (recorder.inspection event).document.visits,
      visit ∈ recorder.document.visits ∨ visit.seq = event.seq := by
  intro visit hvisit
  cases hevent : event.isVisit with
  | false =>
    rw [inspection_interrupted hevent] at hvisit
    exact Or.inl hvisit
  | true =>
    by_cases hfull : recorder.visitLimitExceeded = true ∨ maxTraversalVisits ≤ recorder.document.visits.length
    · rw [inspection_dropped hevent hfull] at hvisit
      exact Or.inl hvisit
    · rw [inspection_kept hevent hfull] at hvisit
      refine (List.mem_append.mp hvisit).imp id fun hlast => ?_
      rw [List.mem_singleton.mp hlast]
      rfl

lemma isVisit_of_resume (h : event.control = "resume") : event.isVisit = true := by
  rw [InspectionEvent.isVisit,h]
  decide

lemma visitsOf_inspection (event : InspectionEvent) (rest : List TakeItem) :
    visitsOf (.inspection event :: rest) = if event.isVisit then event :: visitsOf rest else visitsOf rest :=
  List.filter_cons

/-- An event that is not kept is no resume. -/
lemma unheard_segment {rest : List TakeItem} (segment : ℕ)
    (hresumes : ∀ other ∈ (visitsOf (.inspection event :: rest)).drop room, other.control ≠ "resume")
    (hevent : event.isVisit = false ∨ room = 0) :
    event.segmentAfter segment = segment ∧ ∀ other ∈ (visitsOf rest).drop room, other.control ≠ "resume" := by
  rw [visitsOf_inspection] at hresumes
  constructor
  · refine if_neg fun hresume => ?_
    have hvisit := isVisit_of_resume hresume
    rw [if_pos hvisit,hevent.resolve_left (by simp [hvisit])] at hresumes
    exact hresumes event List.mem_cons_self hresume
  · intro other hother
    apply hresumes other
    split_ifs with hvisit
    · rw [hevent.resolve_left (by simp [hvisit])] at hother ⊢
      exact List.mem_cons_of_mem _ hother
    · exact hother

/-- Any other event takes room. -/
lemma heard_room {rest : List TakeItem}
    (hresumes : ∀ other ∈ (visitsOf (.inspection event :: rest)).drop room, other.control ≠ "resume")
    (hevent : ¬(event.isVisit = false ∨ room = 0)) :
    ∃ more, room = more + 1 ∧ event.isVisit = true ∧ ∀ other ∈ (visitsOf rest).drop more, other.control ≠ "resume" := by
  obtain ⟨hvisit,hroom⟩ := not_or.mp hevent
  rw [Bool.not_eq_false] at hvisit
  obtain ⟨more,rfl⟩ := Nat.exists_eq_succ_of_ne_zero hroom
  rw [visitsOf_inspection,if_pos hvisit] at hresumes
  exact ⟨more,rfl,hvisit,hresumes⟩

/-- What a recorder tells after the rest of a take: its stretches, in the numbers of their visits. -/
lemma Tells.take {rest : List TakeItem} (h : Tells number recorder room segment closed current)
    (hnumbered : SegmentNumbered number segment (eventsOf rest)) (hordered : Ordered (eventsOf rest))
    (hlater : ∀ visit ∈ recorder.document.visits, ∀ event ∈ eventsOf rest, visit.seq < event.seq)
    (hresumes : ∀ event ∈ (visitsOf rest).drop room, event.control ≠ "resume") :
    numberedStretches number (rest.foldl TraversalRecorder.hear recorder).document =
      closed ++ stretchesFrom room segment current rest := by
  induction rest generalizing recorder room segment closed current with
  | nil => exact h.told
  | cons item rest ih =>
    cases item with
    | played frame =>
      refine ih (h.played frame) hnumbered hordered ?_ hresumes
      intro visit hvisit
      refine hlater visit ?_
      rwa [TraversalRecorder.hear,(framePlayed_frame recorder frame).2.2] at hvisit
    | inspection event =>
      obtain ⟨hnumber,hrest⟩ := hnumbered
      obtain ⟨hfirst,hpairs⟩ := List.pairwise_cons.mp hordered
      have hnext : ∀ visit ∈ (recorder.inspection event).document.visits, ∀ other ∈ eventsOf rest,
          visit.seq < other.seq := by
        intro visit hvisit other hother
        rcases hear_visits recorder event visit hvisit with hold | hnew
        · exact hlater visit hold other (List.mem_cons_of_mem _ hother)
        · rw [hnew]
          exact hfirst other hother
      rw [List.foldl_cons,stretchesFrom]
      by_cases hevent : event.isVisit = false ∨ room = 0
      · obtain ⟨hsame,hlast⟩ := unheard_segment segment hresumes hevent
        rw [if_pos hevent]
        rw [hsame] at hrest
        exact ih (h.unheard hevent) hrest hpairs hnext hlast
      · obtain ⟨more,rfl,hvisit,hlast⟩ := heard_room hresumes hevent
        have hkept := h.visited hvisit fun visit hmem => hlater visit hmem event List.mem_cons_self
        rw [hnumber] at hkept
        rw [if_neg hevent,← List.append_assoc]
        exact ih hkept hrest hpairs hnext hlast
    | silent _ | received _ | consumed | flushed => exact ih h hnumbered hordered hlater hresumes

end Recorder

section Stretches
variable {take : List TakeItem} {room segment : ℕ} {current : Option (UInt64 × UInt64)}

lemma attributedStretches_eq (traversal : TraversalDocument) (events : List InspectionEvent) :
    attributedStretches traversal events =
      (numberedStretches (resumeNumber (resumesOf events)) traversal).map fun stretch =>
        (.ofNat stretch.1,stretch.2) := by
  unfold attributedStretches numberedStretches
  rw [List.map_append,List.map_map,List.map_map]
  rfl

/-- The supervisor finds the stretches of the take again, each in its segment. -/
lemma attributed_live (framesTotal : UInt64) (hordered : Ordered (eventsOf take)) (hresumes : ResumesKept take) :
    attributedStretches (liveTraversal framesTotal take) (eventsOf take) =
      (stretches take).map fun stretch => (.ofNat stretch.1,stretch.2) := by
  have hnumbered : SegmentNumbered (resumeNumber (resumesOf (eventsOf take))) 0 (eventsOf take) :=
    @numbered_of_ordered [] (eventsOf take) hordered
  have htells := (tells_new (resumeNumber (resumesOf (eventsOf take))) framesTotal).take hnumbered hordered
    (fun _ hnone => nomatch hnone) hresumes
  rw [attributedStretches_eq]
  exact congrArg _ htells

lemma stretchesFrom_bound : ∀ stretch ∈ stretchesFrom room segment current take, stretch.1 ≤ segment + room := by
  induction take generalizing room segment current with
  | nil =>
    intro stretch hstretch
    obtain ⟨frames,-,rfl⟩ := Option.map_eq_some_iff.mp (Option.mem_toList.mp hstretch)
    exact Nat.le_add_right segment room
  | cons item rest ih =>
    cases item with
    | inspection event =>
      intro stretch hstretch
      rw [stretchesFrom] at hstretch
      split_ifs at hstretch with hevent
      · exact ih stretch hstretch
      · rcases List.mem_append.mp hstretch with hclosed | hlater
        · obtain ⟨frames,-,rfl⟩ := Option.map_eq_some_iff.mp (Option.mem_toList.mp hclosed)
          exact Nat.le_add_right segment room
        · have hle := ih stretch hlater
          have hroom := (not_or.mp hevent).2
          unfold InspectionEvent.segmentAfter at hle
          split_ifs at hle <;> omega
    | played frame => exact ih
    | silent _ | received _ | consumed | flushed => exact ih

/-- The segments of the stretches are those in which frames are played. -/
lemma stretchesFrom_segments (hresumes : ∀ event ∈ (visitsOf take).drop room, event.control ≠ "resume") {k : ℕ} :
    k ∈ (stretchesFrom room segment current take).map Prod.fst ↔
      current.isSome ∧ k = segment ∨ k ∈ playedSegments segment take := by
  induction take generalizing room segment current with
  | nil => cases current <;> simp [stretchesFrom,playedSegments]
  | cons item rest ih =>
    cases item with
    | played frame =>
      rw [stretchesFrom,playedSegments,ih hresumes,List.mem_cons]
      cases current <;> simp
    | inspection event =>
      rw [stretchesFrom,playedSegments]
      by_cases hevent : event.isVisit = false ∨ room = 0
      · obtain ⟨hsame,hlast⟩ := unheard_segment segment hresumes hevent
        rw [if_pos hevent,hsame]
        exact ih hlast
      · obtain ⟨more,rfl,-,hlast⟩ := heard_room hresumes hevent
        rw [if_neg hevent,List.map_append,List.mem_append,Nat.add_sub_cancel,ih hlast]
        cases current <;> simp
    | silent _ | received _ | consumed | flushed => exact ih hresumes

end Stretches

section Pcm
variable {input : PcmInput}

/-- The views that passed the gate, each in the segment of its ordinal. -/
def numberedViews (input : PcmInput) : List (ℕ × PcmView) :=
  input.views.zipIdx.map fun view => (segmentAt input.starts view.2,view.1)

/-- The views of a take that begin before the limit, clipped in the segments of the resumes before them. -/
def receivedChunks (library : PcmLibrary) (runId : Codec.Bytes) (limit : ℕ) (take : List TakeItem) : List AudioChunk :=
  ((receivedFrom false 0 take).filter fun view => view.2.range.begin < limit).map fun view =>
    view.2.clipped library runId limit view.1

/-- No segment begins behind the views that there are. -/
def PcmInput.Begun (input : PcmInput) : Prop := ∀ start ∈ input.starts, start ≤ input.views.length

lemma numberedViews_receive (h : PcmInput.Begun input) (view : PcmView) :
    numberedViews { input with views := input.views ++ [view] } =
      numberedViews input ++ [(input.starts.length,view)] := by
  have hall : segmentAt input.starts input.views.length = input.starts.length := by
    rw [segmentAt,List.filter_eq_self.mpr fun start hstart => decide_eq_true (h start hstart)]
  unfold numberedViews
  rw [List.zipIdx_append,List.map_append,Nat.zero_add]
  simp [hall]

lemma numberedViews_begin :
    numberedViews { input with starts := input.starts ++ [input.views.length] } = numberedViews input := by
  unfold numberedViews
  apply List.map_congr_left
  rintro ⟨view,ordinal⟩ hview
  have hlt : ordinal < input.views.length := by
    have hindex := List.snd_lt_of_mem_zipIdx hview
    simpa using hindex
  dsimp only
  rw [segmentAt,List.filter_append,List.filter_cons_of_neg (by simpa using hlt),List.filter_nil,List.append_nil]
  rfl

/-- The writer numbers a view by the resumes that precede it. -/
lemma numberedViews_take (h : PcmInput.Begun input) (take : List TakeItem) :
    numberedViews ((pcmEventsOf take).foldl PcmInput.step input) =
      numberedViews input ++ receivedFrom input.silent input.starts.length take := by
  induction take generalizing input with
  | nil => exact (List.append_nil _).symm
  | cons item rest ih =>
    rw [pcmEventsOf,List.flatMap_cons,List.foldl_append]
    cases item with
    | played frame => exact ih h
    | inspection event =>
      rw [receivedFrom,InspectionEvent.segmentAfter,TakeItem.pcmEvents]
      split_ifs with hresume
      · have hbegun : PcmInput.Begun { input with starts := input.starts ++ [input.views.length] } := by
          intro start hstart
          rcases List.mem_append.mp hstart with hold | hnew
          · exact h start hold
          · rw [List.mem_singleton.mp hnew]
        refine (ih hbegun).trans ?_
        rw [numberedViews_begin,List.length_append,List.length_singleton]
      · exact ih h
    | silent now => exact @ih { input with silent := now } h
    | received view =>
      cases hsilent : input.silent with
      | true =>
        have hsame : [PcmEvent.receivePcm view].foldl PcmInput.step input = input := by
          rw [List.foldl_cons,List.foldl_nil,PcmInput.step,if_pos hsilent]
        rw [TakeItem.pcmEvents,hsame]
        refine (ih h).trans ?_
        rw [hsilent]
        rfl
      | false =>
        have hmore : [PcmEvent.receivePcm view].foldl PcmInput.step input =
            { input with views := input.views ++ [view] } := by
          rw [List.foldl_cons,List.foldl_nil,PcmInput.step,if_neg (by rw [hsilent]; exact Bool.false_ne_true)]
        have hbegun : PcmInput.Begun { input with views := input.views ++ [view] } := by
          intro start hstart
          exact (h start hstart).trans (List.length_append.trans_ge (Nat.le_add_right _ _))
        rw [TakeItem.pcmEvents,hmore]
        refine (ih hbegun).trans ?_
        rw [numberedViews_receive h,List.append_assoc,hsilent]
        rfl
    | consumed => exact ih h
    | flushed => exact ih h

lemma chunks_take (library : PcmLibrary) (runId : Codec.Bytes) (limit : ℕ) (take : List TakeItem) :
    (inputOf (pcmEventsOf take)).chunks library runId limit = receivedChunks library runId limit take := by
  have hviews := @numberedViews_take {} (fun _ hnone => nomatch hnone) take
  have hreceived : receivedFrom false 0 take = numberedViews (inputOf (pcmEventsOf take)) := hviews.symm
  unfold receivedChunks
  rw [hreceived,numberedViews,List.filter_map,List.map_map]
  rfl

end Pcm

section Answer
variable {traversal : TraversalDocument} {events : List InspectionEvent} {pcm : List PcmSegmentInterval}

instance lawfulOrderMaxUInt64 : Std.LawfulOrderMax UInt64 := .of_max_le_iff (by
  intro a b c
  change (if a ≤ b then b else a) ≤ c ↔ _
  simp only [UInt64.le_iff_toNat_le]
  split_ifs <;> omega) (by
  intro a b
  change (if a ≤ b then b else a) = a ∨ (if a ≤ b then b else a) = b
  split_ifs
  · exact Or.inr rfl
  · exact Or.inl rfl)

lemma mapM_eq_some_iff {α β : Type} {f : α → Option β} {l : List α} {bs : List β} :
    l.mapM f = some bs ↔ List.Forall₂ (fun a b => f a = some b) l bs := by
  induction l generalizing bs with
  | nil => simp [eq_comm]
  | cons a l ih => cases bs <;> simp [List.mapM_cons,Option.bind_eq_some_iff,ih]

lemma mapM_eq_none_iff {α β : Type} {f : α → Option β} {l : List α} : l.mapM f = none ↔ ∃ a ∈ l, f a = none := by
  induction l with
  | nil => simp
  | cons a l ih =>
    rw [List.mapM_cons]
    cases hfirst : f a with
    | none => simp [hfirst]
    | some b =>
      simp only [Option.bind_eq_bind,Option.bind_some,List.exists_mem_cons_iff,hfirst,reduceCtorEq,false_or,← ih]
      cases l.mapM f <;> simp

/-- The frames of the segments are the smallest ranges of the stretches. -/
lemma segmentFrames_covering :
    Covering (segmentFrames traversal events) (attributedStretches traversal events) := by
  have hfold : segmentFrames traversal events = (attributedStretches traversal events).foldl
      (fun ranges entry => Ranges.widen ranges entry.1 entry.2.1 entry.2.2) [] := by
    unfold attributedStretches
    rw [List.foldl_append,List.foldl_map,List.foldl_map]
    rfl
  rw [hfold]
  exact Ranges.covering_foldl _

/-- The answer is an error exactly when the segments with PCM are not those with stretches. -/
lemma audioSegmentsOfTake_error_iff :
    (∃ error, audioSegmentsOfTake traversal events pcm = .error error) ↔
      ¬∀ segment, (∃ kept ∈ pcm, .ofNat kept.segment = segment) ↔
        segment ∈ (attributedStretches traversal events).map Prod.fst := by
  have hkeys := (@segmentFrames_covering traversal events).keys
  have hunframed : ∀ kept : PcmSegmentInterval,
      ((segmentFrames traversal events).find? fun entry => entry.1 = .ofNat kept.segment).map
        (fun entry => audioSegment kept entry.2.1 entry.2.2) = none ↔
      .ofNat kept.segment ∉ (segmentFrames traversal events).map Prod.fst := by
    intro kept
    rw [Option.map_eq_none_iff,List.find?_eq_none,List.mem_map,not_exists]
    refine forall_congr' fun entry => ?_
    rw [decide_eq_true_eq,not_and]
  unfold audioSegmentsOfTake
  dsimp only
  simp only [← hkeys]
  split
  · rename_i hnone
    obtain ⟨kept,hkept,hmissing⟩ := mapM_eq_none_iff.mp hnone
    refine iff_of_true ⟨_,rfl⟩ fun hsame => ?_
    exact (hunframed kept).mp hmissing ((hsame _).mp ⟨kept,hkept,rfl⟩)
  · rename_i found hfound
    have hframed : ∀ kept ∈ pcm, .ofNat kept.segment ∈ (segmentFrames traversal events).map Prod.fst := by
      intro kept hkept
      refine not_not.mp ((hunframed kept).not.mp fun hmissing => ?_)
      refine Option.some_ne_none found (hfound.symm.trans (mapM_eq_none_iff.mpr ⟨kept,hkept,?_⟩))
      exact hmissing
    split_ifs with hsilent
    · refine iff_of_true ⟨_,rfl⟩ fun hsame => ?_
      obtain ⟨entry,hentry,hall⟩ := List.any_eq_true.mp hsilent
      obtain ⟨kept,hkept,hsegment⟩ := (hsame entry.1).mpr (List.mem_map_of_mem hentry)
      exact of_decide_eq_true (List.all_eq_true.mp hall kept hkept) hsegment
    · refine iff_of_false (fun hnone => nomatch hnone.choose_spec) (not_not_intro fun segment => ?_)
      constructor
      · rintro ⟨kept,hkept,rfl⟩
        exact hframed kept hkept
      · intro hsegment
        obtain ⟨entry,hentry,rfl⟩ := List.mem_map.mp hsegment
        by_contra hmissing
        refine hsilent (List.any_eq_true.mpr ⟨entry,hentry,List.all_eq_true.mpr fun kept hkept => ?_⟩)
        exact decide_eq_true fun hsegment => hmissing ⟨kept,hkept,hsegment⟩

lemma audioSegmentsOfTake_ok {segments : List TraversalAudioSegment}
    (h : audioSegmentsOfTake traversal events pcm = .ok segments) :
    List.Forall₂ (fun kept segment => ∃ first last, segment = audioSegment kept first last ∧
      IsLeast (firsts (attributedStretches traversal events) (.ofNat kept.segment)) first ∧
      IsGreatest (lasts (attributedStretches traversal events) (.ofNat kept.segment)) last) pcm segments := by
  have hcovering := @segmentFrames_covering traversal events
  unfold audioSegmentsOfTake at h
  dsimp only at h
  split at h
  · cases h
  · rename_i found hfound
    split_ifs at h
    cases h
    refine (mapM_eq_some_iff.mp hfound).imp fun kept segment hkept => ?_
    obtain ⟨range,hrange,rfl⟩ := Option.map_eq_some_iff.mp hkept
    have hkey : range.1 = .ofNat kept.segment := by simpa using List.find?_some hrange
    have hmem := List.mem_of_find?_eq_some hrange
    rw [← hkey]
    exact ⟨range.2.1,range.2.2,rfl,hcovering.least range hmem,hcovering.greatest range hmem⟩

end Answer

section Main
variable {take : List TakeItem}

lemma ofNat_inj {n m : ℕ} (hn : n < 2 ^ 64) (hm : m < 2 ^ 64) (h : UInt64.ofNat n = UInt64.ofNat m) : n = m := by
  have hnat := congrArg UInt64.toNat h
  rwa [UInt64.toNat_ofNat_of_lt' hn,UInt64.toNat_ofNat_of_lt' hm] at hnat

lemma stretches_segment_lt : ∀ stretch ∈ stretches take, stretch.1 < 2 ^ 64 := by
  intro stretch hstretch
  have hle := stretchesFrom_bound stretch hstretch
  unfold maxTraversalVisits at hle
  omega

lemma mem_stretches_ofNat {segment : ℕ} (hsegment : segment < 2 ^ 64) {frames : UInt64 × UInt64} :
    (UInt64.ofNat segment,frames) ∈ ((stretches take).map fun stretch => (UInt64.ofNat stretch.1,stretch.2)) ↔
      (segment,frames) ∈ stretches take := by
  constructor
  · intro hmem
    obtain ⟨stretch,hstretch,hsame⟩ := List.mem_map.mp hmem
    obtain ⟨hkey,rfl⟩ := Prod.ext_iff.mp hsame
    rwa [← ofNat_inj (stretches_segment_lt stretch hstretch) hsegment hkey]
  · exact fun hmem => List.mem_map.mpr ⟨_,hmem,rfl⟩

lemma pcm_segments_iff {pcm : List PcmSegmentInterval} (htyped : ∀ kept ∈ pcm, kept.segment < 2 ^ 64)
    (hresumes : ResumesKept take) :
    (∀ segment : UInt64, (∃ kept ∈ pcm, .ofNat kept.segment = segment) ↔
        segment ∈ (((stretches take).map fun stretch => (UInt64.ofNat stretch.1,stretch.2)).map Prod.fst)) ↔
      {segment | ∃ kept ∈ pcm, kept.segment = segment} = {segment | segment ∈ playedSegments 0 take} := by
  have hplayed : ∀ segment, segment ∈ playedSegments 0 take ↔ segment ∈ (stretches take).map Prod.fst := by
    intro segment
    refine Iff.trans ?_ (stretchesFrom_segments hresumes).symm
    simp
  have hkeys : ((stretches take).map fun stretch => (UInt64.ofNat stretch.1,stretch.2)).map Prod.fst =
      ((stretches take).map Prod.fst).map UInt64.ofNat := by
    rw [List.map_map,List.map_map]
    rfl
  have hbound : ∀ segment ∈ (stretches take).map Prod.fst, segment < 2 ^ 64 := by
    intro segment hsegment
    obtain ⟨stretch,hstretch,rfl⟩ := List.mem_map.mp hsegment
    exact stretches_segment_lt stretch hstretch
  rw [hkeys,Set.ext_iff]
  simp only [Set.mem_ofPred_eq,hplayed]
  constructor
  · intro h segment
    constructor
    · rintro ⟨kept,hkept,rfl⟩
      obtain ⟨other,hother,hsame⟩ := List.mem_map.mp ((h _).mp ⟨kept,hkept,rfl⟩)
      rwa [← ofNat_inj (hbound other hother) (htyped kept hkept) hsame]
    · intro hsegment
      obtain ⟨kept,hkept,hsame⟩ := (h _).mpr (List.mem_map_of_mem hsegment)
      exact ⟨kept,hkept,ofNat_inj (htyped kept hkept) (hbound segment hsegment) hsame⟩
  · intro h segment
    constructor
    · rintro ⟨kept,hkept,rfl⟩
      exact List.mem_map_of_mem ((h _).mp ⟨kept,hkept,rfl⟩)
    · intro hsegment
      obtain ⟨other,hother,rfl⟩ := List.mem_map.mp hsegment
      obtain ⟨kept,hkept,rfl⟩ := (h other).mpr hother
      exact ⟨kept,hkept,rfl⟩

/-- The audio segments of a take whose resumes are all kept: its stretches and the blocks of its PCM are numbered by the
resumes that precede them, the answer is an error exactly when the PCM and the played frames are not of the same
segments, and otherwise each segment has the smallest range of its stretches, and the samples and blocks that were
kept. -/
theorem audioSegmentsOfTake_live (framesTotal : UInt64) (take : List TakeItem) (pcm : List PcmSegmentInterval)
    (hordered : Ordered (eventsOf take)) (hresumes : ResumesKept take) (htyped : ∀ kept ∈ pcm, kept.segment < 2 ^ 64) :
    let traversal := liveTraversal framesTotal take
    let answer := audioSegmentsOfTake traversal (eventsOf take) pcm
    attributedStretches traversal (eventsOf take) =
      (stretches take).map (fun stretch => (.ofNat stretch.1,stretch.2)) ∧
    (∀ library takes runId limit, (inputOf (pcmEventsOf take)).WellFormed library runId →
      ∃ groups, groups.flatten <+: receivedChunks library runId limit take ∧
        List.Forall₂ BlockOf (streamedBlocks library takes runId limit (pcmEventsOf take)) groups) ∧
    ((∃ error, answer = .error error) ↔
      {segment | ∃ kept ∈ pcm, kept.segment = segment} ≠ {segment | segment ∈ playedSegments 0 take}) ∧
    ∀ segments, answer = .ok segments →
      List.Forall₂ (fun kept segment => ∃ first last, segment = audioSegment kept first last ∧
        IsLeast (firsts (stretches take) kept.segment) first ∧
        IsGreatest (lasts (stretches take) kept.segment) last) pcm segments := by
  dsimp only
  have hattributed := attributed_live framesTotal hordered hresumes
  refine ⟨hattributed,fun library takes runId limit hviews => ?_,?_,fun segments hok => ?_⟩
  · obtain ⟨groups,hfront,-,hblocks⟩ := Audio.streamedBlocks_groups library takes runId limit (pcmEventsOf take) hviews
    rw [chunks_take] at hfront
    exact ⟨groups,hfront,hblocks⟩
  · rw [audioSegmentsOfTake_error_iff,hattributed]
    exact (pcm_segments_iff htyped hresumes).not
  · have hforall := audioSegmentsOfTake_ok hok
    rw [hattributed] at hforall
    refine ((List.forall₂_and_left _ _).mpr ⟨htyped,hforall⟩).imp ?_
    rintro kept segment ⟨hkept,first,last,hsegment,hleast,hgreatest⟩
    refine ⟨first,last,hsegment,?_,?_⟩
    · convert hleast using 1
      ext start
      exact exists_congr fun stop => (mem_stretches_ofNat hkept).symm
    · convert hgreatest using 1
      ext stop
      exact exists_congr fun start => (mem_stretches_ofNat hkept).symm

/-- A take with two resumes, the first before no frame, and a toggle of the overlay while it plays. -/
def resumedTake : List TakeItem :=
  [.played 0,.inspection ⟨1,"pause",0,0,1,0⟩,.inspection ⟨2,"resume",0,0,2,0⟩,.inspection ⟨3,"pause",0,0,3,0⟩,
    .inspection ⟨4,"resume",0,0,4,0⟩,.played 1,.inspection ⟨5,"overlay_toggle",1,1,5,0⟩,.played 2,.played 3]

theorem audioSegmentsOfTake_live_resumed :
    attributedStretches (liveTraversal 4 resumedTake) (eventsOf resumedTake) = [(0,0,0),(2,1,1),(2,2,3)] := by
  have hkept : ResumesKept resumedTake := by
    unfold ResumesKept
    rw [List.drop_eq_nil_of_le (by decide)]
    exact List.forall_mem_nil _
  rw [(audioSegmentsOfTake_live 4 resumedTake [] (by unfold Ordered; decide) hkept (List.forall_mem_nil _)).1]
  decide

end Main

section Late

/-- A pause, and then toggles of the overlay. -/
def visitAt (index : ℕ) : InspectionEvent :=
  ⟨.ofNat (index + 1),if index = 0 then "pause" else "overlay_toggle",0,0,0,0⟩

/-- A frame, some visits, a resume, and a frame of the next segment. -/
def lateResume (visits : ℕ) : List TakeItem :=
  .played 0 :: (List.range visits).map (fun index => .inspection (visitAt index)) ++
    [.inspection ⟨.ofNat (visits + 1),"resume",0,0,0,0⟩,.played 1]

/-- Two intervals of PCM that were kept, in the first segment and in the next one. -/
def twoIntervals : List PcmSegmentInterval := [⟨0,⟨[116],48000,0,1⟩,1⟩,⟨1,⟨[116],48000,1,2⟩,1⟩]

lemma visitAt_control (index : ℕ) : (visitAt index).control = "pause" ∨ (visitAt index).control = "overlay_toggle" := by
  unfold visitAt
  split_ifs
  · exact Or.inl rfl
  · exact Or.inr rfl

lemma eventsOf_lateResume (visits : ℕ) : eventsOf (lateResume visits) =
    (List.range visits).map visitAt ++ [⟨.ofNat (visits + 1),"resume",0,0,0,0⟩] := by
  have hvisits : ((List.range visits).map fun index => TakeItem.inspection (visitAt index)).filterMap TakeItem.event =
      (List.range visits).map visitAt := by
    rw [List.filterMap_map]
    exact congrFun (@List.filterMap_eq_map _ _ visitAt) _
  unfold eventsOf lateResume
  rw [List.filterMap_append,List.filterMap_cons]
  exact congrArg (· ++ _) hvisits

lemma ofNat_lt {n m : ℕ} (hm : m < 2 ^ 64) (h : n < m) : UInt64.ofNat n < UInt64.ofNat m := by
  rw [UInt64.lt_iff_toNat_lt,UInt64.toNat_ofNat_of_lt' hm,UInt64.toNat_ofNat_of_lt' (h.trans hm)]
  exact h

lemma lateResume_ordered {visits : ℕ} (h : visits + 1 < 2 ^ 64) : Ordered (eventsOf (lateResume visits)) := by
  rw [eventsOf_lateResume]
  refine List.pairwise_append.mpr ⟨List.pairwise_map.mpr ?_,List.pairwise_singleton _ _,?_⟩
  · refine List.pairwise_lt_range.imp_of_mem ?_
    intro first second _ hsecond hlt
    have hbound := List.mem_range.mp hsecond
    exact ofNat_lt (by omega) (Nat.succ_lt_succ hlt)
  · intro event hevent last hlast
    obtain ⟨index,hindex,rfl⟩ := List.mem_map.mp hevent
    rw [List.mem_singleton.mp hlast]
    exact ofNat_lt h (Nat.succ_lt_succ (List.mem_range.mp hindex))

lemma playedSegments_visits (indices : List ℕ) (segment : ℕ) (rest : List TakeItem) :
    playedSegments segment (indices.map (fun index => .inspection (visitAt index)) ++ rest) =
      playedSegments segment rest := by
  induction indices with
  | nil => rfl
  | cons index indices ih =>
    have hsame : (visitAt index).segmentAfter segment = segment := by
      unfold InspectionEvent.segmentAfter
      obtain hcontrol | hcontrol := visitAt_control index <;> rw [hcontrol] <;> rfl
    change playedSegments ((visitAt index).segmentAfter segment) _ = _
    rw [hsame]
    exact ih

lemma playedSegments_lateResume (visits : ℕ) : playedSegments 0 (lateResume visits) = [0,1] := by
  change 0 :: playedSegments 0 (_ ++ _) = _
  rw [playedSegments_visits]
  rfl

/-- The recorder of a first frame and some visits. -/
lemma hear_paused {visits : ℕ} (h : visits ≤ maxTraversalVisits) :
    ((List.range visits).map fun index => .inspection (visitAt index)).foldl TraversalRecorder.hear
        ((TraversalRecorder.new 2).framePlayed 0) =
      { document := { framesTotal := 2, segments := [⟨0,0,"linear"⟩],
                      visits := (List.range visits).map fun index => (visitAt index).visitOf }
        afterVisit := decide (0 < visits)
        lastFrame := some 0 } := by
  induction visits with
  | zero => rfl
  | succ visits ih =>
    rw [List.range_succ,List.map_append,List.foldl_append,ih (by omega)]
    change TraversalRecorder.inspection _ (visitAt visits) = _
    obtain ⟨hvisit,hmoves⟩ : (visitAt visits).isVisit = true ∧ movesPosition (visitAt visits).control = false := by
      unfold InspectionEvent.isVisit
      obtain hcontrol | hcontrol := visitAt_control visits <;> rw [hcontrol] <;> exact ⟨rfl,rfl⟩
    rw [inspection_kept hvisit]
    · rw [List.map_append,decide_eq_true (Nat.succ_pos visits),hmoves]
      rfl
    · rintro (hfull | hfull)
      · cases hfull
      · rw [List.length_map,List.length_range] at hfull
        omega

lemma resumesOf_lateResume (visits : ℕ) : resumesOf (eventsOf (lateResume visits)) = [.ofNat (visits + 1)] := by
  rw [eventsOf_lateResume,resumesOf,List.filter_append,List.filter_eq_nil_iff.mpr]
  · rfl
  · intro event hevent
    obtain ⟨index,-,rfl⟩ := List.mem_map.mp hevent
    obtain hcontrol | hcontrol := visitAt_control index <;> rw [hcontrol] <;> decide

lemma attributed_lateResume {visits : ℕ} (h : visits = maxTraversalVisits) :
    (attributedStretches (liveTraversal 2 (lateResume visits)) (eventsOf (lateResume visits))).map Prod.fst =
      [0,0] := by
  obtain ⟨earlier,rfl⟩ : ∃ earlier, visits = earlier + 1 := ⟨visits - 1,by unfold maxTraversalVisits at h; omega⟩
  have hheard := hear_paused h.le
  have hlast : ((List.range (earlier + 1)).map fun index => (visitAt index).visitOf).getLast? =
      some (visitAt earlier).visitOf := by
    rw [List.range_succ,List.map_append]
    exact List.getLast?_concat
  have hlive : (liveTraversal 2 (lateResume (earlier + 1))).segments = [⟨0,0,"linear"⟩] ∧
      (liveTraversal 2 (lateResume (earlier + 1))).resumeAfter = [⟨.ofNat (earlier + 1),1,1,"continued"⟩] := by
    unfold liveTraversal lateResume
    rw [List.foldl_append,List.foldl_cons]
    change (((List.foldl TraversalRecorder.hear (TraversalRecorder.framePlayed (.new 2) 0) _).inspection _).framePlayed
      1).document.segments = _ ∧ (((List.foldl TraversalRecorder.hear (TraversalRecorder.framePlayed (.new 2) 0)
      _).inspection _).framePlayed 1).document.resumeAfter = _
    rw [hheard,inspection_dropped rfl (Or.inr (by rw [List.length_map,List.length_range]; exact h.ge)),
      framePlayed_after (decide_eq_true (Nat.succ_pos earlier)) hlast]
    exact ⟨rfl,rfl⟩
  have hnone : resumeNumber (resumesOf (eventsOf (lateResume (earlier + 1)))) (.ofNat (earlier + 1)) = 0 := by
    have hlt : UInt64.ofNat (earlier + 1) < .ofNat (earlier + 1 + 1) :=
      ofNat_lt (by unfold maxTraversalVisits at h; omega) (Nat.lt_succ_self _)
    rw [resumesOf_lateResume,resumeNumber,List.mergeSort_singleton,List.takeWhile_cons_of_neg (by simpa using hlt)]
    rfl
  rw [attributedStretches_eq,numberedStretches,hlive.1,hlive.2,List.map_singleton,List.map_singleton,hnone]
  rfl

/-- Behind as many visits as are kept a resume is not found again, and the segments of PCM and frames that agree are
answered as if they did not. -/
theorem lateResume_refused :
    Ordered (eventsOf (lateResume maxTraversalVisits)) ∧
    {segment | ∃ kept ∈ twoIntervals, kept.segment = segment} =
      {segment | segment ∈ playedSegments 0 (lateResume maxTraversalVisits)} ∧
    ∃ error, audioSegmentsOfTake (liveTraversal 2 (lateResume maxTraversalVisits))
      (eventsOf (lateResume maxTraversalVisits)) twoIntervals = .error error := by
  refine ⟨lateResume_ordered (by unfold maxTraversalVisits; omega),?_,?_⟩
  · rw [playedSegments_lateResume]
    ext segment
    simp [twoIntervals,eq_comm]
  · rw [audioSegmentsOfTake_error_iff,attributed_lateResume rfl]
    intro hsame
    have hone := (hsame 1).mp ⟨⟨1,⟨[116],48000,1,2⟩,1⟩,List.mem_cons_of_mem _ List.mem_cons_self,rfl⟩
    exact absurd hone (by decide)

end Late

end AytherRuntime.Inspection
