import AytherRuntime.Inspection.Inferred

/-! The stretches of a traversal: the frames played before the first visit and after each one. A recorder keeps the
first and the last frame of each. -/
namespace AytherRuntime.Inspection

section Frames

/-- The frames that are played before the next visit. -/
def framesToVisit : List RecorderCall → List UInt64
  | [] => []
  | .framePlayed frame :: rest => frame :: framesToVisit rest
  | .inspection event :: rest => if event.isVisit then [] else framesToVisit rest

/-- The visits, each with the frames that are played after it. -/
def framesOfVisits : List RecorderCall → List (UInt64 × List UInt64)
  | [] => []
  | .framePlayed _ :: rest => framesOfVisits rest
  | .inspection event :: rest =>
    if event.isVisit then (event.seq,framesToVisit rest) :: framesOfVisits rest else framesOfVisits rest

section Events
variable {event : InspectionEvent} {rest : List RecorderCall}

lemma framesToVisit_visit (h : event.isVisit = true) : framesToVisit (.inspection event :: rest) = [] := if_pos h

lemma framesToVisit_interrupted (h : event.isVisit = false) :
    framesToVisit (.inspection event :: rest) = framesToVisit rest := if_neg (Bool.eq_false_iff.mp h)

lemma framesOfVisits_visit (h : event.isVisit = true) :
    framesOfVisits (.inspection event :: rest) = (event.seq,framesToVisit rest) :: framesOfVisits rest := if_pos h

lemma framesOfVisits_interrupted (h : event.isVisit = false) :
    framesOfVisits (.inspection event :: rest) = framesOfVisits rest := if_neg (Bool.eq_false_iff.mp h)

end Events

/-- The first and the last of some frames. -/
def endsOf : List UInt64 → Option (UInt64 × UInt64)
  | [] => none
  | first :: rest => some (first,rest.getLastD first)

def segmentsOf (frames : List UInt64) : List TraversalSegment :=
  (endsOf frames).toList.map fun ends => ⟨ends.1,ends.2,"linear"⟩

def resumeOfVisit (visit : UInt64 × List UInt64) : List TraversalResume :=
  (endsOf visit.2).toList.map fun ends => ⟨visit.1,ends.1,ends.2,"continued"⟩

lemma endsOf_last (frames : List UInt64) : (endsOf frames).map Prod.snd = frames.getLast? := by
  cases frames with
  | nil => rfl
  | cons first rest =>
    rw [List.getLast?_cons,endsOf,List.getLastD_eq_getLast?]
    rfl

lemma endsOf_eq_none {frames : List UInt64} (h : endsOf frames = none) : frames = [] := by
  cases frames with
  | nil => rfl
  | cons first rest => cases h

lemma segmentsOf_concat (frames : List UInt64) (frame : UInt64) :
    segmentsOf (frames ++ [frame]) =
      if segmentsOf frames = [] then [⟨frame,frame,"linear"⟩]
      else changeLast (fun last => { last with last := frame }) (segmentsOf frames) := by
  cases frames with
  | nil => rfl
  | cons first rest =>
    have hsome : segmentsOf (first :: rest) ≠ [] := List.cons_ne_nil _ _
    rw [if_neg hsome,List.cons_append,segmentsOf,endsOf,List.getLastD_concat]
    rfl

lemma resumeOfVisit_none {frames : List UInt64} (h : endsOf frames = none) (seq : UInt64) :
    resumeOfVisit (seq,frames) = [] := by
  rw [resumeOfVisit,h]
  rfl

lemma resumeOfVisit_some {frames : List UInt64} {ends : UInt64 × UInt64} (h : endsOf frames = some ends)
    (seq : UInt64) : resumeOfVisit (seq,frames) = [⟨seq,ends.1,ends.2,"continued"⟩] := by
  rw [resumeOfVisit,h]
  rfl

lemma seq_of_mem_resumeOfVisit {visit : UInt64 × List UInt64} {resume : TraversalResume}
    (h : resume ∈ resumeOfVisit visit) : resume.seq = visit.1 := by
  obtain ⟨ends,-,rfl⟩ := List.mem_map.mp h
  rfl

/-- A sequence that is new to some resumes and to a visit is new to the resume of the visit too. -/
lemma seq_ne_of_mem_resumes {earlier : List TraversalResume} {visit : UInt64 × List UInt64} {seq : UInt64}
    (hvisit : seq ≠ visit.1) (hearlier : ∀ resume ∈ earlier, resume.seq ≠ seq) :
    ∀ resume ∈ earlier ++ resumeOfVisit visit, resume.seq ≠ seq := by
  intro resume hresume
  rcases List.mem_append.mp hresume with hresume | hresume
  · exact hearlier resume hresume
  · exact fun hsame => hvisit (hsame.symm.trans (seq_of_mem_resumeOfVisit hresume))

lemma framesOfVisits_seqs (calls : List RecorderCall) :
    (framesOfVisits calls).map Prod.fst = (visitsOfCalls calls).map InspectionEvent.seq := by
  induction calls with
  | nil => rfl
  | cons call rest ih =>
    cases call with
    | framePlayed frame => exact ih
    | inspection event =>
      have hvisits : visitsOfCalls (.inspection event :: rest) =
          if event.isVisit then event :: visitsOfCalls rest else visitsOfCalls rest := List.filter_cons
      rw [hvisits,framesOfVisits]
      split
      · exact congrArg (event.seq :: ·) ih
      · exact ih

end Frames

section Kept
variable {recorder : TraversalRecorder} {frames : List UInt64} {earlier : List TraversalResume} {seq : UInt64}
variable {event : InspectionEvent}

/-- A recorder before its first visit, with the frames that were played. -/
structure Before (recorder : TraversalRecorder) (frames : List UInt64) : Prop where
  afterVisit : recorder.afterVisit = false
  unexceeded : recorder.visitLimitExceeded = false
  visits : recorder.document.visits = []
  segments : recorder.document.segments = segmentsOf frames
  resumes : recorder.document.resumeAfter = []

/-- A recorder after a visit, with the frames that were played since then and the stretches of the earlier visits. -/
structure After (recorder : TraversalRecorder) (earlier : List TraversalResume) (seq : UInt64)
    (frames : List UInt64) : Prop where
  afterVisit : recorder.afterVisit = true
  unexceeded : recorder.visitLimitExceeded = false
  visit : recorder.document.visits.getLast?.map TraversalVisit.seq = some seq
  resumes : recorder.document.resumeAfter = earlier ++ resumeOfVisit (seq,frames)
  fresh : ∀ resume ∈ earlier, resume.seq ≠ seq

lemma Before.framePlayed (h : Before recorder frames) (frame : UInt64) :
    Before (recorder.framePlayed frame) (frames ++ [frame]) := by
  rw [framePlayed_before h.afterVisit,h.segments,← segmentsOf_concat]
  exact ⟨h.afterVisit,h.unexceeded,h.visits,rfl,h.resumes⟩

lemma Before.interrupted (h : Before recorder frames) (hevent : event.isVisit = false) :
    Before (recorder.inspection event) frames := by
  rw [inspection_interrupted hevent]
  exact ⟨h.afterVisit,h.unexceeded,h.visits,h.segments,h.resumes⟩

lemma Before.visited (h : Before recorder frames) (hevent : event.isVisit = true) :
    After (recorder.inspection event) [] event.seq [] := by
  have hroom : ¬(recorder.visitLimitExceeded = true ∨ maxTraversalVisits ≤ recorder.document.visits.length) := by
    rw [h.unexceeded,h.visits]
    decide
  rw [inspection_kept hevent hroom,h.visits]
  exact ⟨rfl,h.unexceeded,rfl,h.resumes,List.forall_mem_nil _⟩

lemma After.framePlayed (h : After recorder earlier seq frames) (frame : UInt64) :
    After (recorder.framePlayed frame) earlier seq (frames ++ [frame]) := by
  obtain ⟨visit,hlast,rfl⟩ := Option.map_eq_some_iff.mp h.visit
  rw [framePlayed_after h.afterVisit hlast]
  refine ⟨h.afterVisit,h.unexceeded,h.visit,?_,h.fresh⟩
  dsimp only
  rw [h.resumes]
  cases frames with
  | nil =>
    have hnone : resumeOfVisit (visit.seq,[]) = [] := rfl
    have hother : earlier.getLast?.map TraversalResume.seq ≠ some visit.seq := by
      intro hsame
      obtain ⟨resume,hresume,hseq⟩ := Option.map_eq_some_iff.mp hsame
      exact h.fresh resume (List.mem_of_getLast? hresume) hseq
    rw [hnone,List.append_nil,if_neg hother]
    rfl
  | cons first rest =>
    have hone : resumeOfVisit (visit.seq,first :: rest) = [⟨visit.seq,first,rest.getLastD first,"continued"⟩] := rfl
    rw [hone,List.getLast?_concat,Option.map_some,if_pos rfl,changeLast_append,List.cons_append,resumeOfVisit,endsOf,
      List.getLastD_concat]
    rfl

lemma After.interrupted (h : After recorder earlier seq frames) (hevent : event.isVisit = false) :
    After (recorder.inspection event) earlier seq frames := by
  rw [inspection_interrupted hevent]
  exact ⟨h.afterVisit,h.unexceeded,h.visit,h.resumes,h.fresh⟩

lemma After.visited (h : After recorder earlier seq frames) (hevent : event.isVisit = true)
    (hroom : recorder.document.visits.length < maxTraversalVisits)
    (hfresh : ∀ resume ∈ earlier ++ resumeOfVisit (seq,frames), resume.seq ≠ event.seq) :
    After (recorder.inspection event) (earlier ++ resumeOfVisit (seq,frames)) event.seq [] := by
  have hkept : ¬(recorder.visitLimitExceeded = true ∨ maxTraversalVisits ≤ recorder.document.visits.length) := by
    rw [h.unexceeded]
    rintro (hexceeded | hfull)
    · cases hexceeded
    · exact absurd hroom (Nat.not_lt.mpr hfull)
  rw [inspection_kept hevent hkept]
  refine ⟨rfl,h.unexceeded,?_,?_,hfresh⟩
  · dsimp only
    rw [List.getLast?_concat]
    rfl
  · exact h.resumes.trans (List.append_nil _).symm

/-- What a run of calls keeps after a visit: its stretch goes on to the next visit, and each visit has its own. -/
lemma After.run (calls : List RecorderCall) (h : After recorder earlier seq frames)
    (hroom : recorder.document.visits.length + (framesOfVisits calls).length ≤ maxTraversalVisits)
    (hseqs : ((framesOfVisits calls).map Prod.fst).Nodup)
    (hfresh : ∀ visit ∈ framesOfVisits calls, visit.1 ≠ seq ∧ ∀ resume ∈ earlier, resume.seq ≠ visit.1) :
    (calls.foldl TraversalRecorder.call recorder).document.segments = recorder.document.segments ∧
      (calls.foldl TraversalRecorder.call recorder).document.resumeAfter =
        earlier ++ resumeOfVisit (seq,frames ++ framesToVisit calls) ++
          (framesOfVisits calls).flatMap resumeOfVisit := by
  induction calls generalizing recorder earlier seq frames with
  | nil =>
    refine ⟨rfl,?_⟩
    rw [framesToVisit,List.append_nil]
    exact h.resumes.trans (List.append_nil _).symm
  | cons call rest ih =>
    cases call with
    | framePlayed frame =>
      obtain ⟨visit,hlast,-⟩ := Option.map_eq_some_iff.mp h.visit
      have hsegments : (recorder.framePlayed frame).document.segments = recorder.document.segments := by
        rw [framePlayed_after h.afterVisit hlast]
      have hrun := ih (h.framePlayed frame) ((framePlayed_frame recorder frame).2.2.symm ▸ hroom) hseqs hfresh
      rw [List.append_assoc frames,hsegments] at hrun
      exact hrun
    | inspection event =>
      have hkept := inspection_segments recorder event
      cases hevent : event.isVisit with
      | false =>
        have hvisits : (recorder.inspection event).document.visits = recorder.document.visits := by
          rw [inspection_interrupted hevent]
        rw [framesOfVisits_interrupted hevent] at hroom hseqs hfresh
        rw [framesToVisit_interrupted hevent,framesOfVisits_interrupted hevent]
        have hrun := ih (h.interrupted hevent) (hvisits.symm ▸ hroom) hseqs hfresh
        rw [hkept] at hrun
        exact hrun
      | true =>
        rw [framesOfVisits_visit hevent] at hroom hseqs hfresh
        rw [List.length_cons] at hroom
        have hother := hfresh _ List.mem_cons_self
        have hnew : ∀ resume ∈ earlier ++ resumeOfVisit (seq,frames), resume.seq ≠ event.seq :=
          seq_ne_of_mem_resumes hother.1 hother.2
        have hvisits : (recorder.inspection event).document.visits.length = recorder.document.visits.length + 1 := by
          rw [inspection_kept hevent (by rw [h.unexceeded]; simp; omega)]
          exact List.length_append
        obtain ⟨hseq,hseqs⟩ := List.nodup_cons.mp hseqs
        have hlater : ∀ visit ∈ framesOfVisits rest, visit.1 ≠ event.seq ∧
            ∀ resume ∈ earlier ++ resumeOfVisit (seq,frames), resume.seq ≠ visit.1 := by
          intro visit hvisit
          have hother := hfresh visit (List.mem_cons_of_mem _ hvisit)
          exact ⟨fun hsame => hseq (List.mem_map.mpr ⟨visit,hvisit,hsame⟩),seq_ne_of_mem_resumes hother.1 hother.2⟩
        have hrun := ih (h.visited hevent (by omega) hnew) (by omega) hseqs hlater
        rw [hkept] at hrun
        rw [framesToVisit_visit hevent,framesOfVisits_visit hevent,List.append_nil,List.flatMap_cons,
          ← List.append_assoc]
        exact hrun

/-- What a run of calls keeps before the first visit. -/
lemma Before.run (calls : List RecorderCall) (h : Before recorder frames)
    (hroom : (framesOfVisits calls).length ≤ maxTraversalVisits) (hseqs : ((framesOfVisits calls).map Prod.fst).Nodup) :
    (calls.foldl TraversalRecorder.call recorder).document.segments = segmentsOf (frames ++ framesToVisit calls) ∧
      (calls.foldl TraversalRecorder.call recorder).document.resumeAfter =
        (framesOfVisits calls).flatMap resumeOfVisit := by
  induction calls generalizing recorder frames with
  | nil =>
    rw [framesToVisit,List.append_nil]
    exact ⟨h.segments,h.resumes⟩
  | cons call rest ih =>
    cases call with
    | framePlayed frame =>
      have hrun := ih (h.framePlayed frame) hroom hseqs
      rw [List.append_assoc] at hrun
      exact hrun
    | inspection event =>
      cases hevent : event.isVisit with
      | false =>
        rw [framesOfVisits_interrupted hevent] at hroom hseqs
        rw [framesToVisit_interrupted hevent,framesOfVisits_interrupted hevent]
        exact ih (h.interrupted hevent) hroom hseqs
      | true =>
        rw [framesOfVisits_visit hevent] at hroom hseqs
        rw [List.length_cons] at hroom
        have hvisits : (recorder.inspection event).document.visits.length = 1 := by
          rw [inspection_kept hevent (by rw [h.unexceeded,h.visits]; decide),h.visits]
          rfl
        obtain ⟨hseq,hseqs⟩ := List.nodup_cons.mp hseqs
        have hlater : ∀ visit ∈ framesOfVisits rest, visit.1 ≠ event.seq ∧
            ∀ resume ∈ ([] : List TraversalResume), resume.seq ≠ visit.1 := fun visit hvisit =>
          ⟨fun hsame => hseq (List.mem_map.mpr ⟨visit,hvisit,hsame⟩),List.forall_mem_nil _⟩
        have hrun := (h.visited hevent).run rest (by omega) hseqs hlater
        rw [inspection_segments,h.segments] at hrun
        rw [framesToVisit_visit hevent,framesOfVisits_visit hevent,List.append_nil]
        exact hrun

/-- The stretches of a document, where there was room for each visit and each has its own sequence. -/
lemma documentOf_stretches (framesTotal : UInt64) (calls : List RecorderCall)
    (hroom : (visitsOfCalls calls).length ≤ maxTraversalVisits)
    (hseqs : ((visitsOfCalls calls).map InspectionEvent.seq).Nodup) :
    (documentOf framesTotal calls).segments = segmentsOf (framesToVisit calls) ∧
      (documentOf framesTotal calls).resumeAfter = (framesOfVisits calls).flatMap resumeOfVisit := by
  have hlength : (framesOfVisits calls).length = (visitsOfCalls calls).length := by
    have hmapped := congrArg List.length (framesOfVisits_seqs calls)
    rwa [List.length_map,List.length_map] at hmapped
  have hnew : Before (.new framesTotal) [] := ⟨rfl,rfl,rfl,rfl,rfl⟩
  exact hnew.run calls (hlength ▸ hroom) (framesOfVisits_seqs calls ▸ hseqs)

end Kept
end AytherRuntime.Inspection
