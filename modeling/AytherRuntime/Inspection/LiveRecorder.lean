import AytherRuntime.Inspection.Recorder
import Mathlib.Data.List.Induction

/-! What a recorder keeps of a take that it is told of as it happens: the first visits, the kind that they give it, and
at most one resume for each. -/
namespace AytherRuntime.Inspection

section Calls

/-- What a recorder is told. -/
inductive RecorderCall
  | framePlayed (frame : UInt64)
  | inspection (event : InspectionEvent)
  deriving DecidableEq

def TraversalRecorder.call (recorder : TraversalRecorder) : RecorderCall → TraversalRecorder
  | .framePlayed frame => recorder.framePlayed frame
  | .inspection event => recorder.inspection event

def RecorderCall.event : RecorderCall → Option InspectionEvent
  | .framePlayed _ => none
  | .inspection event => some event

/-- Every event is a visit, but the interruptions. -/
def InspectionEvent.isVisit (event : InspectionEvent) : Bool := event.control ≠ "interrupted"

def InspectionEvent.visitOf (event : InspectionEvent) : TraversalVisit := ⟨event.seq,event.frameAfter,event.control⟩

/-- The visits that a recorder is told of. -/
def visitsOfCalls (calls : List RecorderCall) : List InspectionEvent :=
  (calls.filterMap RecorderCall.event).filter InspectionEvent.isVisit

/-- The document after some calls. -/
def documentOf (framesTotal : UInt64) (calls : List RecorderCall) : TraversalDocument :=
  (calls.foldl TraversalRecorder.call (.new framesTotal)).recorded

end Calls

section Steps
variable {recorder : TraversalRecorder} {frame : UInt64} {event : InspectionEvent} {visit : TraversalVisit}

lemma framePlayed_before (h : recorder.afterVisit = false) :
    recorder.framePlayed frame = { recorder with
      lastFrame := some frame
      document := { recorder.document with
        segments := if recorder.document.segments = [] then [⟨frame,frame,"linear"⟩]
          else changeLast (fun last => { last with last := frame }) recorder.document.segments } } := by
  unfold TraversalRecorder.framePlayed
  rw [h]
  dsimp only
  split_ifs <;> rfl

lemma framePlayed_after (h : recorder.afterVisit = true) (hlast : recorder.document.visits.getLast? = some visit) :
    recorder.framePlayed frame = { recorder with
      lastFrame := some frame
      document := { recorder.document with
        resumeAfter :=
          if recorder.document.resumeAfter.getLast?.map TraversalResume.seq = some visit.seq then
            changeLast (fun last => { last with last := frame }) recorder.document.resumeAfter
          else recorder.document.resumeAfter ++ [⟨visit.seq,frame,frame,"continued"⟩] } } := by
  unfold TraversalRecorder.framePlayed
  dsimp only
  rw [h,hlast]
  dsimp only
  split_ifs <;> rfl

lemma framePlayed_frame (recorder : TraversalRecorder) (frame : UInt64) :
    (recorder.framePlayed frame).lastFrame = some frame ∧
      (recorder.framePlayed frame).document.framesTotal = recorder.document.framesTotal ∧
      (recorder.framePlayed frame).document.visits = recorder.document.visits := by
  unfold TraversalRecorder.framePlayed
  dsimp only
  split <;> split <;> exact ⟨rfl,rfl,rfl⟩

lemma inspection_interrupted (h : event.isVisit = false) :
    recorder.inspection event = { recorder with
      document := { recorder.document with
        interruptions := recorder.document.interruptions ++ [⟨event.seq,event.frameBefore⟩] } } := by
  have hcontrol : event.control = "interrupted" := by simpa [InspectionEvent.isVisit] using h
  exact if_pos hcontrol

lemma inspection_dropped (h : event.isVisit = true)
    (hfull : recorder.visitLimitExceeded = true ∨ maxTraversalVisits ≤ recorder.document.visits.length) :
    recorder.inspection event = { recorder with visitLimitExceeded := true } := by
  have hcontrol : event.control ≠ "interrupted" := by simpa [InspectionEvent.isVisit] using h
  unfold TraversalRecorder.inspection
  dsimp only
  rw [if_neg hcontrol,if_pos hfull]

lemma inspection_kept (h : event.isVisit = true)
    (hroom : ¬(recorder.visitLimitExceeded = true ∨ maxTraversalVisits ≤ recorder.document.visits.length)) :
    recorder.inspection event = { recorder with
      afterVisit := true
      document := { recorder.document with
        visits := recorder.document.visits ++ [event.visitOf]
        kind := if movesPosition event.control then .inspection else recorder.document.kind } } := by
  have hcontrol : event.control ≠ "interrupted" := by simpa [InspectionEvent.isVisit] using h
  unfold TraversalRecorder.inspection
  dsimp only
  rw [if_neg hcontrol,if_neg hroom]
  rfl

end Steps

section Keeps
variable {recorder : TraversalRecorder} {visits : List InspectionEvent}

/-- The sequences of the resumes of a document, each of which names the visit that it follows. -/
def resumeSeqs (document : TraversalDocument) : List UInt64 := document.resumeAfter.map TraversalResume.seq

def visitSeqs (document : TraversalDocument) : List UInt64 := document.visits.map TraversalVisit.seq

/-- What holds of a recorder after some visits. -/
structure Keeps (recorder : TraversalRecorder) (visits : List InspectionEvent) : Prop where
  kept : recorder.document.visits = (visits.take maxTraversalVisits).map InspectionEvent.visitOf
  exceeded : recorder.visitLimitExceeded = true → maxTraversalVisits ≤ recorder.document.visits.length
  after : recorder.afterVisit = true → recorder.document.visits ≠ []
  kind : recorder.document.kind =
    if (visits.take maxTraversalVisits).any fun event => movesPosition event.control then .inspection else .linear
  named : (resumeSeqs recorder.document).Sublist (visitSeqs recorder.document)
  open' : (resumeSeqs recorder.document).getLast? ≠ (visitSeqs recorder.document).getLast? →
    (resumeSeqs recorder.document).Sublist (visitSeqs recorder.document).dropLast

lemma keeps_new (framesTotal : UInt64) : Keeps (.new framesTotal) [] :=
  ⟨rfl,(fun h => nomatch h),(fun h => nomatch h),rfl,.slnil,fun _ => .slnil⟩

lemma changeLast_append {α : Type} (change : α → α) (earlier : List α) (last : α) :
    changeLast change (earlier ++ [last]) = earlier ++ [change last] := by
  induction earlier with
  | nil => rfl
  | cons first earlier ih =>
    cases earlier with
    | nil => rfl
    | cons second earlier => exact congrArg (first :: ·) ih

lemma map_changeLast {α β : Type} {change : α → α} {f : α → β} (h : ∀ a, f (change a) = f a) (l : List α) :
    (changeLast change l).map f = l.map f := by
  induction l using changeLast.induct with
  | case1 => rfl
  | case2 a => exact congrArg ([·]) (h a)
  | case3 a b rest ih =>
    rw [changeLast,List.map_cons,ih]
    rfl

/-- A frame opens a resume of the last visit, or makes the one there is longer. -/
lemma Keeps.framePlayed (h : Keeps recorder visits) (frame : UInt64) : Keeps (recorder.framePlayed frame) visits := by
  cases hafter : recorder.afterVisit with
  | false =>
    rw [framePlayed_before hafter]
    exact ⟨h.kept,h.exceeded,fun hnone => absurd (hafter.symm.trans hnone) Bool.false_ne_true,h.kind,h.named,h.open'⟩
  | true =>
    obtain ⟨visit,hlast⟩ : ∃ visit, recorder.document.visits.getLast? = some visit :=
      Option.ne_none_iff_exists'.mp fun hnone => h.after hafter (List.getLast?_eq_none_iff.mp hnone)
    have hseq : (visitSeqs recorder.document).getLast? = some visit.seq := by
      rw [visitSeqs,List.getLast?_map,hlast]
      rfl
    rw [framePlayed_after hafter hlast]
    by_cases hsame : recorder.document.resumeAfter.getLast?.map TraversalResume.seq = some visit.seq
    · simp only [if_pos hsame]
      have hseqs : (changeLast (fun last : TraversalResume => { last with last := frame })
          recorder.document.resumeAfter).map TraversalResume.seq = resumeSeqs recorder.document := by
        apply map_changeLast
        intro last
        rfl
      refine ⟨h.kept,h.exceeded,fun _ => h.after hafter,h.kind,?_,?_⟩
      · rw [resumeSeqs,hseqs]
        exact h.named
      · rw [resumeSeqs,hseqs]
        exact h.open'
    · simp only [if_neg hsame]
      have hbefore : (resumeSeqs recorder.document).Sublist (visitSeqs recorder.document).dropLast := by
        apply h.open'
        rw [hseq,resumeSeqs,List.getLast?_map]
        exact hsame
      have hvisits : visitSeqs recorder.document = (visitSeqs recorder.document).dropLast ++ [visit.seq] :=
        (List.dropLast_append_getLast? _ hseq).symm
      refine ⟨h.kept,h.exceeded,fun _ => h.after hafter,h.kind,?_,?_⟩
      · rw [resumeSeqs,List.map_append]
        change ((resumeSeqs recorder.document) ++ [visit.seq]).Sublist (visitSeqs recorder.document)
        rw [hvisits]
        exact hbefore.append (List.Sublist.refl _)
      · intro hdiffer
        refine absurd ?_ hdiffer
        rw [resumeSeqs,List.map_append,List.map_singleton,List.getLast?_concat]
        exact hseq.symm

/-- A visit is kept while there is room, and it gives the kind only then. -/
lemma Keeps.inspection (h : Keeps recorder visits) (event : InspectionEvent) :
    Keeps (recorder.inspection event) (visits ++ if event.isVisit then [event] else []) := by
  cases hvisit : event.isVisit with
  | false =>
    rw [inspection_interrupted hvisit]
    simp only [Bool.false_eq_true,if_false,List.append_nil]
    exact ⟨h.kept,h.exceeded,h.after,h.kind,h.named,h.open'⟩
  | true =>
    simp only [if_true]
    have hlength : recorder.document.visits.length = min maxTraversalVisits visits.length := by
      rw [h.kept,List.length_map,List.length_take]
    by_cases hfull : recorder.visitLimitExceeded = true ∨ maxTraversalVisits ≤ recorder.document.visits.length
    · have hlong : maxTraversalVisits ≤ visits.length := by
        have hle := hfull.elim h.exceeded id
        omega
      have htake : (visits ++ [event]).take maxTraversalVisits = visits.take maxTraversalVisits :=
        List.take_append_of_le_length hlong
      rw [inspection_dropped hvisit hfull]
      refine ⟨?_,fun _ => hfull.elim h.exceeded id,h.after,?_,h.named,h.open'⟩
      · rw [htake]
        exact h.kept
      · rw [htake]
        exact h.kind
    · have hshort : visits.length < maxTraversalVisits := by
        have hroom := (not_or.mp hfull).2
        omega
      have hall : visits.take maxTraversalVisits = visits := List.take_of_length_le hshort.le
      have htake : (visits ++ [event]).take maxTraversalVisits = visits ++ [event] := by
        apply List.take_of_length_le
        rw [List.length_append,List.length_singleton]
        exact hshort
      have hseqs : visitSeqs { recorder.document with
          visits := recorder.document.visits ++ [event.visitOf]
          kind := if movesPosition event.control then .inspection else recorder.document.kind } =
          visitSeqs recorder.document ++ [event.seq] := by
        rw [visitSeqs,List.map_append]
        rfl
      have hkept := h.kept
      have hkind := h.kind
      rw [hall] at hkept hkind
      rw [inspection_kept hvisit hfull]
      refine ⟨?_,?_,?_,?_,?_,?_⟩
      · rw [htake,List.map_append]
        exact congrArg (· ++ [event.visitOf]) hkept
      · exact fun hexceeded => absurd (Or.inl hexceeded) hfull
      · exact fun _ => List.append_ne_nil_of_right_ne_nil _ (List.cons_ne_nil _ _)
      · rw [htake]
        dsimp only
        rw [hkind,List.any_append]
        cases hmoves : movesPosition event.control <;> simp [hmoves]
      · rw [hseqs]
        exact h.named.trans (List.sublist_append_left _ _)
      · intro _
        rw [hseqs,List.dropLast_concat]
        exact h.named

lemma Keeps.call (h : Keeps recorder visits) (call : RecorderCall) :
    Keeps (recorder.call call) (visits ++ visitsOfCalls [call]) := by
  cases call with
  | framePlayed frame =>
    have hnone : visitsOfCalls [.framePlayed frame] = [] := rfl
    rw [hnone,List.append_nil]
    exact h.framePlayed frame
  | inspection event =>
    have hvisits : visitsOfCalls [.inspection event] = if event.isVisit then [event] else [] := by
      rw [visitsOfCalls,List.filterMap_cons,RecorderCall.event]
      exact List.filter_cons
    rw [hvisits]
    exact h.inspection event

lemma visitsOfCalls_append (calls more : List RecorderCall) :
    visitsOfCalls (calls ++ more) = visitsOfCalls calls ++ visitsOfCalls more := by
  rw [visitsOfCalls,List.filterMap_append,List.filter_append]
  rfl

lemma keeps_calls (framesTotal : UInt64) (calls : List RecorderCall) :
    Keeps (calls.foldl TraversalRecorder.call (.new framesTotal)) (visitsOfCalls calls) := by
  induction calls using List.reverseRecOn with
  | nil => exact keeps_new framesTotal
  | append_singleton calls call ih =>
    rw [List.foldl_append,visitsOfCalls_append]
    exact ih.call call

end Keeps

section Kind
variable (framesTotal : UInt64) (calls : List RecorderCall)

/-- Some event moved the position. -/
def Moved (calls : List RecorderCall) : Prop :=
  ∃ event ∈ calls.filterMap RecorderCall.event, movesPosition event.control = true

/-- Some event moved the position while there was room for it. -/
def MovedWithinLimit (calls : List RecorderCall) : Prop :=
  ∃ event ∈ (visitsOfCalls calls).take maxTraversalVisits, movesPosition event.control = true

/-- What a document says of its kind, of its completion and of its resumes is so. -/
structure TellsKind (document : TraversalDocument) (moved : Prop) : Prop where
  kind : document.kind = .inspection ↔ moved
  linear : moved → document.linearCompleted = false
  resumes : (document.resumeAfter.map TraversalResume.seq).Sublist (document.visits.map TraversalVisit.seq)

lemma documentOf_kind : (documentOf framesTotal calls).kind =
    if (visitsOfCalls calls).take maxTraversalVisits |>.any fun event => movesPosition event.control then .inspection
    else .linear :=
  (keeps_calls framesTotal calls).kind

lemma documentOf_inspection_iff : (documentOf framesTotal calls).kind = .inspection ↔ MovedWithinLimit calls := by
  rw [documentOf_kind]
  unfold MovedWithinLimit
  simp only [← List.any_eq_true]
  split_ifs with hany <;> simp [hany]

lemma documentOf_linear {calls : List RecorderCall} (h : ¬MovedWithinLimit calls) :
    (documentOf framesTotal calls).kind = .linear := by
  rw [documentOf_kind,if_neg]
  exact fun hany => h (List.any_eq_true.mp hany)

lemma moved_of_within {calls : List RecorderCall} (h : MovedWithinLimit calls) : Moved calls := by
  obtain ⟨event,hevent,hmoves⟩ := h
  exact ⟨event,List.mem_of_mem_filter (List.mem_of_mem_take hevent),hmoves⟩

/-- The document of some calls tells their kind exactly when no event moved the position, or one of those that it has
room for did. -/
theorem documentOf_tells_iff :
    TellsKind (documentOf framesTotal calls) (Moved calls) ↔ (Moved calls → MovedWithinLimit calls) := by
  constructor
  · intro h hmoved
    exact (documentOf_inspection_iff framesTotal calls).mp (h.kind.mpr hmoved)
  · intro h
    have hkind : (documentOf framesTotal calls).kind = .inspection ↔ Moved calls :=
      (documentOf_inspection_iff framesTotal calls).trans ⟨moved_of_within,h⟩
    refine ⟨hkind,fun hmoved => ?_,(keeps_calls framesTotal calls).named⟩
    change ((documentOf framesTotal calls).kind = .linear && _ && _) = false
    rw [hkind.mpr hmoved]
    rfl

def toggled : InspectionEvent := ⟨1,"overlay_toggle",0,0,1,0⟩

lemma visitsOfCalls_replicate (visits : ℕ) :
    visitsOfCalls (List.replicate visits (.inspection toggled)) = List.replicate visits toggled := by
  induction visits with
  | zero => rfl
  | succ visits ih => exact congrArg (toggled :: ·) ih

/-- Some visits without a move, then a move, and then the last frame of the take. -/
def lateMove (visits : ℕ) : List RecorderCall :=
  List.replicate visits (RecorderCall.inspection toggled) ++
    [RecorderCall.inspection ⟨2,"step_forward",0,1,2,0⟩,.framePlayed 59]

lemma lateMove_moved (visits : ℕ) : Moved (lateMove visits) := by
  have hmem : RecorderCall.inspection ⟨2,"step_forward",0,1,2,0⟩ ∈ lateMove visits :=
    List.mem_append_right _ List.mem_cons_self
  exact ⟨⟨2,"step_forward",0,1,2,0⟩,List.mem_filterMap.mpr ⟨_,hmem,rfl⟩,rfl⟩

lemma lateMove_not_within {visits : ℕ} (h : maxTraversalVisits ≤ visits) : ¬MovedWithinLimit (lateMove visits) := by
  rintro ⟨event,hevent,hmoves⟩
  have hlength : maxTraversalVisits ≤ (List.replicate visits toggled).length := by
    rw [List.length_replicate]
    exact h
  rw [lateMove,visitsOfCalls_append,visitsOfCalls_replicate,List.take_append_of_le_length hlength] at hevent
  rw [List.eq_of_mem_replicate (List.mem_of_mem_take hevent)] at hmoves
  exact absurd hmoves (by decide)

lemma inspection_framesTotal (recorder : TraversalRecorder) (event : InspectionEvent) :
    (recorder.inspection event).document.framesTotal = recorder.document.framesTotal := by
  unfold TraversalRecorder.inspection
  dsimp only
  split_ifs <;> rfl

lemma calls_framesTotal (recorder : TraversalRecorder) (calls : List RecorderCall) :
    (calls.foldl TraversalRecorder.call recorder).document.framesTotal = recorder.document.framesTotal := by
  induction calls generalizing recorder with
  | nil => rfl
  | cons call calls ih =>
    rw [List.foldl_cons,ih]
    cases call with
    | framePlayed frame => exact (framePlayed_frame recorder frame).2.1
    | inspection event => exact inspection_framesTotal recorder event

lemma lateMove_complete (visits : ℕ) (h : (documentOf 60 (lateMove visits)).kind = .linear) :
    (documentOf 60 (lateMove visits)).linearCompleted = true := by
  have htotal : (documentOf 60 (lateMove visits)).framesTotal = 60 := calls_framesTotal (.new 60) (lateMove visits)
  have hlast : ((lateMove visits).foldl TraversalRecorder.call (.new 60)).lastFrame = some 59 := by
    rw [lateMove,List.foldl_append]
    exact (framePlayed_frame _ _).1
  change ((documentOf 60 (lateMove visits)).kind = .linear && 0 < (documentOf 60 (lateMove visits)).framesTotal &&
    ((lateMove visits).foldl TraversalRecorder.call (.new 60)).lastFrame.any fun frame =>
      frame + 1 = (documentOf 60 (lateMove visits)).framesTotal) = true
  rw [h,htotal,hlast]
  decide

/-- After as many visits as are kept, a take moves its position and its document says that it was linear and
complete. -/
theorem lateMove_linear :
    Moved (lateMove maxTraversalVisits) ∧ (documentOf 60 (lateMove maxTraversalVisits)).kind = .linear ∧
    (documentOf 60 (lateMove maxTraversalVisits)).linearCompleted = true := by
  have hkind : (documentOf 60 (lateMove maxTraversalVisits)).kind = .linear :=
    documentOf_linear 60 (lateMove_not_within le_rfl)
  exact ⟨lateMove_moved _,hkind,lateMove_complete _ hkind⟩

end Kind
end AytherRuntime.Inspection
