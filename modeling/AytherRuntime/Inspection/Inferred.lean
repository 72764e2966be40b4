import AytherRuntime.Inspection.LiveRecorder
import Mathlib.Data.List.Chain

/-! The traversal that is inferred of the terminal of a take and of its events: it is the one of a recorder that is told
of the take as it happens when no frame is inferred where none was played. -/
namespace AytherRuntime.Inspection

section Calls

def eventsOfCalls (calls : List RecorderCall) : List InspectionEvent := calls.filterMap RecorderCall.event

/-- What comes after what in a take: frames follow each other, an event happens at the frame that was played last, and
playback goes on after the frame that an event leaves. -/
inductive Adjoins : RecorderCall → RecorderCall → Prop
  | frames (frame : UInt64) : Adjoins (.framePlayed frame) (.framePlayed (frame + 1))
  | stopped (event : InspectionEvent) : Adjoins (.framePlayed event.frameBefore) (.inspection event)
  | continued (event : InspectionEvent) : Adjoins (.inspection event) (.framePlayed (event.frameAfter + 1))
  | events (first second : InspectionEvent) : Adjoins (.inspection first) (.inspection second)

/-- Of two events with no frame between them, the second does not happen after the frame that the first leaves. -/
def StaysBetween (last : UInt64) : RecorderCall → RecorderCall → Prop
  | .inspection first,.inspection second => min second.frameBefore last ≤ first.frameAfter
  | _,_ => True

/-- The take ends with the last frame that was consumed: it is played, or the last event leaves no earlier one. -/
def EndsAt (last : UInt64) : RecorderCall → Prop
  | .framePlayed frame => frame = last
  | .inspection event => last ≤ event.frameAfter

/-- No frame is inferred where none was played. -/
structure Inferable (last : UInt64) (calls : List RecorderCall) : Prop where
  begins : ∃ frame, calls.head? = some (.framePlayed frame)
  between : calls.IsChain (StaysBetween last)
  ends : ∀ call ∈ calls.getLast?, EndsAt last call

/-- The frames and the events of a take, one after another. -/
structure Sequential (last : UInt64) (calls : List RecorderCall) : Prop where
  adjoin : calls.IsChain Adjoins
  frames : ∀ frame, .framePlayed frame ∈ calls → frame ≤ last
  events : ∀ event, .inspection event ∈ calls → event.frameAfter.toNat + 1 < 2 ^ 64

/-- The frames and the events of a take that ends with the last frame consumed. -/
structure Taken (last : UInt64) (calls : List RecorderCall) : Prop extends Sequential last calls where
  between : calls.IsChain (StaysBetween last)
  ends : ∀ call ∈ calls.getLast?, EndsAt last call

/-- The last frame that is inferred before the next event, or at the end. -/
def untilOf (last : UInt64) (calls : List RecorderCall) : UInt64 :=
  match (eventsOfCalls calls).head? with
  | some next => min next.frameBefore last
  | none => last

lemma Sequential.tail {last : UInt64} {first second : RecorderCall} {rest : List RecorderCall}
    (h : Sequential last (first :: second :: rest)) : Sequential last (second :: rest) where
  adjoin := (List.isChain_cons_cons.mp h.adjoin).2
  frames frame hframe := h.frames frame (List.mem_cons_of_mem _ hframe)
  events event hevent := h.events event (List.mem_cons_of_mem _ hevent)

lemma Taken.tail {last : UInt64} {first second : RecorderCall} {rest : List RecorderCall}
    (h : Taken last (first :: second :: rest)) : Taken last (second :: rest) where
  toSequential := h.toSequential.tail
  between := (List.isChain_cons_cons.mp h.between).2
  ends := by
    have hends := h.ends
    rwa [List.getLast?_cons_cons] at hends

lemma toNat_succ {n : UInt64} (h : n.toNat + 1 < 2 ^ 64) : (n + 1).toNat = n.toNat + 1 := by
  rw [UInt64.toNat_add,UInt64.toNat_one]
  exact Nat.mod_eq_of_lt h

end Calls

section Stretches

lemma changeLast_changeLast {α : Type} (first second : α → α) (l : List α) :
    changeLast second (changeLast first l) = changeLast (second ∘ first) l := by
  rcases List.eq_nil_or_concat l with rfl | ⟨earlier,last,rfl⟩
  · rfl
  · rw [List.concat_eq_append,changeLast_append,changeLast_append,changeLast_append]
    rfl

lemma getLast?_changeLast {α : Type} (change : α → α) (l : List α) :
    (changeLast change l).getLast? = l.getLast?.map change := by
  rcases List.eq_nil_or_concat l with rfl | ⟨earlier,last,rfl⟩
  · rfl
  · rw [List.concat_eq_append,changeLast_append,List.getLast?_concat,List.getLast?_concat]
    rfl

lemma changeLast_ne_nil {α : Type} {change : α → α} {l : List α} (h : l ≠ []) : changeLast change l ≠ [] := by
  rcases List.eq_nil_or_concat l with rfl | ⟨earlier,last,rfl⟩
  · exact absurd rfl h
  · rw [List.concat_eq_append,changeLast_append]
    exact List.append_ne_nil_of_right_ne_nil _ (List.cons_ne_nil _ _)

variable {recorder : TraversalRecorder} {first frame last : UInt64}

/-- A frame that is played without a visit before it is one of the linear segment. -/
lemma framePlayed_linear (h : recorder.afterVisit = true → recorder.document.visits.getLast? = none) :
    recorder.framePlayed frame = { recorder with
      lastFrame := some frame
      document := { recorder.document with
        segments := if recorder.document.segments = [] then [⟨frame,frame,"linear"⟩]
          else changeLast (fun last => { last with last := frame }) recorder.document.segments } } := by
  by_cases hafter : recorder.afterVisit = true
  · unfold TraversalRecorder.framePlayed
    dsimp only
    rw [hafter,h hafter]
    dsimp only
    split_ifs <;> rfl
  · exact framePlayed_before (Bool.not_eq_true _ ▸ hafter)

/-- A recorder that has begun a stretch: the linear segment, or the one after its last visit. -/
def TraversalRecorder.Begun (recorder : TraversalRecorder) : Prop :=
  (∃ visit, recorder.afterVisit = true ∧ recorder.document.visits.getLast? = some visit ∧
      recorder.document.resumeAfter.getLast?.map TraversalResume.seq = some visit.seq) ∨
    ((recorder.afterVisit = true → recorder.document.visits.getLast? = none) ∧ recorder.document.segments ≠ [])

lemma framePlayed_begun (recorder : TraversalRecorder) (first : UInt64) : (recorder.framePlayed first).Begun := by
  by_cases hvisit : recorder.afterVisit = true ∧ ∃ visit, recorder.document.visits.getLast? = some visit
  · obtain ⟨hafter,visit,hlast⟩ := hvisit
    rw [framePlayed_after hafter hlast]
    refine Or.inl ⟨visit,hafter,hlast,?_⟩
    dsimp only
    split_ifs with hsame
    · rw [getLast?_changeLast,Option.map_map]
      exact hsame
    · rw [List.getLast?_append,List.getLast?_singleton]
      rfl
  · have hlinear : recorder.afterVisit = true → recorder.document.visits.getLast? = none := fun hafter =>
      Option.eq_none_iff_forall_not_mem.mpr fun visit hvisits => hvisit ⟨hafter,visit,hvisits⟩
    rw [framePlayed_linear hlinear]
    refine Or.inr ⟨hlinear,?_⟩
    dsimp only
    split_ifs with hnone
    · exact List.cons_ne_nil _ _
    · exact changeLast_ne_nil hnone

/-- Of the frames that a stretch goes on with only the last one is kept. -/
lemma TraversalRecorder.Begun.framePlayed (h : recorder.Begun) (frame last : UInt64) :
    (recorder.framePlayed frame).framePlayed last = recorder.framePlayed last := by
  obtain ⟨next,hnext⟩ : ∃ next, next = recorder.framePlayed frame := ⟨_,rfl⟩
  rw [← hnext]
  rcases h with ⟨visit,hafter,hlast,hseq⟩ | ⟨hlinear,hsome⟩
  · rw [framePlayed_after hafter hlast,if_pos hseq] at hnext
    have hafter' : next.afterVisit = true := hnext ▸ hafter
    have hlast' : next.document.visits.getLast? = some visit := hnext ▸ hlast
    have hseq' : next.document.resumeAfter.getLast?.map TraversalResume.seq = some visit.seq := by
      rw [hnext]
      dsimp only
      rw [getLast?_changeLast,Option.map_map]
      exact hseq
    rw [framePlayed_after hafter' hlast',if_pos hseq',framePlayed_after hafter hlast,if_pos hseq,hnext]
    dsimp only
    rw [changeLast_changeLast]
    rfl
  · rw [framePlayed_linear hlinear,if_neg hsome] at hnext
    have hlinear' : next.afterVisit = true → next.document.visits.getLast? = none := hnext ▸ hlinear
    have hsome' : next.document.segments ≠ [] := hnext ▸ changeLast_ne_nil hsome
    rw [framePlayed_linear hlinear',if_neg hsome',framePlayed_linear hlinear,if_neg hsome,hnext]
    dsimp only
    rw [changeLast_changeLast]
    rfl

/-- A frame that is played twice is played once. -/
lemma framePlayed_same (recorder : TraversalRecorder) (frame : UInt64) :
    (recorder.framePlayed frame).framePlayed frame = recorder.framePlayed frame := by
  obtain ⟨next,hnext⟩ : ∃ next, next = recorder.framePlayed frame := ⟨_,rfl⟩
  rw [← hnext]
  by_cases hvisit : recorder.afterVisit = true ∧ ∃ visit, recorder.document.visits.getLast? = some visit
  · obtain ⟨hafter,visit,hlast⟩ := hvisit
    rw [framePlayed_after hafter hlast] at hnext
    have hafter' : next.afterVisit = true := hnext ▸ hafter
    have hlast' : next.document.visits.getLast? = some visit := hnext ▸ hlast
    by_cases hsame : recorder.document.resumeAfter.getLast?.map TraversalResume.seq = some visit.seq
    · rw [if_pos hsame] at hnext
      have hseq : next.document.resumeAfter.getLast?.map TraversalResume.seq = some visit.seq := by
        rw [hnext]
        dsimp only
        rw [getLast?_changeLast,Option.map_map]
        exact hsame
      rw [framePlayed_after hafter' hlast',if_pos hseq,hnext]
      dsimp only
      rw [changeLast_changeLast]
      rfl
    · rw [if_neg hsame] at hnext
      have hseq : next.document.resumeAfter.getLast?.map TraversalResume.seq = some visit.seq := by
        rw [hnext]
        dsimp only
        rw [List.getLast?_append,List.getLast?_singleton]
        rfl
      rw [framePlayed_after hafter' hlast',if_pos hseq,hnext]
      dsimp only
      rw [changeLast_append]
  · have hlinear : recorder.afterVisit = true → recorder.document.visits.getLast? = none := fun hafter =>
      Option.eq_none_iff_forall_not_mem.mpr fun visit hvisits => hvisit ⟨hafter,visit,hvisits⟩
    rw [framePlayed_linear hlinear] at hnext
    have hlinear' : next.afterVisit = true → next.document.visits.getLast? = none := hnext ▸ hlinear
    rw [framePlayed_linear hlinear']
    by_cases hnone : recorder.document.segments = []
    · rw [if_pos hnone] at hnext
      rw [hnext]
      rfl
    · rw [if_neg hnone] at hnext
      rw [hnext]
      dsimp only
      rw [if_neg (changeLast_ne_nil hnone),changeLast_changeLast]
      rfl

end Stretches

section Inference
variable {last : UInt64}

lemma Sequential.le_until {frame : UInt64} {rest : List RecorderCall} (hlast : last.toNat + 1 < 2 ^ 64)
    (h : Sequential last (.framePlayed frame :: rest)) : frame ≤ untilOf last rest := by
  induction rest generalizing frame with
  | nil => exact h.frames frame List.mem_cons_self
  | cons call rest ih =>
    have hframe := h.frames frame List.mem_cons_self
    cases (List.isChain_cons_cons.mp h.adjoin).1 with
    | frames =>
      have hnext : frame + 1 ≤ untilOf last rest := ih h.tail
      have hroom : frame.toNat + 1 < 2 ^ 64 := lt_of_le_of_lt (Nat.succ_le_succ hframe) hlast
      refine UInt64.le_trans ?_ hnext
      rw [UInt64.le_iff_toNat_le,toNat_succ hroom]
      exact Nat.le_succ _
    | stopped event =>
      have huntil : untilOf last (.inspection event :: rest) = event.frameBefore := if_pos hframe
      rw [huntil]
      exact UInt64.le_refl _

/-- The frames that are played and the events that happen, told one after another, are those that the events and the
last frame tell. -/
lemma hear_rest (hlast : last.toNat + 1 < 2 ^ 64) (rest : List RecorderCall) :
    (∀ (recorder : TraversalRecorder) frame, Taken last (.framePlayed frame :: rest) → recorder.Begun →
      rest.foldl TraversalRecorder.call (recorder.framePlayed frame) =
        TraversalRecorder.playEvents last (recorder.framePlayed (untilOf last rest)) (eventsOfCalls rest)) ∧
    ∀ (recorder : TraversalRecorder) event, Taken last (.inspection event :: rest) →
      rest.foldl TraversalRecorder.call recorder = TraversalRecorder.playEvents last
        (recorder.playStretch (event.frameAfter + 1) (untilOf last rest)) (eventsOfCalls rest) := by
  induction rest with
  | nil =>
    constructor
    · intro recorder frame h hbegun
      have hends : frame = last := h.ends _ rfl
      rw [hends]
      rfl
    · intro recorder event h
      have hends : last ≤ event.frameAfter := h.ends _ rfl
      have hafter := h.events event List.mem_cons_self
      have hquiet : ¬event.frameAfter + 1 ≤ last := by
        rw [UInt64.le_iff_toNat_le,toNat_succ hafter]
        rw [UInt64.le_iff_toNat_le] at hends
        omega
      change recorder = recorder.playStretch (event.frameAfter + 1) last
      rw [TraversalRecorder.playStretch,if_neg hquiet]
  | cons call rest ih =>
    obtain ⟨hframes,hevents⟩ := ih
    constructor
    · intro recorder frame h hbegun
      cases (List.isChain_cons_cons.mp h.adjoin).1 with
      | frames =>
        rw [List.foldl_cons]
        change List.foldl TraversalRecorder.call ((recorder.framePlayed frame).framePlayed (frame + 1)) rest = _
        rw [hbegun.framePlayed,hframes recorder (frame + 1) h.tail hbegun]
        rfl
      | stopped event =>
        have hframe : event.frameBefore ≤ last := h.frames _ List.mem_cons_self
        have huntil : untilOf last (.inspection event :: rest) = event.frameBefore := if_pos hframe
        rw [List.foldl_cons,huntil]
        change List.foldl TraversalRecorder.call ((recorder.framePlayed event.frameBefore).inspection event) rest = _
        rw [hevents _ event h.tail]
        rfl
    · intro recorder event h
      cases call with
      | framePlayed frame =>
        have hnext : frame = event.frameAfter + 1 := by
          cases (List.isChain_cons_cons.mp h.adjoin).1
          rfl
        subst hnext
        have hle := h.tail.toSequential.le_until hlast
        rw [List.foldl_cons]
        change List.foldl TraversalRecorder.call (recorder.framePlayed (event.frameAfter + 1)) rest =
          TraversalRecorder.playEvents last (recorder.playStretch (event.frameAfter + 1) (untilOf last rest))
            (eventsOfCalls rest)
        have hrest := hframes (recorder.framePlayed (event.frameAfter + 1)) _ h.tail (framePlayed_begun _ _)
        rw [framePlayed_same] at hrest
        rw [hrest,TraversalRecorder.playStretch,if_pos hle]
      | inspection next =>
        have hbetween : min next.frameBefore last ≤ event.frameAfter := (List.isChain_cons_cons.mp h.between).1
        have hafter := h.events event List.mem_cons_self
        have hquiet : ¬event.frameAfter + 1 ≤ min next.frameBefore last := by
          rw [UInt64.le_iff_toNat_le,toNat_succ hafter]
          rw [UInt64.le_iff_toNat_le] at hbetween
          omega
        rw [List.foldl_cons]
        change List.foldl TraversalRecorder.call (recorder.inspection next) rest = TraversalRecorder.playEvents last
          (recorder.playStretch (event.frameAfter + 1) (min next.frameBefore last)) (next :: eventsOfCalls rest)
        rw [TraversalRecorder.playStretch,if_neg hquiet,hevents _ next h.tail]
        rfl

lemma toNat_pred {n : UInt64} (h : n ≠ 0) : (n - 1).toNat + 1 = n.toNat := by
  have hpositive : 0 < n.toNat := Nat.pos_of_ne_zero fun hzero => h (UInt64.toNat_inj.mp hzero)
  rw [UInt64.toNat_sub_of_le n 1 (UInt64.le_iff_toNat_le.mpr hpositive),UInt64.toNat_one]
  omega

/-- Where no frame is played a recorder is told of the events alone. -/
lemma foldl_call_events {calls : List RecorderCall} (h : ∀ frame, .framePlayed frame ∉ calls)
    (recorder : TraversalRecorder) :
    calls.foldl TraversalRecorder.call recorder =
      (eventsOfCalls calls).foldl TraversalRecorder.inspection recorder := by
  induction calls generalizing recorder with
  | nil => rfl
  | cons call calls ih =>
    cases call with
    | framePlayed frame => exact absurd List.mem_cons_self (h frame)
    | inspection event => exact ih (fun frame hframe => h frame (List.mem_cons_of_mem _ hframe)) _

/-- The document of a take whose frames can be inferred is the one of a recorder that is told of them. -/
lemma traversalOfTake_eq {framesTotal consumed : UInt64} {calls : List RecorderCall}
    (hbegun : ∀ frame, calls.head? = some (.framePlayed frame) → frame = 0 ∧ calls.IsChain Adjoins)
    (hframes : ∀ frame, .framePlayed frame ∈ calls → frame < consumed)
    (hevents : ∀ event, .inspection event ∈ calls → event.frameAfter.toNat + 1 < 2 ^ 64)
    (hinferable : consumed ≠ 0 → Inferable (consumed - 1) calls) :
    traversalOfTake framesTotal consumed (eventsOfCalls calls) = documentOf framesTotal calls := by
  by_cases hnone : consumed = 0
  · have hquiet : ∀ frame, .framePlayed frame ∉ calls := by
      intro frame hframe
      have hlt := UInt64.lt_iff_toNat_lt.mp (hframes frame hframe)
      rw [hnone,UInt64.toNat_zero] at hlt
      exact Nat.not_lt_zero _ hlt
    rw [traversalOfTake,if_pos hnone,documentOf,foldl_call_events hquiet]
  · obtain ⟨⟨frame,hhead⟩,hbetween,hends⟩ := hinferable hnone
    obtain ⟨rfl,hadjoin⟩ := hbegun frame hhead
    obtain ⟨rest,rfl⟩ := List.head?_eq_some_iff.mp hhead
    have hlast := toNat_pred hnone
    have htaken : Taken (consumed - 1) (.framePlayed 0 :: rest) := by
      refine ⟨⟨hadjoin,fun frame hframe => ?_,hevents⟩,hbetween,hends⟩
      have hlt := UInt64.lt_iff_toNat_lt.mp (hframes frame hframe)
      rw [UInt64.le_iff_toNat_le]
      omega
    have hroom : (consumed - 1).toNat + 1 < 2 ^ 64 := hlast ▸ consumed.toNat_lt
    have hrest := (hear_rest hroom rest).1 ((TraversalRecorder.new framesTotal).framePlayed 0) 0 htaken
      (framePlayed_begun _ _)
    rw [framePlayed_same] at hrest
    have htold : (RecorderCall.framePlayed 0 :: rest).foldl TraversalRecorder.call (.new framesTotal) =
        TraversalRecorder.playEvents (consumed - 1)
          (((TraversalRecorder.new framesTotal).framePlayed 0).framePlayed (untilOf (consumed - 1) rest))
          (eventsOfCalls rest) := hrest
    have hevents : eventsOfCalls (.framePlayed 0 :: rest) = eventsOfCalls rest := rfl
    rw [documentOf,htold,traversalOfTake,if_neg hnone,hevents,untilOf]
    cases eventsOfCalls rest with
    | nil => rfl
    | cons event events => rfl

end Inference

section Invented
variable {recorder : TraversalRecorder}

lemma inspection_segments (recorder : TraversalRecorder) (event : InspectionEvent) :
    (recorder.inspection event).document.segments = recorder.document.segments := by
  unfold TraversalRecorder.inspection
  dsimp only
  split_ifs <;> rfl

lemma framePlayed_segments (h : recorder.document.segments ≠ []) (frame : UInt64) :
    (recorder.framePlayed frame).document.segments ≠ [] := by
  unfold TraversalRecorder.framePlayed
  dsimp only
  split
  · split_ifs <;> exact h
  · rw [if_neg h]
    exact changeLast_ne_nil h

lemma playStretch_segments (h : recorder.document.segments ≠ []) (resumed last : UInt64) :
    (recorder.playStretch resumed last).document.segments ≠ [] := by
  unfold TraversalRecorder.playStretch
  split
  · exact framePlayed_segments (framePlayed_segments h _) _
  · exact h

lemma playEvents_segments (h : recorder.document.segments ≠ []) (last : UInt64) (events : List InspectionEvent) :
    (TraversalRecorder.playEvents last recorder events).document.segments ≠ [] := by
  induction events generalizing recorder with
  | nil => exact h
  | cons event rest ih =>
    rw [← inspection_segments recorder event] at h
    exact ih (playStretch_segments h _ _)

/-- A segment is inferred of any inspection whose take consumed an input. -/
lemma traversalOfTake_segments (framesTotal : UInt64) {consumed : UInt64} (h : consumed ≠ 0)
    (events : List InspectionEvent) : (traversalOfTake framesTotal consumed events).segments ≠ [] := by
  have hfirst : ((TraversalRecorder.new framesTotal).framePlayed 0).document.segments ≠ [] := List.cons_ne_nil _ _
  rw [traversalOfTake,if_neg h]
  cases events with
  | nil => exact framePlayed_segments hfirst _
  | cons event rest => exact playEvents_segments (framePlayed_segments hfirst _) _ _

/-- A recorder that is told of no frame has no segment. -/
lemma documentOf_segments {calls : List RecorderCall} (h : ∀ frame, .framePlayed frame ∉ calls)
    (framesTotal : UInt64) : (documentOf framesTotal calls).segments = [] := by
  have hkept : ∀ (events : List InspectionEvent) (recorder : TraversalRecorder),
      (events.foldl TraversalRecorder.inspection recorder).document.segments = recorder.document.segments := by
    intro events
    induction events with
    | nil => exact fun recorder => rfl
    | cons event rest ih => exact fun recorder => (ih _).trans (inspection_segments recorder event)
  rw [documentOf,foldl_call_events h]
  exact hkept _ _

end Invented
end AytherRuntime.Inspection
