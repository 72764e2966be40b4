import AytherRuntime.Check.Presentation
import Mathlib.Data.Finset.Card
import Mathlib.Tactic.SplitIfs
import Mathlib.Tactic.Tauto
import Mathlib.Tactic.Push

/-! When a complete presentation is sound: its counts of late and affected frames against the frames that its reports
name. -/
namespace AytherRuntime.Check

section Reports

def PresentationReport.lateFrame : PresentationReport → Option ℕ
  | .late frame _ => some frame
  | _ => none

def PresentationReport.otherFrame : PresentationReport → Option ℕ
  | .affect frame => some frame
  | _ => none

/-- A delay above three periods, or an interruption. -/
def PresentationReport.Intolerable : PresentationReport → Prop
  | .late _ periodsLate => 3 < periodsLate
  | .interrupted _ => True
  | _ => False

/-- The code that a report gives a presentation without a problem so far. -/
def PresentationReport.problem : PresentationReport → Option String
  | .late _ _ => some "cadence_degraded"
  | .interrupted cause | .degrade cause => some cause.code
  | _ => none

def PresentationReport.stopped : PresentationReport → Option Bool
  | .cancel stoppedEarly => some stoppedEarly
  | _ => none

variable (takeFrames : ℕ) (reports : List PresentationReport)

/-- The late frames, each as often as it was reported. -/
def lateReports : List ℕ := reports.filterMap PresentationReport.lateFrame

/-- The frames that were affected by something else than being late. -/
def otherFrames : Finset ℕ := (reports.filterMap PresentationReport.otherFrame).toFinset

def budgetOf : ℕ := max 1 (takeFrames / 1000)

/-- The playback was stopped early, by the last report about it. -/
def StoppedEarly : Prop := (reports.filterMap PresentationReport.stopped).getLast? = some true

/-- Every delay and the number of late frames are within the tolerance, and nothing interrupted the presentation. -/
def Tolerable : Prop := (∀ report ∈ reports, ¬report.Intolerable) ∧ (lateReports reports).length ≤ budgetOf takeFrames

/-- A complete presentation says what it should: the playback was not cancelled nor interrupted, and every affected
frame is a tolerated late frame that nothing else affected. -/
def SoundlyComplete : Prop :=
  (presentation takeFrames reports).complete = true → ¬StoppedEarly reports ∧
    (∀ cause, PresentationReport.interrupted cause ∉ reports) ∧
    ∀ frame ∈ (presentation takeFrames reports).affectedSeen, frame ∈ lateReports reports ∧
      (∀ periodsLate, PresentationReport.late frame periodsLate ∈ reports → periodsLate ≤ 3) ∧
      (lateReports reports).length ≤ budgetOf takeFrames ∧ frame ∉ otherFrames reports

/-- A tolerable presentation, named by its cadence, in which something else affected a frame and the late reports
that repeat a frame are enough for the frames that only something else affected. -/
structure Compensates : Prop where
  running : ¬StoppedEarly reports
  first : (reports.filterMap PresentationReport.problem).head? = some "cadence_degraded"
  tolerable : Tolerable takeFrames reports
  other : (otherFrames reports).Nonempty
  compensated : (otherFrames reports \ (lateReports reports).toFinset).card ≤
    (lateReports reports).length - (lateReports reports).toFinset.card

end Reports

section Counts
variable {takeFrames : ℕ} {reports : List PresentationReport}

lemma presentation_snoc (report : PresentationReport) :
    presentation takeFrames (reports ++ [report]) = (presentation takeFrames reports).report takeFrames report :=
  List.foldl_append

lemma cause_code_ne (cause : PresentationCause) :
    cause.code ≠ "presented" ∧ cause.code ≠ "cadence_degraded" ∧ cause.code ≠ "" := by
  cases cause <;> decide

/-- The counts of a presentation are those of its reports. -/
structure Counts (takeFrames : ℕ) (reports : List PresentationReport) (presentation : ReplayPresentation) : Prop where
  mode : presentation.mode = "visible"
  code : presentation.code = ((reports.filterMap PresentationReport.problem).head?).getD "presented"
  cancelled : presentation.cancelled = ((reports.filterMap PresentationReport.stopped).getLast?).getD false
  affected : presentation.affectedFrames = presentation.affectedSeen.card
  seen : presentation.affectedSeen = (lateReports reports).toFinset ∪ otherFrames reports
  late : presentation.lateFrames = (lateReports reports).length
  intolerable : presentation.intolerable = true ↔ ¬Tolerable takeFrames reports

section Snoc
variable {report : PresentationReport}

lemma filterMap_snoc_none {α : Type} {read : PresentationReport → Option α} (h : read report = none) :
    (reports ++ [report]).filterMap read = reports.filterMap read := by
  rw [List.filterMap_append,List.filterMap_cons_none h,List.filterMap_nil,List.append_nil]

lemma lateReports_snoc_none (h : report.lateFrame = none) : lateReports (reports ++ [report]) = lateReports reports :=
  filterMap_snoc_none h

lemma otherFrames_snoc_none (h : report.otherFrame = none) : otherFrames (reports ++ [report]) = otherFrames reports :=
  congrArg List.toFinset (filterMap_snoc_none h)

lemma tolerable_snoc_late (frame : ℕ) (periodsLate : ℚ) :
    Tolerable takeFrames (reports ++ [PresentationReport.late frame periodsLate]) ↔ Tolerable takeFrames reports ∧
      ¬3 < periodsLate ∧ (lateReports reports).length + 1 ≤ budgetOf takeFrames := by
  have hlate : lateReports (reports ++ [PresentationReport.late frame periodsLate]) = lateReports reports ++ [frame] :=
    List.filterMap_append
  unfold Tolerable
  rw [hlate,List.length_append,List.length_singleton,List.forall_mem_append]
  simp only [List.forall_mem_singleton,PresentationReport.Intolerable]
  constructor
  · rintro ⟨⟨hall,htime⟩,hcount⟩
    exact ⟨⟨hall,by omega⟩,htime,hcount⟩
  · rintro ⟨⟨hall,-⟩,htime,hcount⟩
    exact ⟨⟨hall,htime⟩,hcount⟩

lemma tolerable_snoc (h : report.lateFrame = none) :
    Tolerable takeFrames (reports ++ [report]) ↔ Tolerable takeFrames reports ∧ ¬report.Intolerable := by
  unfold Tolerable
  rw [lateReports_snoc_none h,List.forall_mem_append]
  simp only [List.forall_mem_singleton]
  tauto

end Snoc

/-- What affecting a frame changes: the frames seen and their count. -/
lemma affect_spec {presentation : ReplayPresentation} (h : presentation.affectedFrames = presentation.affectedSeen.card)
    (frame : ℕ) :
    (presentation.affect frame).affectedSeen = insert frame presentation.affectedSeen ∧
      (presentation.affect frame).affectedFrames = (presentation.affect frame).affectedSeen.card ∧
      (presentation.affect frame).mode = presentation.mode ∧ (presentation.affect frame).code = presentation.code ∧
      (presentation.affect frame).cancelled = presentation.cancelled ∧
      (presentation.affect frame).lateFrames = presentation.lateFrames ∧
      (presentation.affect frame).intolerable = presentation.intolerable := by
  unfold ReplayPresentation.affect
  by_cases hseen : frame ∈ presentation.affectedSeen
  · rw [Finset.insert_eq_of_mem hseen]
    by_cases hnone : presentation.affectedFrames = 0
    · simp only [hnone,hseen,if_true,true_and,and_true]
      exact hnone.symm.trans h
    · simp only [hnone,hseen,if_true,if_false,true_and,and_true]
      exact h
  · by_cases hnone : presentation.affectedFrames = 0
    · simp only [hnone,hseen,if_true,if_false,true_and,and_true]
      rw [Finset.card_insert_of_notMem hseen,← h,hnone]
    · simp only [hnone,hseen,if_false,true_and,and_true]
      rw [Finset.card_insert_of_notMem hseen,h]

lemma degrade_spec (presentation : ReplayPresentation) (code : String) :
    (presentation.degrade code).mode = presentation.mode ∧
      (presentation.degrade code).cancelled = presentation.cancelled ∧
      (presentation.degrade code).affectedFrames = presentation.affectedFrames ∧
      (presentation.degrade code).affectedSeen = presentation.affectedSeen ∧
      (presentation.degrade code).lateFrames = presentation.lateFrames ∧
      (presentation.degrade code).intolerable = presentation.intolerable := by
  unfold ReplayPresentation.degrade
  split_ifs <;> simp

/-- A problem has another name than a presentation without one. -/
lemma first_problem_ne {code : String} (h : (reports.filterMap PresentationReport.problem).head? = some code) :
    code ≠ "presented" := by
  obtain ⟨report,-,hreport⟩ := List.mem_filterMap.mp (List.mem_of_head? h)
  cases report with
  | late frame periodsLate => cases hreport; decide
  | interrupted cause => cases hreport; exact (cause_code_ne cause).1
  | degrade cause => cases hreport; exact (cause_code_ne cause).1
  | presented frame => cases hreport
  | affect frame => cases hreport
  | cancel stoppedEarly => cases hreport

/-- The first problem of the reports stays the code. -/
lemma degrade_code {presentation : ReplayPresentation} {reports : List PresentationReport}
    (h : presentation.code = ((reports.filterMap PresentationReport.problem).head?).getD "presented")
    {report : PresentationReport} {code : String} (hreport : report.problem = some code) :
    (presentation.degrade code).code =
      (((reports ++ [report]).filterMap PresentationReport.problem).head?).getD "presented" := by
  have hproblems : (reports ++ [report]).filterMap PresentationReport.problem =
      reports.filterMap PresentationReport.problem ++ [code] := by
    rw [List.filterMap_append,List.filterMap_cons_some hreport,List.filterMap_nil]
  rw [hproblems,List.head?_append]
  unfold ReplayPresentation.degrade
  cases hfirst : (reports.filterMap PresentationReport.problem).head? with
  | none =>
    rw [hfirst] at h
    rw [if_pos (show presentation.code = "presented" from h)]
    rfl
  | some first =>
    rw [hfirst] at h
    have hnamed : presentation.code ≠ "presented" := h ▸ first_problem_ne hfirst
    rw [if_neg hnamed,h]
    rfl

lemma Counts.step {presentation : ReplayPresentation} (h : Counts takeFrames reports presentation)
    (report : PresentationReport) :
    Counts takeFrames (reports ++ [report]) (presentation.report takeFrames report) := by
  cases report with
  | presented frame =>
    have hsame : (presentation.presented frame).mode = presentation.mode ∧
        (presentation.presented frame).code = presentation.code ∧
        (presentation.presented frame).cancelled = presentation.cancelled ∧
        (presentation.presented frame).affectedFrames = presentation.affectedFrames ∧
        (presentation.presented frame).affectedSeen = presentation.affectedSeen ∧
        (presentation.presented frame).lateFrames = presentation.lateFrames ∧
        (presentation.presented frame).intolerable = presentation.intolerable := by
      unfold ReplayPresentation.presented
      split_ifs <;> simp
    obtain ⟨hmode,hcode,hcancelled,haffected,hseen,hlate,hintolerable⟩ := hsame
    refine ⟨hmode.trans h.mode,?_,?_,?_,?_,?_,?_⟩
    · rw [filterMap_snoc_none rfl]
      exact hcode.trans h.code
    · rw [filterMap_snoc_none rfl]
      exact hcancelled.trans h.cancelled
    · exact haffected.trans (h.affected.trans (congrArg Finset.card hseen.symm))
    · rw [lateReports_snoc_none rfl,otherFrames_snoc_none rfl]
      exact hseen.trans h.seen
    · rw [lateReports_snoc_none rfl]
      exact hlate.trans h.late
    · rw [tolerable_snoc rfl]
      show (presentation.presented frame).intolerable = true ↔ _
      rw [hintolerable,h.intolerable]
      simp [PresentationReport.Intolerable]
  | late frame periodsLate =>
    obtain ⟨hseen,hcount,hmode,hcode,hcancelled,hlate,hintolerable⟩ := affect_spec h.affected frame
    obtain ⟨hmode',hcancelled',haffected',hseen',hlate',hintolerable'⟩ :=
      degrade_spec (presentation.affect frame) "cadence_degraded"
    have hcounted : presentation.report takeFrames (.late frame periodsLate) =
        { (presentation.affect frame).degrade "cadence_degraded" with
          lateFrames := presentation.lateFrames + 1
          intolerable := decide (presentation.intolerable = true ∨ 3 < periodsLate ∨
            budgetOf takeFrames < presentation.lateFrames + 1) } := by
      unfold ReplayPresentation.report ReplayPresentation.late
      dsimp only
      rw [hlate',hlate]
      by_cases hnow : 3 < periodsLate ∨ budgetOf takeFrames < presentation.lateFrames + 1
      · rw [decide_eq_true (Or.inr hnow)]
        exact if_pos hnow
      · have hsame : decide (presentation.intolerable = true ∨ 3 < periodsLate ∨
            budgetOf takeFrames < presentation.lateFrames + 1) = presentation.intolerable := by
          simp only [or_iff_left hnow,Bool.decide_eq_true]
        rw [hsame,← hintolerable,← hintolerable']
        exact if_neg hnow
    rw [hcounted]
    refine ⟨hmode'.trans (hmode.trans h.mode),?_,?_,?_,?_,?_,?_⟩
    · exact degrade_code (hcode.trans h.code) rfl
    · rw [filterMap_snoc_none rfl]
      exact hcancelled'.trans (hcancelled.trans h.cancelled)
    · exact haffected'.trans (hcount.trans (congrArg Finset.card hseen'.symm))
    · refine hseen'.trans (hseen.trans ?_)
      have hlateSeen :
          lateReports (reports ++ [PresentationReport.late frame periodsLate]) = lateReports reports ++ [frame] :=
        List.filterMap_append
      rw [h.seen,otherFrames_snoc_none rfl,hlateSeen,List.toFinset_append]
      ext other
      simp
    · have hlateSeen :
          lateReports (reports ++ [PresentationReport.late frame periodsLate]) = lateReports reports ++ [frame] :=
        List.filterMap_append
      rw [hlateSeen,List.length_append,List.length_singleton,← h.late]
    · rw [tolerable_snoc_late,decide_eq_true_iff,h.intolerable,h.late]
      rw [not_and_or,not_and_or,not_not,not_le]
  | affect frame =>
    obtain ⟨hseen,hcount,hmode,hcode,hcancelled,hlate,hintolerable⟩ := affect_spec h.affected frame
    refine ⟨hmode.trans h.mode,?_,?_,hcount,?_,?_,?_⟩
    · rw [filterMap_snoc_none rfl]
      exact hcode.trans h.code
    · rw [filterMap_snoc_none rfl]
      exact hcancelled.trans h.cancelled
    · rw [lateReports_snoc_none rfl]
      refine hseen.trans ?_
      rw [h.seen,otherFrames,otherFrames,List.filterMap_append,List.toFinset_append]
      ext other
      simp [PresentationReport.otherFrame]
    · rw [lateReports_snoc_none rfl]
      exact hlate.trans h.late
    · rw [tolerable_snoc rfl]
      show (presentation.affect frame).intolerable = true ↔ _
      rw [hintolerable,h.intolerable]
      simp [PresentationReport.Intolerable]
  | interrupted cause =>
    have hempty : cause.code ≠ "" := (cause_code_ne cause).2.2
    have hinterrupted : presentation.interrupted cause.code =
        { presentation.degrade cause.code with intolerable := true } := by
      unfold ReplayPresentation.interrupted ReplayPresentation.degrade
      dsimp only
      rw [if_pos hempty]
      by_cases hpresented : presentation.code = "presented"
      · rw [if_pos ⟨hpresented,hempty⟩,if_pos hpresented]
      · rw [if_neg fun hboth => hpresented hboth.1,if_neg hpresented]
    obtain ⟨hmode,hcancelled,haffected,hseen,hlate,-⟩ := degrade_spec presentation cause.code
    show Counts takeFrames _ (presentation.interrupted cause.code)
    rw [hinterrupted]
    refine ⟨hmode.trans h.mode,degrade_code h.code rfl,?_,?_,?_,?_,?_⟩
    · rw [filterMap_snoc_none rfl]
      exact hcancelled.trans h.cancelled
    · exact haffected.trans (h.affected.trans (congrArg Finset.card hseen.symm))
    · rw [lateReports_snoc_none rfl,otherFrames_snoc_none rfl]
      exact hseen.trans h.seen
    · rw [lateReports_snoc_none rfl]
      exact hlate.trans h.late
    · rw [tolerable_snoc rfl]
      simp [PresentationReport.Intolerable]
  | degrade cause =>
    obtain ⟨hmode,hcancelled,haffected,hseen,hlate,hintolerable⟩ := degrade_spec presentation cause.code
    refine ⟨hmode.trans h.mode,degrade_code h.code rfl,?_,?_,?_,?_,?_⟩
    · rw [filterMap_snoc_none rfl]
      exact hcancelled.trans h.cancelled
    · exact haffected.trans (h.affected.trans (congrArg Finset.card hseen.symm))
    · rw [lateReports_snoc_none rfl,otherFrames_snoc_none rfl]
      exact hseen.trans h.seen
    · rw [lateReports_snoc_none rfl]
      exact hlate.trans h.late
    · rw [tolerable_snoc rfl]
      show (presentation.degrade cause.code).intolerable = true ↔ _
      rw [hintolerable,h.intolerable]
      simp [PresentationReport.Intolerable]
  | cancel stoppedEarly =>
    refine ⟨h.mode,?_,?_,h.affected,?_,?_,?_⟩
    · rw [filterMap_snoc_none rfl]
      exact h.code
    · have hlast : [PresentationReport.cancel stoppedEarly].filterMap PresentationReport.stopped = [stoppedEarly] := rfl
      rw [List.filterMap_append,hlast,List.getLast?_concat]
      rfl
    · rw [lateReports_snoc_none rfl,otherFrames_snoc_none rfl]
      exact h.seen
    · rw [lateReports_snoc_none rfl]
      exact h.late
    · rw [tolerable_snoc rfl]
      simp only [PresentationReport.Intolerable,not_false_eq_true,and_true]
      exact h.intolerable

/-- The counts of every presentation are those of its reports. -/
lemma presentation_counts (takeFrames : ℕ) (reports : List PresentationReport) :
    Counts takeFrames reports (presentation takeFrames reports) := by
  induction reports using List.reverseRecOn with
  | nil =>
    refine ⟨rfl,rfl,rfl,rfl,rfl,rfl,iff_of_false (by simp [presentation]) ?_⟩
    simp [Tolerable,lateReports]
  | append_singleton reports report ih =>
    rw [presentation_snoc]
    exact ih.step report

/-- A visible presentation is complete when nothing affected it, or when its first problem is its cadence and its
late reports are as many as its affected frames. -/
lemma complete_iff : (presentation takeFrames reports).complete = true ↔ ¬StoppedEarly reports ∧
    (((reports.filterMap PresentationReport.problem).head? = none ∧ lateReports reports = [] ∧
        otherFrames reports = ∅) ∨
      ((reports.filterMap PresentationReport.problem).head? = some "cadence_degraded" ∧ Tolerable takeFrames reports ∧
        ((lateReports reports).toFinset ∪ otherFrames reports).card ≤ (lateReports reports).length)) := by
  have h := presentation_counts takeFrames reports
  have hstopped : (presentation takeFrames reports).cancelled = true ↔ StoppedEarly reports := by
    rw [h.cancelled,StoppedEarly]
    cases (reports.filterMap PresentationReport.stopped).getLast? <;> simp
  have hnone : (presentation takeFrames reports).affectedFrames = 0 ↔
      lateReports reports = [] ∧ otherFrames reports = ∅ := by
    rw [h.affected,h.seen,Finset.card_eq_zero,Finset.union_eq_empty,List.toFinset_eq_empty_iff]
  have hcount : (presentation takeFrames reports).affectedFrames ≤ (presentation takeFrames reports).lateFrames ↔
      ((lateReports reports).toFinset ∪ otherFrames reports).card ≤ (lateReports reports).length := by
    rw [h.affected,h.seen,h.late]
  unfold ReplayPresentation.complete
  rw [h.mode,if_neg (by decide)]
  by_cases hcancelled : StoppedEarly reports
  · rw [if_pos (hstopped.mpr hcancelled)]
    exact iff_of_false (by simp) fun hall => hall.1 hcancelled
  rw [if_neg fun hflag => hcancelled (hstopped.mp hflag)]
  simp only [hcancelled,not_false_eq_true,true_and]
  cases hfirst : (reports.filterMap PresentationReport.problem).head? with
  | none =>
    have hcode : (presentation takeFrames reports).code = "presented" := by rw [h.code,hfirst]; rfl
    rw [hcode]
    simp [hnone]
  | some code =>
    have hcode : (presentation takeFrames reports).code = code := by rw [h.code,hfirst]; rfl
    rw [hcode]
    simp only [first_problem_ne hfirst,false_and,if_false,Bool.and_eq_true,decide_eq_true_eq,Bool.not_eq_true',
      reduceCtorEq,false_or,Option.some.injEq,and_assoc]
    have htolerable : (presentation takeFrames reports).intolerable = false ↔ Tolerable takeFrames reports := by
      rw [← Bool.not_eq_true,h.intolerable,not_not]
    rw [htolerable,hcount]

/-- Late frames with the frames that only something else affected are as many as the late reports exactly when the
reports that repeat a frame are as many as those others. -/
lemma covered_iff : ((lateReports reports).toFinset ∪ otherFrames reports).card ≤ (lateReports reports).length ↔
    (otherFrames reports \ (lateReports reports).toFinset).card ≤
      (lateReports reports).length - (lateReports reports).toFinset.card := by
  have hsum : ((lateReports reports).toFinset ∪ otherFrames reports).card =
      (lateReports reports).toFinset.card + (otherFrames reports \ (lateReports reports).toFinset).card := by
    rw [← Finset.union_sdiff_self_eq_union,Finset.card_union_of_disjoint Finset.disjoint_sdiff]
  have hle := List.toFinset_card_le (lateReports reports)
  omega

/-- A complete presentation says what it should exactly when it does not make up for frames that something else
affected by frames that were late more than once. -/
theorem soundlyComplete_iff (takeFrames : ℕ) (reports : List PresentationReport) :
    SoundlyComplete takeFrames reports ↔ ¬Compensates takeFrames reports := by
  have hseen := (presentation_counts takeFrames reports).seen
  constructor
  · intro hsound hcompensates
    have hcomplete := complete_iff.mpr ⟨hcompensates.running,Or.inr ⟨hcompensates.first,hcompensates.tolerable,
      covered_iff.mpr hcompensates.compensated⟩⟩
    obtain ⟨frame,hframe⟩ := hcompensates.other
    obtain ⟨-,-,hframes⟩ := hsound hcomplete
    exact (hframes frame (by rw [hseen]; exact Finset.mem_union_right _ hframe)).2.2.2 hframe
  · intro hnot hcomplete
    obtain ⟨hrunning,hclean | ⟨hfirst,htolerable,hcovered⟩⟩ := complete_iff.mp hcomplete
    · obtain ⟨hproblems,hlate,hother⟩ := hclean
      refine ⟨hrunning,fun cause hcause => ?_,fun frame hframe => ?_⟩
      · have hproblem : cause.code ∈ reports.filterMap PresentationReport.problem :=
          List.mem_filterMap.mpr ⟨_,hcause,rfl⟩
        rw [List.head?_eq_none_iff.mp hproblems] at hproblem
        cases hproblem
      · rw [hseen,hlate,hother] at hframe
        simp at hframe
    · have hother : otherFrames reports = ∅ := by
        by_contra hsome
        exact hnot ⟨hrunning,hfirst,htolerable,Finset.nonempty_iff_ne_empty.mpr hsome,covered_iff.mp hcovered⟩
      refine ⟨hrunning,fun cause hcause => htolerable.1 _ hcause trivial,fun frame hframe => ?_⟩
      rw [hseen,hother,Finset.union_empty,List.mem_toFinset] at hframe
      refine ⟨hframe,fun periodsLate hlate => ?_,htolerable.2,by simp [hother]⟩
      exact not_lt.mp (htolerable.1 _ hlate)

/-- A frame that was late and then failed to present does not keep the presentation from being complete. -/
theorem late_frame_compensates_its_own_loss :
    ¬SoundlyComplete 6 [.late 4 2,.affect 4,.degrade .videoPresentFailed] := by
  intro hsound
  have hframes := (hsound (by decide +kernel)).2.2 4 (by decide +kernel)
  exact absurd hframes.2.2.2 (by decide)

end Counts
end AytherRuntime.Check
