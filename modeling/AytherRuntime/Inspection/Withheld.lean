import AytherRuntime.Inspection.Exclusions

/-! What the gate and the session hold of the withheld facts, over any calm order of their steps: the
facts of a slot since its last exchange, also of one on its way through `receive_fact`. -/
namespace AytherRuntime.Inspection
open Trace SilentProductionGate
variable {h : History} {t : Take} {runId : String}

/-- The slots that `take_exclusions` is done with. -/
def GatePhase.taken : GatePhase → ℕ
  | .recovering next | .lastRead next | .firstRead next => next
  | _ => 0

/-- The last sequence of a slot has been exchanged in this recovery. -/
def GatePhase.hasRead : GatePhase → ℕ → Bool
  | .recovering next, slot => slot < next
  | .lastRead next, slot | .firstRead next, slot => slot ≤ next
  | _, _ => false

/-- The session is between the exchanges of a slot. -/
def GatePhase.Amid (phase : GatePhase) (slot : ℕ) : Prop := phase = .lastRead slot ∨ phase = .firstRead slot

/-- What the gate and the session hold of the withheld facts: each slot those of its period, but for
the one that is being exchanged. -/
structure Gates (t : Take) (h : History) (phase : GatePhase) : Prop where
  silent : t.gate.silent = h.silent
  taken : phase.taken ≤ producerSlots
  amid : ∀ slot, phase.Amid slot → slot < producerSlots
  period : ∀ slot < producerSlots,
    h.period (slot + 1) = if phase.hasRead slot then h.declarations + 1 else h.declarations
  keeps : ∀ slot < producerSlots, phase ≠ .lastRead slot →
    t.gate.Keeping slot (t.receiving slot) (h.quiet (slot + 1) (h.period (slot + 1)))
  lastRead : ∀ slot, phase = .lastRead slot → t.receiving slot = none ∧
    t.gate.excludedFirst slot = (h.quiet (slot + 1) h.declarations).headD 0 ∧
      t.gate.excludedLast slot = 0 ∧ t.gate.excludedUnordered slot = false ∧
        h.quiet (slot + 1) (h.declarations + 1) = []
  last : ∀ slot, phase.Amid slot → t.last = ((h.quiet (slot + 1) h.declarations).getLast?).getD 0
  first : ∀ slot, phase = .firstRead slot → t.first = (h.quiet (slot + 1) h.declarations).headD 0
  excluded : t.excluded = (List.range phase.taken).filterMap fun slot =>
    spanned (slot + 1) (h.quiet (slot + 1) h.declarations)

/-- What the session has sent is what passed and what it declared. -/
structure Sends (runId : String) (t : Take) (h : History) : Prop where
  recoveries : t.recoveries = h.declarations
  declared : t.declared = (List.range h.declarations).flatMap h.intervals
  forwarded : t.forwarded = (h.arrivals.filter fun a => !a.silent).map fun a => a.fact.id
  withheld : t.withheld = (h.arrivals.filter fun a => a.silent).map fun a => a.fact.id
  sent : ∃ exclusions, t.sent.Perm
      (((h.arrivals.filter fun a => !a.silent).map fun a => durableFact runId a.fact) ++ exclusions) ∧
    List.Forall₂ (Declares runId) exclusions t.declared

variable {phase : GatePhase}

lemma Gates.declarations_le (hg : Gates t h phase) {slot : ℕ} (hslot : slot < producerSlots) :
    h.declarations ≤ h.period (slot + 1) := by
  rw [hg.period slot hslot]
  split_ifs <;> omega

/-- A fact joins the current period of its slot alone. -/
lemma quiet_arrives_eq {fact : EngineFact} {slot period : ℕ} (hlt : period < h.period (slot + 1)) :
    (h.next (.arrives fact)).quiet (slot + 1) period = h.quiet (slot + 1) period := by
  rw [quiet_arrives,if_neg,List.append_nil]
  rintro ⟨-,hperiod,hsame⟩
  rw [hsame] at hperiod
  omega

lemma Gates.quiet_read (hg : Gates t h phase) {fact : EngineFact} {slot : ℕ} (hslot : slot < producerSlots)
    (hread : phase.hasRead slot = true) :
    (h.next (.arrives fact)).quiet (slot + 1) h.declarations = h.quiet (slot + 1) h.declarations := by
  refine quiet_arrives_eq ?_
  rw [hg.period slot hslot,if_pos hread]
  exact Nat.lt_succ_self _

lemma GatePhase.Amid.hasRead {slot : ℕ} (hamid : phase.Amid slot) : phase.hasRead slot = true := by
  rcases hamid with rfl | rfl <;> simp [GatePhase.hasRead]

lemma GatePhase.hasRead_of_taken {slot : ℕ} (hslot : slot < phase.taken) : phase.hasRead slot = true := by
  cases phase with
  | recovering | lastRead | firstRead =>
    simp only [GatePhase.taken] at hslot
    simp only [GatePhase.hasRead,decide_eq_true_eq]
    omega
  | audible | settled | finished => exact absurd hslot (Nat.not_lt_zero _)

/-- `receive_fact` has not touched the slots when it has read whether the gate is silent. -/
lemma receive_gate (fact : EngineFact) : ∃ excludedFacts, (t.receive runId fact).gate =
    { t.gate with excludedFacts } := by
  unfold Take.receive
  split_ifs
  · exact ⟨_,rfl⟩
  · exact ⟨_,rfl⟩

lemma receive_locals (fact : EngineFact) : (t.receive runId fact).last = t.last ∧
    (t.receive runId fact).first = t.first ∧ (t.receive runId fact).excluded = t.excluded := by
  unfold Take.receive
  split_ifs <;> exact ⟨rfl,rfl,rfl⟩

lemma receive_receiving (fact : EngineFact) {slot : ℕ} (hslot : slot < producerSlots) :
    (t.receive runId fact).receiving slot = if t.gate.silent ∧ fact.id.producer = slot + 1 then
      some (.counted fact.id.sequence) else t.receiving slot := by
  unfold Take.receive
  by_cases hsilent : t.gate.silent = true
  · rw [if_pos hsilent]
    by_cases hown : slotOf fact.id = some slot
    · rw [if_pos ⟨hsilent,(slotOf_eq_some hslot).mp hown⟩]
      simp [hown]
    · rw [if_neg fun hin => hown ((slotOf_eq_some hslot).mpr hin.2)]
      cases hother : slotOf fact.id with
      | none => rfl
      | some other =>
        have hne : slot ≠ other := fun hsame => hown (hsame ▸ hother)
        simp [Function.update_of_ne hne]
  · simp [hsilent]

lemma Gates.arrives {fact : EngineFact} (hg : Gates t h phase)
    (hserial : ∀ slot, fact.id.producer = slot + 1 → t.receiving slot = none)
    (hapart : ∀ slot, fact.id.producer = slot + 1 → phase ≠ .lastRead slot) :
    Gates (t.next runId (.arrives fact)) (h.next (.arrives fact)) phase := by
  obtain ⟨excludedFacts,hgate⟩ := @receive_gate t runId fact
  obtain ⟨hlast,hfirst,hexcluded⟩ := @receive_locals t runId fact
  change Gates (t.receive runId fact) _ _
  -- What is read of a slot is of an earlier period than what arrives.
  have hread : ∀ slot, slot < producerSlots → phase.hasRead slot = true →
      (h.next (.arrives fact)).quiet (slot + 1) h.declarations = h.quiet (slot + 1) h.declarations :=
    fun slot hslot hread => hg.quiet_read hslot hread
  have hamid : ∀ slot, phase.Amid slot →
      (h.next (.arrives fact)).quiet (slot + 1) h.declarations = h.quiet (slot + 1) h.declarations :=
    fun slot hamid => hread slot (hg.amid slot hamid) hamid.hasRead
  refine ⟨?_,hg.taken,hg.amid,hg.period,?_,?_,?_,?_,?_⟩
  · rw [hgate]
    exact hg.silent
  · intro slot hslot hphase
    have hold := hg.keeps slot hslot hphase
    rw [receive_receiving fact hslot,hg.silent,hgate,quiet_arrives]
    by_cases hown : h.silent = true ∧ fact.id.producer = slot + 1
    · rw [if_pos hown,if_pos ⟨hown.1,congrArg h.period hown.2,hown.2⟩]
      rw [hserial slot hown.2] at hold
      exact ⟨_,rfl,hold⟩
    · rw [if_neg hown,if_neg fun hin => hown ⟨hin.1,hin.2.2⟩,List.append_nil]
      exact hold.congr rfl rfl rfl
  · intro slot hphase
    have hslot := hg.amid slot (Or.inl hphase)
    have hother : ¬(t.gate.silent = true ∧ fact.id.producer = slot + 1) := fun hin => hapart slot hin.2 hphase
    have hnext : (h.next (.arrives fact)).quiet (slot + 1) (h.declarations + 1) =
        h.quiet (slot + 1) (h.declarations + 1) := by
      rw [quiet_arrives,if_neg fun hin => hapart slot hin.2.2 hphase,List.append_nil]
    obtain ⟨hidle,hhead,hzero,hordered,hnil⟩ := hg.lastRead slot hphase
    rw [receive_receiving fact hslot,if_neg hother,hgate]
    refine ⟨hidle,?_,hzero,hordered,hnext.trans hnil⟩
    exact hhead.trans (congrArg (·.headD 0) (hamid slot (Or.inl hphase)).symm)
  · intro slot hphase
    rw [hlast,hg.last slot hphase]
    exact congrArg (fun sequences => sequences.getLast?.getD 0) (hamid slot hphase).symm
  · intro slot hphase
    rw [hfirst,hg.first slot hphase]
    exact congrArg (·.headD 0) (hamid slot (Or.inr hphase)).symm
  · rw [hexcluded,hg.excluded]
    refine List.filterMap_congr fun slot hslot => ?_
    have htaken := List.mem_range.mp hslot
    exact congrArg (spanned (slot + 1))
      (hread slot (htaken.trans_le hg.taken) (GatePhase.hasRead_of_taken htaken)).symm

lemma Gates.proceeds (hh : Arranged h) (hg : Gates t h phase) (slot : ℕ) :
    Gates (t.next runId (.proceeds slot)) (h.next (.proceeds slot)) phase := by
  change Gates (t.proceed slot) h phase
  unfold Take.proceed
  cases hreceiving : t.receiving slot with
  | none => exact hg
  | some receiving =>
    dsimp only
    refine ⟨(SilentProductionGate.proceed_silent slot receiving).trans hg.silent,hg.taken,hg.amid,
      hg.period,?_,?_,hg.last,hg.first,hg.excluded⟩
    · intro other hother hphase
      have hold := hg.keeps other hother hphase
      dsimp only
      by_cases hsame : other = slot
      · subst hsame
        rw [hreceiving] at hold
        rw [Function.update_self]
        exact hold.proceed (fun _ hs => hh.quiet_pos hs) (hh.quiet_pairwise _ _)
      · obtain ⟨hfirst,hlast,hunordered⟩ := SilentProductionGate.proceed_other hsame receiving
        rw [Function.update_of_ne hsame]
        exact hold.congr hfirst hlast hunordered
    · intro other hphase
      obtain ⟨hidle,hhead,hzero,hordered,hnil⟩ := hg.lastRead other hphase
      have hne : other ≠ slot := by
        rintro rfl
        rw [hidle] at hreceiving
        cases hreceiving
      obtain ⟨hfirst,hlast,hunordered⟩ := SilentProductionGate.proceed_other hne receiving
      exact ⟨(Function.update_of_ne hne ..).trans hidle,hfirst.trans hhead,hlast.trans hzero,
        hunordered.trans hordered,hnil⟩

/-- The session is outside `take_exclusions`, or at its start. -/
def GatePhase.Rests (phase : GatePhase) : Prop := phase.taken = 0 ∧ ∀ slot, phase.hasRead slot = false

lemma GatePhase.Rests.not_amid (hrests : phase.Rests) (slot : ℕ) : ¬phase.Amid slot := by
  intro hamid
  have hread := hamid.hasRead
  rw [hrests.2 slot] at hread
  cases hread

lemma Gates.setAudible (hg : Gates t h phase) (hrests : phase.Rests) {phase' : GatePhase}
    (hrests' : phase'.Rests) (value : Bool) {h' : History} (hsilent : h'.silent = !value)
    (hsame : h'.period = h.period ∧ h'.declarations = h.declarations ∧ h'.arrivals = h.arrivals) :
    Gates (t.setAudible value) h' phase' := by
  obtain ⟨hperiod,hdeclarations,harrivals⟩ := hsame
  cases h
  cases h'
  dsimp only at hsilent hperiod hdeclarations harrivals
  subst hsilent hperiod hdeclarations harrivals
  have hexcluded := hg.excluded
  rw [hrests.1] at hexcluded
  refine ⟨rfl,hrests'.1.trans_le (Nat.zero_le _),fun slot hamid => absurd hamid (hrests'.not_amid slot),?_,?_,
    fun slot hphase => absurd (Or.inl hphase) (hrests'.not_amid slot),
    fun slot hamid => absurd hamid (hrests'.not_amid slot),
    fun slot hphase => absurd (Or.inr hphase) (hrests'.not_amid slot),by rw [hrests'.1]; exact hexcluded⟩
  · intro slot hslot
    have hold := hg.period slot hslot
    rw [hrests.2 slot] at hold
    rw [hrests'.2 slot]
    exact hold
  · intro slot hslot _
    exact (hg.keeps slot hslot fun hphase => hrests.not_amid slot (Or.inl hphase)).congr rfl rfl rfl

/-- No fact is withheld in a period that has not begun. -/
lemma Arranged.quiet_later (hh : Arranged h) {producer period : ℕ} (hlt : h.period producer < period) :
    h.quiet producer period = [] := by
  rw [List.eq_nil_iff_forall_not_mem]
  intro s hs
  obtain ⟨a,ha,-,rfl,hid⟩ := mem_quiet.mp hs
  have hle := hh.period a ha
  rw [hid] at hle
  exact absurd hlt (Nat.not_lt.mpr hle)

lemma Gates.exchangesLast {slot : ℕ} (hh : Arranged h) (hg : Gates t h (.recovering slot))
    (hslot : slot < producerSlots) (hidle : t.receiving slot = none) :
    Gates (t.next runId (.exchangesLast slot)) (h.next (.exchangesLast slot)) (.lastRead slot) := by
  have hperiod := hg.period slot hslot
  rw [if_neg (by simp [GatePhase.hasRead])] at hperiod
  have hkeeps := hg.keeps slot hslot (by simp)
  rw [hidle,hperiod] at hkeeps
  obtain ⟨hfirst,hlast,hunordered⟩ := hkeeps
  have hnext : (h.next (.exchangesLast slot)).period = Function.update h.period (slot + 1) (h.declarations + 1) := by
    simp [History.next,hperiod]
  refine ⟨hg.silent,hslot.le,?_,?_,?_,?_,?_,by simp,hg.excluded⟩
  · rintro other (hphase | hphase)
    · cases hphase
      exact hslot
    · cases hphase
  · intro other hother
    rw [hnext]
    by_cases hsame : other = slot
    · subst hsame
      simp [GatePhase.hasRead,History.next]
    · rw [Function.update_of_ne (by omega),hg.period other hother]
      simp only [GatePhase.hasRead,History.next,decide_eq_true_eq]
      split_ifs <;> omega
  · intro other hother hphase
    have hne : other ≠ slot := by
      rintro rfl
      exact hphase rfl
    have hold := hg.keeps other hother (by simp)
    rw [hnext,Function.update_of_ne (by omega)]
    exact hold.congr rfl (Function.update_of_ne hne ..) rfl
  · intro other hphase
    cases hphase
    refine ⟨hidle,hfirst,Function.update_self ..,hunordered,hh.quiet_later ?_⟩
    rw [hperiod]
    exact Nat.lt_succ_self _
  · rintro other (hphase | hphase)
    · cases hphase
      exact hlast
    · cases hphase

lemma Gates.exchangesFirst {slot : ℕ} (hg : Gates t h (.lastRead slot)) :
    Gates (t.next runId (.exchangesFirst slot)) (h.next (.exchangesFirst slot)) (.firstRead slot) := by
  have hslot := hg.amid slot (Or.inl rfl)
  obtain ⟨hidle,hhead,hzero,hordered,hnil⟩ := hg.lastRead slot rfl
  refine ⟨hg.silent,hg.taken,?_,hg.period,?_,by simp,?_,?_,hg.excluded⟩
  · rintro other (hphase | hphase)
    · cases hphase
    · cases hphase
      exact hslot
  · intro other hother _
    by_cases hsame : other = slot
    · subst hsame
      have hperiod := hg.period other hother
      rw [if_pos (by simp [GatePhase.hasRead])] at hperiod
      change SilentProductionGate.Keeping _ other (t.receiving other) (h.quiet (other + 1) (h.period (other + 1)))
      rw [hidle,hperiod,hnil]
      exact ⟨Function.update_self ..,hzero,hordered⟩
    · have hold := hg.keeps other hother fun hphase => hsame (GatePhase.lastRead.inj hphase).symm
      exact hold.congr (Function.update_of_ne hsame ..) rfl rfl
  · rintro other (hphase | hphase)
    · cases hphase
    · cases hphase
      exact hg.last slot (Or.inl rfl)
  · intro other hphase
    cases hphase
    exact hhead

lemma Gates.exchangesUnordered {slot : ℕ} (hh : Arranged h) (hg : Gates t h (.firstRead slot)) :
    Gates (t.next runId (.exchangesUnordered slot)) (h.next (.exchangesUnordered slot))
      (.recovering (slot + 1)) := by
  have hslot := hg.amid slot (Or.inr rfl)
  have hordered := (hg.keeps slot hslot (by simp)).ordered
  have hkept : SilentProductionGate.keptInterval slot t.last t.first (t.gate.excludedUnordered slot) =
      spanned (slot + 1) (h.quiet (slot + 1) h.declarations) := by
    rw [hordered,hg.last slot (Or.inr rfl),hg.first slot rfl]
    exact keptInterval_eq (fun _ hs => hh.quiet_pos hs) (hh.quiet_pairwise _ _)
  refine ⟨hg.silent,hslot,?_,?_,?_,by simp,?_,by simp,?_⟩
  · rintro other (hphase | hphase) <;> cases hphase
  · intro other hother
    have hold := hg.period other hother
    simp only [GatePhase.hasRead,decide_eq_true_eq] at hold ⊢
    change h.period (other + 1) = _
    rw [hold]
    simp only [Nat.lt_succ_iff]
    rfl
  · intro other hother _
    have hold := hg.keeps other hother (by simp)
    refine hold.congr rfl rfl ?_
    change Function.update t.gate.excludedUnordered slot false other = _
    by_cases hsame : other = slot
    · rw [hsame,Function.update_self,hordered]
    · exact Function.update_of_ne hsame ..
  · rintro other (hphase | hphase) <;> cases hphase
  · change t.excluded ++ (SilentProductionGate.keptInterval slot t.last t.first
      (t.gate.excludedUnordered slot)).toList = _
    rw [hkept,hg.excluded]
    change _ = (List.range (slot + 1)).filterMap _
    rw [List.range_succ,List.filterMap_append]
    rfl

lemma foldl_declareInterval (runId : String) (intervals : List ExcludedInterval) (t : Take)
    (hrecoveries : t.recoveries ≠ 0) :
    ∃ inspectionSequence more, intervals.foldl (Take.declareInterval runId) t =
        { t with inspectionSequence, declared := t.declared ++ intervals, sent := t.sent ++ more } ∧
      List.Forall₂ (Declares runId) more intervals := by
  induction intervals generalizing t with
  | nil => exact ⟨t.inspectionSequence,[],by simp,.nil⟩
  | cons interval intervals ih =>
    obtain ⟨sequence,more,hfold,hmore⟩ := ih (t.declareInterval runId interval) hrecoveries
    refine ⟨sequence,_ :: more,?_,.cons ⟨t.inspectionSequence + 1,t.recoveries,by simp,hrecoveries,rfl⟩
      hmore⟩
    rw [List.foldl_cons,hfold]
    simp [Take.declareInterval]

lemma Gates.declare (hg : Gates t h (.recovering producerSlots)) :
    Gates (t.next runId .declare) (h.next .declare) .settled := by
  obtain ⟨sequence,more,hfold,-⟩ := foldl_declareInterval runId t.excluded
    { t with excluded := [], recoveries := t.recoveries + 1 } (Nat.succ_ne_zero _)
  change Gates (t.excluded.foldl (Take.declareInterval runId) _) _ _
  rw [hfold]
  refine ⟨hg.silent,Nat.zero_le _,?_,?_,?_,by simp,?_,by simp,rfl⟩
  · rintro slot (hphase | hphase) <;> cases hphase
  · intro slot hslot
    have hold := hg.period slot hslot
    rw [if_pos (by simp [GatePhase.hasRead,hslot])] at hold
    exact hold
  · exact fun slot hslot _ => (hg.keeps slot hslot (by simp)).congr rfl rfl rfl
  · rintro slot (hphase | hphase) <;> cases hphase

lemma Sends.declare (hg : Gates t h (.recovering producerSlots)) (hs : Sends runId t h) :
    Sends runId (t.next runId .declare) (h.next .declare) := by
  have hexcluded : t.excluded = h.intervals h.declarations := hg.excluded
  obtain ⟨sequence,more,hfold,hmore⟩ := foldl_declareInterval runId t.excluded
    { t with excluded := [], recoveries := t.recoveries + 1 } (Nat.succ_ne_zero _)
  obtain ⟨exclusions,hsent,hexclusions⟩ := hs.sent
  change Sends runId (t.excluded.foldl (Take.declareInterval runId) _) _
  rw [hfold]
  refine ⟨congrArg (· + 1) hs.recoveries,?_,hs.forwarded,hs.withheld,exclusions ++ more,?_,
    List.rel_append hexclusions hmore⟩
  · change t.declared ++ _ = (List.range (h.declarations + 1)).flatMap h.intervals
    rw [List.range_succ,List.flatMap_append,hs.declared,hexcluded]
    simp
  · rw [← List.append_assoc]
    exact hsent.append_right more

lemma Sends.arrives {fact : EngineFact} (hg : Gates t h phase) (hs : Sends runId t h) :
    Sends runId (t.next runId (.arrives fact)) (h.next (.arrives fact)) := by
  have hdeclared : (List.range h.declarations).flatMap (h.next (.arrives fact)).intervals =
      (List.range h.declarations).flatMap h.intervals := by
    refine List.flatMap_congr fun period hperiod => List.filterMap_congr fun slot hslot => ?_
    have hle := hg.declarations_le (List.mem_range.mp hslot)
    rw [quiet_arrives_eq ((List.mem_range.mp hperiod).trans_le hle)]
  obtain ⟨exclusions,hsent,hexclusions⟩ := hs.sent
  change Sends runId (t.receive runId fact) _
  unfold Take.receive
  cases hsilent : h.silent with
  | true =>
    rw [if_pos (hg.silent.trans hsilent)]
    refine ⟨hs.recoveries,hs.declared.trans hdeclared.symm,?_,?_,exclusions,?_,hexclusions⟩
    · simp [History.next,List.filter_append,hsilent,hs.forwarded]
    · simp [History.next,List.filter_append,hsilent,hs.withheld]
    · simpa [History.next,List.filter_append,hsilent] using hsent
  | false =>
    rw [if_neg (by simp [hg.silent,hsilent])]
    refine ⟨hs.recoveries,hs.declared.trans hdeclared.symm,?_,?_,exclusions,?_,hexclusions⟩
    · simp [History.next,List.filter_append,hsilent,hs.forwarded]
    · simp [History.next,List.filter_append,hsilent,hs.withheld]
    · simp only [History.next,List.filter_append,hsilent,List.map_append]
      refine (hsent.append_right _).trans ?_
      simp only [List.append_assoc]
      exact List.perm_append_comm.append_left _

/-- The other events send nothing. -/
lemma Sends.congr (hs : Sends runId t h) {t' : Take} {h' : History}
    (ht : t'.recoveries = t.recoveries ∧ t'.declared = t.declared ∧ t'.forwarded = t.forwarded ∧
      t'.withheld = t.withheld ∧ t'.sent = t.sent)
    (hh : h'.declarations = h.declarations ∧ h'.arrivals = h.arrivals) : Sends runId t' h' := by
  obtain ⟨hrecoveries,hdeclared,hforwarded,hwithheld,hsent⟩ := ht
  obtain ⟨hdeclarations,harrivals⟩ := hh
  have hintervals : h'.intervals = h.intervals := by
    funext period
    simp only [History.intervals,History.quiet,harrivals]
  refine ⟨?_,?_,?_,?_,?_⟩
  · rw [hrecoveries,hdeclarations]
    exact hs.recoveries
  · rw [hdeclared,hdeclarations,hintervals]
    exact hs.declared
  · rw [hforwarded,harrivals]
    exact hs.forwarded
  · rw [hwithheld,harrivals]
    exact hs.withheld
  · rw [hsent,harrivals,hdeclared]
    exact hs.sent

lemma proceed_sends (slot : ℕ) : (t.proceed slot).recoveries = t.recoveries ∧
    (t.proceed slot).declared = t.declared ∧ (t.proceed slot).forwarded = t.forwarded ∧
      (t.proceed slot).withheld = t.withheld ∧ (t.proceed slot).sent = t.sent := by
  unfold Take.proceed
  cases t.receiving slot <;> exact ⟨rfl,rfl,rfl,rfl,rfl⟩

lemma sessionOrder_append (events : List GateEvent) (event : GateEvent) :
    sessionOrder (events ++ [event]) = (sessionOrder events).bind fun phase => phase.next event := by
  simp [sessionOrder,List.foldlM_append]

/-- The session makes the gate silent or audible outside `take_exclusions`. -/
lemma GatePhase.next_audible {before : GatePhase} {event : GateEvent}
    (hevent : event = .recover ∨ event = .audible ∨ event = .finish)
    (hnext : before.next event = some phase) : before.Rests ∧ phase.Rests := by
  rcases hevent with rfl | rfl | rfl <;> cases before <;> cases hnext <;>
    simp [GatePhase.Rests,GatePhase.taken,GatePhase.hasRead]

lemma GatePhase.next_exchangesLast {before : GatePhase} {slot : ℕ}
    (hnext : before.next (.exchangesLast slot) = some phase) :
    before = .recovering slot ∧ phase = .lastRead slot ∧ slot < producerSlots := by
  cases before with
  | recovering next =>
    dsimp only [GatePhase.next] at hnext
    split_ifs at hnext with hslot
    cases hnext
    exact ⟨congrArg GatePhase.recovering hslot.1.symm,rfl,hslot.2⟩
  | _ => cases hnext

lemma GatePhase.next_exchangesFirst {before : GatePhase} {slot : ℕ}
    (hnext : before.next (.exchangesFirst slot) = some phase) :
    before = .lastRead slot ∧ phase = .firstRead slot := by
  cases before with
  | lastRead next =>
    dsimp only [GatePhase.next] at hnext
    split_ifs at hnext with hslot
    cases hnext
    exact ⟨congrArg GatePhase.lastRead hslot.symm,rfl⟩
  | _ => cases hnext

lemma GatePhase.next_exchangesUnordered {before : GatePhase} {slot : ℕ}
    (hnext : before.next (.exchangesUnordered slot) = some phase) :
    before = .firstRead slot ∧ phase = .recovering (slot + 1) := by
  cases before with
  | firstRead next =>
    dsimp only [GatePhase.next] at hnext
    split_ifs at hnext with hslot
    cases hnext
    exact ⟨congrArg GatePhase.firstRead hslot.symm,rfl⟩
  | _ => cases hnext

lemma GatePhase.next_declare {before : GatePhase} (hnext : before.next .declare = some phase) :
    before = .recovering producerSlots ∧ phase = .settled := by
  cases before with
  | recovering next =>
    dsimp only [GatePhase.next] at hnext
    split_ifs at hnext with hslot
    cases hnext
    exact ⟨congrArg GatePhase.recovering hslot,rfl⟩
  | _ => cases hnext

lemma Serial.of_append {events more : List GateEvent} (hserial : Serial runId (events ++ more)) :
    Serial runId events :=
  fun before fact after slot hsplit => hserial before fact (after ++ more) slot (by simp [hsplit])

lemma Calm.of_append {events more : List GateEvent} (hcalm : Calm runId (events ++ more)) :
    Calm runId events where
  idle := fun before slot after hsplit => hcalm.idle before slot (after ++ more) (by simp [hsplit])
  apart := fun before fact after slot hsplit =>
    hcalm.apart before fact (after ++ more) slot (by simp [hsplit])

/-- The take follows the arrivals over any calm list of events. -/
lemma run_follows (runId : String) {events : List GateEvent} {phase : GatePhase}
    (hordered : sessionOrder events = some phase) (hserial : Serial runId events)
    (hcalm : Calm runId events) (hnumbered : Numbered (arrived events)) :
    Gates (Take.run runId events) (history events) phase ∧
      Sends runId (Take.run runId events) (history events) := by
  induction events using List.reverseRecOn generalizing phase with
  | nil =>
    cases hordered
    refine ⟨⟨rfl,Nat.zero_le _,?_,fun _ _ => rfl,fun _ _ _ => ⟨rfl,rfl,rfl⟩,by simp,?_,by simp,rfl⟩,
      ⟨rfl,rfl,rfl,rfl,[],List.Perm.refl _,.nil⟩⟩
    · rintro slot (hphase | hphase) <;> cases hphase
    · rintro slot (hphase | hphase) <;> cases hphase
  | append_singleton events event ih =>
    have hbefore : Numbered (arrived events) := by
      rw [arrived,List.filterMap_append] at hnumbered
      exact hnumbered.of_append
    have hrun : Take.run runId (events ++ [event]) = (Take.run runId events).next runId event := by
      simp [Take.run]
    rw [sessionOrder_append] at hordered
    obtain ⟨before,horder,hnext⟩ := Option.bind_eq_some_iff.mp hordered
    obtain ⟨hg,hs⟩ := ih horder hserial.of_append hcalm.of_append hbefore
    have hh := hbefore.arranged
    rw [hrun,history_append]
    cases event with
    | arrives fact =>
      have hsame : before = phase := by cases before <;> exact Option.some.inj hnext
      subst hsame
      refine ⟨hg.arrives ?_ ?_,hs.arrives hg⟩
      · exact fun slot hslot => hserial events fact [] slot rfl hslot
      · rintro slot hslot rfl
        exact hcalm.apart events fact [] slot rfl hslot horder
    | proceeds slot =>
      have hsame : before = phase := by cases before <;> exact Option.some.inj hnext
      subst hsame
      exact ⟨hg.proceeds hh slot,hs.congr (proceed_sends slot) ⟨rfl,rfl⟩⟩
    | recover =>
      obtain ⟨hrests,hrests'⟩ := GatePhase.next_audible (Or.inl rfl) hnext
      exact ⟨hg.setAudible hrests hrests' false rfl ⟨rfl,rfl,rfl⟩,hs.congr ⟨rfl,rfl,rfl,rfl,rfl⟩ ⟨rfl,rfl⟩⟩
    | exchangesLast slot =>
      obtain ⟨rfl,rfl,hslot⟩ := GatePhase.next_exchangesLast hnext
      exact ⟨hg.exchangesLast hh hslot (hcalm.idle events slot [] rfl),
        hs.congr ⟨rfl,rfl,rfl,rfl,rfl⟩ ⟨rfl,rfl⟩⟩
    | exchangesFirst slot =>
      obtain ⟨rfl,rfl⟩ := GatePhase.next_exchangesFirst hnext
      exact ⟨hg.exchangesFirst,hs.congr ⟨rfl,rfl,rfl,rfl,rfl⟩ ⟨rfl,rfl⟩⟩
    | exchangesUnordered slot =>
      obtain ⟨rfl,rfl⟩ := GatePhase.next_exchangesUnordered hnext
      exact ⟨hg.exchangesUnordered hh,hs.congr ⟨rfl,rfl,rfl,rfl,rfl⟩ ⟨rfl,rfl⟩⟩
    | declare =>
      obtain ⟨rfl,rfl⟩ := GatePhase.next_declare hnext
      exact ⟨hg.declare,hs.declare hg⟩
    | audible =>
      obtain ⟨hrests,hrests'⟩ := GatePhase.next_audible (Or.inr (Or.inl rfl)) hnext
      exact ⟨hg.setAudible hrests hrests' true rfl ⟨rfl,rfl,rfl⟩,hs.congr ⟨rfl,rfl,rfl,rfl,rfl⟩ ⟨rfl,rfl⟩⟩
    | finish =>
      obtain ⟨hrests,hrests'⟩ := GatePhase.next_audible (Or.inr (Or.inr rfl)) hnext
      exact ⟨hg.setAudible hrests hrests' true rfl ⟨rfl,rfl,rfl⟩,hs.congr ⟨rfl,rfl,rfl,rfl,rfl⟩ ⟨rfl,rfl⟩⟩

end AytherRuntime.Inspection
