import AytherRuntime.Destination.History

/-! The runs that are open in a destination: what occupies it while its requests are admitted one at a time, and what a
restart restores. -/
namespace AytherRuntime.Destination
open Machine (Steps Meets)

section Restoring

/-- The entries whose run is not closed. -/
def openEntries (entries : List Entry) : List Entry := entries.filter fun entry => entry.run.phase ≠ .closed

/-- The occupancy is the one of every open run. -/
def Held (entries : List Entry) (occupancy : SessionOccupancy) : Prop :=
  ∀ entry ∈ openEntries entries, occupancy = entry.occupancy

variable {bytes : DocumentBytes} {ledger : RequestLedger} {entries : List Entry} {entry : Entry}
  {occupancy : SessionOccupancy}

lemma mem_openEntries : entry ∈ openEntries entries ↔ entry ∈ entries ∧ entry.run.phase ≠ .closed := by
  rw [openEntries,List.mem_filter,decide_eq_true_eq]

lemma openEntries_cons (entry : Entry) (entries : List Entry) : openEntries (entry :: entries) =
    if entry.run.phase = .closed then openEntries entries else entry :: openEntries entries := by
  unfold openEntries
  rw [List.filter_cons]
  split_ifs <;> simp_all

/-- Once the destination is occupied no open run is restored. -/
lemma restore_occupied (h : occupancy.occupied = true) :
    restoreCheckOccupancy entries occupancy = if openEntries entries = [] then some occupancy else none := by
  induction entries with
  | nil => rfl
  | cons entry entries ih =>
    rw [restoreCheckOccupancy,openEntries_cons,h]
    by_cases hclosed : entry.run.phase = .closed
    · rw [if_pos hclosed,if_pos hclosed,ih]
    · rw [if_neg hclosed,if_neg hclosed,if_pos rfl,if_neg (List.cons_ne_nil _ _)]

lemma observe_admitted (hvalid : validPair bytes entry.request entry.run = true) (hopen : entry.run.phase ≠ .closed) :
    SessionOccupancy.admitRequest {} entry.request entry.run.runId = (entry.occupancy,.accepted) ∧
      entry.occupancy.observe entry.run = (entry.occupancy,true) ∧ entry.occupancy.occupied = true := by
  obtain ⟨hrequest,hrun⟩ := validPair_named hvalid
  have hoccupied : entry.occupancy.occupied = true := decide_eq_true hrun
  refine ⟨?_,?_,hoccupied⟩
  · unfold SessionOccupancy.admitRequest
    rw [if_neg (not_or.mpr ⟨hrequest,hrun⟩)]
    rfl
  · have hsame : ¬((!entry.occupancy.occupied) = true ∨ entry.run.requestId ≠ entry.occupancy.requestId ∨
        entry.run.runId ≠ entry.occupancy.runId) := by
      rw [hoccupied]
      rintro (h | h | h)
      · exact nomatch h
      · exact h (validPair_iff.mp hvalid).2.1
      · exact h rfl
    unfold SessionOccupancy.observe
    rw [if_neg hsame,if_neg fun h => hopen h.1]

/-- What is restored of a ledger: nothing, or the only run that is open. -/
lemma restore_eq_some_iff (hvalid : ∀ entry ∈ entries, validPair bytes entry.request entry.run = true) :
    restoreCheckOccupancy entries {} = some occupancy ↔
      openEntries entries = [] ∧ occupancy = {} ∨ ∃ entry, openEntries entries = [entry] ∧
        occupancy = entry.occupancy := by
  induction entries with
  | nil =>
    refine ⟨fun h => Or.inl ⟨rfl,(Option.some.inj h).symm⟩,?_⟩
    rintro (⟨-,rfl⟩ | ⟨entry,hentry,-⟩)
    · rfl
    · exact nomatch hentry
  | cons entry entries ih =>
    obtain ⟨hentry,hentries⟩ := List.forall_mem_cons.mp hvalid
    rw [restoreCheckOccupancy,openEntries_cons]
    by_cases hclosed : entry.run.phase = .closed
    · rw [if_pos hclosed,if_pos hclosed]
      exact ih hentries
    · obtain ⟨hadmitted,hobserved,hoccupied⟩ := observe_admitted hentry hclosed
      rw [if_neg hclosed,if_neg hclosed,if_neg (by decide),hadmitted]
      dsimp only
      rw [hobserved,if_pos ⟨rfl,rfl⟩,restore_occupied hoccupied]
      constructor
      · intro h
        split_ifs at h with hnone
        exact Or.inr ⟨entry,by rw [hnone],(Option.some.inj h).symm⟩
      · rintro (⟨h,-⟩ | ⟨other,h,rfl⟩)
        · exact absurd h (List.cons_ne_nil _ _)
        · obtain ⟨rfl,hnone⟩ := List.cons.inj h
          rw [if_pos hnone]

/-- Entries that share no run have at most one open run under one occupancy. -/
lemma Held.single (h : Held entries occupancy) (hapart : entries.Pairwise Apart) :
    openEntries entries = [] ∨ ∃ entry, openEntries entries = [entry] := by
  have hpairs : (openEntries entries).Pairwise Apart := hapart.sublist List.filter_sublist
  unfold Held at h
  cases hopen : openEntries entries with
  | nil => exact Or.inl rfl
  | cons first others =>
    cases others with
    | nil => exact Or.inr ⟨first,rfl⟩
    | cons second others =>
      rw [hopen] at h hpairs
      have hsame : first.occupancy = second.occupancy := (h first List.mem_cons_self).symm.trans
        (h second (List.mem_cons_of_mem _ List.mem_cons_self))
      have hshared : first.run.runId = second.run.runId := congrArg SessionOccupancy.runId hsame
      exact absurd hshared ((List.pairwise_cons.mp hpairs).1 second List.mem_cons_self).run

lemma Held.length_le (h : Held entries occupancy) (hapart : entries.Pairwise Apart) :
    (openEntries entries).length ≤ 1 := by
  rcases h.single hapart with hnone | ⟨entry,hone⟩
  · exact hnone ▸ Nat.zero_le 1
  · exact hone ▸ Nat.le_refl 1

/-- The occupancy that is restored is held. -/
lemma restore_held (hvalid : ∀ entry ∈ entries, validPair bytes entry.request entry.run = true)
    (h : restoreCheckOccupancy entries {} = some occupancy) : Held entries occupancy := by
  intro entry hentry
  rcases (restore_eq_some_iff hvalid).mp h with ⟨hnone,-⟩ | ⟨only,hone,rfl⟩
  · rw [hnone] at hentry
    exact nomatch hentry
  · rw [hone] at hentry
    rw [List.mem_singleton.mp hentry]

/-- The occupancy of a ledger whose runs are held is restored. -/
lemma Held.restore (h : Held ledger.entries occupancy) (hsound : ledger.Sound bytes) :
    ∃ restored, restoreCheckOccupancy ledger.entries {} = some restored := by
  rcases h.single hsound.apart with hnone | ⟨entry,hone⟩
  · exact ⟨_,(restore_eq_some_iff hsound.valid).mpr (Or.inl ⟨hnone,rfl⟩)⟩
  · exact ⟨_,(restore_eq_some_iff hsound.valid).mpr (Or.inr ⟨entry,hone,rfl⟩)⟩

end Restoring

section Admitting
variable {library : DocumentLibrary} {session next : Session} {operation : Operation}

/-- Requests are registered by admissions only, and no update opens a run that is closed. -/
def Disciplined (session : Session) : Operation → Prop
  | .register _ _ _ => False
  | .update run _ => ∀ entry ∈ session.ledger.entries, entry.run.runId = run.runId →
      entry.request.requestId = run.requestId → entry.run.phase = .closed → run.phase = .closed
  | _ => True

/-- What is published by such an operation is held by what then occupies the destination. -/
lemma Candidate.held {bytes : DocumentBytes} {entries : List Entry} (h : Candidate bytes session operation entries)
    (hsound : session.ledger.Sound bytes) (hdisciplined : Disciplined session operation)
    (hheld : Held session.ledger.entries session.occupancy) :
    Held entries (operation.occupies session.occupancy) := by
  intro entry hentry
  obtain ⟨hmem,hopen⟩ := mem_openEntries.mp hentry
  cases h with
  | register hfresh => exact absurd hdisciplined id
  | @update run outcome hgeneration hvalid =>
    rcases mem_withRun hmem with hold | ⟨old,hfound,rfl⟩
    · exact hheld entry (mem_openEntries.mpr ⟨hold,hopen⟩)
    · have hold := List.mem_of_find?_eq_some hfound
      have hfoundSome : (session.ledger.entries.find? fun entry =>
          entry.run.runId = run.runId ∧ entry.request.requestId = run.requestId) = some old := hfound
      have hsame := List.find?_some hfoundSome
      rw [decide_eq_true_eq] at hsame
      obtain ⟨hrun,hrequest⟩ := hsame
      have hphase : old.run.phase ≠ .closed := fun hclosed => hopen (hdisciplined old hold hrun hrequest hclosed)
      change session.occupancy = ⟨old.request.requestId,run.runId⟩
      rw [hheld old (mem_openEntries.mpr ⟨hold,hphase⟩),← hrun]
      rfl
  | @admitted draft outcome hfresh hfree =>
    rcases List.mem_append.mp hmem with hold | hnew
    · -- an open run would already occupy the destination
      rw [hheld entry (mem_openEntries.mpr ⟨hold,hopen⟩),
        (observe_admitted (hsound.valid entry hold) hopen).2.2] at hfree
      exact nomatch hfree
    · rw [List.mem_singleton.mp hnew]
      rfl

/-- The runs of the ledger in memory are held by the occupancy, and those of the file by the one that a restart
restores. -/
structure Session.Occupied (library : DocumentLibrary) (session : Session) : Prop where
  memory : Held session.ledger.entries session.occupancy
  disk : ∀ kept, openLedgerDocument library session.disk true = .ok kept → ∃ occupancy, Held kept.entries occupancy

lemma openSession_occupied {disk : Option String} {readable : Bool}
    (h : openSession library disk readable = some session) :
    session.Occupied library := by
  obtain ⟨hkept,hopen⟩ := openSession_kept h
  have hheld := restore_held hkept.sound.valid (openSession_eq h).2.2
  refine ⟨hheld,fun kept hread => ?_⟩
  rw [hopen] at hread
  obtain rfl := Except.ok.inj hread
  exact ⟨_,hheld⟩

lemma step_occupied (hlibrary : library.Reads) (hkept : session.Kept library) (hoccupied : session.Occupied library)
    (htyped : operation.Typed) (hdisciplined : Disciplined session operation)
    (h : step library session operation = some next) : next.Occupied library := by
  by_cases hrestart : operation.Restarts
  · cases operation with
    | restart readable => exact openSession_occupied h
    | _ => exact absurd hrestart id
  have hwritten : ∀ {entries : List Entry}, Candidate library.bytes session operation entries →
      encodeLedger library.bytes ⟨session.ledger.generation + 1,entries⟩ = true → ∀ kept,
      openLedgerDocument library (some (ledgerDocument library ⟨session.ledger.generation + 1,entries⟩)) true =
        .ok kept →
      ∃ occupancy, Held kept.entries occupancy := by
    intro entries candidate encodes kept hread
    have hwrote := decodeLedgerDocument_ledgerDocument hlibrary encodes (candidate.sound hkept.sound htyped)
    obtain rfl := Except.ok.inj (hwrote.symm.trans hread)
    exact ⟨_,candidate.held hkept.sound hdisciplined hoccupied.memory⟩
  cases step_moves h hrestart with
  | kept moved => exact moved ▸ hoccupied
  | replaced entries candidate encodes ended moved =>
    subst moved
    exact ⟨hoccupied.memory,hwritten candidate encodes⟩
  | published entries candidate encodes moved =>
    subst moved
    exact ⟨candidate.held hkept.sound hdisciplined hoccupied.memory,hwritten candidate encodes⟩

/-- A destination whose file holds one open run at most is opened, and that run occupies it. -/
lemma openSession_of_held {disk : Option String} {kept : RequestLedger} {occupancy : SessionOccupancy}
    (hopen : openLedgerDocument library disk true = .ok kept) (hheld : Held kept.entries occupancy) :
    ∃ reopened, openSession library disk true = some reopened ∧ reopened.ledger = kept ∧
      (openEntries kept.entries).length ≤ 1 ∧ Held kept.entries reopened.occupancy ∧
      (openEntries kept.entries = [] → reopened.occupancy = {}) := by
  obtain ⟨hsound,-⟩ := openLedgerDocument_sound hopen
  obtain ⟨restored,hrestored⟩ := hheld.restore hsound
  refine ⟨⟨disk,kept,restored⟩,?_,rfl,hheld.length_le hsound.apart,restore_held hsound.valid hrestored,fun hnone => ?_⟩
  · unfold openSession
    rw [hopen]
    dsimp only
    rw [hrestored]
    rfl
  · rcases (restore_eq_some_iff hsound.valid).mp hrestored with ⟨-,hfree⟩ | ⟨entry,hone,-⟩
    · exact hfree
    · rw [hnone] at hone
      exact nomatch hone

end Admitting

section Runs
variable {library : DocumentLibrary} {start finish : Session} {operations : List Operation}

/-- What every run keeps. -/
lemma steps_kept (hlibrary : library.Reads) (h : Steps (step library) start operations finish)
    (htyped : ∀ operation ∈ operations, operation.Typed) (hkept : start.Kept library) : finish.Kept library := by
  induction h with
  | done session => exact hkept
  | next head tail ih =>
    obtain ⟨hfirst,hothers⟩ := List.forall_mem_cons.mp htyped
    exact ih hothers (step_kept hlibrary hkept hfirst head).1

lemma steps_same (hlibrary : library.Reads) (h : Steps (step library) start operations finish)
    (htyped : ∀ operation ∈ operations, operation.Typed) (hreplaces : ∀ operation ∈ operations, ¬operation.Replaces)
    (hkept : start.Kept library) (hsame : openLedgerDocument library start.disk true = .ok start.ledger) :
    openLedgerDocument library finish.disk true = .ok finish.ledger := by
  induction h with
  | done session => exact hsame
  | next head tail ih =>
    obtain ⟨hfirst,hothers⟩ := List.forall_mem_cons.mp htyped
    obtain ⟨hnot,hnots⟩ := List.forall_mem_cons.mp hreplaces
    exact ih hothers hnots (step_kept hlibrary hkept hfirst head).1 (step_same hlibrary hkept hfirst hnot head hsame)

lemma meets_occupied (hlibrary : library.Reads) (h : Meets (step library) Disciplined start operations finish)
    (htyped : ∀ operation ∈ operations, operation.Typed) (hkept : start.Kept library)
    (hoccupied : start.Occupied library) : finish.Occupied library := by
  induction h with
  | done session => exact hoccupied
  | next head met tail ih =>
    obtain ⟨hfirst,hothers⟩ := List.forall_mem_cons.mp htyped
    exact ih hothers (step_kept hlibrary hkept hfirst head).1
      (step_occupied hlibrary hkept hoccupied hfirst met head)

end Runs
end AytherRuntime.Destination
