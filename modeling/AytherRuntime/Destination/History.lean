import AytherRuntime.Destination.Admission
import AytherRuntime.Destination.Reopening
import AytherRuntime.Library.Machine

/-! The history of a destination: the operations of its ledger, its admissions and its restarts, in any order and with
any of the publications failing. -/
namespace AytherRuntime.Destination
open Machine (Steps Meets)

section History

/-- A supervisor that holds the lock of a destination, with the file of the ledger. -/
structure Session where
  disk : Option String
  ledger : RequestLedger
  occupancy : SessionOccupancy
  deriving DecidableEq

/-- What is done to a destination, and how the publication of each operation ends. -/
inductive Operation
  | inspect (request : Request) (run : Run)
  | register (request : Request) (run : Run) (outcome : Publication)
  | update (run : Run) (outcome : Publication)
  | admitRequest (draft : CheckRequestDraft) (outcome : Publication)
  | restart (readable : Bool)

/-- The runs that an operation is given fit the integers that they are kept in. -/
def Operation.Typed : Operation → Prop
  | .register _ run _ | .update run _ => run.Typed
  | .admitRequest draft _ => draft.run.Typed
  | _ => True

/-- A publication that fails after the file was replaced. -/
def Operation.Replaces : Operation → Prop
  | .register _ _ outcome | .update _ outcome | .admitRequest _ outcome => outcome = .replaced
  | _ => False

def Operation.Restarts : Operation → Prop
  | .restart _ => True
  | _ => False

variable (library : DocumentLibrary)

/-- The session after an operation that may have written the file. -/
def Session.after {α : Type} (session : Session) (written : Written α) : Session where
  disk := (written.writes.getLast?.map (ledgerDocument library)).or session.disk
  ledger := written.ledger
  occupancy := session.occupancy

/-- The ledger is opened and the occupancy is restored of it. -/
def openSession (disk : Option String) (readable : Bool) : Option Session :=
  match openLedgerDocument library disk readable with
  | .error _ => none
  | .ok ledger => (restoreCheckOccupancy ledger.entries {}).map fun occupancy => ⟨disk,ledger,occupancy⟩

def step (session : Session) : Operation → Option Session
  | .inspect _ _ => some session
  | .register request run outcome =>
    some (session.after library (session.ledger.registerRequest library.bytes request run outcome))
  | .update run outcome => some (session.after library (session.ledger.updateRun library.bytes run outcome))
  | .admitRequest draft outcome =>
    let admitted := admitCheckRequest library.bytes session.ledger session.occupancy draft outcome
    some { session.after library admitted.1 with occupancy := admitted.2 }
  | .restart readable => openSession library session.disk readable

end History

section Publications

/-- The request as it is registered. -/
def Request.accepted (request : Request) : Request := { request with admission := .accepted }

variable {bytes : DocumentBytes} {ledger : RequestLedger} {entries : List Entry} {outcome : Publication}

/-- A publication leaves the ledger, with or without its candidate on the disk, or the candidate takes its place. -/
lemma publish_eq (bytes : DocumentBytes) (ledger : RequestLedger) (entries : List Entry) (generation : ℕ)
    (outcome : Publication) :
    ledger.publish bytes entries generation outcome = { ledger, result := false } ∨
      (encodeLedger bytes ⟨generation,entries⟩ = true ∧
        (outcome = .replaced ∧ ledger.publish bytes entries generation outcome =
            { ledger, writes := [⟨generation,entries⟩], result := false } ∨
          ledger.publish bytes entries generation outcome =
            { ledger := ⟨generation,entries⟩, writes := [⟨generation,entries⟩], result := true })) := by
  unfold RequestLedger.publish
  dsimp only
  split_ifs with hencodes
  · cases outcome with
    | refused => exact Or.inl rfl
    | replaced => exact Or.inr ⟨hencodes,Or.inl ⟨rfl,rfl⟩⟩
    | published => exact Or.inr ⟨hencodes,Or.inr rfl⟩
  · exact Or.inl rfl

end Publications

section Operations
variable {bytes : DocumentBytes} {ledger : RequestLedger}

/-- What is known of a registration that is not refused. -/
structure Fresh (bytes : DocumentBytes) (ledger : RequestLedger) (request : Request) (run : Run) : Prop where
  valid : validPair bytes request.accepted run = true
  request : ∀ entry ∈ ledger.entries, entry.request.requestId ≠ request.requestId
  run : ∀ entry ∈ ledger.entries, entry.run.runId ≠ run.runId
  room : ledger.entries.length < maxRegisteredRequests
  generation : ledger.generation ≠ maxGeneration

lemma identity_ne {value : String} (h : identity value = true) : value ≠ "" := by
  unfold identity at h
  rw [Bool.and_eq_true,Bool.and_eq_true,decide_eq_true_eq] at h
  exact h.1.1

/-- The request and the run of a pair have names. -/
lemma validPair_named {request : Request} {run : Run} (h : validPair bytes request run = true) :
    request.requestId ≠ "" ∧ run.runId ≠ "" := by
  obtain ⟨-,-,hrequest,hrun⟩ := validPair_iff.mp h
  unfold Request.encodes at hrequest
  unfold Run.encodes at hrun
  simp only [Bool.and_eq_true] at hrequest hrun
  exact ⟨identity_ne hrequest.1.1.1.1.1.1.1.1,identity_ne hrun.1.1.1⟩

/-- What a registration that is not refused publishes and answers. -/
def RequestLedger.registered (bytes : DocumentBytes) (ledger : RequestLedger) (request : Request) (run : Run)
    (outcome : Publication) : Written (Option RequestRegistrationResult) :=
  let published := ledger.publish bytes (ledger.entries ++ [⟨request.accepted,run⟩]) (ledger.generation + 1) outcome
  { published with
    result := if published.result then some { decision := .accepted, run := some run } else none }

lemma registered_isSome (request : Request) (run : Run) (outcome : Publication) :
    (ledger.registered bytes request run outcome).result.isSome = (ledger.publish bytes
      (ledger.entries ++ [⟨request.accepted,run⟩]) (ledger.generation + 1) outcome).result := by
  unfold RequestLedger.registered
  dsimp only
  split_ifs with hpublished
  · exact hpublished.symm
  · exact (Bool.not_eq_true _ ▸ hpublished).symm

/-- What an update that is not refused publishes and answers. -/
def RequestLedger.updated (bytes : DocumentBytes) (ledger : RequestLedger) (run : Run) (outcome : Publication) :
    Written (Option Bool) :=
  let published := ledger.publish bytes (RequestLedger.withRun run ledger.entries) (ledger.generation + 1) outcome
  { published with result := if published.result then some true else none }

/-- A registration leaves the ledger and answers what an inspection would, or it publishes a request that is new. -/
lemma registerRequest_eq (bytes : DocumentBytes) (ledger : RequestLedger) (request : Request) (run : Run)
    (outcome : Publication) :
    (∃ result, ledger.registerRequest bytes request run outcome = { ledger, result := some result } ∧
        result.decision ≠ .accepted ∧
          (ledger.generation ≠ maxGeneration → result = ledger.inspectRequest bytes request run)) ∨
      (Fresh bytes ledger request run ∧
        ledger.inspectRequest bytes request run = { decision := .accepted, run := some run } ∧
        ledger.registerRequest bytes request run outcome = ledger.registered bytes request run outcome) := by
  unfold RequestLedger.registerRequest RequestLedger.inspectRequest
  dsimp only
  by_cases hvalid : validPair bytes { request with admission := .accepted } run = true
  swap
  · simp only [hvalid,Bool.not_false,if_true]
    exact Or.inl ⟨_,rfl,nofun,fun _ => rfl⟩
  simp only [hvalid,Bool.not_true,Bool.false_eq_true,if_false]
  cases hfound : ledger.entries.find? fun entry => entry.request.requestId = request.requestId with
  | some existing =>
    refine Or.inl ⟨_,rfl,?_,fun _ => rfl⟩
    dsimp only
    split_ifs
    · exact nofun
    · exact nofun
  | none =>
    dsimp only
    by_cases hfull : maxRegisteredRequests ≤ ledger.entries.length
    · simp only [hfull,true_or,if_true]
      exact Or.inl ⟨_,rfl,nofun,fun _ => rfl⟩
    by_cases hlast : ledger.generation = maxGeneration
    · simp only [hlast,or_true,if_true]
      exact Or.inl ⟨_,rfl,nofun,fun h => absurd rfl h⟩
    simp only [hfull,hlast,or_self,if_false]
    by_cases hshared : (ledger.entries.any fun entry => entry.run.runId = run.runId) = true
    · simp only [hshared,if_true]
      exact Or.inl ⟨_,rfl,nofun,fun _ => rfl⟩
    simp only [hshared,Bool.false_eq_true,if_false]
    refine Or.inr ⟨⟨hvalid,fun entry hentry hsame => ?_,fun entry hentry hsame => ?_,Nat.not_le.mp hfull,hlast⟩,
      trivial,rfl⟩
    · exact List.find?_eq_none.mp hfound entry hentry (decide_eq_true hsame)
    · exact hshared (List.any_eq_true.mpr ⟨entry,hentry,decide_eq_true hsame⟩)

/-- An update leaves the ledger, or it publishes the run in the place of the one that it updates. -/
lemma updateRun_eq (bytes : DocumentBytes) (ledger : RequestLedger) (run : Run) (outcome : Publication) :
    (∃ result, ledger.updateRun bytes run outcome = { ledger, result := some result }) ∨
      (ledger.generation ≠ maxGeneration ∧
        (∀ entry ∈ ledger.entries.find? fun entry =>
            entry.run.runId = run.runId ∧ entry.request.requestId = run.requestId,
          validPair bytes entry.request run = true) ∧
        ledger.updateRun bytes run outcome = ledger.updated bytes run outcome) := by
  unfold RequestLedger.updateRun
  cases hfound : ledger.entries.find? fun entry =>
      entry.run.runId = run.runId ∧ entry.request.requestId = run.requestId with
  | none => exact Or.inl ⟨_,rfl⟩
  | some existing =>
    dsimp only
    by_cases hrefused : ledger.generation = maxGeneration ∨ (!validPair bytes existing.request run) = true
    · rw [if_pos hrefused]
      exact Or.inl ⟨_,rfl⟩
    rw [if_neg hrefused]
    by_cases hsame : existing.run = run
    · rw [if_pos hsame]
      exact Or.inl ⟨_,rfl⟩
    rw [if_neg hsame]
    rw [not_or,Bool.not_eq_true',Bool.not_eq_false] at hrefused
    exact Or.inr ⟨hrefused.1,fun entry hentry => Option.some.inj hentry ▸ hrefused.2,rfl⟩

/-- The occupancy of a run. -/
def Entry.occupancy (entry : Entry) : SessionOccupancy := ⟨entry.request.requestId,entry.run.runId⟩

/-- An admission leaves the ledger and the occupancy, or the destination is free and it registers a new request, whose
run occupies the destination once it is published. -/
lemma admitCheckRequest_eq (bytes : DocumentBytes) (ledger : RequestLedger) (occupancy : SessionOccupancy)
    (draft : CheckRequestDraft) (outcome : Publication) :
    (∃ result, admitCheckRequest bytes ledger occupancy draft outcome = ({ ledger, result },occupancy) ∧
        result ≠ .failed) ∨
      (Fresh bytes ledger draft.request draft.run ∧ occupancy.occupied = false ∧
        ∃ result, admitCheckRequest bytes ledger occupancy draft outcome =
            ({ ledger.registered bytes draft.request draft.run outcome with result },
              if (ledger.registered bytes draft.request draft.run outcome).result.isSome then
                Entry.occupancy ⟨draft.request.accepted,draft.run⟩ else occupancy) ∧
          (result = .failed → (ledger.registered bytes draft.request draft.run outcome).result = none)) := by
  have hkept : ∀ result : CheckAdmission, result ≠ .failed → ∃ answer,
      (({ ledger, result },occupancy) : Written CheckAdmission × SessionOccupancy) =
        ({ ledger, result := answer },occupancy) ∧
        answer ≠ .failed := fun result h => ⟨result,rfl,h⟩
  unfold admitCheckRequest
  dsimp only
  rcases registerRequest_eq bytes ledger draft.request draft.run outcome with
    ⟨result,hregistered,hrefused,-⟩ | ⟨hfresh,hinspected,hregistered⟩
  · left
    split
    · exact hkept _ nofun
    · exact hkept _ nofun
    · exact hkept _ nofun
    · exact hkept _ nofun
    split_ifs with hoccupied
    · exact hkept _ nofun
    obtain ⟨decision,run⟩ := result
    unfold registerDraft
    rw [hregistered]
    cases decision with
    | accepted => exact absurd rfl hrefused
    | known => exact hkept _ nofun
    | identityConflict => exact hkept _ nofun
    | invalid => exact hkept _ nofun
    | capacityExceeded => exact hkept _ nofun
  · rw [hinspected]
    dsimp only
    by_cases hoccupied : occupancy.occupied = true
    · rw [if_pos hoccupied]
      exact Or.inl (hkept _ nofun)
    rw [if_neg hoccupied]
    rw [Bool.not_eq_true] at hoccupied
    refine Or.inr ⟨hfresh,hoccupied,?_⟩
    have hadmitted : occupancy.admitRequest draft.request draft.run.runId =
        (Entry.occupancy ⟨draft.request.accepted,draft.run⟩,.accepted) := by
      have hrequest : draft.request.requestId ≠ "" := (validPair_named hfresh.valid).1
      have hrun : draft.run.runId ≠ "" := (validPair_named hfresh.valid).2
      unfold SessionOccupancy.admitRequest
      rw [if_neg (not_or.mpr ⟨hrequest,hrun⟩),hoccupied,if_neg (by decide)]
      rfl
    unfold registerDraft
    rw [hregistered,hadmitted]
    unfold RequestLedger.registered
    generalize ledger.publish bytes (ledger.entries ++ [⟨draft.request.accepted,draft.run⟩]) (ledger.generation + 1)
      outcome = written
    obtain ⟨memory,writes,published⟩ := written
    cases published with
    | true => exact ⟨_,rfl,nofun⟩
    | false => exact ⟨_,rfl,fun _ => rfl⟩

end Operations

section Moves
variable {library : DocumentLibrary} {session next : Session} {operation : Operation} {entries : List Entry}

/-- What occupies the destination once an operation has published. -/
def Operation.occupies : Operation → SessionOccupancy → SessionOccupancy
  | .admitRequest draft _, _ => Entry.occupancy ⟨draft.request.accepted,draft.run⟩
  | _, occupancy => occupancy

/-- The entries that an operation publishes. -/
inductive Candidate (bytes : DocumentBytes) (session : Session) : Operation → List Entry → Prop
  | register {request : Request} {run : Run} {outcome : Publication} (fresh : Fresh bytes session.ledger request run) :
      Candidate bytes session (.register request run outcome) (session.ledger.entries ++ [⟨request.accepted,run⟩])
  | update {run : Run} {outcome : Publication} (generation : session.ledger.generation ≠ maxGeneration)
      (valid : ∀ entry ∈ session.ledger.entries.find? fun entry =>
        entry.run.runId = run.runId ∧ entry.request.requestId =
          run.requestId, validPair bytes entry.request run = true) :
      Candidate bytes session (.update run outcome) (RequestLedger.withRun run session.ledger.entries)
  | admitted {draft : CheckRequestDraft} {outcome : Publication}
    (fresh : Fresh bytes session.ledger draft.request draft.run)
      (free : session.occupancy.occupied = false) :
      Candidate bytes session (.admitRequest draft outcome) (session.ledger.entries ++
        [⟨draft.request.accepted,draft.run⟩])

/-- What an operation does to a session: nothing, its candidate on the disk only, or its candidate on the disk and in
memory. -/
inductive Moves (library : DocumentLibrary) (session : Session) (operation : Operation) (next : Session) : Prop
  | kept (moved : next = session)
  | replaced (entries : List Entry) (candidate : Candidate library.bytes session operation entries)
      (encodes : encodeLedger library.bytes ⟨session.ledger.generation + 1,entries⟩ = true) (ended : operation.Replaces)
      (moved : next =
        { session with disk := some (ledgerDocument library ⟨session.ledger.generation + 1,entries⟩) })
  | published (entries : List Entry) (candidate : Candidate library.bytes session operation entries)
      (encodes : encodeLedger library.bytes ⟨session.ledger.generation + 1,entries⟩ = true)
      (moved : next = ⟨some (ledgerDocument library ⟨session.ledger.generation + 1,entries⟩),
        ⟨session.ledger.generation + 1,entries⟩,operation.occupies session.occupancy⟩)

lemma publish_moves {α : Type} (outcome : Publication) (written : Written α)
    (hcandidate : Candidate library.bytes session operation entries) (hended : outcome = .replaced → operation.Replaces)
    (hmemory : written.ledger =
      (session.ledger.publish library.bytes entries (session.ledger.generation + 1) outcome).ledger)
    (hdisk : written.writes =
      (session.ledger.publish library.bytes entries (session.ledger.generation + 1) outcome).writes) :
    Moves library session operation
      { session.after library written with
        occupancy :=
          if (session.ledger.publish library.bytes entries (session.ledger.generation + 1) outcome).result then
            operation.occupies session.occupancy
          else session.occupancy } := by
  unfold Session.after
  rw [hmemory,hdisk]
  rcases publish_eq library.bytes session.ledger entries (session.ledger.generation + 1) outcome with
    hkept | ⟨hencodes,⟨hreplaced,hwritten⟩ | hpublished⟩
  · rw [hkept]
    exact .kept rfl
  · rw [hwritten]
    exact .replaced entries hcandidate hencodes (hended hreplaced) rfl
  · rw [hpublished]
    exact .published entries hcandidate hencodes rfl

/-- What a step does, unless it is a restart. -/
lemma step_moves (h : step library session operation = some next) (hrestart : ¬operation.Restarts) :
    Moves library session operation next := by
  cases operation with
  | inspect request run => exact .kept (Option.some.inj h).symm
  | restart readable => exact absurd trivial hrestart
  | register request run outcome =>
    obtain rfl := Option.some.inj h
    rcases registerRequest_eq library.bytes session.ledger request run outcome with
      ⟨result,hresult,-⟩ | ⟨hfresh,-,hregistered⟩
    · rw [hresult]
      exact .kept rfl
    · rw [hregistered]
      have h := publish_moves outcome (session.ledger.registered library.bytes request run outcome)
        (.register hfresh) (fun hended => hended) rfl rfl
      rwa [show Operation.occupies _ session.occupancy = session.occupancy from rfl,ite_self] at h
  | update run outcome =>
    obtain rfl := Option.some.inj h
    rcases updateRun_eq library.bytes session.ledger run outcome with ⟨result,hresult⟩ | ⟨hgeneration,hvalid,hupdated⟩
    · rw [hresult]
      exact .kept rfl
    · rw [hupdated]
      have h := publish_moves outcome (session.ledger.updated library.bytes run outcome)
        (.update hgeneration hvalid) (fun hended => hended) rfl rfl
      rwa [show Operation.occupies _ session.occupancy = session.occupancy from rfl,ite_self] at h
  | admitRequest draft outcome =>
    obtain rfl := Option.some.inj h
    rcases admitCheckRequest_eq library.bytes session.ledger session.occupancy draft outcome with
      ⟨result,hresult,-⟩ | ⟨hfresh,hfree,result,hadmitted,-⟩
    · rw [hresult]
      exact .kept rfl
    · rw [hadmitted]
      have h := publish_moves outcome (session.ledger.registered library.bytes draft.request draft.run outcome)
        (.admitted hfresh hfree) (fun hended => hended) rfl rfl
      rw [← registered_isSome] at h
      exact h

end Moves

section Candidates
variable {bytes : DocumentBytes} {session : Session} {operation : Operation} {entries : List Entry} {run : Run}

lemma pairwise_apart_iff : entries.Pairwise Apart ↔
    (entries.map Entry.occupancy).Pairwise fun first second =>
      first.requestId ≠ second.requestId ∧ first.runId ≠ second.runId := by
  rw [List.pairwise_map]
  exact List.Pairwise.iff fun _ _ => ⟨fun h => ⟨h.request,h.run⟩,fun h => ⟨h.1,h.2⟩⟩

@[simp] lemma withRun_occupancies (run : Run) (entries : List Entry) :
    (RequestLedger.withRun run entries).map Entry.occupancy = entries.map Entry.occupancy := by
  induction entries with
  | nil => rfl
  | cons entry entries ih =>
    unfold RequestLedger.withRun
    split_ifs with hsame
    · rw [List.map_cons,List.map_cons,Entry.occupancy,Entry.occupancy,hsame.1]
    · rw [List.map_cons,ih,List.map_cons]

/-- An entry after an update is one of before, or the one that is updated. -/
lemma mem_withRun {entry : Entry} (h : entry ∈ RequestLedger.withRun run entries) :
    entry ∈ entries ∨ ∃ old ∈ entries.find? fun entry =>
      entry.run.runId = run.runId ∧ entry.request.requestId = run.requestId, entry = { old with run } := by
  induction entries with
  | nil => exact absurd h List.not_mem_nil
  | cons first entries ih =>
    unfold RequestLedger.withRun at h
    split_ifs at h with hsame
    · rcases List.mem_cons.mp h with rfl | hmem
      · exact Or.inr ⟨first,List.find?_cons_of_pos (decide_eq_true hsame),rfl⟩
      · exact Or.inl (List.mem_cons_of_mem _ hmem)
    · rcases List.mem_cons.mp h with rfl | hmem
      · exact Or.inl List.mem_cons_self
      · rcases ih hmem with hold | ⟨old,hold,hentry⟩
        · exact Or.inl (List.mem_cons_of_mem _ hold)
        · refine Or.inr ⟨old,?_,hentry⟩
          rw [List.find?_cons_of_neg]
          · exact hold
          · exact fun h => hsame (of_decide_eq_true h)

/-- What an operation publishes is sound. -/
lemma Candidate.sound (h : Candidate bytes session operation entries) (hsound : session.ledger.Sound bytes)
    (htyped : operation.Typed) : (⟨session.ledger.generation + 1,entries⟩ : RequestLedger).Sound bytes := by
  have hnext : session.ledger.generation ≠ maxGeneration → session.ledger.generation + 1 < 2 ^ 64 := by
    have hbound := hsound.generation
    unfold maxGeneration
    omega
  have hregister : ∀ {request : Request} {run : Run}, Fresh bytes session.ledger request run → run.Typed →
      (⟨session.ledger.generation + 1,session.ledger.entries ++ [⟨request.accepted,run⟩]⟩ : RequestLedger).Sound
        bytes := by
    intro request run hfresh hrun
    refine ⟨?_,?_,?_,?_,hnext hfresh.generation⟩
    · exact List.forall_mem_append.mpr ⟨hsound.valid,List.forall_mem_singleton.mpr hfresh.valid⟩
    · exact List.forall_mem_append.mpr ⟨hsound.typed,List.forall_mem_singleton.mpr hrun⟩
    · refine List.pairwise_append.mpr ⟨hsound.apart,List.pairwise_singleton _ _,fun entry hentry other hother => ?_⟩
      rw [List.mem_singleton.mp hother]
      exact ⟨hfresh.request entry hentry,hfresh.run entry hentry⟩
    · rw [List.length_append,List.length_singleton]
      exact hfresh.room
  cases h with
  | register hfresh => exact hregister hfresh htyped
  | admitted hfresh hfree => exact hregister hfresh htyped
  | @update run outcome hgeneration hvalid =>
    refine ⟨fun entry hentry => ?_,fun entry hentry => ?_,?_,?_,hnext hgeneration⟩
    · rcases mem_withRun hentry with hmem | ⟨old,hold,rfl⟩
      · exact hsound.valid entry hmem
      · exact hvalid old hold
    · rcases mem_withRun hentry with hmem | ⟨old,hold,rfl⟩
      · exact hsound.typed entry hmem
      · exact htyped
    · rw [pairwise_apart_iff,withRun_occupancies]
      exact pairwise_apart_iff.mp hsound.apart
    · have hlength := congrArg List.length (withRun_occupancies run session.ledger.entries)
      rw [List.length_map,List.length_map] at hlength
      rw [hlength]
      exact hsound.few

end Candidates

section Kept
variable {library : DocumentLibrary} {session next : Session} {operation : Operation}

/-- What holds of every session: its ledger is sound, and its file is opened as a sound ledger, which is the one in
memory or one that its next publication would replace. -/
structure Session.Kept (library : DocumentLibrary) (session : Session) : Prop where
  sound : session.ledger.Sound library.bytes
  disk : ∃ kept, openLedgerDocument library session.disk true = .ok kept ∧
    (kept = session.ledger ∨ kept.generation = session.ledger.generation + 1)

lemma openLedgerDocument_sound {disk : Option String} {readable : Bool} {ledger : RequestLedger}
    (h : openLedgerDocument library disk readable = .ok ledger) :
    ledger.Sound library.bytes ∧ openLedgerDocument library disk true = .ok ledger := by
  cases readable with
  | false => exact nomatch h
  | true =>
    refine ⟨?_,h⟩
    cases disk with
    | none =>
      obtain rfl := Except.ok.inj h
      exact ⟨List.forall_mem_nil _,List.forall_mem_nil _,List.Pairwise.nil,Nat.zero_le _,by decide⟩
    | some text => exact (decodeLedgerDocument_sound h).1

/-- What a destination is opened with is what its file holds. -/
lemma openSession_eq {disk : Option String} {readable : Bool} (h : openSession library disk readable = some session) :
    session.disk = disk ∧ openLedgerDocument library disk readable = .ok session.ledger ∧
      restoreCheckOccupancy session.ledger.entries {} = some session.occupancy := by
  unfold openSession at h
  split at h
  · exact nomatch h
  · rename_i ledger hledger
    obtain ⟨occupancy,hoccupancy,rfl⟩ := Option.map_eq_some_iff.mp h
    exact ⟨rfl,hledger,hoccupancy⟩

lemma openSession_kept {disk : Option String} {readable : Bool} (h : openSession library disk readable = some session) :
    session.Kept library ∧ openLedgerDocument library session.disk true = .ok session.ledger := by
  obtain ⟨rfl,hledger,-⟩ := openSession_eq h
  obtain ⟨hsound,hopen⟩ := openLedgerDocument_sound hledger
  exact ⟨⟨hsound,_,hopen,Or.inl rfl⟩,hopen⟩

/-- A step keeps the session, and changes its ledger to one of the next generation. -/
lemma step_kept (hlibrary : library.Reads) (hkept : session.Kept library) (htyped : operation.Typed)
    (h : step library session operation = some next) :
    next.Kept library ∧ (next.ledger = session.ledger ∨ next.ledger.generation = session.ledger.generation + 1) := by
  by_cases hrestart : operation.Restarts
  · cases operation with
    | restart readable =>
      obtain ⟨hdisk,hledger,-⟩ := openSession_eq h
      obtain ⟨kept,hopen,hsame⟩ := hkept.disk
      rw [(openLedgerDocument_sound hledger).2] at hopen
      obtain rfl := Except.ok.inj hopen
      exact ⟨(openSession_kept h).1,hsame⟩
    | _ => exact absurd hrestart id
  · cases step_moves h hrestart with
    | kept moved =>
      subst moved
      exact ⟨hkept,Or.inl rfl⟩
    | replaced entries candidate encodes ended moved =>
      subst moved
      have hdisk := decodeLedgerDocument_ledgerDocument hlibrary encodes (candidate.sound hkept.sound htyped)
      exact ⟨⟨hkept.sound,_,hdisk,Or.inr rfl⟩,Or.inl rfl⟩
    | published entries candidate encodes moved =>
      subst moved
      have hsound := candidate.sound hkept.sound htyped
      have hdisk := decodeLedgerDocument_ledgerDocument hlibrary encodes hsound
      exact ⟨⟨hsound,_,hdisk,Or.inl rfl⟩,Or.inr rfl⟩

/-- Without a publication that fails after the file was replaced, the file is opened as the ledger in memory. -/
lemma step_same (hlibrary : library.Reads) (hkept : session.Kept library) (htyped : operation.Typed)
    (hreplaces : ¬operation.Replaces) (h : step library session operation = some next)
    (hsame : openLedgerDocument library session.disk true = .ok session.ledger) :
    openLedgerDocument library next.disk true = .ok next.ledger := by
  by_cases hrestart : operation.Restarts
  · cases operation with
    | restart readable => exact (openSession_kept h).2
    | _ => exact absurd hrestart id
  · cases step_moves h hrestart with
    | kept moved => exact moved ▸ hsame
    | replaced entries candidate encodes ended moved => exact absurd ended hreplaces
    | published entries candidate encodes moved =>
      subst moved
      exact decodeLedgerDocument_ledgerDocument hlibrary encodes (candidate.sound hkept.sound htyped)

end Kept
end AytherRuntime.Destination
