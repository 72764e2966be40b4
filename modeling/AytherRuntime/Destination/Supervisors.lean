import AytherRuntime.Destination.Admission
import AytherRuntime.Library.Machine
import Mathlib.Logic.Function.Basic

/-! Supervisors that run their requests on one destination, in any interleaving of their steps. -/
namespace AytherRuntime.Destination
open Machine

/-- Where a supervisor is in `RequestRun::run`, from its attempt at the lock on. -/
inductive Stage
  | starting
  | locked
  | recovering (opened : List Run)
  | admitting
  /-- With the takes that remain. -/
  | executing (run : Run) (takes : ℕ)
  | finished
  | released
  deriving DecidableEq, Repr

structure Supervisor where
  held : Bool := false
  stage : Stage := .starting
  ledger : RequestLedger := {}
  occupancy : SessionOccupancy := {}
  deriving DecidableEq, Repr

/-- What the takes of a request give its run. -/
structure TakeResults where
  anyCancelled : Bool
  allNatural : Bool
  allComplete : Bool
  lastFrame : Option ℕ
  cessationConfirmed : Bool
  deriving DecidableEq, Repr

/-- The step of one supervisor, with what the system answers. -/
inductive Choice
  | lock (obtained : Bool)
  | openLedger (readable : Bool)
  /-- The next run that was left open. -/
  | recover (reachable : Bool) (first second : Publication)
  | restore
  | admission (outcome : Publication)
  | executeTake
  /-- The final run; no results are those of an invalid summary. -/
  | finish (results : Option TakeResults) (outcome : Publication)
  | release
  | interrupt
  deriving DecidableEq, Repr

def Choice.admits : Choice → Bool
  | .admission _ => true
  | _ => false

/-- The run that a supervisor publishes at its end. -/
def finalRun (run : Run) (results : TakeResults) : Run :=
  { run with
    phase := .closed
    playbackResult :=
      if results.anyCancelled then .cancelled else if results.allNatural then .naturalEnd else .error
    evidenceResult := if results.allComplete then .complete else .incomplete
    lastExecutedFrame :=
      if results.allNatural || results.anyCancelled then results.lastFrame else run.lastExecutedFrame
    cessationConfirmed := results.cessationConfirmed }

/-- What a step of a supervisor leaves: itself, what it wrote, and the request it accepted. -/
structure Turn where
  supervisor : Supervisor
  writes : List RequestLedger := []
  accepted : Option Request := none
  deriving DecidableEq, Repr

section Turn
variable (bytes : DocumentBytes) (draft : CheckRequestDraft) (disk : Option RequestLedger)

/-- The steps between the lock and its release. -/
def Supervisor.turn (s : Supervisor) (choice : Choice) : Option Turn :=
  match s.stage, choice with
  | .locked, .openLedger readable =>
    match openRequestLedger bytes disk readable with
    | none => some { supervisor := { s with stage := .finished } }
    | some ledger =>
      some { supervisor :=
        { s with ledger, stage := .recovering (if s.held then ledger.openRuns else []) } }
  | .recovering (run :: opened), .recover reachable first second =>
    let recovered := recoverOpenRun bytes s.ledger run reachable first second
    some
      { supervisor := { s with ledger := recovered.ledger, stage := .recovering opened }
        writes := recovered.writes }
  | .recovering [], .restore =>
    match restoreCheckOccupancy s.ledger.entries {} with
    | none => some { supervisor := { s with stage := .finished } }
    | some occupancy => some { supervisor := { s with occupancy, stage := .admitting } }
  | .admitting, .admission outcome =>
    let admitted := admitCheckRequest bytes s.ledger s.occupancy draft outcome
    let s := { s with ledger := admitted.1.ledger, occupancy := admitted.2 }
    match admitted.1.result with
    | .accepted run =>
      some
        { supervisor := { s with stage := .executing run draft.request.takeIds.length }
          writes := admitted.1.writes
          accepted := some { draft.request with admission := .accepted } }
    | _ => some { supervisor := { s with stage := .finished }, writes := admitted.1.writes }
  | .executing run (takes + 1), .executeTake =>
    some { supervisor := { s with stage := .executing run takes } }
  | .executing _ 0, .finish none _ => some { supervisor := { s with stage := .finished } }
  | .executing run 0, .finish (some results) outcome =>
    let updated := s.ledger.updateRun bytes (finalRun run results) outcome
    some
      { supervisor := { s with ledger := updated.ledger, stage := .finished }
        writes := updated.writes }
  | _, _ => none

end Turn

inductive Event (ι : Type)
  | published (supervisor : ι) (ledger : RequestLedger)
  | accepted (supervisor : ι) (request : Request)
  deriving DecidableEq, Repr

/-- One destination: its ledger on disk, who holds its lock, its supervisors, and what they published
and accepted so far. -/
structure World (ι : Type) where
  disk : Option RequestLedger := none
  holder : Option ι := none
  supervisor : ι → Supervisor := fun _ => {}
  log : List (Event ι) := []

namespace World
variable {ι : Type} [DecidableEq ι] (bytes : DocumentBytes) (draft : ι → CheckRequestDraft)
variable (w : World ι)

def tryLock (i : ι) (obtained : Bool) : World ι :=
  { w with
    holder := if obtained then some i else w.holder
    supervisor :=
      Function.update w.supervisor i { w.supervisor i with held := obtained, stage := .locked } }

/-- The lock is free once its holder closes its handle, also when the process ends. -/
def release (i : ι) : World ι :=
  { w with
    holder := if w.holder = some i then none else w.holder
    supervisor := Function.update w.supervisor i { w.supervisor i with held := false, stage := .released } }

def apply (i : ι) (turn : Turn) : World ι :=
  { w with
    disk := turn.writes.getLast?.or w.disk
    supervisor := Function.update w.supervisor i turn.supervisor
    log := w.log ++ turn.writes.map (.published i) ++ turn.accepted.toList.map (.accepted i) }

/-- One step of a supervisor. The system gives the lock to one holder at a time. -/
def next (step : ι × Choice) : Option (World ι) :=
  let s := w.supervisor step.1
  match s.stage, step.2 with
  | .starting, .lock obtained =>
    if obtained ∧ w.holder ≠ none then none else some (w.tryLock step.1 obtained)
  | .finished, .release => some (w.release step.1)
  | .released, .interrupt => none
  | _, .interrupt => some (w.release step.1)
  | _, choice => (s.turn bytes (draft step.1) w.disk choice).map (w.apply step.1)

/-- Any ledger may be there before. -/
def start (disk : Option RequestLedger) : World ι := { disk }

end World

def Stage.executes : Stage → Bool
  | .executing _ _ => true
  | _ => false

/-- A ledger published after a request was accepted holds the request. -/
def Event.Keeps {ι : Type} : Event ι → Event ι → Prop
  | .accepted _ request, .published _ ledger => request ∈ ledger.requests
  | _, _ => True

/-- At most one supervisor executes takes, and no accepted request is absent from a ledger published
later. -/
structure Safe {ι : Type} (w : World ι) : Prop where
  exclusive : ∀ i j, (w.supervisor i).stage.executes = true →
    (w.supervisor j).stage.executes = true → i = j
  kept : w.log.Pairwise Event.Keeps

/-- A supervisor without the lock finds, at its admission, nothing that it would register. -/
def Defers {ι : Type} (bytes : DocumentBytes) (draft : ι → CheckRequestDraft) (w : World ι)
    (step : ι × Choice) : Prop :=
  step.2.admits → (w.supervisor step.1).held = true ∨
    ¬Registers bytes (w.supervisor step.1).ledger (w.supervisor step.1).occupancy (draft step.1)

section Turn
variable {bytes : DocumentBytes} {draft : CheckRequestDraft} {disk : Option RequestLedger}
variable {s : Supervisor} {choice : Choice} {t : Turn}

/-- The ledger of the supervisor is open. -/
def Stage.Active : Stage → Prop
  | .recovering _ | .admitting | .executing _ _ => True
  | _ => False

def requestsOf (disk : Option RequestLedger) : List Request := (disk.getD {}).requests

/-- What a turn writes and leaves keeps the requests of the disk. -/
structure Turn.Keeps (disk : Option RequestLedger) (t : Turn) : Prop where
  writes : ∀ candidate ∈ t.writes, requestsOf disk ⊆ candidate.requests
  memory : t.supervisor.stage.Active →
    t.supervisor.ledger.requests = requestsOf (t.writes.getLast?.or disk)
  accepted : ∀ request, t.accepted = some request →
    request ∈ requestsOf (t.writes.getLast?.or disk)

lemma openRequestLedger_requests {readable : Bool} {ledger : RequestLedger}
    (h : openRequestLedger bytes disk readable = some ledger) :
    ledger.requests = requestsOf disk := by
  unfold openRequestLedger at h
  split_ifs at h
  split at h
  · cases h
    rfl
  · split_ifs at h
    cases h
    rfl

lemma Turn.Keeps.of_silent (hwrites : t.writes = []) (haccepted : t.accepted = none)
    (hmemory : t.supervisor.stage.Active → t.supervisor.ledger.requests = requestsOf disk) :
    t.Keeps disk := by
  refine ⟨by simp [hwrites],fun hactive => ?_,by simp [haccepted]⟩
  rw [hwrites]
  exact hmemory hactive

/-- The last of some writes that all hold the same requests. -/
lemma requestsOf_last {writes : List RequestLedger} {requests : List Request}
    (hwrites : ∀ candidate ∈ writes, candidate.requests = requests) (hdisk : requestsOf disk = requests) :
    requestsOf (writes.getLast?.or disk) = requests := by
  cases hlast : writes.getLast? with
  | none => exact hdisk
  | some last => exact hwrites last (List.mem_of_getLast? hlast)

/-- A turn on an up to date copy of the ledger keeps every request. -/
lemma Supervisor.turn_held (hturn : s.turn bytes draft disk choice = some t) :
    t.supervisor.held = s.held := by
  unfold Supervisor.turn at hturn
  dsimp only at hturn
  repeat' split at hturn
  all_goals
    cases hturn
    try rfl

lemma Supervisor.turn_keeps (hsynced : s.stage.Active → s.ledger.requests = requestsOf disk)
    (hturn : s.turn bytes draft disk choice = some t) : t.Keeps disk := by
  unfold Supervisor.turn at hturn
  split at hturn
  · split at hturn
    · cases hturn
      exact .of_silent rfl rfl fun hactive => hactive.elim
    · rename_i ledger hopen
      cases hturn
      exact .of_silent rfl rfl fun _ => openRequestLedger_requests hopen
  · rename_i run opened reachable first second hstage
    have hsame := hsynced (by rw [hstage]; trivial)
    obtain ⟨hmemory,hwrites⟩ := recoverOpenRun_keeps bytes s.ledger run reachable first second
    cases hturn
    refine ⟨fun candidate hcandidate => ?_,fun _ => ?_,fun request h => nomatch h⟩
    · rw [hwrites candidate hcandidate,hsame]
      exact List.Subset.refl _
    · rw [requestsOf_last hwrites hsame.symm]
      exact hmemory
  · rename_i hstage
    have hsame := hsynced (by rw [hstage]; trivial)
    split at hturn
    · cases hturn
      exact .of_silent rfl rfl fun hactive => hactive.elim
    · cases hturn
      exact .of_silent rfl rfl fun _ => hsame
  · rename_i outcome hstage
    have hsame := hsynced (by rw [hstage]; trivial)
    have hcases := admitCheckRequest_cases bytes s.ledger s.occupancy draft outcome
    generalize admitCheckRequest bytes s.ledger s.occupancy draft outcome = admitted at hturn hcases
    have hgrows : ∀ candidate ∈ admitted.1.writes, requestsOf disk ⊆ candidate.requests := by
      intro candidate hcandidate
      rcases hcases with ⟨hnone,-⟩ | ⟨-,hwrites,-⟩
      · rw [hnone] at hcandidate
        cases hcandidate
      · rw [hwrites candidate hcandidate,hsame]
        exact List.subset_append_left _ _
    dsimp only at hturn
    split at hturn
    · rename_i run hresult
      cases hturn
      rcases hcases with ⟨-,hnot⟩ | ⟨-,hwrites,haccepted⟩
      · exact absurd hresult (hnot run)
      · have hlast := haccepted run hresult
        rw [hlast] at hwrites hgrows
        refine ⟨?_,fun _ => ?_,?_⟩
        · rw [hlast]
          exact hgrows
        · rw [hlast]
          rfl
        · rintro request hrequest
          cases hrequest
          rw [hlast]
          change _ ∈ admitted.1.ledger.requests
          rw [hwrites _ (List.mem_singleton.mpr rfl)]
          exact List.mem_append_right _ (List.mem_singleton.mpr rfl)
    · cases hturn
      exact ⟨hgrows,fun hactive => hactive.elim,fun request h => nomatch h⟩
  · rename_i run takes hstage
    cases hturn
    exact .of_silent rfl rfl fun _ => hsynced (by rw [hstage]; trivial)
  · cases hturn
    exact .of_silent rfl rfl fun hactive => hactive.elim
  · rename_i run results outcome hstage
    have hsame := hsynced (by rw [hstage]; trivial)
    obtain ⟨hmemory,hwrites⟩ := updateRun_keeps bytes s.ledger (finalRun run results) outcome
    cases hturn
    refine ⟨fun candidate hcandidate => ?_,fun hactive => hactive.elim,fun request h => nomatch h⟩
    rw [hwrites candidate hcandidate,hsame]
    exact List.Subset.refl _
  · cases hturn

/-- A supervisor without the lock: it recovers nothing and executes nothing. -/
structure Supervisor.Idle (s : Supervisor) : Prop where
  recovers : ∀ run opened, s.stage ≠ .recovering (run :: opened)
  executes : s.stage.executes = false

/-- Its turns are silent where it registers nothing. -/
lemma Supervisor.Idle.turn (hidle : s.Idle) (hheld : s.held = false)
    (hdefers : choice.admits → ¬Registers bytes s.ledger s.occupancy draft)
    (hturn : s.turn bytes draft disk choice = some t) :
    t.supervisor.Idle ∧ t.writes = [] ∧ t.accepted = none := by
  obtain ⟨hrecovers,hexecutes⟩ := hidle
  unfold Supervisor.turn at hturn
  split at hturn
  · split at hturn
    · cases hturn
      exact ⟨⟨by simp,rfl⟩,rfl,rfl⟩
    · cases hturn
      exact ⟨⟨by simp [hheld],rfl⟩,rfl,rfl⟩
  · rename_i run opened _ _ _ hstage
    exact absurd hstage (hrecovers run opened)
  · split at hturn
    · cases hturn
      exact ⟨⟨by simp,rfl⟩,rfl,rfl⟩
    · cases hturn
      exact ⟨⟨by simp,rfl⟩,rfl,rfl⟩
  · rename_i outcome hstage
    rcases admitCheckRequest_cases bytes s.ledger s.occupancy draft outcome with
      ⟨hnone,hnot⟩ | ⟨hregisters,-⟩
    · dsimp only at hturn
      split at hturn
      · rename_i run hresult
        exact absurd hresult (hnot run)
      · cases hturn
        exact ⟨⟨by simp,rfl⟩,hnone,rfl⟩
    · exact absurd hregisters (hdefers rfl)
  · rename_i hstage
    rw [hstage] at hexecutes
    cases hexecutes
  · rename_i hstage
    rw [hstage] at hexecutes
    cases hexecutes
  · rename_i hstage
    rw [hstage] at hexecutes
    cases hexecutes
  · cases hturn

end Turn

section World
variable {ι : Type} [DecidableEq ι] {bytes : DocumentBytes} {draft : ι → CheckRequestDraft}
variable {w w' : World ι} {i : ι} {choice : Choice} {t : Turn}

lemma World.next_cases (h : w.next bytes draft (i,choice) = some w') :
    (∃ obtained, (obtained = true → w.holder = none) ∧ w' = w.tryLock i obtained) ∨
      w' = w.release i ∨
      ∃ t, (w.supervisor i).turn bytes (draft i) w.disk choice = some t ∧ w' = w.apply i t := by
  unfold World.next at h
  dsimp only at h
  split at h
  · rename_i obtained _
    split_ifs at h with hfree
    cases h
    exact Or.inl ⟨obtained,fun ho => by simpa [ho] using hfree,rfl⟩
  · cases h
    exact Or.inr (Or.inl rfl)
  · cases h
  · cases h
    exact Or.inr (Or.inl rfl)
  · obtain ⟨t,hturn,rfl⟩ := Option.map_eq_some_iff.mp h
    exact Or.inr (Or.inr ⟨t,hturn,rfl⟩)

/-- What holds while nobody registers without the lock: the holder alone is past its admission, on an
up to date copy of the ledger, and the disk has every accepted request. -/
structure Guarded (w : World ι) : Prop where
  holder : ∀ i, (w.supervisor i).held = true → w.holder = some i
  idle : ∀ i, (w.supervisor i).held = false → (w.supervisor i).Idle
  synced : ∀ i, (w.supervisor i).held = true → (w.supervisor i).stage.Active →
    (w.supervisor i).ledger.requests = requestsOf w.disk
  accepted : ∀ i request, .accepted i request ∈ w.log → request ∈ requestsOf w.disk
  kept : w.log.Pairwise Event.Keeps

omit [DecidableEq ι] in
lemma start_guarded (disk : Option RequestLedger) : Guarded (World.start disk : World ι) where
  holder := by simp [World.start]
  idle := fun _ _ => ⟨by simp [World.start],rfl⟩
  synced := by simp [World.start]
  accepted := by simp [World.start]
  kept := by simp [World.start]

omit [DecidableEq ι] in
lemma Guarded.exclusive (h : Guarded w) (i j : ι) (hi : (w.supervisor i).stage.executes = true)
    (hj : (w.supervisor j).stage.executes = true) : i = j := by
  have hholds : ∀ k, (w.supervisor k).stage.executes = true → w.holder = some k := by
    intro k hk
    refine h.holder k ?_
    by_contra hheld
    rw [(h.idle k (by simpa using hheld)).executes] at hk
    cases hk
  exact Option.some.inj ((hholds i hi).symm.trans (hholds j hj))

omit [DecidableEq ι] in
lemma Guarded.safe (h : Guarded w) : Safe w := ⟨h.exclusive,h.kept⟩

/-- One supervisor changes, and the disk only where no other one has the lock. -/
lemma Guarded.replace (h : Guarded w) {s : Supervisor}
    (hreplaced : w'.supervisor = Function.update w.supervisor i s)
    (hothers : ∀ j ≠ i, (w.supervisor j).held = true → w'.holder = some j ∧ w'.disk = w.disk)
    (hholder : s.held = true → w'.holder = some i) (hidle : s.held = false → s.Idle)
    (hsynced : s.held = true → s.stage.Active → s.ledger.requests = requestsOf w'.disk)
    (haccepted : ∀ j request, .accepted j request ∈ w'.log → request ∈ requestsOf w'.disk)
    (hkept : w'.log.Pairwise Event.Keeps) : Guarded w' := by
  have hself : w'.supervisor i = s := by rw [hreplaced,Function.update_self]
  have hother : ∀ j ≠ i, w'.supervisor j = w.supervisor j :=
    fun j hj => by rw [hreplaced,Function.update_of_ne hj]
  refine ⟨fun j hj => ?_,fun j hj => ?_,fun j hj hactive => ?_,haccepted,hkept⟩
  all_goals by_cases hji : j = i
  · subst hji
    exact hholder (hself ▸ hj)
  · exact (hothers j hji (hother j hji ▸ hj)).1
  · subst hji
    rw [hself] at hj ⊢
    exact hidle hj
  · rw [hother j hji] at hj ⊢
    exact h.idle j hj
  · subst hji
    rw [hself] at hj hactive ⊢
    exact hsynced hj hactive
  · rw [hother j hji] at hj hactive ⊢
    rw [(hothers j hji hj).2]
    exact h.synced j hj hactive

/-- A supervisor that ends, or dies, gives the lock back. -/
lemma Guarded.release (h : Guarded w) (i : ι) : Guarded (w.release i) := by
  refine h.replace rfl (fun j hji hj => ⟨?_,rfl⟩) (fun hheld => ?_) (fun _ => ⟨?_,rfl⟩)
    (fun hheld => ?_) h.accepted h.kept
  · have hholder := h.holder j hj
    unfold World.release
    rw [hholder,if_neg (by simpa using hji)]
  · cases hheld
  · intro run opened hstage
    cases hstage
  · cases hheld

/-- A supervisor tries the lock. -/
lemma Guarded.lock (h : Guarded w) (i : ι) (obtained : Bool)
    (hfree : obtained = true → w.holder = none) : Guarded (w.tryLock i obtained) := by
  refine h.replace rfl (fun j hji hj => ⟨?_,rfl⟩) (fun hheld => ?_) (fun _ => ⟨?_,rfl⟩)
    (fun _ hactive => hactive.elim) h.accepted h.kept
  · have hholder := h.holder j hj
    unfold World.tryLock
    rw [if_neg fun ho => by simp [hfree ho] at hholder]
    exact hholder
  · exact if_pos hheld
  · intro run opened hstage
    cases hstage

/-- A turn that keeps the requests of the disk. -/
lemma Guarded.apply (h : Guarded w) (hheld : (w.supervisor i).held = true)
    (hturn : (w.supervisor i).turn bytes (draft i) w.disk choice = some t) :
    Guarded (w.apply i t) := by
  have hkeeps := Supervisor.turn_keeps (h.synced i hheld) hturn
  have hholder := h.holder i hheld
  have hgrows : requestsOf w.disk ⊆ requestsOf (w.apply i t).disk := by
    unfold World.apply
    dsimp only
    cases hlast : t.writes.getLast? with
    | none => exact List.Subset.refl _
    | some last => exact hkeeps.writes last (List.mem_of_getLast? hlast)
  refine h.replace rfl (fun j hji hj => ?_) (fun _ => hholder) (fun hnot => ?_)
    (fun _ hactive => hkeeps.memory hactive) ?_ ?_
  · rw [h.holder j hj] at hholder
    exact absurd (Option.some.inj hholder) hji
  · rw [Supervisor.turn_held hturn,hheld] at hnot
    cases hnot
  · intro j request hin
    unfold World.apply at hin
    simp only [List.mem_append,List.mem_map,reduceCtorEq,and_false,exists_false,or_false,
      Option.mem_toList,Event.accepted.injEq] at hin
    rcases hin with hin | ⟨accepted,haccepted,-,rfl⟩
    · exact hgrows (h.accepted j request hin)
    · exact hkeeps.accepted accepted haccepted
  · have hpublished : ∀ event ∈ t.writes.map (Event.published i), ∃ candidate,
        event = .published i candidate ∧ requestsOf w.disk ⊆ candidate.requests := by
      intro event hevent
      obtain ⟨candidate,hcandidate,rfl⟩ := List.mem_map.mp hevent
      exact ⟨candidate,rfl,hkeeps.writes candidate hcandidate⟩
    refine List.pairwise_append.mpr ⟨List.pairwise_append.mpr ⟨h.kept,?_,?_⟩,?_,?_⟩
    · exact List.pairwise_map.mpr (List.pairwise_of_forall fun _ _ => trivial)
    · intro earlier hearlier later hlater
      obtain ⟨candidate,rfl,hsub⟩ := hpublished later hlater
      cases earlier with
      | published => trivial
      | accepted j request => exact hsub (h.accepted j request hearlier)
    · exact List.pairwise_map.mpr (List.pairwise_of_forall fun _ _ => trivial)
    · intro earlier _ later hlater
      obtain ⟨request,-,rfl⟩ := List.mem_map.mp hlater
      cases earlier <;> trivial

/-- A silent turn of a supervisor without the lock. -/
lemma Guarded.applyIdle (h : Guarded w) (hidle : t.supervisor.Idle)
    (hheld : t.supervisor.held = false) (hwrites : t.writes = []) (haccepted : t.accepted = none) :
    Guarded (w.apply i t) := by
  have hlog : (w.apply i t).log = w.log := by simp [World.apply,hwrites,haccepted]
  have hdisk : (w.apply i t).disk = w.disk := by simp [World.apply,hwrites]
  refine h.replace rfl (fun j _ hj => ⟨h.holder j hj,hdisk⟩) (fun hnot => ?_) (fun _ => hidle)
    (fun hnot => ?_) ?_ ?_
  · rw [hheld] at hnot
    cases hnot
  · rw [hheld] at hnot
    cases hnot
  · rw [hlog,hdisk]
    exact h.accepted
  · rw [hlog]
    exact h.kept

/-- One step keeps the destination guarded where a supervisor without the lock defers. -/
lemma Guarded.next (h : Guarded w) {step : ι × Choice} (hdefers : Defers bytes draft w step)
    (hnext : w.next bytes draft step = some w') : Guarded w' := by
  obtain ⟨i,choice⟩ := step
  rcases World.next_cases hnext with ⟨obtained,hfree,rfl⟩ | rfl | ⟨t,hturn,rfl⟩
  · exact h.lock i obtained hfree
  · exact h.release i
  · cases hheld : (w.supervisor i).held with
    | true => exact h.apply hheld hturn
    | false =>
      obtain ⟨hidle,hwrites,haccepted⟩ := (h.idle i hheld).turn hheld (fun hchoice =>
        (hdefers hchoice).resolve_left (by simp [hheld])) hturn
      exact h.applyIdle hidle ((Supervisor.turn_held hturn).trans hheld) hwrites haccepted

end World
/-- The destination is safe in every state of a run in which no supervisor registers a request
without the lock. -/
theorem destination_safe {ι : Type} [DecidableEq ι] (bytes : DocumentBytes)
    (draft : ι → CheckRequestDraft) (disk : Option RequestLedger) (steps : List (ι × Choice))
    (w : World ι) (hrun : Meets (World.next bytes draft) (Defers bytes draft) (World.start disk) steps w) :
    Safe w :=
  Guarded.safe (hrun.invariant (fun hw hdefers hnext => hw.next hdefers hnext) (start_guarded disk))

section Runs

/-- Documents of a plausible size. -/
def smallDocuments : DocumentBytes where
  request := fun _ => 200
  run := fun _ => 300
  ledger := fun ledger => 100 + 700 * ledger.entries.length

/-- One take for each of two requests. -/
def twoDrafts (second : Bool) : CheckRequestDraft :=
  let requestId := if second then "request-2" else "request-1"
  let takeId := if second then "take-2" else "take-1"
  { request :=
      { requestId, sessionId := "audio-qa-check-v1", conditionsId := "conditions", takeIds := [takeId] }
    run := { runId := if second then "run-2" else "run-1", requestId, takeId } }

instance {ι : Type} (bytes : DocumentBytes) (draft : ι → CheckRequestDraft) (w : World ι)
    (step : ι × Choice) : Decidable (Defers bytes draft w step) :=
  inferInstanceAs (Decidable (_ → _ ∨ ¬(_ ∧ _)))

instance {ι : Type} : DecidableRel (Event.Keeps (ι := ι))
  | .accepted _ request, .published _ ledger => inferInstanceAs (Decidable (request ∈ ledger.requests))
  | .accepted .., .accepted .. | .published .., _ => isTrue trivial

/-- The second supervisor finds the destination busy. -/
def busyRun : List (Bool × Choice) :=
  [(false,.lock true),(true,.lock false),(false,.openLedger true),(false,.restore),
    (false,.admission .published),(true,.openLedger true),(true,.restore),
    (true,.admission .published),(false,.executeTake),
    (false,.finish (some ⟨false,true,true,some 59,true⟩) .published)]

theorem destination_safe_busy : ∃ w, Steps (World.next smallDocuments twoDrafts) (World.start none)
    busyRun w ∧ Safe w := by
  have hsome : (run (fun w step => if Defers smallDocuments twoDrafts w step then
      World.next smallDocuments twoDrafts w step else none) (World.start none) busyRun).isSome = true := by
    decide +kernel
  obtain ⟨w,hw⟩ := Option.isSome_iff_exists.mp hsome
  have hmeets : Meets (World.next smallDocuments twoDrafts) (Defers smallDocuments twoDrafts)
      (World.start none) busyRun w := run_meets hw
  exact ⟨w,hmeets.steps,destination_safe smallDocuments twoDrafts none busyRun w hmeets⟩

/-- The second supervisor opens the ledger before the first one publishes its request. -/
def unlockedRun : List (Bool × Choice) :=
  [(false,.lock true),(true,.lock false),(false,.openLedger true),(true,.openLedger true),
    (false,.restore),(true,.restore),(false,.admission .published),(true,.admission .published)]

/-- Both execute, and the second ledger has lost the first request. -/
theorem unlocked_supervisor_unsafe : ∃ w, Steps (World.next smallDocuments twoDrafts)
    (World.start none) unlockedRun w ∧ (w.supervisor false).stage.executes = true ∧
      (w.supervisor true).stage.executes = true ∧ ¬w.log.Pairwise Event.Keeps ∧ ¬Safe w := by
  have hsome : ((run (World.next smallDocuments twoDrafts) (World.start none) unlockedRun).any
      fun w => (w.supervisor false).stage.executes && (w.supervisor true).stage.executes &&
        decide (¬w.log.Pairwise Event.Keeps)) = true := by
    decide +kernel
  obtain ⟨w,hw,hall⟩ := (Option.any_eq_true _ _).mp hsome
  simp only [Bool.and_eq_true,decide_eq_true_eq] at hall
  obtain ⟨⟨hfirst,hsecond⟩,hlost⟩ := hall
  exact ⟨w,run_steps hw,hfirst,hsecond,hlost,fun hsafe => hlost hsafe.kept⟩

end Runs

end AytherRuntime.Destination
