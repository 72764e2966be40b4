import AytherRuntime.Library.Codec
import AytherRuntime.Library.Machine

/-! The pump of a channel: a thread reads its messages into a bounded queue and the consumer takes them out, each
critical section at once and in any order. -/
namespace AytherRuntime.Channel
open Codec (Bytes)
open Machine (Steps)

section Pump

inductive ProtocolIoError
  | none | readFailed | unexpectedEnd | headerRejected | allocationFailed
  deriving DecidableEq, Repr

inductive ProtocolReadResult
  | message (bytes : Bytes)
  | error (error : ProtocolIoError)
  deriving DecidableEq

/-- `bytes_of` -/
def ProtocolReadResult.bytesOf : ProtocolReadResult → ℕ
  | .message bytes => bytes.length
  | .error _ => 0

def ProtocolReadResult.isError : ProtocolReadResult → Bool
  | .message _ => false
  | .error _ => true

/-- Where the reader thread is: at its wait, in a read, before it enqueues what it read, or at its end. -/
inductive ReaderThread
  | waiting
  | reading
  | holding (result : ProtocolReadResult)
  | finished
  deriving DecidableEq

/-- `ChannelPump`, with what its reader has returned and what was popped. -/
structure ChannelPump where
  maxQueuedBytes : ℕ
  queue : List ProtocolReadResult := []
  queuedBytes : ℕ := 0
  stop : Bool := false
  ended : Bool := false
  thread : ReaderThread := .waiting
  read : List ProtocolReadResult := []
  popped : List ProtocolReadResult := []

/-- The steps of the reader thread with what it reads, and those of the consumer. -/
inductive PumpAction
  | pass
  | quit
  | read (result : ProtocolReadResult)
  | enqueue
  | pop
  | stop
  deriving DecidableEq

namespace ChannelPump
variable (pump : ChannelPump)

def new (maxQueuedBytes : ℕ) : ChannelPump := { maxQueuedBytes }

/-- The second critical section of `run`. -/
def enqueue (result : ProtocolReadResult) : ChannelPump :=
  { pump with
    queuedBytes := pump.queuedBytes + result.bytesOf
    queue := pump.queue ++ [result]
    ended := pump.ended || result.isError
    thread := if result.isError then .finished else .waiting }

/-- `pop` of a first result: the error of the reader goes back when it was the last one. -/
def popFront (result : ProtocolReadResult) (rest : List ProtocolReadResult) : ChannelPump :=
  { pump with
    queue := if rest = [] ∧ pump.ended ∧ result.isError then [result] else rest
    queuedBytes := pump.queuedBytes - result.bytesOf
    popped := pump.popped ++ [result] }

/-- A step, where its wait is over. -/
def step : ChannelPump → PumpAction → Option ChannelPump
  | pump, .pass =>
    if pump.thread = .waiting ∧ ¬pump.stop ∧ pump.queuedBytes < pump.maxQueuedBytes then
      some { pump with thread := .reading } else none
  | pump, .quit => if pump.thread = .waiting ∧ pump.stop then some { pump with thread := .finished } else none
  | pump, .read result =>
    if pump.thread = .reading then some { pump with thread := .holding result, read := pump.read ++ [result] } else none
  | pump, .enqueue =>
    match pump.thread with
    | .holding result => some (pump.enqueue result)
    | _ => none
  | pump, .pop =>
    match pump.queue with
    | result :: rest => some (pump.popFront result rest)
    | [] =>
      if pump.stop then some { pump with popped := pump.popped ++ [ProtocolReadResult.error .readFailed] } else none
  | pump, .stop => some { pump with stop := true }

end ChannelPump
end Pump

section Steps
variable {pump next : ChannelPump} {action : PumpAction}

/-- The bytes of some results. -/
def bytesOfAll (results : List ProtocolReadResult) : ℕ := (results.map ProtocolReadResult.bytesOf).sum

@[simp] lemma bytesOfAll_nil : bytesOfAll [] = 0 := rfl

@[simp] lemma bytesOfAll_cons (result : ProtocolReadResult) (results : List ProtocolReadResult) :
    bytesOfAll (result :: results) = result.bytesOf + bytesOfAll results := rfl

@[simp] lemma bytesOfAll_append (results more : List ProtocolReadResult) :
    bytesOfAll (results ++ more) = bytesOfAll results + bytesOfAll more := by
  unfold bytesOfAll
  rw [List.map_append,List.sum_append]

/-- What a step does. -/
lemma step_cases (h : pump.step action = some next) :
    (action = .pass ∧ pump.thread = .waiting ∧ pump.stop = false ∧ pump.queuedBytes < pump.maxQueuedBytes ∧
      next = { pump with thread := .reading }) ∨
    (action = .quit ∧ pump.thread = .waiting ∧ pump.stop = true ∧ next = { pump with thread := .finished }) ∨
    (∃ result, action = .read result ∧ pump.thread = .reading ∧
      next = { pump with thread := .holding result, read := pump.read ++ [result] }) ∨
    (∃ result, action = .enqueue ∧ pump.thread = .holding result ∧ next = pump.enqueue result) ∨
    (∃ result rest, action = .pop ∧ pump.queue = result :: rest ∧ next = pump.popFront result rest) ∨
    (action = .pop ∧ pump.queue = [] ∧ pump.stop = true ∧
      next = { pump with popped := pump.popped ++ [ProtocolReadResult.error .readFailed] }) ∨
    (action = .stop ∧ next = { pump with stop := true }) := by
  cases action with
  | pass =>
    rw [ChannelPump.step] at h
    split_ifs at h with hpass
    exact Or.inl ⟨rfl,hpass.1,by simpa using hpass.2.1,hpass.2.2,(Option.some.inj h).symm⟩
  | quit =>
    rw [ChannelPump.step] at h
    split_ifs at h with hquit
    exact Or.inr (Or.inl ⟨rfl,hquit.1,hquit.2,(Option.some.inj h).symm⟩)
  | read result =>
    rw [ChannelPump.step] at h
    split_ifs at h with hreading
    exact Or.inr (Or.inr (Or.inl ⟨result,rfl,hreading,(Option.some.inj h).symm⟩))
  | enqueue =>
    rw [ChannelPump.step] at h
    split at h
    · rename_i result hholding
      exact Or.inr (Or.inr (Or.inr (Or.inl ⟨result,rfl,hholding,(Option.some.inj h).symm⟩)))
    · cases h
  | pop =>
    rw [ChannelPump.step] at h
    split at h
    · rename_i result rest hqueue
      exact Or.inr (Or.inr (Or.inr (Or.inr (Or.inl ⟨result,rest,rfl,hqueue,(Option.some.inj h).symm⟩))))
    · rename_i hqueue
      split_ifs at h with hstop
      exact Or.inr (Or.inr (Or.inr (Or.inr (Or.inr (Or.inl ⟨rfl,hqueue,hstop,(Option.some.inj h).symm⟩)))))
  | stop => exact Or.inr (Or.inr (Or.inr (Or.inr (Or.inr (Or.inr ⟨rfl,(Option.some.inj h).symm⟩)))))

end Steps

section Accounts
variable {pump next : ChannelPump} {action : PumpAction} {result : ProtocolReadResult}

/-- The messages of a queue, with the error of the reader behind them once it has ended. -/
def Shaped (pump : ChannelPump) : Prop :=
  ∃ front, (∀ result ∈ front, result.isError = false) ∧
    (pump.ended = false ∧ pump.queue = front ∨
      ∃ error, pump.ended = true ∧ pump.thread = .finished ∧
        pump.queue = front ++ [ProtocolReadResult.error error])

/-- The bytes of the queue are counted, and only its last message goes beyond the bound. -/
structure Accounts (pump : ChannelPump) : Prop where
  bytes : pump.queuedBytes = bytesOfAll pump.queue
  bound : pump.queue = [] ∨ ∃ front last, pump.queue = front ++ [last] ∧ bytesOfAll front < pump.maxQueuedBytes
  ready : pump.thread ≠ .waiting → pump.thread ≠ .finished → bytesOfAll pump.queue < pump.maxQueuedBytes
  shaped : Shaped pump

lemma accounts_new (maxQueuedBytes : ℕ) : Accounts (.new maxQueuedBytes) :=
  ⟨rfl,Or.inl rfl,fun hwaiting => absurd rfl hwaiting,[],List.forall_mem_nil _,Or.inl ⟨rfl,rfl⟩⟩

/-- While the thread has not finished, the queue has only messages. -/
lemma Shaped.open' (h : Shaped pump) (hthread : pump.thread ≠ .finished) :
    pump.ended = false ∧ ∀ result ∈ pump.queue, result.isError = false := by
  obtain ⟨front,hfront,⟨hended,hqueue⟩ | ⟨error,-,hfinished,-⟩⟩ := h
  · rw [hqueue]
    exact ⟨hended,hfront⟩
  · exact absurd hfinished hthread

lemma Accounts.enqueue (h : Accounts pump) (hthread : pump.thread = .holding result) :
    Accounts (pump.enqueue result) := by
  have hlive : pump.thread ≠ .finished := by rw [hthread]; exact fun hsame => nomatch hsame
  have hready := h.ready (by rw [hthread]; exact fun hsame => nomatch hsame) hlive
  obtain ⟨hended,hclean⟩ := h.shaped.open' hlive
  refine ⟨?_,Or.inr ⟨pump.queue,result,rfl,hready⟩,?_,?_⟩
  · change pump.queuedBytes + result.bytesOf = bytesOfAll (pump.queue ++ [result])
    rw [h.bytes,bytesOfAll_append,bytesOfAll_cons,bytesOfAll_nil,Nat.add_zero]
  · cases result with
    | message bytes => exact fun hwaiting => absurd rfl hwaiting
    | error error => exact fun _ hfinished => absurd rfl hfinished
  · cases result with
    | message bytes =>
      refine ⟨pump.queue ++ [.message bytes],List.forall_mem_append.mpr ⟨hclean,?_⟩,Or.inl ⟨?_,rfl⟩⟩
      · exact List.forall_mem_singleton.mpr rfl
      · change (pump.ended || false) = false
        rw [hended]
        rfl
    | error error => exact ⟨pump.queue,hclean,Or.inr ⟨error,by rw [ChannelPump.enqueue]; exact Bool.or_true _,rfl,rfl⟩⟩

/-- The last error stays in the queue, and any other result leaves it. -/
lemma popFront_cases (h : Shaped pump) {rest : List ProtocolReadResult} (hqueue : pump.queue = result :: rest) :
    (∃ error, result = .error error ∧ rest = [] ∧ pump.ended = true ∧ pump.thread = .finished ∧
      pump.popFront result rest = { pump with popped := pump.popped ++ [result] }) ∨
    (result.isError = false ∧ pump.popFront result rest =
      { pump with queue := rest, queuedBytes := pump.queuedBytes - result.bytesOf, popped := pump.popped ++
        [result] }) := by
  obtain ⟨front,hfront,⟨-,hsame⟩ | ⟨error,hended,hfinished,hsame⟩⟩ := h
  · have hclean := hfront result (by rw [← hsame,hqueue]; exact List.mem_cons_self)
    refine Or.inr ⟨hclean,?_⟩
    rw [ChannelPump.popFront,if_neg (by simp [hclean])]
  · rw [hqueue] at hsame
    cases front with
    | nil =>
      obtain ⟨rfl,rfl⟩ := List.cons.inj hsame
      refine Or.inl ⟨error,rfl,rfl,hended,hfinished,?_⟩
      rw [ChannelPump.popFront,if_pos ⟨rfl,hended,rfl⟩]
      cases pump
      cases hqueue
      rfl
    | cons first front =>
      obtain ⟨rfl,-⟩ := List.cons.inj hsame
      have hclean := hfront result List.mem_cons_self
      refine Or.inr ⟨hclean,?_⟩
      rw [ChannelPump.popFront,if_neg (by simp [hclean])]

lemma Accounts.popFront (h : Accounts pump) {rest : List ProtocolReadResult} (hqueue : pump.queue = result :: rest) :
    Accounts (pump.popFront result rest) := by
  rcases popFront_cases h.shaped hqueue with ⟨error,-,-,-,-,hpop⟩ | ⟨hclean,hpop⟩
  · rw [hpop]
    exact ⟨h.bytes,h.bound,h.ready,h.shaped⟩
  · obtain ⟨hbytes,hbound,hready,front,hfront,hshape⟩ := h
    rw [hqueue,bytesOfAll_cons] at hbytes hready
    rw [hqueue] at hbound hshape
    rw [hpop]
    refine ⟨?_,?_,?_,?_⟩
    · change pump.queuedBytes - result.bytesOf = _
      rw [hbytes,Nat.add_sub_cancel_left]
    · obtain hnone | ⟨front,last,hsame,hlt⟩ := hbound
      · cases hnone
      · cases front with
        | nil => exact Or.inl (List.cons.inj hsame).2
        | cons first front =>
          obtain ⟨rfl,hrest⟩ := List.cons.inj hsame
          rw [bytesOfAll_cons] at hlt
          exact Or.inr ⟨front,last,hrest,(Nat.le_add_left _ _).trans_lt hlt⟩
    · exact fun hwaiting hfinished => (Nat.le_add_left _ _).trans_lt (hready hwaiting hfinished)
    · obtain ⟨hended,rfl⟩ | ⟨error,hended,hfinished,hsame⟩ := hshape
      · exact ⟨rest,fun other hother => hfront other (List.mem_cons_of_mem _ hother),Or.inl ⟨hended,rfl⟩⟩
      · cases front with
        | nil =>
          obtain ⟨rfl,-⟩ := List.cons.inj hsame
          cases hclean
        | cons first front =>
          obtain ⟨rfl,hrest⟩ := List.cons.inj hsame
          exact ⟨front,fun other hother => hfront other (List.mem_cons_of_mem _ hother),
            Or.inr ⟨error,hended,hfinished,hrest⟩⟩

lemma Accounts.step (h : Accounts pump) (hstep : pump.step action = some next) : Accounts next := by
  rcases step_cases hstep with ⟨-,hwaiting,-,hroom,rfl⟩ | ⟨-,hwaiting,-,rfl⟩ | ⟨result,-,hreading,rfl⟩ |
    ⟨result,-,hholding,rfl⟩ | ⟨result,rest,-,hqueue,rfl⟩ | ⟨-,-,-,rfl⟩ | ⟨-,rfl⟩
  · obtain ⟨hended,hclean⟩ := h.shaped.open' (by rw [hwaiting]; exact fun hsame => nomatch hsame)
    rw [h.bytes] at hroom
    exact ⟨h.bytes,h.bound,fun _ _ => hroom,pump.queue,hclean,Or.inl ⟨hended,rfl⟩⟩
  · obtain ⟨hended,hclean⟩ := h.shaped.open' (by rw [hwaiting]; exact fun hsame => nomatch hsame)
    exact ⟨h.bytes,h.bound,fun _ hfinished => absurd rfl hfinished,pump.queue,hclean,Or.inl ⟨hended,rfl⟩⟩
  · obtain ⟨hended,hclean⟩ := h.shaped.open' (by rw [hreading]; exact fun hsame => nomatch hsame)
    have hready := h.ready (by rw [hreading]; exact fun hsame => nomatch hsame)
      (by rw [hreading]; exact fun hsame => nomatch hsame)
    exact ⟨h.bytes,h.bound,fun _ _ => hready,pump.queue,hclean,Or.inl ⟨hended,rfl⟩⟩
  · exact h.enqueue hholding
  · exact h.popFront hqueue
  · exact ⟨h.bytes,h.bound,h.ready,h.shaped⟩
  · exact ⟨h.bytes,h.bound,h.ready,h.shaped⟩

end Accounts

section Order
variable {pump next : ChannelPump} {action : PumpAction} {result : ProtocolReadResult}

/-- What the thread has read and not yet queued. -/
def ReaderThread.held : ReaderThread → List ProtocolReadResult
  | .holding result => [result]
  | _ => []

/-- Until the stop, what was popped, what is queued and what is held are what was read; and then the error of the
reader is popped again and again. -/
structure InOrder (pump : ChannelPump) : Prop where
  running : pump.stop = false
  accounts : Accounts pump
  messages : pump.thread = .waiting ∨ pump.thread = .reading → ∀ result ∈ pump.read, result.isError = false
  errors : ∀ result ∈ pump.read.dropLast, result.isError = false
  told : pump.popped ++ pump.queue ++ pump.thread.held = pump.read ∨
    ∃ error repeats, pump.thread = .finished ∧ pump.read.getLast? = some (.error error) ∧
      pump.queue = [.error error] ∧ pump.popped = pump.read ++ List.replicate repeats (.error error)

lemma inOrder_new (maxQueuedBytes : ℕ) : InOrder (.new maxQueuedBytes) :=
  ⟨rfl,accounts_new maxQueuedBytes,fun _ => List.forall_mem_nil _,List.forall_mem_nil _,Or.inl rfl⟩

/-- Before the thread has finished, nothing is popped again. -/
lemma InOrder.once (h : InOrder pump) (hthread : pump.thread ≠ .finished) :
    pump.popped ++ pump.queue ++ pump.thread.held = pump.read :=
  h.told.resolve_right fun ⟨_,_,hfinished,_⟩ => hthread hfinished

lemma InOrder.step (h : InOrder pump) (hstep : pump.step action = some next) (hlive : action ≠ .stop) :
    InOrder next := by
  have haccounts := h.accounts.step hstep
  rcases step_cases hstep with ⟨-,hwaiting,-,-,rfl⟩ | ⟨-,-,hstop,-⟩ | ⟨result,-,hreading,rfl⟩ |
    ⟨result,-,hholding,rfl⟩ | ⟨result,rest,-,hqueue,rfl⟩ | ⟨-,-,hstop,-⟩ | ⟨hstop,-⟩
  · have htold := h.once (by rw [hwaiting]; exact fun hsame => nomatch hsame)
    rw [hwaiting] at htold
    exact ⟨h.running,haccounts,fun _ => h.messages (Or.inl hwaiting),h.errors,Or.inl htold⟩
  · exact absurd (h.running.symm.trans hstop) (by decide)
  · have htold := h.once (by rw [hreading]; exact fun hsame => nomatch hsame)
    rw [hreading] at htold
    have hmessages := h.messages (Or.inr hreading)
    refine ⟨h.running,haccounts,fun hother => ?_,?_,Or.inl ?_⟩
    · rcases hother with hsame | hsame <;> cases hsame
    · rw [List.dropLast_concat]
      exact hmessages
    · dsimp only [ReaderThread.held] at htold ⊢
      rw [List.append_nil] at htold
      rw [htold]
  · have htold := h.once (by rw [hholding]; exact fun hsame => nomatch hsame)
    rw [hholding] at htold
    have hfront : ∀ other ∈ pump.popped ++ pump.queue, other.isError = false := by
      have herrors := h.errors
      rw [← htold] at herrors
      simpa [ReaderThread.held] using herrors
    cases result with
    | message bytes =>
      refine ⟨h.running,haccounts,fun _ => ?_,h.errors,Or.inl ?_⟩
      · change ∀ other ∈ pump.read, other.isError = false
        rw [← htold]
        exact List.forall_mem_append.mpr ⟨hfront,List.forall_mem_singleton.mpr rfl⟩
      · change pump.popped ++ (pump.queue ++ [ProtocolReadResult.message bytes]) ++ [] = pump.read
        rw [List.append_nil,← List.append_assoc]
        exact htold
    | error error =>
      refine ⟨h.running,haccounts,fun hother => ?_,h.errors,Or.inl ?_⟩
      · rcases hother with hsame | hsame <;> cases hsame
      · change pump.popped ++ (pump.queue ++ [ProtocolReadResult.error error]) ++ [] = pump.read
        rw [List.append_nil,← List.append_assoc]
        exact htold
  · rcases popFront_cases h.accounts.shaped hqueue with ⟨error,rfl,rfl,hended,hfinished,hpop⟩ | ⟨hclean,hpop⟩
    · rw [hpop]
      refine ⟨h.running,hpop ▸ haccounts,h.messages,h.errors,Or.inr ?_⟩
      rcases h.told with htold | ⟨before,repeats,-,hlast,hsame,hpopped⟩
      · have hheld : pump.thread.held = [] := by
          rw [hfinished]
          rfl
        rw [hqueue,hheld,List.append_nil] at htold
        refine ⟨error,0,hfinished,?_,hqueue,?_⟩
        · change pump.read.getLast? = _
          rw [← htold,List.getLast?_concat]
        · change pump.popped ++ [ProtocolReadResult.error error] = pump.read ++ []
          rw [htold,List.append_nil]
      · rw [hqueue] at hsame
        cases hsame
        refine ⟨error,repeats + 1,hfinished,hlast,hqueue,?_⟩
        change pump.popped ++ [ProtocolReadResult.error error] = _
        rw [hpopped,List.append_assoc,← List.replicate_succ']
    · rw [hpop]
      refine ⟨h.running,hpop ▸ haccounts,h.messages,h.errors,Or.inl ?_⟩
      rcases h.told with htold | ⟨error,repeats,-,-,hsame,-⟩
      · rw [hqueue] at htold
        change pump.popped ++ [result] ++ rest ++ pump.thread.held = pump.read
        rw [← htold]
        simp
      · rw [hqueue] at hsame
        obtain ⟨rfl,-⟩ := List.cons.inj hsame
        cases hclean
  · exact absurd (h.running.symm.trans hstop) (by decide)
  · exact absurd hstop hlive

end Order

section Runs
variable {pump : ChannelPump} {actions : List PumpAction}

/-- The reader has ended and its error is what a pop finds. -/
structure Stuck (error : ProtocolIoError) (pump : ChannelPump) : Prop where
  ended : pump.ended = true
  finished : pump.thread = .finished
  queue : pump.queue = [.error error]

/-- Once the error of the reader is what a pop finds, every later one finds it too. -/
lemma Stuck.steps {error : ProtocolIoError} (h : Stuck error pump) {last : ChannelPump}
    (hsteps : Steps ChannelPump.step pump actions last) :
    last.popped = pump.popped ++ List.replicate (actions.count .pop) (.error error) := by
  induction hsteps with
  | done pump => simp
  | @next pump action next actions last hstep _ ih =>
    obtain ⟨hended,hfinished,hqueue⟩ := h
    rcases step_cases hstep with ⟨-,hwaiting,-⟩ | ⟨-,hwaiting,-⟩ | ⟨result,-,hreading,-⟩ |
      ⟨result,-,hholding,-⟩ | ⟨result,rest,rfl,hsame,rfl⟩ | ⟨-,hnone,-⟩ | ⟨rfl,rfl⟩
    · exact absurd (hfinished.symm.trans hwaiting) (by decide)
    · exact absurd (hfinished.symm.trans hwaiting) (by decide)
    · exact absurd (hfinished.symm.trans hreading) (by decide)
    · exact absurd (hfinished.symm.trans hholding) (fun hsame => nomatch hsame)
    · obtain ⟨rfl,rfl⟩ := List.cons.inj (hqueue.symm.trans hsame)
      have hkeeps : Stuck error (pump.popFront (.error error) []) :=
        ⟨hended,hfinished,if_pos ⟨rfl,hended,rfl⟩⟩
      rw [ih hkeeps,List.count_cons_self,List.replicate_succ]
      change pump.popped ++ [ProtocolReadResult.error error] ++ _ = _
      rw [List.append_assoc,List.singleton_append]
    · exact absurd (hqueue.symm.trans hnone) (List.cons_ne_nil _ _)
    · rw [ih ⟨hended,hfinished,hqueue⟩,List.count_cons_of_ne (by decide)]

lemma accounts_run {maxQueuedBytes : ℕ} (h : Steps ChannelPump.step (.new maxQueuedBytes) actions pump) :
    Accounts pump ∧ pump.maxQueuedBytes = maxQueuedBytes := by
  refine Steps.invariant (P := fun pump => Accounts pump ∧ pump.maxQueuedBytes = maxQueuedBytes) ?_ h
    ⟨accounts_new maxQueuedBytes,rfl⟩
  rintro pump action next ⟨haccounts,hmax⟩ hstep
  refine ⟨haccounts.step hstep,?_⟩
  rcases step_cases hstep with ⟨-,-,-,-,rfl⟩ | ⟨-,-,-,rfl⟩ | ⟨result,-,-,rfl⟩ | ⟨result,-,-,rfl⟩ |
    ⟨result,rest,-,-,rfl⟩ | ⟨-,-,-,rfl⟩ | ⟨-,rfl⟩ <;> exact hmax

lemma inOrder_run {start : ChannelPump} (hstart : InOrder start) (h : Steps ChannelPump.step start actions pump)
    (hlive : .stop ∉ actions) : InOrder pump := by
  induction h with
  | done => exact hstart
  | next hstep _ ih =>
    obtain ⟨hfirst,hrest⟩ := not_or.mp (mt List.mem_cons.mpr hlive)
    exact ih (hstart.step hstep (Ne.symm hfirst)) hrest

/-- Every run of a pump, whatever its reader returns: the bytes of its queue are counted, only its last message goes
beyond the bound, and until the stop the results that are popped are those that were read, in their order and each
once, but for the error at their end, which every later pop returns. -/
theorem pump_run (maxQueuedBytes : ℕ) (h : Steps ChannelPump.step (.new maxQueuedBytes) actions pump) :
    pump.queuedBytes = bytesOfAll pump.queue ∧
    (pump.queuedBytes ≤ maxQueuedBytes ∨
      ∃ front last, pump.queue = front ++ [last] ∧ pump.queuedBytes < maxQueuedBytes + last.bytesOf) ∧
    (.stop ∉ actions →
      (∀ result ∈ pump.read.dropLast, result.isError = false) ∧
      (pump.popped ++ pump.queue ++ pump.thread.held = pump.read ∨
        ∃ error repeats, pump.read.getLast? = some (.error error) ∧
          pump.popped = pump.read ++ List.replicate repeats (.error error))) ∧
    ∀ error, pump.queue.head? = some (.error error) → ∀ more last, Steps ChannelPump.step pump more last →
      last.popped = pump.popped ++ List.replicate (more.count .pop) (.error error) := by
  obtain ⟨haccounts,hmax⟩ := accounts_run h
  refine ⟨haccounts.bytes,?_,fun hlive => ?_,fun error herror more last hmore => ?_⟩
  · rcases haccounts.bound with hnone | ⟨front,last,hqueue,hlt⟩
    · refine Or.inl ?_
      rw [haccounts.bytes,hnone]
      exact Nat.zero_le _
    · refine Or.inr ⟨front,last,hqueue,?_⟩
      rw [haccounts.bytes,hqueue,bytesOfAll_append,bytesOfAll_cons,bytesOfAll_nil,← hmax]
      exact Nat.add_lt_add_right hlt _
  · have horder := inOrder_run (inOrder_new maxQueuedBytes) h hlive
    refine ⟨horder.errors,horder.told.imp id ?_⟩
    rintro ⟨error,repeats,-,hlast,-,hpopped⟩
    exact ⟨error,repeats,hlast,hpopped⟩
  · obtain ⟨rest,hqueue⟩ : ∃ rest, pump.queue = .error error :: rest := by
      cases hqueue : pump.queue with
      | nil => rw [hqueue] at herror; cases herror
      | cons first rest =>
        rw [hqueue] at herror
        cases herror
        exact ⟨rest,rfl⟩
    rcases popFront_cases haccounts.shaped hqueue with ⟨_,hsame,rfl,hended,hfinished,-⟩ | ⟨hclean,-⟩
    · exact Stuck.steps ⟨hended,hfinished,hqueue⟩ hmore
    · cases hclean

/-- Two messages and the end of the channel, with a bound that stops the reader until the first is popped. -/
def shortRun : List PumpAction :=
  [.pass,.read (.message [1,2]),.enqueue,.pop,.pass,.read (.message [3]),.enqueue,.pass,.read (.error .unexpectedEnd),
    .enqueue,.pop,.pop,.pop]

theorem pump_run_short : ∃ pump, Machine.run ChannelPump.step (.new 2) shortRun = some pump ∧
    pump.popped = [.message [1,2],.message [3],.error .unexpectedEnd,.error .unexpectedEnd] ∧
    pump.queuedBytes = bytesOfAll pump.queue := by
  refine ⟨_,rfl,rfl,?_⟩
  have hrun : Machine.Steps ChannelPump.step (.new 2) shortRun _ := Machine.run_steps rfl
  exact (pump_run 2 hrun).1

end Runs
end AytherRuntime.Channel
