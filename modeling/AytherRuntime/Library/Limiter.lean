import AytherRuntime.Library.Machine
import Mathlib.Algebra.Ring.Nat
import Mathlib.Data.List.AList
import Mathlib.Data.List.Chain

/-! Limiters: of the occurrences of a condition one is let out in a period, with the number of those that it stands
for. -/
namespace AytherRuntime.Limiter

section Condition

/-- A condition that occurred: when it was last let out, and how many occurrences wait since then. -/
structure Slot where
  lastEmit : ℕ
  pending : ℕ
  deriving DecidableEq

variable (period : ℕ)

/-- One occurrence; one that is before the last emission starts the condition anew. -/
def strike (now : ℕ) : Option Slot → Slot × Option ℕ
  | none => (⟨now,0⟩,some 1)
  | some slot =>
    if now < slot.lastEmit then (⟨now,0⟩,some 1)
    else if now - slot.lastEmit < period then (⟨slot.lastEmit,slot.pending + 1⟩,none)
    else (⟨now,0⟩,some (slot.pending + 1))

def waiting (slot : Option Slot) : ℕ := (slot.map Slot.pending).getD 0

/-- The waiting occurrences that an occurrence forgets. -/
def forgotten (now : ℕ) : Option Slot → ℕ
  | none => 0
  | some slot => if now < slot.lastEmit then slot.pending else 0

/-- The condition after some occurrences. -/
def after (slot : Option Slot) (times : List ℕ) : Option Slot :=
  times.foldl (fun slot now => some (strike period now slot).1) slot

/-- What is let out of some occurrences: when, and for how many. -/
def emissions : Option Slot → List ℕ → List (ℕ × ℕ)
  | _, [] => []
  | slot, now :: times =>
    ((strike period now slot).2.map fun count => (now,count)).toList ++
      emissions (some (strike period now slot).1) times

/-- The waiting occurrences that are forgotten in all. -/
def forgottenIn : Option Slot → List ℕ → ℕ
  | _, [] => 0
  | slot, now :: times => forgotten now slot + forgottenIn (some (strike period now slot).1) times

/-- Emissions a period apart, unless the clock went back. -/
def Spaced (previous next : ℕ × ℕ) : Prop := previous.1 + period ≤ next.1 ∨ next.1 < previous.1

variable {slot : Option Slot} {times : List ℕ}

lemma strike_balance (now : ℕ) (slot : Option Slot) :
    (strike period now slot).2.getD 0 + (strike period now slot).1.pending + forgotten now slot = waiting slot + 1 := by
  cases slot with
  | none => rfl
  | some slot =>
    unfold strike forgotten waiting
    by_cases hback : now < slot.lastEmit
    · simp [hback]
      omega
    · by_cases hsoon : now - slot.lastEmit < period
      · simp [hback,hsoon]
      · simp [hback,hsoon]

/-- Every occurrence is let out, waits or is forgotten. -/
theorem emissions_balance (slot : Option Slot) (times : List ℕ) :
    ((emissions period slot times).map Prod.snd).sum + waiting (after period slot times) +
      forgottenIn period slot times =
      waiting slot + times.length := by
  induction times generalizing slot with
  | nil => simp [emissions,after,forgottenIn]
  | cons now times ih =>
    have hstrike := strike_balance period now slot
    have hrest := ih (some (strike period now slot).1)
    have hhead : ((((strike period now slot).2.map fun count => (now,count)).toList).map Prod.snd).sum =
        (strike period now slot).2.getD 0 := by
      cases (strike period now slot).2 <;> rfl
    have hwaiting : waiting (some (strike period now slot).1) = (strike period now slot).1.pending := rfl
    have hafter : after period slot (now :: times) = after period (some (strike period now slot).1) times := rfl
    rw [emissions,forgottenIn,List.map_append,List.sum_append,hhead,hafter,List.length_cons]
    omega

/-- What is let out next is a period behind what was let out last, or before it. -/
lemma emissions_spaced_from (slot : Slot) (count : ℕ) (times : List ℕ) :
    List.IsChain (Spaced period) ((slot.lastEmit,count) :: emissions period (some slot) times) := by
  induction times generalizing slot count with
  | nil => exact .singleton _
  | cons now times ih =>
    rw [emissions]
    unfold strike
    dsimp only
    by_cases hback : now < slot.lastEmit
    · rw [if_pos hback]
      exact .cons_cons (Or.inr hback) (ih ⟨now,0⟩ 1)
    · rw [if_neg hback]
      by_cases hsoon : now - slot.lastEmit < period
      · rw [if_pos hsoon]
        exact ih ⟨slot.lastEmit,slot.pending + 1⟩ count
      · rw [if_neg hsoon]
        refine .cons_cons (Or.inl ?_) (ih ⟨now,0⟩ (slot.pending + 1))
        dsimp only
        omega

theorem emissions_spaced (times : List ℕ) : List.IsChain (Spaced period) (emissions period none times) := by
  cases times with
  | nil => exact .nil
  | cons now times => exact emissions_spaced_from period ⟨now,0⟩ 1 times

lemma forgotten_ne_zero_iff {now : ℕ} :
    forgotten now slot ≠ 0 ↔ ∃ kept, slot = some kept ∧ now < kept.lastEmit ∧ kept.pending ≠ 0 := by
  cases slot with
  | none => exact iff_of_false (fun h => h rfl) nofun
  | some kept =>
    unfold forgotten
    by_cases hback : now < kept.lastEmit <;> simp [hback]

end Condition

section Conditions
variable {σ ω κ α : Type*} [DecidableEq κ]

/-- A limiter of many conditions, each with its own slot: what one push does. An item without a condition is refused,
and `source` is the item that is let out. -/
structure Limits (period : ℕ) (key : ω → Option κ) (time : ω → ℕ) (slot : σ → κ → Option Slot) (count : α → ℕ)
    (source : α → ω)
    (push : σ → ω → σ × List α) : Prop where
  own : ∀ state item condition, key item = some condition →
    slot (push state item).1 condition = some (strike period (time item) (slot state condition)).1
  other : ∀ state item condition, key item ≠ some condition → slot (push state item).1 condition = slot state condition
  source : ∀ state item, ∀ aggregate ∈ (push state item).2, source aggregate = item
  count : ∀ state item condition, key item = some condition →
    (push state item).2.map count = (strike period (time item) (slot state condition)).2.toList

variable {period : ℕ} {key : ω → Option κ} {time : ω → ℕ} {slot : σ → κ → Option Slot} {count : α → ℕ} {source : α → ω}
variable {push : σ → ω → σ × List α}

variable (key time) in
/-- When a condition occurs. -/
def timesOf (condition : κ) (items : List ω) : List ℕ := (items.filter fun item => key item = some condition).map time

variable (key source) in
/-- The aggregates of a condition. -/
def aggregatesOf (condition : κ) (aggregates : List α) : List α :=
  aggregates.filter fun aggregate => key (source aggregate) = some condition

lemma timesOf_cons_own {condition : κ} {item : ω} (h : key item = some condition) (items : List ω) :
    timesOf key time condition (item :: items) = time item :: timesOf key time condition items := by
  unfold timesOf
  rw [List.filter_cons,if_pos (decide_eq_true h),List.map_cons]

lemma timesOf_cons_other {condition : κ} {item : ω} (h : key item ≠ some condition) (items : List ω) :
    timesOf key time condition (item :: items) = timesOf key time condition items := by
  unfold timesOf
  rw [List.filter_cons,if_neg (by simpa using h)]

/-- The slot of a condition depends on its own occurrences only. -/
lemma Limits.slot_final (h : Limits period key time slot count source push) (condition : κ) (state : σ)
    (items : List ω) :
    slot (Machine.final push state items) condition =
      after period (slot state condition) (timesOf key time condition items) := by
  induction items generalizing state with
  | nil => rfl
  | cons item items ih =>
    rw [Machine.final_cons,ih]
    by_cases hkey : key item = some condition
    · rw [h.own state item condition hkey,timesOf_cons_own hkey]
      rfl
    · rw [h.other state item condition hkey,timesOf_cons_other hkey]

/-- The aggregates of a condition are what is let out of its occurrences. -/
lemma Limits.aggregates_emitted (h : Limits period key time slot count source push) (condition : κ) (state : σ)
    (items : List ω) :
    (aggregatesOf key source condition (Machine.emitted push state items)).map
        (fun aggregate => (time (source aggregate),count aggregate)) =
      emissions period (slot state condition) (timesOf key time condition items) := by
  induction items generalizing state with
  | nil => rfl
  | cons item items ih =>
    have hsource := h.source state item
    unfold aggregatesOf at ih ⊢
    rw [Machine.emitted_cons,List.filter_append,List.map_append,ih]
    by_cases hkey : key item = some condition
    · have hall : ((push state item).2.filter fun aggregate => key (source aggregate) = some condition) =
          (push state item).2 :=
        List.filter_eq_self.mpr fun aggregate hmem =>
          decide_eq_true ((congrArg key (hsource aggregate hmem)).trans hkey)
      have hcounts : (push state item).2.map (fun aggregate => (time (source aggregate),count aggregate)) =
          ((push state item).2.map count).map fun number => (time item,number) := by
        rw [List.map_map]
        exact List.map_congr_left fun aggregate hmem => by rw [hsource aggregate hmem]; rfl
      rw [timesOf_cons_own hkey,emissions,hall,hcounts,h.count state item condition hkey,
        h.own state item condition hkey]
      cases (strike period (time item) (slot state condition)).2 <;> rfl
    · have hnone : ((push state item).2.filter fun aggregate => key (source aggregate) = some condition) = [] :=
        List.filter_eq_nil_iff.mpr fun aggregate hmem hof => hkey (hsource aggregate hmem ▸ of_decide_eq_true hof)
      rw [timesOf_cons_other hkey,hnone,h.other state item condition hkey]
      rfl

/-- From no occurrences on, the counts of a condition sum to the number of its occurrences exactly when none are
forgotten. -/
theorem Limits.counts_iff (h : Limits period key time slot count source push) (close : σ → List α) {start : σ}
    {condition : κ} (hstart : slot start condition = none) (items : List ω)
    (hclose : ((aggregatesOf key source condition (close (Machine.final push start items))).map count).sum =
      waiting (slot (Machine.final push start items) condition)) :
    ((aggregatesOf key source condition (Machine.emitted push start items)).map count).sum +
        ((aggregatesOf key source condition (close (Machine.final push start items))).map count).sum =
          (timesOf key time condition items).length ↔
      forgottenIn period none (timesOf key time condition items) = 0 := by
  have hbalance := emissions_balance period none (timesOf key time condition items)
  have hcounts := congrArg (List.map Prod.snd) (h.aggregates_emitted condition start items)
  rw [List.map_map,hstart] at hcounts
  have hsum : ((aggregatesOf key source condition (Machine.emitted push start items)).map count).sum =
      ((emissions period none (timesOf key time condition items)).map Prod.snd).sum := congrArg List.sum hcounts
  have hnone : waiting (none : Option Slot) = 0 := rfl
  rw [hsum,hclose,h.slot_final,hstart]
  omega

/-- The emissions of a condition are spaced. -/
theorem Limits.spaced (h : Limits period key time slot count source push) {start : σ} {condition : κ}
    (hstart : slot start condition = none) (items : List ω) :
    (aggregatesOf key source condition (Machine.emitted push start items)).IsChain fun previous next =>
      time (source previous) + period ≤ time (source next) ∨ time (source next) < time (source previous) := by
  have hspaced := emissions_spaced period (timesOf key time condition items)
  rw [← hstart,← h.aggregates_emitted,List.isChain_map] at hspaced
  exact hspaced

end Conditions

section Close
variable {ω κ α τ : Type*} [DecidableEq κ] {key : ω → Option κ} {count : α → ℕ} {source : α → ω}

/-- The slot of a condition among states with theirs. -/
def slotIn (view : τ → Slot) (states : AList fun _ : κ => τ) (condition : κ) : Option Slot :=
  (states.lookup condition).map view

lemma slotIn_insert (view : τ → Slot) (states : AList fun _ : κ => τ) (name condition : κ) (state : τ) :
    slotIn view (states.insert name state) condition =
      if name = condition then some (view state) else slotIn view states condition := by
  unfold slotIn
  by_cases hname : name = condition
  · rw [if_pos hname,← hname,AList.lookup_insert]
    rfl
  · rw [if_neg hname,AList.lookup_insert_ne (Ne.symm hname)]

/-- What is let out at the end of the states that wait. -/
def closed (pending : τ → ℕ) (aggregate : τ → α) (states : AList fun _ : κ => τ) : List α :=
  (states.entries.filter fun entry => pending entry.2 ≠ 0).map fun entry => aggregate entry.2

/-- States with the same conditions, each changed. -/
def mapStates (f : τ → τ) (states : AList fun _ : κ => τ) : AList fun _ : κ => τ :=
  ⟨states.entries.map fun entry => ⟨entry.1,f entry.2⟩,by
    unfold List.NodupKeys List.keys
    rw [List.map_map]
    exact states.nodupKeys⟩

/-- At the end a condition is let out for the occurrences of it that wait. -/
lemma closed_sum {pending : τ → ℕ} {aggregate : τ → α} (states : AList fun _ : κ => τ) (condition : κ)
    (hkey : ∀ entry ∈ states.entries, key (source (aggregate entry.2)) = some entry.1)
    (hcount : ∀ state, count (aggregate state) = pending state) :
    ((aggregatesOf key source condition (closed pending aggregate states)).map count).sum =
      ((states.lookup condition).map pending).getD 0 := by
  obtain ⟨entries,hnodup⟩ := states
  unfold closed aggregatesOf AList.lookup
  dsimp only at hkey ⊢
  induction entries with
  | nil => rfl
  | cons entry entries ih =>
    obtain ⟨name,state⟩ := entry
    obtain ⟨hname,hrest⟩ := List.nodupKeys_cons.mp hnodup
    obtain ⟨hfirst,hlater⟩ := List.forall_mem_cons.mp hkey
    have hsum := ih hrest hlater
    by_cases hcondition : condition = name
    · subst hcondition
      have hnone : entries.dlookup condition = none := List.dlookup_eq_none.mpr hname
      rw [hnone] at hsum
      rw [List.dlookup_cons_eq]
      by_cases hzero : pending state = 0
      · simpa [List.filter_cons,hzero] using hsum
      · simpa [List.filter_cons,hzero,hfirst,hcount] using hsum
    · rw [List.dlookup_cons_ne _ _ hcondition,← hsum]
      by_cases hzero : pending state = 0
      · simp [hzero]
      · simp [hzero,hfirst,Ne.symm hcondition]

end Close

section Keeps
variable {σ ω κ α τ : Type*} [DecidableEq κ]

/-- A limiter with a state for each condition: what one push does. A state has the last item of its condition, and the
item of an aggregate of it is that one. -/
structure Keeps (period : ℕ) (key : ω → Option κ) (time : ω → ℕ) (states : σ → AList fun _ : κ => τ) (view : τ → Slot)
    (last : τ → ω) (count : α → ℕ) (source : α → ω) (push : σ → ω → σ × List α) : Prop where
  refused : ∀ limiter item, key item = none → push limiter item = (limiter,[])
  taken : ∀ limiter item condition, key item = some condition → ∃ state, last state = item ∧
    states (push limiter item).1 = (states limiter).insert condition state ∧
    view state = (strike period (time item) (slotIn view (states limiter) condition)).1 ∧
    (push limiter item).2.map count = (strike period (time item) (slotIn view (states limiter) condition)).2.toList ∧
    ∀ aggregate ∈ (push limiter item).2, source aggregate = item

variable {period : ℕ} {key : ω → Option κ} {time : ω → ℕ} {states : σ → AList fun _ : κ => τ} {view : τ → Slot}
variable {last : τ → ω} {count : α → ℕ} {source : α → ω} {push : σ → ω → σ × List α}

lemma Keeps.limits (h : Keeps period key time states view last count source push) :
    Limits period key time (fun limiter => slotIn view (states limiter)) count source push where
  own := by
    intro limiter item condition hkey
    obtain ⟨state,_,hstates,hview,_⟩ := h.taken limiter item condition hkey
    rw [hstates,slotIn_insert,if_pos rfl,hview]
  other := by
    intro limiter item condition hkey
    cases hitem : key item with
    | none => rw [h.refused limiter item hitem]
    | some name =>
      obtain ⟨state,_,hstates,_⟩ := h.taken limiter item name hitem
      have hname : name ≠ condition := fun heq => hkey (hitem.trans (congrArg some heq))
      rw [hstates,slotIn_insert,if_neg hname]
  source := by
    intro limiter item
    cases hitem : key item with
    | none =>
      rw [h.refused limiter item hitem]
      exact List.forall_mem_nil _
    | some name => exact (h.taken limiter item name hitem).choose_spec.2.2.2.2
  count := by
    intro limiter item condition hkey
    obtain ⟨_,_,_,_,hcount,_⟩ := h.taken limiter item condition hkey
    exact hcount

/-- Each state is of the condition that it is kept for. -/
lemma Keeps.of_condition (h : Keeps period key time states view last count source push) {start : σ}
    (hstart : states start = ∅) (items : List ω) :
    ∀ condition state, (states (Machine.final push start items)).lookup condition = some state →
      key (last state) = some condition := by
  refine Machine.final_invariant (P := fun limiter => ∀ condition state,
    (states limiter).lookup condition = some state →
    key (last state) = some condition) (fun limiter item hlimiter => ?_) ?_ items
  · cases hitem : key item with
    | none =>
      rw [h.refused limiter item hitem]
      exact hlimiter
    | some name =>
      obtain ⟨state,hlast,hstates,_⟩ := h.taken limiter item name hitem
      intro condition other hother
      rw [hstates] at hother
      by_cases hname : condition = name
      · subst hname
        rw [AList.lookup_insert] at hother
        obtain rfl := Option.some.inj hother
        rw [hlast,hitem]
      · rw [AList.lookup_insert_ne hname] at hother
        exact hlimiter condition other hother
  · intro condition state hstate
    rw [hstart] at hstate
    exact nomatch hstate

/-- An occurrence of a condition comes before the last emission of it while others wait. -/
def Overtakes (key : ω → Option κ) (time : ω → ℕ) (states : σ → AList fun _ : κ => τ) (view : τ → Slot)
    (push : σ → ω → σ × List α) (start : σ) (condition : κ) (items : List ω) : Prop :=
  ∃ before item later state, items = before ++ item :: later ∧ key item = some condition ∧
    (states (Machine.final push start before)).lookup condition = some state ∧
    time item < (view state).lastEmit ∧ (view state).pending ≠ 0

lemma Keeps.forgottenIn_iff (h : Keeps period key time states view last count source push) (start : σ) (condition : κ)
    (items : List ω) :
    forgottenIn period (slotIn view (states start) condition) (timesOf key time condition items) ≠ 0 ↔
      Overtakes key time states view push start condition items := by
  induction items generalizing start with
  | nil =>
    refine iff_of_false (fun hforgets => hforgets rfl) ?_
    rintro ⟨before,item,later,_,hitems,_⟩
    exact List.append_ne_nil_of_right_ne_nil before (List.cons_ne_nil item later) hitems.symm
  | cons item items ih =>
    have hlater : Overtakes key time states view push (push start item).1 condition items →
        Overtakes key time states view push start condition (item :: items) := by
      rintro ⟨before,other,later,state,rfl,hrest⟩
      exact ⟨item :: before,other,later,state,rfl,hrest⟩
    have hcases : Overtakes key time states view push start condition (item :: items) →
        (key item = some condition ∧ forgotten (time item) (slotIn view (states start) condition) ≠ 0) ∨
          Overtakes key time states view push (push start item).1 condition items := by
      rintro ⟨before,other,later,state,hitems,hkey,hstate,hback,hpending⟩
      cases before with
      | nil =>
        obtain ⟨rfl,rfl⟩ := List.cons.inj hitems
        exact Or.inl ⟨hkey,forgotten_ne_zero_iff.mpr ⟨view state,congrArg (Option.map view) hstate,hback,hpending⟩⟩
      | cons first before =>
        obtain ⟨rfl,rfl⟩ := List.cons.inj hitems
        exact Or.inr ⟨before,other,later,state,rfl,hkey,hstate,hback,hpending⟩
    by_cases hkey : key item = some condition
    · have hrest := ih (push start item).1
      rw [h.limits.own start item condition hkey] at hrest
      rw [timesOf_cons_own hkey,forgottenIn]
      constructor
      · intro hforgets
        by_cases hfirst : forgotten (time item) (slotIn view (states start) condition) = 0
        · exact hlater (hrest.mp fun hzero => hforgets (by rw [hfirst,hzero]))
        · obtain ⟨slot,hslot,hback,hpending⟩ := forgotten_ne_zero_iff.mp hfirst
          obtain ⟨state,hstate,rfl⟩ := Option.map_eq_some_iff.mp hslot
          exact ⟨[],item,items,state,rfl,hkey,hstate,hback,hpending⟩
      · intro hovertakes hsum
        obtain ⟨hfirst,hlast⟩ := Nat.add_eq_zero_iff.mp hsum
        obtain ⟨_,hforgets⟩ | hover := hcases hovertakes
        · exact hforgets hfirst
        · exact hrest.mpr hover hlast
    · rw [timesOf_cons_other hkey,← h.limits.other start item condition hkey,ih (push start item).1]
      exact ⟨hlater,fun hovertakes => (hcases hovertakes).resolve_left fun hown => hkey hown.1⟩

/-- What a limiter should do with a condition: the counts of what it lets out, at the end too, sum to the number of the
occurrences, and what a push lets out is a period behind what was let out last, unless the clock went back. -/
def Counted (period : ℕ) (key : ω → Option κ) (time : ω → ℕ) (count : α → ℕ) (source : α → ω) (condition : κ)
    (items : List ω) (pushed closed : List α) : Prop :=
  ((aggregatesOf key source condition pushed).map count).sum +
      ((aggregatesOf key source condition closed).map count).sum =
        (items.filter fun item => key item = some condition).length ∧
    (aggregatesOf key source condition pushed).IsChain fun previous next =>
      time (source previous) + period ≤ time (source next) ∨ time (source next) < time (source previous)

/-- From no states on a condition is counted exactly when none of its occurrences comes before the last emission while
others wait. -/
theorem Keeps.counted_iff (h : Keeps period key time states view last count source push) (start : σ) (aggregate : τ → α)
    (hstart : states start = ∅) (hsource : ∀ state, source (aggregate state) = last state)
    (hcount : ∀ state, count (aggregate state) = (view state).pending) (items : List ω) (condition : κ) :
    Counted period key time count source condition items (Machine.emitted push start items)
        (closed (fun state => (view state).pending) aggregate (states (Machine.final push start items))) ↔
      ¬Overtakes key time states view push start condition items := by
  have hnone : slotIn view (states start) condition = none := by
    rw [hstart]
    rfl
  have hkey : ∀ entry ∈ (states (Machine.final push start items)).entries,
      key (source (aggregate entry.2)) = some entry.1 := by
    intro entry hentry
    rw [hsource]
    exact h.of_condition hstart items entry.1 entry.2 (AList.mem_lookup_iff.mpr hentry)
  have hclose : ((aggregatesOf key source condition (closed (fun state => (view state).pending) aggregate
      (states (Machine.final push start items)))).map count).sum =
        waiting (slotIn view (states (Machine.final push start items)) condition) := by
    rw [closed_sum _ condition hkey hcount]
    unfold waiting slotIn
    rw [Option.map_map]
    rfl
  have hcounts := h.limits.counts_iff
    (fun limiter => closed (fun state => (view state).pending) aggregate (states limiter)) hnone items hclose
  have hlength : (timesOf key time condition items).length =
      (items.filter fun item => key item = some condition).length :=
    List.length_map _
  rw [hlength] at hcounts
  rw [← h.forgottenIn_iff,hnone,not_not,← hcounts]
  exact and_iff_left (h.limits.spaced hnone items)

end Keeps
end AytherRuntime.Limiter
