import Mathlib.Data.List.Chain
import Mathlib.Data.List.Nodup
import Mathlib.Data.List.Perm.Subperm

/-! A breadth-first search over the nodes below a number, with the parent of each node that is found, and the walk from
a node back to the start along the parents. It finds what can be reached, and the walks are the shortest paths. -/
namespace AytherRuntime.Breadth

structure State where
  parents : ℕ → Option ℕ
  queue : List ℕ

section Search
variable (n : ℕ) (edge : ℕ → ℕ → Bool)

/-- A node that has no parent yet is found from the current one. -/
def visit (current : ℕ) (state : State) (candidate : ℕ) : State :=
  if (state.parents candidate).isNone && edge current candidate then
    ⟨Function.update state.parents candidate (some current),state.queue ++ [candidate]⟩
  else state

def expand (current : ℕ) (state : State) : State := (List.range n).foldl (visit edge current) state

/-- The nodes of the queue are expanded from a place on. -/
def search : ℕ → ℕ → State → State
  | 0,_,state => state
  | steps + 1,cursor,state =>
    match state.queue[cursor]? with
    | none => state
    | some current => search steps (cursor + 1) (expand n edge current state)

def start (origin : ℕ) : State := ⟨Function.update (fun _ => none) origin (some origin),[origin]⟩

/-- The search from a node; the queue holds each node once at most. -/
def found (origin : ℕ) : State := search n edge n 0 (start origin)

/-- The nodes from one back to the origin. -/
def walkBack (parents : ℕ → Option ℕ) (origin : ℕ) : ℕ → ℕ → Option (List ℕ)
  | 0,_ => none
  | steps + 1,current =>
    if current = origin then some [current]
    else (parents current).bind fun parent => (walkBack parents origin steps parent).map (current :: ·)

/-- A step of a path stays below the number. -/
def Link (a b : ℕ) : Prop := b < n ∧ edge a b = true

/-- A path from one node to another. -/
def IsPath (first last : ℕ) (path : List ℕ) : Prop :=
  path.head? = some first ∧ path.getLast? = some last ∧ path.IsChain (Link n edge)

end Search

section Invariant
variable {n : ℕ} {edge : ℕ → ℕ → Bool} {origin : ℕ}

/-- The nodes of the queue have depths that do not decrease, and each but the origin has a parent one level above. -/
structure Layered (n : ℕ) (edge : ℕ → ℕ → Bool) (origin : ℕ) (depth : ℕ → ℕ) (state : State) : Prop where
  nodup : state.queue.Nodup
  below : ∀ v ∈ state.queue, v < n
  known : ∀ v, (state.parents v).isSome ↔ v ∈ state.queue
  started : origin ∈ state.queue ∧ depth origin = 0
  parent : ∀ v ∈ state.queue, v ≠ origin →
    ∃ p ∈ state.queue, state.parents v = some p ∧ edge p v = true ∧ depth v = depth p + 1
  sorted : state.queue.Pairwise fun a b => depth a ≤ depth b
  place : ∀ i v, state.queue[i]? = some v → depth v ≤ i

/-- What follows an expanded node is in the queue, one level below it at most; no node is more than one level below
those that are not expanded. -/
structure Expanded (n : ℕ) (edge : ℕ → ℕ → Bool) (origin : ℕ) (depth : ℕ → ℕ) (cursor : ℕ) (state : State) : Prop
    extends Layered n edge origin depth state where
  window : ∀ u ∈ state.queue.drop cursor, ∀ v ∈ state.queue, depth v ≤ depth u + 1
  closed : ∀ u ∈ state.queue.take cursor, ∀ v, Link n edge u v → v ∈ state.queue ∧ depth v ≤ depth u + 1

lemma start_expanded (horigin : origin < n) : Expanded n edge origin (fun _ => 0) 0 (start origin) where
  nodup := List.nodup_singleton origin
  below := List.forall_mem_singleton.mpr horigin
  known v := by
    by_cases hv : v = origin
    · simp [start,hv]
    · simp [start,hv]
  started := ⟨List.mem_singleton_self origin,rfl⟩
  parent v hv hne := absurd (List.mem_singleton.mp hv) hne
  sorted := List.pairwise_singleton _ _
  place i v _ := Nat.zero_le i
  window _ _ _ _ := Nat.zero_le _
  closed u hu := absurd hu List.not_mem_nil

/-- One candidate of an expansion: a new node is one level below the current one. -/
lemma Expanded.visit {depth : ℕ → ℕ} {cursor current : ℕ} {state : State}
    (h : Expanded n edge origin depth cursor state)
    (hcurrent : state.queue[cursor]? = some current) {candidate : ℕ} (hcandidate : candidate < n) :
    ∃ depth', Expanded n edge origin depth' cursor (visit edge current state candidate) ∧
      state.queue <+: (visit edge current state candidate).queue ∧
      (edge current candidate = true → candidate ∈ (visit edge current state candidate).queue) := by
  obtain ⟨hless,hplace⟩ := List.getElem?_eq_some_iff.mp hcurrent
  have hmem : current ∈ state.queue := List.mem_of_getElem? hcurrent
  unfold Breadth.visit
  by_cases hnew : ((state.parents candidate).isNone && edge current candidate) = true
  · rw [if_pos hnew]
    obtain ⟨hnone,hedge⟩ := Bool.and_eq_true_iff.mp hnew
    have hfresh : candidate ∉ state.queue := by
      rw [← h.known,Option.isNone_iff_eq_none.mp hnone]
      exact Bool.false_ne_true
    have hother : ∀ v ∈ state.queue, v ≠ candidate := fun v hv hsame => hfresh (hsame ▸ hv)
    have hkeep : ∀ v ∈ state.queue, Function.update depth candidate (depth current + 1) v = depth v :=
      fun v hv => Function.update_of_ne (hother v hv) _ _
    have hself : Function.update depth candidate (depth current + 1) candidate = depth current + 1 :=
      Function.update_self _ _ _
    have hdrop : state.queue.drop cursor = current :: state.queue.drop (cursor + 1) := by
      rw [List.drop_eq_getElem_cons hless,hplace]
    have hbound : ∀ v ∈ state.queue, depth v ≤ depth current + 1 :=
      h.window current (by rw [hdrop]; exact List.mem_cons_self)
    have hleast : ∀ u ∈ state.queue.drop cursor, depth current ≤ depth u := by
      have hsorted := h.sorted.sublist (List.drop_sublist cursor state.queue)
      rw [hdrop,List.pairwise_cons] at hsorted
      rw [hdrop]
      exact List.forall_mem_cons.mpr ⟨Nat.le_refl _,hsorted.1⟩
    refine ⟨Function.update depth candidate (depth current + 1),⟨⟨?_,?_,?_,?_,?_,?_,?_⟩,?_,?_⟩,
      List.prefix_append _ _,fun _ => List.mem_append_right _ (List.mem_singleton_self _)⟩
    · exact List.Nodup.append h.nodup (List.nodup_singleton _) (List.disjoint_singleton.mpr hfresh)
    · exact List.forall_mem_append.mpr ⟨h.below,List.forall_mem_singleton.mpr hcandidate⟩
    · intro v
      by_cases hv : v = candidate
      · simp [hv]
      · change (Function.update state.parents candidate (some current) v).isSome ↔ v ∈ state.queue ++ [candidate]
        rw [Function.update_of_ne hv,h.known v,List.mem_append,List.mem_singleton]
        exact ⟨Or.inl,fun hor => hor.resolve_right hv⟩
    · exact ⟨List.mem_append_left _ h.started.1,(hkeep _ h.started.1).trans h.started.2⟩
    · intro v hv hne
      rw [List.mem_append,List.mem_singleton] at hv
      obtain hv | rfl := hv
      · obtain ⟨p,hp,hparent,hlink,hdepth⟩ := h.parent v hv hne
        refine ⟨p,List.mem_append_left _ hp,?_,hlink,?_⟩
        · exact (Function.update_of_ne (hother v hv) _ _).trans hparent
        · rw [hkeep v hv,hkeep p hp,hdepth]
      · refine ⟨current,List.mem_append_left _ hmem,Function.update_self _ _ _,hedge,?_⟩
        rw [hself,hkeep current hmem]
    · rw [List.pairwise_append]
      refine ⟨h.sorted.imp_of_mem fun ha hb hle => by rwa [hkeep _ ha,hkeep _ hb],List.pairwise_singleton _ _,?_⟩
      intro a ha b hb
      rw [List.mem_singleton.mp hb,hself,hkeep a ha]
      exact hbound a ha
    · intro i v hv
      by_cases hi : i < state.queue.length
      · rw [List.getElem?_append_left hi] at hv
        rw [hkeep v (List.mem_of_getElem? hv)]
        exact h.place i v hv
      · rw [List.getElem?_append_right (Nat.le_of_not_lt hi)] at hv
        rw [List.mem_singleton.mp (List.mem_of_getElem? hv),hself]
        have hdepth := h.place cursor current hcurrent
        omega
    · intro u hu v hv
      change u ∈ (state.queue ++ [candidate]).drop cursor at hu
      rw [List.drop_append_of_le_length (Nat.le_of_lt hless),List.mem_append,List.mem_singleton] at hu
      have hu' : depth current ≤ Function.update depth candidate (depth current + 1) u := by
        obtain hu | rfl := hu
        · rw [hkeep u (List.mem_of_mem_drop hu)]
          exact hleast u hu
        · rw [hself]
          exact Nat.le_succ _
      obtain hv | hv := List.mem_append.mp hv
      · rw [hkeep v hv]
        have hdepth := hbound v hv
        omega
      · rw [List.mem_singleton.mp hv,hself]
        omega
    · intro u hu v hlink
      change u ∈ (state.queue ++ [candidate]).take cursor at hu
      rw [List.take_append_of_le_length (Nat.le_of_lt hless)] at hu
      obtain ⟨hv,hdepth⟩ := h.closed u hu v hlink
      refine ⟨List.mem_append_left _ hv,?_⟩
      rwa [hkeep v hv,hkeep u (List.mem_of_mem_take hu)]
  · rw [if_neg hnew]
    refine ⟨depth,h,List.prefix_refl _,fun hedge => ?_⟩
    rw [hedge,Bool.and_true] at hnew
    rw [← h.known]
    cases hparent : state.parents candidate with
    | none => exact absurd (by rw [hparent]; rfl) hnew
    | some parent => rfl

lemma getElem?_of_front {front whole : List ℕ} (h : front <+: whole) {i v : ℕ} (hv : front[i]? = some v) :
    whole[i]? = some v := by
  obtain ⟨later,rfl⟩ := h
  rw [List.getElem?_append_left (List.getElem?_eq_some_iff.mp hv).1,hv]

/-- After its expansion the next node is the current one. -/
lemma Expanded.expand {depth : ℕ → ℕ} {cursor current : ℕ} {state : State}
    (h : Expanded n edge origin depth cursor state)
    (hcurrent : state.queue[cursor]? = some current) :
    ∃ depth', Expanded n edge origin depth' (cursor + 1) (expand n edge current state) := by
  have hloop : ∀ (candidates : List ℕ) (depth : ℕ → ℕ) (state : State), (∀ v ∈ candidates, v < n) →
      Expanded n edge origin depth cursor state → state.queue[cursor]? = some current →
      ∃ depth', Expanded n edge origin depth' cursor (candidates.foldl (Breadth.visit edge current) state) ∧
        state.queue <+: (candidates.foldl (Breadth.visit edge current) state).queue ∧
        ∀ v ∈ candidates, edge current v = true → v ∈ (candidates.foldl (Breadth.visit edge current) state).queue := by
    intro candidates
    induction candidates with
    | nil => exact fun depth state _ h _ => ⟨depth,h,List.prefix_refl _,List.forall_mem_nil _⟩
    | cons candidate candidates ih =>
      intro depth state hbelow h hcurrent
      obtain ⟨hfirst,hlater⟩ := List.forall_mem_cons.mp hbelow
      obtain ⟨depth,hvisit,hfront,hseen⟩ := h.visit hcurrent hfirst
      obtain ⟨depth',hrest,hmore,hall⟩ := ih depth _ hlater hvisit (getElem?_of_front hfront hcurrent)
      exact ⟨depth',hrest,hfront.trans hmore,
        List.forall_mem_cons.mpr ⟨fun hedge => hmore.subset (hseen hedge),hall⟩⟩
  obtain ⟨depth',hexpanded,hfront,hall⟩ := hloop (List.range n) depth state (fun v => List.mem_range.mp) h hcurrent
  change Expanded n edge origin depth' cursor (Breadth.expand n edge current state) at hexpanded
  change state.queue <+: (Breadth.expand n edge current state).queue at hfront
  have hkept := getElem?_of_front hfront hcurrent
  obtain ⟨hless,hplace⟩ := List.getElem?_eq_some_iff.mp hkept
  have hdrop : (Breadth.expand n edge current state).queue.drop cursor =
      current :: (Breadth.expand n edge current state).queue.drop (cursor + 1) := by
    rw [List.drop_eq_getElem_cons hless,hplace]
  refine ⟨depth',hexpanded.toLayered,fun u hu => ?_,fun u hu v hlink => ?_⟩
  · apply hexpanded.window u
    rw [hdrop]
    exact List.mem_cons_of_mem _ hu
  · rw [List.take_add_one,hkept,Option.toList_some,List.mem_append,List.mem_singleton] at hu
    obtain hu | rfl := hu
    · exact hexpanded.closed u hu v hlink
    · have hmem := hall v (List.mem_range.mpr hlink.1) hlink.2
      exact ⟨hmem,hexpanded.window u (by rw [hdrop]; exact List.mem_cons_self) v hmem⟩

lemma Layered.length_le {depth : ℕ → ℕ} {state : State} (h : Layered n edge origin depth state) :
    state.queue.length ≤ n := by
  have hsub : state.queue ⊆ List.range n := fun v hv => List.mem_range.mpr (h.below v hv)
  have hle := (h.nodup.subperm hsub).length_le
  rwa [List.length_range] at hle

/-- At the end all that follows a node of the queue is in it, one level below at most. -/
def Closed (n : ℕ) (edge : ℕ → ℕ → Bool) (depth : ℕ → ℕ) (state : State) : Prop :=
  ∀ u ∈ state.queue, ∀ v, Link n edge u v → v ∈ state.queue ∧ depth v ≤ depth u + 1

lemma Expanded.search {steps cursor : ℕ} {depth : ℕ → ℕ} {state : State} (h : Expanded n edge origin depth cursor state)
    (hsteps : n ≤ steps + cursor) : ∃ depth', Layered n edge origin depth' (search n edge steps cursor state) ∧
      Closed n edge depth' (search n edge steps cursor state) := by
  have hend : ∀ {cursor : ℕ} {depth : ℕ → ℕ} {state : State}, Expanded n edge origin depth cursor state →
      state.queue.length ≤ cursor → Closed n edge depth state := by
    intro cursor depth state h hlength u hu
    apply h.closed u
    rwa [List.take_of_length_le hlength]
  induction steps generalizing cursor depth state with
  | zero =>
    have hlength := h.length_le
    exact ⟨depth,h.toLayered,hend h (hlength.trans (by omega))⟩
  | succ steps ih =>
    unfold Breadth.search
    cases hcurrent : state.queue[cursor]? with
    | none => exact ⟨depth,h.toLayered,hend h (List.getElem?_eq_none_iff.mp hcurrent)⟩
    | some current =>
      obtain ⟨depth',hnext⟩ := h.expand hcurrent
      exact ih hnext (by omega)

end Invariant

section Paths
variable {n : ℕ} {edge : ℕ → ℕ → Bool} {origin : ℕ}

/-- A path stays below the number. -/
lemma IsPath.lt {first last : ℕ} {path : List ℕ} (h : IsPath n edge first last path) (hfirst : first < n) :
    ∀ v ∈ path, v < n := by
  obtain ⟨hhead,-,hchain⟩ := h
  cases path with
  | nil => exact List.forall_mem_nil _
  | cons node path =>
    obtain rfl := Option.some.inj hhead
    refine List.forall_mem_cons.mpr ⟨hfirst,?_⟩
    clear hhead hfirst
    induction path generalizing node with
    | nil => exact List.forall_mem_nil _
    | cons next path ih =>
      obtain ⟨hlink,hchain⟩ := List.isChain_cons_cons.mp hchain
      exact List.forall_mem_cons.mpr ⟨hlink.1,ih next hchain⟩

/-- A path from a node of the queue stays in it, and goes down one level a step at most. -/
lemma Closed.path {depth : ℕ → ℕ} {state : State} (h : Closed n edge depth state) {first last : ℕ} {path : List ℕ}
    (hpath : IsPath n edge first last path) (hfirst : first ∈ state.queue) :
    last ∈ state.queue ∧ depth last + 1 ≤ depth first + path.length := by
  obtain ⟨hhead,hlast,hchain⟩ := hpath
  induction path generalizing first with
  | nil => cases hhead
  | cons node path ih =>
    obtain rfl := Option.some.inj hhead
    cases path with
    | nil =>
      obtain rfl := Option.some.inj hlast
      exact ⟨hfirst,Nat.le_refl _⟩
    | cons next path =>
      obtain ⟨hlink,hchain⟩ := List.isChain_cons_cons.mp hchain
      obtain ⟨hnext,hdepth⟩ := h node hfirst next hlink
      obtain ⟨hmem,hlength⟩ := ih hnext rfl (by rwa [List.getLast?_cons_cons] at hlast) hchain
      refine ⟨hmem,?_⟩
      rw [List.length_cons]
      omega

/-- The walk back from a node of the queue takes as many steps as it is deep. -/
lemma Layered.walkBack {depth : ℕ → ℕ} {state : State} (h : Layered n edge origin depth state) {v steps : ℕ}
    (hv : v ∈ state.queue) (hsteps : depth v < steps) : ∃ path, walkBack state.parents origin steps v = some path ∧
      path.length = depth v + 1 ∧ IsPath n edge origin v path.reverse := by
  induction steps generalizing v with
  | zero => cases hsteps
  | succ steps ih =>
    unfold Breadth.walkBack
    by_cases horigin : v = origin
    · subst horigin
      rw [if_pos rfl,h.started.2]
      exact ⟨[v],rfl,rfl,rfl,rfl,List.isChain_singleton _⟩
    · obtain ⟨p,hp,hparent,hedge,hdepth⟩ := h.parent v hv horigin
      obtain ⟨path,hwalk,hlength,hhead,hlast,hchain⟩ := ih hp (by omega)
      rw [if_neg horigin,hparent,Option.bind_some,hwalk,Option.map_some]
      refine ⟨v :: path,rfl,by rw [List.length_cons,hlength,hdepth],?_,?_,?_⟩
      · rw [List.reverse_cons,List.head?_append_of_ne_nil _ (by rintro hnil; rw [hnil] at hhead; cases hhead),hhead]
      · rw [List.reverse_cons,List.getLast?_append]
        rfl
      · rw [List.reverse_cons,List.isChain_append]
        refine ⟨hchain,List.isChain_singleton _,fun a ha b hb => ?_⟩
        rw [hlast] at ha
        cases ha
        cases hb
        exact ⟨h.below v hv,hedge⟩

/-- The search finds the nodes that there is a path to, and the walk back from each of them is a path of least
length. -/
theorem found_spec (horigin : origin < n) (v : ℕ) :
    ((found n edge origin).parents v = none → ¬∃ path, IsPath n edge origin v path) ∧
      ((found n edge origin).parents v ≠ none → ∃ path, walkBack (found n edge origin).parents origin n v = some path ∧
        IsPath n edge origin v path.reverse ∧ ∀ other, IsPath n edge origin v other → path.length ≤ other.length) := by
  obtain ⟨depth,hlayered,hclosed⟩ := (start_expanded horigin).search (Nat.le_refl n)
  change Layered n edge origin depth (found n edge origin) at hlayered
  change Closed n edge depth (found n edge origin) at hclosed
  constructor
  · rintro hnone ⟨path,hpath⟩
    have hmem := (hclosed.path hpath hlayered.started.1).1
    rw [← hlayered.known,hnone] at hmem
    cases hmem
  · intro hsome
    have hmem : v ∈ (found n edge origin).queue := by
      rw [← hlayered.known]
      exact Option.isSome_iff_ne_none.mpr hsome
    obtain ⟨i,hi,hplace⟩ := List.getElem_of_mem hmem
    have hdepth := hlayered.place i v (List.getElem?_eq_some_iff.mpr ⟨hi,hplace⟩)
    have hlength := hlayered.length_le
    obtain ⟨path,hwalk,hpathLength,hpath⟩ := @Layered.walkBack n edge origin depth _ hlayered v n hmem (by omega)
    refine ⟨path,hwalk,hpath,fun other hother => ?_⟩
    have hle := (hclosed.path hother hlayered.started.1).2
    rw [hlayered.started.2] at hle
    omega

end Paths
end AytherRuntime.Breadth
