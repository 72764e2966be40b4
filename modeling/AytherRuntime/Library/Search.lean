import Mathlib.Algebra.Order.BigOperators.Group.List
import Mathlib.Algebra.Order.Group.Nat
import Mathlib.Algebra.Ring.Nat
import Mathlib.Logic.Relation

/-! A depth-first search with a stack and a list of visited nodes, over any graph whose followers are
listed and whose nodes with followers are finitely many. -/
namespace AytherRuntime.Search
open Relation

/-- The followers of each node, and the nodes that can have any. -/
structure Graph (κ : Type*) where
  nodes : List κ
  next : κ → List κ
  mem : ∀ x, next x ≠ [] → x ∈ nodes

variable {κ : Type*} (G : Graph κ)

/-- The followers of a node on top of a stack, the last one first. -/
def Graph.push (x : κ) (pending : List κ) : List κ := (G.next x).reverse ++ pending

variable {G} in
@[simp] lemma Graph.mem_push {x y : κ} {pending : List κ} :
    y ∈ G.push x pending ↔ y ∈ G.next x ∨ y ∈ pending := by simp [push]

/-- All the followers that there are. -/
def Graph.fan : ℕ := (G.nodes.map fun x => (G.next x).length).sum

variable {G} in
lemma Graph.length_next_le {x : κ} (hnode : x ∈ G.nodes) : (G.next x).length ≤ G.fan :=
  List.le_sum_of_mem (List.mem_map_of_mem hnode)

variable [DecidableEq κ]

/-- The nodes with followers that are still to be visited. -/
def Graph.unvisited (visited : List κ) : ℕ := (G.nodes.filter fun x => x ∉ visited).length

variable {G} in
lemma Graph.unvisited_cons_le (x : κ) (visited : List κ) :
    G.unvisited (x :: visited) ≤ G.unvisited visited := by
  refine (List.monotone_filter_right G.nodes fun y hy => ?_).length_le
  simp only [List.mem_cons,not_or,decide_eq_true_eq] at hy ⊢
  exact hy.2

variable {G} in
lemma Graph.unvisited_cons_lt {x : κ} {visited : List κ} (hnode : x ∈ G.nodes)
    (hnew : x ∉ visited) : G.unvisited (x :: visited) < G.unvisited visited := by
  have hfilter : (G.nodes.filter fun y => y ∉ x :: visited) =
      (G.nodes.filter fun y => y ∉ visited).filter fun y => y ≠ x := by
    rw [List.filter_filter]
    refine List.filter_congr fun y _ => ?_
    simp
  unfold unvisited
  rw [hfilter]
  refine List.length_filter_lt_length_iff_exists.mpr ⟨x,?_,by simp⟩
  simp [hnode,hnew]

/-- Takes the top of the stack until it is the goal; a node not visited yet pushes its followers. -/
def search (goal : κ) : List κ → List κ → Bool
  | [], _ => false
  | current :: pending, visited =>
    if current = goal then true
    else if current ∈ visited then search goal pending visited
    else search goal (G.push current pending) (current :: visited)
termination_by pending visited => G.unvisited visited * G.fan + pending.length
decreasing_by
  · simp
  · rename_i hnew
    have hlength : (G.push current pending).length = (G.next current).length + pending.length := by
      simp [Graph.push]
    rw [hlength,List.length_cons]
    by_cases hnode : current ∈ G.nodes
    · have hfan := Graph.length_next_le hnode
      have hless := Nat.mul_le_mul_right G.fan (Graph.unvisited_cons_lt hnode hnew)
      rw [Nat.succ_mul] at hless
      omega
    · have hnone : G.next current = [] := by
        by_contra hsome
        exact hnode (G.mem current hsome)
      have hless := Nat.mul_le_mul_right G.fan (Graph.unvisited_cons_le (G := G) current visited)
      rw [hnone,List.length_nil]
      omega

/-- What the search can reach from a node. -/
def Follows (x y : κ) : Prop := y ∈ G.next x

/-- The goal was not visited, and all that follows a visited node is visited or on the stack. -/
structure Closed (goal : κ) (pending visited : List κ) : Prop where
  goal : goal ∉ visited
  next : ∀ x ∈ visited, ∀ y ∈ G.next x, y ∈ visited ∨ y ∈ pending

variable {G} {goal : κ}

/-- A closed search finds the goal exactly when it can be reached from the stack. -/
lemma search_iff {pending visited : List κ} (h : Closed G goal pending visited) :
    search G goal pending visited = true ↔ ∃ x ∈ pending, ReflTransGen (Follows G) x goal := by
  fun_induction search G goal pending visited with
  | case1 => simp
  | case2 visited pending => exact iff_of_true rfl ⟨goal,List.mem_cons_self ..,.refl⟩
  | case3 current pending visited hne hvisited ih =>
    have hclosed : Closed G goal pending visited := by
      refine ⟨h.goal,fun x hx y hy => ?_⟩
      rcases h.next x hx y hy with hseen | hpending
      · exact Or.inl hseen
      · rcases List.mem_cons.mp hpending with rfl | hpending
        · exact Or.inl hvisited
        · exact Or.inr hpending
    rw [ih hclosed]
    -- A path from a visited node leaves the visited nodes through the stack.
    have hleaves : ∀ x, ReflTransGen (Follows G) x goal → x ∈ visited →
        ∃ y ∈ pending, ReflTransGen (Follows G) y goal := by
      intro x hpath
      induction hpath using ReflTransGen.head_induction_on with
      | refl => exact fun hx => absurd hx h.goal
      | head hstep hrest ih =>
        intro hx
        rcases hclosed.next _ hx _ hstep with hseen | hpending
        · exact ih hseen
        · exact ⟨_,hpending,hrest⟩
    constructor
    · rintro ⟨x,hx,hpath⟩
      exact ⟨x,List.mem_cons_of_mem _ hx,hpath⟩
    · rintro ⟨x,hx,hpath⟩
      rcases List.mem_cons.mp hx with rfl | hx
      · exact hleaves x hpath hvisited
      · exact ⟨x,hx,hpath⟩
  | case4 current pending visited hne hnew ih =>
    have hclosed : Closed G goal (G.push current pending) (current :: visited) := by
      refine ⟨?_,fun x hx y hy => ?_⟩
      · rw [List.mem_cons,not_or]
        exact ⟨Ne.symm hne,h.goal⟩
      · rcases List.mem_cons.mp hx with rfl | hx
        · exact Or.inr (Graph.mem_push.mpr (Or.inl hy))
        · rcases h.next x hx y hy with hseen | hpending
          · exact Or.inl (List.mem_cons_of_mem _ hseen)
          · rcases List.mem_cons.mp hpending with rfl | hpending
            · exact Or.inl (List.mem_cons_self ..)
            · exact Or.inr (Graph.mem_push.mpr (Or.inr hpending))
    rw [ih hclosed]
    constructor
    · rintro ⟨x,hx,hpath⟩
      rcases Graph.mem_push.mp hx with hx | hx
      · exact ⟨current,List.mem_cons_self ..,.head hx hpath⟩
      · exact ⟨x,List.mem_cons_of_mem _ hx,hpath⟩
    · rintro ⟨x,hx,hpath⟩
      rcases List.mem_cons.mp hx with rfl | hx
      · rcases hpath.cases_head with hgoal | ⟨y,hstep,hrest⟩
        · exact absurd hgoal hne
        · exact ⟨y,Graph.mem_push.mpr (Or.inl hstep),hrest⟩
      · exact ⟨x,Graph.mem_push.mpr (Or.inr hx),hpath⟩

/-- A search from one node decides whether the goal can be reached from it. -/
theorem search_start_iff (start : κ) :
    search G goal [start] [] = true ↔ ReflTransGen (Follows G) start goal := by
  rw [search_iff ⟨by simp,by simp⟩]
  simp

end AytherRuntime.Search
