import AytherRuntime.Trace.Reading

/-! The lineage of a fact: the audio stages that lie between it and the ingress it comes from. It
depends on the causes alone, never on the order in which facts arrive. -/
namespace AytherRuntime.Trace

structure Link where
  stage : TraceStage
  id : CompactId
  occurrence : ℕ
  deriving DecidableEq, Repr

/-- The links from the latest stage to the root. -/
abbrev Lineage := List Link

namespace Lineage

def stage (l : Lineage) : TraceStage := (l.head?.map Link.stage).getD .none

/-- The nearest request of a lineage. -/
def request (l : Lineage) : Option Link := l.find? fun link => link.stage = .request

def requestId (l : Lineage) : Option CompactId := l.request.map Link.id

def hasDecision (l : Lineage) : Bool := l.any fun link => link.stage = .decision

/-- The first of the most advanced lineages. -/
def best (ls : List Lineage) : Lineage :=
  ls.foldl (fun best l => if best.stage.rank < l.stage.rank then l else best) []

/-- The nearest request has this occurrence, which is not zero. -/
def Carries (l : Lineage) (occurrence : ℕ) : Prop :=
  occurrence ≠ 0 ∧ ∃ link, l.request = some link ∧ link.occurrence = occurrence

/-- What a fact needs of the best lineage among its causes to add a link of its own. -/
def Admits (l : Lineage) (fact : PendingFact) : Prop :=
  match fact.kind with
  | .ingress => True
  | .candidate => TraceStage.ingress.rank ≤ l.stage.rank
  | .selection => TraceStage.candidate.rank ≤ l.stage.rank
  | .request => TraceStage.selection.rank ≤ l.stage.rank ∧ fact.occurrence ≠ 0
  | .decision => TraceStage.request.rank ≤ l.stage.rank ∧ l.Carries fact.occurrence
  | .effect => TraceStage.decision.rank ≤ l.stage.rank ∧ l.Carries fact.occurrence
  | .mix => TraceStage.request.rank ≤ l.stage.rank ∧ l.Carries fact.occurrence
  | .outputSpan | .other => False

/-- The link that a fact adds. -/
def own (fact : PendingFact) : Link :=
  match fact.kind with
  | .ingress => ⟨.ingress,fact.id,0⟩
  | .candidate => ⟨.candidate,fact.id,0⟩
  | .selection => ⟨.selection,fact.id,0⟩
  | .request => ⟨.request,fact.id,fact.occurrence⟩
  | .decision => ⟨.decision,fact.id,fact.occurrence⟩
  | .effect => ⟨.effect,fact.id,fact.occurrence⟩
  | .mix => ⟨.mix,fact.id,fact.occurrence⟩
  | .outputSpan | .other => ⟨.none,fact.id,0⟩

@[simp] lemma own_id (fact : PendingFact) : (own fact).id = fact.id := by
  unfold own
  split <;> rfl

open Classical in
/-- A fact inherits the best lineage among its causes, with a link of its own where it is
admitted. An ingress starts a lineage. -/
noncomputable def extend (fact : PendingFact) (ls : List Lineage) : Lineage :=
  if (best ls).Admits fact then own fact :: if fact.kind = .ingress then [] else best ls
  else best ls

lemma best_mem (ls : List Lineage) : best ls = [] ∨ best ls ∈ ls := by
  have hfold : ∀ (ls : List Lineage) (l : Lineage),
      let b := ls.foldl (fun best l => if best.stage.rank < l.stage.rank then l else best) l
      b = l ∨ b ∈ ls := by
    intro ls
    induction ls with
    | nil => exact fun l => Or.inl rfl
    | cons head ls ih =>
      intro l
      dsimp only [List.foldl_cons]
      rcases ih (if l.stage.rank < head.stage.rank then head else l) with h | h
      · rw [h]
        split_ifs
        · exact Or.inr (List.mem_cons_self ..)
        · exact Or.inl rfl
      · exact Or.inr (List.mem_cons_of_mem _ h)
  exact hfold ls []

/-- The lineages that facts can build: each link was admitted by the ones above it. -/
inductive Grown : Lineage → Prop
  | root : Grown []
  | ingress (fact : PendingFact) (kind : fact.kind = .ingress) : Grown [own fact]
  | link {l} (fact : PendingFact) (kind : fact.kind ≠ .ingress) (admitted : l.Admits fact)
      (tail : Grown l) : Grown (own fact :: l)

lemma grown_extend (fact : PendingFact) {ls : List Lineage} (h : ∀ l ∈ ls, Grown l) :
    Grown (extend fact ls) := by
  have hbest : Grown (best ls) := by
    rcases best_mem ls with hnil | hmem
    · rw [hnil]; exact .root
    · exact h _ hmem
  unfold extend
  split_ifs with hadmits hingress
  · exact .ingress fact hingress
  · exact .link fact hingress hadmits hbest
  · exact hbest

/-- The lineage of an identity among the facts of a run. -/
def Traces (items : Set PendingFact) (given : Set CompactId) : CompactId → Lineage → Prop :=
  Settlement.Evaluates dependencies [] extend items given

lemma Traces.grown {items : Set PendingFact} {given : Set CompactId} {id : CompactId}
    {l : Lineage} (h : Traces items given id l) : Grown l := by
  induction h with
  | given => exact .root
  | item hitem values causes ih =>
    refine grown_extend _ fun l hl => ?_
    obtain ⟨cause,hcause,rfl⟩ := List.mem_map.mp hl
    exact ih cause hcause

/-- The rank of the stage a link must find above it. -/
def floor : TraceStage → ℕ
  | .none | .ingress => 0
  | .candidate => 1
  | .selection => 2
  | .request => 3
  | .decision => 4
  | .effect => 5
  | .mix => 4

lemma Admits.floor_le {l : Lineage} {fact : PendingFact} (h : l.Admits fact) :
    floor (own fact).stage ≤ l.stage.rank := by
  unfold Admits at h
  unfold own
  cases hkind : fact.kind <;> simp only [hkind] at h ⊢ <;> first | exact Nat.zero_le _ | exact h | exact h.1

/-- Up to the request, a lineage has every stage that its latest one implies. -/
lemma Grown.stages {l : Lineage} (h : Grown l) {s : TraceStage} (hs : s ≠ .none)
    (hrequest : s.rank ≤ TraceStage.request.rank) (hrank : s.rank ≤ l.stage.rank) :
    ∃ link ∈ l, link.stage = s := by
  induction h with
  | root => cases s <;> simp [stage,TraceStage.rank] at hs hrank
  | ingress fact kind =>
    refine ⟨own fact,List.mem_cons_self ..,?_⟩
    cases s <;> simp [stage,own,kind,TraceStage.rank] at hs hrank ⊢
  | @link l fact kind admitted tail ih =>
    by_cases hown : (own fact).stage = s
    · exact ⟨own fact,List.mem_cons_self ..,hown⟩
    · have hfloor := admitted.floor_le
      have hbelow : s.rank ≤ floor (own fact).stage := by
        change s.rank ≤ (own fact).stage.rank at hrank
        cases s <;> cases hstage : (own fact).stage <;>
          simp_all [TraceStage.rank,floor]
      obtain ⟨link,hlink,hs⟩ := ih (hbelow.trans hfloor)
      exact ⟨link,List.mem_cons_of_mem _ hlink,hs⟩

end Lineage
end AytherRuntime.Trace
