import AytherRuntime.Trace.Lineage
import AytherRuntime.Trace.Waiting
import Mathlib.Data.List.Find

/-! The chains of the accumulator stand for lineages: following the parents of a token reads the
lineage of its fact. -/
namespace AytherRuntime.Trace
namespace Accumulator
open Lineage
variable {a : Accumulator}

/-- A root, and chains whose parents are older than they are. -/
structure Ordered (chains : List Chain) : Prop where
  root : chains[0]? = some ({} : Chain)
  older : ∀ i chain, chains[i]? = some chain → i ≠ 0 → chain.parent < i

def link (chain : Chain) : Link := ⟨chain.stage,chain.id,chain.occurrence⟩

/-- The lineage that a token stands for. -/
def lineage (a : Accumulator) (token : ℕ) : Lineage :=
  (upward a.chains token).map fun token => link (a.chainAt token)

lemma Ordered.length_pos (h : Ordered a.chains) : 0 < a.chains.length := by
  by_contra hlen
  have hroot := h.root
  rw [List.getElem?_eq_none (by omega)] at hroot
  cases hroot

lemma chainAt_eq {token : ℕ} {chain : Chain} (h : a.chains[token]? = some chain) :
    a.chainAt token = chain := by
  rw [chainAt,List.getD_eq_getElem?_getD,h]
  rfl

@[simp] lemma upward_zero (chains : List Chain) : upward chains 0 = [] := by
  rw [upward,if_pos rfl]

@[simp] lemma lineage_zero : a.lineage 0 = [] := by simp [lineage]

lemma upward_succ (h : Ordered a.chains) {token : ℕ} (hpos : token ≠ 0)
    (hin : token < a.chains.length) :
    upward a.chains token = token :: upward a.chains (a.chainAt token).parent := by
  obtain ⟨chain,hchain⟩ : ∃ chain, a.chains[token]? = some chain := ⟨_,List.getElem?_eq_getElem hin⟩
  rw [upward,if_neg hpos,hchain,chainAt_eq hchain]
  dsimp only
  rw [if_pos (h.older token chain hchain hpos)]

lemma parent_lt (h : Ordered a.chains) {token : ℕ} (hpos : token ≠ 0)
    (hin : token < a.chains.length) : (a.chainAt token).parent < token := by
  obtain ⟨chain,hchain⟩ : ∃ chain, a.chains[token]? = some chain := ⟨_,List.getElem?_eq_getElem hin⟩
  rw [chainAt_eq hchain]
  exact h.older token chain hchain hpos

lemma lineage_succ (h : Ordered a.chains) {token : ℕ} (hpos : token ≠ 0)
    (hin : token < a.chains.length) :
    a.lineage token = link (a.chainAt token) :: a.lineage (a.chainAt token).parent := by
  rw [lineage,upward_succ h hpos hin]
  rfl

lemma lineage_stage (h : Ordered a.chains) {token : ℕ} (hin : token < a.chains.length) :
    (a.lineage token).stage = (a.chainAt token).stage := by
  by_cases hpos : token = 0
  · subst hpos
    rw [lineage_zero,chainAt_eq h.root]
    rfl
  · rw [lineage_succ h hpos hin]
    rfl

/-- The request above a token, as the loop over its parents finds it. -/
lemma requestAncestor_spec (h : Ordered a.chains) {token : ℕ} (hin : token < a.chains.length) :
    (a.requestAncestor token = 0 ∧ (a.lineage token).request = none) ∨
      (a.requestAncestor token ≠ 0 ∧ a.requestAncestor token < a.chains.length ∧
        (a.chainAt (a.requestAncestor token)).stage = .request ∧
        (a.lineage token).request = some (link (a.chainAt (a.requestAncestor token)))) := by
  induction token using Nat.strong_induction_on with
  | _ token ih =>
    by_cases hpos : token = 0
    · subst hpos
      exact Or.inl ⟨by simp [requestAncestor],by simp [Lineage.request]⟩
    · have hparent := parent_lt h hpos hin
      have hrest := ih _ hparent (hparent.trans hin)
      unfold requestAncestor at hrest ⊢
      rw [upward_succ h hpos hin,lineage_succ h hpos hin]
      by_cases hstage : (a.chainAt token).stage = .request
      · right
        rw [List.find?_cons_of_pos (by simpa using hstage)]
        exact ⟨hpos,hin,hstage,by simp [Lineage.request,link,hstage]⟩
      · rw [List.find?_cons_of_neg (by simpa using hstage)]
        simpa [Lineage.request,link,hstage] using hrest

lemma occurrenceMatches_iff (h : Ordered a.chains) {token : ℕ}
    (hin : token < a.chains.length) (value : ℕ) :
    a.occurrenceMatches token value = true ↔ (a.lineage token).Carries value := by
  unfold occurrenceMatches Carries
  rcases requestAncestor_spec h hin with ⟨hzero,hnone⟩ | ⟨hpos,-,-,hsome⟩
  · simp [hzero,hnone]
  · simp [hpos,hsome,link]

section Grow
variable {chain : Chain}

/-- A chain added at the end leaves the older ones as they were. -/
lemma chainAt_append {b : Accumulator} (hchains : b.chains = a.chains ++ [chain]) {token : ℕ}
    (hin : token < a.chains.length) : b.chainAt token = a.chainAt token := by
  unfold chainAt
  rw [hchains,List.getD_append _ _ _ _ hin]

lemma chainAt_last {b : Accumulator} (hchains : b.chains = a.chains ++ [chain]) :
    b.chainAt a.chains.length = chain := by
  unfold chainAt
  rw [hchains,List.getD_append_right _ _ _ _ le_rfl]
  simp

lemma Ordered.append (h : Ordered a.chains) (hparent : chain.parent < a.chains.length) :
    Ordered (a.chains ++ [chain]) where
  root := by
    rw [List.getElem?_append_left h.length_pos]
    exact h.root
  older := by
    intro i other hother hpos
    by_cases hin : i < a.chains.length
    · rw [List.getElem?_append_left hin] at hother
      exact h.older i other hother hpos
    · have hlen := (List.getElem?_eq_some_iff.mp hother).1
      simp only [List.length_append,List.length_singleton] at hlen
      obtain rfl : i = a.chains.length := by omega
      simp at hother
      exact hother ▸ hparent

lemma upward_append {b : Accumulator} (h : Ordered a.chains) (hb : Ordered b.chains)
    (hchains : b.chains = a.chains ++ [chain]) {token : ℕ} (hin : token < a.chains.length) :
    upward b.chains token = upward a.chains token := by
  induction token using Nat.strong_induction_on with
  | _ token ih =>
    by_cases hpos : token = 0
    · subst hpos; simp
    · have hparent := parent_lt h hpos hin
      have hin' : token < b.chains.length := by
        rw [hchains,List.length_append]
        omega
      rw [upward_succ h hpos hin,upward_succ hb hpos hin',chainAt_append hchains hin,
        ih _ hparent (hparent.trans hin)]

end Grow
section Resolve

/-- The lineage that a cause brings: none while it is unknown. -/
def causeLineage (a : Accumulator) (cause : CompactId) : Lineage :=
  a.lineage ((a.token cause).getD 0)

lemma bestCause_spec (h : Ordered a.chains) (fact : PendingFact)
    (hknown : ∀ cause ∈ fact.causes, ∀ value, a.token cause = some value → value < a.chains.length) :
    a.bestCause fact < a.chains.length ∧
      a.lineage (a.bestCause fact) = best (fact.causes.map a.causeLineage) := by
  have hfold : ∀ (causes : List CompactId) (token : ℕ), token < a.chains.length →
      (∀ cause ∈ causes, ∀ value, a.token cause = some value → value < a.chains.length) →
      causes.foldl a.betterCause token < a.chains.length ∧
        a.lineage (causes.foldl a.betterCause token) = (causes.map a.causeLineage).foldl
          (fun best l => if best.stage.rank < l.stage.rank then l else best) (a.lineage token) := by
    intro causes
    induction causes with
    | nil => exact fun token hin _ => ⟨hin,rfl⟩
    | cons cause causes ih =>
      intro token hin hbound
      have hrest := fun other hother => hbound other (List.mem_cons_of_mem _ hother)
      have hstep : a.betterCause token cause < a.chains.length ∧
          a.lineage (a.betterCause token cause) =
            if (a.lineage token).stage.rank < (a.causeLineage cause).stage.rank then
              a.causeLineage cause else a.lineage token := by
        unfold betterCause causeLineage
        cases htoken : a.token cause with
        | none => simp [hin,Lineage.stage,TraceStage.rank]
        | some value =>
          have hvalue := hbound cause (List.mem_cons_self ..) value htoken
          simp only [Option.getD_some,lineage_stage h hin,lineage_stage h hvalue]
          by_cases hbetter : (a.chainAt token).stage.rank < (a.chainAt value).stage.rank
          · have hne : value ≠ 0 := by
              rintro rfl
              rw [chainAt_eq h.root] at hbetter
              exact Nat.not_lt_zero _ hbetter
            rw [if_pos ⟨hne,hbetter⟩,if_pos hbetter]
            exact ⟨hvalue,rfl⟩
          · rw [if_neg fun hb => hbetter hb.2,if_neg hbetter]
            exact ⟨hin,rfl⟩
      obtain ⟨hlt,heq⟩ := ih (a.betterCause token cause) hstep.1 hrest
      refine ⟨hlt,heq.trans ?_⟩
      rw [hstep.2,List.map_cons,List.foldl_cons]
  have hbest := hfold fact.causes 0 h.length_pos hknown
  rw [lineage_zero] at hbest
  exact hbest

/-- The chain that a fact adds over a parent. -/
def ownChain (a : Accumulator) (fact : PendingFact) (parent : ℕ) : Chain :=
  { stage := (own fact).stage
    id := fact.id
    parent
    requestToken := if (own fact).stage = .request then a.chains.length else a.requestAncestor parent
    occurrence := (own fact).occurrence }

lemma link_ownChain (fact : PendingFact) (parent : ℕ) : link (a.ownChain fact parent) = own fact := by
  unfold link ownChain
  dsimp only
  rw [← own_id]

lemma addChain_own (fact : PendingFact) (parent : ℕ) :
    a.addChain (own fact).stage fact.id parent (own fact).occurrence =
      ({ a with chains := a.chains ++ [a.ownChain fact parent] },a.chains.length) := rfl

/-- A fact adds its chain exactly when its best cause admits it. -/
lemma resolve_spec (h : Ordered a.chains) (fact : PendingFact)
    (hknown : ∀ cause ∈ fact.causes, ∀ value, a.token cause = some value → value < a.chains.length) :
    (¬(best (fact.causes.map a.causeLineage)).Admits fact ∧
        a.resolve fact = (a,a.bestCause fact)) ∨
      ((best (fact.causes.map a.causeLineage)).Admits fact ∧
        a.resolve fact = a.addChain (own fact).stage fact.id
          (if fact.kind = .ingress then 0 else a.bestCause fact) (own fact).occurrence) := by
  obtain ⟨hin,hlineage⟩ := bestCause_spec h fact hknown
  have hstage := lineage_stage h hin
  have hmatches := occurrenceMatches_iff h hin fact.occurrence
  rw [hlineage] at hstage hmatches
  unfold resolve Admits own
  dsimp only
  cases hkind : fact.kind with
  | ingress => exact Or.inr ⟨trivial,rfl⟩
  | outputSpan | other => exact Or.inl ⟨not_false,rfl⟩
  | candidate | selection | request | decision | effect | mix =>
    simp only [hstage,← hmatches,reduceCtorEq,if_false]
    split_ifs with hrank
    · exact Or.inr ⟨hrank,rfl⟩
    · exact Or.inl ⟨hrank,rfl⟩

/-- What a table of chains keeps when a chain is added: every token reads as before. -/
structure Extends (a b : Accumulator) : Prop where
  ordered : Ordered b.chains
  length : a.chains.length ≤ b.chains.length
  chainAt : ∀ token < a.chains.length, b.chainAt token = a.chainAt token
  upward : ∀ token < a.chains.length, upward b.chains token = upward a.chains token

lemma mem_upward_le {chains : List Chain} {token t : ℕ} (ht : t ∈ upward chains token) : t ≤ token := by
  induction token using Nat.strong_induction_on with
  | _ token ih =>
    rw [upward] at ht
    split_ifs at ht with hzero
    · cases ht
    · split at ht
      · rcases List.mem_cons.mp ht with rfl | ht
        · exact le_rfl
        · split_ifs at ht with hparent
          · exact (ih _ hparent ht).trans hparent.le
          · cases ht
      · cases ht

section Extends
variable {b : Accumulator} (h : Extends a b)
include h

lemma Extends.lineage {token : ℕ} (hin : token < a.chains.length) :
    b.lineage token = a.lineage token := by
  unfold Accumulator.lineage
  rw [h.upward token hin]
  exact List.map_congr_left fun t ht => by rw [h.chainAt t ((mem_upward_le ht).trans_lt hin)]

lemma Extends.requestAncestor {token : ℕ} (hin : token < a.chains.length) :
    b.requestAncestor token = a.requestAncestor token := by
  unfold Accumulator.requestAncestor
  rw [h.upward token hin]
  rw [List.find?_congr fun t ht => by rw [h.chainAt t ((mem_upward_le ht).trans_lt hin)]]

end Extends

lemma extends_refl (h : Ordered a.chains) : Extends a a :=
  ⟨h,le_rfl,fun _ _ => rfl,fun _ _ => rfl⟩

lemma extends_append (h : Ordered a.chains) {b : Accumulator} {chain : Chain}
    (hchains : b.chains = a.chains ++ [chain]) (hparent : chain.parent < a.chains.length) :
    Extends a b where
  ordered := hchains ▸ h.append hparent
  length := by simp [hchains]
  chainAt := fun token hin => chainAt_append hchains hin
  upward := fun token hin => upward_append h (hchains ▸ h.append hparent) hchains hin

/-- Resolving a fact gives a token of its lineage: an older one, or one of its own. -/
structure Resolves (a : Accumulator) (fact : PendingFact) (b : Accumulator) (value : ℕ) : Prop where
  kept : Extends a b
  inside : value < b.chains.length
  lineage : b.lineage value = extend fact (fact.causes.map a.causeLineage)
  added : ∀ token < b.chains.length, a.chains.length ≤ token → token = value ∧ value ≠ 0 ∧
    (b.chainAt value).id = fact.id ∧ (b.chainAt value).requestToken = b.requestAncestor value

lemma resolve_resolves (h : Ordered a.chains) (fact : PendingFact)
    (hknown : ∀ cause ∈ fact.causes, ∀ value, a.token cause = some value → value < a.chains.length) :
    Resolves a fact (a.resolve fact).1 (a.resolve fact).2 := by
  obtain ⟨hin,hlineage⟩ := bestCause_spec h fact hknown
  rcases resolve_spec h fact hknown with ⟨hadmits,hresolve⟩ | ⟨hadmits,hresolve⟩
  · rw [hresolve]
    refine ⟨extends_refl h,hin,?_,fun token hin hle => absurd hin (Nat.not_lt.mpr hle)⟩
    rw [extend,if_neg hadmits]
    exact hlineage
  · rw [hresolve,addChain_own]
    generalize hparent : (if fact.kind = .ingress then 0 else a.bestCause fact) = parent
    have hlt : parent < a.chains.length := by
      rw [← hparent]
      split_ifs
      · exact h.length_pos
      · exact hin
    have hparentLineage : a.lineage parent =
        if fact.kind = .ingress then [] else best (fact.causes.map a.causeLineage) := by
      rw [← hparent]
      split_ifs
      · exact lineage_zero
      · exact hlineage
    generalize hb : ({ a with chains := a.chains ++ [a.ownChain fact parent] } : Accumulator) = b
    have hchains : b.chains = a.chains ++ [a.ownChain fact parent] := by rw [← hb]
    have hkept : Extends a b := extends_append h hchains hlt
    have hlength : b.chains.length = a.chains.length + 1 := by simp [hchains]
    have hown : b.chainAt a.chains.length = a.ownChain fact parent := chainAt_last hchains
    have hpos : a.chains.length ≠ 0 := h.length_pos.ne'
    have hin' : a.chains.length < b.chains.length := by omega
    refine ⟨hkept,hin',?_,?_⟩
    · rw [lineage_succ hkept.ordered hpos hin',hown,extend,if_pos hadmits,← hparentLineage,
        ← hkept.lineage hlt,link_ownChain]
      rfl
    · intro token htoken hle
      change token < b.chains.length at htoken
      refine ⟨by omega,hpos,by rw [hown]; rfl,?_⟩
      rw [hown]
      unfold requestAncestor
      rw [upward_succ hkept.ordered hpos hin',hown]
      by_cases hstage : (own fact).stage = .request
      · rw [List.find?_cons_of_pos (by rw [hown]; exact decide_eq_true hstage)]
        simp [ownChain,hstage]
      · rw [List.find?_cons_of_neg (by rw [hown]; exact ne_true_of_eq_false (decide_eq_false hstage))]
        have hrest := hkept.requestAncestor hlt
        unfold requestAncestor at hrest
        simp only [ownChain,hstage,if_false]
        exact hrest.symm

end Resolve
end Accumulator
end AytherRuntime.Trace
