import AytherRuntime.Trace.Arrival

/-! The facts behind a lineage: each link is one of them, it descends from the links above it, and
these are its own lineage. -/
namespace AytherRuntime.Trace
open Relation

/-- A kept cause of a fact. -/
def CauseOf (items : Set PendingFact) (earlier later : CompactId) : Prop :=
  ∃ fact ∈ items, fact.id = later ∧ earlier ∈ fact.causes

namespace Lineage
variable {items : Set PendingFact} {given : Set CompactId} {id : CompactId} {l : Lineage}

/-- What a link of the lineage of an identity is: a fact that the links above it admit, from which
the identity descends. -/
structure LinkOf (items : Set PendingFact) (given : Set CompactId) (id : CompactId) (x : Link)
    (links : Lineage) : Prop where
  fact : ∃ fact ∈ items, own fact = x ∧ fact.id = x.id ∧
    if fact.kind = .ingress then links = [] else links.Admits fact
  descends : ReflTransGen (CauseOf items) x.id id
  above : ∀ y ∈ links, TransGen (CauseOf items) y.id x.id
  traces : Traces items given x.id (x :: links)

lemma LinkOf.cause {cause : CompactId} {x : Link} {links : Lineage}
    (h : LinkOf items given cause x links) (hcause : CauseOf items cause id) :
    LinkOf items given id x links :=
  ⟨h.fact,h.descends.tail hcause,h.above,h.traces⟩

lemma Traces.linkOf (h : Traces items given id l) :
    ∀ before x links, l = before ++ x :: links → LinkOf items given id x links := by
  induction h with
  | given => intro before x links hsplit; simp at hsplit
  | @item fact hitem values causes ih =>
    intro before x links hsplit
    have hself : Traces items given fact.id (extend fact (fact.causes.map values)) :=
      .item hitem values causes
    -- A link of the best lineage is one of a cause.
    have hbest : ∀ before y rest, best (fact.causes.map values) = before ++ y :: rest →
        ∃ cause, CauseOf items cause fact.id ∧ LinkOf items given cause y rest := by
      intro before y rest hsplit
      have hmem := (best_mem (fact.causes.map values)).resolve_left (by simp [hsplit])
      obtain ⟨cause,hcause,hvalue⟩ := List.mem_map.mp hmem
      exact ⟨cause,⟨fact,hitem,rfl,hcause⟩,ih cause hcause before y rest (hvalue.trans hsplit)⟩
    change extend fact (fact.causes.map values) = _ at hsplit
    unfold extend at hsplit hself
    split_ifs at hsplit hself with hadmits hingress
    · -- An ingress starts its lineage.
      obtain ⟨rfl,hx⟩ : before = [] ∧ [own fact] = x :: links := by
        cases before with
        | nil => exact ⟨rfl,hsplit⟩
        | cons y before => simp at hsplit
      obtain ⟨rfl,rfl⟩ := List.cons.inj hx
      rw [← own_id] at hself
      exact ⟨⟨fact,hitem,rfl,(own_id fact).symm,by rw [if_pos hingress]⟩,by rw [own_id]; exact .refl,by simp,
        hself⟩
    · cases before with
      | nil =>
        obtain ⟨rfl,rfl⟩ := List.cons.inj hsplit
        refine ⟨⟨fact,hitem,rfl,(own_id fact).symm,by rw [if_neg hingress]; exact hadmits⟩,
          by rw [own_id]; exact .refl,?_,by rw [own_id]; exact hself⟩
        intro y hy
        obtain ⟨before,rest,hsplit⟩ := List.append_of_mem hy
        obtain ⟨cause,hcause,hlink⟩ := hbest before y rest hsplit
        rw [own_id]
        exact TransGen.tail' hlink.descends hcause
      | cons y before =>
        obtain ⟨cause,hcause,hlink⟩ := hbest before x links (List.cons.inj hsplit).2
        exact hlink.cause hcause
    · obtain ⟨cause,hcause,hlink⟩ := hbest before x links hsplit
      exact hlink.cause hcause

/-- The links above the one of a stage that is nearest to the root. -/
def linksOver (s : TraceStage) (l : Lineage) : Lineage :=
  (l.reverse.takeWhile fun link => link.stage ≠ s).reverse

lemma rootmost_eq_some {s : TraceStage} {x : Link} (h : rootmost s l = some x) :
    x.stage = s ∧ (∀ y ∈ linksOver s l, y.stage ≠ s) ∧ ∃ before, l = before ++ x :: linksOver s l := by
  obtain ⟨hx,before,after,hsplit,hnone⟩ := List.find?_eq_some_iff_append.mp h
  simp only [Bool.not_eq_eq_eq_not,Bool.not_true,decide_eq_false_iff_not] at hnone
  have hx : x.stage = s := by simpa using hx
  have hover : linksOver s l = before.reverse := by
    unfold linksOver
    rw [hsplit,List.takeWhile_append_of_pos (by simpa using hnone),List.takeWhile_cons_of_neg (by simp [hx]),
      List.append_nil]
  refine ⟨hx,?_,after.reverse,?_⟩
  · intro y hy
    rw [hover,List.mem_reverse] at hy
    exact hnone y hy
  · rw [hover,← List.reverse_reverse l,hsplit]
    simp

lemma rootmost_append_of_mem {s : TraceStage} {before after : Lineage}
    (h : ∃ link ∈ after, link.stage = s) : rootmost s (before ++ after) = rootmost s after := by
  obtain ⟨x,-,-,hx⟩ := rootmost_isSome h
  unfold rootmost at hx ⊢
  rw [List.reverse_append,List.find?_append,hx]
  rfl

lemma request_eq_some {x : Link} (h : l.request = some x) :
    x.stage = .request ∧ ∃ before rest, l = before ++ x :: rest ∧ ∀ y ∈ before, y.stage ≠ .request := by
  obtain ⟨hx,before,rest,hsplit,hnone⟩ := List.find?_eq_some_iff_append.mp h
  exact ⟨by simpa using hx,before,rest,hsplit,by simpa using hnone⟩

/-- A link that needs a stage above it descends from the first link of that stage. -/
lemma Traces.rootmost_descends (h : Traces items given id l) {s t : TraceStage} (hs : s ≠ .none)
    (hrequest : s.rank ≤ TraceStage.request.rank) (hfloor : s.rank ≤ floor t) {x y : Link}
    (hx : rootmost s l = some x) (hy : rootmost t l = some y) :
    TransGen (CauseOf items) x.id y.id := by
  obtain ⟨hstage,-,before,hsplit⟩ := rootmost_eq_some hy
  generalize linksOver t l = rest at hsplit
  have hlink := h.linkOf before y rest hsplit
  obtain ⟨fact,-,hown,-,hadmits⟩ := hlink.fact
  have hadmitted : rest.Admits fact := by
    by_cases hkind : fact.kind = .ingress
    · simp [Admits,hkind]
    · simpa [hkind] using hadmits
  have habove := hadmitted.floor_le
  rw [hown,hstage] at habove
  have hgrown : Grown rest := by
    have hall := hlink.traces.grown
    cases hall with
    | ingress => exact .root
    | link _ _ _ htail => exact htail
  obtain ⟨link,hmem,hlinkStage⟩ := hgrown.stages hs hrequest (hfloor.trans habove)
  have hroot : rootmost s l = rootmost s rest := by
    rw [hsplit,← List.singleton_append,← List.append_assoc]
    exact rootmost_append_of_mem ⟨link,hmem,hlinkStage⟩
  rw [hroot] at hx
  obtain ⟨-,-,before',hsplit'⟩ := rootmost_eq_some hx
  exact hlink.above x (by rw [hsplit']; simp)

end Lineage
end AytherRuntime.Trace
