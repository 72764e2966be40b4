import AytherRuntime.Trace.Log

/-! The orders in which the facts of a run can be published, and that each of them is reached by
some order of arrival. -/
namespace AytherRuntime.Trace
open Accumulator
variable {runId : String} {facts facts' : List Fact} {a : Accumulator} {log : List CompactId}

lemma consumed_perm (h : facts'.Perm facts) : consumed runId facts' = consumed runId facts := by
  ext pending
  simp [consumed,h.mem_iff]

lemma excluded_perm (h : facts'.Perm facts) : excluded runId facts' = excluded runId facts := by
  ext id
  simp [excluded,h.mem_iff]

lemma Accounted.perm (h : Accounted runId facts) (hperm : facts'.Perm facts) :
    Accounted runId facts' where
  readable := fun fact hfact => h.readable fact (hperm.mem_iff.mp hfact)
  disjoint := (hperm.flatMap_right _).nodup_iff.mpr h.disjoint
  gapless := by
    intro producer
    obtain ⟨last,hlast⟩ := h.gapless producer
    exact ⟨last,fun sequence => (hperm.flatMap_right _).mem_iff.trans (hlast sequence)⟩
  settled := by
    rw [consumed_perm hperm,excluded_perm hperm]
    exact h.settled

lemma Accumulator.Holds.perm (h : Holds a runId facts') (hperm : facts'.Perm facts) :
    Holds a runId facts where
  run := h.run
  waits := by
    rw [← consumed_perm hperm,← excluded_perm hperm]
    exact h.waits

/-- An order in which the facts of a run can be published: each of them once, after its causes. -/
structure Listing (runId : String) (facts : List Fact) (log : List CompactId) : Prop where
  nodup : log.Nodup
  mem : ∀ id, id ∈ log ↔ ∃ fact ∈ consumed runId facts, fact.id = id
  causal : ∀ before id after, log = before ++ id :: after → ∀ fact ∈ consumed runId facts,
    fact.id = id → ∀ cause ∈ fact.causes, cause ∈ excluded runId facts ∨ cause ∈ before

/-- Earlier in a listing is earlier in its positions. -/
lemma Listing.idxOf_lt (h : Listing runId facts log) {before after : List CompactId}
    {id earlier : CompactId} (hlog : log = before ++ id :: after) (hearlier : earlier ∈ before) :
    log.idxOf earlier < log.idxOf id := by
  have hnot : id ∉ before := by
    have hnodup := h.nodup
    rw [hlog,List.nodup_append'] at hnodup
    exact fun hid => List.disjoint_left.mp hnodup.2.2 hid (List.mem_cons_self ..)
  rw [hlog,List.idxOf_append_of_mem hearlier,List.idxOf_append_of_notMem hnot]
  exact (List.idxOf_lt_length_of_mem hearlier).trans_le (Nat.le_add_right _ _)

/-- What a run free of loss leaves, in any order of its facts: the log of their publication has all of them. -/
lemma lossFree_log {hash : HashOrder} (hperm : facts'.Perm facts)
    (h : (traceSummary hash runId facts' true).lossFree = true) :
    ∃ a log, a = (new runId).consumeAll hash facts' ∧ log = publicationOrder hash runId facts' ∧
      Holds a runId facts ∧ Traced a (consumed runId facts) (excluded runId facts) log ∧ Listing runId facts log := by
  obtain ⟨-,hvalid,-,hnil⟩ := summary_lossFree_iff.mp h
  obtain ⟨hholds,htraced⟩ := consumeAll_traced hash runId facts' hvalid
  replace hholds := hholds.perm hperm
  rw [consumed_perm hperm,excluded_perm hperm] at htraced
  refine ⟨_,_,rfl,rfl,hholds,htraced,⟨htraced.nodup,fun id => ⟨?_,?_⟩,htraced.causal⟩⟩
  · exact fun hid => consumed_of_mem_log hholds htraced hid
  · rintro ⟨fact,hfact,rfl⟩
    exact mem_log_of_consumed hholds htraced hnil hfact

lemma summary_connected {hash : HashOrder} (h : (traceSummary hash runId facts true).lossFree = true) :
    (traceSummary hash runId facts true).causallyConnected =
      ((new runId).consumeAll hash facts).complete.causallyConnected := by
  simp only [traceSummary,summarize] at h ⊢
  rw [h,Bool.true_and]

/-- The identity of an Engine fact. -/
def engineId (runId : String) (fact : Fact) : CompactId :=
  match reading runId fact with
  | .engine pending => pending.id
  | _ => {}

def isEngine (runId : String) (fact : Fact) : Bool :=
  match reading runId fact with
  | .engine _ => true
  | _ => false

lemma isEngine_iff {fact : Fact} :
    isEngine runId fact = true ↔ ∃ pending, reading runId fact = .engine pending := by
  unfold isEngine
  cases reading runId fact <;> simp

lemma engineId_eq {fact : Fact} {pending : PendingFact} (h : reading runId fact = .engine pending) :
    engineId runId fact = pending.id := by
  simp [engineId,h]

lemma consumeAll_append (hash : HashOrder) (a : Accumulator) (facts more : List Fact) :
    a.consumeAll hash (facts ++ more) = (a.consumeAll hash facts).consumeAll hash more :=
  List.foldl_append

lemma valid_of_append {hash : HashOrder} {a : Accumulator} {facts more : List Fact}
    (h : (a.consumeAll hash (facts ++ more)).valid = true) : (a.consumeAll hash facts).valid = true := by
  by_contra hinvalid
  rw [Bool.not_eq_true] at hinvalid
  rw [consumeAll_append,consumeAll_invalid hash hinvalid,hinvalid] at h
  cases h

/-- The Engine facts of a list, after facts that are all of other producers. -/
lemma mem_consumed_engines {others engines : List Fact}
    (hothers : ∀ fact ∈ others, isEngine runId fact = false) {pending : PendingFact} :
    pending ∈ consumed runId (others ++ engines) ↔
      ∃ fact ∈ engines, reading runId fact = .engine pending := by
  constructor
  · rintro ⟨fact,hfact,hreading⟩
    rcases List.mem_append.mp hfact with hfact | hfact
    · have hengine := isEngine_iff.mpr ⟨pending,hreading⟩
      rw [hothers fact hfact] at hengine
      cases hengine
    · exact ⟨fact,hfact,hreading⟩
  · rintro ⟨fact,hfact,hreading⟩
    exact ⟨fact,List.mem_append_right _ hfact,hreading⟩

/-- Facts that arrive after all their causes are published in their order of arrival. -/
lemma log_of_causal_order {hash : HashOrder} {others engines : List Fact}
    (hothers : ∀ fact ∈ others, isEngine runId fact = false)
    (hengines : ∀ fact ∈ engines, isEngine runId fact = true)
    (hvalid : ((new runId).consumeAll hash (others ++ engines)).valid = true)
    (hcauses : ∀ before fact after pending, engines = before ++ fact :: after →
      reading runId fact = .engine pending → ∀ cause ∈ pending.causes,
        cause ∈ excluded runId others ∨ ∃ earlier ∈ before, engineId runId earlier = cause) :
    Holds ((new runId).consumeAll hash (others ++ engines)) runId (others ++ engines) ∧
      Traced ((new runId).consumeAll hash (others ++ engines)) (consumed runId (others ++ engines))
        (excluded runId (others ++ engines)) (engines.map (engineId runId)) ∧
      ∀ pending ∈ consumed runId (others ++ engines), Settlement.Settles dependencies
        (consumed runId (others ++ engines)) (excluded runId (others ++ engines)) pending.id := by
  induction engines using List.reverseRecOn with
  | nil =>
    obtain ⟨hholds,htraced⟩ := consumeAll_traced hash runId _ hvalid
    generalize publicationOrder hash runId (others ++ []) = log at htraced
    have hnone : ∀ pending, pending ∉ consumed runId (others ++ []) := by
      intro pending hmem
      obtain ⟨fact,hfact,-⟩ := (mem_consumed_engines hothers).mp hmem
      cases hfact
    have hlog : log = [] := by
      rw [List.eq_nil_iff_forall_not_mem]
      intro id hid
      obtain ⟨fact,hfact,-⟩ := consumed_of_mem_log hholds htraced hid
      exact hnone fact hfact
    subst hlog
    exact ⟨hholds,htraced,fun pending hmem => absurd hmem (hnone pending)⟩
  | append_singleton engines fact ih =>
    have hassoc : others ++ (engines ++ [fact]) = (others ++ engines) ++ [fact] := by simp
    have hbefore := ih (fun f hf => hengines f (List.mem_append_left _ hf))
      (valid_of_append (hassoc ▸ hvalid)) fun before f after pending hsplit =>
        hcauses before f (after ++ [fact]) pending (by rw [hsplit]; simp)
    obtain ⟨hholdsOld,htracedOld,hsettlesOld⟩ := hbefore
    obtain ⟨pending,hreading⟩ := isEngine_iff.mp (hengines fact (by simp))
    have hlast : (new runId).consumeAll hash (others ++ (engines ++ [fact])) =
        ((new runId).consumeAll hash (others ++ engines)).consume hash fact := by
      rw [hassoc,consumeAll_append]
      rfl
    obtain ⟨hholds,-⟩ := consumeAll_traced hash runId _ hvalid
    rw [hlast] at hvalid hholds ⊢
    have htraced := htracedOld.consume hash hholdsOld hvalid
    rw [← hassoc] at htraced
    generalize Accumulator.publishedAt hash ((new runId).consumeAll hash (others ++ engines)) fact = tail at htraced
    have hold : consumed runId (others ++ engines) ⊆ consumed runId (others ++ (engines ++ [fact])) := by
      rw [hassoc,consumed_append]
      exact Set.subset_union_left
    have hgiven : excluded runId (others ++ engines) ⊆ excluded runId (others ++ (engines ++ [fact])) := by
      rw [hassoc,excluded_append]
      exact Set.subset_union_left
    have hgivenOthers : excluded runId others ⊆ excluded runId (others ++ engines) := by
      rintro id ⟨f,hf,hrest⟩
      exact ⟨f,List.mem_append_left _ hf,hrest⟩
    have hitems : ∀ other ∈ consumed runId (others ++ (engines ++ [fact])),
        other ∈ consumed runId (others ++ engines) ∨ other = pending := by
      intro other hother
      rw [hassoc,consumed_append] at hother
      rcases hother with hother | hother
      · exact Or.inl hother
      · exact Or.inr (Reading.engine.inj (hother.symm.trans hreading))
    have hmemNew : pending ∈ consumed runId (others ++ (engines ++ [fact])) :=
      ⟨fact,by simp,hreading⟩
    have hsettles : ∀ other ∈ consumed runId (others ++ (engines ++ [fact])),
        Settlement.Settles dependencies (consumed runId (others ++ (engines ++ [fact])))
          (excluded runId (others ++ (engines ++ [fact]))) other.id := by
      intro other hother
      rcases hitems other hother with hother | rfl
      · exact (hsettlesOld other hother).mono hold hgiven
      · refine .item hmemNew fun cause hcause => ?_
        rcases hcauses engines fact [] other rfl hreading cause hcause with hexcluded | ⟨earlier,he,rfl⟩
        · exact .given (hgiven (hgivenOthers hexcluded))
        · obtain ⟨p,hp⟩ := isEngine_iff.mp (hengines earlier (List.mem_append_left _ he))
          rw [engineId_eq hp]
          exact (hsettlesOld p ⟨earlier,List.mem_append_right _ he,hp⟩).mono hold hgiven
    have hnil := hholds.waits.unresolved_nil_iff.mpr hsettles
    -- The log had every earlier fact, so only the new one can have joined it.
    have htail : tail = [pending.id] := by
      have hnodup := htraced.nodup
      rw [List.nodup_append'] at hnodup
      have honly : ∀ id ∈ tail, id = pending.id := by
        intro id hid
        obtain ⟨other,hother,hsame⟩ := consumed_of_mem_log hholds htraced (List.mem_append_right _ hid)
        rcases hitems other hother with hother | rfl
        · have hnilOld := hholdsOld.waits.unresolved_nil_iff.mpr hsettlesOld
          have hmem := mem_log_of_consumed hholdsOld htracedOld hnilOld hother
          exact absurd hid (List.disjoint_left.mp hnodup.2.2 (hsame ▸ hmem))
        · exact hsame.symm
      have hin : pending.id ∈ tail := by
        have hmem := mem_log_of_consumed hholds htraced hnil hmemNew
        refine (List.mem_append.mp hmem).resolve_left fun hearlier => ?_
        obtain ⟨other,hother,hsame⟩ := consumed_of_mem_log hholdsOld htracedOld hearlier
        have hclaimed := (mem_claimed runId (others ++ engines) pending.id).mpr
          (Or.inl ⟨other,hother,hsame⟩)
        rcases hholdsOld.consume hash fact with ⟨-,-,hfree⟩ | ⟨hinvalid,-⟩
        · exact hfree pending.id (by simp [hreading,Reading.claims]) hclaimed
        · rw [hinvalid] at hvalid
          cases hvalid
      cases tail with
      | nil => cases hin
      | cons x tail =>
        obtain rfl := honly x (List.mem_cons_self ..)
        cases tail with
        | nil => rfl
        | cons y tail =>
          have hy := honly y (by simp)
          have hdup := hnodup.2.1
          simp [hy] at hdup
    refine ⟨hholds,?_,hsettles⟩
    rw [List.map_append,List.map_singleton,engineId_eq hreading,← htail]
    exact htraced

/-- The Engine facts of a run have identities of their own. -/
lemma engineIds_sublist (runId : String) (facts : List Fact) :
    ((facts.filter (isEngine runId)).map (engineId runId)).Sublist (claimed runId facts) := by
  induction facts with
  | nil => exact List.Sublist.refl _
  | cons fact facts ih =>
    rw [claimed,List.flatMap_cons]
    by_cases hengine : isEngine runId fact = true
    · obtain ⟨pending,hreading⟩ := isEngine_iff.mp hengine
      rw [List.filter_cons_of_pos hengine,List.map_cons,engineId_eq hreading,hreading]
      exact ih.cons_cons _
    · rw [List.filter_cons_of_neg hengine]
      exact ih.trans (List.sublist_append_right _ _)

lemma mem_consumed_iff {pending : PendingFact} : pending ∈ consumed runId facts ↔
    ∃ fact ∈ facts.filter (isEngine runId), reading runId fact = .engine pending := by
  simp only [consumed,Set.mem_ofPred_eq,List.mem_filter,isEngine_iff]
  constructor
  · rintro ⟨fact,hfact,hreading⟩
    exact ⟨fact,⟨hfact,pending,hreading⟩,hreading⟩
  · rintro ⟨fact,hfact,hreading⟩
    exact ⟨fact,hfact.1,hreading⟩

/-- The Engine facts of a run, in the order of a listing. -/
lemma Listing.exists_engines (hlisting : Listing runId facts log)
    (hdisjoint : (claimed runId facts).Nodup) : ∃ engines : List Fact,
      engines.Perm (facts.filter (isEngine runId)) ∧ engines.map (engineId runId) = log := by
  have hnodup := hdisjoint.sublist (engineIds_sublist runId facts)
  have hpick : ∀ ids : List CompactId, ids ⊆ log → ∃ engines : List Fact,
      engines ⊆ facts.filter (isEngine runId) ∧ engines.map (engineId runId) = ids := by
    intro ids
    induction ids with
    | nil => exact fun _ => ⟨[],List.nil_subset _,rfl⟩
    | cons id ids ih =>
      intro hids
      obtain ⟨engines,hengines,hmap⟩ := ih fun other hother => hids (List.mem_cons_of_mem _ hother)
      obtain ⟨pending,hpending,rfl⟩ := (hlisting.mem id).mp (hids (List.mem_cons_self ..))
      obtain ⟨fact,hfact,hreading⟩ := mem_consumed_iff.mp hpending
      exact ⟨fact :: engines,List.cons_subset.mpr ⟨hfact,hengines⟩,
        by rw [List.map_cons,hmap,engineId_eq hreading]⟩
  obtain ⟨engines,hengines,hmap⟩ := hpick log (List.Subset.refl _)
  refine ⟨engines,(List.perm_ext_iff_of_nodup ?_ hnodup.of_map).mpr fun fact => ⟨?_,?_⟩,hmap⟩
  · exact List.Nodup.of_map (engineId runId) (hmap.symm ▸ hlisting.nodup)
  · exact fun hfact => hengines hfact
  · intro hfact
    obtain ⟨pending,hreading⟩ := isEngine_iff.mp (List.mem_filter.mp hfact).2
    have hmem : engineId runId fact ∈ engines.map (engineId runId) := by
      rw [hmap,hlisting.mem,engineId_eq hreading]
      exact ⟨pending,mem_consumed_iff.mpr ⟨fact,hfact,hreading⟩,rfl⟩
    obtain ⟨other,hother,hsame⟩ := List.mem_map.mp hmem
    exact List.inj_on_of_nodup_map hnodup (hengines hother) hfact hsame ▸ hother

/-- Every listing of the facts of a run is the log of some order of arrival. -/
lemma exists_arrival (haccounted : Accounted runId facts)
    (hrun : runId ≠ "" ∧ runId.utf8ByteSize ≤ maxIdentityBytes) (hlisting : Listing runId facts log) :
    ∃ facts' : List Fact, facts'.Perm facts ∧ ∀ hash,
      (traceSummary hash runId facts' true).lossFree = true ∧
        Holds ((new runId).consumeAll hash facts') runId facts ∧
        Traced ((new runId).consumeAll hash facts') (consumed runId facts) (excluded runId facts) log := by
  obtain ⟨engines,hperm,hmap⟩ := hlisting.exists_engines haccounted.disjoint
  generalize hothersEq : facts.filter (fun fact => !isEngine runId fact) = others
  have hall : (others ++ engines).Perm facts := by
    rw [← hothersEq]
    exact (hperm.append_left _).trans (List.perm_append_comm.trans
      (List.filter_append_perm (isEngine runId) facts))
  have hothers : ∀ fact ∈ others, isEngine runId fact = false := by
    intro fact hfact
    rw [← hothersEq] at hfact
    simpa using (List.mem_filter.mp hfact).2
  have hengines : ∀ fact ∈ engines, isEngine runId fact = true :=
    fun fact hfact => (List.mem_filter.mp (hperm.mem_iff.mp hfact)).2
  have hexcluded : excluded runId others = excluded runId facts := by
    rw [← excluded_perm hall]
    ext id
    constructor
    · rintro ⟨fact,hfact,hrest⟩
      exact ⟨fact,List.mem_append_left _ hfact,hrest⟩
    · rintro ⟨fact,hfact,first,last,hreading,hrest⟩
      rcases List.mem_append.mp hfact with hfact | hfact
      · exact ⟨fact,hfact,first,last,hreading,hrest⟩
      · obtain ⟨pending,hp⟩ := isEngine_iff.mp (hengines fact hfact)
        rw [hreading] at hp
        cases hp
  have hcauses : ∀ before fact after pending, engines = before ++ fact :: after →
      reading runId fact = .engine pending → ∀ cause ∈ pending.causes,
        cause ∈ excluded runId others ∨ ∃ earlier ∈ before, engineId runId earlier = cause := by
    intro before fact after pending hsplit hreading cause hcause
    have hfact : fact ∈ facts.filter (isEngine runId) := hperm.mem_iff.mp (by rw [hsplit]; simp)
    have hpending : pending ∈ consumed runId facts := mem_consumed_iff.mpr ⟨fact,hfact,hreading⟩
    have hlog : log = before.map (engineId runId) ++ pending.id :: after.map (engineId runId) := by
      rw [← hmap,hsplit,List.map_append,List.map_cons,engineId_eq hreading]
    rw [hexcluded]
    exact (hlisting.causal _ _ _ hlog pending hpending rfl cause hcause).imp_right
      fun hbefore => List.mem_map.mp hbefore
  refine ⟨others ++ engines,hall,fun hash => ?_⟩
  have hloss : (traceSummary hash runId (others ++ engines) true).lossFree = true :=
    summary_lossFree_iff.mpr
      ⟨rfl,(consumeAll_complete_iff hash runId _).mpr ⟨hrun,haccounted.perm hall⟩⟩
  obtain ⟨hholds,htraced,-⟩ :=
    log_of_causal_order hothers hengines (summary_lossFree_iff.mp hloss).2.1 hcauses
  rw [consumed_perm hall,excluded_perm hall,hmap] at htraced
  exact ⟨hloss,hholds.perm hall,htraced⟩

end AytherRuntime.Trace
