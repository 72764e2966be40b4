import AytherRuntime.Trace.Chains

/-! What the accumulator has published: a log of identities in causal order, the first effect and
mix of each request in that log, and the verdict these give. -/
namespace AytherRuntime.Trace

section Walk

/-- The link of a stage nearest to the root. -/
def Lineage.rootmost (s : TraceStage) (l : Lineage) : Option Link :=
  l.reverse.find? fun link => link.stage = s

def rememberLink (complete : ReplayTraceSummary) (link : Link) : ReplayTraceSummary :=
  match link.stage with
  | .ingress => { complete with ingress := link.id }
  | .candidate => { complete with candidate := link.id }
  | .selection => { complete with selection := link.id }
  | .request => { complete with playbackRequest := link.id, occurrence := link.occurrence }
  | .decision => { complete with playbackDecision := link.id }
  | .effect => { complete with playbackEffect := link.id }
  | .none | .mix => complete

open Lineage

lemma rootmost_cons (s : TraceStage) (link : Link) (l : Lineage) :
    rootmost s (link :: l) = (rootmost s l).or (if link.stage = s then some link else none) := by
  unfold rootmost
  rw [List.reverse_cons,List.find?_append]
  by_cases h : link.stage = s <;> simp [h]

/-- The walk towards the root keeps, of each stage, the link nearest to the root. -/
lemma foldl_rememberLink (l : Lineage) (complete : ReplayTraceSummary) :
    l.foldl rememberLink complete = { complete with
      ingress := ((rootmost .ingress l).map Link.id).getD complete.ingress
      candidate := ((rootmost .candidate l).map Link.id).getD complete.candidate
      selection := ((rootmost .selection l).map Link.id).getD complete.selection
      playbackRequest := ((rootmost .request l).map Link.id).getD complete.playbackRequest
      playbackDecision := ((rootmost .decision l).map Link.id).getD complete.playbackDecision
      playbackEffect := ((rootmost .effect l).map Link.id).getD complete.playbackEffect
      occurrence := ((rootmost .request l).map Link.occurrence).getD complete.occurrence } := by
  induction l generalizing complete with
  | nil => rfl
  | cons link l ih =>
    rw [List.foldl_cons,ih]
    simp only [rootmost_cons]
    have hor : ∀ (s : TraceStage) (f : Link → CompactId) (d : CompactId),
        (((rootmost s l).or (if link.stage = s then some link else none)).map f).getD d =
          ((rootmost s l).map f).getD (if link.stage = s then f link else d) := by
      intro s f d
      cases rootmost s l with
      | none => by_cases h : link.stage = s <;> simp [h]
      | some other => simp
    have hocc : ∀ d : ℕ, (((rootmost .request l).or
        (if link.stage = .request then some link else none)).map Link.occurrence).getD d =
          ((rootmost .request l).map Link.occurrence).getD
            (if link.stage = .request then link.occurrence else d) := by
      intro d
      cases rootmost .request l with
      | none => by_cases h : link.stage = .request <;> simp [h]
      | some other => simp
    simp only [hor,hocc]
    unfold rememberLink
    cases hstage : link.stage <;> simp

/-- The summary names the root-most stages of a lineage, and a mix. -/
structure Reports (complete : ReplayTraceSummary) (l : Lineage) (mix : CompactId) : Prop where
  ingress : (rootmost .ingress l).map Link.id = some complete.ingress
  candidate : (rootmost .candidate l).map Link.id = some complete.candidate
  selection : (rootmost .selection l).map Link.id = some complete.selection
  request : (rootmost .request l).map Link.id = some complete.playbackRequest
  decision : (rootmost .decision l).map Link.id = some complete.playbackDecision
  effect : (rootmost .effect l).map Link.id = some complete.playbackEffect
  occurrence : (rootmost .request l).map Link.occurrence = some complete.occurrence
  mix : complete.mixSpan = mix

lemma rootmost_isSome {s : TraceStage} {l : Lineage} (h : ∃ link ∈ l, link.stage = s) :
    ∃ link ∈ l, link.stage = s ∧ rootmost s l = some link := by
  obtain ⟨link,hlink,hs⟩ := h
  have hsome : (rootmost s l).isSome := by
    rw [rootmost,List.find?_isSome]
    exact ⟨link,List.mem_reverse.mpr hlink,by simpa using hs⟩
  obtain ⟨found,hfound⟩ := Option.isSome_iff_exists.mp hsome
  refine ⟨found,List.mem_reverse.mp (List.mem_of_find?_eq_some hfound),?_,hfound⟩
  simpa using List.find?_some hfound

/-- A walk over a lineage with every stage reports it. -/
lemma walk_reports {l : Lineage} (hfound : ∀ s : TraceStage, s ≠ .none → s ≠ .mix →
    ∃ link ∈ l, link.stage = s ∧ rootmost s l = some link) (complete : ReplayTraceSummary)
    (mix : CompactId) (connected : Bool) :
    Reports { l.foldl rememberLink complete with mixSpan := mix, causallyConnected := connected }
      l mix := by
  rw [foldl_rememberLink]
  obtain ⟨l₁,-,-,h₁⟩ := hfound .ingress (by simp) (by simp)
  obtain ⟨l₂,-,-,h₂⟩ := hfound .candidate (by simp) (by simp)
  obtain ⟨l₃,-,-,h₃⟩ := hfound .selection (by simp) (by simp)
  obtain ⟨l₄,-,-,h₄⟩ := hfound .request (by simp) (by simp)
  obtain ⟨l₅,-,-,h₅⟩ := hfound .decision (by simp) (by simp)
  obtain ⟨l₆,-,-,h₆⟩ := hfound .effect (by simp) (by simp)
  constructor <;> simp [h₁,h₂,h₃,h₄,h₅,h₆]

lemma Lineage.Grown.request_occurrence {l : Lineage} (h : Grown l) :
    ∀ link ∈ l, link.stage = .request → link.occurrence ≠ 0 := by
  induction h with
  | root => simp
  | ingress fact kind => simp [own,kind]
  | @link l fact kind admitted tail ih =>
    intro link hlink hs
    rcases List.mem_cons.mp hlink with rfl | hlink
    · unfold own at hs ⊢
      unfold Admits at admitted
      cases hkind : fact.kind <;> simp only [hkind,reduceCtorEq] at hs admitted ⊢
      exact admitted.2
    · exact ih link hlink hs

/-- A lineage with a decision, under an effect, has every stage that a complete chain names. -/
lemma Lineage.Grown.complete {l : Lineage} (h : Grown l) (heffect : l.stage = .effect)
    (hdecision : l.hasDecision = true) {s : TraceStage} (hs : s ≠ .none) (hmix : s ≠ .mix) :
    ∃ link ∈ l, link.stage = s := by
  have hrank : l.stage.rank = 6 := by rw [heffect]; rfl
  cases s with
  | none => exact absurd rfl hs
  | mix => exact absurd rfl hmix
  | decision => simpa [hasDecision] using hdecision
  | effect =>
    cases l with
    | nil => simp [stage] at heffect
    | cons link l => exact ⟨link,List.mem_cons_self ..,by simpa [stage] using heffect⟩
  | ingress | candidate | selection | request =>
    exact h.stages hs (by simp [TraceStage.rank]) (by rw [hrank]; simp [TraceStage.rank])

end Walk

namespace Accumulator
open Lineage
variable {a : Accumulator} {items : Set PendingFact} {given : Set CompactId} {log : List CompactId}

/-- The token of a published identity. -/
def value (a : Accumulator) (id : CompactId) : ℕ :=
  match a.slot id with
  | .chain value => value
  | _ => 0

/-- The token is of this stage and belongs to this request. -/
def isStage (a : Accumulator) (s : TraceStage) (request token : ℕ) : Bool :=
  (a.chainAt token).stage = s ∧ (a.chainAt token).requestToken = request

/-- A request is complete in a log: it has a mix, and a decision over its first effect. -/
structure Complete (a : Accumulator) (log : List CompactId) (r effect mix : ℕ) : Prop where
  request : r ≠ 0
  played : (log.map a.value).find? (a.isStage .effect r) = some effect
  mixed : (log.map a.value).find? (a.isStage .mix r) = some mix
  decided : (a.lineage effect).hasDecision = true

/-- The request that is complete in the shortest part of a log where one is. -/
def FirstComplete (a : Accumulator) (log : List CompactId) (r effect mix : ℕ) : Prop :=
  ∃ before last after, log = before ++ last :: after ∧
    a.Complete (before ++ [last]) r effect mix ∧ ∀ r effect mix, ¬a.Complete before r effect mix

/-- The verdict agrees with the log: it is reached exactly when a request is complete, and it names
the lineage of the first one. -/
structure Judged (a : Accumulator) (log : List CompactId) : Prop where
  connected : a.complete.causallyConnected = true → ∃ r effect mix,
    a.FirstComplete log r effect mix ∧ Reports a.complete (a.lineage effect) (a.chainAt mix).id
  pending : a.complete.causallyConnected = false → a.complete.playbackDecision = {} ∧
    ∀ r effect mix, ¬a.Complete log r effect mix

lemma Complete.append {r effect mix : ℕ} (h : a.Complete log r effect mix) (more : List CompactId) :
    a.Complete (log ++ more) r effect mix where
  request := h.request
  played := by rw [List.map_append,List.find?_append,h.played]; rfl
  mixed := by rw [List.map_append,List.find?_append,h.mixed]; rfl
  decided := h.decided

lemma Complete.congr {b : Accumulator} {r effect mix : ℕ} (h : b.Complete log r effect mix)
    (hchains : b.chains = a.chains) (htokens : b.tokens = a.tokens) :
    a.Complete log r effect mix := by
  cases a
  cases b
  dsimp only at hchains htokens
  subst hchains htokens
  exact ⟨h.request,h.played,h.mixed,h.decided⟩

lemma FirstComplete.complete {r effect mix : ℕ} (h : a.FirstComplete log r effect mix) :
    a.Complete log r effect mix := by
  obtain ⟨before,last,after,rfl,hcomplete,-⟩ := h
  simpa using hcomplete.append after

/-- The chains, the table, the first effects and the first mixes, against a log of what has been
published. -/
structure Published (a : Accumulator) (items : Set PendingFact) (given : Set CompactId)
    (log : List CompactId) : Prop where
  ordered : Ordered a.chains
  requests : ∀ token, token ≠ 0 → token < a.chains.length →
    (a.chainAt token).requestToken = a.requestAncestor token
  owners : ∀ token, token ≠ 0 → token < a.chains.length →
    (a.chainAt token).id.Valid ∧ a.slot (a.chainAt token).id = .chain token
  tokens : ∀ (id : CompactId) token, id.Valid → a.slot id = .chain token →
    token < a.chains.length ∧ Traces items given id (a.lineage token)
  logged : ∀ id, id ∈ log ↔ id.Valid ∧ ∃ token, a.slot id = .chain token
  nodup : log.Nodup
  causal : ∀ before id after, log = before ++ id :: after → ∀ fact ∈ items, fact.id = id →
    ∀ cause ∈ fact.causes, cause ∈ given ∨ cause ∈ before
  effects : ∀ r, r ≠ 0 → a.effects r = (log.map a.value).find? (a.isStage .effect r)
  mixes : ∀ r, r ≠ 0 → a.mixes r = (log.map a.value).find? (a.isStage .mix r)

lemma value_eq {id : CompactId} {token : ℕ} (h : a.slot id = .chain token) : a.value id = token := by
  simp [value,h]

lemma value_congr {b : Accumulator} (h : Published a items given log)
    (hslots : ∀ id ∈ log, ∀ token, a.slot id = .chain token → b.slot id = .chain token) :
    log.map b.value = log.map a.value := by
  refine List.map_congr_left fun id hid => ?_
  obtain ⟨-,token,htoken⟩ := (h.logged id).mp hid
  rw [value_eq htoken,value_eq (hslots id hid token htoken)]

/-- Slots and facts that are not published may change. -/
lemma Published.congr {b : Accumulator} {items' : Set PendingFact} {given' : Set CompactId}
    (h : Published a items given log) (hchains : b.chains = a.chains)
    (heffects : b.effects = a.effects) (hmixes : b.mixes = a.mixes)
    (hslots : ∀ id : CompactId, id.Valid → ∀ token, b.slot id = .chain token ↔ a.slot id = .chain token)
    (hitems : items ⊆ items') (hgiven : given ⊆ given')
    (hnew : ∀ fact ∈ items', fact.id ∈ log → fact ∈ items) : Published b items' given' log := by
  have hchainAt : b.chainAt = a.chainAt := by unfold chainAt; rw [hchains]
  have hlineage : b.lineage = a.lineage := by unfold lineage; rw [hchains,hchainAt]
  have hrequest : b.requestAncestor = a.requestAncestor := by
    unfold requestAncestor; rw [hchains,hchainAt]
  have hstage : b.isStage = a.isStage := by unfold isStage; rw [hchainAt]
  have hvalues : log.map b.value = log.map a.value :=
    value_congr h fun id hid token htoken => (hslots id ((h.logged id).mp hid).1 token).mpr htoken
  refine ⟨hchains ▸ h.ordered,?_,?_,?_,?_,h.nodup,?_,?_,?_⟩
  · rw [hchains,hchainAt,hrequest]
    exact h.requests
  · rw [hchains,hchainAt]
    intro token hpos hin
    obtain ⟨hvalid,howner⟩ := h.owners token hpos hin
    exact ⟨hvalid,(hslots _ hvalid token).mpr howner⟩
  · rw [hchains,hlineage]
    intro id token hvalid htoken
    obtain ⟨hin,htraces⟩ := h.tokens id token hvalid ((hslots id hvalid token).mp htoken)
    exact ⟨hin,htraces.mono hitems hgiven⟩
  · intro id
    rw [h.logged id]
    exact and_congr_right fun hvalid => exists_congr fun token => (hslots id hvalid token).symm
  · intro before id after hlog fact hfact hid cause hcause
    have hmem : fact.id ∈ log := by rw [hlog,hid]; simp
    exact (h.causal before id after hlog fact (hnew fact hfact hmem) hid cause hcause).imp_left
      (hgiven ·)
  · intro r hr
    rw [heffects,hvalues,hstage,h.effects r hr]
  · intro r hr
    rw [hmixes,hvalues,hstage,h.mixes r hr]

/-- What a first effect or mix is: a published token of its stage and request. -/
lemma Published.first_spec (h : Published a items given log) {s : TraceStage} (hs : s ≠ .none)
    {r token : ℕ} (hfirst : (log.map a.value).find? (a.isStage s r) = some token) :
    token ≠ 0 ∧ token < a.chains.length ∧ (a.chainAt token).stage = s ∧
      (a.chainAt token).requestToken = r ∧ Grown (a.lineage token) := by
  obtain ⟨id,hid,hvalue⟩ := List.mem_map.mp (List.mem_of_find?_eq_some hfirst)
  obtain ⟨hvalid,other,hother⟩ := (h.logged id).mp hid
  obtain rfl : token = other := hvalue.symm.trans (value_eq hother)
  obtain ⟨hin,htraces⟩ := h.tokens id token hvalid hother
  have hstage : (a.chainAt token).stage = s ∧ (a.chainAt token).requestToken = r := by
    simpa [isStage] using List.find?_some hfirst
  refine ⟨?_,hin,hstage.1,hstage.2,htraces.grown⟩
  rintro rfl
  rw [chainAt_eq h.ordered.root] at hstage
  exact hs hstage.1.symm

/-- Every link of a token's lineage is a chain of the table. -/
lemma mem_lineage (h : Ordered a.chains) {token : ℕ} (hin : token < a.chains.length) {l : Link}
    (hl : l ∈ a.lineage token) : ∃ t, t ≠ 0 ∧ t < a.chains.length ∧ l = link (a.chainAt t) := by
  obtain ⟨t,ht,rfl⟩ := List.mem_map.mp hl
  refine ⟨t,?_,(mem_upward_le ht).trans_lt hin,rfl⟩
  clear hl
  induction token using Nat.strong_induction_on with
  | _ token ih =>
    by_cases hpos : token = 0
    · subst hpos; simp at ht
    · rw [upward_succ h hpos hin] at ht
      have hparent := parent_lt h hpos hin
      rcases List.mem_cons.mp ht with rfl | ht
      · exact hpos
      · exact ih _ hparent (hparent.trans hin) ht

lemma Published.link_valid (h : Published a items given log) {token : ℕ}
    (hin : token < a.chains.length) {l : Link} (hl : l ∈ a.lineage token) : l.id.Valid := by
  obtain ⟨t,hpos,ht,rfl⟩ := mem_lineage h.ordered hin hl
  exact (h.owners t hpos ht).1

lemma walk_eq (token : ℕ) (complete : ReplayTraceSummary) :
    (upward a.chains token).foldl a.remember complete = (a.lineage token).foldl rememberLink complete := by
  unfold lineage
  rw [List.foldl_map]
  rfl

/-- Trying the request of the last entry: the verdict is reached exactly when it is complete. -/
lemma Published.rememberComplete {last : CompactId} (h : Published a items given (log ++ [last]))
    {r : ℕ} (hr : r ≠ 0)
    (hconnected : a.complete.causallyConnected = true → a.Judged (log ++ [last]))
    (hpending : a.complete.causallyConnected = false → a.complete.playbackDecision = {} ∧
      (∀ other effect mix, ¬a.Complete log other effect mix) ∧
      ∀ other effect mix, other ≠ r → ¬a.Complete (log ++ [last]) other effect mix) :
    (a.rememberComplete r).Judged (log ++ [last]) := by
  unfold Accumulator.rememberComplete
  split_ifs with hdone
  · exact hconnected hdone
  obtain ⟨hdecision,hbefore,hothers⟩ := hpending (by simpa using hdone)
  split
  · rename_i effect mix heffect hmix
    rw [h.effects r hr] at heffect
    rw [h.mixes r hr] at hmix
    obtain ⟨-,hin,hstage,-,hgrown⟩ := h.first_spec (by simp) heffect
    have hmixSpec := h.first_spec (by simp) hmix
    have hmixId := (h.owners mix hmixSpec.1 hmixSpec.2.1).1
    rw [walk_eq]
    cases hhas : (a.lineage effect).hasDecision with
    | true =>
      have hlineageStage : (a.lineage effect).stage = .effect := by
        rw [lineage_stage h.ordered hin,hstage]
      have hfound : ∀ s : TraceStage, s ≠ .none → s ≠ .mix → ∃ l ∈ a.lineage effect,
          l.stage = s ∧ rootmost s (a.lineage effect) = some l := fun s hs hm =>
        rootmost_isSome (hgrown.complete hlineageStage hhas hs hm)
      have hreports := walk_reports hfound a.complete (a.chainAt mix).id
      have hset : ∀ s : TraceStage, s ≠ .none → s ≠ .mix → ∀ id : CompactId,
          (rootmost s (a.lineage effect)).map Link.id = some id → id.producer ≠ 0 := by
        intro s hs hm id hid
        obtain ⟨l,hl,-,hroot⟩ := hfound s hs hm
        rw [hroot,Option.map_some,Option.some.injEq] at hid
        exact hid ▸ Nat.one_le_iff_ne_zero.mp (h.link_valid hin hl).1
      have hoccurrence : ∀ n, (rootmost .request (a.lineage effect)).map Link.occurrence = some n →
          n ≠ 0 := by
        intro n hn
        obtain ⟨l,hl,hs,hroot⟩ := hfound .request (by simp) (by simp)
        rw [hroot,Option.map_some,Option.some.injEq] at hn
        exact hn ▸ hgrown.request_occurrence l hl hs
      have hall := hreports true
      refine ⟨fun _ => ⟨r,effect,mix,⟨log,last,[],rfl,⟨hr,heffect,hmix,hhas⟩,
          fun other effect mix hdone => hbefore other effect mix (hdone.congr rfl rfl)⟩,hreports _⟩,
        fun hfalse => absurd hfalse ?_⟩
      rw [Bool.not_eq_false]
      exact decide_eq_true ⟨hoccurrence _ hall.occurrence,hset _ (by simp) (by simp) _ hall.ingress,
        hset _ (by simp) (by simp) _ hall.candidate,hset _ (by simp) (by simp) _ hall.selection,
        hset _ (by simp) (by simp) _ hall.request,hset _ (by simp) (by simp) _ hall.decision,
        hset _ (by simp) (by simp) _ hall.effect,Nat.one_le_iff_ne_zero.mp hmixId.1⟩
    | false =>
      have hnone : rootmost .decision (a.lineage effect) = none := by
        rw [rootmost,List.find?_eq_none]
        intro l hl
        have := List.any_eq_false.mp hhas l (List.mem_reverse.mp hl)
        simpa using this
      rw [foldl_rememberLink]
      refine ⟨fun htrue => absurd htrue (by simp [hnone,hdecision]),fun _ => ⟨?_,?_⟩⟩
      · simp [hnone,hdecision]
      · intro other effect' mix' hcomplete
        by_cases hsame : other = r
        · subst hsame
          obtain rfl : effect = effect' := Option.some.inj (heffect.symm.trans hcomplete.played)
          exact absurd hcomplete.decided (ne_true_of_eq_false hhas)
        · exact hothers other effect' mix' hsame (hcomplete.congr rfl rfl)
  · rename_i hnone
    refine ⟨fun htrue => absurd htrue hdone,fun _ => ⟨hdecision,?_⟩⟩
    intro other effect mix hcomplete
    by_cases hsame : other = r
    · subst hsame
      exact hnone effect mix ((h.effects other hr).trans hcomplete.played)
        ((h.mixes other hr).trans hcomplete.mixed)
    · exact hothers other effect mix hsame hcomplete

lemma registerStage_effects {r : ℕ} (hr : r ≠ 0) (token : ℕ) :
    (a.registerStage token).effects r =
      (a.effects r).or (if a.isStage .effect r token then some token else none) := by
  unfold registerStage isStage
  by_cases hrequest : (a.chainAt token).requestToken = r
  · rw [hrequest]
    cases (a.chainAt token).stage <;> simp [hr]
  · dsimp only
    split
    · simp [hrequest]
    · split <;> simp [hrequest,Function.update_of_ne (Ne.symm hrequest)]

lemma registerStage_mixes {r : ℕ} (hr : r ≠ 0) (token : ℕ) :
    (a.registerStage token).mixes r =
      (a.mixes r).or (if a.isStage .mix r token then some token else none) := by
  unfold registerStage isStage
  by_cases hrequest : (a.chainAt token).requestToken = r
  · rw [hrequest]
    cases (a.chainAt token).stage <;> simp [hr]
  · dsimp only
    split
    · simp [hrequest]
    · split <;> simp [hrequest,Function.update_of_ne (Ne.symm hrequest)]

lemma registerStage_complete (token : ℕ) : (a.registerStage token).complete = a.complete := by
  rw [registerStage_eq]

/-- A published fact joins the end of the log. -/
lemma Published.publish {ready : List PendingFact} {current : PendingFact}
    (h : Published a items given log) (hwaits : Waits a (current :: ready) [] items given)
    (hready : a.allCausesResolved current = true) {b : Accumulator} {token : ℕ}
    (hresolves : Resolves a current b token) (htokens : b.tokens = a.tokens)
    (heffects : b.effects = a.effects) (hmixes : b.mixes = a.mixes) :
    Published ((b.setSlot current.id (.chain token)).registerStage token) items given
        (log ++ [current.id]) ∧
      (∀ id ∈ log, ∀ t, a.slot id = .chain t →
        ((b.setSlot current.id (.chain token)).registerStage token).slot id = .chain t) ∧
      ((b.setSlot current.id (.chain token)).registerStage token).value current.id = token := by
  obtain ⟨hitem,hslot⟩ := hwaits.pending current (List.mem_cons_self ..)
  have hid := (hwaits.identities current hitem).1
  have hknown : ∀ cause ∈ current.causes, a.token cause ≠ none := by
    simpa [allCausesResolved,Option.isSome_iff_ne_none] using hready
  generalize hc : b.setSlot current.id (.chain token) = c
  have hcslot : ∀ id : CompactId, id.Valid →
      (c.registerStage token).slot id = if id = current.id then .chain token else a.slot id := by
    intro id hvalid
    have htable : current.id.sequence - 1 < (b.tokens current.id.producer).length := by
      rw [htokens]
      exact slot_in_table (by rw [hslot]; simp)
    have hset := slot_setSlot (.chain token) hid hvalid htable
    have hb : b.slot id = a.slot id := by unfold slot; rw [htokens]
    rw [hc,hb] at hset
    rw [registerStage_eq]
    exact hset
  have hchains : (c.registerStage token).chains = b.chains := by rw [registerStage_eq,← hc]; rfl
  have hchainAt : (c.registerStage token).chainAt = b.chainAt := by unfold chainAt; rw [hchains]
  have hlineage : (c.registerStage token).lineage = b.lineage := by
    unfold lineage; rw [hchains,hchainAt]
  have hrequest : (c.registerStage token).requestAncestor = b.requestAncestor := by
    unfold requestAncestor; rw [hchains,hchainAt]
  have hstage : (c.registerStage token).isStage = b.isStage := by unfold isStage; rw [hchainAt]
  have hcStage : c.isStage = b.isStage := by rw [← hc]; rfl
  have hnotLogged : current.id ∉ log := by
    intro hmem
    obtain ⟨-,other,hother⟩ := (h.logged current.id).mp hmem
    rw [hslot] at hother
    cases hother
  have hold : ∀ id ∈ log, ∀ t, a.slot id = .chain t → (c.registerStage token).slot id = .chain t := by
    intro id hmem t ht
    rw [hcslot id ((h.logged id).mp hmem).1,if_neg (fun hsame : id = current.id => hnotLogged (hsame ▸ hmem)),ht]
  have hvalues : (log ++ [current.id]).map (c.registerStage token).value =
      log.map a.value ++ [token] := by
    rw [List.map_append,value_congr h hold,List.map_singleton,
      value_eq (by rw [hcslot _ hid,if_pos rfl])]
  have hfirst : ∀ s r, (log.map a.value).find? (b.isStage s r) =
      (log.map a.value).find? (a.isStage s r) := by
    intro s r
    refine List.find?_congr fun t ht => ?_
    obtain ⟨id,hmem,rfl⟩ := List.mem_map.mp ht
    obtain ⟨hvalid,other,hother⟩ := (h.logged id).mp hmem
    rw [value_eq hother]
    unfold isStage
    rw [hresolves.kept.chainAt _ (h.tokens id other hvalid hother).1]
  refine ⟨⟨hchains ▸ hresolves.kept.ordered,?_,?_,?_,?_,?_,?_,?_,?_⟩,hold,
    value_eq (by rw [hcslot _ hid,if_pos rfl])⟩
  · rw [hchains,hchainAt,hrequest]
    intro t hpos hin
    by_cases hlt : t < a.chains.length
    · rw [hresolves.kept.chainAt t hlt,hresolves.kept.requestAncestor hlt]
      exact h.requests t hpos hlt
    · obtain ⟨rfl,-,-,hreq⟩ := hresolves.added t hin (Nat.le_of_not_lt hlt)
      exact hreq
  · rw [hchains,hchainAt]
    intro t hpos hin
    by_cases hlt : t < a.chains.length
    · obtain ⟨hvalid,howner⟩ := h.owners t hpos hlt
      rw [hresolves.kept.chainAt t hlt]
      refine ⟨hvalid,?_⟩
      rw [hcslot _ hvalid,if_neg,howner]
      intro hsame
      rw [hsame,hslot] at howner
      cases howner
    · obtain ⟨rfl,-,howner,-⟩ := hresolves.added t hin (Nat.le_of_not_lt hlt)
      rw [howner]
      exact ⟨hid,by rw [hcslot _ hid,if_pos rfl]⟩
  · rw [hchains,hlineage]
    intro id t hvalid ht
    rw [hcslot id hvalid] at ht
    split_ifs at ht with hsame
    · cases ht
      subst hsame
      refine ⟨hresolves.inside,?_⟩
      rw [hresolves.lineage]
      refine .item hitem a.causeLineage fun cause hcause => ?_
      have hcv := (hwaits.identities current hitem).2 cause hcause
      have hsome := hknown cause hcause
      unfold causeLineage
      rw [Ne,token_eq_none_iff hcv,not_or] at hsome
      have hcond : ¬(cause.producer = 0 ∨ producerSlots < cause.producer ∨ cause.sequence = 0) := by
        obtain ⟨hp,hp',hs⟩ := hcv
        omega
      unfold Accumulator.token
      rw [if_neg hcond]
      cases hcslot : a.slot cause with
      | missing => exact absurd hcslot hsome.1
      | unresolved => exact absurd hcslot hsome.2
      | excluded =>
        simp only [Option.getD_some,lineage_zero]
        exact .given ((hwaits.excluded cause hcv).mp hcslot)
      | chain t => exact (h.tokens cause t hcv hcslot).2
    · obtain ⟨hin,htraces⟩ := h.tokens id t hvalid ht
      exact ⟨hin.trans_le hresolves.kept.length,by rw [hresolves.kept.lineage hin]; exact htraces⟩
  · intro id
    rw [List.mem_append,List.mem_singleton,h.logged id]
    constructor
    · rintro (⟨hvalid,t,ht⟩ | rfl)
      · refine ⟨hvalid,t,?_⟩
        rw [hcslot id hvalid,if_neg,ht]
        rintro rfl
        rw [hslot] at ht
        cases ht
      · exact ⟨hid,token,by rw [hcslot _ hid,if_pos rfl]⟩
    · rintro ⟨hvalid,t,ht⟩
      rw [hcslot id hvalid] at ht
      split_ifs at ht with hsame
      · exact Or.inr hsame
      · exact Or.inl ⟨hvalid,t,ht⟩
  · rw [List.nodup_append']
    exact ⟨h.nodup,List.nodup_singleton _,by simpa using hnotLogged⟩
  · intro before id after hlog fact hfact hsame cause hcause
    rcases List.eq_nil_or_concat after with rfl | ⟨rest,last,rfl⟩
    · obtain ⟨rfl,hlast⟩ := List.append_inj' hlog rfl
      obtain rfl : current.id = id := by simpa using hlast
      obtain rfl := hwaits.distinct.id fact hfact current hitem hsame
      have hcv := (hwaits.identities fact hfact).2 cause hcause
      have hsome := hknown cause hcause
      rw [Ne,token_eq_none_iff hcv,not_or] at hsome
      cases hcs : a.slot cause with
      | missing => exact absurd hcs hsome.1
      | unresolved => exact absurd hcs hsome.2
      | excluded => exact Or.inl ((hwaits.excluded cause hcv).mp hcs)
      | chain t => exact Or.inr ((h.logged cause).mpr ⟨hcv,t,hcs⟩)
    · have hstart : log = before ++ id :: rest := by
        have happend : log ++ [current.id] = (before ++ id :: rest) ++ [last] := by simpa using hlog
        exact (List.append_inj' happend rfl).1
      exact h.causal before id rest hstart fact hfact hsame cause hcause
  · intro r hr
    rw [registerStage_effects hr,hvalues,hstage,List.find?_append,hfirst,hcStage,← h.effects r hr,← hc]
    change (b.effects r).or _ = _
    rw [heffects]
    by_cases hown : b.isStage .effect r token <;> simp [hown]
  · intro r hr
    rw [registerStage_mixes hr,hvalues,hstage,List.find?_append,hfirst,hcStage,← h.mixes r hr,← hc]
    change (b.mixes r).or _ = _
    rw [hmixes]
    by_cases hown : b.isStage .mix r token <;> simp [hown]

lemma Extends.congr {b c : Accumulator} (h : Extends a b) (hchains : c.chains = b.chains) :
    Extends a c := by
  have hchainAt : c.chainAt = b.chainAt := by unfold Accumulator.chainAt; rw [hchains]
  exact ⟨hchains ▸ h.ordered,hchains ▸ h.length,hchainAt ▸ h.chainAt,hchains ▸ h.upward⟩

/-- A token of the log reads as before when the table grows. -/
lemma Published.complete_iff {b : Accumulator} (h : Published a items given log) (hkept : Extends a b)
    (hslots : ∀ id ∈ log, ∀ t, a.slot id = .chain t → b.slot id = .chain t)
    {part : List CompactId} (hpart : part ⊆ log) {r effect mix : ℕ} :
    b.Complete part r effect mix ↔ a.Complete part r effect mix := by
  have hvalue : ∀ id ∈ part, b.value id = a.value id ∧ a.value id < a.chains.length := by
    intro id hid
    obtain ⟨hvalid,token,htoken⟩ := (h.logged id).mp (hpart hid)
    rw [value_eq htoken,value_eq (hslots id (hpart hid) token htoken)]
    exact ⟨rfl,(h.tokens id token hvalid htoken).1⟩
  have hvalues : part.map b.value = part.map a.value :=
    List.map_congr_left fun id hid => (hvalue id hid).1
  have hin : ∀ token ∈ part.map a.value, token < a.chains.length := by
    intro token htoken
    obtain ⟨id,hid,rfl⟩ := List.mem_map.mp htoken
    exact (hvalue id hid).2
  have hfind : ∀ s, (part.map b.value).find? (b.isStage s r) =
      (part.map a.value).find? (a.isStage s r) := by
    intro s
    rw [hvalues]
    refine List.find?_congr fun token htoken => ?_
    unfold isStage
    rw [hkept.chainAt token (hin token htoken)]
  have hlineage : ∀ token, (part.map a.value).find? (a.isStage .effect r) = some token →
      b.lineage token = a.lineage token :=
    fun token htoken => hkept.lineage (hin token (List.mem_of_find?_eq_some htoken))
  constructor
  · intro hcomplete
    have heffect := (hfind .effect).symm.trans hcomplete.played
    exact ⟨hcomplete.request,heffect,(hfind .mix).symm.trans hcomplete.mixed,
      hlineage effect heffect ▸ hcomplete.decided⟩
  · intro hcomplete
    exact ⟨hcomplete.request,(hfind .effect).trans hcomplete.played,
      (hfind .mix).trans hcomplete.mixed,(hlineage effect hcomplete.played).symm ▸ hcomplete.decided⟩

/-- A published entry of another request completes nothing. -/
lemma Complete.of_append {last : CompactId} {r effect mix : ℕ}
    (hother : (a.chainAt (a.value last)).requestToken ≠ r)
    (h : a.Complete (log ++ [last]) r effect mix) : a.Complete log r effect mix := by
  have hstage : ∀ s, a.isStage s r (a.value last) = false := fun s => by simp [isStage,hother]
  have hfind : ∀ s, ((log ++ [last]).map a.value).find? (a.isStage s r) =
      (log.map a.value).find? (a.isStage s r) := by
    intro s
    rw [List.map_append,List.find?_append,List.map_singleton,List.find?_cons_of_neg
      (ne_true_of_eq_false (hstage s)),List.find?_nil,Option.or_none]
  exact ⟨h.request,(hfind .effect).symm.trans h.played,(hfind .mix).symm.trans h.mixed,h.decided⟩

/-- The published log and the verdict it gives. -/
structure Traced (a : Accumulator) (items : Set PendingFact) (given : Set CompactId)
    (log : List CompactId) : Prop extends Published a items given log where
  judged : a.Judged log

lemma Traced.congr {b : Accumulator} {items' : Set PendingFact} {given' : Set CompactId}
    (h : Traced a items given log) (hchains : b.chains = a.chains)
    (heffects : b.effects = a.effects) (hmixes : b.mixes = a.mixes)
    (hcomplete : b.complete = a.complete)
    (hslots : ∀ id : CompactId, id.Valid → ∀ token, b.slot id = .chain token ↔ a.slot id = .chain token)
    (hitems : items ⊆ items') (hgiven : given ⊆ given')
    (hnew : ∀ fact ∈ items', fact.id ∈ log → fact ∈ items) : Traced b items' given' log := by
  have hchainAt : b.chainAt = a.chainAt := by unfold chainAt; rw [hchains]
  have hlineage : b.lineage = a.lineage := by unfold lineage; rw [hchains,hchainAt]
  have hkept : Extends a b := (extends_refl h.ordered).congr hchains
  have hsame : ∀ {part : List CompactId}, part ⊆ log → ∀ {r effect mix},
      b.Complete part r effect mix ↔ a.Complete part r effect mix := fun hpart =>
    h.toPublished.complete_iff hkept
      (fun id hid t ht => (hslots id ((h.logged id).mp hid).1 t).mpr ht) hpart
  refine ⟨h.toPublished.congr hchains heffects hmixes hslots hitems hgiven hnew,?_,?_⟩
  · rw [hcomplete,hlineage,hchainAt]
    intro hconnected
    obtain ⟨r,effect,mix,hfirst,hreports⟩ := h.judged.connected hconnected
    obtain ⟨before,last,after,rfl,hdone,hnone⟩ := hfirst
    refine ⟨r,effect,mix,⟨before,last,after,rfl,?_,?_⟩,hreports⟩
    · exact (hsame (by intro id hid; simp at hid ⊢; tauto)).mpr hdone
    · exact fun r effect mix hearlier => hnone r effect mix
        ((hsame (List.subset_append_left ..)).mp hearlier)
  · rw [hcomplete]
    intro hpending
    obtain ⟨hdecision,hnone⟩ := h.judged.pending hpending
    exact ⟨hdecision,fun r effect mix hdone => hnone r effect mix ((hsame (List.Subset.refl _)).mp hdone)⟩

/-- Releasing dependents changes nothing that is published. -/
lemma foldl_release_frame (causes : List CompactId) (state : Accumulator × List PendingFact) :
    ∃ unresolved waiting, (causes.foldl release state).1 = { state.1 with unresolved, waiting } := by
  have hone : ∀ (s : Accumulator × List PendingFact) (id : CompactId),
      ∃ unresolved, (releaseOne s id).1 = { s.1 with unresolved } := by
    intro s id
    unfold releaseOne
    split <;> exact ⟨_,rfl⟩
  have hids : ∀ (ids : List CompactId) (s : Accumulator × List PendingFact),
      ∃ unresolved, (ids.foldl releaseOne s).1 = { s.1 with unresolved } := by
    intro ids
    induction ids with
    | nil => exact fun s => ⟨s.1.unresolved,rfl⟩
    | cons id ids ih =>
      intro s
      obtain ⟨u,hu⟩ := hone s id
      obtain ⟨u',hu'⟩ := ih (releaseOne s id)
      exact ⟨u',by rw [List.foldl_cons,hu',hu]⟩
  induction causes generalizing state with
  | nil => exact ⟨state.1.unresolved,state.1.waiting,rfl⟩
  | cons cause causes ih =>
    obtain ⟨u,hu⟩ := hids (state.1.waiting cause) state
    obtain ⟨u',w',h'⟩ := ih (release state cause)
    refine ⟨u',w',?_⟩
    rw [List.foldl_cons,h']
    unfold release
    dsimp only
    rw [hu]

/-- Publishing a ready fact adds it to the log and keeps the verdict right. -/
lemma Traced.publish {ready : List PendingFact} {current : PendingFact}
    (h : Traced a items given log) (hwaits : Waits a (current :: ready) [] items given)
    (hready : a.allCausesResolved current = true) :
    Traced ((a.resolve current).1.publish current (a.resolve current).2 ready).1 items given
      (log ++ [current.id]) := by
  have hbound : ∀ cause ∈ current.causes, ∀ token, a.token cause = some token →
      token < a.chains.length := by
    intro cause hcause token htoken
    have hcv := (hwaits.identities current (hwaits.pending current (List.mem_cons_self ..)).1).2
      cause hcause
    unfold Accumulator.token at htoken
    split_ifs at htoken
    cases hslot : a.slot cause with
    | missing | unresolved => simp [hslot] at htoken
    | excluded =>
      simp only [hslot,Option.some.injEq] at htoken
      exact htoken ▸ h.ordered.length_pos
    | chain t =>
      simp only [hslot,Option.some.injEq] at htoken
      exact htoken ▸ (h.tokens cause t hcv hslot).1
  have hresolves := resolve_resolves h.ordered current hbound
  have hresolveEq := resolve_eq (a := a) current
  generalize (a.resolve current).1 = b at hresolves hresolveEq ⊢
  generalize (a.resolve current).2 = token at hresolves ⊢
  obtain ⟨hpublished,hslots,hvalue⟩ := h.toPublished.publish hwaits hready hresolves
    (by rw [hresolveEq]) (by rw [hresolveEq]) (by rw [hresolveEq])
  have hkept : Extends a ((b.setSlot current.id (.chain token)).registerStage token) :=
    hresolves.kept.congr (by rw [registerStage_eq]; rfl)
  have hcomplete : ((b.setSlot current.id (.chain token)).registerStage token).complete =
      a.complete := by
    rw [registerStage_complete]
    change b.complete = _
    rw [hresolveEq]
  have hrecorded : Traced ((b.setSlot current.id (.chain token)).recorded token) items given
      (log ++ [current.id]) := by
    have hunfold : (b.setSlot current.id (.chain token)).recorded token =
        if token = 0 then b.setSlot current.id (.chain token)
        else
          let d := (b.setSlot current.id (.chain token)).registerStage token
          if (d.chainAt token).requestToken = 0 then d
          else d.rememberComplete (d.chainAt token).requestToken := rfl
    have hzero : token = 0 → b.setSlot current.id (.chain token) =
          (b.setSlot current.id (.chain token)).registerStage token ∧
        (((b.setSlot current.id (.chain token)).registerStage token).chainAt token).requestToken = 0 := by
      intro hzero
      have hroot := hpublished.ordered.root
      have hchainAt : ((b.setSlot current.id (.chain token)).registerStage token).chainAt token =
          (b.setSlot current.id (.chain token)).chainAt token := by rw [registerStage_eq]; rfl
      have hnone : (((b.setSlot current.id (.chain token)).registerStage token).chainAt
          token).requestToken = 0 := by
        rw [hzero] at hroot ⊢
        rw [chainAt_eq hroot]
      refine ⟨?_,hnone⟩
      rw [hchainAt] at hnone
      unfold registerStage
      rw [hnone]
      rfl
    rw [hunfold]
    generalize (b.setSlot current.id (.chain token)).registerStage token = d at *
    have hsame : ∀ {part : List CompactId}, part ⊆ log → ∀ {r effect mix},
        d.Complete part r effect mix ↔ a.Complete part r effect mix :=
      fun hpart => h.toPublished.complete_iff hkept hslots hpart
    -- Nothing changes for a request that the new entry does not belong to.
    have hquiet : ∀ r effect mix, (d.chainAt token).requestToken ≠ r →
        d.Complete (log ++ [current.id]) r effect mix → a.Complete log r effect mix := by
      intro r effect mix hother hdone
      exact (hsame (List.Subset.refl _)).mp (hdone.of_append (by rw [hvalue]; exact hother))
    have hpersists : d.complete.causallyConnected = true → ∃ r effect mix,
        d.FirstComplete (log ++ [current.id]) r effect mix ∧
          Reports d.complete (d.lineage effect) (d.chainAt mix).id := by
      rw [hcomplete]
      intro hconnected
      obtain ⟨r,effect,mix,hfirst,hreports⟩ := h.judged.connected hconnected
      have heffect := (h.first_spec (by simp) hfirst.complete.played).2.1
      have hmix := (h.first_spec (by simp) hfirst.complete.mixed).2.1
      obtain ⟨before,last,after,hlog,hdone,hnone⟩ := hfirst
      refine ⟨r,effect,mix,⟨before,last,after ++ [current.id],by rw [hlog]; simp,?_,?_⟩,?_⟩
      · exact (hsame (by rw [hlog]; intro id hid; simp at hid ⊢; tauto)).mpr hdone
      · exact fun r effect mix hearlier => hnone r effect mix
          ((hsame (by rw [hlog]; exact List.subset_append_left ..)).mp hearlier)
      · rw [hkept.lineage heffect,hkept.chainAt mix hmix]
        exact hreports
    have hjudged : (d.chainAt token).requestToken = 0 → d.Judged (log ++ [current.id]) := by
      refine fun hrequest => ⟨hpersists,fun hpending => ?_⟩
      rw [hcomplete] at hpending ⊢
      obtain ⟨hdecision,hnone⟩ := h.judged.pending hpending
      exact ⟨hdecision,fun r effect mix hdone =>
        hnone r effect mix (hquiet r effect mix (hrequest ▸ hdone.request.symm) hdone)⟩
    dsimp only
    split_ifs with htoken hrequest
    · obtain ⟨hnothing,hnone⟩ := hzero htoken
      rw [hnothing]
      exact ⟨hpublished,hjudged hnone⟩
    · exact ⟨hpublished,hjudged hrequest⟩
    · refine ⟨?_,hpublished.rememberComplete hrequest (fun hdone => ⟨hpersists,?_⟩) ?_⟩
      · rw [rememberComplete_eq]
        exact hpublished.congr rfl rfl rfl (fun _ _ _ => Iff.rfl) (Set.Subset.refl _)
          (Set.Subset.refl _) fun _ hfact _ => hfact
      · intro hpending
        exact absurd hdone (ne_true_of_eq_false hpending)
      · intro hpending
        rw [hcomplete] at hpending ⊢
        obtain ⟨hdecision,hnone⟩ := h.judged.pending hpending
        exact ⟨hdecision,fun r effect mix hdone =>
            hnone r effect mix ((hsame (List.Subset.refl _)).mp hdone),
          fun r effect mix hother hdone =>
            hnone r effect mix (hquiet r effect mix (Ne.symm hother) hdone)⟩
  rw [publish_eq]
  obtain ⟨unresolved,waiting,hframe⟩ := foldl_release_frame [current.id]
    ((b.setSlot current.id (.chain token)).recorded token,ready)
  rw [List.foldl_cons,List.foldl_nil] at hframe
  rw [hframe]
  exact hrecorded.congr rfl rfl rfl rfl (fun _ _ _ => Iff.rfl) (Set.Subset.refl _)
    (Set.Subset.refl _) fun _ hfact _ => hfact

end Accumulator
end AytherRuntime.Trace
