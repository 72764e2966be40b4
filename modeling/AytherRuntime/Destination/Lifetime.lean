import AytherRuntime.Destination.Occupied

/-! The lifetime of a destination: what holds after any operations and restarts, with any of the publications
failing. -/
namespace AytherRuntime.Destination
open Machine (Steps Meets)
open Check (Toml)

section Answers
variable {bytes : DocumentBytes} {ledger : RequestLedger}

/-- What a request asks for, without its language. -/
def Request.Repeats (request other : Request) : Prop :=
  request.sessionId = other.sessionId ∧ request.conditionsId = other.conditionsId ∧ request.takeIds = other.takeIds ∧
    request.materialKind = other.materialKind

instance (request other : Request) : Decidable (request.Repeats other) := inferInstanceAs (Decidable (_ ∧ _))

lemma find_request {entries : List Entry} {entry : Entry} {requestId : String} (hapart : entries.Pairwise Apart)
    (hentry : entry ∈ entries) (hsame : entry.request.requestId = requestId) :
    (entries.find? fun other => other.request.requestId = requestId) = some entry := by
  induction entries with
  | nil => exact nomatch hentry
  | cons first entries ih =>
    obtain ⟨hfirst,hothers⟩ := List.pairwise_cons.mp hapart
    rcases List.mem_cons.mp hentry with rfl | hmem
    · exact List.find?_cons_of_pos (decide_eq_true hsame)
    · rw [List.find?_cons_of_neg]
      · exact ih hothers hmem
      · exact fun h => (hfirst entry hmem).request ((of_decide_eq_true h).trans hsame.symm)

lemma sameContent_iff {first second : Request} (hsame : first.requestId = second.requestId) :
    sameContent first second.accepted = true ↔ first.Repeats second := by
  unfold sameContent Request.Repeats
  simp only [Request.accepted,hsame,decide_true,Bool.true_and,Bool.and_eq_true,and_assoc]
  exact and_congr decide_eq_true_iff (and_congr decide_eq_true_iff (and_congr decide_eq_true_iff decide_eq_true_iff))

/-- A request that the ledger has is known when it repeats it, and is a conflict when it does not. -/
lemma inspectRequest_held {request : Request} {run : Run} {entry : Entry} (hsound : ledger.Sound bytes)
    (hentry : entry ∈ ledger.entries) (hsame : entry.request.requestId = request.requestId)
    (hvalid : validPair bytes request.accepted run = true) (outcome : Publication) :
    ledger.inspectRequest bytes request run =
        { decision := if entry.request.Repeats request then .known else .identityConflict, run := some entry.run } ∧
      ledger.registerRequest bytes request run outcome =
        { ledger, result := some (ledger.inspectRequest bytes request run) } := by
  have hvalid : validPair bytes { request with admission := .accepted } run = true := hvalid
  unfold RequestLedger.registerRequest RequestLedger.inspectRequest
  dsimp only
  simp only [hvalid,find_request hsound.apart hentry hsame,Bool.not_true,Bool.false_eq_true,if_false,and_true]
  exact congrArg (fun decision => (⟨decision,some entry.run⟩ : RequestRegistrationResult))
    (if_congr (sameContent_iff hsame) rfl rfl)

/-- What an inspection answers is what the registration then answers, unless no generation is left or the publication
fails. -/
lemma registerRequest_inspected {request : Request} {run : Run} {outcome : Publication}
    {result : RequestRegistrationResult}
    (hgeneration : ledger.generation ≠ maxGeneration)
    (h : (ledger.registerRequest bytes request run outcome).result = some result) :
    result = ledger.inspectRequest bytes request run := by
  rcases registerRequest_eq bytes ledger request run outcome with ⟨answer,hanswer,-,hsame⟩ | ⟨-,hinspected,hregistered⟩
  · rw [hanswer] at h
    rw [← Option.some.inj h]
    exact hsame hgeneration
  · rw [hregistered] at h
    unfold RequestLedger.registered at h
    dsimp only at h
    split_ifs at h with hpublished
    rw [hinspected,← Option.some.inj h]

end Answers

section Failures
variable {bytes : DocumentBytes} {ledger : RequestLedger}

lemma publish_failed {entries : List Entry} {generation : ℕ} {outcome : Publication}
    (h : (ledger.publish bytes entries generation outcome).result = false) :
    (ledger.publish bytes entries generation outcome).ledger = ledger := by
  rcases publish_eq bytes ledger entries generation outcome with hkept | ⟨-,⟨-,hreplaced⟩ | hpublished⟩
  · rw [hkept]
  · rw [hreplaced]
  · rw [hpublished] at h
    exact nomatch h

lemma registered_failed {request : Request} {run : Run} {outcome : Publication}
    (h : (ledger.registered bytes request run outcome).result = none) :
    (ledger.registered bytes request run outcome).ledger = ledger := by
  have hfailed : (ledger.publish bytes (ledger.entries ++ [⟨request.accepted,run⟩]) (ledger.generation +
      1) outcome).result =
      false := by rw [← registered_isSome,h,Option.isSome_none]
  exact publish_failed hfailed

/-- An operation that fails leaves the ledger in memory, and an admission also leaves the occupancy. -/
lemma registerRequest_failed {request : Request} {run : Run} {outcome : Publication}
    (h : (ledger.registerRequest bytes request run outcome).result = none) :
    (ledger.registerRequest bytes request run outcome).ledger = ledger := by
  rcases registerRequest_eq bytes ledger request run outcome with ⟨answer,hanswer,-⟩ | ⟨-,-,hregistered⟩
  · rw [hanswer]
  · rw [hregistered] at h ⊢
    exact registered_failed h

lemma updateRun_failed {run : Run} {outcome : Publication} (h : (ledger.updateRun bytes run outcome).result = none) :
    (ledger.updateRun bytes run outcome).ledger = ledger := by
  rcases updateRun_eq bytes ledger run outcome with ⟨answer,hanswer⟩ | ⟨-,-,hupdated⟩
  · rw [hanswer]
  · rw [hupdated] at h ⊢
    unfold RequestLedger.updated at h ⊢
    dsimp only at h ⊢
    split_ifs at h with hpublished
    exact publish_failed (Bool.not_eq_true _ ▸ hpublished)

lemma admitCheckRequest_failed {occupancy : SessionOccupancy} {draft : CheckRequestDraft} {outcome : Publication}
    (h : (admitCheckRequest bytes ledger occupancy draft outcome).1.result = .failed) :
    (admitCheckRequest bytes ledger occupancy draft outcome).1.ledger = ledger ∧
      (admitCheckRequest bytes ledger occupancy draft outcome).2 = occupancy := by
  rcases admitCheckRequest_eq bytes ledger occupancy draft outcome with ⟨result,hkept,-⟩ | ⟨-,-,result,
    hadmitted,hfailed⟩
  · rw [hkept]
    exact ⟨rfl,rfl⟩
  · rw [hadmitted] at h ⊢
    have hnone := hfailed h
    dsimp only
    rw [hnone]
    exact ⟨registered_failed hnone,rfl⟩

end Failures

section Lifetime
variable {library : DocumentLibrary}

/-- After any operations and restarts, of a destination that any file was opened of: the requests and the runs have
names of their own. The ledger changes to one of the next generation. A request that is held is known when it repeats
what was registered and a conflict otherwise. An inspection says what a registration answers. An operation that fails
leaves what is in memory. The file is opened as the ledger in memory, or as one that was written by a publication that
failed. And where requests are only admitted and no closed run is opened, one run at most is open, and a restart
restores the one of the file. -/
theorem lifetime (hlibrary : library.Reads) {disk : Option String} {readable : Bool} {start finish : Session}
    {operations : List Operation} (hstart : openSession library disk readable = some start)
    (htyped : ∀ operation ∈ operations, operation.Typed) (h : Steps (step library) start operations finish) :
    finish.ledger.entries.Pairwise Apart ∧
    (∀ operation next, operation.Typed → step library finish operation = some next →
      next.ledger = finish.ledger ∨ next.ledger.generation = finish.ledger.generation + 1) ∧
    (∀ entry ∈ finish.ledger.entries, ∀ request run outcome, entry.request.requestId = request.requestId →
      validPair library.bytes request.accepted run = true →
      finish.ledger.inspectRequest library.bytes request run =
          { decision := if entry.request.Repeats request then .known else .identityConflict, run := some entry.run } ∧
        finish.ledger.registerRequest library.bytes request run outcome =
          { ledger := finish.ledger, result := some (finish.ledger.inspectRequest library.bytes request run) }) ∧
    (∀ request run outcome result, finish.ledger.generation ≠ maxGeneration →
      (finish.ledger.registerRequest library.bytes request run outcome).result = some result →
      result = finish.ledger.inspectRequest library.bytes request run) ∧
    ((∀ request run outcome, (finish.ledger.registerRequest library.bytes request run outcome).result = none →
        (finish.ledger.registerRequest library.bytes request run outcome).ledger = finish.ledger) ∧
      (∀ run outcome, (finish.ledger.updateRun library.bytes run outcome).result = none →
        (finish.ledger.updateRun library.bytes run outcome).ledger = finish.ledger) ∧
      (∀ draft outcome,
        (admitCheckRequest library.bytes finish.ledger finish.occupancy draft outcome).1.result = .failed →
        (admitCheckRequest library.bytes finish.ledger finish.occupancy draft outcome).1.ledger = finish.ledger ∧
        (admitCheckRequest library.bytes finish.ledger finish.occupancy draft outcome).2 = finish.occupancy)) ∧
    ∃ kept, openLedgerDocument library finish.disk true = .ok kept ∧
      (kept = finish.ledger ∨ kept.generation = finish.ledger.generation + 1) ∧
      ((∀ operation ∈ operations, ¬operation.Replaces) → kept = finish.ledger) ∧
      (Meets (step library) Disciplined start operations finish →
        (openEntries finish.ledger.entries).length ≤ 1 ∧ Held finish.ledger.entries finish.occupancy ∧
        ∃ reopened, openSession library finish.disk true = some reopened ∧ reopened.ledger = kept ∧
          (openEntries kept.entries).length ≤ 1 ∧ Held kept.entries reopened.occupancy ∧
          (openEntries kept.entries = [] → reopened.occupancy = {}) ∧
          (kept = finish.ledger → openEntries kept.entries ≠ [] → reopened.occupancy = finish.occupancy)) := by
  obtain ⟨hopened,hread⟩ := openSession_kept hstart
  have hfinish := steps_kept hlibrary h htyped hopened
  obtain ⟨kept,hopen,hgeneration⟩ := hfinish.disk
  refine ⟨hfinish.sound.apart,fun operation next hoperation hnext => (step_kept hlibrary hfinish hoperation hnext).2,
    fun entry hentry request run outcome hsame hvalid => inspectRequest_held hfinish.sound hentry hsame hvalid outcome,
    fun request run outcome result hnot hresult => registerRequest_inspected hnot hresult,
    ⟨fun request run outcome => registerRequest_failed,fun run outcome => updateRun_failed,
      fun draft outcome => admitCheckRequest_failed⟩,kept,hopen,hgeneration,fun hreplaces => ?_,fun hmeets => ?_⟩
  · have hsame := steps_same hlibrary h htyped hreplaces hopened hread
    exact Except.ok.inj (hopen.symm.trans hsame)
  · have hoccupied := meets_occupied hlibrary hmeets htyped hopened (openSession_occupied hstart)
    obtain ⟨occupancy,hheld⟩ := hoccupied.disk kept hopen
    obtain ⟨reopened,hreopened,hledger,hlength,hrestored,hfree⟩ := openSession_of_held hopen hheld
    refine ⟨hoccupied.memory.length_le hfinish.sound.apart,hoccupied.memory,reopened,hreopened,hledger,hlength,
      hrestored,
      hfree,fun hsame hsome => ?_⟩
    obtain ⟨entry,hentry⟩ := List.exists_mem_of_ne_nil _ hsome
    rw [hrestored entry hentry]
    exact (hoccupied.memory entry (hsame ▸ hentry)).symm

end Lifetime

section Listed

lemma exists_text_of_size (size : ℕ) : ∃ text : String, size ≤ text.utf8ByteSize := by
  induction size with
  | zero => exact ⟨"",Nat.zero_le _⟩
  | succ size ih =>
    obtain ⟨text,htext⟩ := ih
    refine ⟨text.push 'a',?_⟩
    rw [String.utf8ByteSize_push]
    have hsize : ('a' : Char).utf8Size = 1 := by decide
    omega

open Classical in
/-- A library that prints some tables as given texts, and any other table as a text that is too long to be kept. -/
noncomputable def listedLibrary (pairs : List (Toml × String)) : DocumentLibrary where
  print table := ((pairs.find? fun pair => pair.1 = table).map Prod.snd).getD
    (choose (exists_text_of_size (maxRequestLedgerBytes + 1)))
  parse text := (pairs.find? fun pair => pair.2 = text).map Prod.fst

variable {pairs : List (Toml × String)}

lemma listedLibrary_print (htables : (pairs.map Prod.fst).Nodup) {table : Toml} {text : String}
    (h : (table,text) ∈ pairs) : (listedLibrary pairs).print table = text := by
  classical
  unfold listedLibrary
  dsimp only
  cases hfound : pairs.find? fun pair => pair.1 = table with
  | none => exact absurd (decide_eq_true rfl) (List.find?_eq_none.mp hfound _ h)
  | some pair =>
    have hsame := List.find?_some hfound
    rw [decide_eq_true_eq] at hsame
    rw [List.inj_on_of_nodup_map htables (List.mem_of_find?_eq_some hfound) h hsame]
    rfl

/-- It reads what it printed within the size of a ledger. -/
lemma listedLibrary_parse (htexts : (pairs.map Prod.snd).Nodup) {table : Toml}
    (h : ((listedLibrary pairs).print table).utf8ByteSize ≤ maxRequestLedgerBytes) :
    (listedLibrary pairs).parse ((listedLibrary pairs).print table) = some table := by
  classical
  unfold listedLibrary at h ⊢
  dsimp only at h ⊢
  cases hfound : pairs.find? fun pair => pair.1 = table with
  | none =>
    rw [hfound] at h
    exact absurd h (Nat.not_le.mpr (Classical.choose_spec (exists_text_of_size (maxRequestLedgerBytes + 1))))
  | some pair =>
    have hmem := List.mem_of_find?_eq_some hfound
    have htable := List.find?_some hfound
    rw [decide_eq_true_eq] at htable
    subst htable
    change ((pairs.find? fun other => other.2 = pair.2).map Prod.fst) = _
    cases hagain : pairs.find? fun other => other.2 = pair.2 with
    | none => exact absurd (decide_eq_true rfl) (List.find?_eq_none.mp hagain _ hmem)
    | some other =>
      have htext := List.find?_some hagain
      rw [decide_eq_true_eq] at htext
      rw [List.inj_on_of_nodup_map htexts (List.mem_of_find?_eq_some hagain) hmem htext]
      rfl

lemma listedLibrary_reads (htexts : (pairs.map Prod.snd).Nodup) : (listedLibrary pairs).Reads := by
  intro ledger h
  unfold encodeLedger at h
  simp only [Bool.and_eq_true,decide_eq_true_eq] at h
  obtain ⟨⟨⟨-,hvalid⟩,-⟩,hsize⟩ := h
  refine ⟨listedLibrary_parse htexts hsize,fun entry hentry => ?_⟩
  obtain ⟨-,-,hrequest,hrun⟩ := validPair_iff.mp (List.all_eq_true.mp hvalid entry hentry)
  have hless : maxMetadataBytes ≤ maxRequestLedgerBytes := by decide
  exact ⟨listedLibrary_parse htexts ((Request.encodes_size hrequest).trans hless),
    listedLibrary_parse htexts ((Run.encodes_size hrun).trans hless)⟩

end Listed

section Overlap

def namedRequest (name : String) : Request where
  requestId := name
  sessionId := "audio-qa-check-v1"
  conditionsId := "conditions"
  takeIds := ["take"]

def namedRun (name : String) : Run where
  runId := name
  requestId := name
  takeId := "take"

def namedEntry (name : String) : Entry := ⟨(namedRequest name).accepted,namedRun name⟩

def firstLedger : RequestLedger := ⟨1,[namedEntry "first"]⟩

def secondLedger : RequestLedger := ⟨2,[namedEntry "first",namedEntry "second"]⟩

def documentPairs : List (Toml × String) :=
  [(requestTable (namedRequest "first").accepted,"first request"),(runTable (namedRun "first"),"first run"),
    (requestTable (namedRequest "second").accepted,"second request"),(runTable (namedRun "second"),"second run")]

noncomputable def ledgerPairs : List (Toml × String) :=
  documentPairs ++ [(ledgerTable (listedLibrary documentPairs) firstLedger,"first ledger"),
    (ledgerTable (listedLibrary documentPairs) secondLedger,"second ledger")]

/-- What tells the tables of these documents apart. -/
def tableKey (table : Toml) : Option String × Option String × Option String :=
  (table.text "kind",table.text "request_id",table.text "generation")

lemma documentPairs_nodup : (documentPairs.map Prod.fst).Nodup :=
  List.Nodup.of_map tableKey (by decide)

lemma ledgerPairs_nodup : (ledgerPairs.map Prod.fst).Nodup :=
  List.Nodup.of_map tableKey (by decide)

lemma ledgerTable_congr {first second : DocumentLibrary} {ledger : RequestLedger}
    (h : ∀ entry ∈ ledger.entries, requestDocument first entry.request = requestDocument second entry.request ∧
      runDocument first entry.run = runDocument second entry.run) : ledgerTable first ledger =
        ledgerTable second ledger := by
  have hentries : ledger.entries.map (entryTable first) = ledger.entries.map (entryTable second) := by
    refine List.map_congr_left fun entry hentry => ?_
    rw [entryTable,entryTable,(h entry hentry).1,(h entry hentry).2]
  rw [ledgerTable,ledgerTable,hentries]

/-- What the library of two checks prints of its documents. -/
lemma ledgerPairs_print {table : Toml} {text : String} (h : (table,text) ∈ documentPairs) :
    (listedLibrary ledgerPairs).print table = text ∧ (listedLibrary documentPairs).print table = text :=
  ⟨listedLibrary_print ledgerPairs_nodup (List.mem_append_left _ h),listedLibrary_print documentPairs_nodup h⟩

lemma named_print {name : String} (h : name = "first" ∨ name = "second") :
    (requestDocument (listedLibrary ledgerPairs) (namedEntry name).request = name ++ " request" ∧
      runDocument (listedLibrary ledgerPairs) (namedEntry name).run = name ++ " run") ∧
    requestDocument (listedLibrary documentPairs) (namedEntry name).request = name ++ " request" ∧
      runDocument (listedLibrary documentPairs) (namedEntry name).run = name ++ " run" := by
  have hrequest : (requestTable (namedRequest name).accepted,name ++ " request") ∈ documentPairs := by
    rcases h with rfl | rfl
    · exact List.mem_cons_self
    · exact List.mem_cons_of_mem _ (List.mem_cons_of_mem _ List.mem_cons_self)
  have hrun : (runTable (namedRun name),name ++ " run") ∈ documentPairs := by
    rcases h with rfl | rfl
    · exact List.mem_cons_of_mem _ List.mem_cons_self
    · exact List.mem_cons_of_mem _ (List.mem_cons_of_mem _ (List.mem_cons_of_mem _ List.mem_cons_self))
  exact ⟨⟨(ledgerPairs_print hrequest).1,(ledgerPairs_print hrun).1⟩,(ledgerPairs_print hrequest).2,
    (ledgerPairs_print hrun).2⟩

lemma named_valid {name : String} (h : name = "first" ∨ name = "second") :
    validPair (listedLibrary ledgerPairs).bytes (namedEntry name).request (namedEntry name).run = true := by
  obtain ⟨hrequest,hrun⟩ := (named_print h).1
  have hrequestSize : (listedLibrary ledgerPairs).bytes.request (namedEntry name).request ≤ maxMetadataBytes := by
    change (requestDocument (listedLibrary ledgerPairs) (namedEntry name).request).utf8ByteSize ≤ _
    rw [hrequest]
    rcases h with rfl | rfl <;> decide
  have hrunSize : (listedLibrary ledgerPairs).bytes.run (namedEntry name).run ≤ maxMetadataBytes := by
    change (runDocument (listedLibrary ledgerPairs) (namedEntry name).run).utf8ByteSize ≤ _
    rw [hrun]
    rcases h with rfl | rfl <;> decide
  unfold validPair Request.encodes Run.encodes
  rw [decide_eq_true hrequestSize,decide_eq_true hrunSize]
  rcases h with rfl | rfl <;> decide

/-- A ledger of these entries is written when its table is listed. -/
lemma listed_encodes {ledger : RequestLedger} (text : String)
    (hlisted : (ledgerTable (listedLibrary documentPairs) ledger,text) ∈ ledgerPairs)
    (hnames : ∀ entry ∈ ledger.entries, ∃ name, (name = "first" ∨ name = "second") ∧ entry = namedEntry name)
    (hgeneration : ledger.generation ≠ 0) (hsome : ledger.entries ≠ [])
    (hfew : ledger.entries.length ≤ maxRegisteredRequests)
    (htext : text.utf8ByteSize ≠ 0 ∧ text.utf8ByteSize ≤ maxRequestLedgerBytes) :
    encodeLedger (listedLibrary ledgerPairs).bytes ledger = true := by
  have htable : ledgerTable (listedLibrary ledgerPairs) ledger = ledgerTable (listedLibrary documentPairs) ledger := by
    refine ledgerTable_congr fun entry hentry => ?_
    obtain ⟨name,hname,rfl⟩ := hnames entry hentry
    have h := named_print hname
    exact ⟨h.1.1.trans h.2.1.symm,h.1.2.trans h.2.2.symm⟩
  have hsize : (listedLibrary ledgerPairs).bytes.ledger ledger = text.utf8ByteSize := by
    change ((listedLibrary ledgerPairs).print (ledgerTable (listedLibrary ledgerPairs) ledger)).utf8ByteSize = _
    rw [htable,listedLibrary_print ledgerPairs_nodup hlisted]
  have hvalid : ledger.entries.all (fun entry => validPair (listedLibrary ledgerPairs).bytes entry.request entry.run) =
      true := by
    refine List.all_eq_true.mpr fun entry hentry => ?_
    obtain ⟨name,hname,rfl⟩ := hnames entry hentry
    exact named_valid hname
  unfold encodeLedger
  rw [hvalid,hsize,decide_eq_true hgeneration,decide_eq_true hsome,decide_eq_true hfew,decide_eq_true htext.1,
    decide_eq_true htext.2]
  rfl

lemma firstLedger_encodes : encodeLedger (listedLibrary ledgerPairs).bytes firstLedger = true := by
  refine listed_encodes "first ledger" ?_ ?_ (by decide) (by decide) (by decide) (by decide)
  · exact List.mem_append_right _ List.mem_cons_self
  · intro entry hentry
    exact ⟨"first",Or.inl rfl,List.mem_singleton.mp hentry⟩

lemma secondLedger_encodes : encodeLedger (listedLibrary ledgerPairs).bytes secondLedger = true := by
  refine listed_encodes "second ledger" ?_ ?_ (by decide) (by decide) (by decide) (by decide)
  · exact List.mem_append_right _ (List.mem_cons_of_mem _ List.mem_cons_self)
  · intro entry hentry
    rcases List.mem_cons.mp hentry with rfl | hsecond
    · exact ⟨"first",Or.inl rfl,rfl⟩
    · exact ⟨"second",Or.inr rfl,List.mem_singleton.mp hsecond⟩

lemma listed_registers (ledger : RequestLedger) {name : String} (hname : name = "first" ∨ name = "second")
    (hrequest : (ledger.entries.find? fun entry => entry.request.requestId = name) = none)
    (hfew : ¬(maxRegisteredRequests ≤ ledger.entries.length ∨ ledger.generation = maxGeneration))
    (hrun : (ledger.entries.any fun entry => entry.run.runId = name) = false)
    (hencodes : encodeLedger (listedLibrary ledgerPairs).bytes
      ⟨ledger.generation + 1,ledger.entries ++ [namedEntry name]⟩ = true) :
    ledger.registerRequest (listedLibrary ledgerPairs).bytes (namedRequest name) (namedRun name) .published =
      { ledger := ⟨ledger.generation + 1,ledger.entries ++ [namedEntry name]⟩
        writes := [⟨ledger.generation + 1,ledger.entries ++ [namedEntry name]⟩]
        result := some { decision := .accepted, run := some (namedRun name) } } := by
  have hvalid : validPair (listedLibrary ledgerPairs).bytes { namedRequest name with admission := .accepted }
      (namedRun name) = true := named_valid hname
  have hpublish : ledger.publish (listedLibrary ledgerPairs).bytes (ledger.entries ++ [namedEntry name])
      (ledger.generation + 1) .published = _ := if_pos hencodes
  have hsame : (ledger.entries.find? fun entry => entry.request.requestId = (namedRequest name).requestId) =
      none := hrequest
  have hother : (ledger.entries.any fun entry => entry.run.runId = (namedRun name).runId) = false := hrun
  unfold RequestLedger.registerRequest
  dsimp only
  simp only [hvalid,hsame,hother,Bool.not_true,Bool.false_eq_true,if_false,if_neg hfew]
  rw [show (⟨{ namedRequest name with admission := .accepted },namedRun name⟩ : Entry) = namedEntry name from rfl,
    hpublish]
  rfl

/-- The destination of two checks, once the first is registered. -/
noncomputable def firstSession (occupancy : SessionOccupancy) : Session :=
  ⟨some (ledgerDocument (listedLibrary ledgerPairs) firstLedger),firstLedger,occupancy⟩

noncomputable def secondSession : Session :=
  ⟨some (ledgerDocument (listedLibrary ledgerPairs) secondLedger),secondLedger,{}⟩

lemma register_first : step (listedLibrary ledgerPairs) ⟨none,{},{}⟩
    (.register (namedRequest "first") (namedRun "first") .published) = some (firstSession {}) := by
  have h := listed_registers {} (Or.inl rfl) (by decide) (by decide) (by decide) firstLedger_encodes
  exact congrArg (fun written => some (Session.after (listedLibrary ledgerPairs) ⟨none,{},{}⟩ written)) h

lemma register_second : step (listedLibrary ledgerPairs) (firstSession {})
    (.register (namedRequest "second") (namedRun "second") .published) = some secondSession := by
  have h := listed_registers firstLedger (Or.inr rfl) (by decide) (by decide) (by decide) secondLedger_encodes
  exact congrArg (fun written => some (Session.after (listedLibrary ledgerPairs) (firstSession {}) written)) h

lemma registrations_steps : Steps (step (listedLibrary ledgerPairs)) ⟨none,{},{}⟩
    [.register (namedRequest "first") (namedRun "first") .published,
      .register (namedRequest "second") (namedRun "second") .published] secondSession :=
  .next register_first (.next register_second (.done _))

lemma ledgerPairs_reads : (listedLibrary ledgerPairs).Reads := listedLibrary_reads (by decide)

/-- Two requests are registered one after the other: two runs are open, and the destination is not opened again. -/
theorem registrations_overlap : (listedLibrary ledgerPairs).Reads ∧
    openSession (listedLibrary ledgerPairs) none true = some ⟨none,{},{}⟩ ∧
    ∃ finish, Steps (step (listedLibrary ledgerPairs)) ⟨none,{},{}⟩
        [.register (namedRequest "first") (namedRun "first") .published,
          .register (namedRequest "second") (namedRun "second") .published] finish ∧
      (openEntries finish.ledger.entries).length = 2 ∧
      openSession (listedLibrary ledgerPairs) finish.disk true = none := by
  have hopened : openSession (listedLibrary ledgerPairs) none true = some ⟨none,{},{}⟩ := rfl
  refine ⟨ledgerPairs_reads,hopened,secondSession,registrations_steps,rfl,?_⟩
  have hread : openLedgerDocument (listedLibrary ledgerPairs) secondSession.disk true = .ok secondLedger := by
    refine steps_same ledgerPairs_reads registrations_steps ?_ ?_ (openSession_kept hopened).1 rfl
    · intro operation hoperation
      rcases List.mem_cons.mp hoperation with rfl | hsecond
      · exact ⟨nofun,nofun⟩
      · rw [List.mem_singleton.mp hsecond]
        exact ⟨nofun,nofun⟩
    · intro operation hoperation
      rcases List.mem_cons.mp hoperation with rfl | hsecond
      · exact nofun
      · rw [List.mem_singleton.mp hsecond]
        exact nofun
  unfold openSession
  rw [hread]
  rfl

lemma admit_first : step (listedLibrary ledgerPairs) ⟨none,{},{}⟩
    (.admitRequest ⟨namedRequest "first",namedRun "first"⟩ .published) = some (firstSession ⟨"first","first"⟩) := by
  have h := listed_registers {} (Or.inl rfl) (by decide) (by decide) (by decide) firstLedger_encodes
  have hvalid : validPair (listedLibrary ledgerPairs).bytes { namedRequest "first" with admission := .accepted }
      (namedRun "first") = true := named_valid (Or.inl rfl)
  have hinspected : RequestLedger.inspectRequest (listedLibrary ledgerPairs).bytes {} (namedRequest "first")
      (namedRun "first") =
      { decision := .accepted, run := some (namedRun "first") } := by
    unfold RequestLedger.inspectRequest
    dsimp only
    rw [hvalid]
    rfl
  have hadmitted : admitCheckRequest (listedLibrary ledgerPairs).bytes {} {} ⟨namedRequest "first",namedRun "first"⟩
      .published = ({ ledger := firstLedger, writes := [firstLedger], result := .accepted (namedRun "first") },
        ⟨"first","first"⟩) := by
    unfold admitCheckRequest
    dsimp only
    rw [hinspected]
    unfold registerDraft
    dsimp only
    rw [h]
    rfl
  exact congrArg (fun admitted : Written CheckAdmission × SessionOccupancy =>
    some { Session.after (listedLibrary ledgerPairs) ⟨none,{},{}⟩ admitted.1 with occupancy := admitted.2 }) hadmitted

/-- One check is admitted, and the destination is opened again. -/
theorem lifetime_admitted : ∃ finish, Meets (step (listedLibrary ledgerPairs)) Disciplined ⟨none,{},{}⟩
      [.admitRequest ⟨namedRequest "first",namedRun "first"⟩ .published] finish ∧
    finish.ledger.entries = [namedEntry "first"] ∧ finish.ledger.entries.Pairwise Apart ∧
    ∃ reopened, openSession (listedLibrary ledgerPairs) finish.disk true = some reopened ∧
      reopened.ledger = finish.ledger ∧ reopened.occupancy = finish.occupancy := by
  have hmeets : Meets (step (listedLibrary ledgerPairs)) Disciplined ⟨none,{},{}⟩
      [.admitRequest ⟨namedRequest "first",namedRun "first"⟩ .published] (firstSession ⟨"first","first"⟩) :=
    .next admit_first trivial (.done _)
  have hstart : openSession (listedLibrary ledgerPairs) none true = some ⟨none,{},{}⟩ := rfl
  have htyped : ∀ operation ∈ [Operation.admitRequest ⟨namedRequest "first",namedRun "first"⟩ .published],
      operation.Typed := by
    intro operation hoperation
    rw [List.mem_singleton.mp hoperation]
    exact ⟨nofun,nofun⟩
  obtain ⟨hapart,-,-,-,-,kept,-,-,hsame,hheld⟩ := lifetime ledgerPairs_reads hstart htyped hmeets.steps
  have hkept : kept = firstLedger := by
    refine hsame fun operation hoperation => ?_
    rw [List.mem_singleton.mp hoperation]
    exact nofun
  obtain ⟨-,-,reopened,hreopened,hledger,-,-,-,hoccupancy⟩ := hheld hmeets
  refine ⟨_,hmeets,rfl,hapart,reopened,hreopened,hledger.trans hkept,hoccupancy hkept ?_⟩
  rw [hkept]
  exact List.cons_ne_nil _ _

end Overlap
end AytherRuntime.Destination
