import AytherRuntime.Launcher.Model
import AytherRuntime.Library.Lines
import Mathlib.Data.List.Induction

/-! When the launcher may start a request: after any operations on its model, only with the answers of the last
preflight of the request that it holds. -/
namespace AytherRuntime.Launcher
open Check (CheckOptions)

section Prefill

structure PrefillEntry where
  flag : String
  value : String
  repeatable : Bool
  deriving DecidableEq, Repr

/-- The lines of a prefill that are not empty, without a carriage return at their end. -/
def prefillLines (text : String) : List (List Char) :=
  ((Lines.linesOf text.toList).map fun line => if line.getLast? = some '\r' then line.dropLast
    else line).filter (· ≠ [])

/-- The entry of a line with a known flag. -/
def prefillEntry (model : LauncherModel) (line : List Char) : Option PrefillEntry :=
  let flag := line.takeWhile (· ≠ '=')
  if '=' ∉ line ∨ ¬['-','-'].isPrefixOf flag then none
  else
    (model.find (String.ofList flag)).map fun field =>
      ⟨String.ofList flag,String.ofList (line.drop (flag.length + 1)),field.descriptor.repeatable⟩

/-- The values of the flags that repeat, in the order of their lines. -/
def addRepeated (repeated : List (String × List String)) (entry : PrefillEntry) : List (String × List String) :=
  if !entry.repeatable then repeated
  else if repeated.any fun group => group.1 = entry.flag then
    changeFirst (fun group => group.1 = entry.flag) (fun group => (group.1,group.2 ++ [entry.value])) repeated
  else repeated ++ [(entry.flag,[entry.value])]

/-- `apply_prefill`: a line that is refused refuses the whole text. -/
def applyPrefill (model : LauncherModel) (text : String) : LauncherModel × List String :=
  let lines := prefillLines text
  let errors := lines.filter fun line => (prefillEntry model line).isNone
  if errors ≠ [] then (model,errors.map String.ofList)
  else
    let entries := lines.filterMap (prefillEntry model)
    let model := entries.foldl (fun model entry =>
      if entry.repeatable then model else model.set entry.flag entry.value) model
    ((entries.foldl addRepeated []).foldl (fun model group => model.setValues group.1 group.2) model,[])

end Prefill

section Operations

inductive LauncherOperation
  | set (flag value : String)
  | removePack
  | addValue (flag path : String)
  | removeValue (flag : String) (position : ℕ)
  | moveValue (flag : String) (source destination : ℕ)
  | repeatValue (flag : String) (position : ℕ)
  | setValues (flag : String) (values : List String)
  | prefill (text : String)
  | setEnvironment (environment : EnvironmentValues)
  | revalidate (preflight : CheckOptions → PreflightResult)
  | started
  | phase (phase : RequestPhase)
  | finished (outcome : RequestOutcome)

def LauncherModel.step (model : LauncherModel) : LauncherOperation → LauncherModel
  | .set flag value => model.set flag value
  | .removePack => model.removePack
  | .addValue flag path => model.addValue flag path
  | .removeValue flag position => model.removeValue flag position
  | .moveValue flag source destination => model.moveValue flag source destination
  | .repeatValue flag position => model.repeatValue flag position
  | .setValues flag values => model.setValues flag values
  | .prefill text => (applyPrefill model text).1
  | .setEnvironment environment => model.setEnvironment environment
  | .revalidate preflight => model.revalidate preflight
  | .started => model.onStarted
  | .phase phase => model.onPhase phase
  | .finished outcome => model.onFinished outcome

/-- The model after some operations on the form as it opens. -/
def modelAfter (operations : List LauncherOperation) : LauncherModel := operations.foldl LauncherModel.step .new

lemma modelAfter_snoc (operations : List LauncherOperation) (operation : LauncherOperation) :
    modelAfter (operations ++ [operation]) = (modelAfter operations).step operation := List.foldl_concat ..

/-- An operation that validates the request. -/
def LauncherOperation.Validates (operation : LauncherOperation) : Prop := ∃ preflight, operation = .revalidate preflight

/-- An operation that ends the request in progress. -/
def LauncherOperation.Ends : LauncherOperation → Prop
  | .finished _ => True
  | .phase reported => reported.kind = .closed
  | _ => False

end Operations

section Steps
variable {model next : LauncherModel}

/-- What the request and the answers of its preflight are made of is kept. -/
structure Kept (model next : LauncherModel) : Prop where
  fields : next.fields = model.fields
  environment : next.environment = model.environment
  effective : next.effective = model.effective
  issues : next.issues = model.issues
  diagnostics : next.diagnostics = model.diagnostics
  dirty : next.dirty = model.dirty

/-- The model is kept, or marked as stale. -/
def KeptOrStale (model next : LauncherModel) : Prop := next.dirty = true ∨ Kept model next

lemma Kept.refl (model : LauncherModel) : Kept model model := ⟨rfl,rfl,rfl,rfl,rfl,rfl⟩

lemma Kept.request (h : Kept model next) : next.request = model.request := by
  have hfrom : next.fromEnvironment = model.fromEnvironment := by
    funext key
    unfold LauncherModel.fromEnvironment LauncherModel.value LauncherModel.find
    rw [h.fields,h.environment]
  unfold LauncherModel.request
  rw [h.fields,h.environment,hfrom]

lemma KeptOrStale.trans {last : LauncherModel} (h : KeptOrStale model next) (h' : KeptOrStale next last) :
    KeptOrStale model last := by
  rcases h' with hstale | hkept
  · exact Or.inl hstale
  · rcases h with hstale | hbefore
    · exact Or.inl (hkept.dirty.trans hstale)
    · exact Or.inr ⟨hkept.fields.trans hbefore.fields,hkept.environment.trans hbefore.environment,
        hkept.effective.trans hbefore.effective,hkept.issues.trans hbefore.issues,
        hkept.diagnostics.trans hbefore.diagnostics,hkept.dirty.trans hbefore.dirty⟩

lemma keptOrStale_foldl {α : Type} {f : LauncherModel → α → LauncherModel}
    (h : ∀ model a, KeptOrStale model (f model a))
    (l : List α) (model : LauncherModel) : KeptOrStale model (l.foldl f model) := by
  induction l generalizing model with
  | nil => exact Or.inr (.refl model)
  | cons a l ih => exact (h model a).trans (ih _)

/-- Each change of a field either leaves the model as it is or marks it as stale. -/
lemma change_keptOrStale (model : LauncherModel) (flag : String) (takes : ModelField → Bool)
    (change : ModelField → ModelField) : KeptOrStale model (model.change flag takes change) := by
  unfold LauncherModel.change
  split
  · exact Or.inr (.refl model)
  · split_ifs
    · exact Or.inl rfl
    · exact Or.inr (.refl model)

lemma applyPrefill_keptOrStale (model : LauncherModel) (text : String) :
    KeptOrStale model (applyPrefill model text).1 := by
  unfold applyPrefill
  dsimp only
  split_ifs
  · exact Or.inr (.refl model)
  · refine (keptOrStale_foldl (fun model entry => ?_) _ model).trans (keptOrStale_foldl (fun model group => ?_) _ _)
    · split_ifs
      · exact Or.inr (.refl model)
      · exact change_keptOrStale ..
    · exact change_keptOrStale ..

/-- What an operation does to the request and to the answers of its preflight: a validation, or nothing that is not
marked as stale. -/
lemma step_cases (model : LauncherModel) (operation : LauncherOperation) :
    (∃ preflight, operation = .revalidate preflight ∧ model.step operation = model.revalidate preflight) ∨
      ¬operation.Validates ∧ KeptOrStale model (model.step operation) := by
  cases operation with
  | revalidate preflight => exact Or.inl ⟨preflight,rfl,rfl⟩
  | prefill text => exact Or.inr ⟨(fun ⟨_,hsame⟩ => nomatch hsame),applyPrefill_keptOrStale model text⟩
  | setEnvironment environment => exact Or.inr ⟨(fun ⟨_,hsame⟩ => nomatch hsame),Or.inl rfl⟩
  | started => exact Or.inr ⟨(fun ⟨_,hsame⟩ => nomatch hsame),Or.inr ⟨rfl,rfl,rfl,rfl,rfl,rfl⟩⟩
  | finished outcome => exact Or.inr ⟨(fun ⟨_,hsame⟩ => nomatch hsame),Or.inr ⟨rfl,rfl,rfl,rfl,rfl,rfl⟩⟩
  | phase phase =>
    refine Or.inr ⟨(fun ⟨_,hsame⟩ => nomatch hsame),Or.inr ?_⟩
    change Kept model (model.onPhase phase)
    unfold LauncherModel.onPhase
    dsimp only
    split_ifs <;> exact ⟨rfl,rfl,rfl,rfl,rfl,rfl⟩
  | set | removePack | addValue | removeValue | moveValue | repeatValue | setValues =>
    exact Or.inr ⟨(fun ⟨_,hsame⟩ => nomatch hsame),change_keptOrStale ..⟩

end Steps

section Runs
variable {operations : List LauncherOperation}

/-- The answers of the model are those of the last preflight, and it was of the request that the model makes now. -/
def Validated (operations : List LauncherOperation) : Prop :=
  ∃ earlier preflight later, operations = earlier ++ .revalidate preflight :: later ∧
    (∀ operation ∈ later, ¬operation.Validates) ∧
    (modelAfter earlier).request = (modelAfter operations).request ∧
    (modelAfter operations).effective = (preflight (modelAfter operations).request).effective ∧
    (modelAfter operations).issues = (preflight (modelAfter operations).request).issues ∧
    (modelAfter operations).diagnostics = (preflight (modelAfter operations).request).diagnostics

/-- A model that is not stale is validated. -/
lemma validated_of_fresh (h : (modelAfter operations).dirty = false) : Validated operations := by
  induction operations using List.reverseRecOn with
  | nil => cases h
  | append_singleton operations operation ih =>
    rw [modelAfter_snoc] at h
    unfold Validated
    rw [modelAfter_snoc]
    rcases step_cases (modelAfter operations) operation with ⟨preflight,rfl,hstep⟩ | ⟨hother,hstale | hkept⟩
    · rw [hstep]
      exact ⟨operations,preflight,[],rfl,List.forall_mem_nil _,rfl,rfl,rfl,rfl⟩
    · exact absurd (hstale.symm.trans h) (by decide)
    · obtain ⟨earlier,preflight,later,rfl,hlater,hrequest,heffective,hissues,hdiagnostics⟩ :=
        ih (hkept.dirty.symm.trans h)
      refine ⟨earlier,preflight,later ++ [operation],by simp,?_,?_,?_,?_,?_⟩
      · exact List.forall_mem_append.mpr ⟨hlater,List.forall_mem_singleton.mpr hother⟩
      · exact hrequest.trans hkept.request.symm
      · rw [hkept.effective,hkept.request]
        exact heffective
      · rw [hkept.issues,hkept.request]
        exact hissues
      · rw [hkept.diagnostics,hkept.request]
        exact hdiagnostics

/-- The options of the form, and whether a request is active. -/
structure SameForm (model next : LauncherModel) : Prop where
  descriptors : next.fields.map ModelField.descriptor = model.fields.map ModelField.descriptor
  active : next.active = model.active

lemma SameForm.refl (model : LauncherModel) : SameForm model model := ⟨rfl,rfl⟩

lemma SameForm.trans {model next last : LauncherModel} (h : SameForm model next) (h' : SameForm next last) :
    SameForm model last := ⟨h'.descriptors.trans h.descriptors,h'.active.trans h.active⟩

lemma sameForm_foldl {α : Type} {f : LauncherModel → α → LauncherModel} (h : ∀ model a, SameForm model (f model a))
    (l : List α) (model : LauncherModel) : SameForm model (l.foldl f model) := by
  induction l generalizing model with
  | nil => exact .refl model
  | cons a l ih => exact (h model a).trans (ih _)

lemma map_changeFirst {α β : Type} {f : α → β} {test : α → Bool} {change : α → α} (h : ∀ a, f (change a) = f a)
    (l : List α) : (changeFirst test change l).map f = l.map f := by
  induction l with
  | nil => rfl
  | cons a l ih =>
    rw [changeFirst]
    split_ifs
    · rw [List.map_cons,h,List.map_cons]
    · rw [List.map_cons,ih,List.map_cons]

lemma change_sameForm (model : LauncherModel) (flag : String) (takes : ModelField → Bool)
    {change : ModelField → ModelField} (h : ∀ field, (change field).descriptor = field.descriptor) :
    SameForm model (model.change flag takes change) := by
  unfold LauncherModel.change
  split
  · exact .refl model
  · split_ifs
    · exact ⟨map_changeFirst h _,rfl⟩
    · exact .refl model

lemma applyPrefill_sameForm (model : LauncherModel) (text : String) : SameForm model (applyPrefill model text).1 := by
  unfold applyPrefill
  dsimp only
  split_ifs
  · exact .refl model
  · refine (sameForm_foldl (fun model entry => ?_) _ model).trans (sameForm_foldl (fun model group => ?_) _ _)
    · split_ifs
      · exact .refl model
      · exact change_sameForm _ _ _ fun _ => rfl
    · exact change_sameForm _ _ _ fun _ => rfl

lemma SameForm.step {model next : LauncherModel} {operation : LauncherOperation} (h : SameForm model next)
    (hother : operation ≠ .started) :
    next.fields.map ModelField.descriptor = model.fields.map ModelField.descriptor ∧
      (next.active = model.active ∧ operation ≠ .started ∨ next.active = true ∨ operation.Ends) :=
  ⟨h.descriptors,Or.inl ⟨h.active,hother⟩⟩

lemma onPhase_form (model : LauncherModel) (reported : RequestPhase) :
    (model.onPhase reported).fields = model.fields ∧
      (reported.kind ≠ .closed → (model.onPhase reported).active = model.active) := by
  unfold LauncherModel.onPhase
  dsimp only
  constructor
  · split_ifs <;> rfl
  · intro hopen
    rw [if_neg hopen]
    split_ifs <;> rfl

/-- No operation changes the options of the form, and a request is active from a start to what ends it. -/
lemma step_form (model : LauncherModel) (operation : LauncherOperation) :
    (model.step operation).fields.map ModelField.descriptor = model.fields.map ModelField.descriptor ∧
      ((model.step operation).active = model.active ∧ operation ≠ .started ∨
        (model.step operation).active = true ∨ operation.Ends) := by
  cases operation with
  | prefill text =>
    exact (applyPrefill_sameForm model text).step (fun hsame => nomatch hsame)
  | setEnvironment | revalidate => exact ⟨rfl,Or.inl ⟨rfl,fun hsame => nomatch hsame⟩⟩
  | started => exact ⟨rfl,Or.inr (Or.inl rfl)⟩
  | finished outcome => exact ⟨rfl,Or.inr (Or.inr trivial)⟩
  | phase reported =>
    obtain ⟨hfields,hactive⟩ := onPhase_form model reported
    refine ⟨congrArg _ hfields,?_⟩
    by_cases hclosed : reported.kind = .closed
    · exact Or.inr (Or.inr hclosed)
    · exact Or.inl ⟨hactive hclosed,fun hsame => nomatch hsame⟩
  | set | removePack | addValue | removeValue | moveValue | repeatValue | setValues =>
    refine SameForm.step ?_ (fun hsame => nomatch hsame)
    apply change_sameForm
    intro field
    rfl

lemma modelAfter_descriptors (operations : List LauncherOperation) :
    (modelAfter operations).fields.map ModelField.descriptor = checkOptionDescriptors := by
  induction operations using List.reverseRecOn with
  | nil =>
    have hnew : modelAfter [] = .new := rfl
    rw [hnew,LauncherModel.new]
    refine (map_changeFirst ?_ _).trans ?_
    · intro field
      rfl
    · rw [List.map_map]
      exact List.map_id _
  | append_singleton operations operation ih =>
    rw [modelAfter_snoc,(step_form _ operation).1,ih]

/-- While no request is active, each start has been followed by its end. -/
lemma ended_of_idle (h : (modelAfter operations).active = false) (earlier later : List LauncherOperation)
    (hsplit : operations = earlier ++ .started :: later) : ∃ operation ∈ later, operation.Ends := by
  induction operations using List.reverseRecOn generalizing later with
  | nil => exact absurd hsplit.symm (List.append_ne_nil_of_right_ne_nil _ (List.cons_ne_nil _ _))
  | append_singleton operations operation ih =>
    rw [modelAfter_snoc] at h
    rcases List.eq_nil_or_concat later with rfl | ⟨before,last,rfl⟩
    · obtain ⟨-,rfl⟩ := List.append_inj' hsplit rfl |>.imp id fun hlast => List.singleton_inj.mp hlast
      exact absurd h (by simp [LauncherModel.step,LauncherModel.onStarted])
    · rw [List.concat_eq_append,← List.cons_append,← List.append_assoc] at hsplit
      obtain ⟨hfront,hlast⟩ := List.append_inj' hsplit rfl
      obtain rfl := List.singleton_inj.mp hlast
      rw [List.concat_eq_append]
      rcases (step_form (modelAfter operations) operation).2 with ⟨hsame,-⟩ | hactive | hends
      · obtain ⟨ending,hmem,hends⟩ := ih (hsame.symm.trans h) before hfront
        exact ⟨ending,List.mem_append_left _ hmem,hends⟩
      · exact absurd (hactive.symm.trans h) (by decide)
      · exact ⟨operation,List.mem_append_right _ (List.mem_singleton_self _),hends⟩

end Runs

section Start
variable {model : LauncherModel}

lemma mem_requiredGroups_foldl (fields : List ModelField) (groups : List String) {group : String} :
    group ∈ groups ∨ group ≠ "" ∧ group ∈ fields.map (fun field => field.descriptor.requiredGroup) →
      group ∈ fields.foldl (fun groups field =>
        if field.descriptor.requiredGroup = "" || groups.contains field.descriptor.requiredGroup then groups
        else groups ++ [field.descriptor.requiredGroup]) groups := by
  induction fields generalizing groups with
  | nil => simp
  | cons field fields ih =>
    intro h
    rw [List.foldl_cons]
    apply ih
    split_ifs with hskip
    · rcases h with hknown | ⟨hgroup,hmem⟩
      · exact Or.inl hknown
      · rcases List.mem_cons.mp hmem with rfl | hlater
        · exact Or.inl (by simpa [hgroup] using hskip)
        · exact Or.inr ⟨hgroup,hlater⟩
    · rcases h with hknown | ⟨hgroup,hmem⟩
      · exact Or.inl (List.mem_append_left _ hknown)
      · rcases List.mem_cons.mp hmem with rfl | hlater
        · exact Or.inl (List.mem_append_right _ (List.mem_singleton_self _))
        · exact Or.inr ⟨hgroup,hlater⟩

/-- Without missing options, each required one has a value or the environment gives it. -/
lemma required_present (h : model.missingRequired = []) {field : ModelField} (hfield : field ∈ model.fields)
    (hrequired : field.descriptor.required = true) :
    field.empty = false ∨ field.descriptor.flag = "--runtime" ∧ model.fromEnvironment "runtime" = true := by
  have hnone := (List.append_eq_nil_iff.mp h).1
  rw [List.map_eq_nil_iff,List.filter_eq_nil_iff] at hnone
  have hnot := hnone field hfield
  cases hempty : field.empty with
  | false => exact Or.inl rfl
  | true =>
    simp only [hrequired,hempty,Bool.and_self,Bool.true_and,Bool.not_eq_true,Bool.not_eq_false',Bool.and_eq_true,
      decide_eq_true_eq] at hnot
    exact Or.inr hnot

/-- Without missing options, each required group has a member with a value. -/
lemma group_present (h : model.missingRequired = []) {field : ModelField} (hfield : field ∈ model.fields)
    (hgroup : field.descriptor.requiredGroup ≠ "") :
    ∃ member ∈ model.fields, member.descriptor.requiredGroup = field.descriptor.requiredGroup ∧
      member.empty = false := by
  have hnone := (List.append_eq_nil_iff.mp h).2
  have hmem : field.descriptor.requiredGroup ∈ model.requiredGroups :=
    mem_requiredGroups_foldl model.fields [] (Or.inr ⟨hgroup,List.mem_map_of_mem hfield⟩)
  have hempty := List.flatMap_eq_nil_iff.mp hnone _ hmem
  split_ifs at hempty with hany
  · obtain ⟨member,hmember,hgiven⟩ := List.any_eq_true.mp hany
    obtain ⟨hmember,hsame⟩ := List.mem_filter.mp hmember
    exact ⟨member,hmember,of_decide_eq_true hsame,by simpa using hgiven⟩
  · rw [List.map_eq_nil_iff] at hempty
    have hself : field ∈ model.groupMembers field.descriptor.requiredGroup :=
      List.mem_filter.mpr ⟨hfield,decide_eq_true rfl⟩
    rw [hempty] at hself
    cases hself

/-- After any operations, the launcher may start only what the last preflight has validated without issues, with every
required option and group, while no request is active. -/
theorem canStart_validated (operations : List LauncherOperation) (h : (modelAfter operations).canStart = true) :
    Validated operations ∧ (modelAfter operations).issues = [] ∧
    (modelAfter operations).fields.map ModelField.descriptor = checkOptionDescriptors ∧
    (∀ field ∈ (modelAfter operations).fields, field.descriptor.required = true →
      field.empty = false ∨
        field.descriptor.flag = "--runtime" ∧ (modelAfter operations).fromEnvironment "runtime" = true) ∧
    (∀ field ∈ (modelAfter operations).fields, field.descriptor.requiredGroup ≠ "" →
      ∃ member ∈ (modelAfter operations).fields,
        member.descriptor.requiredGroup = field.descriptor.requiredGroup ∧ member.empty = false) ∧
    (modelAfter operations).active = false ∧
    ∀ earlier later, operations = earlier ++ .started :: later → ∃ operation ∈ later, operation.Ends := by
  unfold LauncherModel.canStart at h
  simp only [Bool.and_eq_true,Bool.not_eq_true',List.isEmpty_iff] at h
  obtain ⟨⟨⟨hactive,hfresh⟩,hmissing⟩,hissues⟩ := h
  exact ⟨validated_of_fresh hfresh,hissues,modelAfter_descriptors operations,
    fun field hfield => required_present hmissing hfield,fun field hfield => group_present hmissing hfield,hactive,
    ended_of_idle hactive⟩

/-- A preflight that reads the one ROM that is there. -/
def romPreflight (request : CheckOptions) : PreflightResult :=
  if request.rom = "game.md" then { diagnostics := [request.output] }
    else { issues := [⟨"--rom","material_unreadable"⟩] }

/-- A form that is checked with a ROM that is not there, corrected, checked and started, and then checked again at its
end. -/
def filledForm : List LauncherOperation :=
  [.set "--rom" "gone.md",.set "--output" "out",.prefill "--take=one.take\n",.setEnvironment ⟨some "runtime",none⟩,
    .revalidate romPreflight,.set "--rom" "game.md",.revalidate romPreflight,.started,.phase ⟨.running,0⟩,.finished {}]

theorem canStart_validated_filled :
    (modelAfter filledForm).request = { emptyRequest with
      runtime := "runtime", rom := "game.md", output := "out", takes := ["one.take"], presentation := "visible" } ∧
    (modelAfter (filledForm.take 5)).canStart = false ∧ Validated filledForm :=
  ⟨by decide +kernel,by decide +kernel,(canStart_validated filledForm (by decide +kernel)).1⟩

end Start
end AytherRuntime.Launcher
