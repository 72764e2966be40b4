import Mathlib.Data.List.Induction

/-! Histories whose every event is judged by the events before it. In a history of reports of a total that grows, when
each of its units arrived. -/
namespace AytherRuntime.History

variable {ε : Type*} {P : List ε → ε → Prop} {history : List ε} {event : ε}

/-- Each event holds of the history before it. -/
def Each (P : List ε → ε → Prop) (history : List ε) : Prop :=
  ∀ before event later, history = before ++ event :: later → P before event

theorem each_nil : Each P [] := by
  intro before event later h
  cases before <;> cases h

theorem Each.snoc (h : Each P history) (hevent : P history event) : Each P (history ++ [event]) := by
  intro before other later hsplit
  rcases List.eq_nil_or_concat later with rfl | ⟨rest,last,rfl⟩
  · obtain ⟨rfl,hother⟩ := List.append_inj' hsplit rfl
    cases hother
    exact hevent
  · rw [List.concat_eq_append,← List.cons_append,← List.append_assoc] at hsplit
    obtain ⟨rfl,-⟩ := List.append_inj' hsplit rfl
    exact h before other rest rfl

theorem Each.append {events : List ε} (h : Each P history)
    (hevents : ∀ before event later, events = before ++ event :: later → P (history ++ before) event) :
    Each P (history ++ events) := by
  induction events using List.reverseRecOn with
  | nil =>
    rw [List.append_nil]
    exact h
  | append_singleton events event ih =>
    rw [← List.append_assoc]
    refine (ih fun before other later hsplit => ?_).snoc (hevents events event [] rfl)
    exact hevents before other (later ++ [event]) (by rw [hsplit,List.append_assoc,List.cons_append])

section Since
variable {on off : List ε → ε → Prop}

/-- Some event turned it on and no event turned it off since, each judged by the history before it. -/
def Since (on off : List ε → ε → Prop) (history : List ε) : Prop :=
  ∃ before event after, history = before ++ event :: after ∧ on before event ∧
    ∀ mid later rest, after = mid ++ later :: rest → ¬off (before ++ event :: mid) later

theorem not_since_nil : ¬Since on off [] := by
  rintro ⟨before,event,after,hsplit,-⟩
  cases before <;> cases hsplit

theorem since_snoc :
    Since on off (history ++ [event]) ↔ on history event ∨ (Since on off history ∧ ¬off history event) := by
  constructor
  · rintro ⟨before,first,after,hsplit,hon,hoff⟩
    rcases List.eq_nil_or_concat after with rfl | ⟨rest,last,rfl⟩
    · obtain ⟨rfl,hevent⟩ := List.append_inj' hsplit rfl
      cases hevent
      exact Or.inl hon
    · rw [List.concat_eq_append,← List.cons_append,← List.append_assoc] at hsplit
      obtain ⟨rfl,hevent⟩ := List.append_inj' hsplit rfl
      cases hevent
      refine Or.inr ⟨⟨before,first,rest,rfl,hon,fun mid later more hmid => ?_⟩,hoff rest event [] (by simp)⟩
      exact hoff mid later (more ++ [event]) (by rw [hmid]; simp)
  · rintro (hon | ⟨⟨before,first,after,rfl,hon,hoff⟩,hnot⟩)
    · refine ⟨history,event,[],rfl,hon,fun mid later rest hmid => ?_⟩
      cases mid <;> cases hmid
    · refine ⟨before,first,after ++ [event],by simp,hon,fun mid later rest hmid => ?_⟩
      rcases List.eq_nil_or_concat rest with rfl | ⟨more,last,rfl⟩
      · obtain ⟨rfl,hlater⟩ := List.append_inj' hmid rfl
        cases hlater
        exact hnot
      · rw [List.concat_eq_append,← List.cons_append,← List.append_assoc] at hmid
        obtain ⟨rfl,-⟩ := List.append_inj' hmid rfl
        exact hoff mid later more rfl

end Since

section Arrivals
variable {α τ : Type*} [LT α] [DecidableLT α]

/-- The time of the first report whose total goes beyond a place. -/
def arrival (reports : List (α × τ)) (place : α) : Option τ :=
  (reports.find? fun report => place < report.1).map Prod.snd

@[simp] lemma arrival_nil (place : α) : arrival ([] : List (α × τ)) place = none := rfl

/-- A later report is the arrival of those units alone that no report before it has covered. -/
lemma arrival_concat (reports : List (α × τ)) (report : α × τ) (place : α) :
    arrival (reports ++ [report]) place =
      (arrival reports place).or (if place < report.1 then some report.2 else none) := by
  unfold arrival
  rw [List.find?_append,Option.map_or,List.find?_singleton]
  split <;> simp_all

lemma arrival_eq_none_iff {reports : List (α × τ)} {place : α} :
    arrival reports place = none ↔ ∀ report ∈ reports, ¬place < report.1 := by
  simp [arrival]

lemma mem_of_arrival {reports : List (α × τ)} {place : α} {time : τ}
    (h : arrival reports place = some time) : ∃ report ∈ reports, place < report.1 ∧ report.2 = time := by
  obtain ⟨report,hfind,htime⟩ := Option.map_eq_some_iff.mp h
  exact ⟨report,List.mem_of_find?_eq_some hfind,by simpa using List.find?_some hfind,htime⟩

end Arrivals

end AytherRuntime.History
