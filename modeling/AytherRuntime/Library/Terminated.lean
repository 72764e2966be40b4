import Mathlib.Data.List.Flatten
import Mathlib.Data.List.Induction

/-! Words that are written one after the other, each with its stop, and records of one width after a mark. -/
namespace AytherRuntime.Terminated
variable {α : Type*}

/-- Each word followed by the stop. -/
def terminated (stop : α) (words : List (List α)) : List α := words.flatMap (· ++ [stop])

lemma append_stop_inj {stop : α} {word word' rest rest' : List α} (h : stop ∉ word) (h' : stop ∉ word')
    (hsame : word ++ stop :: rest = word' ++ stop :: rest') : word = word' ∧ rest = rest' := by
  induction word generalizing word' with
  | nil =>
    cases word' with
    | nil => exact ⟨rfl,(List.cons.inj hsame).2⟩
    | cons a word' => exact absurd ((List.cons.inj hsame).1 ▸ List.mem_cons_self) h'
  | cons a word ih =>
    cases word' with
    | nil => exact absurd ((List.cons.inj hsame).1 ▸ List.mem_cons_self) h
    | cons b word' =>
      obtain ⟨hhead,htail⟩ := List.cons.inj hsame
      obtain ⟨hword,hrest⟩ := ih (fun hmem => h (List.mem_cons_of_mem _ hmem))
        (fun hmem => h' (List.mem_cons_of_mem _ hmem)) htail
      exact ⟨by rw [hhead,hword],hrest⟩

/-- Words without the stop are known from what is written. -/
theorem terminated_injective {stop : α} {words words' : List (List α)} (h : ∀ word ∈ words, stop ∉ word)
    (h' : ∀ word ∈ words', stop ∉ word) (hsame : terminated stop words = terminated stop words') :
    words = words' := by
  induction words generalizing words' with
  | nil =>
    cases words' with
    | nil => rfl
    | cons word' words' => simp [terminated] at hsame
  | cons word words ih =>
    cases words' with
    | nil => simp [terminated] at hsame
    | cons word' words' =>
      obtain ⟨hword,hwords⟩ := List.forall_mem_cons.mp h
      obtain ⟨hword',hwords'⟩ := List.forall_mem_cons.mp h'
      have hsplit : word ++ stop :: terminated stop words = word' ++ stop :: terminated stop words' := by
        simpa [terminated] using hsame
      obtain ⟨hhead,htail⟩ := append_stop_inj hword hword' hsplit
      rw [hhead,ih hwords hwords' htail]

/-- A record of a width whose last word is not the mark. -/
def Record (width : ℕ) (mark : α) (record : List α) : Prop :=
  ∃ init last, record = init ++ [last] ∧ init.length = width ∧ last ≠ mark

lemma Record.length {width : ℕ} {mark : α} {record : List α} (h : Record width mark record) :
    record.length = width + 1 := by
  obtain ⟨init,last,rfl,hinit,-⟩ := h
  rw [List.length_append,hinit,List.length_singleton]

/-- A text that ends with its mark is no text that ends with a record. -/
lemma mark_ne_record {width : ℕ} {mark : α} {record : List α} (h : Record width mark record)
    (before front : List α) : before ++ [mark] ≠ front ++ record := by
  obtain ⟨init,last,rfl,-,hlast⟩ := h
  intro hsame
  rw [← List.append_assoc] at hsame
  exact hlast (List.singleton_inj.mp (List.append_inj' hsame rfl).2).symm

lemma marked_concat (before : List α) (mark : α) (records : List (List α)) (record : List α) :
    before ++ mark :: (records ++ [record]).flatten = (before ++ mark :: records.flatten) ++ record := by
  rw [List.flatten_concat,← List.cons_append,← List.append_assoc]

/-- Whatever stands before the mark, also the mark itself, the records after it are known from their end. -/
theorem marked_records_inj {width : ℕ} {mark : α} {before before' : List α} {records records' : List (List α)}
    (h : ∀ record ∈ records, Record width mark record) (h' : ∀ record ∈ records', Record width mark record)
    (hsame : before ++ mark :: records.flatten = before' ++ mark :: records'.flatten) :
    before = before' ∧ records = records' := by
  induction records using List.reverseRecOn generalizing records' with
  | nil =>
    cases records' using List.reverseRecOn with
    | nil => exact ⟨(List.append_inj' hsame rfl).1,rfl⟩
    | append_singleton records' record' =>
      rw [marked_concat before'] at hsame
      exact absurd hsame (mark_ne_record (h' record' (by simp)) _ _)
  | append_singleton records record ih =>
    rw [marked_concat before] at hsame
    cases records' using List.reverseRecOn with
    | nil => exact absurd hsame.symm (mark_ne_record (h record (by simp)) _ _)
    | append_singleton records' record' =>
      rw [marked_concat before'] at hsame
      have hlength : record.length = record'.length := by
        rw [(h record (by simp)).length,(h' record' (by simp)).length]
      obtain ⟨hfront,hlast⟩ := List.append_inj' hsame hlength
      obtain ⟨hbefore,hrecords⟩ := ih (fun record hmem => h record (by simp [hmem]))
        (fun record hmem => h' record (by simp [hmem])) hfront
      exact ⟨hbefore,by rw [hrecords,hlast]⟩

end AytherRuntime.Terminated
