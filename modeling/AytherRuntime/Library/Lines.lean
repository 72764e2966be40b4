import Mathlib.Data.List.Basic

/-! The lines of a text, as a loop takes them off up to each line feed; a line feed at the end begins no other line.
A text without the blanks around it. -/
namespace AytherRuntime.Lines

section Split

def linesOf : List Char → List (List Char)
  | [] => []
  | character :: rest =>
    if character = '\n' then [] :: linesOf rest
    else
      match linesOf rest with
      | [] => [[character]]
      | line :: lines => (character :: line) :: lines

theorem linesOf_newline (rest : List Char) : linesOf ('\n' :: rest) = [] :: linesOf rest := rfl

theorem linesOf_cons {character : Char} (h : ¬character = '\n') {rest line : List Char} {lines : List (List Char)}
    (hrest : linesOf rest = line :: lines) : linesOf (character :: rest) = (character :: line) :: lines := by
  rw [linesOf,if_neg h,hrest]

/-- A line that is ended by its line feed. -/
theorem linesOf_line {line : List Char} (h : '\n' ∉ line) (rest : List Char) :
    linesOf (line ++ '\n' :: rest) = line :: linesOf rest := by
  induction line with
  | nil => exact linesOf_newline rest
  | cons character line ih =>
    have hcharacter : ¬character = '\n' := fun hsame => h (hsame ▸ List.mem_cons_self)
    exact linesOf_cons hcharacter (ih fun hmem => h (List.mem_cons_of_mem _ hmem))

/-- Lines that are written one after the other, each with its line feed. -/
theorem linesOf_flatMap {lines : List (List Char)} (h : ∀ line ∈ lines, '\n' ∉ line) :
    linesOf (lines.flatMap (· ++ ['\n'])) = lines := by
  induction lines with
  | nil => rfl
  | cons line lines ih =>
    obtain ⟨hline,hlines⟩ := List.forall_mem_cons.mp h
    rw [List.flatMap_cons,List.append_assoc,List.singleton_append,linesOf_line hline,ih hlines]

end Split

section Trim
variable {α : Type*} (blank : α → Bool)

/-- The text from its first to its last character that is not blank. -/
def trimmed (text : List α) : List α := ((text.dropWhile blank).reverse.dropWhile blank).reverse

/-- A text that neither begins nor ends with a blank. -/
def Solid (text : List α) : Prop :=
  (∃ first rest, text = first :: rest ∧ blank first = false) ∧ ∃ init last, text = init ++ [last] ∧ blank last = false

variable {blank}

theorem trimmed_solid {text before after : List α} (h : Solid blank text) (hbefore : ∀ a ∈ before, blank a = true)
    (hafter : ∀ a ∈ after, blank a = true) : trimmed blank (before ++ text ++ after) = text := by
  obtain ⟨⟨first,rest,hfirst,hfirstBlank⟩,init,last,hlast,hlastBlank⟩ := h
  have hfront : (before ++ text ++ after).dropWhile blank = text ++ after := by
    rw [List.append_assoc,List.dropWhile_append_of_pos hbefore,hfirst,List.cons_append,
      List.dropWhile_cons_of_neg (by simp [hfirstBlank])]
  have hback : (text ++ after).reverse.dropWhile blank = text.reverse := by
    rw [List.reverse_append,List.dropWhile_append_of_pos fun a ha => hafter a (List.mem_reverse.mp ha),hlast,
      List.reverse_append,List.reverse_singleton,List.singleton_append,
      List.dropWhile_cons_of_neg (by simp [hlastBlank])]
  unfold trimmed
  rw [hfront,hback,List.reverse_reverse]

theorem trimmed_before {text before : List α} (h : Solid blank text) (hbefore : ∀ a ∈ before, blank a = true) :
    trimmed blank (before ++ text) = text := by
  have htrimmed := trimmed_solid h hbefore (List.forall_mem_nil _)
  rwa [List.append_nil] at htrimmed

theorem trimmed_after {text after : List α} (h : Solid blank text) (hafter : ∀ a ∈ after, blank a = true) :
    trimmed blank (text ++ after) = text := by
  have htrimmed := trimmed_solid h (List.forall_mem_nil _) hafter
  rwa [List.nil_append] at htrimmed

theorem trimmed_of_solid {text : List α} (h : Solid blank text) : trimmed blank text = text :=
  trimmed_before h (List.forall_mem_nil _)

/-- A text of other characters is solid. -/
theorem solid_of_forall {text : List α} (hne : text ≠ []) (h : ∀ a ∈ text, blank a = false) : Solid blank text := by
  constructor
  · obtain ⟨first,rest,rfl⟩ := List.exists_cons_of_ne_nil hne
    exact ⟨first,rest,rfl,h first List.mem_cons_self⟩
  · exact ⟨text.dropLast,text.getLast hne,(List.dropLast_append_getLast hne).symm,h _ (List.getLast_mem hne)⟩

theorem Solid.append {front back : List α} (hfront : Solid blank front) (hback : Solid blank back)
    (middle : List α) : Solid blank (front ++ middle ++ back) := by
  obtain ⟨⟨first,rest,hfirst,hfirstBlank⟩,-⟩ := hfront
  obtain ⟨-,init,last,hlast,hlastBlank⟩ := hback
  exact ⟨⟨first,rest ++ middle ++ back,by rw [hfirst]; simp,hfirstBlank⟩,
    front ++ middle ++ init,last,by rw [hlast]; simp,hlastBlank⟩

theorem Solid.ne_nil {text : List α} (h : Solid blank text) : text ≠ [] := by
  obtain ⟨⟨first,rest,rfl,-⟩,-⟩ := h
  exact List.cons_ne_nil _ _

/-- A text between two characters that are not blank is solid. -/
theorem solid_between {first last : α} (hfirst : blank first = false) (hlast : blank last = false) (inner : List α) :
    Solid blank (first :: inner ++ [last]) :=
  ⟨⟨first,inner ++ [last],rfl,hfirst⟩,first :: inner,last,rfl,hlast⟩

end Trim
end AytherRuntime.Lines
