import AytherRuntime.Library.Checked

/-! Walks of a cursor over a byte string, which may stop with an error, against the readers that take the same
parts from what is left of the bytes. -/
namespace AytherRuntime.Walks
open Codec

/-- The walk from a place of the cursor: no answer where something is read outside the bytes or wraps, else an
error or a value and the next place. -/
abbrev Walk (ε α : Type) := StateT ℕ (ExceptT ε Option) α

section Steps
variable {ε α : Type}

def stop (error : ε) : Walk ε α := fun _ => some (.error error)

/-- A value whose computation may wrap. -/
def computed (value : Option α) : Walk ε α := fun offset => value.map fun a => .ok (a,offset)

/-- The step to the place after some bytes, which are there. -/
def skip (bytes : Bytes) (error : ε) (count : ℕ) : Walk ε Unit := fun offset =>
  if offset ≤ bytes.length ∧ count ≤ bytes.length - offset then
    (Checked.add 64 offset count).map fun next => .ok ((),next)
  else some (.error error)

/-- A number of a width, and the step over it. -/
def number (bytes : Bytes) (error : ε) (width : ℕ) : Walk ε ℕ := fun offset =>
  if offset ≤ bytes.length ∧ width ≤ bytes.length - offset then
    (Checked.readAt bytes offset width).bind fun value =>
      (Checked.add 64 offset width).map fun next => .ok (value,next)
  else some (.error error)

/-- The check that some bytes are there. -/
def require (bytes : Bytes) (error : ε) (count : ℕ) : Walk ε Unit := fun offset =>
  if offset ≤ bytes.length ∧ count ≤ bytes.length - offset then some (.ok ((),offset))
  else some (.error error)

/-- The place of the cursor. -/
def place : Walk ε ℕ := fun offset => some (.ok (offset,offset))

end Steps

section Follows
variable {ε α β γ δ : Type} {bytes : Bytes} {errors : ε → Prop}

/-- From every place in the bytes the walk ends where the reader ends, with a value that its value allows, and
stops with one of the errors where the reader fails. -/
def Follows (bytes : Bytes) (errors : ε → Prop) (walk : Walk ε α) (read : Reader β) (allows : β → α → Prop) : Prop :=
  ∀ offset ≤ bytes.length,
    (∀ b rest, read (bytes.drop offset) = some (b,rest) → ∃ a next, walk offset = some (.ok (a,next)) ∧
      next ≤ bytes.length ∧ rest = bytes.drop next ∧ allows b a) ∧
    (read (bytes.drop offset) = none → ∃ error, errors error ∧ walk offset = some (.error error))

lemma bind_ok {walk : Walk ε α} {next : α → Walk ε γ} {offset place : ℕ} {a : α}
    (h : walk offset = some (.ok (a,place))) : (walk >>= next) offset = next a place := by
  change (walk offset).bind _ = _
  rw [h]
  rfl

lemma bind_error {walk : Walk ε α} {next : α → Walk ε γ} {offset : ℕ} {error : ε}
    (h : walk offset = some (.error error)) : (walk >>= next) offset = some (.error error) := by
  change (walk offset).bind _ = _
  rw [h]
  rfl

lemma Follows.bind {walk : Walk ε α} {read : Reader β} {allows : β → α → Prop} {walk' : α → Walk ε γ}
    {read' : β → Reader δ} {allows' : δ → γ → Prop} (h : Follows bytes errors walk read allows)
    (h' : ∀ b a, allows b a → Follows bytes errors (walk' a) (read' b) allows') :
    Follows bytes errors (walk >>= walk') (read >>= read') allows' := by
  intro offset hoffset
  obtain ⟨hsome,hnone⟩ := h offset hoffset
  constructor
  · intro d rest hread
    obtain ⟨b,mid,hfirst,hsecond⟩ := bind_eq_some.mp hread
    obtain ⟨a,next,hwalk,hnext,rfl,hallows⟩ := hsome b mid hfirst
    obtain ⟨c,last,hlast,hrest⟩ := (h' b a hallows next hnext).1 d rest hsecond
    exact ⟨c,last,(bind_ok hwalk).trans hlast,hrest⟩
  · intro hread
    cases hfirst : read (bytes.drop offset) with
    | none =>
      obtain ⟨error,herror,hwalk⟩ := hnone hfirst
      exact ⟨error,herror,bind_error hwalk⟩
    | some p =>
      obtain ⟨a,next,hwalk,hnext,hmid,hallows⟩ := hsome p.1 p.2 hfirst
      have hsecond : read' p.1 (bytes.drop next) = none := by
        rw [← hmid]
        change (read (bytes.drop offset)).bind (fun p => read' p.1 p.2) = none at hread
        rwa [hfirst,Option.bind_some] at hread
      obtain ⟨error,herror,hlast⟩ := (h' p.1 a hallows next hnext).2 hsecond
      exact ⟨error,herror,(bind_ok hwalk).trans hlast⟩

lemma follows_pure {a : α} {b : β} {allows : β → α → Prop} (h : allows b a) :
    Follows bytes errors (pure a : Walk ε α) (pure b) allows := by
  intro offset hoffset
  constructor
  · intro b' rest hread
    obtain ⟨rfl,rfl⟩ := pure_eq_some.mp hread
    exact ⟨a,offset,rfl,hoffset,rfl,h⟩
  · intro hread
    cases hread

/-- The reader may make something else of its value. -/
lemma Follows.readMap {walk : Walk ε α} {read : Reader β} {allows : β → α → Prop} {allows' : δ → α → Prop}
    {f : β → δ} (h : Follows bytes errors walk read allows) (hf : ∀ b a, allows b a → allows' (f b) a) :
    Follows bytes errors walk (read >>= fun b => pure (f b)) allows' := by
  have hbind : Follows bytes errors (walk >>= pure) (read >>= fun b => pure (f b)) allows' :=
    h.bind fun b a hab => follows_pure (hf b a hab)
  rwa [bind_pure] at hbind

lemma follows_stop {error : ε} {allows : β → α → Prop} (herror : errors error) :
    Follows bytes errors (stop error : Walk ε α) (failure : Reader β) allows := by
  intro offset _
  exact ⟨fun b rest hread => absurd hread failure_eq_some,fun _ => ⟨error,herror,rfl⟩⟩

/-- A computation that does not wrap takes nothing from the bytes. -/
lemma Follows.computed {value : Option α} {a : α} {walk : α → Walk ε γ} {read : Reader δ} {allows : δ → γ → Prop}
    (hvalue : value = some a) (h : Follows bytes errors (walk a) read allows) :
    Follows bytes errors (computed value >>= walk) read allows := by
  rw [hvalue]
  exact h

lemma follows_skip {error : ε} {count : ℕ} (hbytes : bytes.length < 2 ^ 64) (herror : errors error) :
    Follows bytes errors (skip bytes error count) (take count) fun _ _ => True := by
  intro offset hoffset
  unfold skip take
  rw [List.length_drop]
  split_ifs with hcount hboth hboth
  · rw [Checked.add_eq (by omega)]
    refine ⟨?_,by simp⟩
    rintro b rest ⟨⟩
    exact ⟨(),offset + count,rfl,by omega,List.drop_drop,trivial⟩
  · exact absurd ⟨hoffset,hcount⟩ hboth
  · exact absurd hboth.2 hcount
  · exact ⟨by simp,fun _ => ⟨error,herror,rfl⟩⟩

lemma follows_number {error : ε} {width : ℕ} (hbytes : bytes.length < 2 ^ 64) (herror : errors error) :
    Follows bytes errors (number bytes error width) (readLe width) fun n m => m = n ∧ n < 256 ^ width := by
  intro offset hoffset
  unfold number readLe take
  rw [← bind_pure_comp]
  change (∀ b rest, (if width ≤ (bytes.drop offset).length then
      some ((bytes.drop offset).take width,(bytes.drop offset).drop width) else none).bind
        (fun p => some (fromLe p.1,p.2)) = some (b,rest) → _) ∧
    ((if width ≤ (bytes.drop offset).length then
      some ((bytes.drop offset).take width,(bytes.drop offset).drop width) else none).bind
        (fun p => some (fromLe p.1,p.2)) = none → _)
  rw [List.length_drop]
  split_ifs with hwidth hboth hboth
  · rw [Checked.add_eq (by omega),Checked.readAt_eq (by omega)]
    refine ⟨?_,by simp⟩
    rintro b rest ⟨⟩
    exact ⟨_,offset + width,rfl,by omega,List.drop_drop,rfl,Checked.field_lt bytes offset width⟩
  · exact absurd ⟨hoffset,hwidth⟩ hboth
  · exact absurd hboth.2 hwidth
  · exact ⟨by simp,fun _ => ⟨error,herror,rfl⟩⟩

/-- Bytes that are there are skipped from a place that is remembered. -/
lemma follows_marked {error : ε} {count : ℕ} (hbytes : bytes.length < 2 ^ 64) (herror : errors error) :
    Follows bytes errors
      (do
        require bytes error count
        let start ← place
        skip bytes error count
        pure start)
      (take count) fun taken start => Checked.slice bytes start count = some taken := by
  intro offset hoffset
  by_cases hcount : count ≤ bytes.length - offset
  · have hboth : offset ≤ bytes.length ∧ count ≤ bytes.length - offset := ⟨hoffset,hcount⟩
    have hskip : skip bytes error count offset = some (.ok ((),offset + count)) := by
      unfold skip
      rw [if_pos hboth,Checked.add_eq (by omega)]
      rfl
    have hrequire : require bytes error count offset = some (.ok ((),offset)) := if_pos hboth
    have hplace : (place : Walk ε ℕ) offset = some (.ok (offset,offset)) := rfl
    rw [bind_ok hrequire,bind_ok hplace,bind_ok hskip]
    unfold take
    rw [List.length_drop,if_pos hcount]
    refine ⟨?_,by simp⟩
    rintro b rest ⟨⟩
    exact ⟨offset,offset + count,rfl,by omega,List.drop_drop,Checked.slice_eq (by omega)⟩
  · have hrequire : require bytes error count offset = some (.error error) :=
      if_neg fun hboth => hcount hboth.2
    rw [bind_error hrequire]
    unfold take
    rw [List.length_drop,if_neg hcount]
    exact ⟨by simp,fun _ => ⟨error,herror,rfl⟩⟩

/-- The same walk a given number of times. -/
def walkMany (walk : Walk ε Unit) : ℕ → Walk ε Unit
  | 0 => pure ()
  | n + 1 => do
    walk
    walkMany walk n

lemma Follows.many {walk : Walk ε Unit} {read : Reader β} (h : Follows bytes errors walk read fun _ _ => True) (n : ℕ) :
    Follows bytes errors (walkMany walk n) (readMany read n) fun _ _ => True := by
  induction n with
  | zero => exact follows_pure trivial
  | succ n ih => exact h.bind fun b _ _ => ih.readMap fun _ _ _ => trivial

end Follows
end AytherRuntime.Walks
