/-!
# Noted results — a value with what was remarked on the way

`Noted ν α` is a value of type `α` together with the notes of type `ν` made while it was computed,
oldest first. Reading a script notes flaws and running a conversation notes log records. The notes
never influence the value: `value_bind` reads the value of a composed computation off the values
of its parts, so a statement about values forgets notes by rewriting.
-/

namespace Colloquy

/-- A value with the notes made on the way to it, oldest first. -/
structure Noted (ν : Type) (α : Type) where
  /-- What was computed. -/
  value : α
  /-- What was remarked, oldest first. -/
  notes : List ν
  deriving DecidableEq, Repr

namespace Noted

variable {ν μ α β : Type}

/-- A value nothing was remarked about. -/
protected def pure (a : α) : Noted ν α := ⟨a, []⟩

/-- Compute on from a value, keeping its notes in front. -/
protected def bind (x : Noted ν α) (f : α → Noted ν β) : Noted ν β :=
  let y := f x.value
  ⟨y.value, x.notes ++ y.notes⟩

instance : Monad (Noted ν) where
  pure := Noted.pure
  bind := Noted.bind

/-- Remark one thing. -/
def note (n : ν) : Noted ν Unit := ⟨(), [n]⟩

/-- Remark several things. -/
def noteAll (ns : List ν) : Noted ν Unit := ⟨(), ns⟩

/-- Restate every note. -/
def mapNotes (f : ν → μ) (x : Noted ν α) : Noted μ α := ⟨x.value, x.notes.map f⟩

/-- Compute a value for each element of a list, keeping all notes in the order of the elements. -/
def each (f : α → Noted ν β) (l : List α) : Noted ν (List β) :=
  let results := l.map f
  ⟨results.map value, results.flatMap notes⟩

/-! ## What composition does to values and notes -/

@[simp] theorem value_pure (a : α) : (pure a : Noted ν α).value = a := rfl

@[simp] theorem notes_pure (a : α) : (pure a : Noted ν α).notes = [] := rfl

@[simp] theorem value_bind (x : Noted ν α) (f : α → Noted ν β) :
    (x >>= f).value = (f x.value).value := rfl

@[simp] theorem notes_bind (x : Noted ν α) (f : α → Noted ν β) :
    (x >>= f).notes = x.notes ++ (f x.value).notes := rfl

/-- A value nothing was remarked about passes on as it is. -/
protected theorem pure_bind (a : α) (f : α → Noted ν β) : (pure a >>= f) = f a := rfl

@[simp] theorem value_map (f : α → β) (x : Noted ν α) : (f <$> x).value = f x.value := rfl

@[simp] theorem notes_map (f : α → β) (x : Noted ν α) : (f <$> x).notes = x.notes :=
  List.append_nil _

@[simp] theorem value_mapNotes (f : ν → μ) (x : Noted ν α) : (x.mapNotes f).value = x.value := rfl

@[simp] theorem notes_mapNotes (f : ν → μ) (x : Noted ν α) :
    (x.mapNotes f).notes = x.notes.map f := rfl

@[simp] theorem value_note (n : ν) : (note n).value = () := rfl

@[simp] theorem notes_note (n : ν) : (note n).notes = [n] := rfl

@[simp] theorem notes_noteAll (ns : List ν) : (noteAll ns).notes = ns := rfl

@[simp] theorem value_each (f : α → Noted ν β) (l : List α) :
    (each f l).value = l.map fun a => (f a).value := by
  simp [each, Function.comp_def]

@[simp] theorem notes_each (f : α → Noted ν β) (l : List α) :
    (each f l).notes = l.flatMap fun a => (f a).notes := by
  simp [each, List.flatMap_map]

/-- Two steps that are taken after a value are one step. -/
protected theorem bind_assoc {γ : Type} (x : Noted ν α) (f : α → Noted ν β) (g : β → Noted ν γ) :
    (x >>= f) >>= g = x >>= fun a => f a >>= g :=
  congrArg (Noted.mk _) (List.append_assoc _ _ _)

/-- Computing for each element without a remark is mapping. -/
theorem each_eq_pure {f : α → Noted ν β} {l : List α} {bs : List β} (h : l.map f = bs.map pure) :
    each f l = pure bs := by
  rw [each, h, List.map_map, List.flatMap_map]
  simp [Function.comp_def, pure, Noted.pure]

end Noted

end Colloquy
