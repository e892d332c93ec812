import Colloquy.Json.Field

/-!
# Records are read back field by field

A record is written as the members that it has, in the order of its fields, and what a field is left
out for is for the record to say. `filled` is that shape: a list of all fields, some with a value
and some without. Reading the fields of such a record by their names gives the list back
(`fields?_filled`), so a round trip of a record is a round trip of each of its fields.
-/

namespace Colloquy

namespace Json

variable {α β : Type}

/-- Reading each item of a list, where each is read. -/
theorem mapM_eq_some {l : List α} {f : α → Option β} {g : α → β}
    (h : ∀ a ∈ l, f a = some (g a)) : l.mapM f = some (l.map g) := by
  induction l with
  | nil => rfl
  | cons a l ih =>
    rw [List.mapM_cons, h a List.mem_cons_self, ih fun b hb => h b (List.mem_cons_of_mem a hb)]
    rfl

theorem mapM_eq_self {l : List α} {f : α → Option α} (h : ∀ a ∈ l, f a = some a) :
    l.mapM f = some l :=
  (mapM_eq_some (g := id) h).trans (congrArg some (List.map_id l))

/-- **A list is read back item by item.** -/
theorem asList?_map {read : Json → Option α} {write : α → Json} {l : List α}
    (h : ∀ a ∈ l, read (write a) = some a) : (Json.list (l.map write)).asList? read = some l := by
  rw [asList?, List.mapM_map]
  exact mapM_eq_self h

/-- The members of an object with proper keys are read back. -/
theorem asMembers?_ofMembers (members : List (String × Json)) :
    (ofMembers members).asMembers? = some members := by
  rw [ofMembers, asMembers?, List.mapM_map]
  exact mapM_eq_self fun _ _ => rfl

/-- **A table is read back entry by entry.** -/
theorem asTable?_ofMembers {read : Json → Option α} {write : α → Json} {m : TextMap α}
    (h : ∀ key a, m.get? key = some a → read (write a) = some a) :
    (ofMembers (m.entries.map fun (key, a) => (key, write a))).asTable? read = some m := by
  have hentries : (m.entries.map fun entry => (entry.1, write entry.2)).mapM
      (fun member => (read member.2).map fun a => (member.1, a)) = some m.entries := by
    rw [List.mapM_map]
    refine mapM_eq_self fun entry hentry => ?_
    show (read (write entry.2)).map (fun a => (entry.1, a)) = _
    rw [h entry.1 entry.2 (TextMap.mem_entries.1 hentry)]
    rfl
  rw [asTable?, asMembers?_ofMembers, Option.bind_eq_bind, Option.bind_some, hentries]
  exact congrArg some (TextMap.ofList_eq_of_perm (List.Perm.refl _))

/-! ## Records -/

/-- The members that a record has, given all its fields. -/
def filled (fields : List (String × Option Json)) : List (String × Json) :=
  fields.filterMap fun (name, value?) => value?.map fun value => (name, value)

variable {fields : List (String × Option Json)} {name : String}

/-- What the record has under a name that is no field. -/
theorem filter_filled_of_not_mem (h : name ∉ fields.map Prod.fst) :
    (filled fields).filter (fun member => member.1 = name) = [] := by
  refine List.filter_eq_nil_iff.2 fun member hmember heq => h ?_
  obtain ⟨⟨key, value?⟩, hfield, hvalue⟩ := List.mem_filterMap.1 hmember
  obtain ⟨value, -, rfl⟩ := Option.map_eq_some_iff.1 hvalue
  obtain rfl : key = name := of_decide_eq_true heq
  exact List.mem_map.2 ⟨_, hfield, rfl⟩

/-- What the record has under the name of a field. -/
theorem filter_filled (h : (fields.map Prod.fst).Nodup) {value? : Option Json}
    (hfield : (name, value?) ∈ fields) :
    (filled fields).filter (fun member => member.1 = name) =
      value?.toList.map fun value => (name, value) := by
  induction fields with
  | nil => exact absurd hfield List.not_mem_nil
  | cons field fields ih =>
    obtain ⟨hnew, hrest⟩ := List.nodup_cons.1 h
    rcases List.mem_cons.1 hfield with rfl | hfield
    · have hnone := filter_filled_of_not_mem hnew
      cases value? <;> simpa [filled] using hnone
    · have hne : field.1 ≠ name := by
        rintro rfl
        exact hnew (List.mem_map.2 ⟨_, hfield, rfl⟩)
      rw [← ih hrest hfield]
      obtain ⟨key, none | value⟩ := field
      · rfl
      · simp only [filled, List.filterMap_cons, Option.map_some]
        exact List.filter_cons_of_neg (by simpa using hne)

/-- **The fields of a record are read back by their names**, those that are left out as absent. -/
theorem fields?_filled (fields : List (String × Option Json))
    (h : (fields.map Prod.fst).Nodup) :
    (ofMembers (filled fields)).fields? (fields.map Prod.fst) = some (fields.map Prod.snd) := by
  have hfields : (ofMembers (filled fields)).fields? (fields.map Prod.fst) =
      (ofMembers (filled fields)).asMembers?.bind (pick? (fields.map Prod.fst)) := rfl
  rw [hfields, asMembers?_ofMembers, Option.bind_some, pick?, List.mapM_map]
  refine mapM_eq_some fun field hfield => ?_
  obtain ⟨name, value?⟩ := field
  simp only [Function.comp_apply, filter_filled h hfield]
  cases value? <;> rfl

/-! ## Fields -/

variable {values : List (Option Json)} {i : Nat} {read : Json → Option α} {a : α}

/-- A field that is always there. -/
theorem required_eq_some {j : Json} (hfield : values[i]? = some (some j))
    (hread : read j = some a) : required values i read = some a := by
  rw [required, hfield]
  exact hread

/-- A field that is left out where it has its default. -/
theorem withDefault_eq_some {field? : Option Json} {default : α}
    (hfield : values[i]? = some field?) (hdefault : field? = none → a = default)
    (hread : ∀ j, field? = some j → read j = some a) :
    withDefault values i default read = some a := by
  rw [withDefault, hfield]
  cases field? with
  | none => rw [hdefault rfl]; rfl
  | some j => exact hread j rfl

/-- A field that is left out where there is no value. -/
theorem optional_eq_some {write : α → Json} {value? : Option α}
    (hfield : values[i]? = some (value?.map write)) (hnull : read .null = none)
    (hread : ∀ a, value? = some a → read (write a) = some a) :
    optional values i read = some value? := by
  rw [optional, hfield]
  cases value? with
  | none => rfl
  | some a =>
    have hvalue := hread a rfl
    rw [Option.map_some]
    cases hwrite : write a with
    | null =>
      rw [hwrite, hnull] at hvalue
      cases hvalue
    | bool | number | text | list | object => exact congrArg (·.map some) (hwrite ▸ hvalue)

end Json

end Colloquy
