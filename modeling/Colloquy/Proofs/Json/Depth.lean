import Colloquy.Proofs.Json.Field

/-!
# How deep a document nests

A container nests one deeper than what is in it. Each law says so for one kind of container and in
both directions: a bound for the container is a bound for its parts.
-/

namespace Colloquy

namespace Json

variable {n : Nat}

theorem depthOfItems_le {items : List Json} :
    depthOfItems items ≤ n ↔ ∀ item ∈ items, item.depth ≤ n := by
  induction items with
  | nil => simp [depthOfItems]
  | cons item items ih => rw [depthOfItems, Nat.max_le, ih, List.forall_mem_cons]

theorem depthOfMembers_le {members : List (Option String × Json)} :
    depthOfMembers members ≤ n ↔ ∀ member ∈ members, member.2.depth ≤ n := by
  induction members with
  | nil => simp [depthOfMembers]
  | cons member members ih => rw [depthOfMembers, Nat.max_le, ih, List.forall_mem_cons]

/-- A list nests one deeper than its items. -/
theorem depth_list_le {items : List Json} :
    (Json.list items).depth ≤ n + 1 ↔ ∀ item ∈ items, item.depth ≤ n := by
  rw [depth, Nat.add_le_add_iff_right, depthOfItems_le]

theorem depth_lt_of_mem {items : List Json} {item : Json} (h : item ∈ items) :
    item.depth < (Json.list items).depth :=
  Nat.lt_succ_of_le (depthOfItems_le.1 (Nat.le_refl _) item h)

/-- An object nests one deeper than its values. -/
theorem depth_ofMembers_le {members : List (String × Json)} :
    (ofMembers members).depth ≤ n + 1 ↔ ∀ member ∈ members, member.2.depth ≤ n := by
  rw [ofMembers, depth, Nat.add_le_add_iff_right, depthOfMembers_le, List.forall_mem_map]

theorem depth_lt_of_mem_ofMembers {members : List (String × Json)} {member : String × Json}
    (h : member ∈ members) : member.2.depth < (ofMembers members).depth :=
  Nat.lt_succ_of_le (depth_ofMembers_le.1 (Nat.le_refl (depthOfMembers _ + 1)) member h)

/-- A record nests one deeper than those of its fields that it has. -/
theorem depth_filled_le {fields : List (String × Option Json)} :
    (ofMembers (filled fields)).depth ≤ n + 1 ↔
      ∀ field ∈ fields, ∀ value, field.2 = some value → value.depth ≤ n := by
  rw [depth_ofMembers_le]
  constructor
  · rintro h ⟨name, value?⟩ hfield value rfl
    exact h (name, value) (List.mem_filterMap.2 ⟨_, hfield, rfl⟩)
  · intro h member hmember
    obtain ⟨⟨name, value?⟩, hfield, hvalue⟩ := List.mem_filterMap.1 hmember
    obtain ⟨value, rfl, rfl⟩ := Option.map_eq_some_iff.1 hvalue
    exact h _ hfield value rfl

theorem depth_lt_of_mem_filled {fields : List (String × Option Json)} {name : String}
    {value : Json} (h : (name, some value) ∈ fields) :
    value.depth < (ofMembers (filled fields)).depth :=
  Nat.lt_succ_of_le (depth_filled_le.1 (Nat.le_refl (depthOfMembers _ + 1)) _ h value rfl)

end Json

end Colloquy
