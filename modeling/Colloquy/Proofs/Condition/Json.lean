import Colloquy.Condition.Json
import Colloquy.Proofs.Json.Depth
import Colloquy.Proofs.Json.RoundTrip

/-!
# Conditions are read back

A condition is written as an object that starts with its kind, and each kind is told from the others
by its name alone. So it is read back whatever its texts are, and however deep it nests as long as
the reader takes it in.
-/

namespace Colloquy

namespace Condition

mutual

/-- What is written for a condition denotes something in all its parts. -/
theorem isSound_toJson (c : Condition) : c.toJson.isSound = true := by
  match c with
  | .asked _ | .notAsked _ | .hasItem _ | .lacksItem _ | .npcState _ _ | .visited _ | .flag _
  | .notFlag _ | .never | .always => rfl
  | .all conditions =>
    have hall := areSoundItems_toJsonAll conditions
    simp [toJson, record, Json.ofMembers, Json.isSound, Json.areSoundMembers, Json.ofString, hall]

theorem areSoundItems_toJsonAll (cs : List Condition) :
    Json.areSoundItems (toJsonAll cs) = true := by
  match cs with
  | [] => rfl
  | c :: cs => rw [toJsonAll, Json.areSoundItems, isSound_toJson c, areSoundItems_toJsonAll cs]; rfl

end

theorem toJsonAll_eq (cs : List Condition) : toJsonAll cs = cs.map toJson := by
  induction cs with
  | nil => rfl
  | cons c cs ih => simp [toJsonAll, ih]

/-- The kind of a condition is told from its fields. -/
theorem kindAndFields?_record (inner : Bool) (kind : String) {fields : List (String × Json)}
    (h : ∀ field ∈ fields, field.1 ≠ "kind") :
    kindAndFields? inner (record kind fields) = some (kind, .ofMembers fields) := by
  have hrecord : record kind fields = .object ((some "kind", .ofString kind) ::
      fields.map fun field => (some field.1, field.2)) := rfl
  have hne : ∀ member ∈ fields.map fun field => (some field.1, field.2),
      member.1 ≠ some "kind" := by
    refine List.forall_mem_map.2 fun field hfield heq => ?_
    exact h field hfield (Option.some.inj heq)
  have hnone : (fields.map fun field => (some field.1, field.2)).filter
      (fun member => member.1 = some "kind") = [] :=
    List.filter_eq_nil_iff.2 fun member hmember => by simpa using hne member hmember
  have hall : (fields.map fun field => (some field.1, field.2)).filter
      (fun member => member.1 ≠ some "kind") = fields.map fun field => (some field.1, field.2) :=
    List.filter_eq_self.2 fun member hmember => by simpa using hne member hmember
  rw [hrecord, kindAndFields?, List.filter_cons_of_pos (by rfl), hnone,
    List.filter_cons_of_neg (by simp), hall]
  rfl

/-- A condition with one text is read back. -/
theorem withText?_ofMembers (name text : String) (build : String → Condition) :
    withText? name build (.ofMembers [(name, .ofString text)]) = some (build text) := by
  have hfields : (Json.ofMembers [(name, .ofString text)]).fields? [name] =
      some [some (.ofString text)] :=
    Json.fields?_filled [(name, some (.ofString text))] (by simp)
  rw [withText?, hfields]
  rfl

/-- **A condition is read back**, as deep as the reader takes it in. -/
theorem interpret?_toJson {nesting : Nat} (inner : Bool) (c : Condition)
    (h : c.toJson.depth ≤ nesting) : interpret? nesting inner c.toJson = some c := by
  induction nesting generalizing inner c with
  | zero => cases c <;> cases h
  | succ nesting ih =>
    -- the kind is the first member of each, and settles which fields are looked for
    cases c <;> rw [toJson, interpret?, kindAndFields?_record inner _ (by simp)]
    case asked label => exact withText?_ofMembers "label" label .asked
    case notAsked label => exact withText?_ofMembers "label" label .notAsked
    case hasItem item => exact withText?_ofMembers "item" item .hasItem
    case lacksItem item => exact withText?_ofMembers "item" item .lacksItem
    case visited room => exact withText?_ofMembers "room" room .visited
    case flag name => exact withText?_ofMembers "name" name .flag
    case notFlag name => exact withText?_ofMembers "name" name .notFlag
    case never | always => rfl
    case npcState npc state =>
      have hfields : (Json.ofMembers [("npc", .ofString npc), ("state", .ofString state)]).fields?
          ["npc", "state"] = some [some (.ofString npc), some (.ofString state)] :=
        Json.fields?_filled [("npc", some (.ofString npc)), ("state", some (.ofString state))]
          (by simp)
      simp only [Option.bind_eq_bind, Option.bind_some, hfields]
      rfl
    case all conditions =>
      have hfields : (Json.ofMembers [("conditions", .list (toJsonAll conditions))]).fields?
          ["conditions"] = some [some (.list (toJsonAll conditions))] :=
        Json.fields?_filled [("conditions", some (.list (toJsonAll conditions)))] (by simp)
      have hitems : (Json.list (toJsonAll conditions)).asList? (interpret? nesting true) =
          some conditions := by
        rw [toJsonAll_eq]
        refine Json.asList?_map fun c hc => ih true c ?_
        have hlist : (Json.list (conditions.map toJson)).depth ≤ nesting := by
          rw [← toJsonAll_eq]
          exact Json.depth_ofMembers_le.1 h ("conditions", _) (by simp)
        exact Nat.le_trans (Nat.le_of_lt (Json.depth_lt_of_mem (List.mem_map_of_mem hc))) hlist
      have hrequired : Json.required [some (.list (toJsonAll conditions))] 0
          (Json.asList? (interpret? nesting true)) = some conditions := hitems
      simp only [Option.bind_eq_bind, Option.bind_some, hfields, hrequired, Option.pure_def]

/-- **A condition inside other containers is read back**, if all of them together nest no deeper
than a reader takes in. -/
theorem ofJson?_toJson {enclosing : Nat} {c : Condition}
    (h : enclosing + c.toJson.depth ≤ nestingLimit) : ofJson? enclosing c.toJson = some c := by
  have hinside : c.toJson.depth ≤ nestingLimit := Nat.le_trans (Nat.le_add_left _ _) h
  rw [ofJson?, isSound_toJson, if_pos (by simpa using h), interpret?_toJson false c hinside]

end Condition

end Colloquy
