import Colloquy.Proofs.Dialogue.Document
import Mathlib.Data.List.Basic

/-!
# How deep a dialogue nests

Everything in a dialogue but its conditions nests to a fixed depth. So a bound on the conditions is
a bound on each record they stand in, four more for the dialogue as a whole
(`Graph.depth_toJson_le`).
-/

namespace Colloquy

open Json

variable {limit : Nat}

/-! ## Where the conditions stand -/

/-- The condition nests within a limit, if there is one. -/
def Condition.NestsWithin (limit : Nat) (condition : Option Condition) : Prop :=
  ∀ c, condition = some c → c.toJson.depth ≤ limit

/-- The conditions of a node nest within a limit. -/
structure Node.NestsWithin (limit : Nat) (n : Node) : Prop where
  entry : Condition.NestsWithin limit n.entryCondition
  intro : ∀ b ∈ n.intros, Condition.NestsWithin limit b.condition
  choice : ∀ c ∈ n.choices, Condition.NestsWithin limit c.condition

/-! ## The records -/

/-- The field nests within a limit, if there is a value. -/
def FieldWithin (limit : Nat) (value : Option Json) : Prop := ∀ j, value = some j → j.depth ≤ limit

theorem fieldWithin_some {j : Json} : FieldWithin limit (some j) ↔ j.depth ≤ limit :=
  ⟨fun h => h j rfl, fun h _ hj => Option.some.inj hj ▸ h⟩

theorem fieldWithin_map {α : Type} {write : α → Json} {value : Option α} :
    FieldWithin limit (value.map write) ↔ ∀ a, value = some a → (write a).depth ≤ limit := by
  cases value with
  | none => exact ⟨fun _ => nofun, fun _ => nofun⟩
  | some a => exact fieldWithin_some.trans ⟨fun h _ ha => Option.some.inj ha ▸ h, fun h => h a rfl⟩

theorem fieldWithin_text (text : Option String) : FieldWithin limit (text.map .ofString) :=
  fieldWithin_map.2 fun _ _ => Nat.zero_le limit

theorem fieldWithin_listIfAny {α : Type} {write : α → Json} {values : List α}
    (h : ∀ a ∈ values, (write a).depth ≤ limit) :
    FieldWithin (limit + 1) (listIfAny write values) := by
  cases values with
  | nil => exact nofun
  | cons a rest => exact fieldWithin_some.2 (depth_list_le.2 (List.forall_mem_map.2 h))

/-- A record nests one deeper than its fields. -/
theorem depth_record_le {fields : List (String × Option Json)}
    (h : fields.Forall fun field => FieldWithin limit field.2) :
    (ofMembers (filled fields)).depth ≤ limit + 1 :=
  depth_filled_le.2 (List.forall_iff_forall_mem.1 h)

theorem Line.depth_toJson_le (l : Line) : l.toJson.depth ≤ 1 := by
  have htext : ∀ text, FieldWithin 0 (some (.ofString text)) :=
    fun text => fieldWithin_text (some text)
  show (ofMembers (filled l.fields)).depth ≤ 1
  exact depth_record_le ⟨htext _, htext _, htext _⟩

theorem Line.depth_listToJson_le (lines : List Line) : (Line.listToJson lines).depth ≤ 2 :=
  depth_list_le.2 (List.forall_mem_map.2 fun line _ => line.depth_toJson_le)

theorem IntroBlock.depth_toJson_le {b : IntroBlock} (hlimit : 2 ≤ limit)
    (h : Condition.NestsWithin limit b.condition) : b.toJson.depth ≤ limit + 1 := by
  have hlines : FieldWithin limit (some (Line.listToJson b.lines)) :=
    fieldWithin_some.2 (Nat.le_trans (Line.depth_listToJson_le b.lines) hlimit)
  rw [b.toJson_eq]
  exact depth_record_le ⟨fieldWithin_map.2 h, hlines⟩

theorem Effects.depth_toJson_le (e : Effects) : e.toJson.depth ≤ 2 := by
  have htexts : ∀ texts, FieldWithin 1 (listIfAny .ofString texts) :=
    fun texts => fieldWithin_listIfAny fun _ _ => Nat.zero_le 0
  have honce : FieldWithin 1 (if e.once then some (.bool true) else none) := by
    cases e.once <;> simp [FieldWithin, depth]
  rw [e.toJson_eq]
  exact depth_record_le ⟨htexts e.setFlags, htexts e.addItems, htexts e.removeItems, honce⟩

theorem Choice.depth_toJson_le {c : Choice} (hlimit : 2 ≤ limit)
    (h : Condition.NestsWithin limit c.condition) : c.toJson.depth ≤ limit + 1 := by
  have htext : ∀ text, FieldWithin limit (some (.ofString text)) :=
    fun text => fieldWithin_text (some text)
  have hresponse : FieldWithin limit (c.npcResponse.map Line.listToJson) :=
    fieldWithin_map.2 fun lines _ => Nat.le_trans (Line.depth_listToJson_le lines) hlimit
  have hexit : FieldWithin limit (some (.bool c.exit)) := fieldWithin_some.2 (Nat.zero_le limit)
  have heffects : FieldWithin limit (c.effects.map Effects.toJson) :=
    fieldWithin_map.2 fun e _ => Nat.le_trans e.depth_toJson_le hlimit
  rw [c.toJson_eq]
  exact depth_record_le ⟨htext _, htext _, hresponse, fieldWithin_map.2 h, fieldWithin_text _,
    hexit, heffects, fieldWithin_text _⟩

theorem Node.depth_toJson_le {n : Node} (hlimit : 2 ≤ limit) (h : n.NestsWithin limit) :
    n.toJson.depth ≤ limit + 3 := by
  have hintros : FieldWithin (limit + 2) (listIfAny IntroBlock.toJson n.intros) :=
    fieldWithin_listIfAny fun b hb => IntroBlock.depth_toJson_le hlimit (h.intro b hb)
  have hchoices : FieldWithin (limit + 2) (some (.list (n.choices.map Choice.toJson))) :=
    fieldWithin_some.2 (depth_list_le.2 (List.forall_mem_map.2 fun c hc =>
      Choice.depth_toJson_le hlimit (h.choice c hc)))
  have hdefault : FieldWithin (limit + 2) (some (.bool n.isDefault)) :=
    fieldWithin_some.2 (Nat.zero_le _)
  have hentry : FieldWithin (limit + 2) (n.entryCondition.map Condition.toJson) :=
    fieldWithin_map.2 fun c hc => Nat.le_add_right_of_le (h.entry c hc)
  rw [n.toJson_eq]
  exact depth_record_le ⟨hintros, hchoices, hdefault, fieldWithin_text _, hentry,
    fieldWithin_text _⟩

/-- **A bound on the conditions of a dialogue bounds its document.** -/
theorem Graph.depth_toJson_le {g : Graph} (hlimit : 2 ≤ limit)
    (h : ∀ key n, g.get? key = some n → n.NestsWithin limit) : g.toJson.depth ≤ limit + 4 := by
  refine depth_ofMembers_le.2 (List.forall_mem_map.2 fun (key, n) hn => ?_)
  exact Node.depth_toJson_le hlimit (h key n (TextMap.mem_entries.1 hn))

end Colloquy
