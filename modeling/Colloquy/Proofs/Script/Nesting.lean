import Colloquy.Proofs.Dialogue.Nesting
import Colloquy.Proofs.Script.WellFormed

/-!
# The documents of scripts are read back

A clause of a script is a single test or a conjunction of single tests, so no condition of a script
nests more than three deep (`Condition.Flat.depth_toJson_le`), and no dialogue of a script more than
seven (`depth_of_read`). That is far below what a reader takes in. So a dialogue that is read from a
script can be kept as a document, and nothing of it is lost (`documents_read_back`).
-/

namespace Colloquy

open Json Condition

/-! ## Well-formed dialogues -/

namespace Condition

theorem IsTest.depth_toJson_le {c : Condition} (h : IsTest c) : c.toJson.depth ≤ 1 := by
  cases c with
  | all cs => exact h.elim
  | _ => exact Nat.le_refl 1

/-- **A flat condition nests at most three deep.** -/
theorem Flat.depth_toJson_le {c : Condition} (h : Flat c) : c.toJson.depth ≤ 3 := by
  cases h with
  | test h => exact Nat.le_trans h.depth_toJson_le (by decide)
  | @all cs _ h =>
    have hlist : (Json.list (toJsonAll cs)).depth ≤ 2 := by
      rw [toJsonAll_eq]
      exact depth_list_le.2 (List.forall_mem_map.2 fun c hc => (h c hc).1.depth_toJson_le)
    refine depth_ofMembers_le.2 ?_
    simpa [ofString, depth] using hlist

theorem nestsWithin_of_wellFormed {c : Option Condition} (h : ∀ d, c = some d → d.WellFormed) :
    NestsWithin 3 c := fun d hd => (h d hd).flat.depth_toJson_le

end Condition

theorem Node.WellFormed.nestsWithin {hero : String} {n : Node} (h : n.WellFormed hero) :
    n.NestsWithin 3 where
  entry := Condition.nestsWithin_of_wellFormed h.entryCondition
  intro b hb := Condition.nestsWithin_of_wellFormed (h.intros.block b hb).condition
  choice c hc := Condition.nestsWithin_of_wellFormed (h.choice c hc).condition

/-! ## Dialogues of scripts -/

/-- **A dialogue of a script nests at most seven deep.** -/
theorem Script.depth_of_read {hero script : String} {g : Graph}
    (h : (read hero script).value = .ok g) : g.toJson.depth ≤ 7 := by
  refine Graph.depth_toJson_le (by decide) fun key n hn => ?_
  exact ((wellFormed_of_read h).node key n hn).nestsWithin

/-- **Documents are read back.** What is written for a dialogue is read as this dialogue, if it
nests no deeper than a reader takes in, which is so for every dialogue of a script. What is written
for a condition is read as this condition. -/
theorem documents_read_back :
    (∀ g : Graph, g.toJson.depth ≤ nestingLimit → Graph.read? g.document = some g) ∧
    (∀ (hero script : String) (g : Graph), (Script.read hero script).value = .ok g →
      g.toJson.depth ≤ nestingLimit ∧ Graph.read? g.document = some g) ∧
    ∀ c : Condition, c.toJson.depth ≤ nestingLimit →
      (Json.parse? c.toJson.pretty).bind (Condition.ofJson? 0) = some c := by
  refine ⟨fun _ => Graph.read?_document, fun hero script g h => ?_, fun c h => ?_⟩
  · have hdepth : g.toJson.depth ≤ nestingLimit :=
      Nat.le_trans (Script.depth_of_read h) (by decide)
    exact ⟨hdepth, Graph.read?_document hdepth⟩
  · rw [parse?_pretty, Option.bind_some]
    exact Condition.ofJson?_toJson (by omega)

/-- A condition of all kinds, with a conjunction of nothing in a conjunction. -/
def everyKind : Condition :=
  .all [.asked "where", .notAsked "why", .hasItem "torch", .lacksItem "key",
    .npcState "warden" "asleep", .visited "hall", .flag "door_open", .notFlag "a \"b\"", .never,
    .always, .all [.all []]]

/-- A dialogue in which an empty reply and empty effects stand beside none at all. -/
def emptyAndNone : Graph :=
  (TextMap.empty.insert "hall" { entryCondition := some everyKind }).insert "start"
    { intros := [{ condition := some everyKind, lines := [⟨.npc, "warden", "zzz\n"⟩] }, {}]
      choices := [
        { text := "", npcResponse := some [], effects := some {}, condition := some everyKind },
        { text := "Leave", exit := true, effects := some { once := true, addItems := [""] } }]
      npcState := some "", id := some "begin" }

theorem documents_read_back_emptyAndNone :
    emptyAndNone.toJson.depth = 10 ∧ Graph.read? emptyAndNone.document = some emptyAndNone ∧
      (Json.parse? everyKind.toJson.pretty).bind (Condition.ofJson? 0) = some everyKind := by
  have hdepth : emptyAndNone.toJson.depth = 10 := by decide +kernel
  refine ⟨hdepth, documents_read_back.1 _ ?_, documents_read_back.2.2 everyKind (by decide)⟩
  rw [hdepth]
  decide

end Colloquy
