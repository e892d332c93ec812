import Colloquy.Proofs.Json.Field
import Colloquy.Proofs.Json.RoundTrip
import Colloquy.World.Snapshot

/-!
# Snapshots are restored

A world that is written down and read again is the same world, whatever its names and texts are made
of and whichever of its parts are empty. Nothing that is written is taken for something else: a flag
that holds a text is written as a string literal even if it looks like a number, and an integer is
written with all its digits.
-/

namespace Colloquy

/-- An integer is written as a literal that denotes it. -/
theorem Json.integer?_ofInt (n : Int) :
    ∃ literal, Json.ofInt n = .number literal ∧ literal.integer? = some n := by
  cases n with
  | ofNat n => exact ⟨_, rfl, rfl⟩
  | negSucc n => exact ⟨_, rfl, rfl⟩

/-- **A flag value is read back as it is.** -/
theorem FlagValue.ofJson?_toJson (v : FlagValue) : FlagValue.ofJson? v.toJson = some v := by
  cases v with
  | bool b => rfl
  | integer n =>
    obtain ⟨literal, hliteral, hinteger⟩ := Json.integer?_ofInt n.toInt
    rw [FlagValue.toJson, hliteral, FlagValue.ofJson?, hinteger, Option.bind_some,
      Text.int64?_eq_some_iff.2 rfl, Option.map_some]
  | text s => rfl

/-- The members of a set make the set. -/
theorem TextSet.ofList_toList (s : TextSet) : TextSet.ofList s.toList = s := by
  have hfold : TextSet.ofList s.toList = TextMap.ofList s.entries := List.foldl_map
  rw [hfold]
  exact TextMap.ofList_eq_of_perm (List.Perm.refl _)

namespace World

theorem setOfJson?_setToJson (s : TextSet) : setOfJson? (setToJson s) = some s := by
  have hitems : (setToJson s).asList? Json.asString? = some s.toList :=
    Json.asList?_map fun _ _ => rfl
  rw [setOfJson?, hitems, Option.map_some, TextSet.ofList_toList]

/-- Flags are read back group by group, also groups without flags. -/
theorem asTable?_flags (flags : TextMap (TextMap FlagValue)) :
    (tableToJson (tableToJson FlagValue.toJson) flags).asTable?
      (Json.asTable? FlagValue.ofJson?) = some flags :=
  Json.asTable?_ofMembers fun _ _ _ => Json.asTable?_ofMembers fun _ v _ => v.ofJson?_toJson

/-- The states of the characters are read back, too. -/
theorem asTable?_npcStates (states : TextMap String) :
    (tableToJson .ofString states).asTable? Json.asString? = some states :=
  Json.asTable?_ofMembers fun _ _ _ => rfl

/-- The fields of a snapshot. -/
def fields (w : World) : List (String × Option Json) :=
  [("flags", some (tableToJson (tableToJson FlagValue.toJson) w.flags)),
    ("inventory", some (setToJson w.inventory)), ("visited_rooms", some (setToJson w.visitedRooms)),
    ("npc_states", some (tableToJson .ofString w.npcStates)), ("asked", some (setToJson w.asked))]

/-- A world is read back from its document. -/
theorem ofJson?_toJson (w : World) : ofJson? w.toJson = some w := by
  have hnames : (w.fields.map Prod.fst).Nodup := (by decide : fieldNames.Nodup)
  have hfields : w.toJson.fields? fieldNames = some (w.fields.map Prod.snd) :=
    Json.fields?_filled w.fields hnames
  have hset : ∀ (i : Nat) (s : TextSet),
      (w.fields.map Prod.snd)[i]? = some (some (setToJson s)) →
      Json.withDefault (w.fields.map Prod.snd) i .empty setOfJson? = some s := by
    intro i s hfield
    refine Json.withDefault_eq_some hfield nofun fun j hj => ?_
    rw [← Option.some.inj hj, setOfJson?_setToJson]
  have hflags : Json.withDefault (w.fields.map Prod.snd) 0 .empty
      (Json.asTable? (Json.asTable? FlagValue.ofJson?)) = some w.flags :=
    Json.withDefault_eq_some rfl nofun fun j hj => Option.some.inj hj ▸ asTable?_flags w.flags
  have hstates : Json.withDefault (w.fields.map Prod.snd) 3 .empty
      (Json.asTable? Json.asString?) = some w.npcStates :=
    Json.withDefault_eq_some rfl nofun fun j hj =>
      Option.some.inj hj ▸ asTable?_npcStates w.npcStates
  simp only [ofJson?, hfields, Option.bind_eq_bind, Option.bind_some, hflags, hstates,
    hset 1 w.inventory rfl, hset 2 w.visitedRooms rfl, hset 4 w.asked rfl, Option.pure_def]

/-- **A snapshot is restored to the world that it was taken of**, whatever the world. -/
theorem restore?_snapshot (w : World) : restore? w.snapshot = some w := by
  rw [restore?, snapshot, Json.parse?_pretty, Option.bind_some, ofJson?_toJson]

end World

end Colloquy
