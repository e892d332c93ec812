import Colloquy.Dialogue.Document
import Colloquy.Proofs.Condition.Json

/-!
# Dialogues are read back

Each record of a dialogue is written as the fields that it has (`Json.filled`), and each field that
is left out is one that reading fills in: with no value, with an empty list, or with false. So each
record is read back, from the innermost to the dialogue. The only bound is the one on nesting, which
conditions alone can reach.
-/

namespace Colloquy

open Json Condition

/-! ## How records are written -/

theorem filled_append (fields later : List (String × Option Json)) :
    filled (fields ++ later) = filled fields ++ filled later := List.filterMap_append

theorem memberIfAny_eq_filled {α : Type} (key : String) (write : α → Json) (value : Option α) :
    memberIfAny key write value = filled [(key, value.map write)] := by
  cases value <;> rfl

/-- A list as a field, which is left out when the list is empty. -/
def listIfAny {α : Type} (write : α → Json) (values : List α) : Option Json :=
  if values.isEmpty then none else some (.list (values.map write))

theorem listIfAny_of_mem {α : Type} (write : α → Json) {values : List α} {a : α}
    (h : a ∈ values) : listIfAny write values = some (.list (values.map write)) := by
  cases values with
  | nil => exact absurd h List.not_mem_nil
  | cons => rfl

theorem memberUnlessEmpty_eq_filled {α : Type} (key : String) (write : α → Json)
    (values : List α) :
    memberUnlessEmpty key write values = filled [(key, listIfAny write values)] := by
  cases values <;> rfl

/-- A list that is left out when it is empty is read back. -/
theorem withDefault_listIfAny {α : Type} {fields : List (Option Json)} {i : Nat}
    {read : Json → Option α} {write : α → Json} {values : List α}
    (hfield : fields[i]? = some (listIfAny write values))
    (hread : ∀ a ∈ values, read (write a) = some a) :
    withDefault fields i [] (asList? read) = some values := by
  refine withDefault_eq_some hfield (fun hnone => ?_) fun j hj => ?_
  · cases values with
    | nil => rfl
    | cons => cases hnone
  · cases values with
    | nil => cases hj
    | cons a rest =>
      obtain rfl := Option.some.inj hj
      exact asList?_map hread

/-- The fields of a line. -/
def Line.fields (l : Line) : List (String × Option Json) :=
  [("speaker", some (.ofString l.speaker.word)), ("name", some (.ofString l.name)),
    ("text", some (.ofString l.text))]

/-- The fields of an intro block. -/
def IntroBlock.fields (b : IntroBlock) : List (String × Option Json) :=
  [("condition", b.condition.map Condition.toJson), ("lines", some (Line.listToJson b.lines))]

/-- The fields of effects. -/
def Effects.fields (e : Effects) : List (String × Option Json) :=
  [("set_flags", listIfAny .ofString e.setFlags), ("add_items", listIfAny .ofString e.addItems),
    ("remove_items", listIfAny .ofString e.removeItems),
    ("once", if e.once then some (.bool true) else none)]

/-- The fields of a choice. -/
def Choice.fields (c : Choice) : List (String × Option Json) :=
  [("text", some (.ofString c.text)), ("hero_line", some (.ofString c.heroLine)),
    ("npc_response", c.npcResponse.map Line.listToJson),
    ("condition", c.condition.map Condition.toJson), ("next_node", c.nextNode.map .ofString),
    ("exit", some (.bool c.exit)), ("actions", c.effects.map Effects.toJson),
    ("id", c.id.map .ofString)]

/-- The fields of a node. -/
def Node.fields (n : Node) : List (String × Option Json) :=
  [("intro_blocks", listIfAny IntroBlock.toJson n.intros),
    ("options", some (.list (n.choices.map Choice.toJson))),
    ("is_default", some (.bool n.isDefault)), ("npc_state", n.npcState.map .ofString),
    ("entry_condition", n.entryCondition.map Condition.toJson), ("id", n.id.map .ofString)]

theorem IntroBlock.toJson_eq (b : IntroBlock) : b.toJson = ofMembers (filled b.fields) := by
  rw [IntroBlock.toJson, memberIfAny_eq_filled]
  exact congrArg ofMembers (filled_append [_] [("lines", some _)]).symm

theorem Effects.toJson_eq (e : Effects) : e.toJson = ofMembers (filled e.fields) := by
  have honce : (if e.once then [("once", Json.bool true)] else []) =
      filled [("once", if e.once then some (.bool true) else none)] := by
    cases e.once <;> rfl
  simp only [Effects.toJson, memberUnlessEmpty_eq_filled, honce, ← filled_append]
  rfl

theorem Choice.toJson_eq (c : Choice) : c.toJson = ofMembers (filled c.fields) := by
  have hfirst : [("text", Json.ofString c.text), ("hero_line", .ofString c.heroLine)] =
      filled [("text", some (.ofString c.text)), ("hero_line", some (.ofString c.heroLine))] := rfl
  have hexit : [("exit", Json.bool c.exit)] = filled [("exit", some (.bool c.exit))] := rfl
  simp only [Choice.toJson, memberIfAny_eq_filled, hfirst, hexit, ← filled_append]
  rfl

theorem Node.toJson_eq (n : Node) : n.toJson = ofMembers (filled n.fields) := by
  have hinner : [("options", Json.list (n.choices.map Choice.toJson)),
      ("is_default", .bool n.isDefault)] =
      filled [("options", some (.list (n.choices.map Choice.toJson))),
        ("is_default", some (.bool n.isDefault))] := rfl
  simp only [Node.toJson, memberIfAny_eq_filled, memberUnlessEmpty_eq_filled, hinner,
    ← filled_append]
  rfl

/-! ## How records are read -/

theorem Speaker.ofJson?_toJson (s : Speaker) : Speaker.ofJson? (.ofString s.word) = some s := by
  cases s <;> rfl

theorem Line.ofJson?_toJson (l : Line) : Line.ofJson? l.toJson = some l := by
  have hfields : l.toJson.fields? ["speaker", "name", "text"] = some (l.fields.map Prod.snd) :=
    fields?_filled l.fields (by simp [Line.fields])
  have hspeaker : required (l.fields.map Prod.snd) 0 Speaker.ofJson? = some l.speaker :=
    Speaker.ofJson?_toJson l.speaker
  have hname : required (l.fields.map Prod.snd) 1 asString? = some l.name := rfl
  have htext : required (l.fields.map Prod.snd) 2 asString? = some l.text := rfl
  simp only [Line.ofJson?, hfields, hspeaker, hname, htext, Option.bind_eq_bind, Option.bind_some,
    Option.pure_def]

theorem asList?_lines (lines : List Line) :
    (Line.listToJson lines).asList? Line.ofJson? = some lines :=
  asList?_map fun l _ => l.ofJson?_toJson

/-- A condition that may be absent is read back. -/
theorem optional_condition {fields : List (Option Json)} {i enclosing : Nat}
    {condition : Option Condition} (hfield : fields[i]? = some (condition.map Condition.toJson))
    (hdepth : ∀ c, condition = some c → enclosing + c.toJson.depth ≤ nestingLimit) :
    optional fields i (Condition.ofJson? enclosing) = some condition := by
  have hnull : Condition.ofJson? enclosing .null = none := by
    unfold Condition.ofJson?
    split <;> rfl
  exact optional_eq_some hfield hnull fun c hc => Condition.ofJson?_toJson (hdepth c hc)

/-- So is a text that may be absent. -/
theorem optional_text {fields : List (Option Json)} {i : Nat} {text : Option String}
    (hfield : fields[i]? = some (text.map .ofString)) : optional fields i asString? = some text :=
  optional_eq_some hfield rfl fun _ _ => rfl

/-- An intro block is read back inside three containers. -/
theorem IntroBlock.ofJson?_toJson {b : IntroBlock} (h : 3 + b.toJson.depth ≤ nestingLimit) :
    IntroBlock.ofJson? b.toJson = some b := by
  rw [b.toJson_eq] at h ⊢
  have hfields : (ofMembers (filled b.fields)).fields? ["condition", "lines"] =
      some (b.fields.map Prod.snd) := fields?_filled b.fields (by simp [IntroBlock.fields])
  have hcondition : optional (b.fields.map Prod.snd) 0 (Condition.ofJson? 4) =
      some b.condition := by
    refine optional_condition rfl fun c hc => ?_
    have hmem : ("condition", some c.toJson) ∈ b.fields := by simp [IntroBlock.fields, hc]
    have hlt := depth_lt_of_mem_filled hmem
    omega
  have hlines : required (b.fields.map Prod.snd) 1 (asList? Line.ofJson?) = some b.lines :=
    asList?_lines b.lines
  simp only [IntroBlock.ofJson?, hfields, hcondition, hlines, Option.bind_eq_bind,
    Option.bind_some, Option.pure_def]

theorem Effects.ofJson?_toJson (e : Effects) : Effects.ofJson? e.toJson = some e := by
  rw [e.toJson_eq]
  have hfields : (ofMembers (filled e.fields)).fields?
      ["set_flags", "add_items", "remove_items", "once"] = some (e.fields.map Prod.snd) :=
    fields?_filled e.fields (by simp [Effects.fields])
  have htexts : ∀ (i : Nat) (texts : List String),
      (e.fields.map Prod.snd)[i]? = some (listIfAny .ofString texts) →
      withDefault (e.fields.map Prod.snd) i [] (asList? asString?) = some texts :=
    fun i texts hfield => withDefault_listIfAny hfield fun _ _ => rfl
  have honce : withDefault (e.fields.map Prod.snd) 3 false asBool? = some e.once := by
    refine withDefault_eq_some rfl ?_ ?_ <;> cases e.once <;> simp [asBool?]
  simp only [Effects.ofJson?, hfields, htexts 0 e.setFlags rfl, htexts 1 e.addItems rfl,
    htexts 2 e.removeItems rfl, honce, Option.bind_eq_bind, Option.bind_some, Option.pure_def]

/-- A choice is read back inside three containers. -/
theorem Choice.ofJson?_toJson {c : Choice} (h : 3 + c.toJson.depth ≤ nestingLimit) :
    Choice.ofJson? c.toJson = some c := by
  rw [c.toJson_eq] at h ⊢
  have hfields : (ofMembers (filled c.fields)).fields?
      ["text", "hero_line", "npc_response", "condition", "next_node", "exit", "actions", "id"] =
      some (c.fields.map Prod.snd) := fields?_filled c.fields (by simp [Choice.fields])
  have htext : required (c.fields.map Prod.snd) 0 asString? = some c.text := rfl
  have hheroLine : required (c.fields.map Prod.snd) 1 asString? = some c.heroLine := rfl
  have hresponse : optional (c.fields.map Prod.snd) 2 (asList? Line.ofJson?) =
      some c.npcResponse := optional_eq_some rfl rfl fun lines _ => asList?_lines lines
  have hcondition : optional (c.fields.map Prod.snd) 3 (Condition.ofJson? 4) =
      some c.condition := by
    refine optional_condition rfl fun d hd => ?_
    have hmem : ("condition", some d.toJson) ∈ c.fields := by simp [Choice.fields, hd]
    have hlt := depth_lt_of_mem_filled hmem
    omega
  have hexit : withDefault (c.fields.map Prod.snd) 5 false asBool? = some c.exit := rfl
  have heffects : optional (c.fields.map Prod.snd) 6 Effects.ofJson? = some c.effects :=
    optional_eq_some rfl rfl fun e _ => e.ofJson?_toJson
  simp only [Choice.ofJson?, hfields, htext, hheroLine, hresponse, hcondition,
    optional_text (show (c.fields.map Prod.snd)[4]? = some (c.nextNode.map .ofString) from rfl),
    hexit, heffects,
    optional_text (show (c.fields.map Prod.snd)[7]? = some (c.id.map .ofString) from rfl),
    Option.bind_eq_bind, Option.bind_some, Option.pure_def]

/-- A node is read back inside a dialogue. -/
theorem Node.ofJson?_toJson {n : Node} (h : 1 + n.toJson.depth ≤ nestingLimit) :
    Node.ofJson? n.toJson = some n := by
  rw [n.toJson_eq] at h ⊢
  have hfields : (ofMembers (filled n.fields)).fields?
      ["intro_blocks", "options", "is_default", "npc_state", "entry_condition", "id"] =
      some (n.fields.map Prod.snd) := fields?_filled n.fields (by simp [Node.fields])
  have hintros : withDefault (n.fields.map Prod.snd) 0 [] (asList? IntroBlock.ofJson?) =
      some n.intros := by
    refine withDefault_listIfAny rfl fun b hb => IntroBlock.ofJson?_toJson ?_
    have hmem : ("intro_blocks", some (.list (n.intros.map IntroBlock.toJson))) ∈ n.fields := by
      rw [← listIfAny_of_mem IntroBlock.toJson hb]
      exact List.mem_cons_self
    have hlist := depth_lt_of_mem_filled hmem
    have hblock := depth_lt_of_mem (List.mem_map_of_mem (f := IntroBlock.toJson) hb)
    omega
  have hchoices : required (n.fields.map Prod.snd) 1 (asList? Choice.ofJson?) =
      some n.choices := by
    refine required_eq_some rfl (asList?_map fun c hc => Choice.ofJson?_toJson ?_)
    have hmem : ("options", some (.list (n.choices.map Choice.toJson))) ∈ n.fields := by
      simp [Node.fields]
    have hlist := depth_lt_of_mem_filled hmem
    have hchoice := depth_lt_of_mem (List.mem_map_of_mem (f := Choice.toJson) hc)
    omega
  have hdefault : withDefault (n.fields.map Prod.snd) 2 false asBool? = some n.isDefault := rfl
  have hentry : optional (n.fields.map Prod.snd) 4 (Condition.ofJson? 2) =
      some n.entryCondition := by
    refine optional_condition rfl fun c hc => ?_
    have hmem : ("entry_condition", some c.toJson) ∈ n.fields := by simp [Node.fields, hc]
    have hlt := depth_lt_of_mem_filled hmem
    omega
  simp only [Node.ofJson?, hfields, hintros, hchoices, hdefault,
    optional_text (show (n.fields.map Prod.snd)[3]? = some (n.npcState.map .ofString) from rfl),
    hentry, optional_text (show (n.fields.map Prod.snd)[5]? = some (n.id.map .ofString) from rfl),
    Option.bind_eq_bind, Option.bind_some, Option.pure_def]

/-- **A dialogue is read back from its text**, if it nests no deeper than a reader takes in. -/
theorem Graph.read?_document {g : Graph} (h : g.toJson.depth ≤ nestingLimit) :
    Graph.read? g.document = some g := by
  rw [Graph.read?, Graph.document, parse?_pretty, Option.bind_some]
  refine asTable?_ofMembers fun key n hn => Node.ofJson?_toJson ?_
  have hmem : (key, n.toJson) ∈ g.entries.map fun entry => (entry.1, entry.2.toJson) :=
    List.mem_map.2 ⟨(key, n), TextMap.mem_entries.2 hn, rfl⟩
  have hlt : n.toJson.depth < g.toJson.depth := depth_lt_of_mem_ofMembers hmem
  omega

end Colloquy
