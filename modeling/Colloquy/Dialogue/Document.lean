import Colloquy.Condition.Json
import Colloquy.Dialogue.Graph
import Colloquy.Json.Layout
import Colloquy.Json.Reader

/-!
# Dialogue documents — graphs as JSON

A graph is an object of nodes by name, and everything in it is a record. Values that are absent are
left out, and so are empty lists of intro blocks, flags and items and a `once` that is false; all
other fields are always written. Reading fills in what may be left out and skips what is unknown.
-/

namespace Colloquy

/-! ## Writing -/

/-- A member that is left out when there is no value. -/
def memberIfAny {α : Type} (key : String) (write : α → Json) (value : Option α) :
    List (String × Json) :=
  value.toList.map fun value => (key, write value)

/-- A member that is left out when the list is empty. -/
def memberUnlessEmpty {α : Type} (key : String) (write : α → Json) (values : List α) :
    List (String × Json) :=
  if values.isEmpty then [] else [(key, .list (values.map write))]

/-- A speaker as it is written. -/
def Speaker.word : Speaker → String
  | .hero => "hero"
  | .npc => "npc"

/-- A line as a document. -/
def Line.toJson (l : Line) : Json :=
  .ofMembers [("speaker", .ofString l.speaker.word), ("name", .ofString l.name),
    ("text", .ofString l.text)]

/-- Lines as a document. -/
def Line.listToJson (ls : List Line) : Json := .list (ls.map Line.toJson)

/-- An intro block as a document. -/
def IntroBlock.toJson (b : IntroBlock) : Json :=
  .ofMembers (memberIfAny "condition" Condition.toJson b.condition ++
    [("lines", Line.listToJson b.lines)])

/-- Effects as a document. -/
def Effects.toJson (e : Effects) : Json :=
  .ofMembers (memberUnlessEmpty "set_flags" .ofString e.setFlags ++
    memberUnlessEmpty "add_items" .ofString e.addItems ++
    memberUnlessEmpty "remove_items" .ofString e.removeItems ++
    (if e.once then [("once", .bool true)] else []))

/-- A choice as a document. -/
def Choice.toJson (c : Choice) : Json :=
  .ofMembers ([("text", .ofString c.text), ("hero_line", .ofString c.heroLine)] ++
    memberIfAny "npc_response" Line.listToJson c.npcResponse ++
    memberIfAny "condition" Condition.toJson c.condition ++
    memberIfAny "next_node" .ofString c.nextNode ++ [("exit", .bool c.exit)] ++
    memberIfAny "actions" Effects.toJson c.effects ++ memberIfAny "id" .ofString c.id)

/-- A node as a document. -/
def Node.toJson (n : Node) : Json :=
  .ofMembers (memberUnlessEmpty "intro_blocks" IntroBlock.toJson n.intros ++
    [("options", .list (n.choices.map Choice.toJson)), ("is_default", .bool n.isDefault)] ++
    memberIfAny "npc_state" .ofString n.npcState ++
    memberIfAny "entry_condition" Condition.toJson n.entryCondition ++
    memberIfAny "id" .ofString n.id)

namespace Graph

/-- A graph as a document. -/
def toJson (g : Graph) : Json :=
  .ofMembers (g.entries.map fun (key, node) => (key, node.toJson))

/-- The text of a graph. -/
def document (g : Graph) : String := g.toJson.pretty

end Graph

/-! ## Reading -/

/-- A speaker, given as a word or as an object with the word as its only key and no value. -/
def Speaker.ofJson? : Json → Option Speaker
  | .text (some word) => ofWord? word
  | .object [(some word, .null)] => ofWord? word
  | _ => none
where
  /-- The speaker that a word names. -/
  ofWord? : String → Option Speaker
    | "hero" => some .hero
    | "npc" => some .npc
    | _ => none

/-- The line that a document describes. -/
def Line.ofJson? (j : Json) : Option Line := do
  let fields ← j.fields? ["speaker", "name", "text"]
  return {
    speaker := ← Json.required fields 0 Speaker.ofJson?
    name := ← Json.required fields 1 Json.asString?
    text := ← Json.required fields 2 Json.asString? }

/-- The intro block that a document describes, inside a graph, a node and a list of blocks. -/
def IntroBlock.ofJson? (j : Json) : Option IntroBlock := do
  let fields ← j.fields? ["condition", "lines"]
  return {
    condition := ← Json.optional fields 0 (Condition.ofJson? 4)
    lines := ← Json.required fields 1 (Json.asList? Line.ofJson?) }

/-- The effects that a document describes. -/
def Effects.ofJson? (j : Json) : Option Effects := do
  let fields ← j.fields? ["set_flags", "add_items", "remove_items", "once"]
  return {
    setFlags := ← Json.withDefault fields 0 [] (Json.asList? Json.asString?)
    addItems := ← Json.withDefault fields 1 [] (Json.asList? Json.asString?)
    removeItems := ← Json.withDefault fields 2 [] (Json.asList? Json.asString?)
    once := ← Json.withDefault fields 3 false Json.asBool? }

/-- The choice that a document describes, inside a graph, a node and a list of choices. -/
def Choice.ofJson? (j : Json) : Option Choice := do
  let fields ← j.fields?
    ["text", "hero_line", "npc_response", "condition", "next_node", "exit", "actions", "id"]
  return {
    text := ← Json.required fields 0 Json.asString?
    heroLine := ← Json.required fields 1 Json.asString?
    npcResponse := ← Json.optional fields 2 (Json.asList? Line.ofJson?)
    condition := ← Json.optional fields 3 (Condition.ofJson? 4)
    nextNode := ← Json.optional fields 4 Json.asString?
    exit := ← Json.withDefault fields 5 false Json.asBool?
    effects := ← Json.optional fields 6 Effects.ofJson?
    id := ← Json.optional fields 7 Json.asString? }

/-- The node that a document describes, inside a graph. -/
def Node.ofJson? (j : Json) : Option Node := do
  let fields ← j.fields?
    ["intro_blocks", "options", "is_default", "npc_state", "entry_condition", "id"]
  return {
    intros := ← Json.withDefault fields 0 [] (Json.asList? IntroBlock.ofJson?)
    choices := ← Json.required fields 1 (Json.asList? Choice.ofJson?)
    isDefault := ← Json.withDefault fields 2 false Json.asBool?
    npcState := ← Json.optional fields 3 Json.asString?
    entryCondition := ← Json.optional fields 4 (Condition.ofJson? 2)
    id := ← Json.optional fields 5 Json.asString? }

namespace Graph

/-- The graph that a document describes. -/
def ofJson? (j : Json) : Option Graph := j.asTable? Node.ofJson?

/-- The graph that a text describes. -/
def read? (text : String) : Option Graph := (Json.parse? text).bind ofJson?

end Graph

end Colloquy
