import Colloquy.Dialogue.Graph

/-!
# Outlines — a dialogue at a glance

The plain outline has a paragraph for each node in key order: a heading, a line for each intro block
and a numbered line for each choice. Paragraphs are kept apart by one empty line. The table has a
row for each choice.
-/

namespace Colloquy

/-! ## Plain outline -/

/-- A remark in brackets, if there is something to remark. -/
def bracketed (lead : String) (value : Option String) : String :=
  match value with
  | some value => s!" [{lead}{value}]"
  | none => ""

/-- A list in brackets, unless it is empty. -/
def bracketedList (lead : String) (values : List String) : String :=
  if values.isEmpty then "" else s!" [{lead}: " ++ Text.join ", " values ++ "]"

/-- An intro block in an outline. -/
def IntroBlock.outline (b : IntroBlock) : String :=
  let noun := if b.lines.length = 1 then "line" else "lines"
  match b.condition with
  | some c => s!"  intro if {c.display}: {b.lines.length} {noun}"
  | none => s!"  intro: {b.lines.length} {noun}"

/-- Where a choice leads, right after its text. -/
def Choice.routeMark (c : Choice) : String :=
  if c.exit then " -> END"
  else match c.nextNode with
    | some next => s!" -> {next}"
    | none => " (stays)"

/-- The effects of a choice in an outline. -/
def Effects.outline (e : Effects) : String :=
  (if e.once then " [once]" else "") ++ bracketedList "set" e.setFlags ++
    bracketedList "add" e.addItems ++ bracketedList "remove" e.removeItems

/-- A choice in an outline. -/
def Choice.outline (number : Nat) (c : Choice) : String :=
  s!"  {number}. {c.text}" ++ c.routeMark ++
    bracketed "if " (c.condition.map Condition.display) ++ bracketed "id: " c.id ++
    (c.effects.map Effects.outline).getD ""

/-- The heading of a node. -/
def Node.heading (key : String) (n : Node) : String :=
  s!"=== {key} ===" ++ (if n.isDefault then " (default)" else "") ++
    bracketed "npc_state: " n.npcState ++
    bracketed "requires: " (n.entryCondition.map Condition.display)

/-- The lines of a node's paragraph. -/
def Node.outline (key : String) (n : Node) : List String :=
  n.heading key :: n.intros.map IntroBlock.outline ++
    n.numbered.map fun (i, c) => c.outline (i + 1)

namespace Graph

/-- The plain outline of a dialogue. -/
def outline (g : Graph) : String :=
  Text.join "\n" (g.entries.map fun (key, n) => Text.paragraph (n.outline key))

/-! ## Table -/

/-- The headings of the table. -/
def tableHeadings : List String := ["Node", "#", "Option", "Requires", "Route", "Effects"]

end Graph

/-- A node in the table. -/
def Node.label (key : String) (n : Node) : String :=
  key ++ (if n.isDefault then " (default)" else "") ++ bracketed "" n.npcState

/-- Where a choice leads, in the table. -/
def Choice.route (c : Choice) : String :=
  if c.exit then Graph.endTarget else c.nextNode.getD "-"

/-- The effects of a choice in the table. -/
def Effects.tableCell (e : Effects) : String :=
  Text.join ", " (e.setFlags.map ("set " ++ ·) ++ e.addItems.map ("+" ++ ·) ++
    e.removeItems.map ("-" ++ ·) ++ (if e.once then ["once"] else []))

/-- The row of a choice. -/
def Choice.tableRow (label : String) (index : Nat) (c : Choice) : List String :=
  [if index = 0 then label else "", toString (index + 1), c.text,
    (c.condition.map Condition.display).getD "", c.route,
    (c.effects.map Effects.tableCell).getD ""]

/-- The rows of a node. -/
def Node.tableRows (key : String) (n : Node) : List (List String) :=
  if n.choices.isEmpty then [[n.label key, "", "(no options)", "", "", ""]]
  else n.numbered.map fun (i, c) => c.tableRow (n.label key) i

namespace Graph

/-- The rows of the table. -/
def tableRows (g : Graph) : List (List String) :=
  g.entries.flatMap fun (key, n) => n.tableRows key

end Graph

end Colloquy
