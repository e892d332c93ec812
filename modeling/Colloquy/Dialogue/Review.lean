import Colloquy.Diagnostic
import Colloquy.Dialogue.Graph

/-!
# Reviewing a dialogue — dead ends an author should know about

A review finds what a conversation copes with but an author hardly meant: no node to open on, nodes
without choices, routes to nodes that do not exist, and tests of labels that no choice carries. It
reads the graph only; nothing it finds keeps a dialogue from being used.
-/

namespace Colloquy

/-- Something an author should know about a dialogue. -/
inductive Finding where
  /-- There is neither a start node nor a default node. -/
  | noEntry
  /-- A node has no choices. -/
  | deadEnd (key : String)
  /-- A choice, counted from zero, leads to a node that does not exist. -/
  | unknownRoute (key : String) (index : Nat) (text target : String)
  /-- A choice tests a label that no choice carries. -/
  | unknownLabel (key : String) (index : Nat) (label : String)
  deriving DecidableEq, Repr

/-- The warning about a finding. -/
def Finding.message : Finding → String
  | .noEntry =>
    s!"no `{Graph.startNode}` node and no `# default` node; " ++
      "conversations can only open through `# npc_state`"
  | .deadEnd key => s!"node `{key}` has no options; conversations end when they reach it"
  | .unknownRoute key index text target =>
    s!"node `{key}` option {index + 1} (`{text}`) routes to unknown node `{target}`"
  | .unknownLabel key index label =>
    s!"node `{key}` option {index + 1} checks `asked:{label}` but no option has `# id: {label}`"

/-- A finding as a diagnostic of the whole script. -/
def Finding.diagnostic (f : Finding) : Diagnostic := .general f.message

namespace Graph

/-- The labels that choices carry. -/
def labels (g : Graph) : List String :=
  g.entries.flatMap fun entry => entry.2.choices.filterMap Choice.id

/-- Whether a conversation can open without the state of a character. -/
def hasEntry (g : Graph) : Bool :=
  g.contains startNode || g.entries.any fun entry => entry.2.isDefault

/-- The finding about where a choice leads. -/
def reviewRoute (g : Graph) (key : String) (index : Nat) (c : Choice) : List Finding :=
  match c.nextNode with
  | some target =>
    if !c.exit && !g.contains target then [.unknownRoute key index c.text target] else []
  | none => []

/-- The findings about the labels that a choice tests. -/
def reviewLabels (g : Graph) (key : String) (index : Nat) (c : Choice) : List Finding :=
  let tested := (c.condition.map Condition.labels).getD []
  (tested.filter fun label => label ≠ "" && label ∉ g.labels).map (.unknownLabel key index)

/-- The findings about a node. -/
def reviewNode (g : Graph) (key : String) (n : Node) : List Finding :=
  (if n.choices.isEmpty then [.deadEnd key] else []) ++
    n.numbered.flatMap fun (i, c) => g.reviewRoute key i c ++ g.reviewLabels key i c

/-- All findings about a dialogue, in key order. -/
def review (g : Graph) : List Finding :=
  (if g.hasEntry then [] else [.noEntry]) ++
    g.entries.flatMap fun (key, n) => g.reviewNode key n

end Graph

end Colloquy
