import Colloquy.Dialogue.Graph
import Colloquy.Script.Flaw
import Colloquy.Script.Section
import Colloquy.Text.Lowercase

/-!
# Reading scripts — from text to a dialogue

Each section becomes a node. Its annotations, its intro and its choices are read independently of
each other and of other sections; a later section replaces an earlier one of the same name. What is
skipped is remarked in the order in which it stands, except that a repeated or empty section is
remarked after its content.
-/

namespace Colloquy

namespace Script

/-- Make a remark about a row. -/
def remark (row : Row) (flaw : Flaw) : Remarked Unit := Noted.note ⟨row, flaw⟩

/-- The condition of a `requires` annotation. -/
def readCondition (row : Row) (clause : Option (List Char)) : Remarked Condition := do
  let clause := clause.getD []
  if clause = [] then remark row .blankClause
  (Condition.read clause).mapNotes fun flaw => ⟨row, .clause flaw⟩

/-- The name and the words of a speaker, the name in lowercase. -/
def spoken? (text : List Char) : Option (String × String) :=
  (speech? text).map fun (name, words) => (String.ofList (Text.lower name), String.ofList words)

/-- A value, unless it is blank. -/
def filled (value : Option (List Char)) : Option String :=
  (value.filter (· ≠ [])).map String.ofList

/-! ## Nodes -/

/-- Take an annotation of a node in. -/
def annotateNode (node : Node) (row : Row) (note : Annotation) : Remarked Node :=
  match String.ofList note.tag, filled note.value with
  | "default", _ => pure { node with isDefault := true }
  | "npc_state", some state => pure { node with npcState := some state }
  | "id", some id => pure { node with id := some id }
  | "requires", _ => do
    let condition ← readCondition row note.value
    return { node with entryCondition := some condition }
  | "npc_state", none | "id", none => do
    remark row (.needsValue (String.ofList note.tag))
    return node
  | tag, _ => do
    remark row (.unknownNodeTag tag)
    return node

/-- Take the annotations of a node in. -/
def readAnnotations (node : Node) : List Row → Remarked Node
  | [] => pure node
  | row :: rows => do
    let node ← match annotation? row.text with
      | some note => annotateNode node row note
      | none => pure node
    readAnnotations node rows

/-! ## Intros -/

/-- Intro blocks that are complete, backwards, and the one that lines are still added to. -/
structure IntroDraft where
  complete : List IntroBlock := []
  current : Option IntroBlock := none

namespace IntroDraft

/-- The draft with its last block completed. -/
def close (d : IntroDraft) : IntroDraft := ⟨d.current.toList ++ d.complete, none⟩

/-- The blocks of a finished draft. -/
def blocks (d : IntroDraft) : List IntroBlock := d.close.complete.reverse

/-- The draft with one more line. -/
def say (d : IntroDraft) (line : Line) : IntroDraft :=
  let block := d.current.getD {}
  { d with current := some { block with lines := block.lines ++ [line] } }

end IntroDraft

/-- Take an intro row in. An annotation opens a block, and a speaker without words says nothing. -/
def readIntroRow (hero : String) (draft : IntroDraft) (row : Row) : Remarked IntroDraft :=
  match annotation? row.text with
  | some note =>
    if note.tag = "requires".toList then do
      let condition ← readCondition row note.value
      return { draft.close with current := some { condition := some condition } }
    else do
      remark row (.misplacedTag (String.ofList note.tag))
      return draft
  | none =>
    match spoken? row.text with
    | some (_, "") => pure draft
    | some (name, words) =>
      pure (draft.say ⟨if name = hero then .hero else .npc, name, words⟩)
    | none => do
      remark row .unspokenIntro
      return draft

/-- Take intro rows in. -/
def readIntroRows (hero : String) (draft : IntroDraft) : List Row → Remarked IntroDraft
  | [] => pure draft
  | row :: rows => do
    let draft ← readIntroRow hero draft row
    readIntroRows hero draft rows

/-! ## Choices -/

/-- A choice under construction: its effects and its reply may turn out empty. -/
structure ChoiceDraft where
  choice : Choice
  effects : Effects := {}
  reply : List Line := []

namespace ChoiceDraft

/-- The choice of a finished draft. -/
def finish (d : ChoiceDraft) : Choice :=
  { d.choice with
    effects := if d.effects.isEmpty then none else some d.effects
    npcResponse := if d.reply = [] then none else some d.reply }

/-- The draft with its choice changed. -/
def withChoice (d : ChoiceDraft) (f : Choice → Choice) : ChoiceDraft :=
  { d with choice := f d.choice }

/-- The draft with its effects changed. -/
def withEffects (d : ChoiceDraft) (f : Effects → Effects) : ChoiceDraft :=
  { d with effects := f d.effects }

end ChoiceDraft

/-- Take an annotation of a choice in. -/
def annotateChoice (draft : ChoiceDraft) (row : Row) (note : Annotation) : Remarked ChoiceDraft :=
  match String.ofList note.tag, filled note.value with
  | "requires", _ => do
    let condition ← readCondition row note.value
    return draft.withChoice fun c => { c with condition := some condition }
  | "set", some flag =>
    pure (draft.withEffects fun e => { e with setFlags := e.setFlags ++ [flag] })
  | "add", some item =>
    pure (draft.withEffects fun e => { e with addItems := e.addItems ++ [item] })
  | "remove", some item =>
    pure (draft.withEffects fun e => { e with removeItems := e.removeItems ++ [item] })
  | "once", _ => pure (draft.withEffects fun e => { e with once := true })
  | "id", some id => pure (draft.withChoice fun c => { c with id := some id })
  | "set", none | "add", none | "remove", none | "id", none => do
    remark row (.needsValue (String.ofList note.tag))
    return draft
  | tag, _ => do
    remark row (.unknownChoiceTag tag)
    return draft

/-- Take the target of a route in. -/
def routeChoice (draft : ChoiceDraft) (row : Row) (target : List Char) : Remarked ChoiceDraft :=
  match String.ofList (Text.trim target) with
  | "" => do
    remark row .noTarget
    return draft
  | node =>
    if node = Graph.endTarget then pure (draft.withChoice fun c => { c with exit := true })
    else pure (draft.withChoice fun c => { c with nextNode := some node })

/-- Take a row of a choice in that is no annotation and no route. Words of the hero are what the
choice says, also when there are none; words of anyone else are part of the reply. -/
def speakChoice (hero : String) (draft : ChoiceDraft) (row : Row) : Remarked ChoiceDraft :=
  match spoken? row.text with
  | some (name, words) =>
    if name = hero then pure (draft.withChoice fun c => { c with heroLine := words })
    else if words = "" then pure draft
    else pure { draft with reply := draft.reply ++ [⟨.npc, name, words⟩] }
  | none => do
    remark row .unrecognized
    return draft

/-- Take a row of a choice in. -/
def readChoiceRow (hero : String) (draft : ChoiceDraft) (row : Row) : Remarked ChoiceDraft :=
  match annotation? row.text, row.text with
  | some note, _ => annotateChoice draft row note
  | none, '>' :: target => routeChoice draft row target
  | none, _ => speakChoice hero draft row

/-- Take the rows of a choice in. -/
def readChoiceRows (hero : String) (draft : ChoiceDraft) : List Row → Remarked ChoiceDraft
  | [] => pure draft
  | row :: rows => do
    let draft ← readChoiceRow hero draft row
    readChoiceRows hero draft rows

/-- The choice of a block. -/
def readChoice (hero : String) (block : Block) : Remarked Choice := do
  let text := Text.trim (block.opening.text.drop 1)
  if text = [] then remark block.opening .noMenuText
  let draft ← readChoiceRows hero { choice := { text := String.ofList text } } block.body
  return draft.finish

/-! ## Graphs -/

/-- The node of a section. -/
def readNode (hero : String) (s : Section) : Remarked Node := do
  let node ← readAnnotations {} s.annotations
  let draft ← readIntroRows hero {} s.intro
  let choices ← Noted.each (readChoice hero) s.choices
  return { node with intros := draft.blocks, choices := choices }

/-- Take a section into a graph. -/
def readSection (hero : String) (graph : Graph) (s : Section) : Remarked Graph :=
  let name := String.ofList s.name
  if s.body = [] then do
    remark s.heading (.emptySection name)
    return graph
  else do
    let node ← readNode hero s
    if graph.contains name then remark s.heading (.repeatedSection name)
    return graph.insert name node

/-- Take sections into a graph. -/
def readSections (hero : String) (graph : Graph) : List Section → Remarked Graph
  | [] => pure graph
  | s :: rest => do
    let graph ← readSection hero graph s
    readSections hero graph rest

/-- The dialogue of a list of rows. -/
def readRows (hero : String) (rows : List Row) : Remarked (Except ScriptError Graph) := do
  let (loose, found) := sections rows
  Noted.noteAll (loose.map fun row => ⟨row, .outsideSection⟩)
  if found = [] then return .error .noSections
  let graph ← readSections hero .empty found
  return if graph.isEmpty then .error .emptyGraph else .ok graph

/-- **Read a script.** The hero's name is compared in lowercase. -/
def read (hero script : String) : Remarked (Except ScriptError Graph) :=
  readRows (Text.lowercase hero) (Row.ofScript script.toList)

/-- Read a script, its flaws being logged as warnings. -/
def readLogged (hero script : String) : Logged (Except ScriptError Graph) :=
  (read hero script).mapNotes Remark.record

/-- The diagnostics of a script: what was skipped, or why there is no dialogue. -/
def diagnostics (hero script : String) : List Diagnostic :=
  let result := read hero script
  match result.value with
  | .ok _ => result.notes.map Remark.diagnostic
  | .error e => [e.diagnostic script.toList]

end Script

end Colloquy
