import Colloquy.Dialogue.Outline
import Colloquy.Proofs.Dialogue.Numbering
import Colloquy.Proofs.Script.WellFormed
import Colloquy.Proofs.Text.ByteOrder
import Colloquy.Proofs.Text.Paragraph
import Mathlib.Data.List.Forall2

/-!
# Outlines — one line for each element

The outline of a dialogue is a text, and what it says is in its lines. Whether these are the lines
that were meant depends on what is written into them: a line break in a text would make two lines of
one. In a well-formed dialogue no text has one, so the outline is cut at its line breaks into the
paragraphs of the nodes (`pieces_outline`). The paragraph of a node has a heading, a line for each
intro block and a line for each choice, in this order (`outlined`).
-/

namespace Colloquy

open Text

/-! ## Lines that say something -/

/-- A text on one line, and not all of it is blank. -/
structure IsFilledLine (s : String) : Prop where
  isLine : IsLine s
  filled : trim s.toList ≠ []

namespace IsFilledLine

variable {s t : String}

theorem append (hs : IsFilledLine s) (ht : IsLine t) : IsFilledLine (s ++ t) := by
  refine ⟨hs.isLine.append ht, fun hnil => hs.filled (trim_eq_nil_iff.2 fun c hc => ?_)⟩
  refine trim_eq_nil_iff.1 hnil c ?_
  rw [String.toList_append]
  exact List.mem_append_left _ hc

theorem behind (ht : IsFilledLine t) (hs : IsLine s) : IsFilledLine (s ++ t) := by
  refine ⟨hs.append ht.isLine, fun hnil => ht.filled (trim_eq_nil_iff.2 fun c hc => ?_)⟩
  refine trim_eq_nil_iff.1 hnil c ?_
  rw [String.toList_append]
  exact List.mem_append_right _ hc

end IsFilledLine

/-! ## What is written into a line -/

mutual

/-- **A condition with texts on one line each is displayed on one line.** -/
theorem Condition.isLine_display : ∀ {c : Condition}, OneLine c.texts → IsLine c.display
  | .asked label, h => (by decide : IsLine "asked:").append (h label List.mem_cons_self)
  | .notAsked label, h => (by decide : IsLine "!asked:").append (h label List.mem_cons_self)
  | .hasItem item, h => (by decide : IsLine "has:").append (h item List.mem_cons_self)
  | .lacksItem item, h => (by decide : IsLine "!has:").append (h item List.mem_cons_self)
  | .npcState npc state, h =>
    (((by decide : IsLine "npc_state:").append (h npc List.mem_cons_self)).append
      (by decide : IsLine ":")).append (h state (List.mem_cons_of_mem npc List.mem_cons_self))
  | .visited room, h => (by decide : IsLine "visited:").append (h room List.mem_cons_self)
  | .flag name, h => h name List.mem_cons_self
  | .notFlag name, h => (by decide : IsLine "!").append (h name List.mem_cons_self)
  | .all _, h => IsLine.join (by decide) (isLine_displayAll h)
  | .never, _ => by decide
  | .always, _ => by decide

theorem Condition.isLine_displayAll :
    ∀ {cs : List Condition}, OneLine (textsOfAll cs) → ∀ text ∈ displayAll cs, IsLine text
  | [], _ => nofun
  | _ :: _, h =>
    List.forall_mem_cons.2 ⟨isLine_display fun text htext => h text (List.mem_append_left _ htext),
      isLine_displayAll fun text htext => h text (List.mem_append_right _ htext)⟩

end

section

variable {hero key : String}

theorem isLine_bracketed (lead : String) (hlead : IsLine lead) {value : Option String}
    (h : ∀ text, value = some text → IsLine text) : IsLine (bracketed lead value) := by
  cases value with
  | none => exact (by decide : IsLine "")
  | some text =>
    have hopen : IsLine (" [" ++ lead) := (by decide : IsLine " [").append hlead
    exact (hopen.append (h text rfl)).append (by decide)

theorem isLine_bracketedList (lead : String) (hlead : IsLine lead) {values : List String}
    (h : ∀ value ∈ values, IsLine value) : IsLine (bracketedList lead values) := by
  unfold bracketedList
  split
  · decide
  · have hopen : IsLine (" [" ++ lead ++ ": ") :=
      ((by decide : IsLine " [").append hlead).append (by decide)
    exact (hopen.append (.join (by decide) h)).append (by decide)

/-- A condition that may be absent is remarked on one line. -/
theorem isLine_bracketed_display (lead : String) (hlead : IsLine lead) {c : Option Condition}
    (h : ∀ d, c = some d → d.WellFormed) : IsLine (bracketed lead (c.map Condition.display)) := by
  refine isLine_bracketed lead hlead fun text htext => ?_
  obtain ⟨d, hd, rfl⟩ := Option.map_eq_some_iff.1 htext
  exact Condition.isLine_display (h d hd).oneLine

theorem Effects.WellFormed.isLine_outline {e : Effects} (h : e.WellFormed) : IsLine e.outline := by
  have honce : IsLine (if e.once then " [once]" else "") := by split <;> decide
  have hset := isLine_bracketedList "set" (by decide) (OneLine.of_clean h.setFlags)
  have hadd := isLine_bracketedList "add" (by decide) (OneLine.of_clean h.addItems)
  have hremove := isLine_bracketedList "remove" (by decide) (OneLine.of_clean h.removeItems)
  exact ((honce.append hset).append hadd).append hremove

theorem Choice.WellFormed.isLine_routeMark {c : Choice} (h : c.WellFormed hero) :
    IsLine c.routeMark := by
  unfold Choice.routeMark
  split
  · decide
  · split
    · next target htarget =>
      exact (by decide : IsLine " -> ").append (h.nextNode target htarget).1.oneLine
    · decide

theorem Choice.WellFormed.isFilledLine_outline {c : Choice} (h : c.WellFormed hero)
    (number : Nat) : IsFilledLine (c.outline number) := by
  have hnumber : IsFilledLine ("  " ++ toString number ++ ". ") :=
    .behind ⟨by decide, by decide⟩ ((by decide : IsLine "  ").append (isLine_toString number))
  have hcondition := isLine_bracketed_display "if " (by decide) h.condition
  have hid := isLine_bracketed "id: " (by decide) fun id hid => (h.id id hid).oneLine
  have heffects : IsLine ((c.effects.map Effects.outline).getD "") := by
    cases he : c.effects with
    | none => exact (by decide : IsLine "")
    | some e => exact (h.effects e he).2.isLine_outline
  exact ((((hnumber.append h.text).append h.isLine_routeMark).append hcondition).append hid).append
    heffects

theorem IntroBlock.WellFormed.isFilledLine_outline {b : IntroBlock} (h : b.WellFormed hero) :
    IsFilledLine b.outline := by
  have hnoun : IsLine (if b.lines.length = 1 then "line" else "lines") := by split <;> decide
  have hcount : IsLine (toString b.lines.length) := isLine_toString _
  unfold IntroBlock.outline
  dsimp only
  split
  · next c hc =>
    have hdisplay : IsLine c.display := Condition.isLine_display (h.condition c hc).oneLine
    have hintro : IsFilledLine ("  intro if " ++ c.display) :=
      IsFilledLine.append ⟨by decide, by decide⟩ hdisplay
    exact (((hintro.append (by decide)).append hcount).append (by decide)).append hnoun
  · have hintro : IsFilledLine "  intro: " := ⟨by decide, by decide⟩
    exact ((hintro.append hcount).append (by decide)).append hnoun

theorem Node.WellFormed.isFilledLine_heading {n : Node} (h : n.WellFormed hero)
    (hkey : IsLine key) : IsFilledLine (n.heading key) := by
  have hname : IsFilledLine ("=== " ++ key ++ " ===") :=
    (IsFilledLine.append ⟨by decide, by decide⟩ hkey).append (by decide)
  have hdefault : IsLine (if n.isDefault then " (default)" else "") := by split <;> decide
  have hstate := isLine_bracketed "npc_state: " (by decide) fun state hstate =>
    (h.npcState state hstate).oneLine
  have hentry := isLine_bracketed_display "requires: " (by decide) h.entryCondition
  exact ((hname.append hdefault).append hstate).append hentry

/-- **Every line of a well-formed node is one line**, and not blank. -/
theorem Node.WellFormed.isFilledLine_outline {n : Node} (h : n.WellFormed hero)
    (hkey : IsLine key) : ∀ line ∈ n.outline key, IsFilledLine line := by
  refine List.forall_mem_append.2 ⟨List.forall_mem_cons.2 ⟨h.isFilledLine_heading hkey, ?_⟩, ?_⟩
  · exact List.forall_mem_map.2 fun b hb => (h.intros.block b hb).isFilledLine_outline
  · refine List.forall_mem_map.2 fun (i, c) hc => ?_
    have hmem : c ∈ n.choices := List.mem_of_getElem? (Node.mem_numbered.1 hc)
    exact (h.choice c hmem).isFilledLine_outline (i + 1)

end

/-! ## What each line says -/

/-- How it is marked where a choice leads. -/
inductive Choice.RouteMarked (c : Choice) : String → Prop
  | ends (h : c.exit = true) : RouteMarked c " -> END"
  | goesOn (h : c.exit = false) {target : String} (htarget : c.nextNode = some target) :
      RouteMarked c (" -> " ++ target)
  | stays (h : c.exit = false) (hnext : c.nextNode = none) : RouteMarked c " (stays)"

theorem Choice.routeMarked (c : Choice) : c.RouteMarked c.routeMark := by
  unfold Choice.routeMark
  split
  · next hexit => exact .ends hexit
  · next hexit =>
    have hgoes : c.exit = false := by simpa using hexit
    split
    · next htarget => exact .goesOn hgoes htarget
    · next hnext => exact .stays hgoes hnext

/-- The line of an intro block counts the lines of the block. -/
def IntroBlock.Counted (b : IntroBlock) (line : String) : Prop :=
  ∃ test, line = "  intro" ++ test ++ ": " ++ toString b.lines.length ++
    if b.lines.length = 1 then " line" else " lines"

/-- The line of a choice has its number, its text and, right behind the text, where it leads. -/
def Choice.Listed (c : Choice) (number : Nat) (line : String) : Prop :=
  ∃ mark remarks, c.RouteMarked mark ∧
    line = "  " ++ toString number ++ ". " ++ c.text ++ mark ++ remarks

/-- **The lines of a node**: one for its heading, one for each intro block and one for each choice,
and these in order. -/
structure Node.Outlined (key : String) (n : Node) (lines : List String) : Prop where
  length : lines.length = 1 + n.intros.length + n.choices.length
  heading : ∃ remarks, lines[0]? = some ("=== " ++ key ++ " ===" ++ remarks)
  intro : ∀ i b, n.intros[i]? = some b → ∃ line, lines[1 + i]? = some line ∧ b.Counted line
  choice : ∀ i c, n.choices[i]? = some c →
    ∃ line, lines[1 + n.intros.length + i]? = some line ∧ c.Listed (i + 1) line

theorem IntroBlock.counted (b : IntroBlock) : b.Counted b.outline := by
  have hnoun : " " ++ (if b.lines.length = 1 then "line" else "lines") =
      if b.lines.length = 1 then " line" else " lines" := by split <;> rfl
  unfold IntroBlock.Counted IntroBlock.outline
  rw [← hnoun]
  dsimp only
  split
  · next c _ => exact ⟨" if " ++ c.display, by simp only [String.append_assoc]; rfl⟩
  · exact ⟨"", by simp only [String.append_assoc]; rfl⟩

theorem Choice.listed (c : Choice) (number : Nat) : c.Listed number (c.outline number) := by
  refine ⟨c.routeMark, bracketed "if " (c.condition.map Condition.display) ++
    bracketed "id: " c.id ++ (c.effects.map Effects.outline).getD "", c.routeMarked, ?_⟩
  simp only [Choice.outline, String.append_assoc]
  rfl

/-- The choices of a node are listed by their numbers. -/
theorem Node.getElem?_numbered {n : Node} {i : Nat} {c : Choice} (h : n.choices[i]? = some c) :
    n.numbered[i]? = some (i, c) := by
  rw [Node.numbered, List.getElem?_map, List.getElem?_zipIdx, h]
  simp

theorem Node.outlined (key : String) (n : Node) : n.Outlined key (n.outline key) := by
  have hfront : (n.heading key :: n.intros.map IntroBlock.outline).length =
      1 + n.intros.length := by
    rw [List.length_cons, List.length_map, Nat.add_comm]
  have hnumbered : n.numbered.length = n.choices.length := by
    rw [Node.numbered, List.length_map, List.length_zipIdx]
  constructor
  · rw [Node.outline, List.length_append, hfront, List.length_map, hnumbered]
  · exact ⟨(if n.isDefault then " (default)" else "") ++ bracketed "npc_state: " n.npcState ++
      bracketed "requires: " (n.entryCondition.map Condition.display), by
      simp only [Node.outline, Node.heading, List.cons_append, List.getElem?_cons_zero,
        String.append_assoc]
      rfl⟩
  · intro i b hb
    refine ⟨b.outline, ?_, b.counted⟩
    obtain ⟨hi, -⟩ := List.getElem?_eq_some_iff.1 hb
    rw [Node.outline, List.getElem?_append_left (by omega), Nat.add_comm, List.getElem?_cons_succ,
      List.getElem?_map, hb, Option.map_some]
  · intro i c hc
    refine ⟨c.outline (i + 1), ?_, c.listed (i + 1)⟩
    rw [Node.outline, List.getElem?_append_right (by omega), hfront, Nat.add_sub_cancel_left,
      List.getElem?_map, Node.getElem?_numbered hc, Option.map_some]

/-! ## The whole outline -/

/-- The paragraphs of an outline, each by its lines. -/
def Graph.paragraphs (g : Graph) : List (List String) :=
  g.entries.map fun (key, n) => n.outline key

theorem Graph.outline_eq_paragraph (g : Graph) :
    g.outline = paragraph ([""].intercalate g.paragraphs) := by
  rw [← join_paragraphs, Graph.paragraphs, List.map_map]
  rfl

theorem Graph.WellFormed.isFilledLine_of_mem {hero : String} {g : Graph} (h : g.WellFormed hero)
    {lines : List String} (hlines : lines ∈ g.paragraphs) : ∀ line ∈ lines, IsFilledLine line := by
  obtain ⟨⟨key, n⟩, hentry, rfl⟩ := List.mem_map.1 hlines
  have hn : g.get? key = some n := TextMap.mem_entries.1 hentry
  exact (h.node key n hn).isFilledLine_outline (h.key key n hn).clean.oneLine

/-- **The outline of a well-formed dialogue is cut at its line breaks** into the lines of its
paragraphs, with one empty line between them. -/
theorem Graph.WellFormed.pieces_outline {hero : String} {g : Graph} (h : g.WellFormed hero) :
    pieces '\n' g.outline.toList =
      ([""].intercalate g.paragraphs).map String.toList ++ [[]] := by
  rw [g.outline_eq_paragraph]
  refine pieces_paragraph fun line hline => ?_
  rcases mem_of_mem_intercalate hline with hgap | ⟨lines, hlines, hmem⟩
  · obtain rfl := List.mem_singleton.1 hgap
    decide
  · exact (h.isFilledLine_of_mem hlines line hmem).isLine

/-! ## From a script -/

namespace Script

/-- **The outline of a script has one line for each element.** It is cut at its line breaks, the
last of which ends it, into one paragraph for each node with a single empty line between them. The
nodes come by the bytes of their names, every node has its heading, its intro blocks and its
numbered choices on a line each, and none of these lines is blank. -/
theorem outline_of_read {hero script : String} {g : Graph} (h : (read hero script).value = .ok g) :
    ∃ paragraphs : List (List String),
      pieces '\n' g.outline.toList = ([""].intercalate paragraphs).map String.toList ++ [[]] ∧
      (g.entries.Pairwise fun a b => bytes a.1 < bytes b.1) ∧
      List.Forall₂ (fun entry lines => entry.2.Outlined entry.1 lines) g.entries paragraphs ∧
      ∀ lines ∈ paragraphs, ∀ line ∈ lines, trim line.toList ≠ [] := by
  have hg : g.WellFormed (lowercase hero) := wellFormed_of_read h
  refine ⟨g.paragraphs, hg.pieces_outline, g.increasing.imp bytes_lt_bytes_of_lt, ?_, ?_⟩
  · refine List.forall₂_map_right_iff.2 (List.forall₂_same.2 fun (key, n) _ => ?_)
    exact n.outlined key
  · intro lines hlines line hline
    exact (hg.isFilledLine_of_mem hlines line hline).filled

/-- A node that nobody introduces comes first by its name, and an answer that stays is last. -/
theorem outline_of_read_gate :
    let script := "=== road ===\n# default\nbob: Halt.\n# requires: has:pass, !late\n" ++
      "bob: Go on.\nbob: Good night.\n- Who are you?\n# id: who\n# once\n# set: met\n" ++
      "# add: badge\n# add: map\n> gate\n- Wait\n=== gate ===\n# npc_state: awake\n" ++
      "# requires: met\n- Leave\n> END\n"
    let gate : Node :=
      { npcState := some "awake", entryCondition := some (.flag "met")
        choices := [{ text := "Leave", exit := true }] }
    let road : Node :=
      { isDefault := true
        intros := [{ lines := [⟨.npc, "bob", "Halt."⟩] },
                   { condition := some (.all [.hasItem "pass", .notFlag "late"])
                     lines := [⟨.npc, "bob", "Go on."⟩, ⟨.npc, "bob", "Good night."⟩] }]
        choices := [{ text := "Who are you?", nextNode := some "gate", id := some "who"
                      effects := some { setFlags := ["met"], addItems := ["badge", "map"]
                                        once := true } },
                    { text := "Wait" }] }
    let g : Graph := (TextMap.empty.insert "road" road).insert "gate" gate
    (read "nate" script).value = .ok g ∧
      g.outline = "=== gate === [npc_state: awake] [requires: met]\n  1. Leave -> END\n\n" ++
        "=== road === (default)\n  intro: 1 line\n  intro if has:pass, !late: 2 lines\n" ++
        "  1. Who are you? -> gate [id: who] [once] [set: met] [add: badge, map]\n" ++
        "  2. Wait (stays)\n" ∧
      ∃ paragraphs : List (List String),
        pieces '\n' g.outline.toList = ([""].intercalate paragraphs).map String.toList ++ [[]] ∧
        (g.entries.Pairwise fun a b => bytes a.1 < bytes b.1) ∧
        List.Forall₂ (fun entry lines => entry.2.Outlined entry.1 lines) g.entries paragraphs ∧
        ∀ lines ∈ paragraphs, ∀ line ∈ lines, trim line.toList ≠ [] := by
  intro script gate road g
  have hread : (read "nate" script).value = .ok g := by decide +kernel
  exact ⟨hread, by decide +kernel, outline_of_read hread⟩

end Script

end Colloquy
