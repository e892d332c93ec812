import Colloquy.Proofs.Script.Choices

/-!
# Drafts — the choices of a section in one pass

The choices of a section can also be read in one pass over its rows, with one draft at a time: a
dash completes the draft that is open and opens another one, any other row is taken in by the draft
that is open, and the end completes the last one. What comes of it are the choices of the blocks,
each as if the others were not there, and the same remarks (`each_readChoice_eq`). Only a row in
front of the first dash finds no draft open, and the pass starts at the first dash. So the choices
of a node are the blocks of a section and what each of them says (`choices_of_blocks`).
-/

namespace Colloquy

open Text

namespace Script

/-! ## Parts -/

/-- Rows taken apart at their dashes. -/
structure Parted (rows front : List Row) (bs : List Block) : Prop where
  /-- Nothing is lost. -/
  whole : front ++ bs.flatMap (fun b => b.opening :: b.body) = rows
  /-- No choice is opened in front of the first one. -/
  front : ∀ row ∈ front, row.opensChoice = false
  /-- A block starts with a dash. -/
  opening : ∀ b ∈ bs, b.opening.opensChoice = true
  /-- No other row of a block does. -/
  body : ∀ b ∈ bs, ∀ row ∈ b.body, row.opensChoice = false

variable {rows front : List Row} {bs : List Block}

theorem parted_blocks (rows : List Row) : Parted rows (blocks rows).1 (blocks rows).2 where
  whole := blocks_rows rows
  front row hrow := by
    rw [blocks_fst] at hrow
    simpa using List.mem_takeWhile_imp hrow
  opening _ hb := (openings_of_mem hb).1
  body _ hb := (openings_of_mem hb).2

namespace Parted

/-- The blocks without the first one. -/
theorem tail {b : Block} (h : Parted rows front (b :: bs)) :
    Parted (bs.flatMap fun b => b.opening :: b.body) [] bs where
  whole := List.nil_append _
  front := fun _ hrow => absurd hrow List.not_mem_nil
  opening := fun c hc => h.opening c (List.mem_cons_of_mem b hc)
  body := fun c hc => h.body c (List.mem_cons_of_mem b hc)

/-- More rows that open nothing stand in front of the first dash. -/
theorem append_front (h : Parted rows front bs) {more : List Row}
    (hmore : ∀ row ∈ more, row.opensChoice = false) : Parted (more ++ rows) (more ++ front) bs where
  whole := by rw [List.append_assoc, h.whole]
  front := fun row hrow => (List.mem_append.1 hrow).elim (hmore row) (h.front row)
  opening := h.opening
  body := h.body

/-- **There is one way to take rows apart at their dashes.** -/
theorem blocks_eq (h : Parted rows front bs) : blocks rows = (front, bs) := by
  rw [← h.whole, blocks_append_loose h.front]
  induction bs generalizing rows front with
  | nil => simp [blocks]
  | cons b bs ih =>
    have hrest : blocks (bs.flatMap fun b => b.opening :: b.body) = ([], bs) := ih h.tail
    rw [List.flatMap_cons, List.cons_append, blocks_cons_opening (h.opening b List.mem_cons_self),
      blocks_append_loose (h.body b List.mem_cons_self), hrest, List.append_nil, List.append_nil]

/-- **There is a block for each row with a dash**, in the same order. -/
theorem openings_eq (h : Parted rows front bs) :
    bs.map Block.opening = rows.filter Row.opensChoice := by
  have hnone {rows : List Row} (hrows : ∀ row ∈ rows, row.opensChoice = false) :
      rows.filter Row.opensChoice = [] :=
    List.filter_eq_nil_iff.2 fun row hrow => by simp [hrows row hrow]
  rw [← h.whole, List.filter_append, hnone h.front, List.nil_append]
  induction bs generalizing rows front with
  | nil => rfl
  | cons b bs ih =>
    rw [List.flatMap_cons, List.cons_append, List.filter_cons_of_pos
      (h.opening b List.mem_cons_self), List.filter_append, hnone (h.body b List.mem_cons_self),
      List.nil_append, List.map_cons, ih h.tail]

end Parted

theorem opensChoice_of_isAnnotation {row : Row} (h : row.isAnnotation = true) :
    row.opensChoice = false := by
  rw [Row.opensChoice, of_decide_eq_true h]
  rfl

/-- **A section is parted at its choices**: no leading annotation opens one. -/
theorem parted_body (s : Section) : Parted s.body (s.annotations ++ s.intro) s.choices := by
  have hbody : s.annotations ++ s.contents = s.body := List.takeWhile_append_dropWhile
  rw [← hbody]
  exact (parted_blocks s.contents).append_front fun row hrow =>
    opensChoice_of_isAnnotation (List.mem_takeWhile_imp hrow)

/-! ## One pass -/

/-- How far a pass over rows has come. -/
structure Pass where
  /-- The choices that are complete. -/
  finished : List Choice := []
  /-- The choice that is open. -/
  draft : Option ChoiceDraft := none
  /-- The rows that found no choice open. -/
  skipped : List Row := []

/-- The choices when the one that is open is completed. -/
def Pass.choices (p : Pass) : List Choice := p.finished ++ (p.draft.map ChoiceDraft.finish).toList

/-- Open a choice with the text behind the dash. -/
def openDraft (row : Row) : Remarked ChoiceDraft := do
  let text := trim (row.text.drop 1)
  if text = [] then remark row .noMenuText
  return { choice := { text := String.ofList text } }

/-- Go on by one row. -/
def passRow (hero : String) (p : Pass) (row : Row) : Remarked Pass :=
  if row.opensChoice then do
    let draft ← openDraft row
    return { p with finished := p.choices, draft := some draft }
  else
    match p.draft with
    | none => pure { p with skipped := p.skipped ++ [row] }
    | some draft => do
      let draft ← readChoiceRow hero draft row
      return { p with draft := some draft }

/-- Go on by rows. -/
def passRows (hero : String) (p : Pass) : List Row → Remarked Pass
  | [] => pure p
  | row :: rows => do
    let p ← passRow hero p row
    passRows hero p rows

variable {hero : String}

theorem rowwise_passRows : Rowwise (passRow hero) (passRows hero) :=
  ⟨fun _ => rfl, fun _ _ _ => rfl⟩

/-- Rows that open nothing are taken in by the draft that is open. -/
theorem passRows_of_draft (finished : List Choice) (draft : ChoiceDraft) (skipped : List Row)
    (h : ∀ row ∈ rows, row.opensChoice = false) :
    passRows hero ⟨finished, some draft, skipped⟩ rows =
      readChoiceRows hero draft rows >>= fun draft => pure ⟨finished, some draft, skipped⟩ := by
  induction rows generalizing draft with
  | nil => rfl
  | cons row rows ih =>
    have hrow : passRow hero ⟨finished, some draft, skipped⟩ row =
        readChoiceRow hero draft row >>= fun draft => pure ⟨finished, some draft, skipped⟩ := by
      rw [passRow, if_neg (by simp [h row List.mem_cons_self])]
    have hrest := fun d => ih d fun r hr => h r (List.mem_cons_of_mem row hr)
    rw [passRows, hrow, readChoiceRows, Noted.bind_assoc, Noted.bind_assoc]
    simp only [Noted.pure_bind, hrest]

/-- A choice is what its rows make of the draft that its dash opens. -/
theorem readChoice_eq_openDraft (hero : String) (b : Block) :
    readChoice hero b = openDraft b.opening >>= fun draft =>
      readChoiceRows hero draft b.body >>= fun draft => pure draft.finish := by
  rw [readChoice, openDraft]
  dsimp only
  split <;> rfl

/-- **A pass over a block makes its choice**: it completes the draft that is open, and leaves open
the one that the choice of the block is made of. -/
theorem passRows_block (hero : String) (p : Pass) {b : Block}
    (hopening : b.opening.opensChoice = true) (hbody : ∀ row ∈ b.body, row.opensChoice = false) :
    ∃ draft, draft.finish = (readChoice hero b).value ∧
      passRows hero p (b.opening :: b.body) =
        ⟨⟨p.choices, some draft, p.skipped⟩, (readChoice hero b).notes⟩ := by
  refine ⟨(readChoiceRows hero (openDraft b.opening).value b.body).value, ?_, ?_⟩
  · rw [readChoice_eq_openDraft]
    rfl
  · rw [passRows, passRow, if_pos hopening, Noted.bind_assoc, readChoice_eq_openDraft]
    simp only [Noted.pure_bind, passRows_of_draft _ _ _ hbody]
    exact congrArg (Noted.mk _) (by simp)

/-- **A pass over blocks adds the choice of each of them**, with the remarks of each, and passes
over no row. -/
theorem passRows_blocks (hero : String) (h : Parted rows front bs) (p : Pass) :
    let pass := passRows hero p (bs.flatMap fun b => b.opening :: b.body)
    pass.value.choices = p.choices ++ bs.map (fun b => (readChoice hero b).value) ∧
      pass.value.skipped = p.skipped ∧
      pass.notes = bs.flatMap fun b => (readChoice hero b).notes := by
  induction bs generalizing rows front p with
  | nil => exact ⟨(List.append_nil _).symm, rfl, rfl⟩
  | cons b bs ih =>
    obtain ⟨draft, hdraft, hblock⟩ := passRows_block hero p
      (h.opening b List.mem_cons_self) (h.body b List.mem_cons_self)
    obtain ⟨hchoices, hskipped, hnotes⟩ := ih h.tail ⟨p.choices, some draft, p.skipped⟩
    have hmade : (⟨p.choices, some draft, p.skipped⟩ : Pass).choices =
        p.choices ++ [(readChoice hero b).value] := by rw [← hdraft]; rfl
    dsimp only
    rw [List.flatMap_cons, rowwise_passRows.append, hblock]
    refine ⟨?_, hskipped, congrArg _ hnotes⟩
    rw [List.map_cons, List.append_cons, ← hmade]
    exact hchoices

/-- **The choices of a section are those of one pass** from the first dash on, with the remarks of
this pass. The pass is over no row in vain. -/
theorem each_readChoice_eq (hero : String) (h : Parted rows front bs) :
    let pass := passRows hero {} (bs.flatMap fun b => b.opening :: b.body)
    Noted.each (readChoice hero) bs = ⟨pass.value.choices, pass.notes⟩ ∧
      pass.value.skipped = [] := by
  obtain ⟨hchoices, hskipped, hnotes⟩ := passRows_blocks hero h {}
  dsimp only
  rw [hchoices, hnotes, ← Noted.value_each, ← Noted.notes_each]
  exact ⟨rfl, hskipped⟩

/-! ## The choices of a node -/

/-- Choices as a section tells them that is parted at its dashes. -/
structure ToldBy (hero : String) (s : Section) (front : List Row) (bs : List Block)
    (choices : List Choice) : Prop where
  parted : Parted s.body front bs
  /-- There is a block for every dash, in order. -/
  openings : bs.map Block.opening = s.body.filter Row.opensChoice
  /-- Each choice is what its block says, whatever the others say. -/
  each : choices = bs.map (Block.choice hero)
  /-- One pass from the first dash on comes to the same. -/
  pass : (passRows hero {} (bs.flatMap fun b => b.opening :: b.body)).value.choices = choices
  /-- Every row of this pass finds a choice open. -/
  skipped : (passRows hero {} (bs.flatMap fun b => b.opening :: b.body)).value.skipped = []

/-- The choices that are read from a section are told by its rows. -/
theorem toldBy_readNode (hero : String) (s : Section) :
    ToldBy hero s (s.annotations ++ s.intro) s.choices (readNode hero s).value.choices := by
  have hparted := parted_body s
  obtain ⟨hpass, hskipped⟩ := each_readChoice_eq hero hparted
  have hchoices := congrArg Noted.value hpass
  rw [Noted.value_each, ← choices_readNode] at hchoices
  refine ⟨hparted, hparted.openings_eq, ?_, hchoices.symm, hskipped⟩
  simp only [choices_readNode, value_readChoice_eq]

/-- The node under a name is that of the last section with rows that has this name. -/
theorem exists_prevails_of_read {hero script : String} {g : Graph}
    (h : (read hero script).value = .ok g) {key : String} {node : Node}
    (hnode : g.get? key = some node) :
    ∃ loose found s, Cut (Row.ofScript script.toList) loose found ∧ Prevails found s ∧
      String.ofList s.name = key ∧ node = (readNode (lowercase hero) s).value := by
  have hcut := cut_sections (Row.ofScript script.toList)
  have hgraph := hcut.eq_readSections h
  have hkey : g.contains key = true := by
    rw [TextMap.contains, hnode]
    rfl
  subst hgraph
  obtain ⟨s, hprevails, rfl⟩ := (assembled_readSections hcut).last key hkey
  refine ⟨_, _, s, hcut, hprevails, rfl, ?_⟩
  obtain ⟨before, after, hfound, hbody, hlast⟩ := hprevails
  rw [hfound, get?_readSections _ _ hbody hlast] at hnode
  exact (Option.some.inj hnode).symm

/-- **Choices are read block by block.** Every node of a dialogue has the choices that a section
tells: one for each row that starts with a dash, in order, and each is what the rows from this dash
up to the next one say, or up to the end. Reading the section in one pass comes to the same, and
there is never a row before a choice is open. -/
theorem choices_of_blocks {hero script : String} {g : Graph} (h : (read hero script).value = .ok g)
    {key : String} {node : Node} (hnode : g.get? key = some node) :
    ∃ loose found s front bs, Cut (Row.ofScript script.toList) loose found ∧ Prevails found s ∧
      String.ofList s.name = key ∧ ToldBy (lowercase hero) s front bs node.choices := by
  obtain ⟨loose, found, s, hcut, hprevails, hname, rfl⟩ := exists_prevails_of_read h hnode
  exact ⟨loose, found, s, _, _, hcut, hprevails, hname, toldBy_readNode (lowercase hero) s⟩

/-- The first choice has what was said last, values and targets that are blank aside; what is not
said of the second one is not taken from the first one. -/
theorem choices_of_blocks_ask :
    let script := "=== start ===\n# default\nbob: Yes?\n- Ask\n# requires: met\nnate: You.\n" ++
      "# requires: seen\n# id: ask\n# id:\n# set: asked\nNATE:\nbob: No.\n> END\n> hall\n>\n" ++
      "# set:\nann: Yes.\n# once\n-\nhm?\n- Bye\n> END"
    let node : Node := { intros := [{ lines := [⟨.npc, "bob", "Yes?"⟩] }], isDefault := true
                         choices :=
                          [{ text := "Ask", condition := some (.flag "seen")
                             npcResponse := some [⟨.npc, "bob", "No."⟩, ⟨.npc, "ann", "Yes."⟩]
                             nextNode := some "hall", exit := true, id := some "ask"
                             effects := some { setFlags := ["asked"], once := true } },
                           { text := "" }, { text := "Bye", exit := true }] }
    (read "Nate" script).value = .ok (TextMap.empty.insert "start" node) ∧
      ∃ loose found s front bs, Cut (Row.ofScript script.toList) loose found ∧ Prevails found s ∧
        String.ofList s.name = "start" ∧ ToldBy (lowercase "Nate") s front bs node.choices := by
  intro script node
  have hread : (read "Nate" script).value = .ok (TextMap.empty.insert "start" node) := by
    decide +kernel
  exact ⟨hread, choices_of_blocks hread rfl⟩

end Script

end Colloquy
