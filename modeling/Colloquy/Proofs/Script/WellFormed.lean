import Colloquy.Proofs.Condition.Conjunction
import Colloquy.Proofs.Dialogue.WellFormed
import Colloquy.Proofs.Script.Keep
import Colloquy.Proofs.Script.Outcome

/-!
# The dialogue of a script is well-formed

Whatever a script says, what is read from it is well-formed (`wellFormed_of_read`). A row is one
line, so no reader finds a line break in it; what is written behind a tag is trimmed, and is taken
only if something is left; a speaker without words says nothing. Each row keeps the draft that it is
taken into well-formed, and so do all rows (`Rowwise.keeps`). For an intro this needs to know that
the lines without a condition come first: once a block is open, some block stays open.
-/

namespace Colloquy

open Text

/-! ## Lowercase -/

namespace Text

/-- A character is the line break just by its code point. -/
theorem ofNat_ne_newline {n : Nat} (h : n ≠ 10) : Char.ofNat n ≠ '\n' := by
  intro heq
  rw [Char.ofNat] at heq
  by_cases hvalid : n.isValidChar
  · rw [dif_pos hvalid] at heq
    exact h (congrArg Char.toNat heq)
  · rw [dif_neg hvalid] at heq
    cases heq

theorem toLower_ne_newline_of_ascii :
    ∀ n < 128, Char.ofNat n ≠ '\n' → (Char.ofNat n).toLower ≠ '\n' := by decide

/-- The lowercase of a capital beyond ASCII is beyond the control characters. -/
theorem ten_lt_lower : ∀ run ∈ capitalRuns, 10 < run.lower := by decide +kernel

/-- Nothing but the line break has it for its lowercase. -/
theorem lowerChar_ne_newline {c : Char} (h : c ≠ '\n') : lowerChar c ≠ '\n' := by
  unfold lowerChar
  split
  · next hascii =>
    have hlower := toLower_ne_newline_of_ascii c.toNat hascii
    rw [Char.ofNat_toNat] at hlower
    exact hlower h
  · split
    · next n hn =>
      obtain ⟨run, hrun, hlower⟩ := List.exists_of_findSome?_eq_some hn
      obtain ⟨-, hn⟩ := Option.ite_none_right_eq_some.1 hlower
      have hten := ten_lt_lower run hrun
      have hsum := Option.some.inj hn
      exact ofNat_ne_newline (by omega)
    · exact h

theorem newline_not_mem_lowerFrom {before cs : List Char} (h : '\n' ∉ cs) :
    '\n' ∉ lowerFrom before cs := by
  induction cs generalizing before with
  | nil => exact List.not_mem_nil
  | cons c cs ih =>
    obtain ⟨hc, hcs⟩ := not_or.1 (mt List.mem_cons.2 h)
    have hhere := lowerChar_ne_newline (Ne.symm hc)
    rw [lowerFrom]
    refine mt List.mem_append.1 (not_or.2 ⟨?_, ih hcs⟩)
    split
    · split <;> decide
    · split
      · decide
      · simpa using Ne.symm hhere

/-- **The lowercase of a text on one line is on one line.** -/
theorem newline_not_mem_lower {cs : List Char} (h : '\n' ∉ cs) : '\n' ∉ lower cs :=
  newline_not_mem_lowerFrom h

end Text

/-! ## Clauses -/

namespace Condition

/-- What an atom says: a single test that does not always hold, about texts in the atom. -/
structure SaidBy (atom : List Char) (c : Condition) : Prop where
  test : IsTest c
  notAlways : c ≠ .always
  mem : ∀ text ∈ c.texts, ∀ x ∈ text.toList, x ∈ atom

theorem Keyword.texts {key : String} {test : String → Condition} (h : Keyword key test)
    (operand : String) : (test operand).texts = [operand] := by
  cases h <;> rfl

/-- **An atom is read as a test of what it says**, flawed or not. -/
theorem saidBy_readAtom (atom : List Char) : SaidBy atom (readAtom atom).value := by
  have hmeans := means_readAtom atom
  generalize (readAtom atom).value = c at hmeans ⊢
  have htest : IsTest c := by
    cases c with
    | all cs => exact hmeans.ne.2 cs rfl
    | _ => trivial
  refine ⟨htest, hmeans.ne.1, fun text htext x hx => ?_⟩
  cases hmeans with
  | keyword h operand =>
    rw [h.texts, List.mem_singleton] at htext
    rw [htext, String.toList_ofList] at hx
    exact List.mem_append_right _ (mem_of_mem_trim hx)
  | @npcState npc hcolon state =>
    rw [Condition.texts, List.mem_cons, List.mem_singleton] at htext
    refine List.mem_append_right _ ?_
    rcases htext with rfl | rfl <;> rw [String.toList_ofList] at hx
    · exact List.mem_append_left _ (mem_of_mem_trim hx)
    · exact List.mem_append_right _ (List.mem_cons_of_mem _ (mem_of_mem_trim hx))
  | noState => cases htext
  | notFlag hcolon =>
    rw [Condition.texts, List.mem_singleton] at htext
    rw [htext, String.toList_ofList] at hx
    exact List.mem_cons_of_mem _ (mem_of_mem_trim hx)
  | flag h =>
    rw [Condition.texts, List.mem_singleton] at htext
    rwa [htext, String.toList_ofList] at hx

/-- Tests on one line each form a well-formed condition, however many they are. -/
theorem wellFormed_conjunction {cs : List Condition}
    (h : ∀ c ∈ cs, IsTest c ∧ c ≠ .always ∧ OneLine c.texts) : (conjunction cs).WellFormed := by
  have hline : OneLine (cs.flatMap texts) := .flatMap fun c hc => (h c hc).2.2
  rcases cs with _ | ⟨c, _ | ⟨d, cs⟩⟩
  · exact ⟨.test trivial, nofun⟩
  · obtain ⟨htest, -, hone⟩ := h c List.mem_cons_self
    exact ⟨.test htest, hone⟩
  · refine ⟨.all (by simp) fun c hc => ⟨(h c hc).1, (h c hc).2.1⟩, ?_⟩
    show OneLine (texts (.all (c :: d :: cs)))
    rw [texts, textsOfAll_eq]
    exact hline

/-- **A clause on one line is read as a well-formed condition.** -/
theorem wellFormed_read {clause : List Char} (h : '\n' ∉ clause) :
    (read clause).value.WellFormed := by
  rw [value_read, meanings]
  refine wellFormed_conjunction (List.forall_mem_map.2 fun atom hatom => ?_)
  have hline : '\n' ∉ atom := fun hc => h ((isAtom_of_mem_atoms hatom).2 _ hc)
  have hsaid := saidBy_readAtom atom
  exact ⟨hsaid.test, hsaid.notAlways, fun text htext hc => hline (hsaid.mem text htext _ hc)⟩

end Condition

namespace Script

variable {hero : String} {row : Row} {note : Annotation}

/-! ## What a row says -/

theorem mem_value {text : List Char} (h : annotation? text = some note) {value : List Char}
    (hvalue : note.value = some value) : trim value = value ∧ ∀ c ∈ value, c ∈ text := by
  obtain ⟨tag, _⟩ := note
  obtain rfl := hvalue
  cases annotation?_eq_some_iff.1 h with
  | @valued tag value hcolon =>
    refine ⟨trim_trim value, fun c hc => ?_⟩
    exact List.mem_cons_of_mem _
      (List.mem_append_right _ (List.mem_cons_of_mem _ (mem_of_mem_trim hc)))

/-- What is written behind a tag is clean, unless it is blank. -/
theorem clean_of_filled (hrow : Clean row.text) (hnote : annotation? row.text = some note)
    {label : String} (h : filled note.value = some label) : Clean label.toList := by
  obtain ⟨value, hvalue, rfl⟩ := Option.map_eq_some_iff.1 h
  obtain ⟨hvalue, hne⟩ := Option.filter_eq_some_iff.1 hvalue
  obtain ⟨htrim, hmem⟩ := mem_value hnote hvalue
  rw [String.toList_ofList]
  exact ⟨by simpa using hne, htrim, fun hc => hrow.oneLine (hmem _ hc)⟩

theorem wellFormed_readCondition (hrow : Clean row.text)
    (hnote : annotation? row.text = some note) :
    (readCondition row note.value).value.WellFormed := by
  have hclause : '\n' ∉ note.value.getD [] := by
    cases hvalue : note.value with
    | none => exact List.not_mem_nil
    | some value => exact fun hc => hrow.oneLine ((mem_value hnote hvalue).2 _ hc)
  unfold readCondition
  dsimp only
  split <;> exact Condition.wellFormed_read hclause

theorem eq_of_speech? {text name words : List Char} (h : speech? text = some (name, words)) :
    ∃ rest, text = name ++ ':' :: rest ∧ words = trim rest := by
  unfold speech? at h
  split at h
  · next c name' rest hword =>
    obtain ⟨rfl, rfl⟩ := Prod.mk.inj (Option.some.inj h)
    obtain ⟨hname, hrest⟩ := Prod.mk.inj hword
    refine ⟨rest, ?_, rfl⟩
    rw [← hname, ← hrest, List.takeWhile_append_dropWhile]
  · cases h

/-- What is spoken is on one line, and trimmed. -/
theorem line_of_spoken (hrow : Clean row.text) {name words : String}
    (h : spoken? row.text = some (name, words)) :
    '\n' ∉ name.toList ∧ '\n' ∉ words.toList ∧ trim words.toList = words.toList := by
  obtain ⟨⟨spoken, said⟩, hspeech, hparts⟩ := Option.map_eq_some_iff.1 h
  obtain ⟨rfl, rfl⟩ := Prod.mk.inj hparts
  obtain ⟨rest, htext, rfl⟩ := eq_of_speech? hspeech
  have hspoken : '\n' ∉ spoken := fun hc =>
    hrow.oneLine (by rw [htext]; exact List.mem_append_left _ hc)
  have hrest : '\n' ∉ rest := fun hc =>
    hrow.oneLine (by rw [htext]; exact List.mem_append_right _ (List.mem_cons_of_mem _ hc))
  rw [String.toList_ofList, String.toList_ofList]
  exact ⟨newline_not_mem_lower hspoken, fun hc => hrest (mem_of_mem_trim hc), trim_trim rest⟩

/-! ## Nodes -/

/-- An annotation of a node gives it a label or a condition at most. -/
theorem wellFormed_annotateRow (hrow : Clean row.text) {n : Node} (h : n.WellFormed hero) :
    (annotateRow n row).value.WellFormed hero := by
  unfold annotateRow
  split
  · next note hnote =>
    have hlabel {label : String} (hvalue : filled note.value = some label) :
        ∀ l, some label = some l → Clean l.toList :=
      fun _ hl => Option.some.inj hl ▸ clean_of_filled hrow hnote hvalue
    unfold annotateNode
    split
    · exact { h with }
    · next hvalue => exact { h with npcState := hlabel hvalue }
    · next hvalue => exact { h with id := hlabel hvalue }
    · exact { h with
        entryCondition := fun _ hc => Option.some.inj hc ▸ wellFormed_readCondition hrow hnote }
    all_goals exact h
  · exact h

/-! ## Intros -/

/-- A draft of an intro: its blocks are well-formed, and none was completed without another one
being opened. -/
structure IntroDraft.WellFormed (hero : String) (d : IntroDraft) : Prop where
  blocks : WellFormedIntros hero d.blocks
  stays : d.current = none → d.complete = []

namespace IntroDraft

variable {d : IntroDraft}

theorem blocks_of_current {b : IntroBlock} (h : d.current = some b) :
    d.blocks = d.complete.reverse ++ [b] := by
  simp [IntroDraft.blocks, close, h]

theorem WellFormed.require (h : d.WellFormed hero) {c : Condition} (hc : c.WellFormed) :
    WellFormed hero { d.close with current := some { condition := some c } } where
  blocks := by
    have hb : IntroBlock.WellFormed hero { condition := some c } :=
      ⟨fun _ hsome => Option.some.inj hsome ▸ hc, nofun⟩
    rw [blocks_of_current rfl]
    exact h.blocks.snoc hb nofun
  stays := nofun

theorem WellFormed.say (h : d.WellFormed hero) {line : Line} (hline : line.WellFormed hero) :
    (d.say line).WellFormed hero := by
  refine ⟨?_, nofun⟩
  rw [blocks_of_current (rfl : (d.say line).current = _)]
  cases hcurrent : d.current with
  | none =>
    -- no block is open, so the line opens the first one
    show WellFormedIntros hero (d.complete.reverse ++ [{ lines := [line] }])
    rw [h.stays hcurrent]
    exact WellFormedIntros.nil.snoc ⟨nofun, List.forall_mem_singleton.2 hline⟩
      fun _ => ⟨rfl, List.cons_ne_nil _ _⟩
  | some b =>
    have hblocks := h.blocks
    rw [blocks_of_current hcurrent] at hblocks
    have hb : b.WellFormed hero := hblocks.block b (List.mem_append_right _ List.mem_cons_self)
    show WellFormedIntros hero (d.complete.reverse ++ [{ b with lines := b.lines ++ [line] }])
    refine hblocks.front.snoc ⟨hb.condition, List.forall_mem_append.2
      ⟨hb.line, List.forall_mem_singleton.2 hline⟩⟩ fun hnone => ?_
    -- the block that stays open is where it was, so without a condition it is still the first
    have hfirst := (hblocks.unconditional d.complete.reverse.length b (by simp) hnone).1
    exact ⟨List.eq_nil_of_length_eq_zero hfirst, by simp⟩

end IntroDraft

theorem wellFormed_readIntroRow (hrow : Clean row.text) {d : IntroDraft} (h : d.WellFormed hero) :
    (readIntroRow hero d row).value.WellFormed hero := by
  unfold readIntroRow
  split
  · next note hnote =>
    split
    · exact h.require (wellFormed_readCondition hrow hnote)
    · exact h
  · split
    · exact h
    · next name words hne hspoken =>
      obtain ⟨hname, hwords, htrim⟩ := line_of_spoken hrow hspoken
      have hfilled : words.toList ≠ [] := fun hnil => hne (String.toList_eq_nil_iff.1 hnil)
      refine h.say ⟨hname, ⟨hfilled, htrim, hwords⟩, ?_⟩
      split
      · next heq => exact iff_of_true rfl heq
      · next hneq => exact iff_of_false nofun hneq
    · exact h

/-! ## Choices -/

/-- A draft of a choice: it is well-formed, and so are the effects and the reply it is to have. -/
structure ChoiceDraft.WellFormed (hero : String) (d : ChoiceDraft) : Prop where
  choice : d.choice.WellFormed hero
  effects : d.effects.WellFormed
  reply : ∀ l ∈ d.reply, l.speaker = .npc ∧ l.WellFormed hero

namespace ChoiceDraft.WellFormed

variable {d : ChoiceDraft}

/-- **A draft is finished to a well-formed choice**: effects and a reply that turn out empty are
left out. -/
theorem finish (h : d.WellFormed hero) : d.finish.WellFormed hero :=
  { h.choice with
    effects := fun e he => by
      obtain ⟨hempty, he⟩ := Option.ite_none_left_eq_some.1 he
      exact Option.some.inj he ▸ ⟨Bool.eq_false_iff.2 hempty, h.effects⟩
    npcResponse := fun lines hlines => by
      obtain ⟨hempty, hlines⟩ := Option.ite_none_left_eq_some.1 hlines
      exact Option.some.inj hlines ▸ ⟨hempty, h.reply⟩ }

theorem annotateChoice (h : d.WellFormed hero) (hrow : Clean row.text)
    (hnote : annotation? row.text = some note) :
    (annotateChoice d row note).value.WellFormed hero := by
  have hlabel {label : String} (hvalue : filled note.value = some label) : Clean label.toList :=
    clean_of_filled hrow hnote hvalue
  have hsnoc {texts : List String} {label : String} (htexts : ∀ text ∈ texts, Clean text.toList)
      (hvalue : filled note.value = some label) : ∀ text ∈ texts ++ [label], Clean text.toList :=
    List.forall_mem_append.2 ⟨htexts, List.forall_mem_singleton.2 (hlabel hvalue)⟩
  unfold Script.annotateChoice
  split
  · exact { h with choice := { h.choice with
      condition := fun _ hc => Option.some.inj hc ▸ wellFormed_readCondition hrow hnote } }
  · next hvalue => exact { h with effects := { h.effects with
      setFlags := hsnoc h.effects.setFlags hvalue } }
  · next hvalue => exact { h with effects := { h.effects with
      addItems := hsnoc h.effects.addItems hvalue } }
  · next hvalue => exact { h with effects := { h.effects with
      removeItems := hsnoc h.effects.removeItems hvalue } }
  · exact { h with effects := { h.effects with } }
  · next hvalue => exact { h with choice := { h.choice with
      id := fun _ hid => Option.some.inj hid ▸ hlabel hvalue } }
  all_goals exact h

theorem routeChoice (h : d.WellFormed hero) (hrow : Clean row.text) {target : List Char}
    (htext : row.text = '>' :: target) : (routeChoice d row target).value.WellFormed hero := by
  unfold Script.routeChoice
  split
  · exact h
  · next hne =>
    split
    · exact { h with choice := { h.choice with } }
    · next hend =>
      have hclean : Clean (String.ofList (trim target)).toList := by
        rw [String.toList_ofList]
        refine ⟨fun hnil => hne (by rw [hnil]), trim_trim target, fun hc => hrow.oneLine ?_⟩
        rw [htext]
        exact List.mem_cons_of_mem _ (mem_of_mem_trim hc)
      exact { h with choice := { h.choice with
        nextNode := fun _ ht => Option.some.inj ht ▸ ⟨hclean, hend⟩ } }

theorem speakChoice (h : d.WellFormed hero) (hrow : Clean row.text) :
    (speakChoice hero d row).value.WellFormed hero := by
  unfold Script.speakChoice
  split
  · next name words hspoken =>
    obtain ⟨hname, hwords, htrim⟩ := line_of_spoken hrow hspoken
    split
    · exact { h with choice := { h.choice with heroLine := hwords } }
    · next hother =>
      split
      · exact h
      · next hne =>
        have hfilled : words.toList ≠ [] := fun hnil => hne (String.toList_eq_nil_iff.1 hnil)
        have hline : Line.WellFormed hero ⟨.npc, name, words⟩ :=
          ⟨hname, ⟨hfilled, htrim, hwords⟩, iff_of_false nofun hother⟩
        exact { h with
          reply := List.forall_mem_append.2 ⟨h.reply, List.forall_mem_singleton.2 ⟨rfl, hline⟩⟩ }
  · exact h

theorem readChoiceRow (h : d.WellFormed hero) (hrow : Clean row.text) :
    (readChoiceRow hero d row).value.WellFormed hero := by
  unfold Script.readChoiceRow
  split
  · next hnote => exact h.annotateChoice hrow hnote
  · next htext => exact h.routeChoice hrow htext
  · exact h.speakChoice hrow

end ChoiceDraft.WellFormed

theorem wellFormed_readChoice (hero : String) {b : Block}
    (hrows : ∀ row ∈ b.opening :: b.body, Clean row.text) :
    (readChoice hero b).value.WellFormed hero := by
  have htext : '\n' ∉ (String.ofList (trim (b.opening.text.drop 1))).toList := by
    rw [String.toList_ofList]
    exact fun hc => (hrows _ List.mem_cons_self).oneLine (List.mem_of_mem_drop (mem_of_mem_trim hc))
  have hopening : ChoiceDraft.WellFormed hero
      { choice := { text := String.ofList (trim (b.opening.text.drop 1)) } } :=
    ⟨⟨htext, nofun, nofun, nofun, nofun, nofun, nofun⟩, ⟨nofun, nofun, nofun⟩, nofun⟩
  rw [value_readChoice]
  exact ((rowwise_readChoiceRows hero).keeps (fun row hrow _ hd =>
    hd.readChoiceRow (hrows row (List.mem_cons_of_mem _ hrow))) hopening).finish

/-! ## Sections and dialogues -/

theorem wellFormed_readNode (hero : String) {s : Section} (hrows : ∀ row ∈ s.body, Clean row.text) :
    (readNode hero s).value.WellFormed hero := by
  rw [← s.parts] at hrows
  obtain ⟨hfront, hchoices⟩ := List.forall_mem_append.1 hrows
  obtain ⟨hannotations, hintro⟩ := List.forall_mem_append.1 hfront
  have hnode : (readAnnotations {} s.annotations).value.WellFormed hero :=
    rowwise_readAnnotations.keeps (P := fun n => n.WellFormed hero)
      (fun row hrow _ hn => wellFormed_annotateRow (hannotations row hrow) hn)
      ⟨.nil, nofun, nofun, nofun, nofun⟩
  have hdraft : (readIntroRows hero {} s.intro).value.WellFormed hero :=
    (rowwise_readIntroRows hero).keeps (P := fun d => d.WellFormed hero)
      (fun row hrow _ hd => wellFormed_readIntroRow (hintro row hrow) hd) ⟨.nil, fun _ => rfl⟩
  have hall : ∀ c ∈ (readNode hero s).value.choices, c.WellFormed hero := by
    rw [choices_readNode]
    exact List.forall_mem_map.2 fun b hb => wellFormed_readChoice hero fun row hrow =>
      hchoices row (List.mem_flatMap.2 ⟨b, hb, hrow⟩)
  exact { hnode with intros := hdraft.blocks, choice := hall }

/-- **The dialogue of a script is well-formed.** -/
theorem wellFormed_of_read {hero script : String} {g : Graph}
    (h : (read hero script).value = .ok g) : g.WellFormed (lowercase hero) := by
  have hcut := cut_sections (Row.ofScript script.toList)
  constructor
  · intro key n hn
    obtain ⟨s, hs, rfl, -⟩ := exists_section_of_read h hn
    rw [String.toList_ofList]
    exact (hcut.heading s hs).1
  · intro key n hn
    obtain ⟨s, hs, -, rfl⟩ := exists_section_of_read h hn
    exact wellFormed_readNode _ fun row hrow => clean_of_mem_ofScript (hcut.mem_body hs hrow)

/-- **Every dialogue of a script is well-formed, and no text in it has a line break.** -/
theorem read_wellFormed_and_oneLine {hero script : String} {g : Graph}
    (h : (read hero script).value = .ok g) :
    g.WellFormed (lowercase hero) ∧ ∀ text ∈ g.texts, '\n' ∉ text.toList := by
  have hwell : g.WellFormed (lowercase hero) := wellFormed_of_read h
  exact ⟨hwell, hwell.oneLine⟩

/-- A script in which a speaker without words and annotations without values leave nothing. -/
def cellarScript : String :=
  "=== Cellar_1 ===\r\n# requires: has:torch, !dark\n# id: \nNate: Hm?\nzyx:\n" ++
    "# requires: asked:name\n- Wake him\n# set:  rude \n# add:\nzyx: Mm.\n> END"

/-- Its dialogue. -/
def cellar : Graph :=
  TextMap.empty.insert "Cellar_1"
    { intros := [{ lines := [⟨.hero, "nate", "Hm?"⟩] }, { condition := some (.asked "name") }]
      choices := [{ text := "Wake him", npcResponse := some [⟨.npc, "zyx", "Mm."⟩], exit := true
                    effects := some { setFlags := ["rude"] } }]
      entryCondition := some (.all [.hasItem "torch", .notFlag "dark"]) }

theorem read_wellFormed_and_oneLine_cellar :
    (read "Nate" cellarScript).value = .ok cellar ∧ cellar.WellFormed (lowercase "Nate") ∧
      ∀ text ∈ cellar.texts, '\n' ∉ text.toList := by
  have hread : (read "Nate" cellarScript).value = .ok cellar := by decide +kernel
  exact ⟨hread, read_wellFormed_and_oneLine hread⟩

end Script

end Colloquy
