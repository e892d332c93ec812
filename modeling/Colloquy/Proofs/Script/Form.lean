import Colloquy.Proofs.Script.Line
import Mathlib.Data.List.TakeWhile

/-!
# Forms — what a line of a script may be

A line is a heading, an annotation, a route, the opening of a choice, or something a name says, and
each of these is a form that can be told without a reader: which characters come first and what
stands between which separators. Beside each form stands the fact that its reader recognises the
form and nothing else. A line is at home in a part of a section (`IsNodeLine`, `IsIntroLine`,
`IsChoiceLine`) if it has one of the forms that belong there and nothing is missing from it.
-/

namespace Colloquy

open Text

/-! ## Clauses -/

namespace Condition

/-- An atom that lacks nothing: there is a label behind `asked:` and `!asked:`, and a colon between
a character and a state. -/
structure SoundAtom (atom : List Char) : Prop where
  asked : ∀ label, atom = "asked:".toList ++ label → trim label ≠ []
  notAsked : ∀ label, atom = "!asked:".toList ++ label → trim label ≠ []
  npcState : ∀ rest, atom = "npc_state:".toList ++ rest → ':' ∈ rest

/-- A clause that lacks nothing: it is not blank, and what stands between its commas is sound. -/
structure SoundClause (clause : List Char) : Prop where
  filled : clause ≠ []
  atoms : ∀ part ∈ pieces ',' clause, SoundAtom (trim part)

/-- **Reading an atom notes nothing just if it is sound.** -/
theorem notes_readAtom {atom : List Char} : (readAtom atom).notes = [] ↔ SoundAtom atom := by
  constructor
  · intro h
    refine ⟨?_, ?_, ?_⟩
    · rintro label rfl
      exact (notes_readLabel _ _ label).1 h
    · rintro label rfl
      exact (notes_readLabel _ _ label).1 h
    · rintro rest rfl
      exact (notes_readNpcState _ rest).1 h
  · intro h
    have hmeans := means_readAtom atom
    rw [hmeans.notes_eq_nil_iff]
    generalize (readAtom atom).value = c at hmeans ⊢
    cases hmeans with
    | keyword hkey operand =>
      cases hkey with
      | asked => simpa [Flawed] using h.asked operand rfl
      | notAsked => simpa [Flawed] using h.notAsked operand rfl
      | hasItem | lacksItem | visited => simp [Flawed]
    | noState hcolon => exact absurd (h.npcState _ rfl) hcolon
    | npcState | notFlag | flag => simp [Flawed]

/-- **Reading a clause notes nothing just if nothing between its commas lacks anything.** -/
theorem notes_read {clause : List Char} :
    (read clause).notes = [] ↔ ∀ part ∈ pieces ',' clause, SoundAtom (trim part) := by
  rw [notes_read_eq, List.flatMap_eq_nil_iff]
  simp only [atoms, List.mem_filter, List.mem_map, notes_readAtom]
  constructor
  · intro h part hpart
    -- a blank part is no atom and is skipped; read as one it would be the name of a flag
    by_cases hblank : trim part = []
    · rw [hblank]
      exact notes_readAtom.1 rfl
    · exact h (trim part) ⟨⟨part, hpart, rfl⟩, by simpa using hblank⟩
  · rintro h atom ⟨⟨part, hpart, rfl⟩, -⟩
    exact h part hpart

end Condition

/-! ## Lines -/

namespace Script

open Condition

/-- A heading with a name in it: three equals signs on both sides, and nothing but blanks around
the name. -/
def IsHeading (line name : List Char) : Prop :=
  IsName name ∧ ∃ before after : List Char, (∀ c ∈ before, isBlank c = true) ∧
    (∀ c ∈ after, isBlank c = true) ∧
      line = "===".toList ++ (before ++ (name ++ (after ++ "===".toList)))

/-- A line with a tag, which ends at the first colon, and with a value if there is a colon. Blanks
around the tag and around the value do not count. -/
inductive Tagged : List Char → List Char → Option (List Char) → Prop
  | alone {rest : List Char} (hcolon : ':' ∉ rest) : Tagged ('#' :: rest) (trim rest) none
  | valued {tag value : List Char} (hcolon : ':' ∉ tag) :
      Tagged ('#' :: (tag ++ ':' :: value)) (trim tag) (some (trim value))

/-- A line with a name in front of a colon. -/
def IsSpeech (line : List Char) : Prop := ∃ name words, IsName name ∧ line = name ++ ':' :: words

/-- A blank character is not part of a name. -/
theorem isWord_of_isBlank {c : Char} (h : isBlank c = true) : isWord c = false := by
  cases hword : isWord c with
  | false => rfl
  | true => exact absurd h (by simp [isBlank_of_isWord hword])

/-- **A line is read as a heading just if it is one.** -/
theorem headingName?_eq_some_iff {line name : List Char} :
    headingName? line = some name ↔ IsHeading line name := by
  constructor
  · intro h
    obtain ⟨rest, hafter, hfound⟩ := Option.bind_eq_some_iff.1 h
    obtain ⟨⟨hne, hend⟩, hname⟩ := Option.ite_none_right_eq_some.1 hfound
    obtain rfl := Option.some.inj hname
    refine ⟨⟨hne, fun c => List.mem_takeWhile_imp⟩, rest.takeWhile isBlank,
      ((trimStart rest).dropWhile isWord).takeWhile isBlank, fun c => List.mem_takeWhile_imp,
      fun c => List.mem_takeWhile_imp, ?_⟩
    rw [after?_eq_some.1 hafter, ← hend]
    simp only [trimStart, List.takeWhile_append_dropWhile]
  · rintro ⟨hname, before, after, hbefore, hafter, rfl⟩
    have hstart : trimStart (before ++ (name ++ (after ++ "===".toList))) =
        name ++ (after ++ "===".toList) :=
      trimStart_append hbefore ((startsBare_append hname.filled _).2 hname.clean.startsBare)
    -- the name ends at a blank or at an equals sign, and neither is part of a word
    have hword : leadingWord (name ++ (after ++ "===".toList)) =
        (name, after ++ "===".toList) := by
      cases after with
      | nil => exact hname.leadingWord_append (by decide) _
      | cons c after =>
        have hc := hafter c List.mem_cons_self
        exact hname.leadingWord_append (isWord_of_isBlank hc) _
    have hend : trimStart (after ++ "===".toList) = "===".toList :=
      trimStart_append hafter (by intro c hc; simp at hc; subst hc; decide)
    rw [headingName?, after?_append]
    simp only [Option.bind_eq_bind, Option.bind_some, hstart, hword, hend]
    exact if_pos ⟨hname.filled, trivial⟩

/-- **A line is read as an annotation just if it is tagged.** -/
theorem annotation?_eq_some_iff {line tag : List Char} {value : Option (List Char)} :
    annotation? line = some ⟨tag, value⟩ ↔ Tagged line tag value := by
  constructor
  · intro h
    unfold annotation? at h
    split at h
    · rename_i rest
      split at h
      · rename_i hcut
        obtain ⟨rfl, hcolon⟩ := cut_eq_some hcut
        cases h
        exact .valued hcolon
      · rename_i hcut
        cases h
        exact .alone (cut_eq_none.1 hcut)
    · cases h
  · rintro (hcolon | hcolon)
    · simp only [annotation?, cut_eq_none.2 hcolon]
    · simp only [annotation?, cut_append hcolon]

/-- **A line is read as speech just if a name stands in front of a colon.** -/
theorem speech?_isSome_iff {line : List Char} : (speech? line).isSome ↔ IsSpeech line := by
  constructor
  · intro h
    unfold speech? at h
    split at h
    · rename_i c name words hword
      obtain ⟨hname, hrest⟩ := Prod.mk.inj hword
      refine ⟨c :: name, words, ⟨List.cons_ne_nil _ _, fun d hd => ?_⟩, ?_⟩
      · rw [← hname] at hd
        exact List.mem_takeWhile_imp hd
      · rw [← hname, ← hrest, List.takeWhile_append_dropWhile]
    · cases h
  · rintro ⟨name, words, hname, rfl⟩
    obtain ⟨c, cs, hcons⟩ := List.exists_cons_of_ne_nil hname.filled
    rw [speech?, hname.leadingWord_append (by decide), hcons]
    rfl

/-! ## Lines that are at home in a part of a section -/

/-- A line that requires something, with a clause that lacks nothing. -/
def IsRequirement (line : List Char) : Prop :=
  ∃ clause, Tagged line "requires".toList (some clause) ∧ SoundClause clause

/-- A line with one of several tags and a value that is not blank. -/
def IsFilled (tags : List String) (line : List Char) : Prop :=
  ∃ tag ∈ tags, ∃ value, Tagged line tag.toList (some value) ∧ value ≠ []

/-- What may stand among the leading annotations of a section. -/
inductive IsNodeLine (line : List Char) : Prop
  | isDefault {value : Option (List Char)} (h : Tagged line "default".toList value)
  | filled (h : IsFilled ["npc_state", "id"] line)
  | requires (h : IsRequirement line)

/-- What may stand between the annotations and the first choice. -/
inductive IsIntroLine (line : List Char) : Prop
  | requires (h : IsRequirement line)
  | spoken (h : IsSpeech line)

/-- What may stand from the first choice on. -/
inductive IsChoiceLine (line : List Char) : Prop
  | opening {text : List Char} (hline : line = '-' :: text) (htext : trim text ≠ [])
  | requires (h : IsRequirement line)
  | filled (h : IsFilled ["set", "add", "remove", "id"] line)
  | once {value : Option (List Char)} (h : Tagged line "once".toList value)
  | route {target : List Char} (hline : line = '>' :: target) (htarget : trim target ≠ [])
  | spoken (h : IsSpeech line)

/-! ## What is read without a remark -/

theorem filled_isSome_iff {value : Option (List Char)} :
    (filled value).isSome ↔ ∃ text, value = some text ∧ text ≠ [] := by
  cases value <;> simp [filled]

/-- A condition is read without a remark just if there is a clause that lacks nothing. -/
theorem notes_readCondition {row : Row} {clause : Option (List Char)} :
    (readCondition row clause).notes = [] ↔ ∃ text, clause = some text ∧ SoundClause text := by
  have hnotes : (readCondition row clause).notes = [] ↔
      clause.getD [] ≠ [] ∧ (Condition.read (clause.getD [])).notes = [] := by
    by_cases hnil : clause.getD [] = [] <;> simp [readCondition, hnil, remark]
  rw [hnotes, Condition.notes_read]
  cases clause with
  | none => simp
  | some text =>
    simp only [Option.getD_some, Option.some.injEq, exists_eq_left']
    exact ⟨fun h => ⟨h.1, h.2⟩, fun h => ⟨h.filled, h.atoms⟩⟩

section

variable {row : Row} {note : Annotation}

theorem eq_toList_iff {cs : List Char} {s : String} : cs = s.toList ↔ String.ofList cs = s := by
  rw [← String.toList_inj, String.toList_ofList]

/-- An annotation is tagged in one way. -/
theorem tagged_iff (h : annotation? row.text = some note) {tag : String}
    {value : Option (List Char)} :
    Tagged row.text tag.toList value ↔ String.ofList note.tag = tag ∧ note.value = value := by
  rw [← eq_toList_iff, ← annotation?_eq_some_iff, h, Option.some.injEq, Annotation.mk.injEq]

theorem isFilled_iff (h : annotation? row.text = some note) {tags : List String} :
    IsFilled tags row.text ↔ String.ofList note.tag ∈ tags ∧ (filled note.value).isSome := by
  simp only [IsFilled, tagged_iff h, filled_isSome_iff]
  constructor
  · rintro ⟨tag, htag, value, ⟨rfl, hvalue⟩, hne⟩
    exact ⟨htag, value, hvalue, hne⟩
  · rintro ⟨htag, value, hvalue, hne⟩
    exact ⟨_, htag, value, ⟨rfl, hvalue⟩, hne⟩

theorem isRequirement_iff (h : annotation? row.text = some note) :
    IsRequirement row.text ↔
      String.ofList note.tag = "requires" ∧ (readCondition row note.value).notes = [] := by
  simp only [IsRequirement, tagged_iff h, notes_readCondition, and_assoc, exists_and_left]

/-- A line that is tagged is nothing else. -/
theorem head?_of_tagged (h : annotation? row.text = some note) : row.text.head? = some '#' := by
  by_contra hne
  rw [annotation?_eq_none hne] at h
  cases h

theorem not_tagged (h : annotation? row.text = none) {tag : List Char}
    {value : Option (List Char)} : ¬ Tagged row.text tag value := by
  intro htagged
  rw [annotation?_eq_some_iff.2 htagged] at h
  cases h

/-- What a name says starts with a character of the name. -/
theorem IsSpeech.head?_ne {line : List Char} (h : IsSpeech line) {c : Char}
    (hc : isWord c = false) : line.head? ≠ some c := by
  obtain ⟨name, words, hname, rfl⟩ := h
  obtain ⟨d, cs, rfl⟩ := List.exists_cons_of_ne_nil hname.filled
  rintro ⟨rfl⟩
  rw [hname.word c List.mem_cons_self] at hc
  cases hc

theorem spoken?_isSome_iff {line : List Char} : (spoken? line).isSome ↔ IsSpeech line := by
  rw [spoken?, Option.isSome_map, speech?_isSome_iff]

/-! ### Which lines are at home, by how they are read -/

theorem isNodeLine_iff (h : annotation? row.text = some note) :
    IsNodeLine row.text ↔ String.ofList note.tag = "default" ∨
      (String.ofList note.tag ∈ ["npc_state", "id"] ∧ (filled note.value).isSome) ∨
        (String.ofList note.tag = "requires" ∧ (readCondition row note.value).notes = []) := by
  rw [← isFilled_iff h, ← isRequirement_iff h]
  constructor
  · rintro (hdefault | hfilled | hrequires)
    · exact .inl ((tagged_iff h).1 hdefault).1
    · exact .inr (.inl hfilled)
    · exact .inr (.inr hrequires)
  · rintro (hdefault | hfilled | hrequires)
    · exact .isDefault ((tagged_iff h).2 ⟨hdefault, rfl⟩)
    · exact .filled hfilled
    · exact .requires hrequires

theorem isIntroLine_iff_of_tagged (h : annotation? row.text = some note) :
    IsIntroLine row.text ↔
      String.ofList note.tag = "requires" ∧ (readCondition row note.value).notes = [] := by
  rw [← isRequirement_iff h]
  constructor
  · rintro (hrequires | hspoken)
    · exact hrequires
    · exact absurd (head?_of_tagged h) (hspoken.head?_ne (by decide))
  · exact .requires

theorem isIntroLine_iff_spoken (h : annotation? row.text = none) :
    IsIntroLine row.text ↔ (spoken? row.text).isSome := by
  rw [spoken?_isSome_iff]
  constructor
  · rintro (⟨clause, htagged, -⟩ | hspoken)
    · exact absurd htagged (not_tagged h)
    · exact hspoken
  · exact .spoken

theorem isChoiceLine_iff_of_tagged (h : annotation? row.text = some note) :
    IsChoiceLine row.text ↔ String.ofList note.tag = "once" ∨
      (String.ofList note.tag ∈ ["set", "add", "remove", "id"] ∧ (filled note.value).isSome) ∨
        (String.ofList note.tag = "requires" ∧ (readCondition row note.value).notes = []) := by
  rw [← isFilled_iff h, ← isRequirement_iff h]
  have hhead := head?_of_tagged h
  constructor
  · rintro (⟨hline, -⟩ | hrequires | hfilled | honce | ⟨hline, -⟩ | hspoken)
    · rw [hline] at hhead
      cases hhead
    · exact .inr (.inr hrequires)
    · exact .inr (.inl hfilled)
    · exact .inl ((tagged_iff h).1 honce).1
    · rw [hline] at hhead
      cases hhead
    · exact absurd hhead (hspoken.head?_ne (by decide))
  · rintro (honce | hfilled | hrequires)
    · exact .once ((tagged_iff h).2 ⟨honce, rfl⟩)
    · exact .filled hfilled
    · exact .requires hrequires

/-- A line that starts with a dash is at home among choices if something is behind the dash. -/
theorem isChoiceLine_opening {text : List Char} : IsChoiceLine ('-' :: text) ↔ trim text ≠ [] := by
  constructor
  · rintro (⟨hline, htext⟩ | ⟨_, ⟨⟩, -⟩ | ⟨_, -, _, ⟨⟩, -⟩ | ⟨⟨⟩⟩ | ⟨⟨⟩, -⟩ | hspoken)
    · cases hline
      exact htext
    · exact absurd rfl (hspoken.head?_ne (by decide : isWord '-' = false))
  · exact .opening rfl

/-- A route is at home among choices if it leads somewhere. -/
theorem isChoiceLine_route {target : List Char} :
    IsChoiceLine ('>' :: target) ↔ trim target ≠ [] := by
  constructor
  · rintro (⟨⟨⟩, -⟩ | ⟨_, ⟨⟩, -⟩ | ⟨_, -, _, ⟨⟩, -⟩ | ⟨⟨⟩⟩ | ⟨hline, htarget⟩ | hspoken)
    · cases hline
      exact htarget
    · exact absurd rfl (hspoken.head?_ne (by decide : isWord '>' = false))
  · exact .route rfl

/-- What is no annotation, no route and no opening is at home among choices if a name says it. -/
theorem isChoiceLine_iff_spoken (h : annotation? row.text = none)
    (hroute : ∀ target, row.text = '>' :: target → False) (hopens : row.opensChoice = false) :
    IsChoiceLine row.text ↔ (spoken? row.text).isSome := by
  rw [spoken?_isSome_iff]
  constructor
  · rintro (⟨hline, -⟩ | ⟨_, hrequires, -⟩ | ⟨_, -, _, hfilled, -⟩ | honce | ⟨hline, -⟩ | hspoken)
    · rw [Row.opensChoice, hline] at hopens
      cases hopens
    · exact absurd hrequires (not_tagged h)
    · exact absurd hfilled (not_tagged h)
    · exact absurd honce (not_tagged h)
    · exact absurd hline (hroute _)
    · exact hspoken
  · exact .spoken

/-! ### Readers of a row -/

/-- **An annotation of a node is taken in without a remark just if it is at home there.** -/
theorem notes_annotateNode (h : annotation? row.text = some note) (n : Node) :
    (annotateNode n row note).notes = [] ↔ IsNodeLine row.text := by
  rw [isNodeLine_iff h, annotateNode]
  cases filled note.value <;> split <;> simp_all [remark]

/-- **A row of an intro is taken in without a remark just if it is at home there.** -/
theorem notes_readIntroRow (hero : String) (d : IntroDraft) :
    (readIntroRow hero d row).notes = [] ↔ IsIntroLine row.text := by
  cases hnote : annotation? row.text with
  | some note =>
    rw [isIntroLine_iff_of_tagged hnote, readIntroRow, hnote, ← eq_toList_iff]
    dsimp only
    split
    · rename_i htag
      simp [htag]
    · rename_i htag
      exact iff_of_false (by simp [remark]) fun h => htag h.1
  | none =>
    rw [isIntroLine_iff_spoken hnote, readIntroRow, hnote]
    cases spoken? row.text with
    | none => simp [remark]
    | some speech => simp only [Option.isSome_some]; split <;> simp_all

theorem notes_annotateChoice (h : annotation? row.text = some note) (d : ChoiceDraft) :
    (annotateChoice d row note).notes = [] ↔ IsChoiceLine row.text := by
  rw [isChoiceLine_iff_of_tagged h, annotateChoice]
  cases filled note.value <;> split <;> simp_all [remark]

theorem notes_routeChoice (d : ChoiceDraft) (target : List Char) :
    (routeChoice d row target).notes = [] ↔ trim target ≠ [] := by
  have hblank : String.ofList (trim target) = "" ↔ trim target = [] := by
    rw [← String.toList_inj, String.toList_ofList, String.toList_empty]
  unfold routeChoice
  split
  · rename_i heq
    simp [hblank.1 heq, remark]
  · rename_i hne
    have hfilled : trim target ≠ [] := fun h => hne (hblank.2 h)
    split <;> simp [hfilled]

theorem notes_speakChoice (hero : String) (d : ChoiceDraft) :
    (speakChoice hero d row).notes = [] ↔ (spoken? row.text).isSome := by
  unfold speakChoice
  cases spoken? row.text with
  | none => simp [remark]
  | some speech =>
    simp only [Option.isSome_some, iff_true]
    split
    · rfl
    · split <;> rfl

/-- **A row of a choice is taken in without a remark just if it is at home there.** -/
theorem notes_readChoiceRow (hopens : row.opensChoice = false) (hero : String) (d : ChoiceDraft) :
    (readChoiceRow hero d row).notes = [] ↔ IsChoiceLine row.text := by
  unfold readChoiceRow
  split
  · rename_i note hnote
    exact notes_annotateChoice hnote d
  · rename_i target hnote hline
    rw [hline, isChoiceLine_route, notes_routeChoice]
  · rename_i hnote hroute
    rw [isChoiceLine_iff_spoken hnote hroute hopens, notes_speakChoice]

end

end Script

end Colloquy
