import Colloquy.Proofs.Script.Keep
import Colloquy.Proofs.Script.Outcome

/-!
# Choices — what a block of rows says

A row that starts with a dash opens a block, and the rows up to the next one belong to it. A block
is read as if there were no other: each field of its choice is told by the rows of the block alone,
either by the last row that has something for it or by all of them in order (`Block.choice`). What a
row has for a field is a function of its text, and no row has something for two readers at once. The
rows of a choice are taken in one after the other, and what they come to so far is always what the
texts so far say (`value_readChoiceRows`).
-/

namespace Colloquy

namespace Script

open Text

/-! ## What a row has to say -/

/-- The value behind a tag, unless it is blank. -/
def valueOf? (tag : String) (text : List Char) : Option String :=
  (annotation? text).bind fun note =>
    if String.ofList note.tag = tag then filled note.value else none

/-- The condition behind `requires`. Without a clause it always holds. -/
def requirement? (text : List Char) : Option Condition :=
  (annotation? text).bind fun note =>
    if String.ofList note.tag = "requires" then
      some (Condition.read (note.value.getD [])).value
    else none

/-- Whether a row says `once`. -/
def saysOnce (text : List Char) : Bool :=
  (annotation? text).any fun note => String.ofList note.tag = "once"

/-- The target of a route, unless it is blank. -/
def target? : List Char → Option String
  | '>' :: target => if trim target = [] then none else some (String.ofList (trim target))
  | _ => none

/-- What the hero says, possibly nothing. -/
def heroWords? (hero : String) (text : List Char) : Option String :=
  (spoken? text).bind fun (name, words) => if name = hero then some words else none

/-- What anyone else says, unless it is nothing. -/
def reply? (hero : String) (text : List Char) : Option Line :=
  (spoken? text).bind fun (name, words) =>
    if name = hero ∨ words = "" then none else some ⟨.npc, name, words⟩

/-- What the last text has to say that has anything. -/
def lastSaid {α : Type} (said? : List Char → Option α) (texts : List (List Char)) : Option α :=
  (texts.filterMap said?).getLast?

theorem lastSaid_nil {α : Type} (said? : List Char → Option α) : lastSaid said? [] = none := rfl

theorem lastSaid_cons {α : Type} (said? : List Char → Option α) (text : List Char)
    (texts : List (List Char)) :
    lastSaid said? (text :: texts) = (lastSaid said? texts).or (said? text) := by
  rw [lastSaid, lastSaid, List.filterMap_cons]
  cases said? text with
  | none => simp
  | some x => cases h : (texts.filterMap said?).getLast? <;> simp [List.getLast?_cons, h]

/-! ## What a block says -/

/-- What texts do to the world. -/
def effectsOf (texts : List (List Char)) : Effects where
  setFlags := texts.filterMap (valueOf? "set")
  addItems := texts.filterMap (valueOf? "add")
  removeItems := texts.filterMap (valueOf? "remove")
  once := texts.any saysOnce

/-- The node that a text leads to, which is not the end. -/
def leadsTo? (text : List Char) : Option String :=
  (target? text).filter (· ≠ Graph.endTarget)

/-- Whether a text leads to the end. -/
def leadsOut (text : List Char) : Bool := target? text = some Graph.endTarget

end Script

open Script Text

/-- **The choice that a block describes.** -/
def Block.choice (hero : String) (b : Block) : Choice :=
  let texts := b.body.map Row.text
  let effects := effectsOf texts
  let reply := texts.filterMap (reply? hero)
  { text := String.ofList (trim (b.opening.text.drop 1))
    heroLine := (lastSaid (heroWords? hero) texts).getD ""
    npcResponse := if reply = [] then none else some reply
    condition := lastSaid requirement? texts
    nextNode := lastSaid leadsTo? texts
    exit := texts.any leadsOut
    effects := if effects.isEmpty then none else some effects
    id := lastSaid (valueOf? "id") texts }

namespace Script

variable {hero : String} {row : Row} {note : Annotation}

/-! ## Rows one after the other -/

/-- A draft with what texts say taken in. -/
def ChoiceDraft.hear (hero : String) (d : ChoiceDraft) (texts : List (List Char)) :
    ChoiceDraft where
  choice := { d.choice with
    heroLine := (lastSaid (heroWords? hero) texts).getD d.choice.heroLine
    condition := (lastSaid requirement? texts).or d.choice.condition
    nextNode := (lastSaid leadsTo? texts).or d.choice.nextNode
    exit := d.choice.exit || texts.any leadsOut
    id := (lastSaid (valueOf? "id") texts).or d.choice.id }
  effects := {
    setFlags := d.effects.setFlags ++ texts.filterMap (valueOf? "set")
    addItems := d.effects.addItems ++ texts.filterMap (valueOf? "add")
    removeItems := d.effects.removeItems ++ texts.filterMap (valueOf? "remove")
    once := d.effects.once || texts.any saysOnce }
  reply := d.reply ++ texts.filterMap (reply? hero)

theorem ChoiceDraft.hear_nil (d : ChoiceDraft) : d.hear hero [] = d := by
  simp [hear, lastSaid_nil]

/-- **Texts are heard one after the other.** -/
theorem ChoiceDraft.hear_cons (d : ChoiceDraft) (text : List Char) (texts : List (List Char)) :
    d.hear hero (text :: texts) = (d.hear hero [text]).hear hero texts := by
  have hlast (o o' : Option String) (s : String) : (o.or o').getD s = o.getD (o'.getD s) := by
    cases o <;> rfl
  have hsplit : text :: texts = [text] ++ texts := rfl
  simp only [hear, lastSaid_cons, lastSaid_nil, Option.none_or, Option.or_assoc, hlast,
    List.any_cons, List.any_nil, Bool.or_false, Bool.or_assoc]
  simp only [hsplit, List.filterMap_append, List.append_assoc]

/-- One text adds what it has to say to each field. -/
theorem ChoiceDraft.hear_text (d : ChoiceDraft) (text : List Char) : d.hear hero [text] =
    { choice := { d.choice with
        heroLine := (heroWords? hero text).getD d.choice.heroLine
        condition := (requirement? text).or d.choice.condition
        nextNode := (leadsTo? text).or d.choice.nextNode
        exit := d.choice.exit || leadsOut text
        id := (valueOf? "id" text).or d.choice.id }
      effects := {
        setFlags := d.effects.setFlags ++ (valueOf? "set" text).toList
        addItems := d.effects.addItems ++ (valueOf? "add" text).toList
        removeItems := d.effects.removeItems ++ (valueOf? "remove" text).toList
        once := d.effects.once || saysOnce text }
      reply := d.reply ++ (reply? hero text).toList } := by
  have hsingle {α : Type} (said? : List Char → Option α) :
      [text].filterMap said? = (said? text).toList := by
    rw [List.filterMap_cons]
    cases said? text <;> rfl
  simp only [hear, lastSaid_cons, lastSaid_nil, Option.none_or, List.any_cons, List.any_nil,
    Bool.or_false, hsingle]

/-! ### Which row says what -/

/-- Nobody says an annotation or a route. -/
theorem spoken?_eq_none {text : List Char} {c : Char} (hhead : text.head? = some c)
    (hc : isWord c = false) : spoken? text = none := by
  by_contra hsome
  exact (spoken?_isSome_iff.1 (Option.isSome_iff_ne_none.2 hsome)).head?_ne hc hhead

theorem target?_eq_none {text : List Char} (h : ∀ target, text = '>' :: target → False) :
    target? text = none := by
  unfold target?
  split
  · exact (h _ rfl).elim
  · rfl

theorem value_readCondition (row : Row) (clause : Option (List Char)) :
    (readCondition row clause).value = (Condition.read (clause.getD [])).value := by
  unfold readCondition
  dsimp only
  split <;> rfl

/-- An annotation of a choice is heard as what is behind its tag. -/
theorem value_annotateChoice (hnote : annotation? row.text = some note) (d : ChoiceDraft) :
    (annotateChoice d row note).value = d.hear hero [row.text] := by
  have hhead := head?_of_tagged hnote
  have hspoken : spoken? row.text = none := spoken?_eq_none hhead (by decide)
  have htarget : target? row.text = none := target?_eq_none fun target htext => by
    rw [htext] at hhead
    cases hhead
  have hvalueOf (tag : String) : valueOf? tag row.text =
      if String.ofList note.tag = tag then filled note.value else none := by
    rw [valueOf?, hnote, Option.bind_some]
  have hrequirement : requirement? row.text = if String.ofList note.tag = "requires" then
      some (Condition.read (note.value.getD [])).value else none := by
    rw [requirement?, hnote, Option.bind_some]
  have honce : saysOnce row.text = decide (String.ofList note.tag = "once") := by
    rw [saysOnce, hnote, Option.any_some]
  have hwords : heroWords? hero row.text = none := by rw [heroWords?, hspoken, Option.bind_none]
  have hreply : reply? hero row.text = none := by rw [reply?, hspoken, Option.bind_none]
  have hleadsTo : leadsTo? row.text = none := by rw [leadsTo?, htarget, Option.filter_none]
  have hleadsOut : leadsOut row.text = false := by simp [leadsOut, htarget]
  rw [ChoiceDraft.hear_text, hvalueOf, hvalueOf, hvalueOf, hvalueOf, hrequirement, honce, hwords,
    hreply, hleadsTo, hleadsOut]
  unfold annotateChoice
  cases filled note.value <;> split <;>
    simp_all [ChoiceDraft.withChoice, ChoiceDraft.withEffects, value_readCondition]

/-- What is no annotation says nothing behind a tag. -/
theorem hear_of_not_tagged (hnote : annotation? row.text = none) (d : ChoiceDraft) :
    d.hear hero [row.text] =
      { d with
        choice := { d.choice with
          heroLine := (heroWords? hero row.text).getD d.choice.heroLine
          nextNode := (leadsTo? row.text).or d.choice.nextNode
          exit := d.choice.exit || leadsOut row.text }
        reply := d.reply ++ (reply? hero row.text).toList } := by
  have hvalueOf (tag : String) : valueOf? tag row.text = none := by
    rw [valueOf?, hnote, Option.bind_none]
  have hrequirement : requirement? row.text = none := by
    rw [requirement?, hnote, Option.bind_none]
  have honce : saysOnce row.text = false := by rw [saysOnce, hnote, Option.any_none]
  simp [ChoiceDraft.hear_text, hvalueOf, hrequirement, honce]

/-- A route is heard as where it leads. -/
theorem value_routeChoice (hnote : annotation? row.text = none) {target : List Char}
    (htext : row.text = '>' :: target) (d : ChoiceDraft) :
    (routeChoice d row target).value = d.hear hero [row.text] := by
  have hspoken : spoken? row.text = none :=
    spoken?_eq_none (by rw [htext]; rfl) (by decide : isWord '>' = false)
  have hwords : heroWords? hero row.text = none := by rw [heroWords?, hspoken, Option.bind_none]
  have hreply : reply? hero row.text = none := by rw [reply?, hspoken, Option.bind_none]
  have htarget : target? row.text =
      if trim target = [] then none else some (String.ofList (trim target)) := by
    rw [htext, target?]
  rw [hear_of_not_tagged hnote, hwords, hreply, leadsTo?, leadsOut, htarget]
  unfold routeChoice
  split
  · next hblank =>
    have hnil : trim target = [] := by rw [← String.toList_ofList (l := trim target), hblank]; rfl
    simp [hnil, remark]
  · next hfilled =>
    have hne : trim target ≠ [] := fun hnil => hfilled (by rw [hnil])
    rw [if_neg hne]
    by_cases hend : String.ofList (trim target) = Graph.endTarget <;>
      simp [hend, ChoiceDraft.withChoice, Option.filter_some]

/-- What somebody says is heard as words of the hero or as part of the reply. -/
theorem value_speakChoice (hnote : annotation? row.text = none)
    (hroute : ∀ target, row.text = '>' :: target → False) (d : ChoiceDraft) :
    (speakChoice hero d row).value = d.hear hero [row.text] := by
  have htarget := target?_eq_none hroute
  rw [hear_of_not_tagged hnote, leadsTo?, leadsOut, htarget, heroWords?, reply?, speakChoice]
  cases spoken? row.text with
  | none => simp [remark]
  | some speech =>
    obtain ⟨name, words⟩ := speech
    by_cases hname : name = hero <;> by_cases hwords : words = "" <;>
      simp [hname, hwords, ChoiceDraft.withChoice]

/-- **A row of a choice is heard as what it says.** -/
theorem value_readChoiceRow (d : ChoiceDraft) (row : Row) :
    (readChoiceRow hero d row).value = d.hear hero [row.text] := by
  unfold readChoiceRow
  split
  · next hnote => exact value_annotateChoice hnote d
  · next hnote htext => exact value_routeChoice hnote htext d
  · next hnote hroute => exact value_speakChoice hnote hroute d

/-- **Rows of a choice are heard as what they say, in order.** -/
theorem value_readChoiceRows (d : ChoiceDraft) (rows : List Row) :
    (readChoiceRows hero d rows).value = d.hear hero (rows.map Row.text) := by
  induction rows generalizing d with
  | nil => exact d.hear_nil.symm
  | cons row rows ih =>
    rw [readChoiceRows, Noted.value_bind, ih, value_readChoiceRow, ← d.hear_cons, List.map_cons]

/-- **A block is read as the choice that it describes.** -/
theorem value_readChoice_eq (hero : String) (b : Block) :
    (readChoice hero b).value = b.choice hero := by
  rw [value_readChoice, value_readChoiceRows]
  simp [ChoiceDraft.hear, ChoiceDraft.finish, Block.choice, effectsOf]

end Script

end Colloquy
