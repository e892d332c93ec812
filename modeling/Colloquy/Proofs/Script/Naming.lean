import Colloquy.Proofs.Script.WellFormed

/-!
# Namings — which names the dialogue of a script can have in it

A script names its nodes in headings, and in annotations its choices and what they set, add and
remove. Either is read in a form of its own: the name of a node consists of word characters, and
what is named in an annotation is not blank and has no blanks around it. Both hold of every dialogue
that is read from a script (`named_of_read`, `labelled_effects_of_read`), since it is well-formed.
-/

namespace Colloquy

open Text

/-- A text that is not blank, without blanks around it. -/
structure IsLabel (label : String) : Prop where
  filled : label.toList ≠ []
  trimmed : trim label.toList = label.toList

namespace IsLabel

/-- What can be written behind a tag is a label. -/
theorem of_clean {label : String} (h : Clean label.toList) : IsLabel label := ⟨h.filled, h.trimmed⟩

theorem trimmed_eq {label : String} (h : IsLabel label) : Text.trimmed label = label := by
  rw [Text.trimmed, h.trimmed, String.ofList_toList]

theorem ne_empty {label : String} (h : IsLabel label) : label ≠ "" := by
  rintro rfl
  exact h.filled rfl

end IsLabel

/-- Effects whose flags and items are named as a script can name them. -/
structure Effects.Labelled (e : Effects) : Prop where
  setFlags : ∀ flag ∈ e.setFlags, IsLabel flag
  addItems : ∀ item ∈ e.addItems, IsLabel item
  removeItems : ∀ item ∈ e.removeItems, IsLabel item

namespace Choice

/-- The label of a choice, if it has one, is one that a script can give. -/
def Labelled (c : Choice) : Prop := ∀ label, c.id = some label → IsLabel label

end Choice

namespace Graph

/-- A dialogue whose nodes and choices are named as a script can name them. -/
structure Named (g : Graph) : Prop where
  node : ∀ key node, g.get? key = some node → IsName key.toList
  choice : ∀ key node, g.get? key = some node → ∀ c ∈ node.choices, c.Labelled

end Graph

namespace Script

/-! ## Dialogues -/

/-- **The dialogue of a script is named as a script can name it.** -/
theorem named_of_read {hero script : String} {g : Graph} (h : (read hero script).value = .ok g) :
    g.Named where
  node := (wellFormed_of_read h).key
  choice key node hnode c hc label hid :=
    .of_clean ((((wellFormed_of_read h).node key node hnode).choice c hc).id label hid)

/-- **What a choice of a script sets, adds and removes is named as a script can name it.** -/
theorem labelled_effects_of_read {hero script : String} {g : Graph}
    (h : (read hero script).value = .ok g) {key : String} {node : Node}
    (hnode : g.get? key = some node) {c : Choice} (hc : c ∈ node.choices) {e : Effects}
    (he : c.effects = some e) : e.Labelled := by
  have heffects := ((((wellFormed_of_read h).node key node hnode).choice c hc).effects e he).2
  exact ⟨fun flag hflag => .of_clean (heffects.setFlags flag hflag),
    fun item hitem => .of_clean (heffects.addItems item hitem),
    fun item hitem => .of_clean (heffects.removeItems item hitem)⟩

end Script

end Colloquy
