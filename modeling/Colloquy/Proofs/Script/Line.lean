import Colloquy.Proofs.Condition.Display
import Colloquy.Proofs.Text.Paragraph
import Colloquy.Script.Reader

/-!
# Lines — the forms a line of a script is written in

A written line is a heading, an annotation with its value, something a name says, the opening of a
choice, or a route. Each form is clean where its parts are, so it comes back from a script as the
text of a row (`text_ofScript_paragraph`), and each is recognised by its own reader. A heading is
the only form that starts with an equals sign, so no other line can be taken for one.
-/

namespace Colloquy

namespace Script

open Text

/-! ## The forms -/

/-- A heading. -/
def headingLine (name : String) : String := "=== " ++ (name ++ " ===")

/-- An annotation with a value. -/
def tagLine (tag value : String) : String := "# " ++ (tag ++ (": " ++ value))

/-- A tag, which ends at the first colon of an annotation and so has none. -/
def IsTag (tag : String) : Prop := Clean tag.toList ∧ ':' ∉ tag.toList

instance (tag : String) : Decidable (IsTag tag) := instDecidableAnd

/-- Words with the name of who speaks them. -/
def speechLine (name words : String) : String := name ++ (": " ++ words)

/-- The opening of a choice. -/
def openingLine (text : String) : String := "- " ++ text

/-- A route. -/
def routeLine (target : String) : String := "> " ++ target

theorem toList_headingLine (name : String) :
    (headingLine name).toList = "===".toList ++ ' ' :: (name.toList ++ ' ' :: "===".toList) := by
  rw [headingLine, String.toList_append, String.toList_append]
  rfl

theorem toList_tagLine (tag value : String) :
    (tagLine tag value).toList = '#' :: ' ' :: tag.toList ++ ':' :: ' ' :: value.toList := by
  rw [tagLine, String.toList_append, String.toList_append, String.toList_append]
  rfl

theorem toList_speechLine (name words : String) :
    (speechLine name words).toList = name.toList ++ ':' :: ' ' :: words.toList := by
  rw [speechLine, String.toList_append, String.toList_append]
  rfl

theorem toList_openingLine (text : String) :
    (openingLine text).toList = '-' :: ' ' :: text.toList := String.toList_append

theorem toList_routeLine (target : String) :
    (routeLine target).toList = '>' :: ' ' :: target.toList := String.toList_append

/-! ## Every form is clean -/

theorem clean_headingLine {name : String} (h : IsName name.toList) :
    Clean (headingLine name).toList := by
  have hend : Clean (name.toList ++ (" ".toList ++ "===".toList)) :=
    h.clean.append (by decide) (by decide)
  rw [toList_headingLine]
  exact (by decide : Clean "===".toList).append (by decide : '\n' ∉ " ".toList) hend

theorem clean_tagLine {tag value : String} (htag : IsTag tag) (hvalue : Clean value.toList) :
    Clean (tagLine tag value).toList := by
  have hend : Clean (tag.toList ++ (": ".toList ++ value.toList)) :=
    htag.1.append (by decide) hvalue
  rw [toList_tagLine]
  exact (by decide : Clean "#".toList).append (by decide : '\n' ∉ " ".toList) hend

theorem clean_speechLine {name words : String} (hname : IsName name.toList)
    (hwords : Clean words.toList) : Clean (speechLine name words).toList := by
  rw [toList_speechLine]
  exact hname.clean.append (by decide : '\n' ∉ ": ".toList) hwords

theorem clean_openingLine {text : String} (h : Clean text.toList) :
    Clean (openingLine text).toList := by
  rw [toList_openingLine]
  exact (by decide : Clean "-".toList).append (by decide : '\n' ∉ " ".toList) h

theorem clean_routeLine {target : String} (h : Clean target.toList) :
    Clean (routeLine target).toList := by
  rw [toList_routeLine]
  exact (by decide : Clean ">".toList).append (by decide : '\n' ∉ " ".toList) h

/-! ## Every form is recognised -/

theorem headingName?_headingLine {name : String} (h : IsName name.toList) :
    headingName? (headingLine name).toList = some name.toList := by
  have hstart : trimStart (' ' :: (name.toList ++ ' ' :: "===".toList)) =
      name.toList ++ ' ' :: "===".toList := by
    have hbare := (startsBare_append h.filled (' ' :: "===".toList)).2 h.clean.startsBare
    rw [trimStart, List.dropWhile_cons_of_pos (by decide), ← trimStart, trimStart_eq_self hbare]
  have hword : leadingWord (name.toList ++ ' ' :: "===".toList) =
      (name.toList, ' ' :: "===".toList) := h.leadingWord_append (by decide) _
  have hend : trimStart (' ' :: "===".toList) = "===".toList := by decide
  rw [headingName?, toList_headingLine, after?_append]
  simp only [Option.bind_eq_bind, Option.bind_some, hstart, hword, hend]
  exact if_pos ⟨h.filled, trivial⟩

/-- Only a line that starts with an equals sign is a heading. -/
theorem headingName?_eq_none {text : List Char} (h : text.head? ≠ some '=') :
    headingName? text = none := by
  cases hafter : after? "===".toList text with
  | none =>
    rw [headingName?, hafter]
    rfl
  | some rest =>
    rw [after?_eq_some] at hafter
    exact absurd (by rw [hafter]; rfl) h

theorem annotation?_tagLine {tag value : String} (htag : IsTag tag) (hvalue : Clean value.toList) :
    annotation? (tagLine tag value).toList = some ⟨tag.toList, some value.toList⟩ := by
  have hcut : cut ':' (' ' :: tag.toList ++ ':' :: ' ' :: value.toList) =
      some (' ' :: tag.toList, ' ' :: value.toList) := cut_append (by simpa using htag.2) _
  rw [toList_tagLine]
  show annotation? ('#' :: (' ' :: tag.toList ++ ':' :: ' ' :: value.toList)) = _
  simp only [annotation?, hcut, trim_space_cons, htag.1.trimmed, hvalue.trimmed]

/-- Only a line that starts with a number sign is an annotation. -/
theorem annotation?_eq_none {text : List Char} (h : text.head? ≠ some '#') :
    annotation? text = none := by
  unfold annotation?
  split
  · exact absurd rfl h
  · rfl

theorem head?_tagLine (tag value : String) : (tagLine tag value).toList.head? = some '#' := by
  rw [toList_tagLine]
  rfl

theorem head?_openingLine (text : String) : (openingLine text).toList.head? = some '-' := by
  rw [toList_openingLine]
  rfl

theorem head?_routeLine (target : String) : (routeLine target).toList.head? = some '>' := by
  rw [toList_routeLine]
  rfl

/-- Words with a name in front start with a word character. -/
theorem head?_speechLine {name : String} (hname : IsName name.toList) (words : String) {c : Char}
    (hc : isWord c = false) : (speechLine name words).toList.head? ≠ some c := by
  obtain ⟨d, cs, hcons⟩ := List.exists_cons_of_ne_nil hname.filled
  have hd : isWord d = true := hname.word d (by rw [hcons]; exact List.mem_cons_self)
  rw [toList_speechLine, hcons]
  rintro ⟨rfl⟩
  rw [hd] at hc
  exact Bool.noConfusion hc

theorem spoken?_speechLine {name words : String} (hname : IsName name.toList)
    (hlower : lowercase name = name) (hwords : Clean words.toList) :
    spoken? (speechLine name words).toList = some (name, words) := by
  have hspeech : speech? (speechLine name words).toList = some (name.toList, words.toList) := by
    obtain ⟨c, cs, hcons⟩ := List.exists_cons_of_ne_nil hname.filled
    rw [toList_speechLine, speech?, hname.leadingWord_append (by decide), hcons]
    simp only [trim_space_cons, hwords.trimmed]
  rw [spoken?, hspeech]
  show some (lowercase name, String.ofList words.toList) = _
  rw [hlower, String.ofList_toList]

/-! ## Rows of a written script -/

theorem text_ofLine {line : List Char} (h : Clean line) (number offset : Nat) :
    (Row.ofLine number offset line).toList.map Row.text = [line] := by
  rw [Row.ofLine, if_neg (by rw [h.trimmed]; exact h.filled), h.trimmed]
  rfl

theorem text_ofLines {lines : List (List Char)} (h : ∀ line ∈ lines, Clean line)
    (number offset : Nat) : (Row.ofLines number offset (lines ++ [[]])).map Row.text = lines := by
  induction lines generalizing number offset with
  | nil => rfl
  | cons line lines ih =>
    rw [List.cons_append, Row.ofLines, List.map_append, text_ofLine (h line List.mem_cons_self),
      ih fun l hl => h l (List.mem_cons_of_mem line hl)]
    rfl

/-- **Clean lines come back as the texts of the rows.** -/
theorem text_ofScript_paragraph {lines : List String} (h : ∀ line ∈ lines, Clean line.toList) :
    (Row.ofScript (paragraph lines).toList).map Row.text = lines.map String.toList := by
  rw [Row.ofScript, pieces_paragraph fun line hline => (h line hline).oneLine]
  exact text_ofLines (List.forall_mem_map.2 h) 1 0

end Script

end Colloquy
