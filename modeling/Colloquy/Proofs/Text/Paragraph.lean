import Colloquy.Proofs.Text.Decimal

/-!
# Paragraphs — lines put together and cut apart

A paragraph is written line by line, each line with its end. If no line has a line break in it, the
lines come back when the paragraph is cut at its line breaks, and the last piece is empty
(`pieces_paragraph`). Paragraphs with an empty line between neighbours are the paragraph of all
their lines with empty lines between them (`join_paragraphs`).
-/

namespace Colloquy

namespace Text

/-! ## Texts on one line -/

/-- A text without line breaks. -/
def IsLine (s : String) : Prop := '\n' ∉ s.toList

instance (s : String) : Decidable (IsLine s) := inferInstanceAs (Decidable ('\n' ∉ s.toList))

namespace IsLine

variable {s t : String}

theorem append (hs : IsLine s) (ht : IsLine t) : IsLine (s ++ t) := by
  rw [IsLine, String.toList_append]
  exact mt List.mem_append.1 (not_or.2 ⟨hs, ht⟩)

theorem join {sep : String} (hsep : IsLine sep) {texts : List String}
    (h : ∀ text ∈ texts, IsLine text) : IsLine (Text.join sep texts) := by
  induction texts with
  | nil => exact (by decide : IsLine "")
  | cons text rest ih =>
    obtain ⟨htext, hrest⟩ := List.forall_mem_cons.1 h
    by_cases hnil : rest = []
    · rw [hnil, Text.join, String.intercalate_singleton]
      exact htext
    · rw [Text.join, String.intercalate_cons_of_ne_nil hnil]
      exact (htext.append hsep).append (ih hrest)

end IsLine

theorem isLine_toString (n : Nat) : IsLine (toString n) := (isName_toString n).clean.oneLine

/-! ## Paragraphs -/

theorem toList_paragraph (lines : List String) :
    (paragraph lines).toList = (lines.map String.toList).flatMap fun line => line ++ ['\n'] := by
  rw [paragraph, String.toList_join, List.flatMap_map, List.flatMap_map]
  exact congrArg (List.flatMap · lines) (funext fun _ => String.toList_append)

/-- **Lines without line breaks come back** when their paragraph is cut at its line breaks. -/
theorem pieces_paragraph {lines : List String} (h : ∀ line ∈ lines, IsLine line) :
    pieces '\n' (paragraph lines).toList = lines.map String.toList ++ [[]] := by
  rw [toList_paragraph, pieces_terminated (List.forall_mem_map.2 h)]

theorem paragraph_append (front back : List String) :
    paragraph (front ++ back) = paragraph front ++ paragraph back := by
  rw [paragraph, List.map_append, String.join_append, paragraph, paragraph]

/-- **Paragraphs with an empty line between them are one paragraph of all their lines**, with the
empty lines. -/
theorem join_paragraphs (paragraphs : List (List String)) :
    join "\n" (paragraphs.map paragraph) = paragraph ([""].intercalate paragraphs) := by
  induction paragraphs with
  | nil => rfl
  | cons lines rest ih =>
    cases rest with
    | nil => rw [List.map_singleton, join, String.intercalate_singleton, List.intercalate_singleton]
    | cons lines' rest =>
      rw [List.map_cons, List.map_cons, join, String.intercalate_cons_cons, ← join, ← List.map_cons,
        ih, List.intercalate_cons_cons, paragraph_append, paragraph_append]
      rfl

/-- What stands in rows put together stands in one of them or between them. -/
theorem mem_of_mem_intercalate {α : Type} {sep : List α} {rows : List (List α)} {x : α}
    (h : x ∈ sep.intercalate rows) : x ∈ sep ∨ ∃ row ∈ rows, x ∈ row := by
  induction rows with
  | nil => cases h
  | cons row rest ih =>
    by_cases hnil : rest = []
    · rw [hnil, List.intercalate_singleton] at h
      exact .inr ⟨row, List.mem_cons_self, h⟩
    · rw [List.intercalate_cons_of_ne_nil hnil, List.append_assoc, List.mem_append,
        List.mem_append] at h
      rcases h with hrow | hsep | hrest
      · exact .inr ⟨row, List.mem_cons_self, hrow⟩
      · exact .inl hsep
      · refine (ih hrest).imp_right fun ⟨row', hrow', hx⟩ => ?_
        exact ⟨row', List.mem_cons_of_mem row hrow', hx⟩

end Text

end Colloquy
