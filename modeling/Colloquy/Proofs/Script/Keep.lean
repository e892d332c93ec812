import Colloquy.Proofs.Script.Cut

/-!
# What the readers of a script keep

A reader of rows builds something up, one row after the other, and what each row keeps is kept in
the end (`Rowwise.keeps`). A choice is finished from what its rows come to (`value_readChoice`), and
each node of a dialogue that is read is the node of some section (`exists_section_of_read`).
-/

namespace Colloquy

namespace Script

open Text

/-- **Rows that are read one after the other keep what each of them keeps.** -/
theorem Rowwise.keeps {σ : Type} {step : σ → Row → Remarked σ} {read : σ → List Row → Remarked σ}
    (h : Rowwise step read) {P : σ → Prop} {rows : List Row}
    (hstep : ∀ row ∈ rows, ∀ s, P s → P (step s row).value) {s : σ} (hs : P s) :
    P (read s rows).value := by
  induction rows generalizing s with
  | nil => rw [h.nil]; exact hs
  | cons row rows ih =>
    rw [h.cons, Noted.value_bind]
    exact ih (fun r hr => hstep r (List.mem_cons_of_mem row hr))
      (hstep row List.mem_cons_self s hs)

/-- Rows are read in two parts. -/
theorem Rowwise.append {σ : Type} {step : σ → Row → Remarked σ} {read : σ → List Row → Remarked σ}
    (h : Rowwise step read) (s : σ) (rows rest : List Row) :
    read s (rows ++ rest) = read s rows >>= fun t => read t rest := by
  induction rows generalizing s with
  | nil => rw [h.nil]; rfl
  | cons row rows ih => rw [List.cons_append, h.cons, h.cons, Noted.bind_assoc, funext ih]

/-! ## Choices -/

/-- A choice is finished from the draft that its rows leave of the text of its opening. -/
theorem value_readChoice (hero : String) (b : Block) :
    let text := String.ofList (trim (b.opening.text.drop 1))
    (readChoice hero b).value =
      (readChoiceRows hero { choice := { text } } b.body).value.finish := by
  unfold readChoice
  dsimp only
  split <;> rfl

/-- The choices of a section are those of its blocks. -/
theorem choices_readNode (hero : String) (s : Section) :
    (readNode hero s).value.choices = s.choices.map fun b => (readChoice hero b).value := by
  simp [readNode]

/-! ## Dialogues -/

/-- The dialogue of a script is what its sections are assembled to. -/
theorem Cut.eq_readSections {hero script : String} {loose : List Row} {found : List Section}
    (hcut : Cut (Row.ofScript script.toList) loose found) {g : Graph}
    (h : (read hero script).value = .ok g) :
    g = (readSections (Text.lowercase hero) .empty found).value := by
  rw [read, readRows_of_cut _ hcut] at h
  dsimp only at h
  split at h
  · cases h
  · split at h
    · cases h
    · exact (Except.ok.inj h).symm

/-- **A node of a dialogue is the node of a section of its script.** -/
theorem exists_section_of_read {hero script : String} {g : Graph}
    (h : (read hero script).value = .ok g) {key : String} {node : Node}
    (hnode : g.get? key = some node) :
    ∃ s ∈ (sections (Row.ofScript script.toList)).2, String.ofList s.name = key ∧
      node = (readNode (Text.lowercase hero) s).value := by
  have hcut := cut_sections (Row.ofScript script.toList)
  obtain rfl := hcut.eq_readSections h
  rcases exists_of_get?_readSections _ hnode with hnone | ⟨s, hs, hname, hnode⟩
  · cases hnone
  · exact ⟨s, hs, hname, hnode⟩

end Script

end Colloquy
