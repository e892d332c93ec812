import Colloquy.Proofs.Script.Place

/-!
# Layout — how a script is laid out is of no account

A script says what its lines say: the texts between its line breaks, trimmed, without the blank
ones. They are the texts of its rows (`text_ofScript`), so two scripts with the same lines are read
the same, with the same remarks at other places (`same_lines_read_alike`). Line breaks are blank
themselves, so indentation, spaces at the end of a line, empty lines and carriage returns are all
blanks next to a line break or an end of the script, and blanks there change no line
(`lines_insert`).
-/

namespace Colloquy

namespace Text

/-! ## Lines -/

/-- A text is a line, or a line and a line break in front of another text. -/
@[elab_as_elim]
theorem line_induction {P : List Char → Prop} (last : ∀ line, '\n' ∉ line → P line)
    (step : ∀ line rest, '\n' ∉ line → P rest → P (line ++ '\n' :: rest)) (cs : List Char) :
    P cs := by
  induction hlength : cs.length using Nat.strong_induction_on generalizing cs with
  | _ n ih =>
    cases hcut : cut '\n' cs with
    | none => exact last cs (cut_eq_none.1 hcut)
    | some parts =>
      obtain ⟨line, rest⟩ := parts
      obtain ⟨rfl, hline⟩ := cut_eq_some hcut
      have hshorter : rest.length < n := by
        rw [← hlength, List.length_append, List.length_cons]
        omega
      exact step line rest hline (ih rest.length hshorter rest rfl)

/-- The lines of a text, trimmed, without those that are blank. -/
def lines (cs : List Char) : List (List Char) := ((pieces '\n' cs).map trim).filter (· ≠ [])

@[simp] theorem lines_nil : lines [] = [] := rfl

/-- **A line break ends a line.** -/
theorem lines_append_newline (front back : List Char) :
    lines (front ++ '\n' :: back) = lines front ++ lines back := by
  rw [lines, pieces_append_sep, List.map_append, List.filter_append, lines, lines]

theorem lines_of_not_mem {line : List Char} (h : '\n' ∉ line) :
    lines line = [trim line].filter (· ≠ []) := by
  rw [lines, pieces_of_not_mem h, List.map_singleton]

/-! ## Blanks next to a line break -/

/-- A text behind which a line starts, up to blanks. -/
def OpensLine (cs : List Char) : Prop :=
  ∃ earlier blanks, cs = earlier ++ blanks ∧ (∀ c ∈ earlier.getLast?, c = '\n') ∧
    ∀ c ∈ blanks, isBlank c = true

/-- A text in front of which a line ends, up to blanks. -/
def ClosesLine (cs : List Char) : Prop :=
  ∃ blanks later, cs = blanks ++ later ∧ (∀ c ∈ blanks, isBlank c = true) ∧
    ∀ c ∈ later.head?, c = '\n'

theorem trim_append_blank {c : Char} (h : isBlank c = true) (cs : List Char) :
    trim (cs ++ [c]) = trim cs := by
  have hend : trimEnd (cs ++ [c]) = trimEnd cs := by
    rw [trimEnd_append, if_pos (by simp [trimEnd, h])]
  rw [← trim_trimEnd, hend, trim_trimEnd]

theorem lines_blank_cons {c : Char} (h : isBlank c = true) (cs : List Char) :
    lines (c :: cs) = lines cs := by
  by_cases hc : c = '\n'
  · subst hc
    exact lines_append_newline [] cs
  · obtain ⟨line, rest, hpieces⟩ := List.exists_cons_of_ne_nil (pieces_ne_nil '\n' cs)
    have hmore : pieces '\n' (c :: cs) = (c :: line) :: rest := by
      rw [pieces, if_neg hc, hpieces]
    rw [lines, hmore, List.map_cons, trim_blank_cons h, ← List.map_cons, ← hpieces, lines]

theorem lines_append_blank {c : Char} (h : isBlank c = true) (cs : List Char) :
    lines (cs ++ [c]) = lines cs := by
  by_cases hc : c = '\n'
  · rw [hc, lines_append_newline, lines_nil, List.append_nil]
  · induction cs using line_induction with
    | last line hline =>
      have hmore : '\n' ∉ line ++ [c] := by simp [hline, Ne.symm hc]
      rw [lines_of_not_mem hmore, trim_append_blank h, lines_of_not_mem hline]
    | step line rest _ ih =>
      rw [List.append_assoc, List.cons_append, lines_append_newline, ih, lines_append_newline]

/-- Blanks in front of a text change no line of it. -/
theorem lines_blanks_append {blanks : List Char} (h : ∀ c ∈ blanks, isBlank c = true)
    (cs : List Char) : lines (blanks ++ cs) = lines cs := by
  induction blanks with
  | nil => rfl
  | cons c blanks ih =>
    rw [List.cons_append, lines_blank_cons (h c List.mem_cons_self),
      ih fun d hd => h d (List.mem_cons_of_mem c hd)]

/-- Blanks behind a text change no line of it. -/
theorem lines_append_blanks {blanks : List Char} (h : ∀ c ∈ blanks, isBlank c = true)
    (cs : List Char) : lines (cs ++ blanks) = lines cs := by
  induction blanks generalizing cs with
  | nil => rw [List.append_nil]
  | cons c blanks ih =>
    rw [List.append_cons, ih fun d hd => h d (List.mem_cons_of_mem c hd),
      lines_append_blank (h c List.mem_cons_self)]

/-- Behind a text that opens a line, the lines are those of the rest. -/
theorem OpensLine.lines_append {front : List Char} (h : OpensLine front) (rest : List Char) :
    lines (front ++ rest) = lines front ++ lines rest := by
  obtain ⟨earlier, blanks, rfl, hbreak, hblanks⟩ := h
  rw [List.append_assoc, lines_append_blanks hblanks]
  rcases List.eq_nil_or_concat earlier with rfl | ⟨before, c, rfl⟩
  · exact lines_blanks_append hblanks rest
  · obtain rfl : c = '\n' := hbreak c (by simp)
    rw [List.concat_eq_append, List.append_assoc, List.singleton_append, lines_append_newline,
      lines_append_newline, lines_blanks_append hblanks, lines_nil, List.append_nil]

/-- In front of a text that closes a line, the lines are those of the rest. -/
theorem ClosesLine.lines_append {back : List Char} (h : ClosesLine back) (rest : List Char) :
    lines (rest ++ back) = lines rest ++ lines back := by
  obtain ⟨blanks, later, rfl, hblanks, hbreak⟩ := h
  rw [← List.append_assoc, lines_blanks_append hblanks]
  cases later with
  | nil => rw [List.append_nil, lines_append_blanks hblanks, lines_nil, List.append_nil]
  | cons c later =>
    obtain rfl : c = '\n' := hbreak c rfl
    rw [lines_append_newline, lines_append_blanks hblanks]
    rw [← lines_blank_cons (by decide : isBlank '\n' = true) later]

/-- **Blanks next to a line break or an end change no line**, line breaks among them. -/
theorem lines_insert {front blanks back : List Char} (hblanks : ∀ c ∈ blanks, isBlank c = true)
    (hplace : OpensLine front ∨ ClosesLine back) :
    lines (front ++ blanks ++ back) = lines (front ++ back) := by
  rcases hplace with hplace | hplace
  · rw [List.append_assoc, hplace.lines_append, lines_blanks_append hblanks, hplace.lines_append]
  · rw [hplace.lines_append, lines_append_blanks hblanks, hplace.lines_append]

/-- The text with carriage returns in front of its line breaks. -/
def withReturns (cs : List Char) : List Char :=
  cs.flatMap fun c => if c = '\n' then ['\r', '\n'] else [c]

theorem withReturns_of_not_mem {line : List Char} (h : '\n' ∉ line) : withReturns line = line := by
  induction line with
  | nil => rfl
  | cons c line ih =>
    obtain ⟨hc, hline⟩ := not_or.1 (mt List.mem_cons.2 h)
    have hrest : withReturns line = line := ih hline
    rw [withReturns, List.flatMap_cons, if_neg (Ne.symm hc), ← withReturns, hrest,
      List.singleton_append]

/-- **Carriage returns change no line.** -/
theorem lines_withReturns (cs : List Char) : lines (withReturns cs) = lines cs := by
  induction cs using line_induction with
  | last line hline => rw [withReturns_of_not_mem hline]
  | step line rest hline ih =>
    have hreturns : withReturns (line ++ '\n' :: rest) =
        (line ++ ['\r']) ++ '\n' :: withReturns rest := by
      rw [withReturns, List.flatMap_append, ← withReturns, withReturns_of_not_mem hline]
      simp [withReturns]
    rw [hreturns, lines_append_newline, ih, lines_append_newline,
      lines_append_blank (by decide : isBlank '\r' = true)]

end Text

open Text

/-- A diagnostic as if it were about no place. -/
def Diagnostic.nowhere (d : Diagnostic) : Diagnostic := { d with line := 0, start := 0, stop := 0 }

namespace Script

/-- **The rows of a script say its lines.** -/
theorem text_ofScript (script : List Char) : (Row.ofScript script).map Row.text = lines script := by
  have hlines (number offset : Nat) (ls : List (List Char)) :
      (Row.ofLines number offset ls).map Row.text = (ls.map trim).filter (· ≠ []) := by
    induction ls generalizing number offset with
    | nil => rfl
    | cons line ls ih =>
      rw [Row.ofLines, List.map_append, ih, List.map_cons, Row.ofLine]
      by_cases hblank : trim line = [] <;> simp [hblank]
  exact hlines 1 0 (pieces '\n' script)

theorem read_nowhere_of_lines_eq (hero : String) {script script' : String}
    (h : lines script.toList = lines script'.toList) :
    (read hero script).mapNotes (Remark.move Row.nowhere) =
      (read hero script').mapNotes (Remark.move Row.nowhere) := by
  refine readRows_nowhere _ ?_
  rw [text_ofScript, text_ofScript, h]

/-- The diagnostics of remarks do not tell apart remarks that differ in their place. -/
theorem nowhere_diagnostic_move (notes : List Remark) :
    ((notes.map (Remark.move Row.nowhere)).map Remark.diagnostic).map Diagnostic.nowhere =
      (notes.map Remark.diagnostic).map Diagnostic.nowhere := by
  simp only [List.map_map]
  rfl

/-- **Scripts with the same lines are read alike.** They fail for the same reason or give the same
dialogue, with diagnostics that differ in their places at most. In particular it makes no difference
whether lines end with carriage returns, and which blanks and line breaks there are at the start
and at the end of a line. -/
theorem same_lines_read_alike (hero : String) :
    (∀ script script' : String, lines script.toList = lines script'.toList →
      (read hero script).value = (read hero script').value ∧
        (diagnostics hero script).map Diagnostic.nowhere =
          (diagnostics hero script').map Diagnostic.nowhere) ∧
    (∀ script, lines (withReturns script) = lines script) ∧
    ∀ front blanks back : List Char, (∀ c ∈ blanks, isBlank c = true) →
      OpensLine front ∨ ClosesLine back →
        lines (front ++ blanks ++ back) = lines (front ++ back) := by
  refine ⟨fun script script' h => ?_, lines_withReturns, fun _ _ _ => lines_insert⟩
  have hread := read_nowhere_of_lines_eq hero h
  have hvalue : (read hero script).value = (read hero script').value := by
    have := congrArg Noted.value hread
    rwa [Noted.value_mapNotes, Noted.value_mapNotes] at this
  refine ⟨hvalue, ?_⟩
  have hnotes := congrArg Noted.notes hread
  rw [Noted.notes_mapNotes, Noted.notes_mapNotes] at hnotes
  unfold diagnostics
  dsimp only
  rw [← hvalue]
  split
  · rw [← nowhere_diagnostic_move, hnotes, nowhere_diagnostic_move]
  · rfl

/-- A line is skipped in both scripts, at different places. -/
theorem same_lines_read_alike_returns :
    let script := "=== start ===\nbob: Hi.\nhm?\n- Bye\n> END"
    let script' := "\r\n=== start ===\r\n\u3000bob: Hi.\r\n\t hm? \r\n\r\n- Bye\r\n> END\r\n"
    lines script.toList = lines script'.toList ∧
      (read "nate" script).value = (read "nate" script').value ∧
      (diagnostics "nate" script).map Diagnostic.nowhere =
        (diagnostics "nate" script').map Diagnostic.nowhere ∧
      diagnostics "nate" script = [⟨.warning, 3, 23, 26, Flaw.unspokenIntro.message, none⟩] ∧
      diagnostics "nate" script' = [⟨.warning, 4, 32, 35, Flaw.unspokenIntro.message, none⟩] ∧
      lines (['h', 'm', '\n'] ++ ['\n', '\t'] ++ ['-', 'B']) =
        lines (['h', 'm', '\n'] ++ ['-', 'B']) := by
  intro script script'
  have hlines : lines script.toList = lines script'.toList := by decide +kernel
  obtain ⟨hread, -, hinsert⟩ := same_lines_read_alike "nate"
  have hopens : OpensLine ['h', 'm', '\n'] := ⟨['h', 'm', '\n'], [], rfl, by simp, nofun⟩
  have hblanks : ∀ c ∈ ['\n', '\t'], isBlank c = true :=
    List.forall_mem_cons.2 ⟨by decide, List.forall_mem_singleton.2 (by decide)⟩
  exact ⟨hlines, (hread script script' hlines).1, (hread script script' hlines).2,
    by decide +kernel, by decide +kernel, hinsert _ _ _ hblanks (.inl hopens)⟩

end Script

end Colloquy
