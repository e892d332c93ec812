import Colloquy.Proofs.Script.Span
import Colloquy.Proofs.Script.Stray

/-!
# Insertions — a line put into a script

A line that is put into a script as a line of its own adds one row, and moves the rows behind it:
their lines have numbers higher by one, and they start as many bytes later as were put in
(`OwnLine.rows`). If the line has none of the forms of a line and stands in a section behind more
than leading annotations, the dialogue is the same as without it, and so are the diagnostics, apart
from one about this line and from the places of those behind it (`stray_line_isolated`).
-/

namespace Colloquy

open Text

/-! ## Places behind the insertion -/

/-- The row one line and so many bytes further down, unless it starts in front of a place. -/
def Row.makeRoom (place size : Nat) (r : Row) : Row :=
  if r.start < place then r else { r with number := r.number + 1, start := r.start + size }

/-- The diagnostic one line and so many bytes further down, unless it starts in front of a place. -/
def Diagnostic.makeRoom (place size : Nat) (d : Diagnostic) : Diagnostic :=
  if d.start < place then d
  else { d with line := d.line + 1, start := d.start + size, stop := d.stop + size }

/-- The row of a line that stands behind a text. -/
def Row.behind (front line : List Char) : Row :=
  ⟨front.count '\n' + 1, byteSize front + byteSize (line.takeWhile isBlank), trim line⟩

namespace Row

variable {place size : Nat} {r : Row}

theorem makeRoom_of_lt (h : r.start < place) : r.makeRoom place size = r := if_pos h

theorem text_makeRoom (place size : Nat) (r : Row) : (r.makeRoom place size).text = r.text := by
  unfold makeRoom
  split <;> rfl

/-- No row passes the place. -/
theorem start_makeRoom_lt_iff : (r.makeRoom place size).start < place ↔ r.start < place := by
  unfold makeRoom
  split
  · exact Iff.rfl
  · next hbehind => exact iff_of_false (fun h => hbehind (Nat.lt_of_add_right_lt h)) hbehind

theorem le_start_makeRoom_iff : place ≤ (r.makeRoom place size).start ↔ place ≤ r.start := by
  rw [← Nat.not_lt, start_makeRoom_lt_iff, Nat.not_lt]

end Row

theorem Remark.diagnostic_move_makeRoom (place size : Nat) (r : Remark) :
    (r.move (Row.makeRoom place size)).diagnostic = r.diagnostic.makeRoom place size := by
  unfold Remark.diagnostic Remark.move Row.makeRoom Diagnostic.makeRoom Row.stop
  dsimp only
  split
  · rfl
  · simp only [Nat.add_right_comm]

/-- A line between two texts that is a line of its own. If no line break is in front of it or behind
it, one comes along, as `opening` or as `closing`. -/
structure OwnLine (front opening line closing back : List Char) : Prop where
  oneLine : '\n' ∉ line
  opens : front.getLast? = some '\n' ∧ opening = [] ∨ opening = ['\n'] ∧ back = []
  closes : closing = ['\n'] ∨ closing = [] ∧ back = []

namespace Script

/-! ## Rows -/

/-- Behind a line break rows are counted on. -/
theorem ofLines_pieces_append {front : List Char} (h : ∀ c ∈ front.getLast?, c = '\n')
    (rest : List Char) (number offset : Nat) :
    Row.ofLines number offset (pieces '\n' (front ++ rest)) =
      Row.ofLines number offset (pieces '\n' front) ++
        Row.ofLines (number + front.count '\n') (offset + byteSize front) (pieces '\n' rest) := by
  induction front using line_induction generalizing number offset with
  | last line hline =>
    -- there is no line break, so nothing is in front
    obtain rfl : line = [] := by
      rcases List.eq_nil_or_concat line with hnil | ⟨cs, c, hline'⟩
      · exact hnil
      · subst hline'
        exact absurd (h c (by simp)) (fun hc => hline (by simp [hc]))
    rfl
  | step line later hline ih =>
    have hlater : ∀ c ∈ later.getLast?, c = '\n' := fun c hc =>
      h c (by simp [List.getLast?_cons, Option.mem_def.1 hc])
    rw [List.append_assoc, List.cons_append, pieces_append hline, pieces_append hline, Row.ofLines,
      Row.ofLines, ih hlater, List.append_assoc]
    have hcount : (line ++ '\n' :: later).count '\n' = 1 + later.count '\n' := by
      simp [List.count_eq_zero.2 hline, Nat.add_comm]
    have hsize : byteSize (line ++ '\n' :: later) = byteSize line + 1 + byteSize later := by
      rw [byteSize_append, byteSize_cons, ← Nat.add_assoc]
      rfl
    rw [hcount, hsize, ← Nat.add_assoc, ← Nat.add_assoc, ← Nat.add_assoc]

theorem ofScript_append {front : List Char} (h : front.getLast? = some '\n') (rest : List Char) :
    Row.ofScript (front ++ rest) = Row.ofScript front ++
      Row.ofLines (front.count '\n' + 1) (byteSize front) (pieces '\n' rest) := by
  have hbreak : ∀ c ∈ front.getLast?, c = '\n' := fun c hc =>
    (Option.some.inj (h.symm.trans hc)).symm
  rw [Row.ofScript, ofLines_pieces_append hbreak, Nat.add_comm 1, Nat.zero_add, Row.ofScript]

/-- A line break at the end adds no row. -/
theorem ofScript_append_newline (front : List Char) :
    Row.ofScript (front ++ ['\n']) = Row.ofScript front := by
  have hblank (ls : List (List Char)) (number offset : Nat) :
      Row.ofLines number offset (ls ++ [[]]) = Row.ofLines number offset ls := by
    induction ls generalizing number offset with
    | nil => rfl
    | cons line ls ih => rw [List.cons_append, Row.ofLines, ih, Row.ofLines]
  rw [Row.ofScript, pieces_append_sep]
  exact hblank _ 1 0

/-- Rows of lines start behind their offset. -/
theorem le_start_of_mem_ofLines {number offset : Nat} {ls : List (List Char)} {row : Row}
    (h : row ∈ Row.ofLines number offset ls) : offset ≤ row.start := by
  induction ls generalizing number offset with
  | nil => exact absurd h List.not_mem_nil
  | cons line ls ih =>
    rcases List.mem_append.1 h with h | h
    · obtain ⟨-, hrow⟩ := Option.ite_none_left_eq_some.1 (Option.mem_toList.1 h)
      obtain rfl := Option.some.inj hrow
      exact Nat.le_add_right _ _
    · exact Nat.le_trans (by omega) (ih h)

/-- **Rows of lines move** with their number and their offset. -/
theorem ofLines_makeRoom {place offset : Nat} (h : place ≤ offset) (number size : Nat)
    (ls : List (List Char)) : Row.ofLines (number + 1) (offset + size) ls =
      (Row.ofLines number offset ls).map (Row.makeRoom place size) := by
  induction ls generalizing number offset with
  | nil => rfl
  | cons line ls ih =>
    have hline : Row.ofLine (number + 1) (offset + size) line =
        (Row.ofLine number offset line).map (Row.makeRoom place size) := by
      unfold Row.ofLine
      split
      · rfl
      · rw [Option.map_some, Row.makeRoom, if_neg (by dsimp only; omega), Nat.add_right_comm]
    have hnext : offset + size + byteSize line + 1 = offset + byteSize line + 1 + size := by omega
    rw [Row.ofLines, Row.ofLines, hline, hnext, ih (by omega), List.map_append, Option.toList_map]

/-- Rows in front of a place start in front of it. -/
theorem start_lt_of_mem_ofScript {front : List Char} {row : Row} (h : row ∈ Row.ofScript front) :
    row.start < byteSize front := by
  obtain ⟨before, after, hfront, hplaced⟩ := placed_of_mem_ofScript h
  obtain ⟨c, cs, htext⟩ := List.exists_cons_of_ne_nil (clean_of_mem_ofScript h).filled
  have hpos := c.utf8Size_pos
  rw [hplaced.start, hfront, htext]
  simp only [byteSize_append, byteSize_cons]
  omega

/-- A line of its own makes a row, and moves the rows behind it. -/
theorem ofLines_ownLine {line closing back : List Char} (hline : '\n' ∉ line)
    (hfilled : trim line ≠ []) (hcloses : closing = ['\n'] ∨ closing = [] ∧ back = [])
    (number offset : Nat) :
    Row.ofLines number offset (pieces '\n' (line ++ closing ++ back)) =
      ⟨number, offset + byteSize (line.takeWhile isBlank), trim line⟩ ::
        Row.ofLines (number + 1) (offset + byteSize (line ++ closing)) (pieces '\n' back) := by
  have hrow : Row.ofLine number offset line =
      some ⟨number, offset + byteSize (line.takeWhile isBlank), trim line⟩ := if_neg hfilled
  rcases hcloses with rfl | ⟨rfl, rfl⟩
  · have hsize : byteSize (line ++ ['\n']) = byteSize line + 1 := byteSize_append _ _
    rw [List.append_assoc, List.singleton_append, pieces_append hline, Row.ofLines, hrow, hsize,
      ← Nat.add_assoc]
    rfl
  · rw [List.append_nil, List.append_nil, pieces_of_not_mem hline, Row.ofLines, hrow]
    rfl

end Script

namespace OwnLine

variable {front opening line closing back : List Char}

/-- **A line of its own adds one row to a script** and moves those behind it. -/
theorem rows (h : OwnLine front opening line closing back) (hfilled : trim line ≠ []) :
    ∃ rest, Row.ofScript (front ++ back) = Row.ofScript front ++ rest ∧
      (∀ row ∈ rest, byteSize front ≤ row.start) ∧
      Row.ofScript (front ++ (opening ++ line ++ closing) ++ back) =
        Row.ofScript front ++ Row.behind (front ++ opening) line ::
          rest.map (Row.makeRoom (byteSize front) (byteSize (opening ++ line ++ closing))) := by
  rcases h.opens with ⟨hfront, rfl⟩ | ⟨rfl, rfl⟩
  · refine ⟨_, Script.ofScript_append hfront back, fun row => Script.le_start_of_mem_ofLines, ?_⟩
    rw [List.nil_append, List.append_nil, List.append_assoc, Script.ofScript_append hfront,
      Script.ofLines_ownLine h.oneLine hfilled h.closes,
      Script.ofLines_makeRoom (Nat.le_refl (byteSize front)), Row.behind, byteSize_append]
  · refine ⟨[], by simp, nofun, ?_⟩
    have hbreak : (front ++ ['\n']).getLast? = some '\n' := by simp
    have hnone (number offset : Nat) : Row.ofLines number offset (pieces '\n' []) = [] := rfl
    rw [List.append_nil, List.append_assoc ['\n'], ← List.append_assoc,
      Script.ofScript_append hbreak, Script.ofScript_append_newline,
      ← List.append_nil (line ++ closing), Script.ofLines_ownLine h.oneLine hfilled h.closes,
      hnone]
    rfl

end OwnLine

namespace Script

/-! ## Stray lines -/

/-- The diagnostics of a script that is read are those of its remarks. -/
theorem read_and_diagnostics_ofList {hero : String} {cs : List Char} {g : Graph}
    {notes : List Remark} (h : readRows (lowercase hero) (Row.ofScript cs) = ⟨.ok g, notes⟩) :
    (read hero (String.ofList cs)).value = .ok g ∧
      diagnostics hero (String.ofList cs) = notes.map Remark.diagnostic := by
  have hread : read hero (String.ofList cs) = ⟨.ok g, notes⟩ := by
    rw [read, String.toList_ofList, h]
  exact ⟨by rw [hread], by rw [diagnostics, hread]⟩

section

variable {rows loose rest : List Row} {found : List Section} {s : Section}
variable {place size : Nat}

/-- **A stray row between two lists of rows**, of which the second one moves. -/
theorem readRows_insert (hero : String) {stray : Row} (h : IsStray stray.text)
    (hcut : Cut rows loose (found ++ [s])) {row : Row} (hrow : row ∈ s.body)
    (hnote : row.isAnnotation = false)
    (hfront : ∀ row ∈ rows, row.start < place) (hbehind : ∀ row ∈ rest, place ≤ row.start) :
    ∃ g before after, readRows hero (rows ++ rest) = ⟨.ok g, before ++ after⟩ ∧
      readRows hero (rows ++ stray :: rest.map (Row.makeRoom place size)) =
        ⟨.ok g, before ++ ⟨stray, strayFlaw s.body⟩ ::
          after.map (Remark.move (Row.makeRoom place size))⟩ ∧
      (∀ n ∈ before, n.row.start < place) ∧
      ∀ n ∈ after, place ≤ n.row.start ∨ n = repeatedRemark s := by
  -- rows in front of the place do not move, and neither do remarks on them
  have hrows : rows.map (Row.makeRoom place size) = rows :=
    (List.map_congr_left fun row hrow => Row.makeRoom_of_lt (hfront row hrow)).trans
      (List.map_id' rows)
  have hstays {n : Remark} (hn : n.row.start < place) : n.move (Row.makeRoom place size) = n := by
    rw [Remark.move, Row.makeRoom_of_lt hn]
  -- the rows are read as moved, so that the stray row has its place among them
  have hmove := readRows_move (Row.text_makeRoom place size) hero (rows ++ rest)
  have hone := oneMore_readRows hero h hcut hrow hnote
    (rest.map (Row.makeRoom place size))
  rw [List.map_append, hrows] at hmove
  rw [hmove] at hone
  obtain ⟨g, hg⟩ := exists_graph_readRows hero hcut hrow rest
  obtain ⟨_, _, hnotes, hnotes', hbefore, hafter⟩ := hone.notes
  obtain ⟨before, after, hsplit, rfl, rfl⟩ := List.map_eq_append_iff.1 hnotes
  have hfirst : ∀ n ∈ before, n.row.start < place := fun n hn =>
    Row.start_makeRoom_lt_iff.1 (hfront _ (hbefore _ (List.mem_map_of_mem hn)))
  have hsame : before.map (Remark.move (Row.makeRoom place size)) = before :=
    (List.map_congr_left fun n hn => hstays (hfirst n hn)).trans (List.map_id' before)
  rw [hsame] at hnotes'
  refine ⟨g, before, after, congrArg₂ Noted.mk hg hsplit,
    congrArg₂ Noted.mk (hone.value.trans hg) hnotes', hfirst, fun n hn => ?_⟩
  rcases hafter _ (List.mem_map_of_mem hn) with hrow | hrepeated
  · obtain ⟨row, hrow, hmoved⟩ := List.mem_map.1 hrow
    have hplace : place ≤ (n.move (Row.makeRoom place size)).row.start := by
      rw [← hmoved]
      exact Row.le_start_makeRoom_iff.2 (hbehind row hrow)
    exact .inl (Row.le_start_makeRoom_iff.1 hplace)
  · -- the heading is in front of the place, so the remark on it does not move
    have hheading : (n.move (Row.makeRoom place size)).row.start < place := by
      rw [hrepeated]
      exact hfront _ (hcut.mem_heading (List.mem_append_right found List.mem_cons_self))
    rw [hstays (Row.start_makeRoom_lt_iff.1 hheading)] at hrepeated
    exact .inr hrepeated

end

/-- **Stray lines are isolated.** Put a line that has none of the forms of a line into a script as a
line of its own, inside a section and behind more than leading annotations. The dialogue is the same
as before. There is one diagnostic more, on this line. The others stay as they are and in the same
order, but those behind the line move down with what they are about. All diagnostics before the new
one are about lines in front of it, and all after it are about lines behind it, apart from one that
the section repeats the name of an earlier one. -/
theorem stray_line_isolated (hero : String) {front opening line closing back : List Char}
    (hown : OwnLine front opening line closing back) (hstray : IsStray (trim line))
    {loose : List Row} {found : List Section} {s : Section}
    (hcut : Cut (Row.ofScript front) loose (found ++ [s])) {row : Row} (hrow : row ∈ s.body)
    (hnote : row.text.head? ≠ some '#') :
    let inserted := opening ++ line ++ closing
    let script := String.ofList (front ++ back)
    let script' := String.ofList (front ++ inserted ++ back)
    let stray : Remark := ⟨Row.behind (front ++ opening) line, strayFlaw s.body⟩
    ∃ g before after, (read hero script).value = .ok g ∧ (read hero script').value = .ok g ∧
      diagnostics hero script = before ++ after ∧
      diagnostics hero script' = before ++ stray.diagnostic ::
        after.map (Diagnostic.makeRoom (byteSize front) (byteSize inserted)) ∧
      (∀ d ∈ before, d.start < byteSize front) ∧
      ∀ d ∈ after, byteSize front ≤ d.start ∨ d = (repeatedRemark s).diagnostic := by
  intro inserted script script' stray
  have hnote' : row.isAnnotation = false := decide_eq_false hnote
  obtain ⟨rest, hrows, hbehind, hrows'⟩ := hown.rows hstray.filled
  have hstray' : IsStray (Row.behind (front ++ opening) line).text := hstray
  obtain ⟨g, before, after, hread, hread', hbefore, hafter⟩ :=
    readRows_insert (lowercase hero) hstray' hcut hrow hnote'
      (fun _ => start_lt_of_mem_ofScript) hbehind
  rw [← hrows] at hread
  rw [← hrows'] at hread'
  obtain ⟨hvalue, hdiagnostics⟩ := read_and_diagnostics_ofList hread
  obtain ⟨hvalue', hdiagnostics'⟩ := read_and_diagnostics_ofList hread'
  have hmoved : (after.map (Remark.move (Row.makeRoom (byteSize front) (byteSize inserted)))).map
      Remark.diagnostic =
        (after.map Remark.diagnostic).map
          (Diagnostic.makeRoom (byteSize front) (byteSize inserted)) := by
    rw [List.map_map, List.map_map]
    exact List.map_congr_left fun n _ => n.diagnostic_move_makeRoom _ _
  refine ⟨g, before.map Remark.diagnostic, after.map Remark.diagnostic, hvalue, hvalue', ?_, ?_,
    List.forall_mem_map.2 hbefore, List.forall_mem_map.2 fun n hn => ?_⟩
  · rw [hdiagnostics, List.map_append]
  · rw [hdiagnostics', List.map_append, List.map_cons, hmoved]
  · exact (hafter n hn).imp_right (congrArg Remark.diagnostic)

/-- The line goes into a choice of a section whose name was there before. -/
theorem stray_line_isolated_hm :
    let front := "=== start ===\nbob: Hi.\n=== start ===\nbob: Yes?\n- Ask\n# zap\n".toList
    let line := "\u3000hm?".toList
    let back := ">\nnate: Well.".toList
    let script := String.ofList (front ++ back)
    let script' := String.ofList (front ++ ([] ++ line ++ ['\n']) ++ back)
    let zap := Flaw.unknownChoiceTag "zap"
    let repeated : Diagnostic := ⟨.warning, 3, 23, 36, (Flaw.repeatedSection "start").message, none⟩
    IsStray (trim line) ∧ (read "Nate" script').value = (read "Nate" script).value ∧
      diagnostics "Nate" script = [⟨.warning, 6, 53, 58, zap.message, none⟩,
        ⟨.warning, 7, 59, 60, Flaw.noTarget.message, none⟩, repeated] ∧
      diagnostics "Nate" script' = [⟨.warning, 6, 53, 58, zap.message, none⟩,
        ⟨.warning, 7, 62, 65, Flaw.unrecognized.message, none⟩,
        ⟨.warning, 8, 66, 67, Flaw.noTarget.message, none⟩, repeated] := by
  intro front line back script script' zap repeated
  have hown : OwnLine front [] line ['\n'] back :=
    ⟨by decide, .inl ⟨by decide, rfl⟩, .inl rfl⟩
  have hstray : IsStray (trim line) := by decide +kernel
  have hcut : Cut (Row.ofScript front) []
      ([⟨"start".toList, ⟨1, 0, "=== start ===".toList⟩, [⟨2, 14, "bob: Hi.".toList⟩]⟩] ++
        [⟨"start".toList, ⟨3, 23, "=== start ===".toList⟩, [⟨4, 37, "bob: Yes?".toList⟩,
          ⟨5, 47, "- Ask".toList⟩, ⟨6, 53, "# zap".toList⟩]⟩]) := cut_iff.2 (by decide +kernel)
  obtain ⟨g, before, after, hread, hread', -⟩ := stray_line_isolated "Nate" hown hstray hcut
    List.mem_cons_self (by decide)
  exact ⟨hstray, hread'.trans hread.symm, by decide +kernel, by decide +kernel⟩

end Script

end Colloquy
