import Colloquy.Proofs.Script.Layout
import Colloquy.Proofs.Script.Outcome
import Colloquy.Proofs.Text.ByteOrder

/-!
# Spans — where the diagnostics of a script point

A row of a script knows its place: as many bytes as stand in front of its text, and the number of
its line (`placed_of_mem_ofScript`). Every remark is on a row of the script, so a warning points at
the text of a whole line, from one boundary between characters to another. A failure points at the
first line. Both are said together in `diagnostics_in_place`.
-/

namespace Colloquy

namespace Text

/-! ## Bytes -/

theorem bytes_append (s t : String) : bytes (s ++ t) = bytes s ++ bytes t := by
  rw [bytes_eq_flatMap, String.toList_append, List.flatMap_append, ← bytes_eq_flatMap,
    ← bytes_eq_flatMap]

theorem length_bytes (s : String) : (bytes s).length = s.utf8ByteSize := String.size_toByteArray

/-- The size of characters is that of the text they make up. -/
theorem utf8ByteSize_ofList (cs : List Char) : (String.ofList cs).utf8ByteSize = byteSize cs := by
  rw [← length_bytes, bytes_eq_flatMap, String.toList_ofList]
  induction cs with
  | nil => rfl
  | cons c cs ih =>
    rw [List.flatMap_cons, List.length_append, String.length_utf8EncodeChar, ih, byteSize_cons]

/-- The bytes of a script from `start` up to `stop` are a text, and no character is cut. -/
structure IsTextAt (script : String) (start stop : Nat) (text : String) : Prop where
  startBoundary : String.Pos.Raw.IsValid script ⟨start⟩
  stopBoundary : String.Pos.Raw.IsValid script ⟨stop⟩
  ordered : start ≤ stop
  within : stop ≤ script.utf8ByteSize
  bytes : (bytes script).extract start stop = bytes text

/-- **A part of a script is the text at its place.** -/
theorem isTextAt_append (front text back : String) :
    IsTextAt (front ++ text ++ back) front.utf8ByteSize
      (front.utf8ByteSize + text.utf8ByteSize) text where
  startBoundary := String.Pos.Raw.isValid_iff_exists_append.2
    ⟨front, text ++ back, String.append_assoc, rfl⟩
  stopBoundary := String.Pos.Raw.isValid_iff_exists_append.2
    ⟨front ++ text, back, rfl, by rw [String.rawEndPos, String.utf8ByteSize_append]⟩
  ordered := Nat.le_add_right _ _
  within := by
    rw [String.utf8ByteSize_append, String.utf8ByteSize_append]
    exact Nat.le_add_right _ _
  bytes := by
    rw [List.extract_eq_take_drop, Nat.add_sub_cancel_left, bytes_append, bytes_append,
      List.append_assoc, ← length_bytes front, List.drop_left, ← length_bytes text, List.take_left]

/-! ## Blanks around a text -/

/-- Blanks stand in front of a trimmed text and behind it. -/
theorem exists_trim (cs : List Char) : ∃ after, (∀ c ∈ after, isBlank c = true) ∧
    cs = cs.takeWhile isBlank ++ (trim cs ++ after) := by
  refine ⟨((trimStart cs).reverse.takeWhile isBlank).reverse, fun c hc => ?_, ?_⟩
  · exact List.mem_takeWhile_imp (List.mem_reverse.1 hc)
  · rw [trim, trimEnd, ← List.reverse_append, List.takeWhile_append_dropWhile, List.reverse_reverse,
      trimStart, List.takeWhile_append_dropWhile]

end Text

open Text

/-! ## Rows -/

/-- The row has its place between a text in front of it and one behind it. -/
structure Row.Placed (row : Row) (front back : List Char) : Prop where
  start : row.start = byteSize front
  number : row.number = front.count '\n' + 1
  /-- Only blanks stand in front of it on its line. -/
  opens : OpensLine front
  /-- Only blanks stand behind it on its line. -/
  closes : ClosesLine back

namespace Script

/-- A line that is not blank makes a row in its place. -/
theorem placed_of_mem_ofLine {earlier line later : List Char} (hline : '\n' ∉ line)
    (hearlier : ∀ c ∈ earlier.getLast?, c = '\n') (hlater : ∀ c ∈ later.head?, c = '\n') {row : Row}
    (h : Row.ofLine (earlier.count '\n' + 1) (byteSize earlier) line = some row) :
    ∃ front back, earlier ++ line ++ later = front ++ row.text ++ back ∧ row.Placed front back := by
  obtain ⟨-, hrow⟩ := Option.ite_none_left_eq_some.1 h
  obtain rfl := Option.some.inj hrow
  obtain ⟨after, hafter, hparts⟩ := exists_trim line
  have hbefore : ∀ c ∈ line.takeWhile isBlank, isBlank c = true := fun c => List.mem_takeWhile_imp
  have hbreaks : (line.takeWhile isBlank).count '\n' = 0 :=
    List.count_eq_zero.2 fun hc => hline ((List.takeWhile_sublist _).subset hc)
  refine ⟨earlier ++ line.takeWhile isBlank, after ++ later, ?_, ?_, ?_, ?_, ?_⟩
  · conv_lhs => rw [hparts]
    simp only [List.append_assoc]
  · exact (byteSize_append _ _).symm
  · rw [List.count_append, hbreaks, Nat.add_zero]
  · exact ⟨earlier, line.takeWhile isBlank, rfl, hearlier, hbefore⟩
  · exact ⟨after, later, rfl, hafter, hlater⟩

/-- **Every row of a script has its place in it.** -/
theorem placed_of_mem_ofScript {script : List Char} {row : Row} (h : row ∈ Row.ofScript script) :
    ∃ front back, script = front ++ row.text ++ back ∧ row.Placed front back := by
  -- the lines that are left stand behind the text that was taken apart before
  have hlines (rest : List Char) : ∀ earlier : List Char, (∀ c ∈ earlier.getLast?, c = '\n') →
      row ∈ Row.ofLines (earlier.count '\n' + 1) (byteSize earlier) (pieces '\n' rest) →
      ∃ front back, earlier ++ rest = front ++ row.text ++ back ∧ row.Placed front back := by
    induction rest using line_induction with
    | last line hline =>
      intro earlier hearlier hrow
      rw [pieces_of_not_mem hline] at hrow
      rcases List.mem_append.1 hrow with hrow | hrow
      · have hlater : ∀ c ∈ ([] : List Char).head?, c = '\n' := nofun
        have := placed_of_mem_ofLine hline hearlier hlater (Option.mem_toList.1 hrow)
        rwa [List.append_nil] at this
      · exact absurd hrow List.not_mem_nil
    | step line rest hline ih =>
      intro earlier hearlier hrow
      rw [pieces_append hline] at hrow
      rcases List.mem_append.1 hrow with hrow | hrow
      · have hlater : ∀ c ∈ ('\n' :: rest).head?, c = '\n' := fun c hc => (Option.some.inj hc).symm
        have := placed_of_mem_ofLine hline hearlier hlater (Option.mem_toList.1 hrow)
        rwa [List.append_assoc] at this
      · have hnumber : (earlier ++ line ++ ['\n']).count '\n' + 1 =
            earlier.count '\n' + 1 + 1 := by
          simp [List.count_eq_zero.2 hline]
        have hoffset : byteSize (earlier ++ line ++ ['\n']) =
            byteSize earlier + byteSize line + 1 := by
          simp only [byteSize_append, byteSize_cons, byteSize_nil]
          rfl
        have := ih (earlier ++ line ++ ['\n']) (by simp) (by rwa [hnumber, hoffset])
        rwa [List.append_assoc, List.append_assoc] at this
  exact hlines script [] nofun h

/-- **Every remark is on a row of the script.** -/
theorem row_mem_of_mem_notes {hero script : String} {r : Remark}
    (h : r ∈ (read hero script).notes) :
    r.row ∈ Row.ofScript script.toList := by
  have hcut := cut_sections (Row.ofScript script.toList)
  rw [read, readRows_of_cut _ hcut] at h
  rw [← hcut.whole]
  rcases List.mem_append.1 h with hloose | hsection
  · obtain ⟨row, hrow, rfl⟩ := List.mem_map.1 hloose
    exact List.mem_append_left _ hrow
  · exact List.mem_append_right _ (row_mem_of_mem_readSections hsection)

/-! ## Failures -/

/-- The first line of a script is what it starts with, up to a line break at most. -/
theorem exists_firstLine (script : List Char) : ∃ back,
    script = ScriptError.firstLine script ++ back ∧ '\n' ∉ ScriptError.firstLine script := by
  unfold ScriptError.firstLine
  split
  · next line rest hcut =>
    obtain ⟨hscript, hline⟩ := cut_eq_some hcut
    split
    · next front hreverse =>
      obtain rfl : line = front.reverse ++ ['\r'] := by
        rw [← List.reverse_reverse line, hreverse, List.reverse_cons]
      rw [List.append_assoc] at hscript
      exact ⟨_, hscript, fun hc => hline (List.mem_append_left _ hc)⟩
    · exact ⟨_, hscript, hline⟩
  · next hcut => exact ⟨[], (List.append_nil script).symm, cut_eq_none.1 hcut⟩

end Script

/-! ## Diagnostics -/

namespace Diagnostic

/-- A diagnostic that points at a text of a script, between one in front of it and one behind
it. -/
structure PointsAt (d : Diagnostic) (script front text back : String) : Prop where
  whole : script = front ++ text ++ back
  start : d.start = front.utf8ByteSize
  range : IsTextAt script d.start d.stop text

/-- A diagnostic that points at a whole line of a script, trimmed, and tells its number. -/
structure PointsAtLine (d : Diagnostic) (script front text back : String) : Prop
    extends PointsAt d script front text back where
  line : d.line = front.toList.count '\n' + 1
  clean : Clean text.toList
  opens : OpensLine front.toList
  closes : ClosesLine back.toList

/-- A diagnostic points at a part of a script by the sizes of the parts. -/
theorem pointsAt_ofList {d : Diagnostic} {script : String} {front text back : List Char}
    (hwhole : script.toList = front ++ text ++ back) (hstart : d.start = byteSize front)
    (hstop : d.stop = d.start + byteSize text) :
    d.PointsAt script (String.ofList front) (String.ofList text) (String.ofList back) := by
  have hscript : script = String.ofList front ++ String.ofList text ++ String.ofList back := by
    rw [← String.ofList_append, ← String.ofList_append, ← hwhole, String.ofList_toList]
  rw [← utf8ByteSize_ofList] at hstart hstop
  refine ⟨hscript, hstart, ?_⟩
  rw [hstop, hstart, hscript]
  exact isTextAt_append _ _ _

end Diagnostic

namespace Script

/-- **A warning points at the row that it is about.** -/
theorem pointsAtLine_of_mem_notes {hero script : String} {r : Remark}
    (h : r ∈ (read hero script).notes) :
    ∃ front text back, r.diagnostic.PointsAtLine script front text back := by
  have hrow := row_mem_of_mem_notes h
  obtain ⟨front, back, hscript, hplaced⟩ := placed_of_mem_ofScript hrow
  refine ⟨_, _, _, ⟨Diagnostic.pointsAt_ofList hscript hplaced.start rfl, ?_, ?_, ?_, ?_⟩⟩
  · rw [String.toList_ofList]
    exact hplaced.number
  · rw [String.toList_ofList]
    exact clean_of_mem_ofScript hrow
  · rw [String.toList_ofList]
    exact hplaced.opens
  · rw [String.toList_ofList]
    exact hplaced.closes

/-- **A failure points at the first line.** -/
theorem pointsAt_diagnostic (e : ScriptError) (script : String) :
    ∃ text back, '\n' ∉ text.toList ∧
      (e.diagnostic script.toList).PointsAt script "" text back := by
  obtain ⟨back, hscript, hline⟩ := exists_firstLine script.toList
  have hwhole : script.toList = [] ++ ScriptError.firstLine script.toList ++ back := hscript
  refine ⟨_, _, ?_, Diagnostic.pointsAt_ofList hwhole rfl (Nat.zero_add _).symm⟩
  rwa [String.toList_ofList]

/-- **Diagnostics point at the right place.** If there is a dialogue, every diagnostic is a warning
that points at a whole line of the script, trimmed, and tells the number of this line. If there is
none, the failure is the only diagnostic. It is about line one and points at what the script starts
with, up to a line break at most. -/
theorem diagnostics_in_place (hero script : String) :
    (∀ g, (read hero script).value = .ok g → ∀ d ∈ diagnostics hero script,
      d.severity = .warning ∧ ∃ front text back, d.PointsAtLine script front text back) ∧
    ∀ e, (read hero script).value = .error e →
      let d := e.diagnostic script.toList
      diagnostics hero script = [d] ∧ d.severity = .error ∧ d.line = 1 ∧ d.start = 0 ∧
        ∃ text back, '\n' ∉ text.toList ∧ d.PointsAt script "" text back := by
  unfold diagnostics
  dsimp only
  refine ⟨fun g hg d hd => ?_, fun e he => ⟨?_, rfl, rfl, rfl, pointsAt_diagnostic e script⟩⟩
  · rw [hg] at hd
    obtain ⟨r, hr, rfl⟩ := List.mem_map.1 hd
    exact ⟨rfl, pointsAtLine_of_mem_notes hr⟩
  · rw [he]

/-- One script has a warning on its second line, which starts and ends with blanks of several bytes;
the other has no headings. -/
theorem diagnostics_in_place_blanks :
    let script := "=== start ===\r\n\u3000hm?\u00a0\r\n- Bye\n> END"
    let other := "Once upon a time.\r\nThe end."
    let warning : Diagnostic := ⟨.warning, 2, 18, 21, Flaw.unspokenIntro.message, none⟩
    let failure := ScriptError.noSections.diagnostic other.toList
    diagnostics "nate" script = [warning] ∧
      (∃ front text back, warning.PointsAtLine script front text back) ∧
      diagnostics "nate" other = [failure] ∧ failure.stop = 17 ∧
      ∃ text back, '\n' ∉ text.toList ∧ failure.PointsAt other "" text back := by
  intro script other warning failure
  have hread : (read "nate" script).value = .ok (TextMap.empty.insert "start"
      { choices := [{ text := "Bye", exit := true }] }) := by decide +kernel
  have hwarning : diagnostics "nate" script = [warning] := by decide +kernel
  have hfailure : (read "nate" other).value = .error .noSections := by decide +kernel
  have hplace := (diagnostics_in_place "nate" script).1 _ hread warning
    (hwarning ▸ List.mem_singleton_self warning)
  obtain ⟨htold, -, -, -, hfirst⟩ := (diagnostics_in_place "nate" other).2 _ hfailure
  exact ⟨hwarning, hplace.2, htold, by decide, hfirst⟩

end Script

end Colloquy
