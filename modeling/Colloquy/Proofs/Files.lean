import Colloquy.Files

/-!
# Files are read back

Putting a file makes folders of the places above it and of no other ones (`isFolder_put`), so a path
leads where it led before, and a text that was written to a path is what reading the path gives. Any
path can be written to that leads to a place where there is no folder, be it relative or absolute,
inside the working directory or above it (`isSome_write?_iff`). Only the null device keeps nothing.
-/

namespace Colloquy

namespace FileTree

variable {t t' : FileTree} {place here : Place} {bytes : ByteArray} {path text : String}

@[simp] theorem home_put (t : FileTree) (place : Place) (bytes : ByteArray) :
    (t.put place bytes).home = t.home := by
  unfold put
  split <;> rfl

/-- A folder is one because of a listed folder or because of a file below it. -/
theorem isFolder_iff : t.isFolder here = true ↔
    (∃ folder ∈ t.home :: t.folders, here.isPrefixOf folder = true) ∨
      ∃ file ∈ t.entries, here.isPrefixOf file.1 = true ∧ file.1 ≠ here := by
  simp only [isFolder, Bool.or_eq_true, List.any_eq_true, Bool.and_eq_true, decide_eq_true_eq]

/-- **The folders after a file was put** are those before, and the places above the file. -/
theorem isFolder_put (t : FileTree) (place here : Place) (bytes : ByteArray) :
    (t.put place bytes).isFolder here = true ↔
      t.isFolder here = true ∨ here.isPrefixOf place = true ∧ place ≠ here := by
  by_cases hnull : place = nullDevice
  · -- the null device is among the entries before
    rw [put, if_pos hnull, or_iff_left_of_imp]
    intro habove
    refine isFolder_iff.2 (.inr ⟨(nullDevice, .empty), List.mem_cons_self, ?_⟩)
    rwa [hnull] at habove
  · have hentry : ∀ file : Place × ByteArray, file ∈ (t.put place bytes).entries ↔
        file = (nullDevice, .empty) ∨ file = (place, bytes) ∨ file ∈ t.files ∧ file.1 ≠ place := by
      intro file
      rw [put, if_neg hnull]
      simp only [entries, List.mem_cons, List.mem_filter, decide_eq_true_eq]
    have hfolders : (t.put place bytes).folders = t.folders := by rw [put, if_neg hnull]
    rw [isFolder_iff, isFolder_iff, home_put, hfolders, or_assoc]
    refine or_congr_right ⟨?_, ?_⟩
    · rintro ⟨file, hmem, hfile⟩
      rcases (hentry file).1 hmem with rfl | rfl | ⟨hmem, -⟩
      · exact .inl ⟨_, List.mem_cons_self, hfile⟩
      · exact .inr hfile
      · exact .inl ⟨file, List.mem_cons_of_mem _ hmem, hfile⟩
    · rintro (⟨file, hmem, hfile⟩ | habove)
      · by_cases hplace : file.1 = place
        · exact ⟨(place, bytes), (hentry _).2 (.inr (.inl rfl)), hplace ▸ hfile⟩
        · refine ⟨file, (hentry file).2 ?_, hfile⟩
          exact (List.mem_cons.1 hmem).imp_right fun hmem => .inr ⟨hmem, hplace⟩
      · exact ⟨(place, bytes), (hentry _).2 (.inr (.inl rfl)), habove⟩

/-- Names lead where they led before a file was put. -/
theorem walk_put {there : Place} {names : List String} (h : t.walk here names = .ok there)
    (place : Place) (bytes : ByteArray) : (t.put place bytes).walk here names = .ok there := by
  have hput : ∀ {here}, ¬ (!t.isFolder here) = true →
      ¬ (!(t.put place bytes).isFolder here) = true := by
    intro here hfolder
    have hkept : (t.put place bytes).isFolder here = true :=
      (isFolder_put t place here bytes).2 (.inl (by simpa using hfolder))
    simp [hkept]
  fun_induction walk t here names with
  | case1 here => exact h
  | case2 here name rest hfolder => cases h
  | case3 here name rest hfolder hname ih =>
    rw [walk, if_neg (hput hfolder), if_pos hname]
    exact ih h
  | case4 here rest hfolder hname ih =>
    rw [walk, if_neg (hput hfolder), if_neg hname, if_pos rfl]
    exact ih h
  | case5 here name rest hfolder hname hup hlong => cases h
  | case6 here name rest hfolder hname hup hlong ih =>
    rw [walk, if_neg (hput hfolder), if_neg hname, if_neg hup, if_neg hlong]
    exact ih h

/-- A path leads where it led before a file was put. -/
theorem locate_put {there : Place} (h : t.locate path = .ok there) (place : Place)
    (bytes : ByteArray) : (t.put place bytes).locate path = .ok there := by
  unfold locate at h ⊢
  split at h
  · cases h
  · rename_i hnull
    split at h
    · cases h
    · rename_i hempty
      split at h
      · cases h
      · rename_i hlong
        rw [if_neg hnull, if_neg hempty, if_neg hlong, home_put]
        exact walk_put h place bytes

/-- The bytes of a text are read as the text. -/
theorem fromUTF8?_toByteArray (text : String) :
    String.fromUTF8? text.toByteArray = some text :=
  dif_pos text.isValidUTF8

theorem write?_eq_some_iff : t.write? path text = some t' ↔
    ∃ place, t.locate path = .ok place ∧ t.isFolder place = false ∧
      t' = t.put place text.toUTF8 := by
  constructor
  · intro h
    unfold write? at h
    split at h
    · cases h
    · next place hlocate =>
      obtain ⟨hfolder, hput⟩ := Option.ite_none_left_eq_some.1 h
      exact ⟨place, hlocate, by simpa using hfolder, (Option.some.inj hput).symm⟩
  · rintro ⟨place, hlocate, hfolder, rfl⟩
    simp only [write?, hlocate, hfolder, Bool.false_eq_true, if_false]

/-- **What can be written to**: any path that leads to a place where there is no folder. -/
theorem isSome_write?_iff :
    (t.write? path text).isSome ↔ ∃ place, t.locate path = .ok place ∧ t.isFolder place = false := by
  rw [Option.isSome_iff_exists]
  constructor
  · rintro ⟨t', h⟩
    obtain ⟨place, hlocate, hfolder, -⟩ := write?_eq_some_iff.1 h
    exact ⟨place, hlocate, hfolder⟩
  · rintro ⟨place, hlocate, hfolder⟩
    exact ⟨_, write?_eq_some_iff.2 ⟨place, hlocate, hfolder, rfl⟩⟩

/-- **A text that is written to a path is what the path reads as**, unless it is that of the null
device. -/
theorem read_of_write? (h : t.write? path text = some t') (hkept : t.locate path ≠ .ok nullDevice) :
    t'.read path = .ok text := by
  obtain ⟨place, hlocate, hfolder, rfl⟩ := write?_eq_some_iff.1 h
  have hplace : place ≠ nullDevice := by
    rintro rfl
    exact hkept hlocate
  have hfile : (t.put place text.toUTF8).isFolder place = false := by
    rw [Bool.eq_false_iff, Ne, isFolder_put, hfolder]
    simp
  have hbytes : (t.put place text.toUTF8).contents? place = some text.toUTF8 := by
    rw [contents?_put hplace, if_pos rfl]
  have htext : String.fromUTF8? text.toUTF8 = some text := fromUTF8?_toByteArray text
  simp only [read, locate_put hlocate, hfile, hbytes, htext, Bool.false_eq_true, if_false]

/-- The null device reads as empty, where it is not taken for a folder. -/
theorem read_nullDevice (h : t.locate path = .ok nullDevice) :
    t.read path = .ok "" ∨ t.read path = .error .isFolder := by
  have hempty : t.contents? nullDevice = some .empty := List.lookup_cons_self
  have htext : String.fromUTF8? .empty = some "" := by decide +kernel
  cases hfolder : t.isFolder nullDevice
  · exact .inl (by simp [read, h, hfolder, hempty, htext])
  · exact .inr (by simp [read, h, hfolder])

end FileTree

end Colloquy
