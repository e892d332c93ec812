import Colloquy.Proofs.World.History

/-!
# Flag names — what a displayed name is read as

A written name is read as a group without dots and a name within the group, and displaying these two
joins them with a dot. Reading what was displayed trims the end of the name once more, and without
anything behind the dot the group is taken for a name (`read_display`). So a name is read back as it
was just if something is left of it and it does not end with a blank (`read_display_read`), and
displayed names lie in the order of their groups unless one group goes on from another one with a
character in front of the dot (`display_lt_display_iff`).
-/

namespace Colloquy

open Text

namespace FlagName

variable {key other : FlagName}

/-- A group as names are read: it is not empty, it starts with no blank and it has no dot. -/
structure Grouped (key : FlagName) : Prop where
  filled : key.group ≠ ""
  startsBare : StartsBare key.group.toList
  dotless : '.' ∉ key.group.toList

/-- A name within its group that stays as it is: it is not empty and it ends with no blank. -/
structure Settled (key : FlagName) : Prop where
  filled : key.name ≠ ""
  endsBare : EndsBare key.name.toList

theorem toList_display (key : FlagName) :
    key.display.toList = key.group.toList ++ '.' :: key.name.toList := by
  have hjoined : key.display = key.group ++ "." ++ key.name := rfl
  simp [hjoined]

/-- A displayed name is cut at the dot behind the group. -/
theorem cut_display (h : key.Grouped) :
    cut '.' key.display.toList = some (key.group.toList, key.name.toList) := by
  rw [toList_display, cut_append h.dotless]

/-- **Names with such groups are displayed differently.** -/
theorem display_injective (h : key.Grouped) (ho : other.Grouped)
    (heq : key.display = other.display) : key = other := by
  obtain ⟨g, n⟩ := key
  obtain ⟨g', n'⟩ := other
  have hcut := cut_display h
  rw [heq, cut_display ho, Option.some.injEq, Prod.mk.injEq, String.toList_inj,
    String.toList_inj] at hcut
  rw [FlagName.mk.injEq]
  exact ⟨hcut.1.symm, hcut.2.symm⟩

/-! ## Reading what was displayed -/

/-- **Every written name is read with such a group.** -/
theorem grouped_read (raw : String) : (read raw).Grouped := by
  unfold read
  dsimp only
  split
  · rename_i c group d name hcut
    obtain ⟨hwritten, hdotless⟩ := cut_eq_some hcut
    have hne : c :: group ≠ [] := List.cons_ne_nil c group
    have hstart : StartsBare (c :: group) := by
      rw [← startsBare_append hne ('.' :: d :: name), ← hwritten]
      exact startsBare_trim _
    refine ⟨?_, ?_, ?_⟩
    · simp [← String.toList_inj]
    · simpa using hstart
    · simpa using hdotless
  · have hmisc : misc ≠ "" ∧ Clean misc.toList ∧ '.' ∉ misc.toList := by decide
    exact ⟨hmisc.1, hmisc.2.1.startsBare, hmisc.2.2⟩

/-- A dot behind a text without dots is dropped. -/
theorem dropDots_append_dot {cs : List Char} (hne : cs ≠ []) (h : '.' ∉ cs) :
    dropDots (cs ++ ['.']) = cs := by
  obtain ⟨c, cs, rfl⟩ := List.exists_cons_of_ne_nil hne
  have hc : ¬ decide (c = '.') = true := by
    have hfirst : c ≠ '.' := fun heq => h (heq ▸ List.mem_cons_self)
    simpa using hfirst
  have hself := dropDots_eq_self h
  rw [dropDots, List.dropWhile_cons_of_neg (p := (· = '.')) hc] at hself
  rw [dropDots, List.cons_append, List.dropWhile_cons_of_neg (p := (· = '.')) hc,
    ← List.cons_append, List.reverse_append, List.reverse_singleton, List.singleton_append,
    List.dropWhile_cons_of_pos (by decide), hself]

/-- **What a displayed name is read as**: the name without the blanks at its end, and if nothing is
left of it, the group, taken for a flat name. -/
theorem read_display (h : key.Grouped) :
    read key.display =
      if trimEnd key.name.toList = [] then ⟨misc, key.group⟩
      else ⟨key.group, String.ofList (trimEnd key.name.toList)⟩ := by
  have hgroup : key.group.toList ≠ [] := mt String.toList_eq_nil_iff.1 h.filled
  have hdot : trim (key.group.toList ++ ['.']) = key.group.toList ++ ['.'] :=
    trim_eq_self ((startsBare_append hgroup _).2 h.startsBare)
      ((endsBare_append _ (List.cons_ne_nil _ _)).2 (by decide : Clean ['.']).endsBare)
  have hwritten : trim key.display.toList =
      key.group.toList ++ '.' :: trimEnd key.name.toList := by
    rw [toList_display, List.append_cons, trim_append (by simp) hdot, List.append_assoc,
      List.singleton_append]
  have hback : String.ofList key.group.toList = key.group := String.ofList_toList
  have hdropped := dropDots_append_dot hgroup h.dotless
  rw [read, hwritten, cut_append h.dotless]
  generalize key.group.toList = group at hgroup hback hdropped
  obtain ⟨c, cs, rfl⟩ := List.exists_cons_of_ne_nil hgroup
  cases trimEnd key.name.toList with
  | nil => simp only [hdropped, hback, if_pos]
  | cons d ds => simp only [hback, reduceCtorEq, if_false]

/-- **A displayed name is read back just if its name within the group stays as it is.** -/
theorem read_display_eq_iff (h : key.Grouped) : read key.display = key ↔ key.Settled := by
  rw [read_display h]
  constructor
  · intro hread
    split at hread
    · -- the group would be the name, and a group is not blank
      rename_i hblank
      have hname : key.group = key.name := congrArg FlagName.name hread
      have hmisc : misc = key.group := congrArg FlagName.group hread
      rw [← hname, ← hmisc] at hblank
      exact absurd hblank (by decide)
    · rename_i hleft
      have hname : String.ofList (trimEnd key.name.toList) = key.name :=
        congrArg FlagName.name hread
      have hlist : trimEnd key.name.toList = key.name.toList := by
        rw [← String.toList_inj, String.toList_ofList] at hname
        exact hname
      refine ⟨fun hnil => hleft ?_, ?_⟩
      · rw [hlist, hnil]
        rfl
      · rw [← hlist]
        exact endsBare_trimEnd _
  · intro hsettled
    have hlist : trimEnd key.name.toList = key.name.toList := trimEnd_eq_self hsettled.endsBare
    rw [hlist, if_neg (mt String.toList_eq_nil_iff.1 hsettled.filled), String.ofList_toList]

/-- So reading, displaying and reading again comes to the same just for these names. -/
theorem read_display_read (raw : String) :
    read (read raw).display = read raw ↔ (read raw).Settled :=
  read_display_eq_iff (grouped_read raw)

/-! ## The order of displayed names -/

/-- Of two texts without dots, the smaller one is the smaller one with a dot and more behind both,
unless the other one goes on from it with a character in front of the dot. -/
theorem append_dot_lt_iff {g h : List Char} (hdot : '.' ∉ h) (hlt : g < h) (m n : List Char) :
    g ++ '.' :: m < h ++ '.' :: n ↔ ∀ c rest, h = g ++ c :: rest → '.' < c := by
  induction g generalizing h with
  | nil =>
    cases h with
    | nil => exact absurd hlt (List.not_lt_nil _)
    | cons d h =>
      have hne : '.' ≠ d := fun heq => hdot (heq ▸ List.mem_cons_self)
      simp [List.cons_lt_cons_iff, hne]
  | cons b g ih =>
    cases h with
    | nil => exact absurd hlt (List.not_lt_nil _)
    | cons d h =>
      rcases List.cons_lt_cons_iff.1 hlt with hhead | ⟨rfl, htail⟩
      · -- the groups part before either of them ends
        refine iff_of_true (List.cons_lt_cons_iff.2 (.inl hhead)) fun c rest heq => ?_
        obtain ⟨rfl, -⟩ := List.cons.inj heq
        exact absurd hhead (Std.lt_irrefl)
      · have hdot' : '.' ∉ h := fun hmem => hdot (List.mem_cons_of_mem b hmem)
        simp [ih hdot' htail]

/-- **Names in two groups are displayed in the order of the groups**, unless the second group goes
on from the first one with a character in front of the dot. -/
theorem display_lt_display_iff (h : other.Grouped) (hlt : key.group < other.group) :
    key.display < other.display ↔
      ∀ c rest, other.group.toList = key.group.toList ++ c :: rest → '.' < c := by
  rw [String.lt_iff_toList_lt, toList_display, toList_display]
  exact append_dot_lt_iff h.dotless (String.lt_iff_toList_lt.1 hlt) _ _

/-- Names in one group are displayed in their order. -/
theorem display_lt_display (hgroup : key.group = other.group) (hlt : key.name < other.name) :
    key.display < other.display := by
  rw [String.lt_iff_toList_lt, toList_display, toList_display, hgroup]
  exact List.append_left_lt (List.cons_lt_cons_iff.2 (.inr ⟨rfl, String.lt_iff_toList_lt.1 hlt⟩))

end FlagName

end Colloquy
