import Colloquy.World.Basic

/-!
# Writes — what a history of changes leaves in the world

A change touches one of the five parts of the world, and the readers of the other four do not see
it. Each reader of a part then has one law for a whole list of changes: a label counts as asked if it
was before or is marked, a flag that is only ever set to true is true or as it was, and an item that
is taken away stays away until it is added again.
-/

namespace Colloquy

/-- The flag that a change sets, by its full name. -/
def Write.flag? : Write → Option FlagName
  | .setFlag name _ => some (.read name)
  | .addItem _ | .removeItem _ | .visitRoom _ | .setNpcState _ _ | .markAsked _ => none

namespace World

variable {w : World} {writes : List Write}

theorem applyAll_append (w : World) (first later : List Write) :
    w.applyAll (first ++ later) = (w.applyAll first).applyAll later := List.foldl_append

/-- What every one of the changes leaves alone, all of them leave alone. -/
theorem applyAll_unchanged {α : Type} (read : World → α)
    (h : ∀ change ∈ writes, ∀ w, read (apply w change) = read w) :
    read (w.applyAll writes) = read w := by
  induction writes generalizing w with
  | nil => rfl
  | cons change rest ih =>
    have hrest := ih (w := w.apply change) fun c hc => h c (List.mem_cons_of_mem _ hc)
    exact hrest.trans (h change List.mem_cons_self w)

/-! ## One change -/

/-- The group in which a flag is set holds it, and every other group is as it was. -/
theorem group_setFlag (w : World) (name : String) (value : FlagValue) (group : String) :
    (w.setFlag name value).group group =
      if (FlagName.read name).group = group then
        (w.group (FlagName.read name).group).insert (FlagName.read name).name value
      else w.group group := by
  simp only [World.group, setFlag, TextMap.get?_insert]
  split <;> rfl

/-- Setting a flag files the value under the full name, and leaves every other flag as it was. -/
theorem flagAt_setFlag (w : World) (name : String) (value : FlagValue) (key : FlagName) :
    (w.setFlag name value).flagAt key =
      if FlagName.read name = key then some value else w.flagAt key := by
  obtain ⟨group, key⟩ := key
  cases hname : FlagName.read name with
  | mk g n =>
    simp only [flagAt, group_setFlag, hname, FlagName.mk.injEq]
    by_cases hgroup : g = group
    · simp [hgroup, TextMap.get?_insert]
    · simp [hgroup]

theorem hasItem_addItem (w : World) (added item : String) :
    (w.apply (.addItem added)).hasItem item = (added = item || w.hasItem item) := by
  simp only [hasItem, apply, TextSet.add, TextMap.contains, TextMap.get?_insert]
  split <;> rename_i h <;> simp [h]

theorem hasItem_removeItem (w : World) (removed item : String) :
    (w.apply (.removeItem removed)).hasItem item = (removed ≠ item && w.hasItem item) := by
  simp only [hasItem, apply, TextMap.contains, TextMap.get?_erase]
  split <;> rename_i h <;> simp [h]

theorem hasAsked_markAsked (w : World) (marked label : String) :
    (w.apply (.markAsked marked)).hasAsked label = (marked = label || w.hasAsked label) := by
  simp only [hasAsked, apply, TextSet.add, TextMap.contains, TextMap.get?_insert]
  split <;> rename_i h <;> simp [h]

/-! ## Many changes -/

/-- **A label counts as asked if it did before or is marked.** Nothing takes a mark away. -/
theorem hasAsked_applyAll (label : String) :
    (w.applyAll writes).hasAsked label = (w.hasAsked label || .markAsked label ∈ writes) := by
  induction writes generalizing w with
  | nil => simp [applyAll]
  | cons change rest ih =>
    have hstep : (w.apply change).hasAsked label =
        (w.hasAsked label || change = .markAsked label) := by
      cases change with
      | markAsked marked => simp [hasAsked_markAsked, Bool.or_comm]
      | setFlag | addItem | removeItem | visitRoom | setNpcState =>
        rw [Bool.or_eq_left_iff_imp.2 (by simp)]
        rfl
    show ((w.apply change).applyAll rest).hasAsked label = _
    rw [ih, hstep, Bool.or_assoc]
    simp [eq_comm]

/-- What sets another flag leaves a flag alone. -/
theorem flagAt_apply_of_ne {change : Write} {key : FlagName} (h : change.flag? ≠ some key) :
    (w.apply change).flagAt key = w.flagAt key := by
  cases change with
  | setFlag name value =>
    have hname : FlagName.read name ≠ key := fun heq => h (congrArg some heq)
    exact (flagAt_setFlag w name value key).trans (if_neg hname)
  | addItem | removeItem | visitRoom | setNpcState | markAsked => rfl

/-- **A flag that is only set to true is true, or it is as it was.** -/
theorem flagAt_applyAll (htrue : ∀ name value, .setFlag name value ∈ writes → value = .bool true)
    (key : FlagName) :
    (w.applyAll writes).flagAt key =
      if key ∈ writes.filterMap Write.flag? then some (.bool true) else w.flagAt key := by
  induction writes generalizing w with
  | nil => rfl
  | cons change rest ih =>
    have hrest := ih (w := w.apply change)
      fun name value hmem => htrue name value (List.mem_cons_of_mem _ hmem)
    refine Eq.trans hrest ?_
    by_cases hchange : change.flag? = some key
    · -- the flag is true already, and the rest sets it to nothing else
      have hmem : key ∈ (change :: rest).filterMap Write.flag? :=
        List.mem_filterMap.2 ⟨change, List.mem_cons_self, hchange⟩
      have hset : (w.apply change).flagAt key = some (.bool true) := by
        cases change with
        | setFlag name value =>
          obtain rfl : value = .bool true := htrue name value List.mem_cons_self
          have hname : FlagName.read name = key := Option.some.inj hchange
          exact (flagAt_setFlag w name _ key).trans (if_pos hname)
        | addItem | removeItem | visitRoom | setNpcState | markAsked => cases hchange
      rw [if_pos hmem, hset, ite_self]
    · have hmem : key ∈ (change :: rest).filterMap Write.flag? ↔
          key ∈ rest.filterMap Write.flag? := by
        simp [List.mem_filterMap, hchange]
      rw [flagAt_apply_of_ne hchange]
      simp only [hmem]

/-- An item that is not there and not added is not there afterwards. -/
theorem hasItem_applyAll_of_absent {item : String} (habsent : w.hasItem item = false)
    (hadd : .addItem item ∉ writes) : (w.applyAll writes).hasItem item = false := by
  induction writes generalizing w with
  | nil => exact habsent
  | cons change rest ih =>
    refine ih (w := w.apply change) ?_ fun hmem => hadd (List.mem_cons_of_mem _ hmem)
    cases change with
    | addItem added =>
      have hne : added ≠ item := by
        rintro rfl
        exact hadd List.mem_cons_self
      rw [hasItem_addItem, habsent]
      simp [hne]
    | removeItem removed => rw [hasItem_removeItem, habsent, Bool.and_false]
    | setFlag | visitRoom | setNpcState | markAsked => exact habsent

/-- An item that is there and not taken away is there afterwards. -/
theorem hasItem_applyAll_of_present {item : String} (hpresent : w.hasItem item = true)
    (hremove : .removeItem item ∉ writes) : (w.applyAll writes).hasItem item = true := by
  induction writes generalizing w with
  | nil => exact hpresent
  | cons change rest ih =>
    refine ih (w := w.apply change) ?_ fun hmem => hremove (List.mem_cons_of_mem _ hmem)
    cases change with
    | addItem added => rw [hasItem_addItem, hpresent, Bool.or_true]
    | removeItem removed =>
      have hne : removed ≠ item := by
        rintro rfl
        exact hremove List.mem_cons_self
      rw [hasItem_removeItem, hpresent]
      simp [hne]
    | setFlag | visitRoom | setNpcState | markAsked => exact hpresent

/-- **An item that is added and not taken away again is there.** -/
theorem hasItem_applyAll_of_added {item : String} {first later : List Write}
    (hlater : .removeItem item ∉ later) :
    (w.applyAll (first ++ .addItem item :: later)).hasItem item = true := by
  rw [applyAll_append]
  refine hasItem_applyAll_of_present (w := (w.applyAll first).apply (.addItem item)) ?_ hlater
  simp [hasItem_addItem]

/-- **An item that is taken away and not added again is gone.** -/
theorem hasItem_applyAll_of_removed {item : String} {first later : List Write}
    (hlater : .addItem item ∉ later) :
    (w.applyAll (first ++ .removeItem item :: later)).hasItem item = false := by
  rw [applyAll_append]
  refine hasItem_applyAll_of_absent (w := (w.applyAll first).apply (.removeItem item)) ?_ hlater
  simp [hasItem_removeItem]

end World

end Colloquy
