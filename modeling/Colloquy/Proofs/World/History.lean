import Colloquy.Proofs.Text.ByteOrder
import Colloquy.Proofs.Text.Clean
import Colloquy.Proofs.World.Writes

/-!
# The world reflects its history

The world keeps five tables, and none of them keeps what was done. Still every reader answers as if
it looked the answer up in the history of changes (`reflects_history`): a flag, an item and the
state of a character read as the latest change about them says, a room and a label as whether they
were ever recorded. A flag is known by its full name, so changes that write the same full name
differently are about the same flag. What carries the proof is `read_applyAll_eq_iff`: a reader that
every change of a kind determines, and no other change touches, reads as the latest one of them.
-/

namespace Colloquy

/-! ## The latest change of a kind -/

namespace Write

/-- The item that a change is about. -/
def item? : Write → Option String
  | .addItem item | .removeItem item => some item
  | .setFlag _ _ | .visitRoom _ | .setNpcState _ _ | .markAsked _ => none

/-- The character that a change is about. -/
def npc? : Write → Option String
  | .setNpcState npc _ => some npc
  | .setFlag _ _ | .addItem _ | .removeItem _ | .visitRoom _ | .markAsked _ => none

theorem flag?_eq_some_iff {c : Write} {key : FlagName} :
    c.flag? = some key ↔ ∃ written value, c = .setFlag written value ∧ .read written = key := by
  cases c <;> simp [flag?]

theorem item?_eq_some_iff {c : Write} {item : String} :
    c.item? = some item ↔ c = .addItem item ∨ c = .removeItem item := by
  cases c <;> simp [item?]

theorem npc?_eq_some_iff {c : Write} {npc : String} :
    c.npc? = some npc ↔ ∃ state, c = .setNpcState npc state := by
  cases c <;> simp [npc?]

end Write

/-- A change is the latest one of a kind in a history, which begins with the oldest change. -/
def IsLatest (kind : Write → Prop) (change : Write) (history : List Write) : Prop :=
  ∃ earlier later, history = earlier ++ change :: later ∧ kind change ∧ ∀ c ∈ later, ¬ kind c

namespace IsLatest

variable {kind : Write → Prop} {change c : Write} {history : List Write}

theorem kind_self (h : IsLatest kind change history) : kind change := by
  obtain ⟨-, -, -, hkind, -⟩ := h
  exact hkind

theorem mem (h : IsLatest kind change history) : change ∈ history := by
  obtain ⟨earlier, later, rfl, -, -⟩ := h
  exact List.mem_append_right _ List.mem_cons_self

/-- What was done before has no part in which change is the latest one. -/
theorem cons (h : IsLatest kind change history) (c : Write) :
    IsLatest kind change (c :: history) := by
  obtain ⟨earlier, later, rfl, hkind, hlater⟩ := h
  exact ⟨c :: earlier, later, rfl, hkind, hlater⟩

/-- **A history with a change of a kind has a latest one.** -/
theorem exists_or_forall (kind : Write → Prop) (history : List Write) :
    (∃ change, IsLatest kind change history) ∨ ∀ c ∈ history, ¬ kind c := by
  induction history with
  | nil => exact .inr fun _ hc => absurd hc List.not_mem_nil
  | cons c history ih =>
    rcases ih with ⟨change, hlatest⟩ | hnone
    · exact .inl ⟨change, hlatest.cons c⟩
    · by_cases hkind : kind c
      · exact .inl ⟨c, [], history, rfl, hkind, hnone⟩
      · exact .inr (List.forall_mem_cons.2 ⟨hkind, hnone⟩)

end IsLatest

namespace World

variable {w : World} {history : List Write}

/-- A reader that a change determines reads so as long as nothing of the kind follows. -/
theorem read_of_isLatest {α : Type} {read : World → α} {kind : Write → Prop} {change : Write}
    {value : α} (hframe : ∀ w c, ¬ kind c → read (apply w c) = read w)
    (hset : ∀ w, read (apply w change) = value) (h : IsLatest kind change history) :
    read (w.applyAll history) = value := by
  obtain ⟨earlier, later, rfl, -, hlater⟩ := h
  have hrest : read (((w.applyAll earlier).apply change).applyAll later) =
      read ((w.applyAll earlier).apply change) :=
    applyAll_unchanged read fun c hc w => hframe w c (hlater c hc)
  rw [applyAll_append]
  exact hrest.trans (hset _)

/-- **A reader that each change of a kind determines reads as the latest one of them says.** -/
theorem read_applyAll_eq_iff {α : Type} (history : List Write) (read : World → α)
    (kind : Write → Prop) {value : α}
    (hframe : ∀ w c, ¬ kind c → read (apply w c) = read w)
    (hset : ∀ c, kind c → ∃ v, ∀ w, read (apply w c) = v) (hfirst : read w ≠ value) :
    read (w.applyAll history) = value ↔
      ∃ change, IsLatest kind change history ∧ ∀ w, read (apply w change) = value := by
  constructor
  · intro hread
    rcases IsLatest.exists_or_forall kind history with ⟨change, hlatest⟩ | hnone
    · obtain ⟨v, hv⟩ := hset change hlatest.kind_self
      obtain rfl : v = value := (read_of_isLatest hframe hv hlatest).symm.trans hread
      exact ⟨change, hlatest, hv⟩
    · have hkept : read (w.applyAll history) = read w :=
        applyAll_unchanged read fun c hc w => hframe w c (hnone c hc)
      exact absurd (hkept.symm.trans hread) hfirst
  · rintro ⟨change, hlatest, hv⟩
    exact read_of_isLatest hframe hv hlatest

/-! ## What one change does to each reader -/

theorem flag_setFlag (w : World) {written name : String} (value : FlagValue)
    (h : FlagName.read written = .read name) :
    (w.apply (.setFlag written value)).flag name = some value :=
  (flagAt_setFlag w written value _).trans (if_pos h)

theorem hasItem_apply_of_ne {change : Write} {item : String} (h : change.item? ≠ some item) :
    (w.apply change).hasItem item = w.hasItem item := by
  cases change with
  | addItem added =>
    have hne : added ≠ item := fun heq => h (congrArg some heq)
    simp [hasItem_addItem, hne]
  | removeItem removed =>
    have hne : removed ≠ item := fun heq => h (congrArg some heq)
    simp [hasItem_removeItem, hne]
  | setFlag | visitRoom | setNpcState | markAsked => rfl

theorem hasVisitedRoom_visitRoom (w : World) (visited room : String) :
    (w.apply (.visitRoom visited)).hasVisitedRoom room =
      (visited = room || w.hasVisitedRoom room) := by
  simp only [hasVisitedRoom, apply, TextSet.add, TextMap.contains, TextMap.get?_insert]
  split <;> rename_i h <;> simp [h]

theorem hasVisitedRoom_apply_of_ne {change : Write} {room : String} (h : change ≠ .visitRoom room) :
    (w.apply change).hasVisitedRoom room = w.hasVisitedRoom room := by
  cases change with
  | visitRoom visited =>
    have hne : visited ≠ room := fun heq => h (congrArg Write.visitRoom heq)
    simp [hasVisitedRoom_visitRoom, hne]
  | setFlag | addItem | removeItem | setNpcState | markAsked => rfl

theorem hasAsked_apply_of_ne {change : Write} {label : String} (h : change ≠ .markAsked label) :
    (w.apply change).hasAsked label = w.hasAsked label := by
  cases change with
  | markAsked marked =>
    have hne : marked ≠ label := fun heq => h (congrArg Write.markAsked heq)
    simp [hasAsked_markAsked, hne]
  | setFlag | addItem | removeItem | visitRoom | setNpcState => rfl

theorem npcState_setNpcState (w : World) (npc state other : String) :
    (w.apply (.setNpcState npc state)).npcState other =
      if npc = other then some state else w.npcState other :=
  TextMap.get?_insert w.npcStates npc other state

theorem npcState_apply_of_ne {change : Write} {npc : String} (h : change.npc? ≠ some npc) :
    (w.apply change).npcState npc = w.npcState npc := by
  cases change with
  | setNpcState about state =>
    have hne : about ≠ npc := fun heq => h (congrArg some heq)
    rw [npcState_setNpcState, if_neg hne]
  | setFlag | addItem | removeItem | visitRoom | markAsked => rfl

end World

/-! ## Flags by their names -/

/-- A text without dots has none at its ends. -/
theorem FlagName.dropDots_eq_self {cs : List Char} (h : '.' ∉ cs) : dropDots cs = cs := by
  have hkept : ∀ ds : List Char, '.' ∉ ds → ds.dropWhile (· = '.') = ds := by
    intro ds hds
    cases ds with
    | nil => rfl
    | cons d ds =>
      have hne : d ≠ '.' := fun heq => hds (heq ▸ List.mem_cons_self)
      exact List.dropWhile_cons_of_neg (by simpa using hne)
  rw [dropDots, hkept cs h, hkept cs.reverse (by simpa using h), List.reverse_reverse]

/-- **A flat name and the name in the group for flat names are one flag.** -/
theorem FlagName.read_misc {name : String} (htrim : Text.trim name.toList = name.toList)
    (hne : name ≠ "") (hflat : '.' ∉ name.toList) :
    FlagName.read (FlagName.misc ++ "." ++ name) = FlagName.read name := by
  obtain ⟨c, cs, hcons⟩ := List.exists_cons_of_ne_nil (mt String.toList_eq_nil_iff.1 hne)
  have hwritten : (FlagName.misc ++ "." ++ name).toList = "misc".toList ++ '.' :: name.toList := by
    simp [FlagName.misc]
  have hends : Text.EndsBare ("misc".toList ++ '.' :: name.toList) := by
    rw [List.append_cons, Text.endsBare_append _ (hcons ▸ List.cons_ne_nil c cs), ← htrim]
    exact Text.endsBare_trim name.toList
  have hstarts : Text.StartsBare ("misc".toList ++ '.' :: name.toList) :=
    (by decide : Text.Clean "misc".toList).startsBare
  have hgrouped : FlagName.read (FlagName.misc ++ "." ++ name) = ⟨FlagName.misc, name⟩ := by
    rw [FlagName.read, hwritten, Text.trim_eq_self hstarts hends, Text.cut_append (by decide),
      hcons]
    exact congrArg (FlagName.mk FlagName.misc) (by rw [← hcons, String.ofList_toList])
  have hflatly : FlagName.read name = ⟨FlagName.misc, name⟩ := by
    rw [FlagName.read, htrim, Text.cut_eq_none.2 hflat]
    have hname : String.ofList (dropDots name.toList) = name := by
      rw [dropDots_eq_self hflat, String.ofList_toList]
    exact congrArg (FlagName.mk FlagName.misc) hname
  rw [hgrouped, hflatly]

/-! ## Sets as lists -/

namespace TextSet

theorem mem_toList {s : TextSet} {item : String} : item ∈ s.toList ↔ s.contains item = true := by
  rw [TextMap.contains, Option.isSome_iff_exists]
  constructor
  · intro hmem
    obtain ⟨⟨key, value⟩, hentry, rfl⟩ := List.mem_map.1 hmem
    exact ⟨value, TextMap.mem_entries.1 hentry⟩
  · rintro ⟨value, hvalue⟩
    exact List.mem_map.2 ⟨(item, value), TextMap.mem_entries.2 hvalue, rfl⟩

theorem nodup_toList (s : TextSet) : s.toList.Nodup := List.pairwise_map.2 s.pairwise_ne

end TextSet

/-! ## What the readers tell -/

namespace World

/-- The readers of a world tell what a history of changes says. -/
structure Reflects (w : World) (history : List Write) : Prop where
  /-- A flag holds the value that it was last set to, under whatever name for it. -/
  flag_eq_some_iff : ∀ name value, w.flag name = some value ↔
    ∃ written, IsLatest (fun c => c.flag? = some (.read name)) (.setFlag written value) history
  /-- It holds none if it was never set. -/
  flag_eq_none_iff : ∀ name, w.flag name = none ↔ ∀ c ∈ history, c.flag? ≠ some (.read name)
  /-- A flag counts as set if it holds a truthy value. -/
  isFlagSet_iff : ∀ name, w.isFlagSet name = true ↔
    ∃ value, w.flag name = some value ∧ value.isTruthy = true
  /-- An item is carried if the latest change about it puts it in the inventory. -/
  hasItem_iff : ∀ item, w.hasItem item = true ↔
    IsLatest (fun c => c.item? = some item) (.addItem item) history
  hasVisitedRoom_iff : ∀ room, w.hasVisitedRoom room = true ↔ .visitRoom room ∈ history
  hasAsked_iff : ∀ label, w.hasAsked label = true ↔ .markAsked label ∈ history
  /-- A character is in the state that was last set for it. -/
  npcState_eq_some_iff : ∀ npc state, w.npcState npc = some state ↔
    IsLatest (fun c => c.npc? = some npc) (.setNpcState npc state) history
  npcState_eq_none_iff : ∀ npc, w.npcState npc = none ↔ ∀ c ∈ history, c.npc? ≠ some npc
  /-- What is carried is listed, once each and in the order of the bytes. -/
  mem_inventory : ∀ item, item ∈ w.inventory.toList ↔ w.hasItem item = true
  inventory_increasing : w.inventory.toList.Pairwise fun a b => Text.bytes a < Text.bytes b
  inventory_nodup : w.inventory.toList.Nodup
  /-- The labels that were asked about are listed, once each and in the order of the bytes. -/
  mem_asked : ∀ label, label ∈ w.asked.toList ↔ w.hasAsked label = true
  asked_increasing : w.asked.toList.Pairwise fun a b => Text.bytes a < Text.bytes b
  asked_nodup : w.asked.toList.Nodup

/-- A change leaves every reader alone that it is not about. -/
structure Confines (w : World) (change : Write) : Prop where
  flag : ∀ name, change.flag? ≠ some (.read name) → (w.apply change).flag name = w.flag name
  isFlagSet : ∀ name, change.flag? ≠ some (.read name) →
    (w.apply change).isFlagSet name = w.isFlagSet name
  hasItem : ∀ item, change.item? ≠ some item → (w.apply change).hasItem item = w.hasItem item
  hasVisitedRoom : ∀ room, change ≠ .visitRoom room →
    (w.apply change).hasVisitedRoom room = w.hasVisitedRoom room
  hasAsked : ∀ label, change ≠ .markAsked label →
    (w.apply change).hasAsked label = w.hasAsked label
  npcState : ∀ npc, change.npc? ≠ some npc → (w.apply change).npcState npc = w.npcState npc
  inventory : change.item? = none → (w.apply change).inventory = w.inventory
  asked : (∀ label, change ≠ .markAsked label) → (w.apply change).asked = w.asked

theorem confines (w : World) (change : Write) : w.Confines change where
  flag _ h := flagAt_apply_of_ne h
  isFlagSet name h := by
    have hflag : (w.apply change).flag name = w.flag name := flagAt_apply_of_ne h
    rw [isFlagSet, hflag, isFlagSet]
  hasItem _ h := hasItem_apply_of_ne h
  hasVisitedRoom _ h := hasVisitedRoom_apply_of_ne h
  hasAsked _ h := hasAsked_apply_of_ne h
  npcState _ h := npcState_apply_of_ne h
  inventory h := by
    cases change with
    | addItem | removeItem => cases h
    | setFlag | visitRoom | setNpcState | markAsked => rfl
  asked h := by
    cases change with
    | markAsked label => exact absurd rfl (h label)
    | setFlag | addItem | removeItem | visitRoom | setNpcState => rfl

/-! ## What the readers tell of a whole history -/

/-- **A flag reads as it was last set.** -/
theorem flag_applyAll_eq_some_iff (history : List Write) (name : String) (value : FlagValue) :
    (empty.applyAll history).flag name = some value ↔
      ∃ written, IsLatest (fun c => c.flag? = some (.read name)) (.setFlag written value)
        history := by
  have hempty : empty.flag name ≠ some value := (Option.some_ne_none value).symm
  have hset : ∀ c : Write, c.flag? = some (.read name) →
      ∃ v, ∀ w : World, (w.apply c).flag name = v := by
    intro c hc
    obtain ⟨written, last, rfl, hname⟩ := Write.flag?_eq_some_iff.1 hc
    exact ⟨some last, fun w => flag_setFlag w last hname⟩
  have hread := read_applyAll_eq_iff history (fun w => w.flag name)
    (fun c => c.flag? = some (.read name)) (fun _ _ => flagAt_apply_of_ne) hset hempty
  refine hread.trans ⟨?_, ?_⟩
  · rintro ⟨change, hlatest, hvalue⟩
    obtain ⟨written, last, rfl, hname⟩ := Write.flag?_eq_some_iff.1 hlatest.kind_self
    have hlast : last = value :=
      Option.some.inj ((flag_setFlag empty last hname).symm.trans (hvalue empty))
    exact ⟨written, hlast ▸ hlatest⟩
  · rintro ⟨written, hlatest⟩
    exact ⟨_, hlatest, fun w => flag_setFlag w value (Option.some.inj hlatest.kind_self)⟩

/-- A flag that was never set reads as nothing. -/
theorem flag_applyAll_eq_none_iff (history : List Write) (name : String) :
    (empty.applyAll history).flag name = none ↔
      ∀ c ∈ history, c.flag? ≠ some (.read name) := by
  constructor
  · intro hnone
    rcases IsLatest.exists_or_forall (fun c => c.flag? = some (.read name)) history with
      ⟨change, hlatest⟩ | hunset
    · obtain ⟨written, last, rfl, -⟩ := Write.flag?_eq_some_iff.1 hlatest.kind_self
      cases hnone.symm.trans ((flag_applyAll_eq_some_iff history name last).2 ⟨written, hlatest⟩)
    · exact hunset
  · exact fun hunset => applyAll_unchanged (fun w => w.flag name) fun c hc w =>
      flagAt_apply_of_ne (hunset c hc)

/-- **An item is there if it was put there and not taken away since.** -/
theorem hasItem_applyAll_iff (history : List Write) (item : String) :
    (empty.applyAll history).hasItem item = true ↔
      IsLatest (fun c => c.item? = some item) (.addItem item) history := by
  have hempty : empty.hasItem item ≠ true := Bool.noConfusion
  have hadded : ∀ w : World, (w.apply (.addItem item)).hasItem item = true := fun w => by
    simp [hasItem_addItem]
  have hremoved : ∀ w : World, (w.apply (.removeItem item)).hasItem item = false := fun w => by
    simp [hasItem_removeItem]
  have hset : ∀ c : Write, c.item? = some item →
      ∃ there, ∀ w : World, (w.apply c).hasItem item = there := by
    intro c hc
    rcases Write.item?_eq_some_iff.1 hc with rfl | rfl
    · exact ⟨true, hadded⟩
    · exact ⟨false, hremoved⟩
  have hread := read_applyAll_eq_iff history (fun w => w.hasItem item)
    (fun c => c.item? = some item) (fun _ _ => hasItem_apply_of_ne) hset hempty
  refine hread.trans ⟨?_, fun hlatest => ⟨_, hlatest, hadded⟩⟩
  rintro ⟨change, hlatest, hvalue⟩
  rcases Write.item?_eq_some_iff.1 hlatest.kind_self with rfl | rfl
  · exact hlatest
  · cases (hremoved empty).symm.trans (hvalue empty)

/-- **A room counts as visited if a visit was ever recorded.** -/
theorem hasVisitedRoom_applyAll_iff (history : List Write) (room : String) :
    (empty.applyAll history).hasVisitedRoom room = true ↔ .visitRoom room ∈ history := by
  have hempty : empty.hasVisitedRoom room ≠ true := Bool.noConfusion
  have hvisited : ∀ w : World, (w.apply (.visitRoom room)).hasVisitedRoom room = true := fun w => by
    simp [hasVisitedRoom_visitRoom]
  have hread := read_applyAll_eq_iff history (fun w => w.hasVisitedRoom room)
    (· = .visitRoom room) (fun _ _ => hasVisitedRoom_apply_of_ne)
    (fun c hc => ⟨true, hc ▸ hvisited⟩) hempty
  refine hread.trans ⟨?_, fun hmem => ?_⟩
  · rintro ⟨change, hlatest, -⟩
    exact hlatest.kind_self ▸ hlatest.mem
  · rcases IsLatest.exists_or_forall (· = .visitRoom room) history with ⟨change, hlatest⟩ | hnone
    · exact ⟨change, hlatest, hlatest.kind_self ▸ hvisited⟩
    · exact absurd rfl (hnone _ hmem)

/-- **A character is in the state that was last set for it.** -/
theorem npcState_applyAll_eq_some_iff (history : List Write) (npc state : String) :
    (empty.applyAll history).npcState npc = some state ↔
      IsLatest (fun c => c.npc? = some npc) (.setNpcState npc state) history := by
  have hempty : empty.npcState npc ≠ some state := (Option.some_ne_none state).symm
  have hset : ∀ c : Write, c.npc? = some npc →
      ∃ s, ∀ w : World, (w.apply c).npcState npc = s := by
    intro c hc
    obtain ⟨last, rfl⟩ := Write.npc?_eq_some_iff.1 hc
    exact ⟨some last, fun w => (npcState_setNpcState w npc last npc).trans (if_pos rfl)⟩
  have hread := read_applyAll_eq_iff history (fun w => w.npcState npc)
    (fun c => c.npc? = some npc) (fun _ _ => npcState_apply_of_ne) hset hempty
  refine hread.trans ⟨?_, fun hlatest => ⟨_, hlatest, fun w => ?_⟩⟩
  · rintro ⟨change, hlatest, hvalue⟩
    obtain ⟨last, rfl⟩ := Write.npc?_eq_some_iff.1 hlatest.kind_self
    have hlast := (npcState_setNpcState empty npc last npc).trans (if_pos rfl)
    obtain rfl : last = state := Option.some.inj (hlast.symm.trans (hvalue empty))
    exact hlatest
  · exact (npcState_setNpcState w npc state npc).trans (if_pos rfl)

/-- A character for which no state was set is in none. -/
theorem npcState_applyAll_eq_none_iff (history : List Write) (npc : String) :
    (empty.applyAll history).npcState npc = none ↔ ∀ c ∈ history, c.npc? ≠ some npc := by
  constructor
  · intro hnone
    rcases IsLatest.exists_or_forall (fun c => c.npc? = some npc) history with
      ⟨change, hlatest⟩ | hunset
    · obtain ⟨last, rfl⟩ := Write.npc?_eq_some_iff.1 hlatest.kind_self
      cases hnone.symm.trans ((npcState_applyAll_eq_some_iff history npc last).2 hlatest)
    · exact hunset
  · exact fun hunset => applyAll_unchanged (fun w => w.npcState npc) fun c hc w =>
      npcState_apply_of_ne (hunset c hc)

/-- **The world reflects its history**, whatever was done to the empty world and in whatever order.
Each reader tells what the latest change about it says, and a change touches no reader that it is
not about. Names that are written differently are about one flag if they have one full name; so a
flat name and the same name in the group for flat names are one flag. -/
theorem reflects_history (history : List Write) :
    (empty.applyAll history).Reflects history ∧
    (∀ change, (empty.applyAll history).Confines change) ∧
    ∀ name, Text.trim name.toList = name.toList → name ≠ "" → '.' ∉ name.toList →
      FlagName.read (FlagName.misc ++ "." ++ name) = .read name := by
  refine ⟨?_, confines _, fun name => FlagName.read_misc⟩
  exact {
    flag_eq_some_iff := flag_applyAll_eq_some_iff history
    flag_eq_none_iff := flag_applyAll_eq_none_iff history
    isFlagSet_iff := fun name => Option.any_eq_true _ _
    hasItem_iff := hasItem_applyAll_iff history
    hasVisitedRoom_iff := hasVisitedRoom_applyAll_iff history
    hasAsked_iff := fun label => by
      rw [hasAsked_applyAll]
      exact decide_eq_true_iff
    npcState_eq_some_iff := npcState_applyAll_eq_some_iff history
    npcState_eq_none_iff := npcState_applyAll_eq_none_iff history
    mem_inventory := fun _ => TextSet.mem_toList
    inventory_increasing := TextMap.bytes_increasing _
    inventory_nodup := TextSet.nodup_toList _
    mem_asked := fun _ => TextSet.mem_toList
    asked_increasing := TextMap.bytes_increasing _
    asked_nodup := TextSet.nodup_toList _ }

/-- A flag is set under two names for it, and an item is put in the inventory and taken out. -/
def lampHistory : List Write :=
  [.setFlag "lamp" (.bool true), .addItem "oil", .setFlag " misc.lamp " (.integer 2),
    .removeItem "oil", .addItem "wick"]

theorem reflects_history_lamp :
    let w := empty.applyAll lampHistory
    w.flag "lamp" = some (.integer 2) ∧ w.flag "misc.lamp" = some (.integer 2) ∧
      "wick" ∈ w.inventory.toList ∧ w.npcState "zyx" = none := by
  intro w
  obtain ⟨hreflects, -, hflat⟩ := reflects_history lampHistory
  have hlamp : w.flag "lamp" = some (.integer 2) :=
    (hreflects.flag_eq_some_iff "lamp" _).2
      ⟨" misc.lamp ", [.setFlag "lamp" (.bool true), .addItem "oil"],
        [.removeItem "oil", .addItem "wick"], rfl, by decide, by decide⟩
  have hname : FlagName.read "misc.lamp" = .read "lamp" :=
    hflat "lamp" (by decide) (by decide) (by decide)
  have hwick : w.hasItem "wick" = true :=
    (hreflects.hasItem_iff "wick").2
      ⟨lampHistory.dropLast, [], rfl, rfl, fun _ hc => absurd hc List.not_mem_nil⟩
  have hzyx : w.npcState "zyx" = none := (hreflects.npcState_eq_none_iff "zyx").2 (by decide)
  refine ⟨hlamp, ?_, (hreflects.mem_inventory "wick").2 hwick, hzyx⟩
  rw [flag, hname]
  exact hlamp

end World

end Colloquy
