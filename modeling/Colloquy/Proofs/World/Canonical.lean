import Colloquy.Proofs.World.History
import Colloquy.Proofs.World.Snapshot

/-!
# Snapshots are canonical

The readers tell all there is to a world that changes have made of the empty one. Two things could
be kept and not told: a group of flags without flags, and a flag under a full name that no written
name is read as. No change leaves either behind (`Tidy`), so worlds that read alike are equal
(`Tidy.eq_of_readsAlike`) and have the same snapshot. How a world came about is lost: each reader
goes by the changes about one subject, and of these by the last one (`IsReader`).
-/

namespace Colloquy

/-! ## Tables -/

/-- Nothing is removed where nothing is filed. -/
theorem TextMap.erase_eq_self {α : Type} {m : TextMap α} {key : String}
    (h : m.contains key = false) : m.erase key = m := by
  have hnone : m.get? key = none := Option.isNone_iff_eq_none.1 (Option.isSome_eq_false_iff.1 h)
  refine TextMap.ext_get? fun other => ?_
  rw [TextMap.get?_erase]
  split
  · next hkey => rw [← hkey, hnone]
  · rfl

/-- Two sets with the same members are equal. -/
theorem TextSet.ext_contains {s t : TextSet} (h : ∀ item, s.contains item = t.contains item) :
    s = t := by
  refine TextMap.ext_get? fun item => ?_
  have hsome := h item
  rw [TextMap.contains, TextMap.contains] at hsome
  cases hs : s.get? item with
  | none =>
    rw [hs] at hsome
    exact (Option.isNone_iff_eq_none.1 (Option.isSome_eq_false_iff.1 hsome.symm)).symm
  | some =>
    rw [hs] at hsome
    obtain ⟨_, ht⟩ := Option.isSome_iff_exists.1 hsome.symm
    exact ht.symm

/-! ## What a change is about -/

/-- What a change may be about. -/
inductive Subject where
  /-- A flag, by its full name. -/
  | flag (key : FlagName)
  | item (item : String)
  | room (room : String)
  /-- A character. -/
  | npc (npc : String)
  | label (label : String)
  deriving DecidableEq

/-- What a change is about. -/
def Write.subject : Write → Subject
  | .setFlag name _ => .flag (.read name)
  | .addItem item | .removeItem item => .item item
  | .visitRoom room => .room room
  | .setNpcState npc _ => .npc npc
  | .markAsked label => .label label

namespace World

variable {w w' : World}

/-- A reader that goes by the changes about one subject: other changes leave it alone, and after
one about the subject it is of no account what was there before. -/
structure IsReader {α : Type} (read : World → α) (subject : Subject) : Prop where
  frame : ∀ w c, c.subject ≠ subject → read (apply w c) = read w
  settled : ∀ w w' c, c.subject = subject → read (apply w c) = read (apply w' c)

theorem isReader_flag (name : String) : IsReader (fun w => w.flag name) (.flag (.read name)) where
  frame w c h := by
    refine flagAt_apply_of_ne fun hflag => h ?_
    obtain ⟨written, value, rfl, hname⟩ := Write.flag?_eq_some_iff.1 hflag
    exact congrArg Subject.flag hname
  settled w w' c h := by
    cases c with
    | setFlag written value =>
      have hname : FlagName.read written = .read name := Subject.flag.inj h
      exact (flag_setFlag w value hname).trans (flag_setFlag w' value hname).symm
    | addItem | removeItem | visitRoom | setNpcState | markAsked => cases h

theorem isReader_hasItem (item : String) : IsReader (fun w => w.hasItem item) (.item item) where
  frame w c h := by
    refine hasItem_apply_of_ne fun hitem => h ?_
    rcases Write.item?_eq_some_iff.1 hitem with rfl | rfl <;> rfl
  settled w w' c h := by
    cases c with
    | addItem | removeItem =>
      cases h
      simp [hasItem_addItem, hasItem_removeItem]
    | setFlag | visitRoom | setNpcState | markAsked => cases h

theorem isReader_hasVisitedRoom (room : String) :
    IsReader (fun w => w.hasVisitedRoom room) (.room room) where
  frame w c h := by
    refine hasVisitedRoom_apply_of_ne fun hroom => h ?_
    rw [hroom]
    rfl
  settled w w' c h := by
    cases c with
    | visitRoom =>
      cases h
      simp [hasVisitedRoom_visitRoom]
    | setFlag | addItem | removeItem | setNpcState | markAsked => cases h

theorem isReader_npcState (npc : String) : IsReader (fun w => w.npcState npc) (.npc npc) where
  frame w c h := by
    refine npcState_apply_of_ne fun hnpc => h ?_
    obtain ⟨state, rfl⟩ := Write.npc?_eq_some_iff.1 hnpc
    rfl
  settled w w' c h := by
    cases c with
    | setNpcState =>
      cases h
      simp [npcState_setNpcState]
    | setFlag | addItem | removeItem | visitRoom | markAsked => cases h

theorem isReader_hasAsked (label : String) :
    IsReader (fun w => w.hasAsked label) (.label label) where
  frame w c h := by
    refine hasAsked_apply_of_ne fun hlabel => h ?_
    rw [hlabel]
    rfl
  settled w w' c h := by
    cases c with
    | markAsked =>
      cases h
      simp [hasAsked_markAsked]
    | setFlag | addItem | removeItem | visitRoom | setNpcState => cases h

namespace IsReader

variable {α : Type} {read : World → α} {subject : Subject}

/-- Where a reader finds no difference, no change makes one. -/
theorem congr (h : IsReader read subject) (hread : read w = read w') (history : List Write) :
    read (w.applyAll history) = read (w'.applyAll history) := by
  induction history generalizing w w' with
  | nil => exact hread
  | cons c history ih =>
    have hstep : read (w.apply c) = read (w'.apply c) := by
      by_cases hc : c.subject = subject
      · exact h.settled w w' c hc
      · rw [h.frame w c hc, h.frame w' c hc, hread]
    exact ih hstep

/-- Of two changes about different things a reader goes by one at most. -/
theorem swap (h : IsReader read subject) {c d : Write} (hne : c.subject ≠ d.subject) (w : World) :
    read ((w.apply c).apply d) = read ((w.apply d).apply c) := by
  by_cases hc : c.subject = subject
  · have hd : d.subject ≠ subject := fun hd => hne (hc.trans hd.symm)
    rw [h.frame _ d hd]
    exact h.settled _ _ c hc
  · rw [h.frame _ c hc]
    exact h.congr (h.frame w c hc) [d]

/-- A change is forgotten when another one about the same thing follows. -/
theorem superseded (h : IsReader read subject) {c d : Write} (hsame : c.subject = d.subject)
    (w : World) (between : List Write) :
    read (((w.apply c).applyAll between).apply d) = read ((w.applyAll between).apply d) := by
  by_cases hd : d.subject = subject
  · exact h.settled _ _ d hd
  · rw [h.frame _ d hd, h.frame _ d hd]
    exact h.congr (h.frame w c (hsame ▸ hd)) between

end IsReader

/-! ## Worlds that read alike -/

/-- Two worlds in which every reader finds the same. -/
structure ReadsAlike (w w' : World) : Prop where
  flag : ∀ name, w.flag name = w'.flag name
  hasItem : ∀ item, w.hasItem item = w'.hasItem item
  hasVisitedRoom : ∀ room, w.hasVisitedRoom room = w'.hasVisitedRoom room
  npcState : ∀ npc, w.npcState npc = w'.npcState npc
  hasAsked : ∀ label, w.hasAsked label = w'.hasAsked label

theorem ReadsAlike.of_readers
    (h : ∀ {α : Type} {read : World → α} {subject}, IsReader read subject → read w = read w') :
    ReadsAlike w w' where
  flag name := h (isReader_flag name)
  hasItem item := h (isReader_hasItem item)
  hasVisitedRoom room := h (isReader_hasVisitedRoom room)
  npcState npc := h (isReader_npcState npc)
  hasAsked label := h (isReader_hasAsked label)

/-- A world that keeps nothing that its readers do not tell. -/
structure Tidy (w : World) : Prop where
  /-- There is a flag in every group. -/
  groups : ∀ group flags, w.flags.get? group = some flags → flags ≠ .empty
  /-- Every flag can be asked for. -/
  names : ∀ key value, w.flagAt key = some value → ∃ written, FlagName.read written = key

namespace Tidy

theorem empty : Tidy empty := ⟨fun _ _ => nofun, fun _ _ => nofun⟩

/-- **A change keeps a world tidy**: the group that a flag is filed in is not empty afterwards, and
the flag is filed under what its written name is read as. -/
theorem apply (h : Tidy w) (c : Write) : Tidy (w.apply c) := by
  cases c with
  | setFlag name value =>
    refine ⟨fun group flags hflags => ?_, fun key v hv => ?_⟩
    · change (w.flags.insert _ _).get? group = some flags at hflags
      rw [TextMap.get?_insert] at hflags
      split at hflags
      · rintro rfl
        have hfiled := congrArg (TextMap.get? · (FlagName.read name).name)
          (Option.some.inj hflags)
        rw [TextMap.get?_insert, if_pos rfl] at hfiled
        cases hfiled
      · exact h.groups group flags hflags
    · change (w.setFlag name value).flagAt key = some v at hv
      rw [flagAt_setFlag] at hv
      split at hv
      · next hname => exact ⟨name, hname⟩
      · exact h.names key v hv
  | addItem | removeItem | visitRoom | setNpcState | markAsked => exact ⟨h.groups, h.names⟩

/-- **Every history of changes leaves a tidy world.** -/
theorem applyAll (h : Tidy w) (history : List Write) : Tidy (w.applyAll history) := by
  induction history generalizing w with
  | nil => exact h
  | cons c history ih => exact ih (h.apply c)

/-- A group of a tidy world is filed if there is a flag in it. -/
theorem get?_flags (h : Tidy w) (group : String) :
    w.flags.get? group = if w.group group = .empty then none else some (w.group group) := by
  cases hgroup : w.flags.get? group with
  | none => rw [if_pos (by rw [World.group, hgroup]; rfl)]
  | some flags =>
    have hflags : w.group group = flags := by rw [World.group, hgroup]; rfl
    rw [hflags, if_neg (h.groups group flags hgroup)]

theorem flagAt_eq (hw : Tidy w) (hw' : Tidy w') (h : ∀ name, w.flag name = w'.flag name)
    (key : FlagName) : w.flagAt key = w'.flagAt key := by
  by_cases hname : ∃ written, FlagName.read written = key
  · obtain ⟨written, rfl⟩ := hname
    exact h written
  · have hnone : ∀ {v : World}, Tidy v → v.flagAt key = none := fun hv =>
      Option.eq_none_iff_forall_ne_some.2 fun value hvalue => hname (hv.names key value hvalue)
    rw [hnone hw, hnone hw']

/-- **Tidy worlds that read alike are equal.** -/
theorem eq_of_readsAlike (hw : Tidy w) (hw' : Tidy w') (h : ReadsAlike w w') : w = w' := by
  have hgroup : ∀ group, w.group group = w'.group group := fun group =>
    TextMap.ext_get? fun name => flagAt_eq hw hw' h.flag ⟨group, name⟩
  have hflags : w.flags = w'.flags := TextMap.ext_get? fun group => by
    rw [hw.get?_flags, hw'.get?_flags, hgroup]
  have hinventory : w.inventory = w'.inventory := TextSet.ext_contains h.hasItem
  have hrooms : w.visitedRooms = w'.visitedRooms := TextSet.ext_contains h.hasVisitedRoom
  have hstates : w.npcStates = w'.npcStates := TextMap.ext_get? h.npcState
  have hasked : w.asked = w'.asked := TextSet.ext_contains h.hasAsked
  cases w
  cases w'
  simp only at hflags hinventory hrooms hstates hasked
  rw [hflags, hinventory, hrooms, hstates, hasked]

theorem apply_swap (h : Tidy w) {c d : Write} (hne : c.subject ≠ d.subject) :
    (w.apply c).apply d = (w.apply d).apply c :=
  eq_of_readsAlike ((h.apply c).apply d) ((h.apply d).apply c)
    (.of_readers fun hread => hread.swap hne w)

theorem apply_superseded (h : Tidy w) {c d : Write} (hsame : c.subject = d.subject)
    (between : List Write) :
    ((w.apply c).applyAll between).apply d = (w.applyAll between).apply d :=
  eq_of_readsAlike (((h.apply c).applyAll between).apply d) ((h.applyAll between).apply d)
    (.of_readers fun hread => hread.superseded hsame w between)

end Tidy

/-! ## Snapshots of worlds with a history -/

/-- What is saved after changes to the empty world. -/
def saved (history : List Write) : String := (empty.applyAll history).snapshot

/-- What is not carried cannot be taken away. -/
theorem apply_removeItem_of_absent {item : String} (h : w.hasItem item = false) :
    w.apply (.removeItem item) = w := by
  show { w with inventory := w.inventory.erase item } = w
  rw [TextMap.erase_eq_self h]

/-- **Snapshots are canonical.** Two worlds with a history are equal if every reader finds the same
in both, and just then their snapshots are the same text. So a snapshot does not tell in which order
changes about different things were made, nor that one was made again or overruled by a later one,
nor that an item was carried in between. -/
theorem snapshot_canonical :
    (∀ history history', let w := empty.applyAll history; let w' := empty.applyAll history'
      (ReadsAlike w w' ↔ w = w') ∧ (ReadsAlike w w' ↔ w.snapshot = w'.snapshot)) ∧
    ∀ first later,
      (∀ c d : Write, c.subject ≠ d.subject →
        saved (first ++ [c, d] ++ later) = saved (first ++ [d, c] ++ later)) ∧
      (∀ (c d : Write) (between : List Write), c.subject = d.subject →
        saved (first ++ (c :: between ++ [d]) ++ later) =
          saved (first ++ (between ++ [d]) ++ later)) ∧
      ∀ (item : String) (between : List Write),
        (empty.applyAll (first ++ between)).hasItem item = false →
        saved (first ++ (.addItem item :: between ++ [.removeItem item]) ++ later) =
          saved (first ++ between ++ later) := by
  constructor
  · intro history history' w w'
    have heq : ReadsAlike w w' ↔ w = w' := by
      refine ⟨(Tidy.empty.applyAll history).eq_of_readsAlike (Tidy.empty.applyAll history'),
        fun h => ?_⟩
      rw [h]
      exact .of_readers fun _ => rfl
    have hsnapshot : w.snapshot = w'.snapshot ↔ w = w' := by
      refine ⟨fun h => ?_, fun h => by rw [h]⟩
      have hrestored := congrArg restore? h
      rw [restore?_snapshot, restore?_snapshot] at hrestored
      exact Option.some.inj hrestored
    exact ⟨heq, heq.trans hsnapshot.symm⟩
  · intro first later
    have hw : Tidy (empty.applyAll first) := Tidy.empty.applyAll first
    simp only [saved, applyAll_append]
    refine ⟨fun c d hne => ?_, fun c d between hsame => ?_, fun item between habsent => ?_⟩
    · exact congrArg (fun w => (applyAll w later).snapshot) (hw.apply_swap hne)
    · exact congrArg (fun w => (applyAll w later).snapshot) (hw.apply_superseded hsame between)
    · rw [← apply_removeItem_of_absent habsent]
      exact congrArg (fun w => (applyAll w later).snapshot)
        (hw.apply_superseded (c := .addItem item) (d := .removeItem item) rfl between)

/-- A flag is set under two names for it, and an item is carried in between. -/
theorem snapshot_canonical_lamp :
    let first : List Write := [.visitRoom "bar"]
    let lit : Write := .setFlag "lamp" (.bool true)
    let bright : Write := .setFlag " misc.lamp " (.integer 2)
    lit.subject ≠ Subject.item "oil" ∧ lit.subject = bright.subject ∧
      (empty.applyAll (first ++ [bright])).hasItem "oil" = false ∧
      saved (first ++ [lit, .addItem "oil"]) = saved (first ++ [.addItem "oil", lit]) ∧
      saved (first ++ [lit, .addItem "oil", bright]) = saved (first ++ [.addItem "oil", bright]) ∧
      saved (first ++ [.addItem "oil", bright, .removeItem "oil"]) = saved (first ++ [bright]) := by
  intro first lit bright
  have hne : lit.subject ≠ Subject.item "oil" := by decide
  have hsame : lit.subject = bright.subject := by decide
  have habsent : (empty.applyAll (first ++ [bright])).hasItem "oil" = false := by decide
  obtain ⟨hswap, hsuperseded, hcarried⟩ := snapshot_canonical.2 first []
  exact ⟨hne, hsame, habsent, hswap lit (.addItem "oil") hne,
    hsuperseded lit bright [.addItem "oil"] hsame, hcarried "oil" [bright] habsent⟩

end World

end Colloquy
