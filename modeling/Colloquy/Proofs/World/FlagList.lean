import Colloquy.Proofs.World.Canonical
import Colloquy.Proofs.World.FlagName

/-!
# The listing of flags

The flags of a world are listed by group and then by name, under the full names they are displayed
with. No two flags share a displayed name, and every flag that was ever set is listed with its value
(`flags_listed`). Asking for a listed name finds the flag again unless its name within the group is
empty or ends with a blank; such a name is left over where the dots around a flat name are dropped
after the blanks. And the order of the listing is that of the displayed names unless one group goes
on from another one with a character in front of the dot (`flagList_sorted_iff`): the order compares
group and name one after the other, where the displayed names compare the dot.
-/

namespace Colloquy

open Text

/-- Along a list in order another relation holds if it holds wherever the order does. -/
theorem pairwise_iff_of_ordered {α : Type} {R S : α → α → Prop} {l : List α}
    (hirrefl : ∀ a, ¬ R a a) (hasymm : ∀ a b, R a b → ¬ R b a) (h : l.Pairwise R) :
    l.Pairwise S ↔ ∀ a ∈ l, ∀ b ∈ l, R a b → S a b := by
  constructor
  · intro hS a ha b hb
    have hself : ∀ a ∈ l, R a a → S a a := fun a _ haa => absurd haa (hirrefl a)
    have hbehind : l.Pairwise fun a b => R a b → S a b := hS.imp @fun a b hs (_ : R a b) => hs
    have hback : l.Pairwise (flip fun a b => R a b → S a b) :=
      h.imp fun hab hba => absurd hba (hasymm _ _ hab)
    exact hbehind.forall_of_forall_of_flip hself hback ha hb
  · exact fun hS => h.imp_of_mem fun ha hb hab => hS _ ha _ hb hab

namespace FlagName

variable {key other : FlagName}

/-- The order in which flags are listed: by group, and by name within a group. -/
def Before (key other : FlagName) : Prop :=
  key.group < other.group ∨ key.group = other.group ∧ key.name < other.name

theorem Before.irrefl (key : FlagName) : ¬ key.Before key := by
  rintro (h | ⟨-, h⟩)
  · exact String.lt_irrefl _ h
  · exact String.lt_irrefl _ h

theorem Before.asymm (h : key.Before other) : ¬ other.Before key := by
  rcases h with hgroup | ⟨hgroup, hname⟩
  · rintro (hback | ⟨hback, -⟩)
    · exact String.lt_asymm hgroup hback
    · exact String.lt_irrefl _ (hback ▸ hgroup)
  · rintro (hback | ⟨-, hback⟩)
    · exact String.lt_irrefl _ (hgroup ▸ hback)
    · exact String.lt_asymm hname hback

/-- **Names that follow each other in the listing are displayed in order**, unless the group of the
second one goes on from that of the first one with a character in front of the dot. -/
theorem Before.display_lt_iff (h : key.Before other) (ho : other.Grouped) :
    key.display < other.display ↔
      ∀ c rest, other.group.toList = key.group.toList ++ c :: rest → '.' < c := by
  rcases h with hgroup | ⟨hgroup, hname⟩
  · exact display_lt_display_iff ho hgroup
  · refine iff_of_true (display_lt_display hgroup hname) fun c rest hon => ?_
    have hlength := congrArg List.length hon
    simp [hgroup] at hlength

/-- A group that goes on from another one follows it. -/
theorem before_of_goes_on {c : Char} {rest : List Char}
    (h : other.group.toList = key.group.toList ++ c :: rest) : key.Before other := by
  refine .inl (String.lt_iff_toList_lt.2 ?_)
  rw [h]
  have hlt : key.group.toList ++ [] < key.group.toList ++ c :: rest :=
    List.append_left_lt (List.nil_lt_cons c rest)
  simpa using hlt

end FlagName

namespace World

variable {w : World} {history : List Write}

/-! ## What is filed -/

/-- The flags by their full names, in the order in which they are listed. -/
def filed (w : World) : List (FlagName × FlagValue) :=
  w.flags.entries.flatMap fun (group, flags) =>
    flags.entries.map fun (name, value) => (⟨group, name⟩, value)

theorem flagList_eq (w : World) :
    w.flagList = w.filed.map fun (key, value) => (key.display, value) := by
  simp [flagList, filed, List.map_flatMap, Function.comp_def]

theorem mem_filed {key : FlagName} {value : FlagValue} :
    (key, value) ∈ w.filed ↔ w.flagAt key = some value := by
  obtain ⟨group, name⟩ := key
  simp only [filed, List.mem_flatMap, List.mem_map, Prod.exists, Prod.mk.injEq, FlagName.mk.injEq,
    TextMap.mem_entries, flagAt, World.group]
  constructor
  · rintro ⟨g, flags, hflags, n, v, hvalue, ⟨rfl, rfl⟩, rfl⟩
    rw [hflags]
    exact hvalue
  · intro hvalue
    cases hflags : w.flags.get? group with
    | none =>
      rw [hflags] at hvalue
      cases hvalue
    | some flags =>
      rw [hflags] at hvalue
      exact ⟨group, flags, hflags, name, value, hvalue, ⟨rfl, rfl⟩, rfl⟩

/-- **What is filed stands in order, by group and then by name.** -/
theorem filed_ordered (w : World) : w.filed.Pairwise fun a b => a.1.Before b.1 := by
  refine List.pairwise_flatMap.2 ⟨fun entry _ => ?_, ?_⟩
  · exact List.pairwise_map.2 (entry.2.increasing.imp fun hname => .inr ⟨rfl, hname⟩)
  · refine w.flags.increasing.imp fun hgroup a ha b hb => ?_
    obtain ⟨_, -, rfl⟩ := List.mem_map.1 ha
    obtain ⟨_, -, rfl⟩ := List.mem_map.1 hb
    exact .inl hgroup

/-- **A flag is filed if it was ever set.** -/
theorem flagAt_applyAll_isSome_iff (history : List Write) (key : FlagName) :
    (∃ value, (empty.applyAll history).flagAt key = some value) ↔
      key ∈ history.filterMap Write.flag? := by
  have hset : ∀ raw, (∃ value, (empty.applyAll history).flag raw = some value) ↔
      .read raw ∈ history.filterMap Write.flag? := fun raw => by
    rw [← Option.isSome_iff_exists, Option.isSome_iff_ne_none, Ne, flag_applyAll_eq_none_iff]
    simp
  constructor
  · rintro ⟨value, hvalue⟩
    obtain ⟨raw, rfl⟩ := (Tidy.empty.applyAll history).names key value hvalue
    exact (hset raw).1 ⟨value, hvalue⟩
  · intro hmem
    obtain ⟨change, -, hchange⟩ := List.mem_filterMap.1 hmem
    obtain ⟨raw, -, -, rfl⟩ := Write.flag?_eq_some_iff.1 hchange
    exact (hset raw).2 hmem

theorem mem_filed_applyAll {key : FlagName} :
    (∃ value, (key, value) ∈ (empty.applyAll history).filed) ↔
      key ∈ history.filterMap Write.flag? := by
  simp only [mem_filed]
  exact flagAt_applyAll_isSome_iff history key

/-- Flags are filed in groups that names are read with. -/
theorem grouped_of_filed {entry : FlagName × FlagValue}
    (h : entry ∈ (empty.applyAll history).filed) : entry.1.Grouped := by
  obtain ⟨raw, hraw⟩ := (Tidy.empty.applyAll history).names entry.1 entry.2 (mem_filed.1 h)
  exact hraw ▸ FlagName.grouped_read raw

/-! ## What is listed -/

/-- The listing of the flags that a history of changes leaves. -/
structure ListsFlags (w : World) (history : List Write) : Prop where
  /-- No displayed name is listed twice. -/
  nodup : (w.flagList.map Prod.fst).Nodup
  /-- A flag holds a value just if it is listed with it, under its full name. -/
  flag_eq_some_iff : ∀ raw value,
    w.flag raw = some value ↔ ((FlagName.read raw).display, value) ∈ w.flagList
  /-- Every flag that was ever set is listed. -/
  lists_set : ∀ raw value, .setFlag raw value ∈ history →
    ∃ last, w.flag raw = some last ∧ ((FlagName.read raw).display, last) ∈ w.flagList
  /-- What is listed was set, and asking for the listed name finds it if the name stays as it is. -/
  listed_was_set : ∀ name value, (name, value) ∈ w.flagList →
    ∃ raw first, .setFlag raw first ∈ history ∧ (FlagName.read raw).display = name ∧
      w.flag raw = some value ∧ ((FlagName.read raw).Settled → w.flag name = some value)

theorem mem_flagList {name : String} {value : FlagValue} :
    (name, value) ∈ w.flagList ↔ ∃ key, w.flagAt key = some value ∧ key.display = name := by
  rw [flagList_eq, List.mem_map]
  constructor
  · rintro ⟨⟨key, v⟩, hmem, heq⟩
    obtain ⟨rfl, rfl⟩ := Prod.mk.inj heq
    exact ⟨key, mem_filed.1 hmem, rfl⟩
  · rintro ⟨key, hvalue, rfl⟩
    exact ⟨(key, value), mem_filed.2 hvalue, rfl⟩

theorem listsFlags (history : List Write) : (empty.applyAll history).ListsFlags history where
  nodup := by
    rw [flagList_eq, List.map_map]
    refine List.pairwise_map.2 ((filed_ordered _).imp_of_mem fun ha hb hbefore heq => ?_)
    have hsame := FlagName.display_injective (grouped_of_filed ha) (grouped_of_filed hb) heq
    exact FlagName.Before.irrefl _ (hsame ▸ hbefore)
  flag_eq_some_iff raw value := by
    rw [mem_flagList]
    refine ⟨fun hvalue => ⟨_, hvalue, rfl⟩, fun ⟨key, hvalue, heq⟩ => ?_⟩
    have hkey : key = .read raw := FlagName.display_injective
      (grouped_of_filed (mem_filed.2 hvalue)) (FlagName.grouped_read raw) heq
    rw [hkey] at hvalue
    exact hvalue
  lists_set raw value hset := by
    have hmem : .read raw ∈ history.filterMap Write.flag? := List.mem_filterMap.2 ⟨_, hset, rfl⟩
    obtain ⟨last, hlast⟩ := (flagAt_applyAll_isSome_iff history _).2 hmem
    exact ⟨last, hlast, mem_flagList.2 ⟨_, hlast, rfl⟩⟩
  listed_was_set name value hlisted := by
    obtain ⟨key, hvalue, rfl⟩ := mem_flagList.1 hlisted
    have hmem := (flagAt_applyAll_isSome_iff history key).1 ⟨value, hvalue⟩
    obtain ⟨change, hchange, hkey⟩ := List.mem_filterMap.1 hmem
    obtain ⟨raw, first, rfl, rfl⟩ := Write.flag?_eq_some_iff.1 hkey
    refine ⟨raw, first, hchange, rfl, hvalue, fun hsettled => ?_⟩
    rw [flag, (FlagName.read_display_read raw).2 hsettled]
    exact hvalue

/-- **The flags are listed, each once, and found under the names they are listed with**, as long as
these names are read as they are displayed. They are just if the name within the group is not empty
and does not end with a blank; with any other name a flag that is set alone is listed and not
found. -/
theorem flags_listed (history : List Write) (raw : String) (value : FlagValue) :
    (FlagName.read (FlagName.read raw).display = .read raw ↔ (FlagName.read raw).Settled) ∧
    ((empty.setFlag raw value).flag (FlagName.read raw).display = some value ↔
      (FlagName.read raw).Settled) ∧
    (empty.applyAll history).ListsFlags history := by
  have hback := FlagName.read_display_read raw
  refine ⟨hback, ?_, listsFlags history⟩
  rw [flag, flagAt_setFlag, ← hback]
  split
  · rename_i hsame
    exact iff_of_true rfl hsame.symm
  · rename_i hother
    exact iff_of_false (Option.some_ne_none value).symm (Ne.symm hother)

/-- A name of dots and a name with a blank in front of a dot at its end are listed under names that
find nothing. -/
theorem flags_listed_unsettled :
    let w := empty.applyAll [.setFlag "." (.bool true), .setFlag "lamp ." (.bool true)]
    w.flagList = [("misc.", .bool true), ("misc.lamp ", .bool true)] ∧
      ¬ (∀ raw, FlagName.read (FlagName.read raw).display = .read raw) ∧
      ¬ (∀ name value, (name, value) ∈ w.flagList → w.flag name = some value) := by
  intro w
  have hlist : w.flagList = [("misc.", .bool true), ("misc.lamp ", .bool true)] := by decide
  have hread : FlagName.read (FlagName.read ".").display ≠ .read "." := by decide
  have hflag : w.flag "misc." ≠ some (.bool true) := by decide
  refine ⟨hlist, fun hback => hread (hback "."), fun hfound => hflag (hfound _ _ ?_)⟩
  rw [hlist]
  exact List.mem_cons_self

/-! ## In which order -/

/-- **The names of the flags are listed in the order of their bytes** unless two groups were named
of which one goes on from the other with a character in front of the dot. The order of the listing
is by group and then by name in any case. -/
theorem flagList_sorted_iff (history : List Write) :
    let w := empty.applyAll history
    let set := history.filterMap Write.flag?
    (∃ listed : List (FlagName × FlagValue), listed.Pairwise (fun a b => a.1.Before b.1) ∧
      w.flagList = listed.map fun (key, value) => (key.display, value)) ∧
    ((w.flagList.map Prod.fst).Pairwise (fun a b => bytes a < bytes b) ↔
      ∀ key ∈ set, ∀ other ∈ set, ∀ c rest,
        other.group.toList = key.group.toList ++ c :: rest → '.' < c) := by
  intro w set
  refine ⟨⟨w.filed, filed_ordered w, flagList_eq w⟩, ?_⟩
  have hnames : (w.flagList.map Prod.fst).Pairwise (fun a b => bytes a < bytes b) ↔
      w.filed.Pairwise fun a b => a.1.display < b.1.display := by
    rw [flagList_eq, List.map_map, List.pairwise_map]
    simp only [Function.comp_apply, bytes_lt_bytes_iff]
  rw [hnames, pairwise_iff_of_ordered (fun a => FlagName.Before.irrefl a.1)
    (fun _ _ => FlagName.Before.asymm) (filed_ordered w)]
  constructor
  · intro hsorted key hkey other hother c rest hon
    obtain ⟨value, hfiled⟩ := mem_filed_applyAll.2 hkey
    obtain ⟨value', hfiled'⟩ := mem_filed_applyAll.2 hother
    have hbefore := FlagName.before_of_goes_on hon
    have hlt : key.display < other.display :=
      hsorted (key, value) hfiled (other, value') hfiled' hbefore
    exact (hbefore.display_lt_iff (grouped_of_filed hfiled')).1 hlt c rest hon
  · rintro hbehind ⟨key, value⟩ hkey ⟨other, value'⟩ hother hbefore
    have hset : key ∈ set := mem_filed_applyAll.1 ⟨value, hkey⟩
    have hset' : other ∈ set := mem_filed_applyAll.1 ⟨value', hother⟩
    exact (hbefore.display_lt_iff (grouped_of_filed hother)).2 (hbehind key hset other hset')

/-- A group that goes on with a hyphen follows in the listing, and its names come first. -/
theorem flagList_unsorted :
    let w := empty.applyAll [.setFlag "story.met" (.bool true), .setFlag "story-2.met" (.bool true)]
    w.flagList = [("story.met", .bool true), ("story-2.met", .bool true)] ∧
      ¬ (w.flagList.map Prod.fst).Pairwise (fun a b => bytes a < bytes b) := by
  intro w
  have hlist : w.flagList = [("story.met", .bool true), ("story-2.met", .bool true)] := by decide
  refine ⟨hlist, fun hsorted => ?_⟩
  have hlt : ¬ "story.met" < "story-2.met" := by decide
  rw [hlist, List.map_cons, List.pairwise_cons] at hsorted
  exact hlt (bytes_lt_bytes_iff.1 (hsorted.1 _ List.mem_cons_self))

end World

end Colloquy
