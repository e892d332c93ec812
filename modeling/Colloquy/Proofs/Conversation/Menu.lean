import Colloquy.Proofs.Conversation.Chronicle
import Colloquy.Proofs.Conversation.Effects
import Mathlib.Data.List.Sort

/-!
# Menus — which choices are on offer, and in which world that is settled

A world settles one menu of a node: the choices that it allows and that are not spent, in their
order (`Session.Settles`, `Session.Settles.unique`). Which world settles the menu that comes up next
can be read off the chronicle (`Snapshot`): the world in which the node was entered, however the
world changes while its lines play, or the present one, if the choice picked last stays at its node.
`Due` is the menu that comes up now if nobody ends the conversation, and an event `Fits` if a menu
goes up, or the conversation ends for want of one, just as is due.
-/

namespace Colloquy

namespace Session

/-- A choice of the current node is on offer: its condition, if it has one, holds, and it is not one
that can be picked only once and was. -/
structure Offers (s : Session) (w : World) (index : Nat) (choice : Choice) : Prop where
  allowed : ∀ condition, choice.condition = some condition → condition.holds w = true
  unspent : choice.isOnce = true → w.isFlagSet (choice.onceFlag s.npc s.node index) = false

/-- A menu lists just the choices of the current node that are on offer, in the order of the node,
each with its text and whether it was picked before. -/
structure Settles (s : Session) (w : World) (menu : List MenuItem) : Prop where
  increasing : menu.Pairwise fun a b => a.index < b.index
  mem_iff : ∀ item, item ∈ menu ↔ ∃ node choice, s.graph.get? s.node = some node ∧
    node.choices[item.index]? = some choice ∧ s.Offers w item.index choice ∧
    item.text = choice.text ∧ item.used = s.used.isUsed s.node item.index

variable {s : Session} {w : World} {menu menu' : List MenuItem}

theorem offers_iff {index : Nat} {choice : Choice} :
    s.Offers w index choice ↔ choice.isVisible w = true ∧ s.isSpent w index choice = false := by
  have hvisible : choice.isVisible w = true ↔
      ∀ condition, choice.condition = some condition → condition.holds w = true := by
    cases hcondition : choice.condition <;>
      simp [Choice.isVisible, Condition.holdsIfAny, hcondition]
  have hspent : s.isSpent w index choice = false ↔ (choice.isOnce = true →
      w.isFlagSet (choice.onceFlag s.npc s.node index) = false) := by
    cases honce : choice.isOnce <;> simp [isSpent, honce]
  rw [hvisible, hspent]
  exact ⟨fun h => ⟨h.allowed, h.unspent⟩, fun h => ⟨h.1, h.2⟩⟩

/-- **The menu of the world is the one that it settles.** -/
theorem settles_menu? (h : s.menu? w = some menu) : s.Settles w menu where
  increasing := (lists_menu? h).2
  mem_iff := by
    obtain ⟨node, hnode, rfl⟩ := Option.map_eq_some_iff.1 h
    intro item
    constructor
    · intro hitem
      obtain ⟨⟨index, choice⟩, hmem, rfl⟩ := List.mem_map.1 hitem
      obtain ⟨hvisible, hunspent⟩ := List.mem_filter.1 hmem
      obtain ⟨hnumbered, hallowed⟩ := List.mem_filter.1 hvisible
      have hoffers : s.Offers w index choice := offers_iff.2 ⟨hallowed, by simpa using hunspent⟩
      exact ⟨node, choice, hnode, Node.mem_numbered.1 hnumbered, hoffers, rfl, rfl⟩
    · rintro ⟨node', choice, hnode', hchoice, hoffers, htext, hused⟩
      obtain rfl : node = node' := Option.some.inj (hnode.symm.trans hnode')
      obtain ⟨hallowed, hunspent⟩ := offers_iff.1 hoffers
      have hitem : s.item item.index choice = item := by
        cases item
        simp_all [Session.item]
      refine List.mem_map.2 ⟨(item.index, choice), ?_, hitem⟩
      refine List.mem_filter.2 ⟨List.mem_filter.2 ⟨Node.mem_numbered.2 hchoice, hallowed⟩, ?_⟩
      simpa using hunspent

/-- **A world settles one menu.** -/
theorem Settles.unique (h : s.Settles w menu) (h' : s.Settles w menu') : menu = menu' := by
  have hantisymm : Std.Antisymm fun a b : MenuItem => a.index < b.index :=
    ⟨fun a b hab hba => absurd hab (Nat.lt_asymm hba)⟩
  have hirrefl : Std.Irrefl fun a b : MenuItem => a.index < b.index :=
    ⟨fun a => Nat.lt_irrefl a.index⟩
  exact List.Pairwise.eq_of_mem_iff h.increasing h'.increasing
    fun item => (h.mem_iff item).trans (h'.mem_iff item).symm

end Session

/-! ## The menu that is due -/

/-- The world that settles the next menu, after a chronicle and the last pick of the run: the one in
which a node was entered last, or the present one after a choice that stays. -/
inductive Snapshot (h : Chronicle) (last : Option Pick) (now : World) : String → World → Prop where
  /-- A node was entered. -/
  | entered {node : String} {w : World} (hjuncture : h.juncture = some (.nodeEntered node, w)) :
      Snapshot h last now node w
  /-- A choice was picked that does not lead anywhere. -/
  | stayed {p : Pick} {w : World} (hjuncture : h.juncture = some (.optionsHidden, w))
      (hlast : last = some p) (hexit : p.choice.exit = false) (hnext : p.choice.nextNode = none) :
      Snapshot h last now p.node now

/-- The menu that comes up now, after a chronicle and the last pick of the run, for the character,
the dialogue and the picks of a session. -/
def Due (s : Session) (h : Chronicle) (last : Option Pick) (now : World) (menu : List MenuItem) :
    Prop :=
  ∃ node w, Snapshot h last now node w ∧ ({ s with node := node } : Session).Settles w menu

/-- What is told fits what is due: there is nothing to choose just when the menu that is due is
empty, and a menu goes up just when it is due and not empty. -/
structure Fits (s : Session) (h : Chronicle) (last : Option Pick) (event : Event) (now : World) :
    Prop where
  deadEnd_iff : event = .ended .deadEnd ↔ Due s h last now []
  shown_iff : ∀ menu, event = .optionsShown menu ↔ menu ≠ [] ∧ Due s h last now menu

section

variable {s : Session} {h : Chronicle} {last : Option Pick} {now : World}
  {menu menu' : List MenuItem}

theorem Snapshot.unique {node node' : String} {w w' : World} (hs : Snapshot h last now node w)
    (hs' : Snapshot h last now node' w') : node = node' ∧ w = w' := by
  cases hs with
  | entered hj =>
    cases hs' with
    | entered hj' => simpa using hj.symm.trans hj'
    | stayed hj' => simp [hj] at hj'
  | stayed hj hlast =>
    cases hs' with
    | entered hj' => simp [hj] at hj'
    | stayed hj' hlast' =>
      obtain rfl := Option.some.inj (hlast.symm.trans hlast')
      exact ⟨rfl, rfl⟩

theorem Due.unique (hd : Due s h last now menu) (hd' : Due s h last now menu') : menu = menu' := by
  obtain ⟨node, w, hsnapshot, hsettles⟩ := hd
  obtain ⟨node', w', hsnapshot', hsettles'⟩ := hd'
  obtain ⟨rfl, rfl⟩ := hsnapshot.unique hsnapshot'
  exact hsettles.unique hsettles'

/-- Nothing is due but after entering a node or picking a choice. -/
theorem not_due (hentered : ∀ node w, h.juncture ≠ some (.nodeEntered node, w))
    (hhidden : ∀ w, h.juncture ≠ some (.optionsHidden, w)) : ¬ Due s h last now menu := by
  rintro ⟨node, w, hsnapshot, -⟩
  cases hsnapshot with
  | entered hj => exact hentered _ _ hj
  | stayed hj => exact hhidden _ hj

/-- Nothing is due after an event that neither enters a node nor takes a menu down. -/
theorem not_due_snoc {event : Event} {w : World} (hline : event.isLine = false)
    (hentered : ∀ node, event ≠ .nodeEntered node) (hhidden : event ≠ .optionsHidden) :
    ¬ Due s (h ++ [(event, w)]) last now menu := by
  have hjuncture := Chronicle.juncture_snoc h event hline w
  exact not_due (by simp [hjuncture, hentered]) (by simp [hjuncture, hhidden])

theorem Fits.shown (hd : Due s h last now menu) (hne : menu ≠ []) :
    Fits s h last (.optionsShown menu) now where
  deadEnd_iff := by
    refine iff_of_false Event.noConfusion fun hnil => ?_
    exact hne (hd.unique hnil)
  shown_iff := by
    intro other
    constructor
    · rintro ⟨rfl⟩
      exact ⟨hne, hd⟩
    · rintro ⟨-, hother⟩
      rw [hd.unique hother]

theorem Fits.deadEnd (hd : Due s h last now []) : Fits s h last (.ended .deadEnd) now where
  deadEnd_iff := iff_of_true rfl hd
  shown_iff := by
    refine fun menu => iff_of_false Event.noConfusion ?_
    rintro ⟨hne, hmenu⟩
    exact hne (hmenu.unique hd)

/-- Where no menu is due, none goes up and none is missed. -/
theorem Fits.of_not_due {event : Event} (hd : ∀ menu, ¬ Due s h last now menu)
    (hdeadEnd : event ≠ .ended .deadEnd) (hshown : ∀ menu, event ≠ .optionsShown menu) :
    Fits s h last event now where
  deadEnd_iff := iff_of_false hdeadEnd (hd [])
  shown_iff := fun menu => iff_of_false (hshown menu) fun hmenu => hd menu hmenu.2

end

end Colloquy
