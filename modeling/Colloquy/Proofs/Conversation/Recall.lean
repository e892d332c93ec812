import Colloquy.Proofs.Condition.Conjunction
import Colloquy.Proofs.Conversation.Spent
import Colloquy.Proofs.Script.Naming

/-!
# Recall — what a pick records, as clauses test it

An annotation takes its value as it stands, commas and all, while a clause is cut at commas and told
apart by keywords. So a clause can test what a pick recorded just as far as it can spell it: a label
or an item has no comma in it, and a flag is not spelled like a test of something else. Otherwise
the clause asks for other things, and which these are is said as well.
-/

namespace Colloquy

open Text

namespace Pick

variable {p : Pick} {w : World}

/-- What a pick in the dialogue of a script names is named as a script can name it. -/
structure Labelled (p : Pick) : Prop where
  choice : p.choice.Labelled
  effects : ∀ e, p.choice.effects = some e → e.Labelled

/-- What is among the texts of the effects of a choice is a text of effects that it has. -/
theorem exists_effects {c : Choice} {texts : Effects → List String} {text : String}
    (h : text ∈ c.effects.elim [] texts) : ∃ e, c.effects = some e ∧ text ∈ texts e := by
  cases heffects : c.effects with
  | none => simp [heffects] at h
  | some e => exact ⟨e, rfl, by simpa [heffects] using h⟩

theorem Labelled.isLabel_flag (h : p.Labelled) {flag : String}
    (hflag : flag ∈ p.choice.effects.elim [] Effects.setFlags) : IsLabel flag := by
  obtain ⟨e, he, hmem⟩ := exists_effects hflag
  exact (h.effects e he).setFlags flag hmem

theorem Labelled.isLabel_added (h : p.Labelled) {item : String} (hitem : item ∈ p.added) :
    IsLabel item := by
  obtain ⟨e, he, hmem⟩ := exists_effects hitem
  exact (h.effects e he).addItems item hmem

/-- **A label without a comma is found again.** -/
theorem holds_asked_enact {label : String} (hlabel : IsLabel label)
    (hid : p.choice.id = some label) (hcomma : ',' ∉ label.toList) :
    (Condition.compile ("asked:" ++ label)).value.holds (p.enact w) = true := by
  rw [Condition.value_compile_keyword .asked hcomma, hlabel.trimmed_eq, Condition.holds,
    hasAsked_enact, hid]
  simp [hlabel.ne_empty]

/-- **So is an item without a comma.** -/
theorem holds_hasItem_enact {item : String} (hlabel : IsLabel item) (hadded : item ∈ p.added)
    (hkept : item ∉ p.removed) (hcomma : ',' ∉ item.toList) :
    (Condition.compile ("has:" ++ item)).value.holds (p.enact w) = true := by
  rw [Condition.value_compile_keyword .hasItem hcomma, hlabel.trimmed_eq, Condition.holds]
  exact hasItem_enact_of_added hadded hkept

/-- **And a flag that a clause can name.** -/
theorem holds_flag_enact {flag : String} (hlabel : IsLabel flag)
    (hflag : flag ∈ p.choice.effects.elim [] Effects.setFlags) (hcomma : ',' ∉ flag.toList)
    (hnames : Condition.NamesFlag flag.toList) :
    (Condition.compile flag).value.holds (p.enact w) = true := by
  rw [(Condition.value_compile_eq_flag_iff hlabel.filled hlabel.trimmed).2 ⟨hcomma, hnames⟩,
    Condition.holds]
  exact isFlagSet_enact_of_mem (List.mem_append_right _ hflag)

/-- Marking a label with a comma marks none without. -/
theorem hasAsked_enact_of_comma {front back : String} (hcomma : ',' ∉ front.toList)
    (hid : p.choice.id = some (front ++ "," ++ back)) :
    (p.enact w).hasAsked (trimmed front) = w.hasAsked (trimmed front) := by
  have hne : front ++ "," ++ back ≠ trimmed front := by
    intro heq
    have hmem : ',' ∈ (trimmed front).toList := by simp [← heq]
    rw [trimmed, String.toList_ofList] at hmem
    exact hcomma (mem_of_mem_trim hmem)
  rw [hasAsked_enact, hid]
  simp [hne]

end Pick

namespace Conversation

variable {c : Conversation} {s : Session} {place : Nat} {p : Pick} {g : Graph}
  {hero script : String}

/-- A pick in the dialogue of a script is named as a script can name it. -/
theorem labelled_of_pick? (hread : (Script.read hero script).value = .ok g)
    (hs : c.session = some s) (hgraph : s.graph = g) {request : Request}
    (hpick : c.pick? request = some p) : p.Labelled := by
  obtain ⟨-, -, node, hnode, hchoice⟩ := choice_of_pick hpick hs
  rw [hgraph] at hnode
  have hmem : p.choice ∈ node.choices := List.mem_of_getElem? hchoice
  exact ⟨(Script.named_of_read hread).choice p.node node hnode p.choice hmem,
    fun e he => Script.labelled_effects_of_read hread hnode hmem he⟩

/-- **What a pick records, a clause can test, as far as it can spell it.** In a conversation about
the dialogue of a script, right after a choice is picked: the test of its label holds if the label
has no comma, the test of an item that it adds and does not remove holds if the item has no comma,
and a flag that it sets, as a clause, holds if it has no comma, starts with no keyword, and has a
colon if it starts with an exclamation mark. Any other flag is, as a clause, no test of that flag. A
comma in what is recorded is a comma of the clause: the test is then about the text in front of it,
and the clause behind it has to hold as well. -/
theorem clauses_recall_pick (hread : (Script.read hero script).value = .ok g) (hc : Reached c)
    (hs : c.session = some s) (hgraph : s.graph = g) (hpick : c.pick? (.select place) = some p) :
    let w := (c.respond (.select place)).value.2.world
    let holds := fun clause => (Condition.compile clause).value.holds w
    (∀ label, p.choice.id = some label →
      (',' ∉ label.toList → holds ("asked:" ++ label) = true) ∧
      ∀ front back, label = front ++ "," ++ back → ',' ∉ front.toList →
        (holds ("asked:" ++ label) = true ↔ trimmed front ≠ "" ∧
          c.world.hasAsked (trimmed front) = true ∧ holds back = true)) ∧
    (∀ item ∈ p.added, item ∉ p.removed →
      (',' ∉ item.toList → holds ("has:" ++ item) = true) ∧
      ∀ front back, item = front ++ "," ++ back → ',' ∉ front.toList →
        (holds ("has:" ++ item) = true ↔ w.hasItem (trimmed front) = true ∧ holds back = true)) ∧
    ∀ flag ∈ p.choice.effects.elim [] Effects.setFlags,
      (',' ∉ flag.toList → Condition.NamesFlag flag.toList → holds flag = true) ∧
      ((Condition.compile flag).value = .flag flag ↔
        ',' ∉ flag.toList ∧ Condition.NamesFlag flag.toList) ∧
      ∀ front back, flag = front ++ "," ++ back →
        (holds flag = true ↔ holds front = true ∧ holds back = true) := by
  intro w holds
  have hlabelled : p.Labelled := labelled_of_pick? hread hs hgraph hpick
  have hworld : w = p.enact c.world := by
    have hresponse := world_of_response (response hc.coherent (.select place)) rfl
    rwa [hpick, Option.elim_some] at hresponse
  clear_value w
  subst hworld
  refine ⟨fun label hid => ⟨fun hcomma => ?_, ?_⟩, fun item hadded hkept => ⟨fun hcomma => ?_, ?_⟩,
    fun flag hflag => ⟨fun hcomma hnames => ?_, ?_, ?_⟩⟩
  · exact Pick.holds_asked_enact (hlabelled.choice label hid) hid hcomma
  · rintro front back rfl hcomma
    rw [← Pick.hasAsked_enact_of_comma hcomma hid]
    exact Condition.holds_compile_asked_comma hcomma back _
  · exact Pick.holds_hasItem_enact (hlabelled.isLabel_added hadded) hadded hkept hcomma
  · rintro front back rfl hcomma
    exact Condition.holds_compile_hasItem_comma hcomma back _
  · exact Pick.holds_flag_enact (hlabelled.isLabel_flag hflag) hflag hcomma hnames
  · have hlabel := hlabelled.isLabel_flag hflag
    exact Condition.value_compile_eq_flag_iff hlabel.filled hlabel.trimmed
  · rintro front back rfl
    show (Condition.compile (front ++ "," ++ back)).value.holds _ = true ↔ _
    rw [Condition.holds_compile_comma, Bool.and_eq_true]

/-- A script with a choice that is remembered by a label, an item and a flag. -/
def tavernScript (label item flag : String) : String :=
  "=== start ===\n- Order\n# id: " ++ label ++ "\n# add: " ++ item ++ "\n# set: " ++ flag ++
    "\n- Leave\n> END\n"

/-- The choice. -/
def order (label item flag : String) : Choice :=
  { text := "Order", id := some label
    effects := some { setFlags := [flag], addItems := [item] } }

/-- The dialogue of the script. -/
def tavern (label item flag : String) : Graph :=
  TextMap.empty.insert "start"
    { choices := [order label item flag, { text := "Leave", exit := true }] }

theorem clauses_recall_pick_tavern :
    let g := tavern "tea" "cup" "paid"
    let c := (fresh .empty {}).after [.enterAt "zyx" g "start"]
    let w := (c.respond (.select 0)).value.2.world
    (Script.read "nate" (tavernScript "tea" "cup" "paid")).value = .ok g ∧
      c.pick? (.select 0) = some ⟨"zyx", "start", 0, order "tea" "cup" "paid"⟩ ∧
      (Condition.compile ("asked:" ++ "tea")).value.holds w = true ∧
      (Condition.compile ("has:" ++ "cup")).value.holds w = true ∧
      (Condition.compile "paid").value.holds w = true := by
  intro g c w
  have hread : (Script.read "nate" (tavernScript "tea" "cup" "paid")).value = .ok g := by
    decide +kernel
  have hpick : c.pick? (.select 0) = some ⟨"zyx", "start", 0, order "tea" "cup" "paid"⟩ := by decide
  obtain ⟨hasked, hitem, hflag⟩ := clauses_recall_pick hread ⟨_, _, _, rfl⟩
    (s := { npc := "zyx", graph := g, node := "start" }) (by decide) rfl hpick
  exact ⟨hread, hpick, (hasked "tea" rfl).1 (by decide),
    (hitem "cup" (by decide) (by decide)).1 (by decide),
    (hflag "paid" (by decide)).1 (by decide) ⟨by decide, by simp⟩⟩

/-- With commas in what is recorded and a flag that is spelled like a test of an item, the script is
read without a remark, and none of the clauses holds after the pick. -/
theorem clauses_miss_pick :
    let g := tavern "tea,milk" "salt,pepper" "has:spoon"
    let c := (fresh .empty {}).after [.enterAt "zyx" g "start"]
    let w := (c.respond (.select 0)).value.2.world
    Script.read "nate" (tavernScript "tea,milk" "salt,pepper" "has:spoon") = pure (.ok g) ∧
      c.pick? (.select 0) =
        some ⟨"zyx", "start", 0, order "tea,milk" "salt,pepper" "has:spoon"⟩ ∧
      (Condition.compile "asked:tea,milk").value.holds w = false ∧
      (Condition.compile "has:salt,pepper").value.holds w = false ∧
      (Condition.compile "has:spoon").value.holds w = false := by
  intro g c w
  have hread : Script.read "nate" (tavernScript "tea,milk" "salt,pepper" "has:spoon") =
      pure (.ok (tavern "tea,milk" "salt,pepper" "has:spoon")) := by decide +kernel
  exact ⟨hread, by decide, by decide +kernel, by decide +kernel, by decide +kernel⟩

end Conversation

end Colloquy
