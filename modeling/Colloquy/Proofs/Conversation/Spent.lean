import Colloquy.Proofs.Conversation.Showing

/-!
# Spent choices — what can be picked only once is not offered again

Picking a choice that can be picked only once sets a flag of the world, and no pick ever unsets a
flag. Unless somebody else does, every world from then on has the flag set, and since every menu
from then on is settled by one of these worlds, none of them offers the choice: not in the same
conversation and not in a later one, whatever else is picked meanwhile.
-/

namespace Colloquy

/-- A request does not change from outside whether a flag is set: a change that files a value under
its name files one that counts as `set` says, and in a world that is put in the place of the present
one the flag counts as `set` says. -/
def Request.Keeps (flag : String) (set : Bool) : Request → Prop
  | .write (.setFlag name value) => FlagName.read name = .read flag → value.isTruthy = set
  | .replace world => world.isFlagSet flag = set
  | .write (.addItem _) | .write (.removeItem _) | .write (.visitRoom _)
  | .write (.setNpcState _ _) | .write (.markAsked _) => True
  | .enterAt .. | .select _ | .update _ | .skip | .exit | .drain => True

namespace Pick

variable {p : Pick} {w : World} {flag : String}

/-- **A pick unsets no flag.** -/
theorem isFlagSet_enact (h : w.isFlagSet flag = true) : (p.enact w).isFlagSet flag = true := by
  rw [World.isFlagSet, World.flag, flagAt_enact]
  split
  · rfl
  · exact h

/-- A pick sets its flags. -/
theorem isFlagSet_enact_of_mem (h : flag ∈ p.flags) : (p.enact w).isFlagSet flag = true := by
  rw [World.isFlagSet, World.flag, flagAt_enact, if_pos (List.mem_map_of_mem h)]
  rfl

/-- A pick spends a choice that can be picked only once. -/
theorem isFlagSet_enact_self (honce : p.choice.isOnce = true) :
    (p.enact w).isFlagSet (p.choice.onceFlag p.npc p.node p.index) = true := by
  refine isFlagSet_enact_of_mem ?_
  rw [flags, if_pos honce]
  exact List.mem_append_left _ List.mem_cons_self

end Pick

namespace Conversation

variable {c c' : Conversation} {flag : String} {set : Bool}

/-! ## Flags in the course of a run -/

/-- What neither a pick nor anybody outside changes about a flag stays as it is. -/
theorem isFlagSet_of_response {request : Request} {answer : Answer}
    (hr : Response c request answer c') (hkeeps : request.Keeps flag set)
    (hpick : ∀ p, c.pick? request = some p → (p.enact c.world).isFlagSet flag = set)
    (hflag : c.world.isFlagSet flag = set) : c'.world.isFlagSet flag = set := by
  -- a request that is none of the changes from outside changes the world by its pick only
  cases hinside : request.changesWorld with
  | false =>
    rw [world_of_response hr hinside]
    cases hp : c.pick? request with
    | none => exact hflag
    | some p => exact hpick p hp
  | true =>
    cases hr with
    | replaced world => exact hkeeps
    | written change =>
      cases change with
      | setFlag name value =>
        show (c.world.setFlag name value).isFlagSet flag = set
        rw [World.isFlagSet, World.flag, World.flagAt_setFlag]
        split
        · rename_i hname
          exact hkeeps hname
        · exact hflag
      | addItem | removeItem | visitRoom | setNpcState | markAsked => exact hflag
    | began | alreadyActive | unknownEntry | picked | invalidChoice | ignored | elapsed | skipped
      | kept | ended | idle | drained => cases hinside

/-- **A flag that neither a pick of a run changes nor anybody outside is set as it was before.** -/
theorem isFlagSet_after (hc : Coherent c) {requests : List Request}
    (hkeeps : ∀ request ∈ requests, request.Keeps flag set)
    (hpicks : ∀ p ∈ c.picks requests, ∀ w : World, w.isFlagSet flag = set →
      (p.enact w).isFlagSet flag = set)
    (hflag : c.world.isFlagSet flag = set) : (c.after requests).world.isFlagSet flag = set := by
  induction requests generalizing c with
  | nil => exact hflag
  | cons request rest ih =>
    have hfirst : (c.respond request).value.2.world.isFlagSet flag = set := by
      refine isFlagSet_of_response (response hc request) (hkeeps request List.mem_cons_self)
        (fun p hp => hpicks p ?_ _ hflag) hflag
      rw [picks, hp]
      exact List.mem_cons_self
    exact ih (coherent_respond hc request) (fun r hr => hkeeps r (List.mem_cons_of_mem _ hr))
      (fun p hp => hpicks p (List.mem_append_right _ hp)) hfirst

/-! ## After a pick -/

/-- After a pick of a choice that can be picked only once, every world has it spent. -/
theorem isFlagSet_since_pick (hc : Coherent c) {place : Nat} {p : Pick}
    (hpick : c.pick? (.select place) = some p) (honce : p.choice.isOnce = true)
    {later : List Request}
    (hkeeps : ∀ request ∈ later,
      request.Keeps (p.choice.onceFlag p.npc p.node p.index) true) :
    (c.after (.select place :: later)).world.isFlagSet
      (p.choice.onceFlag p.npc p.node p.index) = true := by
  have hworld := world_of_response (response hc (.select place)) rfl
  rw [hpick, Option.elim_some] at hworld
  rw [after_cons]
  refine isFlagSet_after (coherent_respond hc _) hkeeps (fun _ _ _ => Pick.isFlagSet_enact) ?_
  rw [hworld]
  exact Pick.isFlagSet_enact_self honce

/-- A picked choice is one of its node. -/
theorem choice_of_pick {request : Request} {p : Pick} (hpick : c.pick? request = some p)
    {s : Session} (hs : c.session = some s) :
    p.npc = s.npc ∧ p.node = s.node ∧
      ∃ node, s.graph.get? p.node = some node ∧ node.choices[p.index]? = some p.choice := by
  cases request with
  | select place =>
    rw [pick?] at hpick
    obtain ⟨-, hpick⟩ := Option.ite_none_right_eq_some.1 hpick
    obtain ⟨item, -, hpick⟩ := Option.bind_eq_some_iff.1 hpick
    obtain ⟨s', hs', hpick⟩ := Option.bind_eq_some_iff.1 hpick
    obtain rfl : s = s' := Option.some.inj (hs.symm.trans hs')
    obtain ⟨node, hnode, hpick⟩ := Option.bind_eq_some_iff.1 hpick
    obtain ⟨choice, hchoice, hpick⟩ := Option.bind_eq_some_iff.1 hpick
    obtain rfl := Option.some.inj hpick
    exact ⟨rfl, rfl, node, hnode, hchoice⟩
  | enterAt | update | skip | exit | drain | write | replace => cases hpick

/-- The menu that is up some time after a pick of a choice that can be picked only once does not
have it, if it is a menu of its node. -/
theorem not_offered_since_pick (hc : Coherent c) {h : Chronicle} {last : Option Pick}
    (hr : Recorded c h last) {s : Session} (hs : c.session = some s) {place : Nat} {p : Pick}
    (hpick : c.pick? (.select place) = some p) (honce : p.choice.isOnce = true)
    {later : List Request}
    (hkeeps : ∀ request ∈ later, request.Keeps (p.choice.onceFlag p.npc p.node p.index) true)
    (hphase : (c.after (.select place :: later)).phase = .awaitingChoice) :
    ∃ s', (c.after (.select place :: later)).session = some s' ∧
      (s'.npc = p.npc → s'.graph = s.graph → s'.node = p.node →
        ∀ item ∈ (c.after (.select place :: later)).menu, item.index ≠ p.index) := by
  obtain ⟨s', front, back, hs', rfl, hsettles⟩ := settled_since_pick hc hr hpick hphase
  -- the world that settled the menu has the choice spent
  have hspent := isFlagSet_since_pick hc hpick honce fun request hrequest =>
    hkeeps request (List.mem_append_left back hrequest)
  refine ⟨s', hs', fun hnpc hgraph hnode item hitem hindex => ?_⟩
  obtain ⟨-, -, node, hknown, hchoice⟩ := choice_of_pick hpick hs
  rw [← hgraph, ← hnode] at hknown
  have hoffers := (hsettles.mem_index_iff hknown hchoice).1 ⟨item, hitem, hindex⟩
  have hunspent := hoffers.unspent honce
  rw [hnpc, hnode, hspent] at hunspent
  cases hunspent

/-- **A choice that can be picked only once is not offered again.** Let a run come to a conversation
`c` in which such a choice is picked, and go on in any way in which nobody unsets its flag from
outside. Whenever a request from the pick on tells that a menu goes up, this menu is up when the
request is answered, and if the character, the dialogue and the node are those of the pick, then the
choice is not in it. -/
theorem not_shown_again {world : World} {pacing : Pacing} {first : List Request}
    (hreached : c = (fresh world pacing).after first) {s : Session} (hs : c.session = some s)
    {place : Nat} {p : Pick} (hpick : c.pick? (.select place) = some p)
    (honce : p.choice.isOnce = true) {later : List Request}
    (hkeeps : ∀ request ∈ later, request.Keeps (p.choice.onceFlag p.npc p.node p.index) true)
    {before after : List Request} {request : Request}
    (hsplit : .select place :: later = before ++ request :: after) {menu : List MenuItem}
    (hmenu : .optionsShown menu ∈ (c.after before).news request) :
    (c.after (before ++ [request])).menu = menu ∧
      ∃ s', (c.after (before ++ [request])).session = some s' ∧
        (s'.npc = p.npc → s'.graph = s.graph → s'.node = p.node →
          ∀ item ∈ menu, item.index ≠ p.index) := by
  have hc : Coherent c := hreached ▸ (coherent_fresh world pacing).after first
  have hr : Recorded c _ _ :=
    hreached ▸ recorded_after (coherent_fresh world pacing) (recorded_fresh world pacing) first
  obtain ⟨between, hbetween, hlater, hphase, rfl⟩ := shown_in_run hc hsplit hmenu
  have hbefore : ∀ r ∈ between, r.Keeps (p.choice.onceFlag p.npc p.node p.index) true := by
    intro r hr
    refine hkeeps r ?_
    rw [hlater]
    exact List.mem_append_left after hr
  rw [hbetween]
  exact ⟨rfl, not_offered_since_pick hc hr hs hpick honce hbefore hphase⟩

/-- A question that can be asked only once. -/
def question : Choice := { text := "Ask", effects := some { once := true } }

/-- A dialogue of a question, a choice that stays, and one that ends. -/
def riddle : Graph := TextMap.empty.insert "start"
  { choices := [question, { text := "Ponder" }, { text := "Leave", exit := true }] }

theorem not_shown_again_riddle :
    let c := (fresh .empty {}).after [.enterAt "sphinx" riddle "start"]
    let before : List Request :=
      [.select 0, .select 0, .write (.setFlag "once.sphinx.start.0" (.integer 1)), .exit]
    let request : Request := .enterAt "sphinx" riddle "start"
    let menu : List MenuItem := [⟨1, "Ponder", false⟩, ⟨2, "Leave", false⟩]
    c.menu = ⟨0, "Ask", false⟩ :: menu ∧ .optionsShown menu ∈ (c.after before).news request ∧
      (c.after (before ++ [request])).menu = menu ∧ ∀ item ∈ menu, item.index ≠ 0 := by
  intro c before request menu
  have hs : c.session = some { npc := "sphinx", graph := riddle, node := "start" } := by decide
  have hpick : c.pick? (.select 0) = some ⟨"sphinx", "start", 0, question⟩ := by decide
  have hsplit : .select 0 :: [.select 0, .write (.setFlag "once.sphinx.start.0" (.integer 1)),
      .exit, .enterAt "sphinx" riddle "start"] = before ++ request :: [] := rfl
  have hkeeps : ∀ request ∈ ([.select 0, .write (.setFlag "once.sphinx.start.0" (.integer 1)),
      .exit, .enterAt "sphinx" riddle "start"] : List Request),
      request.Keeps (question.onceFlag "sphinx" "start" 0) true := by
    intro r hr
    simp only [List.mem_cons, List.not_mem_nil, or_false] at hr
    rcases hr with rfl | rfl | rfl | rfl
    · trivial
    · exact fun _ => by decide
    · trivial
    · trivial
  have hmenu : .optionsShown menu ∈ (c.after before).news request := by decide
  have hreached : c = (fresh .empty {}).after [.enterAt "sphinx" riddle "start"] := rfl
  obtain ⟨hup, s', hs', hwithout⟩ :=
    not_shown_again hreached hs hpick rfl hkeeps hsplit hmenu
  have hsession : (c.after (before ++ [request])).session =
      some { npc := "sphinx", graph := riddle, node := "start" } := by decide
  obtain rfl := Option.some.inj (hsession.symm.trans hs')
  exact ⟨by decide, hmenu, hup, hwithout rfl rfl rfl⟩

end Conversation

end Colloquy
