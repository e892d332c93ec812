import Colloquy.Proofs.Command.Opening
import Colloquy.Proofs.Command.Passes

/-!
# How a play finishes

A play is defined as a function of its inputs that lets all lines run out at once. The loop goes
through the same play pass by pass, and takes the events after every line; it comes to the same
(`Loop.Runs.scene_eq`), so what passes keep is said of the play (`PlayRequest.play_finishes`).
-/

namespace Colloquy

/-! ## The play as a function of its inputs -/

/-- The ending of a play whose loop stops for a reason. -/
def Halt.ending : Halt → Ending
  | .idle | .stuck => .over
  | .unreadable _ => .notText
  | .refused reason => .refused reason

namespace Scene

variable {c : Conversation} {cues : List Cue}

/-- Nothing more is heard in a play that has ended. -/
theorem value_follow_of_ended {s : Scene} (h : s.ending.isSome = true) (inputs : List Input) :
    (s.follow inputs).value = s := by
  cases inputs <;> simp [follow, h]

/-- The scene of a conversation that has no line on screen. -/
def resting (cues : List Cue) (c : Conversation) : Scene :=
  let told := cues ++ c.events.map .event
  if c.phase = .awaitingChoice then ⟨told ++ [.prompt], c.drain.2, none⟩
  else ⟨told, c.drain.2, some .over⟩

/-- A conversation is presented as it is when every line has run out. -/
theorem value_present (cues : List Cue) (c : Conversation) :
    (present cues c).value = resting cues c.fastForward.value := rfl

/-- Events that wait are presented as if they were printed already. -/
theorem value_present_behind (hc : c.Coherent) (cues : List Cue) (past : List Event) :
    (present cues (c.behind past)).value = (present (cues ++ past.map .event) c).value := by
  rw [value_present, value_present, Conversation.value_fastForward_behind hc]
  simp [resting, Conversation.behind, Conversation.drain]

/-- Letting the line on screen run out makes no difference to what is presented. -/
theorem value_present_update {rest : Duration} (h : c.turnRemaining = some rest) :
    (present cues (c.update rest).value).value = (present cues c).value := by
  rw [value_present, value_present, Conversation.value_fastForward_of_remaining h]

/-- When the player has left, the play is over. -/
theorem ending_present_exit {s : Session} (hs : c.session = some s) (cues : List Cue) :
    (present cues c.exit.value).value.ending = some .over := by
  rw [Conversation.value_exit hs, value_present, Conversation.value_fastForward_of_silent rfl]
  rfl

/-- The scene after a reply. -/
def answering (cues : List Cue) (c : Conversation) : Reply → Scene
  | .pick place =>
    match (c.select place).value with
    | .ok (_, c) => (present cues c).value
    | .error reason => ⟨cues, c, some (.refused reason)⟩
  | .leave => (present cues c.exit.value).value
  | .unreadable _ => ⟨cues, c, some .notText⟩

/-- The scene in which a line is asked for. -/
def asking (cues : List Cue) (c : Conversation) : Scene := ⟨cues ++ [.prompt], c, none⟩

theorem value_follow_asking (input : Input) (rest : List Input) :
    ((asking cues c).follow (input :: rest)).value =
      (((asking cues c).hear input).value.follow rest).value := rfl

theorem value_hear_closed :
    ((asking cues c).hear .closed).value = answering (cues ++ [.prompt, .noInput]) c .leave := by
  have hcues : cues ++ [.prompt] ++ [.noInput] = cues ++ [.prompt, .noInput] := by simp
  rw [← hcues]
  rfl

theorem value_hear_pick {place : Nat} {text : String}
    (hread : Wish.read c.menu.length text = .pick place) :
    ((asking cues c).hear (.line text)).value =
      answering (cues ++ [.prompt]) c (.pick place) := by
  simp only [asking, hear, hread, answering, Noted.value_bind]
  cases (c.select place).value <;> rfl

theorem value_hear_leave {text : String} (hread : Wish.read c.menu.length text = .leave) :
    ((asking cues c).hear (.line text)).value = answering (cues ++ [.prompt]) c .leave := by
  simp only [asking, hear, hread, answering, Noted.value_bind]

theorem value_hear_unclear {text : String} (hread : Wish.read c.menu.length text = .unclear) :
    ((asking cues c).hear (.line text)).value =
      asking (cues ++ [.prompt, .hint c.menu.length]) c := by
  simp [asking, hear, hread]

/-- **Hearing inputs at a menu is asking until a line is understood** and doing what it says. -/
theorem value_follow_ask {s : Session} (hs : c.session = some s) (cues : List Cue)
    {inputs unread : List Input} {more : List Cue} {reply : Reply}
    (hask : ask c.menu.length inputs = (more, reply, unread)) :
    ((asking cues c).follow inputs).value =
      ((answering (cues ++ more) c reply).follow unread).value := by
  fun_induction ask c.menu.length inputs generalizing cues more with
  | case1 =>
    obtain ⟨rfl, rfl, rfl⟩ := hask
    have hended := ending_present_exit hs (cues ++ [.prompt, .noInput])
    have hclosed : ((asking cues c).follow []).value = ((asking cues c).hear .closed).value := rfl
    rw [hclosed, value_hear_closed, value_follow_of_ended]
    exact hended ▸ rfl
  | case2 rest =>
    obtain ⟨rfl, rfl, rfl⟩ := hask
    rw [value_follow_asking, value_hear_closed]
  | case3 rest =>
    obtain ⟨rfl, rfl, rfl⟩ := hask
    rfl
  | case4 text rest place hread =>
    obtain ⟨rfl, rfl, rfl⟩ := hask
    rw [value_follow_asking, value_hear_pick hread]
  | case5 text rest hread =>
    obtain ⟨rfl, rfl, rfl⟩ := hask
    rw [value_follow_asking, value_hear_leave hread]
  | case6 text rest hread more' reply' unread' hrest ih =>
    obtain ⟨rfl, rfl, rfl⟩ := hask
    rw [value_follow_asking, value_hear_unclear hread, ih _ hrest, List.append_assoc]
    rfl

end Scene

/-! ## The loop comes to the same as the play -/

namespace Loop

variable {l last : Loop} {p : Pass} {asked : List (Request × Answer)} {why : Halt}

/-- The scene that a play comes to from here. -/
def scene (l : Loop) : Scene :=
  ((Scene.present l.cues l.conversation).value.follow l.unread).value

theorem scene_tell (h : l.conversation.Coherent) : l.tell.scene = l.scene := by
  have hbehind := Scene.value_present_behind (coherent_tell h) l.cues l.conversation.events
  have hconversation : l.tell.conversation.behind l.conversation.events = l.conversation :=
    Conversation.behind_drain l.conversation
  rw [hconversation] at hbehind
  rw [scene, scene, hbehind]
  rfl

/-- At a menu of which everything was printed, a play asks for a line. -/
theorem scene_of_awaiting (hc : l.conversation.Coherent) (hevents : l.conversation.events = [])
    (hphase : l.conversation.phase = .awaitingChoice) :
    l.scene = ((Scene.asking l.cues l.conversation).follow l.unread).value := by
  have hturn : l.conversation.turn = none := (hc.awaiting hphase).2.1
  have hpresent : (Scene.present l.cues l.conversation).value =
      Scene.asking l.cues l.conversation := by
    rw [Scene.value_present, Conversation.value_fastForward_of_silent hturn, Scene.resting,
      if_pos hphase, Conversation.drain_of_nil hevents, hevents]
    simp [Scene.asking]
  rw [scene, hpresent]

/-- **A pass after which the loop goes on is a part of the play.** -/
theorem Acts.scene_eq (h : Acts l p) (hc : l.conversation.Coherent)
    (hevents : l.conversation.events = []) (hgoes : p.halt = none) : p.next.scene = l.scene := by
  cases h with
  | idle | unreadable => cases hgoes
  | picked hs hphase hask hselect =>
    rw [scene_of_awaiting hc hevents hphase, Scene.value_follow_ask hs _ hask, Scene.answering,
      hselect]
    rfl
  | left hs hphase hask =>
    rw [scene_of_awaiting hc hevents hphase, Scene.value_follow_ask hs _ hask, Scene.answering,
      Conversation.value_exit hs]
    rfl
  | played hs hrest => rw [scene, scene, Scene.value_present_update hrest]

/-- **The last pass is the end of the play.** -/
theorem Acts.scene_of_halt (h : Acts l p) (hc : l.conversation.Coherent)
    (hevents : l.conversation.events = []) (hhalt : p.halt = some why) :
    l.scene = ⟨p.next.cues, p.next.conversation, some why.ending⟩ := by
  cases h with
  | idle hs =>
    obtain rfl := Option.some.inj hhalt
    have hphase : l.conversation.phase = .idle := hc.idle_iff.2 hs
    have hturn : l.conversation.turn = none := by rw [hc.fresh_of_idle hphase]; rfl
    have hpresent : (Scene.present l.cues l.conversation).value =
        ⟨l.cues, l.conversation, some .over⟩ := by
      rw [Scene.value_present, Conversation.value_fastForward_of_silent hturn, Scene.resting,
        hphase, if_neg (by decide), Conversation.drain_of_nil hevents, hevents]
      simp
    rw [scene, hpresent, Scene.value_follow_of_ended rfl]
    rfl
  | unreadable hs hphase hask =>
    obtain rfl := Option.some.inj hhalt
    rw [scene_of_awaiting hc hevents hphase, Scene.value_follow_ask hs _ hask,
      Scene.value_follow_of_ended rfl]
    rfl
  | picked | left | played => cases hhalt

/-- **The loop comes to the same as the play.** -/
theorem Runs.scene_eq (h : Runs l asked why last) (hc : l.conversation.Coherent) :
    l.scene = ⟨last.cues, last.conversation, some why.ending⟩ := by
  induction h with
  | stop hhalt =>
    rw [← scene_tell hc]
    exact (acts_act (coherent_tell hc)).scene_of_halt (coherent_tell hc) rfl hhalt
  | @onward l last asked why hgoes _ ih =>
    have hpass : l.pass.next.scene = l.tell.scene :=
      (acts_act (coherent_tell hc)).scene_eq (coherent_tell hc) rfl hgoes
    rw [← scene_tell hc, ← hpass]
    exact ih ((leads_pass hc).coherent hc)

end Loop

/-! ## Entering -/

namespace PlayRequest

variable {r : PlayRequest} {hero : String} {w : World} {read : String → Except ReadFault String}
  {c : Conversation}

/-- The dialogue that is handed out for a play. -/
def dialogue (r : PlayRequest) (hero : String) (read : String → Except ReadFault String) : Graph :=
  let library : Library :=
    { source := .folder r.scripts read
      settings := ({ folder := r.scripts } : LibrarySettings).withHero hero }
  (library.load r.npc).value.1.graph

/-- The request with which a play enters its conversation. -/
def entering (r : PlayRequest) (hero : String) (w : World)
    (read : String → Except ReadFault String) : Request :=
  .enterAt r.npc (r.dialogue hero read) (r.opening w (r.dialogue hero read))

/-- The conversation of which nothing was asked yet. -/
def unentered (hero : String) (w : World) : Conversation :=
  .fresh w (({} : Pacing).withHero hero)

/-- The conversation once it is entered, or why it cannot be. -/
def entered (r : PlayRequest) (hero : String) (w : World)
    (read : String → Except ReadFault String) : Except Refusal Conversation :=
  ((unentered hero w).enterAt r.npc (r.dialogue hero read)
    (r.opening w (r.dialogue hero read))).value

/-- A play begins with what its conversation tells once it is entered. -/
theorem value_begin_eq :
    (r.begin hero w read).value =
      match r.entered hero w read with
      | .ok c => .ok (Scene.present [] c).value
      | .error reason => .error reason.message := by
  simp only [begin, entered, unentered, dialogue, Conversation.fresh, Noted.value_bind]
  split <;> simp_all

theorem value_respond_entering (h : r.entered hero w read = .ok c) :
    ((unentered hero w).respond (r.entering hero w read)).value = (.done, c) := by
  rw [entered] at h
  simp [entering, Conversation.respond, h]

/-- What comes of entering. -/
theorem response_of_entered (h : r.entered hero w read = .ok c) :
    Conversation.Response (unentered hero w) (r.entering hero w read) .done c := by
  have hfresh : (unentered hero w).Coherent := Conversation.coherent_fresh _ _
  have hresponse := Conversation.response hfresh (r.entering hero w read)
  rwa [value_respond_entering h] at hresponse

theorem coherent_of_entered (h : r.entered hero w read = .ok c) : c.Coherent :=
  Conversation.coherent_of_response (response_of_entered h) (Conversation.coherent_fresh _ _)

/-- A conversation that is entered ends once. -/
theorem endings_of_entered (h : r.entered hero w read = .ok c) : c.endings = 1 := by
  cases response_of_entered h with
  | began hs hnode hm => exact Conversation.endings_of_moved hm rfl

/-- Entering a conversation leaves the world as it is. -/
theorem world_of_entered (h : r.entered hero w read = .ok c) : c.world = w :=
  Conversation.world_of_response (response_of_entered h) rfl

open Loop in
/-- **Every play that is entered finishes.** Whatever the script, if there is one, the game state,
the node to begin on and the inputs: the passes through the loop come to a halt, which is the end of
the play as a function of its inputs. A line is asked for at most once more than there are inputs,
and every selection is accepted. No request is refused and no line is missing: the loop stops when
the conversation is over, having shown its one end, or at a line that is not text. -/
theorem play_finishes (h : r.entered hero w read = .ok c) (inputs : List Input) :
    ∃ scene, (r.begin hero w read).value = .ok scene ∧
      (∃ asked why last, Runs ⟨[], c, inputs⟩ asked why last) ∧
      ∀ asked why last, Runs ⟨[], c, inputs⟩ asked why last →
        (scene.follow inputs).value = ⟨last.cues, last.conversation, some why.ending⟩ ∧
        last.prompts ≤ inputs.length + 1 ∧
        (∀ place answer, (.select place, answer) ∈ asked → answer = .selected .accepted) ∧
        (why = .idle ∨ why = .unreadable .notText ∧ .notText ∈ inputs) ∧
        (why = .idle → last.conversation.phase = .idle ∧ last.cues.countP Cue.isEnd = 1) := by
  have hc : c.Coherent := coherent_of_entered h
  refine ⟨(Scene.present [] c).value, by rw [value_begin_eq, h], exists_runs _ hc, ?_⟩
  intro asked why last hruns
  have hleads := hruns.leads hc
  have hlast : last.conversation.Coherent := hleads.coherent hc
  refine ⟨hruns.scene_eq hc, ?_, hleads.accepted, ?_, ?_⟩
  · have hbudget : (⟨[], c, inputs⟩ : Loop).prompts + (⟨[], c, inputs⟩ : Loop).budget ≤
        0 + (inputs.length + 1) := Nat.add_le_add_left (budget_le _) _
    have hprompts := hleads.prompts
    omega
  · exact (hruns.halts hc).imp_left And.left
  · intro hidle
    rcases hruns.halts hc with ⟨-, hs, hevents⟩ | ⟨hunreadable, -⟩
    · refine ⟨hlast.idle_iff.2 hs, ?_⟩
      have hnone : last.conversation.endings = 0 := by
        simp [Conversation.endings, hs, hevents]
      have hendings : last.cues.countP Cue.isEnd + last.conversation.endings = 0 + c.endings :=
        hleads.endings
      rw [hnone, endings_of_entered h] at hendings
      exact hendings
    · cases hidle.symm.trans hunreadable

/-- A script with a choice that stays and one that ends the conversation. -/
def parlourScript : String := "=== start ===\n- Stay\n- Bye\n> END\n"

/-- The dialogue of the script. -/
def parlour : Graph :=
  TextMap.empty.insert "start" {
    choices := [{ text := "Stay" }, { text := "Bye", exit := true }] }

/-- Reading any file gives the script. -/
def parlourFiles : String → Except ReadFault String := fun _ => .ok parlourScript

/-- The conversation about the dialogue, once it is entered. -/
def inParlour : Conversation :=
  { unentered "nate" .empty with
    phase := .awaitingChoice
    session := some { npc := "zyx", graph := parlour, node := "start" }
    menu := [⟨0, "Stay", false⟩, ⟨1, "Bye", false⟩]
    events := [.started "zyx", .nodeEntered "start",
      .optionsShown [⟨0, "Stay", false⟩, ⟨1, "Bye", false⟩]] }

/-- Lines of which two are understood before nothing is left to choose. -/
def fumbling : List Input :=
  [.line "0\n", .line "99999999999999999999\n", .line " +1 \n", .line "\n", .line "2\n",
    .line "1\n"]

theorem play_finishes_parlour :
    let r : PlayRequest := ⟨"zyx", "dialogue", "txt", none, [], [], none⟩
    r.entered "nate" .empty parlourFiles = .ok inParlour ∧
      ∃ asked last, Loop.Runs ⟨[], inParlour, fumbling⟩ asked .idle last ∧
        last.unread = [.line "1\n"] ∧ last.prompts ≤ 7 ∧
        (.select 0, .selected .accepted) ∈ asked ∧ (.select 1, .selected .accepted) ∈ asked ∧
        last.conversation.phase = .idle ∧ last.cues.countP Cue.isEnd = 1 := by
  intro r
  have hread : (Script.read (Text.lowercase "nate") parlourScript).value = .ok parlour := by
    decide +kernel
  have hdialogue : r.dialogue "nate" parlourFiles = parlour :=
    graph_load rfl (by simp [Source.fetch, parlourFiles]) hread
  have hentered : r.entered "nate" .empty parlourFiles = .ok inParlour := by
    rw [entered, hdialogue]
    rfl
  obtain ⟨scene, -, -, hfinishes⟩ := play_finishes hentered fumbling
  -- a pass for each line that is understood, and the one in which nobody is talked to any more
  have hruns := Loop.Runs.onward (l := ⟨[], inParlour, fumbling⟩) (by decide +kernel)
    (.onward (by decide +kernel) (@Loop.Runs.stop _ .idle (by decide +kernel)))
  obtain ⟨-, hprompts, -, -, hended⟩ := hfinishes _ _ _ hruns
  obtain ⟨hidle, hone⟩ := hended rfl
  exact ⟨hentered, _, _, hruns, by decide +kernel, hprompts, by decide +kernel, by decide +kernel,
    hidle, hone⟩

end PlayRequest

end Colloquy
