import Colloquy.Proofs.Conversation.Refused
import Colloquy.Proofs.Dialogue.Entry
import Colloquy.Proofs.Library.Kept
import Mathlib.Data.List.Induction

/-!
# Fallbacks — a load that fails leaves a way out

Without a dialogue a load hands out the fallback, and a game that goes on with it must not get
stuck. To a conversation the fallback is a dialogue like any other: nothing in entering a node or in
picking a choice looks for it. So what comes of a talk over it follows from the moves of
conversations: there are no lines, so entering comes to the menu at once (`value_enterAt_fallback`);
the only choice has no condition and cannot be spent, and picking it ends the conversation and
leaves no trace but the events (`value_select_atFallback`).

That a load fails is said of the source alone, which may change meanwhile (`UnreadableSince`): what
was read before the last drop is forgotten, and what could not be read since then is not kept.
-/

namespace Colloquy

/-! ## Loads that fail -/

namespace Library

variable {l start : Library} {npc : String} {requests : List Request}

/-- The script of a character cannot be fetched, or what is fetched yields no dialogue. -/
inductive Unreadable (l : Library) (npc : String) : Prop where
  | unfetched {e : LoadError} (hfetch : (l.source.fetch npc).value = .error e) : Unreadable l npc
  | unusable {script : String} {e : ScriptError} (hfetch : (l.source.fetch npc).value = .ok script)
      (hread : (Script.read l.settings.hero script).value = .error e) : Unreadable l npc

/-- **A script is unreadable just if reading it fails.** -/
theorem unreadable_iff :
    l.Unreadable npc ↔ ∃ e, dialogueFrom l.settings l.source npc = .error e := by
  unfold dialogueFrom
  constructor
  · rintro (hfetch | ⟨hfetch, hread⟩)
    · exact ⟨_, by rw [hfetch]⟩
    · exact ⟨_, by simp only [hfetch, hread]; rfl⟩
  · rintro ⟨e, hread⟩
    cases hfetch : (l.source.fetch npc).value with
    | error e => exact .unfetched hfetch
    | ok script =>
      cases hscript : (Script.read l.settings.hero script).value with
      | error e => exact .unusable hfetch hscript
      | ok graph => simp [hfetch, hscript, Except.mapError] at hread

/-- At no time since it was last dropped could the dialogue of a character be read. -/
def UnreadableSince (start : Library) (requests : List Request) (npc : String) : Prop :=
  ∀ first later, requests = first ++ later → (∀ request ∈ later, request.drops npc = false) →
    (start.after first).Unreadable npc

theorem UnreadableSince.now (h : start.UnreadableSince requests npc) :
    (start.after requests).Unreadable npc :=
  h requests [] (List.append_nil _).symm nofun

/-- Where no dialogue of a character is kept, none is kept after a load that fails. -/
theorem Unreadable.get?_kept_respond (h : l.Unreadable npc) (hkept : l.kept.get? npc = none)
    (request : Request) : (l.respond request).value.2.kept.get? npc = none := by
  obtain ⟨e, hread⟩ := unreadable_iff.1 h
  rw [Library.get?_kept_respond, hkept, hread]
  simp [Except.toOption]

/-- **What could not be read since it was dropped is not kept.** -/
theorem UnreadableSince.get?_kept (hstart : start.kept = .empty)
    (h : start.UnreadableSince requests npc) : (start.after requests).kept.get? npc = none := by
  -- the latest request drops the dialogue, or it comes after requests of which the same is known
  induction requests using List.reverseRecOn with
  | nil => rw [after, List.foldl_nil, hstart, TextMap.get?_empty]
  | append_singleton before request ih =>
    rw [after_snoc]
    cases hdrops : request.drops npc with
    | true => rw [Library.get?_kept_respond, if_pos hdrops]
    | false =>
      have hbefore : start.UnreadableSince before npc := by
        rintro first later rfl hlater
        refine h first (later ++ [request]) (List.append_assoc _ _ _) fun r hr => ?_
        rcases List.mem_append.1 hr with hr | hr
        · exact hlater r hr
        · rwa [List.mem_singleton.1 hr]
      exact hbefore.now.get?_kept_respond (ih hbefore) request

theorem settings_after (start : Library) (requests : List Request) :
    (start.after requests).settings = start.settings := by
  induction requests generalizing start with
  | nil => rfl
  | cons request rest ih => exact (ih _).trans (source_respond start request).2

/-- **A load that fails hands out the fallback.** -/
theorem UnreadableSince.graph_load (hstart : start.kept = .empty)
    (h : start.UnreadableSince requests npc) :
    ((start.after requests).load npc).value.1.graph =
      Graph.fallback start.settings.fallbackText := by
  obtain ⟨e, hread⟩ := unreadable_iff.1 h.now
  rw [value_load_of_not_kept (h.get?_kept hstart), hread, orFallback, settings_after]

/-- Where no script is put, the source stays as it is. -/
theorem source_after (hput : ∀ request ∈ requests, ∀ source, request.restock source = source) :
    (start.after requests).source = start.source := by
  induction requests generalizing start with
  | nil => rfl
  | cons request rest ih =>
    refine (ih fun r hr => hput r (List.mem_cons_of_mem _ hr)).trans ?_
    rw [(source_respond start request).1, hput request List.mem_cons_self]

/-- So a script that is unreadable is so at any time. -/
theorem Unreadable.since (h : start.Unreadable npc)
    (hput : ∀ request ∈ requests, ∀ source, request.restock source = source) :
    start.UnreadableSince requests npc := by
  rintro first later rfl -
  have hsource : (start.after first).source = start.source :=
    source_after fun r hr => hput r (List.mem_append_left later hr)
  rw [unreadable_iff, hsource, settings_after]
  exact unreadable_iff.1 h

end Library

/-! ## The fallback as a dialogue -/

namespace Graph

/-- The only choice of a fallback. -/
def wayOut (text : String) : Choice := { text := text, exit := true }

/-- The only node of a fallback. -/
def fallbackNode (text : String) : Node := { choices := [wayOut text] }

theorem get?_fallback (text key : String) :
    (fallback text).get? key = if startNode = key then some (fallbackNode text) else none := by
  rw [fallback, TextMap.get?_insert, TextMap.get?_empty]
  rfl

theorem get?_fallback_start (text : String) :
    (fallback text).get? startNode = some (fallbackNode text) := by
  rw [get?_fallback, if_pos rfl]

theorem contains_fallback_start (text : String) : (fallback text).contains startNode = true := by
  rw [TextMap.contains, get?_fallback_start]
  rfl

/-- **Every conversation over a fallback opens on its start node**, in every world. -/
theorem entryNode_fallback (text : String) (w : World) (npc : String) :
    (fallback text).entryNode w npc = some startNode := by
  have hnone (test : Node → Bool) (htest : test (fallbackNode text) = false) :
      (fallback text).firstKey? test = none := by
    refine firstKey?_eq_none_iff.2 fun key n hn => ?_
    rw [get?_fallback] at hn
    obtain ⟨-, hn⟩ := Option.ite_none_right_eq_some.1 hn
    rwa [← Option.some.inj hn]
  -- no node is meant for a state or a default one, so the start node is what is left
  unfold entryNode
  rw [hnone (fun n => n.isDefault && mayOpenOn w n) rfl, contains_fallback_start]
  cases w.npcState npc with
  | none => rfl
  | some state =>
    rw [Option.bind_some, hnone _ rfl]
    rfl

end Graph

/-! ## A conversation over it -/

/-- Whether a request lets time pass or asks to cut a line short, and no more. -/
def Request.waits : Request → Bool
  | .update _ | .skip => true
  | .enterAt .. | .select _ | .exit | .drain | .write _ | .replace _ => false

namespace Conversation

variable {c : Conversation} {requests : List Request}

/-- **Without a line on screen, waiting changes nothing.** -/
theorem after_of_waits (hturn : c.turn = none) (h : ∀ request ∈ requests, request.waits = true) :
    c.after requests = c := by
  induction requests with
  | nil => rfl
  | cons request rest ih =>
    have hstays : (c.respond request).value.2 = c := by
      cases request with
      | update dt => rw [value_respond_of_inapplicable (.silent hturn dt)]
      | skip => rw [value_respond_of_inapplicable (.kept (by simp [skip, canSkip, hturn]))]
      | enterAt | select | exit | drain | write | replace => cases h _ List.mem_cons_self
    rw [after_cons, hstays]
    exact ih fun r hr => h r (List.mem_cons_of_mem _ hr)

/-- The session of a conversation over a fallback. -/
def fallbackSession (npc text : String) : Session :=
  { npc := npc, graph := .fallback text, node := Graph.startNode }

/-- The menu of a fallback. -/
def fallbackMenu (text : String) : List MenuItem := [⟨0, text, false⟩]

/-- The conversation with the menu of a fallback up. -/
def atFallback (c : Conversation) (npc text : String) : Conversation :=
  { c with
    phase := .awaitingChoice
    session := some (fallbackSession npc text)
    menu := fallbackMenu text
    events := c.events ++ [.started npc, .nodeEntered Graph.startNode,
      .optionsShown (fallbackMenu text)] }

/-- The menu of a fallback is its choice, in every world. -/
theorem menu?_fallbackSession (npc text : String) (w : World) :
    (fallbackSession npc text).menu? w = some (fallbackMenu text) := by
  unfold Session.menu? fallbackSession
  rw [Graph.get?_fallback_start]
  rfl

/-- **Entering a fallback comes to its menu at once.** -/
theorem value_enterAt_fallback (h : Coherent c) (hidle : c.phase = .idle) (npc text : String) :
    (c.enterAt npc (Graph.fallback text) Graph.startNode).value = .ok (c.atFallback npc text) := by
  have hnode := Graph.contains_fallback_start text
  have hs : c.session = none := h.idle_iff.1 hidle
  have hqueue : (c.begun npc (Graph.fallback text) Graph.startNode).queue = [] := by
    rw [h.fresh_of_idle hidle]
    rfl
  rw [value_enterAt h hs hnode, playNext_of_noLines (h.ready_begun hs npc hnode) hqueue rfl
    (Graph.get?_fallback_start text) rfl (menu?_fallbackSession npc text c.world)
    (List.cons_ne_nil _ _), h.fresh_of_idle hidle]
  simp [begun, arrive, shown, atFallback, fallbackSession, fresh, introLines, Graph.fallbackNode,
    Node.introFor]

/-- **Picking the choice of a fallback ends the conversation**, which is then as it was before it
began, but for the events. -/
theorem value_select_atFallback (h : Coherent c) (hidle : c.phase = .idle) (npc text : String) :
    ((c.atFallback npc text).select 0).value =
      .ok (.accepted, { c with events :=
        (c.atFallback npc text).events ++ [.optionsHidden, .ended .exited] }) := by
  have hqueue : (picked (c.atFallback npc text) (fallbackSession npc text) 0
      (Graph.wayOut text)).queue = [] := by
    rw [h.fresh_of_idle hidle]
    rfl
  rw [value_select rfl rfl rfl (Graph.get?_fallback_start text) rfl, playNext_of_exit hqueue rfl,
    h.fresh_of_idle hidle]
  simp [ended, picked, atFallback, fresh, Graph.wayOut, Choice.writes, Choice.isOnce,
    World.applyAll]

/-! ## From the load to the way out -/

/-- **A load that fails never leaves the player without a way out.** From a library in which nothing
is kept, whatever it was asked for and whatever became of its source: if the dialogue of a character
could not be read at any time since it was last dropped, then a load hands out a dialogue on whose
start node every conversation opens, in every world. Any idle conversation, in any world and at any
pace, may be entered there with anybody. No line plays; at once the menu is up and has one choice,
which shows the fallback text. However much time passes and whatever is skipped, it stays up. The
choice can be picked and ends the conversation, which is then idle, in the same world, and as it was
before but for the events. -/
theorem failed_load_leaves_way_out {start : Library} (hstart : start.kept = .empty)
    {before : List Library.Request} {npc : String} (hfails : start.UnreadableSince before npc) :
    let g := ((start.after before).load npc).value.1.graph
    let menu : List MenuItem := [⟨0, start.settings.fallbackText, false⟩]
    (∀ w other, g.entryNode w other = some "start") ∧
    ∀ (c : Conversation) (other : String), Reached c → c.phase = .idle → ∃ met left,
      (c.enterAt other g "start").value = .ok met ∧
      met.phase = .awaitingChoice ∧ met.menu = menu ∧ met.isActive = true ∧
      met.events = c.events ++ [.started other, .nodeEntered "start", .optionsShown menu] ∧
      (∀ requests : List Request, (∀ request ∈ requests, request.waits = true) →
        met.after requests = met) ∧
      (met.select 0).value = .ok (.accepted, left) ∧
      left.events = met.events ++ [.optionsHidden, .ended .exited] ∧
      left.phase = .idle ∧ left.isActive = false ∧ left.world = c.world ∧
      left = { c with events := left.events } := by
  intro g menu
  have hg : g = Graph.fallback start.settings.fallbackText := hfails.graph_load hstart
  clear_value g
  subst hg
  refine ⟨Graph.entryNode_fallback _, fun c other hreached hidle => ?_⟩
  have hc : Coherent c := hreached.coherent
  have hactive : c.isActive = false := by rw [isActive, hc.idle_iff.1 hidle, Option.isSome_none]
  have hturn : (c.atFallback other start.settings.fallbackText).turn = none := by
    rw [hc.fresh_of_idle hidle]
    rfl
  exact ⟨_, _, value_enterAt_fallback hc hidle other _, rfl, rfl, rfl, rfl,
    fun requests => after_of_waits hturn, value_select_atFallback hc hidle other _, rfl, hidle,
    hactive, rfl, rfl⟩

/-- A library over files that are all gone. -/
def lostFiles : Library := { source := .folder {} fun _ => .error .missing }

/-- Somebody angry is talked to again after a talk that was broken off, though the files are gone
and stay so. -/
theorem failed_load_leaves_way_out_lostFiles :
    let g := ((lostFiles.after [.load "zyx", .clear]).load "zyx").value.1.graph
    let w := World.empty.apply (.setNpcState "zyx" "angry")
    let c := (fresh w {}).after [.enterAt "zyx" porch "start", .exit, .drain]
    let menu : List MenuItem := [⟨0, defaultFallbackText, false⟩]
    g.entryNode w "zyx" = some "start" ∧ ∃ met left,
      (c.enterAt "zyx" g "start").value = .ok met ∧ met.menu = menu ∧
      met.after [.update (.ofNanos 1), .skip] = met ∧
      (met.select 0).value = .ok (.accepted, left) ∧
      left.events = [.started "zyx", .nodeEntered "start", .optionsShown menu, .optionsHidden,
        .ended .exited] ∧
      left.isActive = false ∧ left.world = w := by
  intro g w c menu
  have hkept : lostFiles.kept = .empty := rfl
  have hlost : lostFiles.Unreadable "zyx" := .unfetched rfl
  have hfails : lostFiles.UnreadableSince [.load "zyx", .clear] "zyx" :=
    hlost.since fun request hrequest source => by
      simp only [List.mem_cons, List.not_mem_nil, or_false] at hrequest
      rcases hrequest with rfl | rfl <;> rfl
  have hevents : c.events = [] := by decide
  have hidle : c.phase = .idle := by decide
  have hworld : c.world = w := by decide
  obtain ⟨hentry, hentered⟩ := failed_load_leaves_way_out hkept hfails
  obtain ⟨met, left, hmet, -, hmenu, -, hshown, hwaits, hleft, hended, -, hactive, hsame, -⟩ :=
    hentered c "zyx" ⟨_, _, _, rfl⟩ hidle
  refine ⟨hentry w "zyx", met, left, hmet, hmenu, hwaits _ (by simp [Request.waits]), hleft, ?_,
    hactive, hsame.trans hworld⟩
  rw [hended, hshown, hevents]
  rfl

end Conversation

end Colloquy
