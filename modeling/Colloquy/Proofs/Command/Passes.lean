import Colloquy.Proofs.Command.Loop
import Colloquy.Proofs.Conversation.Effects

/-!
# Passes through the loop — what each does and what all keep

`Loop.Acts` lists what a pass can do while the fields of the conversation agree: no request is
refused and no line is missing. What a pass keeps is `Loop.Leads`, which adds up over passes. Every
pass after which the loop goes on makes progress, so the loop comes to a halt (`Loop.exists_runs`).
-/

namespace Colloquy

/-! ## The answers to a run of requests -/

namespace Conversation

/-- The answers to requests and then further ones. -/
theorem value_respondAll_append (c : Conversation) (first later : List Request) :
    (c.respondAll (first ++ later)).value =
      ((c.respondAll first).value.1 ++ ((c.after first).respondAll later).value.1,
        ((c.after first).respondAll later).value.2) := by
  induction first generalizing c with
  | nil => rfl
  | cons request first ih =>
    have hrest := ih (c.respond request).value.2
    simp only [List.cons_append, respondAll, Noted.value_bind, Noted.value_pure, hrest, after_cons]

/-- **A run picks as many choices as selections are accepted in it.** -/
theorem length_picks {c : Conversation} (h : Coherent c) (requests : List Request) :
    (c.picks requests).length =
      (c.respondAll requests).value.1.count (.selected .accepted) := by
  induction requests generalizing c with
  | nil => rfl
  | cons request rest ih =>
    have haccepted := accepted_iff_of_response (response h request)
    have hrest := ih (coherent_respond h request)
    have hanswers : (c.respondAll (request :: rest)).value.1 = (c.respond request).value.1 ::
        ((c.respond request).value.2.respondAll rest).value.1 := rfl
    rw [picks, List.length_append, hrest, hanswers, List.count_cons]
    cases hpick : c.pick? request <;> simp_all [Nat.add_comm]

end Conversation

namespace Loop

variable {l last : Loop} {p : Pass} {asked : List (Request × Answer)} {why : Halt}

/-! ## What a pass does -/

/-- What is done after the events are taken, one constructor for each way it can go. -/
inductive Acts (l : Loop) : Pass → Prop where
  /-- Nobody is talking. -/
  | idle (hs : l.conversation.session = none) : Acts l ⟨[], l, some .idle⟩
  /-- The input cannot be read. -/
  | unreadable {cues : List Cue} {unread : List Input} {s : Session}
      (hs : l.conversation.session = some s) (hphase : l.conversation.phase = .awaitingChoice)
      (hask : ask l.conversation.menu.length l.unread = (cues, .unreadable .notText, unread)) :
      Acts l ⟨[], ⟨l.cues ++ cues, l.conversation, unread⟩, some (.unreadable .notText)⟩
  /-- An item is picked. -/
  | picked {cues : List Cue} {unread : List Input} {s : Session} {place : Nat} {c : Conversation}
      (hs : l.conversation.session = some s) (hphase : l.conversation.phase = .awaitingChoice)
      (hask : ask l.conversation.menu.length l.unread = (cues, .pick place, unread))
      (hselect : (l.conversation.select place).value = .ok (.accepted, c)) :
      Acts l ⟨[(.select place, .selected .accepted)], ⟨l.cues ++ cues, c, unread⟩, none⟩
  /-- The player leaves. -/
  | left {cues : List Cue} {unread : List Input} {s : Session}
      (hs : l.conversation.session = some s) (hphase : l.conversation.phase = .awaitingChoice)
      (hask : ask l.conversation.menu.length l.unread = (cues, .leave, unread)) :
      Acts l ⟨[(.exit, .done)], ⟨l.cues ++ cues, l.conversation.ended .requested, unread⟩, none⟩
  /-- A line runs out. -/
  | played {rest : Duration} {s : Session} (hs : l.conversation.session = some s)
      (hrest : l.conversation.turnRemaining = some rest) :
      Acts l ⟨[(.update rest, .done)],
        { l with conversation := (l.conversation.update rest).value }, none⟩

/-- A prompt is answered in one of these ways. -/
theorem acts_prompt (h : l.conversation.Coherent)
    (hphase : l.conversation.phase = .awaitingChoice) : Acts l l.prompt := by
  obtain ⟨s, hs⟩ := Option.isSome_iff_exists.1 (h.awaiting hphase).1
  rcases hask : ask l.conversation.menu.length l.unread with ⟨cues, reply, unread⟩
  cases reply with
  | pick place =>
    obtain ⟨hplace, -⟩ := pick_ask _ _ hask
    obtain ⟨c, hselect⟩ := (Conversation.select_accepted_iff h place).2 ⟨hphase, hplace⟩
    have hprompt : l.prompt = ⟨[(.select place, .selected .accepted)],
        ⟨l.cues ++ cues, c, unread⟩, none⟩ := by
      simp [prompt, hask, request, Conversation.respond, hselect]
    rw [hprompt]
    exact .picked hs hphase hask hselect
  | leave =>
    have hprompt : l.prompt = ⟨[(.exit, .done)],
        ⟨l.cues ++ cues, l.conversation.ended .requested, unread⟩, none⟩ := by
      simp [prompt, hask, request, Conversation.respond, Conversation.value_exit hs]
    rw [hprompt]
    exact .left hs hphase hask
  | unreadable fault =>
    obtain ⟨rfl, -⟩ := unreadable_ask _ _ hask
    have hprompt : l.prompt = ⟨[], ⟨l.cues ++ cues, l.conversation, unread⟩,
        some (.unreadable .notText)⟩ := by
      simp [prompt, hask]
    rw [hprompt]
    exact .unreadable hs hphase hask

/-- **A pass of a coherent conversation goes one of these ways.** In none of them a request is
refused or a line missing. -/
theorem acts_act (h : l.conversation.Coherent) : Acts l l.act := by
  unfold act
  split
  · rename_i hidle
    exact .idle (h.idle_iff.1 hidle)
  · rename_i hphase
    exact acts_prompt h hphase
  all_goals
    rename_i hphase
    obtain ⟨hsession, hturn, -⟩ := h.playing (by simp [hphase]) (by simp [hphase])
    obtain ⟨s, hs⟩ := Option.isSome_iff_exists.1 hsession
    obtain ⟨turn, hturn⟩ := Option.isSome_iff_exists.1 hturn
    have hrest : l.conversation.turnRemaining = some turn.timer.remaining := by
      simp [Conversation.turnRemaining, hturn]
    rw [hrest]
    exact .played hs hrest

/-! ## What passes keep -/

/-- How often a line was asked for. -/
def prompts (l : Loop) : Nat := l.cues.count .prompt

/-- How often a line can still be asked for: once for each input, and once when the input has ended
and somebody is still talked to. -/
def budget (l : Loop) : Nat :=
  l.unread.length + if l.conversation.session.isSome then 1 else 0

theorem budget_of_session {s : Session} (hs : l.conversation.session = some s) :
    l.budget = l.unread.length + 1 := by
  simp [budget, hs]

theorem budget_of_idle (hs : l.conversation.session = none) : l.budget = l.unread.length := by
  simp [budget, hs]

theorem budget_le (l : Loop) : l.budget ≤ l.unread.length + 1 := by
  rw [budget]
  split <;> omega

/-- How many conversations were seen to end or are to end. -/
def endings (l : Loop) : Nat := l.cues.countP Cue.isEnd + l.conversation.endings

/-- Passes lead from one state of the loop to another by what they ask of the conversation. -/
structure Leads (l : Loop) (asked : List (Request × Answer)) (m : Loop) : Prop where
  /-- The answers are those of the conversation, and it is what the requests make of it. -/
  answered : (l.conversation.respondAll (asked.map Prod.fst)).value =
    (asked.map Prod.snd, m.conversation)
  /-- The world is not changed from outside. -/
  inside : ∀ request ∈ asked.map Prod.fst, request.changesWorld = false
  /-- Every selection is accepted. -/
  accepted : ∀ place answer, (.select place, answer) ∈ asked → answer = .selected .accepted
  /-- Inputs are read from the first one on. -/
  unread : m.unread <:+ l.unread
  /-- What is asked for is within the budget. -/
  prompts : m.prompts + m.budget ≤ l.prompts + l.budget
  /-- No conversation ends twice. -/
  endings : m.endings = l.endings

theorem Leads.after_eq {m : Loop} (h : Leads l asked m) :
    l.conversation.after (asked.map Prod.fst) = m.conversation := by
  rw [Conversation.after, h.answered]

theorem Leads.trans {m n : Loop} {later : List (Request × Answer)} (h : Leads l asked m)
    (h' : Leads m later n) : Leads l (asked ++ later) n where
  answered := by
    rw [List.map_append, Conversation.value_respondAll_append, h.after_eq, h.answered, h'.answered,
      List.map_append]
  inside := by
    intro request hrequest
    rw [List.map_append] at hrequest
    exact (List.mem_append.1 hrequest).elim (h.inside request) (h'.inside request)
  accepted := by
    intro place answer hmem
    exact (List.mem_append.1 hmem).elim (h.accepted place answer) (h'.accepted place answer)
  unread := h'.unread.trans h.unread
  prompts := Nat.le_trans h'.prompts h.prompts
  endings := h'.endings.trans h.endings

/-- Taking the events leads on. -/
theorem leads_tell (l : Loop) :
    Leads l [(.drain, .events l.conversation.events)] l.tell where
  answered := rfl
  inside := by simp [Request.changesWorld]
  accepted := by simp
  unread := List.suffix_rfl
  prompts := by
    have hnone : (l.conversation.events.map Cue.event).count .prompt = 0 := by
      simp [List.count_eq_zero]
    have hprompts : l.tell.prompts = l.prompts := by
      rw [Loop.prompts, Loop.prompts, tell, List.count_append, hnone, Nat.add_zero]
    have hbudget : l.tell.budget = l.budget := rfl
    exact Nat.le_of_eq (by rw [hprompts, hbudget])
  endings := by
    have htaken : (l.conversation.events.map Cue.event).countP Cue.isEnd =
        l.conversation.events.countP Event.isEnd := by
      rw [List.countP_map]
      rfl
    have hleft : l.tell.conversation.endings =
        if l.conversation.session.isSome then 1 else 0 := Nat.zero_add _
    rw [Loop.endings, Loop.endings, hleft, tell, List.countP_append, htaken,
      Conversation.endings]
    omega

/-- Asking for a line and doing what it says leads on, if somebody is talked to and nobody is any
more once the player has left. -/
theorem leads_heard {s : Session} (hs : l.conversation.session = some s) {count : Nat}
    {cues : List Cue} {reply : Reply} {unread : List Input}
    (hask : ask count l.unread = (cues, reply, unread)) {c : Conversation}
    (hanswered : (l.conversation.respondAll (asked.map Prod.fst)).value = (asked.map Prod.snd, c))
    (hinside : ∀ request ∈ asked.map Prod.fst, request.changesWorld = false)
    (haccepted : ∀ place answer, (.select place, answer) ∈ asked → answer = .selected .accepted)
    (hleft : reply = .leave → c.session = none) (hendings : c.endings = l.conversation.endings) :
    Leads l asked ⟨l.cues ++ cues, c, unread⟩ := by
  have hsuffix : unread <:+ l.unread := by simpa [hask] using suffix_ask count l.unread
  have hread : cues.count .prompt + unread.length ≤
      l.unread.length + if reply = .leave then 1 else 0 := by
    simpa only [hask] using prompts_ask count l.unread
  have hends : cues.countP Cue.isEnd = 0 := by simpa only [hask] using ends_ask count l.unread
  refine ⟨hanswered, hinside, haccepted, hsuffix, ?_, ?_⟩
  · have hprompts : (⟨l.cues ++ cues, c, unread⟩ : Loop).prompts =
        l.prompts + cues.count .prompt := List.count_append
    have hbudget : l.budget = l.unread.length + 1 := budget_of_session hs
    rw [hprompts, hbudget]
    by_cases hreply : reply = .leave
    · have hidle : (⟨l.cues ++ cues, c, unread⟩ : Loop).budget = unread.length :=
        budget_of_idle (hleft hreply)
      rw [if_pos hreply] at hread
      omega
    · have hle : (⟨l.cues ++ cues, c, unread⟩ : Loop).budget ≤ unread.length + 1 := budget_le _
      rw [if_neg hreply] at hread
      omega
  · rw [Loop.endings, Loop.endings, List.countP_append, hends, hendings, Nat.add_zero]

/-- What is done after that leads on. -/
theorem Acts.leads (h : Acts l p) (hc : l.conversation.Coherent) : Leads l p.asked p.next := by
  cases h with
  | idle hs => exact ⟨rfl, by simp, by simp, List.suffix_rfl, Nat.le_refl _, rfl⟩
  | unreadable hs hphase hask =>
    exact leads_heard hs hask rfl (by simp) (by simp) (by simp) rfl
  | picked hs hphase hask hselect =>
    refine leads_heard hs hask ?_ ?_ ?_ ?_ ?_
    · simp [Conversation.respondAll, Conversation.respond, hselect]
    · simp [Request.changesWorld]
    · simp
    · simp
    · exact Conversation.endings_of_picked hc hselect
  | left hs hphase hask =>
    refine leads_heard hs hask ?_ ?_ ?_ ?_ ?_
    · simp [Conversation.respondAll, Conversation.respond, Conversation.value_exit hs]
    · simp [Request.changesWorld]
    · simp
    · exact fun _ => rfl
    · exact Conversation.endings_ended hs .requested
  | @played rest s hs hrest =>
    have hendings : (l.conversation.update rest).value.endings = l.conversation.endings :=
      Conversation.endings_of_elapsed (Conversation.elapsed_update hc rest) hc
    refine ⟨rfl, ?_, ?_, List.suffix_rfl, ?_, ?_⟩
    · simp [Request.changesWorld]
    · simp
    · rw [budget_of_session hs]
      exact Nat.add_le_add_left (budget_le _) _
    · rw [Loop.endings, Loop.endings, hendings]

theorem coherent_tell (h : l.conversation.Coherent) : l.tell.conversation.Coherent :=
  h.congr l.conversation.world []

/-- **A pass leads on.** -/
theorem leads_pass (h : l.conversation.Coherent) : Leads l l.pass.asked l.pass.next :=
  (leads_tell l).trans ((acts_act (coherent_tell h)).leads (coherent_tell h))

theorem Leads.coherent {m : Loop} (h : Leads l asked m) (hc : l.conversation.Coherent) :
    m.conversation.Coherent :=
  h.after_eq ▸ hc.after _

/-- **Passes that come to a halt lead there.** -/
theorem Runs.leads (h : Runs l asked why last) (hc : l.conversation.Coherent) :
    Leads l asked last := by
  induction h with
  | stop => exact leads_pass hc
  | onward _ _ ih => exact (leads_pass hc).trans (ih ((leads_pass hc).coherent hc))

/-! ## The loop comes to a halt -/

/-- **A pass after which the loop goes on makes progress**: an input is read or nobody is talked to
any more, or a line has run out. -/
theorem Acts.progress (h : Acts l p) (hgoes : p.halt = none) :
    p.next.budget < l.budget ∨
      p.next.budget ≤ l.budget ∧ p.next.conversation.pending < l.conversation.pending := by
  cases h with
  | idle | unreadable => cases hgoes
  | @picked cues unread s place c hs hphase hask hselect =>
    obtain ⟨-, hread⟩ := pick_ask _ _ hask
    have hle : (⟨l.cues ++ cues, c, unread⟩ : Loop).budget ≤ unread.length + 1 := budget_le _
    rw [budget_of_session hs]
    exact .inl (Nat.lt_of_le_of_lt hle (Nat.succ_lt_succ hread))
  | @left cues unread s hs hphase hask =>
    have hsuffix : unread <:+ l.unread := by
      simpa [hask] using suffix_ask l.conversation.menu.length l.unread
    have hle : unread.length ≤ l.unread.length := hsuffix.length_le
    rw [budget_of_session hs, budget_of_idle rfl]
    exact .inl (Nat.lt_succ_of_le hle)
  | played hs hrest =>
    rw [budget_of_session hs]
    exact .inr ⟨budget_le _, Conversation.pending_update_remaining_lt hrest⟩

/-- **The loop comes to a halt**, whatever the inputs. -/
theorem exists_runs (l : Loop) (h : l.conversation.Coherent) :
    ∃ asked why last, Runs l asked why last := by
  cases hhalt : l.pass.halt with
  | some why => exact ⟨_, why, _, .stop hhalt⟩
  | none =>
    have hprogress : l.pass.next.budget < l.budget ∨ l.pass.next.budget ≤ l.budget ∧
        l.pass.next.conversation.pending < l.conversation.pending :=
      (acts_act (coherent_tell h)).progress hhalt
    obtain ⟨asked, why, last, hruns⟩ := exists_runs l.pass.next ((leads_pass h).coherent h)
    exact ⟨_, why, last, .onward hhalt hruns⟩
termination_by (l.budget, l.conversation.pending)
decreasing_by
  rcases hprogress with hless | ⟨hle, hless⟩
  · exact .left _ _ hless
  · rcases Nat.lt_or_eq_of_le hle with hlt | heq
    · exact .left _ _ hlt
    · exact heq ▸ .right _ hless

theorem Acts.halts (h : Acts l p) (hhalt : p.halt = some why)
    (hevents : l.conversation.events = []) :
    why = .idle ∧ p.next.conversation.session = none ∧ p.next.conversation.events = [] ∨
      why = .unreadable .notText ∧ .notText ∈ l.unread := by
  cases h with
  | idle hs =>
    obtain rfl := Option.some.inj hhalt
    exact .inl ⟨rfl, hs, hevents⟩
  | unreadable hs hphase hask =>
    obtain rfl := Option.some.inj hhalt
    exact .inr ⟨rfl, (unreadable_ask _ _ hask).2⟩
  | picked | left | played => cases hhalt

/-- **The loop stops where nobody is talked to, or at a line that is not text.** -/
theorem Runs.halts (h : Runs l asked why last) (hc : l.conversation.Coherent) :
    why = .idle ∧ last.conversation.session = none ∧ last.conversation.events = [] ∨
      why = .unreadable .notText ∧ .notText ∈ l.unread := by
  induction h with
  | stop hhalt => exact (acts_act (coherent_tell hc)).halts hhalt rfl
  | onward _ _ ih =>
    refine (ih ((leads_pass hc).coherent hc)).imp_right fun hunreadable => ?_
    exact ⟨hunreadable.1, (leads_pass hc).unread.subset hunreadable.2⟩

end Loop

end Colloquy
