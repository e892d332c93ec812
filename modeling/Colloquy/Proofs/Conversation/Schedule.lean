import Colloquy.Proofs.Conversation.Credit
import Colloquy.Proofs.Conversation.PlayedOut
import Colloquy.Proofs.Conversation.Record
import Mathlib.Order.Bounds.Basic

/-!
# Schedules — when a line is on screen

The lines before the next menu or the end form a `chain`, and each of them stays for its `span`. So
there is a schedule: after so much time, so many lines of the chain are through, the next one is on
screen, and what is left of it is known to the nanosecond (`OnTime`). Time that runs past a line is
carried over to the next, so a chain keeps its schedule if what is left of it does (`OnTime.cons`),
and time that passes keeps it (`onTime_elapse`). Since updates are the time that they add up to, how
time is cut into updates has no part in it (`exact_schedule`).
-/

namespace Colloquy

namespace Pacing

/-- How long a line stays, in nanoseconds: the shortest time that a line stays, or the time to read
its characters if that is longer. -/
def span (p : Pacing) (line : Line) : Nat :=
  max p.minTurn.nanos (min (p.perChar.nanos * min line.text.length 4294967295) maxNanos)

/-- How long lines stay one after the other. -/
def stretch (p : Pacing) : List Line → Nat
  | [] => 0
  | line :: rest => p.span line + p.stretch rest

theorem nanos_turnDuration (p : Pacing) (line : Line) :
    (p.turnDuration line.text).nanos = p.span line := by
  simp [turnDuration, span, countedChars]

theorem stretch_append (p : Pacing) (first later : List Line) :
    p.stretch (first ++ later) = p.stretch first + p.stretch later := by
  induction first with
  | nil => exact (Nat.zero_add _).symm
  | cons line rest ih => rw [List.cons_append, stretch, ih, stretch, Nat.add_assoc]

/-- The more lines, the longer they stay. -/
theorem stretch_take_mono (p : Pacing) (lines : List Line) {i j : Nat} (h : i ≤ j) :
    p.stretch (lines.take i) ≤ p.stretch (lines.take j) := by
  have hsplit := congrArg p.stretch (List.take_append_drop i (lines.take j))
  rw [List.take_take, Nat.min_eq_left h, stretch_append] at hsplit
  omega

end Pacing

/-- The lines among events. -/
def spoken : List Event → List Line
  | [] => []
  | .line line :: rest => line :: spoken rest
  | .started _ :: rest | .nodeEntered _ :: rest | .optionsShown _ :: rest | .optionsHidden :: rest
  | .ended _ :: rest => spoken rest

theorem spoken_append (first later : List Event) :
    spoken (first ++ later) = spoken first ++ spoken later := by
  fun_induction spoken first <;> simp_all [spoken]

namespace Conversation

variable {c c' : Conversation} {s : Session} {turn : Turn} {p : Pacing}

/-! ## The lines to come -/

/-- The lines of the node that is gone to next, if it exists. -/
def linesAhead (c : Conversation) : List Line :=
  match c.next with
  | .enter key =>
    match c.session.bind fun s => s.graph.get? key with
    | some node => (node.introFor c.world).elim [] IntroBlock.lines
    | none => []
  | .showOptions | .offer _ | .exit => []

/-- The lines before the next menu or the end: the one on screen, those in the queue, and those of
the node that is gone to next. -/
def chain (c : Conversation) : List Line :=
  (c.turn.map Turn.line).toList ++ c.queue.map Prod.snd ++ c.linesAhead

theorem chain_of_turn (hturn : c.turn = some turn) :
    c.chain = turn.line :: c.silenced.chain := by
  simp [chain, silenced, hturn, linesAhead]

/-- No line comes before a menu that lies ahead. -/
theorem linesAhead_of_menuAhead {menu : List MenuItem} (hmenu : c.menuAhead = some menu) :
    c.linesAhead = [] := by
  unfold menuAhead at hmenu
  unfold linesAhead
  split at hmenu <;> simp_all

theorem chain_eq_nil (hturn : c.turn = none) (hqueue : c.queue = []) (hahead : c.linesAhead = []) :
    c.chain = [] := by
  simp [chain, hturn, hqueue, hahead]

/-- **Moving on leaves the lines that come as they are**, but for what is then on screen. -/
theorem chain_of_moved (hm : Moved c c') (hturn : c.turn = none) : c'.chain = c.chain := by
  induction hm with
  | line hqueue => simp [chain, play, hqueue, hturn, linesAhead]
  | menu hqueue hmenu =>
    rw [chain_eq_nil hturn hqueue (linesAhead_of_menuAhead hmenu)]
    exact chain_eq_nil hturn hqueue rfl
  | deadEnd hqueue hmenu => exact (chain_eq_nil hturn hqueue (linesAhead_of_menuAhead hmenu)).symm
  | arrival hqueue hsession hnext hnode _ ih =>
    rw [ih hturn]
    simp [chain, arrive, hqueue, hturn, linesAhead, hnext, hsession, hnode, map_introLines]
  | missing hqueue hsession hnext hnode =>
    exact (chain_eq_nil hturn hqueue (by simp [linesAhead, hnext, hsession, hnode])).symm
  | exited hqueue hnext => exact (chain_eq_nil hturn hqueue (by simp [linesAhead, hnext])).symm

/-- Moving on tells the line that is then on screen, and no other. -/
theorem spoken_of_moved (hm : Moved c c') (hturn : c.turn = none) :
    ∃ news, c'.events = c.events ++ news ∧ spoken news = (c'.turn.map Turn.line).toList := by
  induction hm with
  | line => exact ⟨_, rfl, rfl⟩
  | menu => exact ⟨_, rfl, by simp [shown, hturn, spoken]⟩
  | deadEnd | missing | exited =>
    refine ⟨_, List.append_assoc _ _ _, ?_⟩
    split <;> rfl
  | arrival _ _ _ _ _ ih =>
    obtain ⟨news, hnews, hspoken⟩ := ih hturn
    exact ⟨.nodeEntered _ :: news, by simpa [arrive] using hnews, hspoken⟩

/-- Without a line on screen a menu is up or nobody is talked to, and no line is to come. -/
theorem Coherent.silent (hc : Coherent c) (hturn : c.turn = none) :
    (c.phase = .awaitingChoice ∨ c.phase = .idle) ∧ c.chain = [] := by
  by_cases hidle : c.phase = .idle
  · refine ⟨.inr hidle, ?_⟩
    rw [hc.fresh_of_idle hidle]
    rfl
  · by_cases hawaiting : c.phase = .awaitingChoice
    · obtain ⟨-, -, hqueue, hnext⟩ := hc.awaiting hawaiting
      exact ⟨.inl hawaiting, chain_eq_nil hturn hqueue (by simp [linesAhead, hnext])⟩
    · have hsome := (hc.playing hidle hawaiting).2.1
      simp [hturn] at hsome

/-- The first of the lines is the one on screen. -/
theorem Coherent.take_chain (hc : Coherent c) :
    c.chain.take 1 = (c.turn.map Turn.line).toList := by
  cases hturn : c.turn with
  | none => simp [(hc.silent hturn).2]
  | some turn => simp [chain_of_turn hturn]

/-! ## Lines stay for their time -/

/-- The conversation keeps its settings, and the line on screen is to stay as long as they say. -/
structure Timed (p : Pacing) (c : Conversation) : Prop where
  pacing : c.pacing = p
  duration : ∀ turn, c.turn = some turn → turn.timer.duration.nanos = p.span turn.line

theorem timed_of_moved (hm : Moved c c') (hturn : c.turn = none) (hpacing : c.pacing = p) :
    Timed p c' := by
  obtain ⟨hsame, htimer⟩ := started_of_moved hm hturn
  refine ⟨hsame.trans hpacing, fun turn hturn => ?_⟩
  rw [htimer turn hturn, hpacing]
  exact p.nanos_turnDuration turn.line

/-- Time that passes keeps it so. -/
theorem Timed.update (ht : Timed p c) (hc : Coherent c) (dt : Duration) :
    Timed p (c.update dt).value := by
  fun_induction Conversation.update c dt with
  | case1 => exact ht
  | case2 c dt turn hturn timer hadvance =>
    have htimer : timer.duration = turn.timer.duration :=
      congrArg (fun advanced => advanced.2.duration) hadvance.symm
    refine ⟨ht.pacing, ?_⟩
    rintro _ ⟨rfl⟩
    rw [htimer]
    exact ht.duration turn hturn
  | case3 c dt turn hturn rest _ _ moved later ih =>
    obtain ⟨s, hready⟩ := hc.ready_silenced hturn
    have hm : Moved c.silenced c.silenced.playNext.value := moved_playNext hready
    exact ih (timed_of_moved hm rfl ht.pacing) (coherent_of_moved hm hready)

/-- Whatever else is requested, the settings stay, and the line on screen is the one from before or
has just appeared. -/
theorem turn_of_response {request : Request} {answer : Answer}
    (hr : Response c request answer c') (hc : Coherent c)
    (hrequest : ∀ dt, request ≠ .update dt) : c'.pacing = c.pacing ∧ ∀ turn, c'.turn = some turn →
      c.turn = some turn ∨ turn.timer = .start (c.pacing.turnDuration turn.line.text) := by
  have hmoved {d : Conversation} (hm : Moved d c') (hturn : d.turn = none)
      (hpacing : d.pacing = c.pacing) : c'.pacing = c.pacing ∧ ∀ turn, c'.turn = some turn →
        c.turn = some turn ∨ turn.timer = .start (c.pacing.turnDuration turn.line.text) := by
    obtain ⟨hsame, htimer⟩ := started_of_moved hm hturn
    rw [← hpacing]
    exact ⟨hsame, fun turn hturn => .inr (htimer turn hturn)⟩
  cases hr with
  | began hs hnode hm => exact hmoved hm (hc.ready_begun hs _ hnode).turn rfl
  | picked hphase _ hs hnode hchoice hm =>
    exact hmoved hm (hc.ready_picked hphase hs hnode hchoice).turn rfl
  | elapsed => exact absurd rfl (hrequest _)
  | skipped _ _ hm => exact hmoved hm rfl rfl
  | ended => exact ⟨rfl, nofun⟩
  | drained | written | replaced => exact ⟨rfl, fun _ => .inl⟩
  | alreadyActive | unknownEntry | invalidChoice | ignored | kept | idle =>
    exact ⟨rfl, fun _ => .inl⟩

/-- Every request keeps it so. -/
theorem Timed.respond (ht : Timed p c) (hc : Coherent c) (request : Request) :
    Timed p (c.respond request).value.2 := by
  by_cases hrequest : ∃ dt, request = .update dt
  · obtain ⟨dt, rfl⟩ := hrequest
    exact ht.update hc dt
  · obtain ⟨hpacing, hturn⟩ := turn_of_response (response hc request) hc (not_exists.1 hrequest)
    refine ⟨hpacing.trans ht.pacing, fun turn hturn' => ?_⟩
    rcases hturn turn hturn' with hsame | hstarted
    · exact ht.duration turn hsame
    · rw [hstarted, ht.pacing]
      exact p.nanos_turnDuration turn.line

/-- **In every run, each line is to stay for its time.** -/
theorem Timed.after (ht : Timed p c) (hc : Coherent c) (requests : List Request) :
    Timed p (c.after requests) := by
  induction requests generalizing c with
  | nil => exact ht
  | cons request rest ih => exact ih (ht.respond hc request) (coherent_respond hc request)

theorem timed_fresh (world : World) (pacing : Pacing) : Timed pacing (fresh world pacing) :=
  ⟨rfl, nofun⟩

/-! ## The schedule of a chain -/

/-- A conversation that keeps the schedule of a chain: after some time since its first line appeared,
so many of its lines are through, the next one is on screen and stays until its time is up, and what
was told meanwhile are the lines up to it. -/
structure OnTime (p : Pacing) (chain : List Line) (time through : Nat) (news : List Event)
    (c : Conversation) : Prop where
  le : through ≤ chain.length
  done : p.stretch (chain.take through) ≤ time
  next : through < chain.length → time < p.stretch (chain.take (through + 1))
  told : spoken news = (chain.take (through + 1)).tail
  playing : ∀ line, chain[through]? = some line → c.currentLine = some line ∧
    ∃ rest, c.turnRemaining = some rest ∧
      rest.nanos + time = p.stretch (chain.take (through + 1))
  silent : through = chain.length → c.turn = none

namespace OnTime

variable {chain : List Line} {time through : Nat} {news : List Event}

/-- The lines that are through are as many as have the time for it. -/
theorem isGreatest (h : OnTime p chain time through news c) :
    IsGreatest {k | k ≤ chain.length ∧ p.stretch (chain.take k) ≤ time} through := by
  refine ⟨⟨h.le, h.done⟩, ?_⟩
  rintro k ⟨hk, hdone⟩
  by_contra hlt
  have hthrough : through < k := Nat.not_le.1 hlt
  have hnext := h.next (Nat.lt_of_lt_of_le hthrough hk)
  have hmono := p.stretch_take_mono chain (Nat.succ_le_of_lt hthrough)
  exact Nat.lt_irrefl _ (Nat.lt_of_lt_of_le hnext (Nat.le_trans hmono hdone))

/-- Without any line there is nothing to wait for. -/
theorem nil (hturn : c.turn = none) (time : Nat) : OnTime p [] time 0 [] c where
  le := Nat.le_refl _
  done := Nat.zero_le _
  next := nofun
  told := rfl
  playing := nofun
  silent := fun _ => hturn

/-- **A line that is through leaves the rest of the time to the others.** -/
theorem cons (h : OnTime p chain time through news c) (line : Line) {first : List Event}
    (hfirst : spoken first = chain.take 1) :
    OnTime p (line :: chain) (p.span line + time) (through + 1) (first ++ news) c where
  le := Nat.succ_le_succ h.le
  done := by
    rw [List.take_succ_cons, Pacing.stretch]
    exact Nat.add_le_add_left h.done _
  next := fun hlt => by
    rw [List.take_succ_cons, Pacing.stretch]
    exact Nat.add_lt_add_left (h.next (Nat.lt_of_succ_lt_succ hlt)) _
  told := by
    rw [spoken_append, hfirst, h.told, List.take_succ_cons, List.tail_cons]
    cases chain <;> simp
  playing := fun next hnext => by
    obtain ⟨hline, rest, hrest, hsum⟩ := h.playing next hnext
    refine ⟨hline, rest, hrest, ?_⟩
    rw [List.take_succ_cons, Pacing.stretch, ← hsum]
    omega
  silent := fun hall => h.silent (Nat.succ.inj hall)

end OnTime

/-- The time that the line on screen has been there. -/
def credit (c : Conversation) : Nat := c.turn.elim 0 fun turn => turn.timer.elapsed.nanos

theorem credit_of_turn (hturn : c.turn = some turn) : c.credit = turn.timer.elapsed.nanos := by
  rw [credit, hturn, Option.elim_some]

/-- After moving on, a line that is on screen has just appeared. -/
theorem credit_of_moved (hm : Moved c c') (hturn : c.turn = none) : c'.credit = 0 := by
  cases hturn' : c'.turn with
  | none => simp [credit, hturn']
  | some turn =>
    rw [credit_of_turn hturn', (started_of_moved hm hturn).2 turn hturn']
    rfl

/-- A line that does not run out is the first of its chain. -/
theorem onTime_lasting (ht : Timed p c) (hturn : c.turn = some turn) {time : Nat}
    (h : turn.timer.elapsed.nanos + time < turn.timer.duration.nanos) :
    OnTime p c.chain (c.credit + time) 0 []
      { c with turn := some { turn with timer := lasting turn.timer time h } } := by
  have hspan := ht.duration turn hturn
  rw [chain_of_turn hturn, credit_of_turn hturn]
  refine ⟨Nat.zero_le _, Nat.zero_le _, fun _ => ?_, rfl, ?_, nofun⟩
  · simpa [Pacing.stretch, ← hspan] using h
  · rintro line ⟨rfl⟩
    refine ⟨rfl, _, rfl, ?_⟩
    simp only [TurnTimer.remaining, lasting, Duration.nanos_sub, List.take_succ_cons,
      List.take_zero, Pacing.stretch, ← hspan]
    omega

/-- **A conversation keeps the schedule of its chain**, however much time passes. -/
theorem onTime_elapse (hc : Coherent c) (ht : Timed p c) (time : Nat) :
    ∃ through news, (c.elapse time).events = c.events ++ news ∧
      OnTime p c.chain (c.credit + time) through news (c.elapse time) := by
  fun_induction elapse c time with
  | case1 c time hturn =>
    refine ⟨0, [], (List.append_nil _).symm, ?_⟩
    rw [(hc.silent hturn).2]
    exact .nil hturn _
  | case2 c time turn hturn hlasting =>
    exact ⟨0, [], (List.append_nil _).symm, onTime_lasting ht hturn hlasting⟩
  | case3 c time turn hturn hdone ih =>
    obtain ⟨s, hready⟩ := hc.ready_silenced hturn
    have hm : Moved c.silenced c.silenced.playNext.value := moved_playNext hready
    have hcoherent := coherent_of_moved hm hready
    obtain ⟨through, news, hnews, honTime⟩ := ih hcoherent (timed_of_moved hm rfl ht.pacing)
    obtain ⟨first, hfirst, hspoken⟩ := spoken_of_moved hm rfl
    refine ⟨through + 1, first ++ news, ?_, ?_⟩
    · rw [hnews, hfirst, List.append_assoc]
      rfl
    · -- the line had its span, and the lines that come next start with what is left of the time
      have hspan := ht.duration turn hturn
      have htime : c.credit + time = p.span turn.line +
          (c.silenced.playNext.value.credit +
            (turn.timer.elapsed.nanos + time - turn.timer.duration.nanos)) := by
        rw [credit_of_turn hturn, credit_of_moved hm rfl, ← hspan]
        omega
      rw [chain_of_turn hturn, ← chain_of_moved hm rfl, htime]
      exact honTime.cons turn.line (hspoken.trans hcoherent.take_chain.symm)

/-- **The schedule is exact, and how often time is credited has no part in it.** After any run, let
a line be on screen that has just appeared; it was told last. However the time that passes next is
cut into updates, as many lines of the chain are through as have the time for it, `k` of them, and
what was told meanwhile are the lines up to the one behind them. If there is such a line, it is on
screen and stays until its time is up; if there is none, a menu is up or the conversation is over.
Any other updates that add up to the same time leave the same conversation. -/
theorem exact_schedule (world : World) (pacing : Pacing) (requests : List Request)
    (hturn : ((fresh world pacing).after requests).turn = some turn)
    (happeared : turn.timer.elapsed = .zero) {amounts : List Duration} (hne : amounts ≠ [])
    (hfits : ((fresh world pacing).after requests).AllFitting amounts) :
    let c := (fresh world pacing).after requests
    let c' := c.after (updates amounts)
    let time := Duration.total amounts
    ((fresh world pacing).told requests).getLast? = some (.line turn.line) ∧
    (∃ k news, IsGreatest {k | k ≤ c.chain.length ∧ pacing.stretch (c.chain.take k) ≤ time} k ∧
      c'.events = c.events ++ news ∧
      spoken (.line turn.line :: news) = c.chain.take (k + 1) ∧
      (∀ line, c.chain[k]? = some line → c'.currentLine = some line ∧
        ∃ rest, c'.turnRemaining = some rest ∧
          rest.nanos + time = pacing.stretch (c.chain.take (k + 1))) ∧
      (k = c.chain.length → c'.turn = none ∧ (c'.phase = .awaitingChoice ∨ c'.phase = .idle))) ∧
    ∀ amounts' ≠ [], c.AllFitting amounts' → Duration.total amounts' = time →
      c.after (updates amounts') = c' := by
  intro c c' time
  have hfresh := coherent_fresh world pacing
  have hc : Coherent c := hfresh.after requests
  have hrecorded : Recorded c ((fresh world pacing).chronicle requests)
      ((fresh world pacing).picks requests).getLast? := by
    simpa using recorded_after hfresh (recorded_fresh world pacing) requests
  have helapse : c' = c.elapse time := after_updates hc hne hfits
  refine ⟨?_, ?_, ?_⟩
  · obtain ⟨⟨w, hlast⟩, -⟩ := hrecorded.playing turn hturn
    have htold : (fresh world pacing).told requests =
        ((fresh world pacing).chronicle requests).map Prod.fst :=
      told_eq_chronicle hfresh requests
    rw [htold, List.getLast?_map, hlast]
    rfl
  · obtain ⟨k, news, hnews, honTime⟩ :=
      onTime_elapse hc ((timed_fresh world pacing).after hfresh requests) time
    have hcredit : c.credit = 0 := by
      rw [credit_of_turn hturn, happeared]
      rfl
    rw [hcredit, Nat.zero_add, ← helapse] at honTime
    refine ⟨k, news, honTime.isGreatest, helapse ▸ hnews, ?_, honTime.playing, fun hall => ?_⟩
    · rw [spoken, honTime.told, chain_of_turn hturn, List.take_succ_cons, List.tail_cons]
    · exact ⟨honTime.silent hall, ((hc.after _).silent (honTime.silent hall)).1⟩
  · intro amounts' hne' hfits' hsum
    rw [after_updates hc hne' hfits', hsum, helapse]

/-- A run after which the hero has just begun to speak, with two lines to come, the second of them at
another node. -/
def spokenTo : Conversation := (fresh .empty {}).after [.enterAt "zyx" parting "start", .select 0]

theorem exact_schedule_spokenTo :
    spokenTo.chain =
        [⟨.hero, "nate", "Why?"⟩, ⟨.npc, "zyx", "Because."⟩, ⟨.npc, "zyx", "Here."⟩] ∧
      (spokenTo.after (updates [.ofMillis 1000, .ofMillis 2500])).currentLine =
        some ⟨.npc, "zyx", "Here."⟩ ∧
      (spokenTo.after (updates [.ofMillis 1000, .ofMillis 2500])).turnRemaining =
        some (.ofMillis 1000) := by
  have hchain : spokenTo.chain =
      [⟨.hero, "nate", "Why?"⟩, ⟨.npc, "zyx", "Because."⟩, ⟨.npc, "zyx", "Here."⟩] := by decide
  have hturn : spokenTo.turn = some ⟨⟨.hero, "nate", "Why?"⟩, .start (.ofMillis 1500)⟩ := by decide
  have hfits : spokenTo.AllFitting [.ofMillis 1000, .ofMillis 2500] := by
    refine ⟨?_, ?_, trivial⟩
    · intro turn hturn'
      obtain rfl := Option.some.inj (hturn.symm.trans hturn')
      decide
    · rw [value_update_of_lasting hturn (by decide)]
      rintro turn ⟨rfl⟩
      decide
  obtain ⟨-, ⟨k, news, hk, -, -, hplaying, -⟩, -⟩ := exact_schedule .empty {}
    [.enterAt "zyx" parting "start", .select 0] hturn rfl (List.cons_ne_nil _ _) hfits
  rw [show (fresh .empty {}).after [.enterAt "zyx" parting "start", .select 0] = spokenTo from rfl,
    hchain] at hk hplaying
  -- two lines have the time for it, and all three have not
  have htwo : 2 ≤ k := hk.2 ⟨by decide, by decide⟩
  have hthree : k ≤ 3 := hk.1.1
  obtain rfl | rfl : k = 2 ∨ k = 3 := by omega
  · obtain ⟨hline, rest, hrest, hsum⟩ := hplaying _ rfl
    have hsecond : rest.nanos = 1000000000 := by
      have hstretch : rest.nanos + 3500000000 = 4500000000 := hsum
      omega
    exact ⟨hchain, hline, hrest.trans (congrArg some (Duration.ext hsecond))⟩
  · exact absurd hk.1.2 (by decide)

end Conversation

end Colloquy
