import Colloquy.Proofs.Conversation.Rest

/-!
# Skipping — a line that is cut short is a line that has run out

Whether a line may be cut short depends on the time it was credited with. That time is told by the
requests alone (`credited`): updates are credited to the lines of the chain in turn, what a line
leaves goes to the next one, and a line that comes of any other request has no time yet. The timer
on screen says the same (`credit_after`). Cutting a line short and letting it run out lead to the
same conversation, but for lines that take no time, which an update goes through and a skip does not
(`skip_then_update`).
-/

namespace Colloquy

namespace Pacing

/-- How much of an amount of time is left for the line that is on screen then, when lines stay one
after the other. -/
def carried (p : Pacing) : List Line → Nat → Nat
  | [], _ => 0
  | line :: rest, time =>
    if time < p.span line then time else p.carried rest (time - p.span line)

end Pacing

namespace TurnTimer

/-- The time that is left makes a turn complete. -/
theorem elapsed_add_remaining {t : TurnTimer} (h : t.elapsed ≤ t.duration) :
    t.elapsed.add t.remaining = t.duration := by
  have hle := t.duration.le_max
  rw [Duration.le_iff] at h
  ext
  rw [Duration.nanos_add, remaining, Duration.nanos_sub]
  omega

end TurnTimer

namespace Conversation

variable {c c' : Conversation} {p : Pacing} {turn : Turn} {dt : Duration} {n : Nat}

/-! ## The time of a line -/

/-- What a request makes of the time that the line on screen was credited with, whatever the timer
says: time that passes goes to the lines of the chain in turn, a line that another request puts on
screen has no time yet, and a request that puts none there leaves the time alone. -/
def creditAfter (c : Conversation) (time : Nat) : Request → Answer → Nat
  | .update dt, _ => c.pacing.carried c.chain (min (time + dt.nanos) maxNanos)
  | .drain, _ | .write _, _ | .replace _, _ => time
  | _, .refused _ | _, .selected .ignored | _, .skipped false => time
  | _, _ => 0

/-- The time that the line on screen after requests was credited with, if the one before was
credited with so much. -/
def credited (c : Conversation) (time : Nat) : List Request → Nat
  | [] => time
  | request :: rest =>
    let (answer, next) := (c.respond request).value
    next.credited (c.creditAfter time request answer) rest

theorem credit_of_silent (hturn : c.turn = none) : c.credit = 0 := by
  rw [credit, hturn, Option.elim_none]

/-- **An update is credited to the lines of the chain in turn.** -/
theorem RunsOut.credit_eq (h : RunsOut n c dt c') (hc : Coherent c) (ht : Timed p c) :
    c'.credit = p.carried c.chain (min (c.credit + dt.nanos) maxNanos) := by
  induction h with
  | silent hturn => rw [(hc.silent hturn).2, credit_of_silent hturn, Pacing.carried]
  | lasting hturn hlasting =>
    rw [Duration.lt_iff, Duration.nanos_add, ht.duration _ hturn] at hlasting
    rw [chain_of_turn hturn, credit_of_turn hturn, Pacing.carried, if_pos hlasting]
    rfl
  | @next n c c' dt turn hturn hdone _ ih =>
    obtain ⟨s, hready⟩ := hc.ready_silenced hturn
    have hm : Moved c.silenced c.silenced.playNext.value := moved_playNext hready
    have hspan := ht.duration turn hturn
    rw [Duration.le_iff, Duration.nanos_add, hspan] at hdone
    -- the line that comes next starts with what this one leaves
    rw [ih (coherent_of_moved hm hready) (timed_of_moved hm rfl ht.pacing), chain_of_moved hm rfl,
      credit_of_moved hm rfl, chain_of_turn hturn, credit_of_turn hturn, Pacing.carried,
      if_neg (Nat.not_lt.2 hdone), Duration.nanos_sub, Duration.nanos_add, hspan, Nat.zero_add,
      Nat.min_eq_left ((Nat.sub_le _ _).trans (Nat.min_le_right _ _))]

/-- **The timer keeps what a request makes of the time of the line.** -/
theorem credit_respond (hc : Coherent c) (ht : Timed p c) (request : Request) :
    (c.respond request).value.2.credit =
      c.creditAfter c.credit request (c.respond request).value.1 := by
  by_cases hupdate : ∃ dt, request = .update dt
  · obtain ⟨dt, rfl⟩ := hupdate
    obtain ⟨n, h⟩ := exists_runsOut hc dt
    rw [creditAfter, ht.pacing]
    exact h.credit_eq hc ht
  · have hr := response hc request
    generalize (c.respond request).value.1 = answer at hr
    generalize (c.respond request).value.2 = c' at hr
    cases hr with
    | began hs hnode hm => exact credit_of_moved hm (hc.ready_begun hs _ hnode).turn
    | picked hphase _ hs hnode hchoice hm =>
      exact credit_of_moved hm (hc.ready_picked hphase hs hnode hchoice).turn
    | elapsed => exact absurd ⟨_, rfl⟩ hupdate
    | skipped _ _ hm => exact credit_of_moved hm rfl
    | ended => rfl
    | idle hs =>
      rw [hc.fresh_of_idle (hc.idle_iff.2 hs)]
      rfl
    | alreadyActive | unknownEntry | invalidChoice | ignored | kept => rfl
    | drained | written | replaced => rfl

/-- **In every run, the timer tells the time that the line on screen was credited with.** -/
theorem credit_after (hc : Coherent c) (ht : Timed p c) (requests : List Request) :
    (c.after requests).credit = c.credited c.credit requests := by
  induction requests generalizing c with
  | nil => rfl
  | cons request rest ih =>
    rw [after_cons, ih (coherent_respond hc request) (ht.respond hc request),
      credit_respond hc ht, credited]

/-! ## Running out -/

/-- The line on screen was not credited with more than its time. -/
def InTime (c : Conversation) : Prop :=
  ∀ turn, c.turn = some turn → turn.timer.elapsed ≤ turn.timer.duration

theorem inTime_of_moved (hm : Moved c c') (hturn : c.turn = none) : c'.InTime := by
  intro turn hturn'
  rw [(started_of_moved hm hturn).2 turn hturn']
  exact Nat.zero_le _

theorem RunsOut.inTime (h : RunsOut n c dt c') (hc : Coherent c) (hin : c.InTime) : c'.InTime := by
  induction h with
  | silent => exact hin
  | lasting _ hlasting =>
    rintro _ ⟨rfl⟩
    exact Nat.le_of_lt hlasting
  | next hturn _ _ ih =>
    obtain ⟨s, hready⟩ := hc.ready_silenced hturn
    have hm : Moved _ _ := moved_playNext hready
    exact ih (coherent_of_moved hm hready) (inTime_of_moved hm rfl)

theorem InTime.respond (hin : c.InTime) (hc : Coherent c) (request : Request) :
    (c.respond request).value.2.InTime := by
  by_cases hrequest : ∃ dt, request = .update dt
  · obtain ⟨dt, rfl⟩ := hrequest
    obtain ⟨n, h⟩ := exists_runsOut hc dt
    exact h.inTime hc hin
  · intro turn hturn
    rcases (turn_of_response (response hc request) hc (not_exists.1 hrequest)).2 turn hturn with
      hsame | hstarted
    · exact hin turn hsame
    · rw [hstarted]
      exact Nat.zero_le _

theorem inTime_fresh (world : World) (pacing : Pacing) : (fresh world pacing).InTime := by
  intro turn hturn
  cases hturn

/-- **In every run, no line is credited with more than its time.** -/
theorem InTime.after (hin : c.InTime) (hc : Coherent c) (requests : List Request) :
    (c.after requests).InTime := by
  induction requests generalizing c with
  | nil => exact hin
  | cons request rest ih => exact ih (hin.respond hc request) (coherent_respond hc request)

/-- **Cutting a line short and then letting no time pass is letting it run out**, down to what is
logged. -/
theorem skip_then_update (hturn : c.turn = some turn) (hin : c.InTime) (hskip : c.canSkip = true) :
    (do (← c.skip).2.update .zero) = c.update turn.timer.remaining := by
  have htotal := turn.timer.elapsed_add_remaining (hin turn hturn)
  have hnone : turn.timer.duration.sub turn.timer.duration = .zero := by
    ext
    exact Nat.sub_self _
  rw [update_of_done hturn (Nat.le_of_eq (congrArg Duration.nanos htotal.symm)), htotal, hnone,
    skip, if_pos hskip]
  simp [bind, Noted.bind, pure, Noted.pure]

/-- **No time that passes changes nothing just if the line on screen has time left.** -/
theorem value_update_zero_eq_self_iff : (c.update .zero).value = c ↔
    ∀ rest, c.turnRemaining = some rest → Duration.zero < rest := by
  constructor
  · intro hsame rest hrest
    by_contra hnone
    obtain rfl : rest = .zero := Duration.ext (Nat.eq_zero_of_not_pos hnone)
    -- a line without time left gives way, so fewer lines are to come
    have hlt := pending_update_remaining_lt hrest
    rw [hsame] at hlt
    exact Nat.lt_irrefl _ hlt
  · intro hleft
    cases hturn : c.turn with
    | none => exact value_update_of_silent hturn _
    | some turn =>
      have hpos : Duration.zero < turn.timer.remaining := hleft _ (by simp [turnRemaining, hturn])
      have hsame : turn.timer.elapsed.add .zero = turn.timer.elapsed := by
        ext
        rw [Duration.nanos_add, Duration.nanos_zero, Nat.add_zero,
          Nat.min_eq_left turn.timer.elapsed.le_max]
      have hlasting : turn.timer.elapsed < turn.timer.duration := Nat.lt_of_sub_pos hpos
      rw [value_update_of_lasting hturn (hsame.symm ▸ hlasting), hsame, ← hturn]

/-- A line that has just appeared has time left just if it takes any. -/
theorem remaining_pos_iff_of_moved (hm : Moved c c') (hturn : c.turn = none)
    (hpacing : c.pacing = p) : (∀ rest, c'.turnRemaining = some rest → Duration.zero < rest) ↔
      ∀ line, c'.currentLine = some line → 0 < p.span line := by
  cases hturn' : c'.turn with
  | none => simp [turnRemaining, currentLine, hturn']
  | some turn =>
    have htimer := (started_of_moved hm hturn).2 turn hturn'
    rw [hpacing] at htimer
    simp [turnRemaining, currentLine, hturn', htimer, TurnTimer.remaining, TurnTimer.start,
      Duration.lt_iff, p.nanos_turnDuration]

/-- A line may be cut short just if the time that the timer shows is enough. -/
theorem canSkip_iff (ht : Timed p c) : c.canSkip = true ↔
    ∃ line, c.currentLine = some line ∧ p.skipGuard.nanos ≤ c.credit := by
  rw [canSkip, currentLine, credit, ht.pacing]
  cases c.turn <;> simp [TurnTimer.hasLasted, Duration.le_iff]

/-- **A skip is the same as letting the line run out.** Whatever was asked of a fresh conversation,
over whatever dialogues and with whatever settings: a skip is honored just if a line is on screen
that was credited with as much time as a line must have had before it can be skipped; no line is
credited with more than its time. If a skip is honored and no time passes afterwards, the
conversation is what it is if the line is credited with the time it has left, with the same records.
That no time passes makes no difference after the skip, unless a line is on screen then that takes
no time. -/
theorem skip_is_running_out (world : World) (pacing : Pacing) (requests : List Request) :
    let c := (fresh world pacing).after requests
    let time := (fresh world pacing).credited 0 requests
    (∀ line, c.currentLine = some line → time ≤ pacing.span line) ∧
    ((c.respond .skip).value.1 = .skipped true ↔
      ∃ line, c.currentLine = some line ∧ pacing.skipGuard.nanos ≤ time) ∧
    ((c.respond .skip).value.1 = .skipped true → ∃ rest, c.turnRemaining = some rest ∧
      c.after [.skip, .update .zero] = c.after [.update rest] ∧
      (c.respondAll [.skip, .update .zero]).notes = (c.respondAll [.update rest]).notes ∧
      (c.after [.skip] = c.after [.update rest] ↔
        ∀ line, (c.after [.skip]).currentLine = some line → 0 < pacing.span line)) := by
  intro c time
  have hfresh := coherent_fresh world pacing
  have hc : Coherent c := hfresh.after requests
  have ht : Timed pacing c := (timed_fresh world pacing).after hfresh requests
  have hin : c.InTime := (inTime_fresh world pacing).after hfresh requests
  have htime : c.credit = time := credit_after hfresh (timed_fresh world pacing) requests
  have hanswer : (c.respond .skip).value.1 = .skipped true ↔ c.canSkip = true := by
    cases hskip : c.canSkip <;> simp [respond, skip, hskip]
  refine ⟨fun line hline => ?_, ?_, fun hhonored => ?_⟩
  · obtain ⟨turn, hturn, rfl⟩ := Option.map_eq_some_iff.1 hline
    rw [← htime, credit_of_turn hturn, ← ht.duration turn hturn]
    exact hin turn hturn
  · rw [hanswer, canSkip_iff ht, htime]
  · have hskip := hanswer.1 hhonored
    obtain ⟨_, hline, -⟩ := (canSkip_iff ht).1 hskip
    obtain ⟨turn, hturn, -⟩ := Option.map_eq_some_iff.1 hline
    have hboth := skip_then_update hturn hin hskip
    have hsame : c.after [.skip, .update .zero] = c.after [.update turn.timer.remaining] := by
      show (do (← c.skip).2.update .zero : Logged Conversation).value = (c.update _).value
      rw [hboth]
    have hnotes : (c.respondAll [.skip, .update .zero]).notes =
        (c.respondAll [.update turn.timer.remaining]).notes := by
      simp [respondAll, respond, ← hboth]
    obtain ⟨s, hready⟩ := hc.ready_silenced hturn
    have hskipped : c.after [.skip] = c.silenced.playNext.value := by simp [respond, skip, hskip]
    refine ⟨_, by simp [turnRemaining, hturn], hsame, hnotes, ?_⟩
    rw [← hsame, eq_comm, hskipped,
      ← remaining_pos_iff_of_moved (moved_playNext hready) rfl ht.pacing, ← hskipped]
    exact value_update_zero_eq_self_iff

/-- The reply had its first tenth of a second from the line of the hero, and then two more: as much
as a line must have had before it can be skipped. -/
theorem skip_is_running_out_overheard :
    let requests := [.enterAt "zyx" parting "start", .select 0, .update (.ofMillis 1600),
      .update (.ofMillis 200)]
    let c := (fresh .empty {}).after requests
    (fresh .empty {}).credited 0 requests = 300000000 ∧
      c.currentLine = some ⟨.npc, "zyx", "Because."⟩ ∧
      (c.respond .skip).value.1 = .skipped true ∧ c.turnRemaining = some (.ofMillis 1200) ∧
      c.after [.skip] = c.after [.update (.ofMillis 1200)] := by
  intro requests c
  have hfirst : (spokenTo.update (.ofMillis 1600)).value = _ :=
    (RunsOut.next rfl (by decide) (.lasting rfl (by decide))).value_update
  have hsecond : c = _ := (congrArg (fun c => (c.update (.ofMillis 200)).value) hfirst).trans
    (RunsOut.lasting rfl (by decide)).value_update
  have htime : (fresh .empty {}).credited 0 requests = 300000000 :=
    (credit_after (coherent_fresh _ _) (timed_fresh _ _) requests).symm.trans
      (by show c.credit = _; rw [hsecond]; decide)
  have hline : c.currentLine = some ⟨.npc, "zyx", "Because."⟩ := by rw [hsecond]; decide
  have hremaining : c.turnRemaining = some (.ofMillis 1200) := by rw [hsecond]; decide
  obtain ⟨-, hhonored, hskip⟩ := skip_is_running_out .empty {} requests
  have hskipped := hhonored.2 ⟨_, hline, by rw [htime]; decide⟩
  obtain ⟨rest, hrest, -, -, hsame⟩ := hskip hskipped
  obtain rfl := Option.some.inj (hremaining.symm.trans hrest)
  exact ⟨htime, hline, hskipped, hremaining, hsame.2 fun line _ =>
    Nat.lt_of_lt_of_le (by decide : 0 < 1500000000) (Nat.le_max_left _ _)⟩

end Conversation

end Colloquy
