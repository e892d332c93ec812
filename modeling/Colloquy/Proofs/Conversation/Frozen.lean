import Colloquy.Proofs.Conversation.Credit
import Colloquy.Proofs.Conversation.Record

/-!
# Frozen menus — the world has no say while the lines of a node play

The menu behind the lines of a node is settled on entering it. So while they play, two conversations
that differ in nothing but the world stay so whatever is asked of them (`respond_inWorld`), and how
often the world is changed from outside meanwhile does not matter (`after_withoutWrites`). With the
agreement of conversations and their chronicles this says which menus go up, what settles them, and
when there is nothing to choose (`menus_follow_snapshots`).
-/

namespace Colloquy

namespace Conversation

variable {c : Conversation} {s : Session}

/-- The conversation in another world. -/
def inWorld (c : Conversation) (w : World) : Conversation := { c with world := w }

/-! ## What does not depend on the world -/

theorem menuAhead_of_offer {menu : List MenuItem} (hnext : c.next = .offer menu) :
    c.menuAhead = some menu := by
  simp [menuAhead, hnext]

/-- Moving on to a settled menu does not look at the world. -/
theorem playNext_inWorld (hs : c.session = some s) {menu : List MenuItem}
    (hnext : c.next = .offer menu) (w : World) :
    (c.inWorld w).playNext.value = c.playNext.value.inWorld w := by
  cases hqueue : c.queue with
  | cons entry rest => simp [playNext, inWorld, hqueue, play]
  | nil =>
    rw [playNext_of_menuAhead hs hqueue (menuAhead_of_offer hnext),
      playNext_of_menuAhead (c := c.inWorld w) hs hqueue (menuAhead_of_offer hnext)]
    split <;> rfl

/-- After moving on to a settled menu, no line is left or the menu is settled still. -/
theorem next_playNext (hs : c.session = some s) (hturn : c.turn = none) {menu : List MenuItem}
    (hnext : c.next = .offer menu) : c.playNext.value.turn = none ∨
      c.playNext.value.session = some s ∧ c.playNext.value.next = .offer menu := by
  cases hqueue : c.queue with
  | cons entry rest => simp [playNext, hqueue, play, hs, hnext]
  | nil =>
    refine .inl ?_
    rw [playNext_of_menuAhead hs hqueue (menuAhead_of_offer hnext)]
    split
    · rfl
    · exact hturn

/-- Time that passes before a settled menu does not look at the world. -/
theorem update_inWorld {menu : List MenuItem}
    (hsettled : c.turn = none ∨ c.session = some s ∧ c.next = .offer menu) (w : World)
    (dt : Duration) : ((c.inWorld w).update dt).value = (c.update dt).value.inWorld w := by
  induction hpending : c.pending using Nat.strongRecOn generalizing c dt with
  | ind n ih =>
    cases hturn : c.turn with
    | none => rw [value_update_of_silent hturn, value_update_of_silent (c := c.inWorld w) hturn]
    | some turn =>
      obtain ⟨hs, hnext⟩ := hsettled.resolve_left (by simp [hturn])
      by_cases h : turn.timer.elapsed.add dt < turn.timer.duration
      · rw [value_update_of_lasting hturn h, value_update_of_lasting (c := c.inWorld w) hturn h]
        rfl
      · have hdone : turn.timer.duration ≤ turn.timer.elapsed.add dt := Nat.not_lt.1 h
        have hplay : (c.inWorld w).silenced.playNext.value =
            c.silenced.playNext.value.inWorld w := playNext_inWorld (c := c.silenced) hs hnext w
        rw [value_update_of_done hturn hdone,
          value_update_of_done (c := c.inWorld w) hturn hdone, hplay]
        exact ih _ (hpending ▸ pending_playNext_lt hturn)
          (next_playNext (c := c.silenced) hs rfl hnext) _ rfl

/-- While the lines of a node play, the menu behind them is settled. -/
theorem Coherent.offer_of_playingIntro (hc : Coherent c) (hphase : c.phase = .playingIntro) :
    c.session.isSome ∧ ∃ menu, c.next = .offer menu := by
  obtain ⟨hs, -, -, hlineup⟩ := hc.playing (by simp [hphase]) (by simp [hphase])
  rw [hphase] at hlineup
  exact ⟨hs, hlineup.2⟩

/-- **While the lines of a node play, no answer depends on the world**, and neither does what comes
of the request. -/
theorem respond_inWorld (hc : Coherent c) (hphase : c.phase = .playingIntro) {request : Request}
    (hinside : request.changesWorld = false) (w : World) :
    ((c.inWorld w).respond request).value =
      ((c.respond request).value.1, (c.respond request).value.2.inWorld w) := by
  obtain ⟨hsome, menu, hnext⟩ := hc.offer_of_playingIntro hphase
  obtain ⟨s, hs⟩ := Option.isSome_iff_exists.1 hsome
  cases request with
  | enterAt npc graph node => simp [respond, enterAt, inWorld, hs]
  | select place => simp [respond, select, inWorld, hphase]
  | update dt =>
    have hupdate := update_inWorld (.inr ⟨hs, hnext⟩) w dt
    simp only [respond, Noted.value_bind, Noted.value_pure, hupdate]
  | skip =>
    have hplay : (c.inWorld w).silenced.playNext.value =
        c.silenced.playNext.value.inWorld w := playNext_inWorld (c := c.silenced) hs hnext w
    have hskip : (c.inWorld w).canSkip = c.canSkip := rfl
    cases hcan : c.canSkip <;> simp [respond, skip, hskip, hcan, hplay]
  | exit => simp [respond, exit, isActive, inWorld, hs, finish, ended]
  | drain => rfl
  | write | replace => cases hinside

/-! ## Writes between the lines -/

/-- Every one of the requests is made while the lines of a node play. -/
def DuringIntro (c : Conversation) : List Request → Prop
  | [] => True
  | request :: rest => c.phase = .playingIntro ∧ (c.respond request).value.2.DuringIntro rest

instance decidableDuringIntro : (c : Conversation) → (requests : List Request) →
    Decidable (c.DuringIntro requests)
  | _, [] => .isTrue trivial
  | c, request :: rest =>
    have := decidableDuringIntro (c.respond request).value.2 rest
    inferInstanceAs (Decidable (c.phase = .playingIntro ∧ _))

/-- The requests that do not change the world from outside. -/
def withoutWrites (requests : List Request) : List Request :=
  requests.filter fun request => !request.changesWorld

/-- Requests that change nothing from outside come to the same in another world. -/
theorem after_inWorld (hc : Coherent c) {requests : List Request} (hduring : c.DuringIntro requests)
    (hinside : ∀ request ∈ requests, request.changesWorld = false) (w : World) :
    (c.inWorld w).DuringIntro requests ∧
      (c.inWorld w).after requests = (c.after requests).inWorld w ∧
      (c.inWorld w).told requests = c.told requests := by
  induction requests generalizing c with
  | nil => exact ⟨trivial, rfl, rfl⟩
  | cons request rest ih =>
    have hrespond := respond_inWorld hc hduring.1 (hinside request List.mem_cons_self) w
    obtain ⟨hrest, hafter, htold⟩ := ih (coherent_respond hc request) hduring.2
      fun r hr => hinside r (List.mem_cons_of_mem _ hr)
    refine ⟨⟨hduring.1, ?_⟩, ?_, ?_⟩
    · rw [hrespond]
      exact hrest
    · rw [after_cons, after_cons, hrespond]
      exact hafter
    · rw [told_cons, told_cons, hrespond, htold]

/-- A write comes to another world and to nothing else. -/
theorem respond_write (c : Conversation) {request : Request}
    (hwrites : request.changesWorld = true) :
    ∃ w, (c.respond request).value = (.done, c.inWorld w) := by
  cases request with
  | write change => exact ⟨_, rfl⟩
  | replace world => exact ⟨world, rfl⟩
  | enterAt | select | update | skip | exit | drain => cases hwrites

theorem inside_of_mem_withoutWrites {requests : List Request} :
    ∀ request ∈ withoutWrites requests, request.changesWorld = false :=
  fun _ hmem => by simpa using (List.mem_filter.1 hmem).2

theorem withoutWrites_cons_write {request : Request} (hwrites : request.changesWorld = true)
    (rest : List Request) : withoutWrites (request :: rest) = withoutWrites rest := by
  simp [withoutWrites, hwrites]

theorem withoutWrites_cons {request : Request} (hinside : request.changesWorld = false)
    (rest : List Request) : withoutWrites (request :: rest) = request :: withoutWrites rest := by
  simp [withoutWrites, hinside]

/-- Without the writes, the other requests are still made while the lines of the node play. -/
theorem DuringIntro.withoutWrites (hc : Coherent c) {requests : List Request}
    (hduring : c.DuringIntro requests) : c.DuringIntro (withoutWrites requests) := by
  induction requests generalizing c with
  | nil => exact trivial
  | cons request rest ih =>
    have hrest := ih (coherent_respond hc request) hduring.2
    cases hwrites : request.changesWorld with
    | false =>
      rw [withoutWrites_cons hwrites]
      exact ⟨hduring.1, hrest⟩
    | true =>
      obtain ⟨w, hrespond⟩ := respond_write c hwrites
      have hcw : Coherent (c.inWorld w) := hc.congr w c.events
      rw [hrespond] at hrest
      rw [withoutWrites_cons_write hwrites]
      exact (after_inWorld hcw hrest inside_of_mem_withoutWrites c.world).1

/-- **While the lines of a node play, writes change the world and nothing else.** -/
theorem after_withoutWrites (hc : Coherent c) {requests : List Request}
    (hduring : c.DuringIntro (withoutWrites requests)) :
    (∃ w, c.after requests = (c.after (withoutWrites requests)).inWorld w) ∧
      c.told requests = c.told (withoutWrites requests) := by
  induction requests generalizing c with
  | nil => exact ⟨⟨c.world, rfl⟩, rfl⟩
  | cons request rest ih =>
    cases hwrites : request.changesWorld with
    | false =>
      rw [withoutWrites_cons hwrites] at hduring ⊢
      obtain ⟨⟨w, hafter⟩, htold⟩ := ih (coherent_respond hc request) hduring.2
      refine ⟨⟨w, hafter⟩, ?_⟩
      rw [told_cons, told_cons, htold]
    | true =>
      obtain ⟨w, hrespond⟩ := respond_write c hwrites
      have hcw : Coherent (c.inWorld w) := hc.congr w c.events
      rw [withoutWrites_cons_write hwrites] at hduring ⊢
      -- the rest starts in another world, where it comes to the same
      obtain ⟨hduring', hafter, htold⟩ :=
        after_inWorld hc hduring inside_of_mem_withoutWrites w
      obtain ⟨⟨w', hafter'⟩, htold'⟩ := ih hcw hduring'
      rw [after_cons, told_cons, hrespond]
      refine ⟨⟨w', ?_⟩, ?_⟩
      · rw [hafter', hafter]
        rfl
      · exact (List.nil_append _).trans (htold'.trans htold)

/-! ## Menus follow their snapshots -/

/-- **Menus follow their snapshots.** The chronicle of a run has all that was told in it. If a menu
is up, it was told last, and it is the menu of the current node that the snapshot settles: the world
in which the node was entered, or, after a choice that stays, the one in which the lines were
through. Whatever is asked next, an event other than a line or an end from outside tells that there
is nothing to choose just when the menu that is due by the snapshot is empty, and it puts a menu up
just when that menu is due and not empty. And requests that are made while the lines of a node play
come to the same, but for the world, whatever is done to the world between them. -/
theorem menus_follow_snapshots (world : World) (pacing : Pacing) (requests : List Request) :
    let start := fresh world pacing
    let c := start.after requests
    let h := start.chronicle requests
    start.told requests = h.map Prod.fst ∧
    (c.phase = .awaitingChoice → ∃ s before now w, c.session = some s ∧
      h = before ++ [(.optionsShown c.menu, now)] ∧
      Snapshot before (start.picks requests).getLast? now s.node w ∧ s.Settles w c.menu) ∧
    (∀ request before event now after,
      c.chronicle [request] = before ++ (event, now) :: after →
      event.isLine = false → event ≠ .ended .requested →
      ∃ s, c.party request = some s ∧
        Fits s (h ++ before) (start.picks (requests ++ [request])).getLast? event now) ∧
    ∀ later later', c.DuringIntro later → withoutWrites later = withoutWrites later' →
      (∃ w, c.after later' = { c.after later with world := w }) ∧ c.told later' = c.told later := by
  intro start c h
  have hfresh := coherent_fresh world pacing
  have hc : Coherent c := hfresh.after requests
  have hrecorded : Recorded c h (start.picks requests).getLast? := by
    simpa using recorded_after hfresh (recorded_fresh world pacing) requests
  refine ⟨told_eq_chronicle hfresh requests, hrecorded.awaiting, ?_, ?_⟩
  · intro request before event now after hsplit hline hrequested
    have hcontinues := continues_respond hc hrecorded request
    have htold : Chronicle.within (c.respond request).value.2.world (c.news request) =
        before ++ (event, now) :: after := by
      simpa [chronicle] using hsplit
    have hlast : (start.picks (requests ++ [request])).getLast? =
        (c.pick? request).or (start.picks requests).getLast? := by
      rw [picks_append, List.getLast?_append]
      cases hpick : c.pick? request <;> simp [picks, hpick, c]
    cases hparty : c.party request with
    | none =>
      rw [hcontinues.silent hparty] at htold
      simp at htold
    | some s =>
      have hunfolds := hcontinues.unfolds s hparty
      rw [htold, ← hlast] at hunfolds
      exact ⟨s, rfl, hunfolds.fits hline hrequested⟩
  · intro later later' hduring hsame
    have hwithout := hduring.withoutWrites hc
    obtain ⟨⟨w, hafter⟩, htold⟩ := after_withoutWrites hc hwithout
    obtain ⟨⟨w', hafter'⟩, htold'⟩ := after_withoutWrites hc (hsame ▸ hwithout)
    rw [← hsame] at hafter' htold'
    refine ⟨⟨w', ?_⟩, htold'.trans htold.symm⟩
    rw [hafter', hafter]
    rfl

/-- A dialogue with a choice for those who found the gate open. -/
def gate : Graph :=
  TextMap.empty.insert "start" {
    intros := [{ lines := [⟨.npc, "zyx", "Halt."⟩] }]
    choices := [{ text := "Enter", condition := some (.flag "open") }, { text := "Wait" }] }

/-- A conversation at the gate, which is not open. -/
def halted : Conversation :=
  (fresh .empty { skipGuard := .zero }).after [.enterAt "zyx" gate "start"]

theorem menus_follow_snapshots_gate :
    (halted.after [.skip]).menu = [⟨1, "Wait", false⟩] ∧
      (halted.after [.write (.setFlag "open" (.bool true)), .skip]).menu =
        [⟨1, "Wait", false⟩] ∧
      ((fresh (World.empty.apply (.setFlag "open" (.bool true))) { skipGuard := .zero }).after
        [.enterAt "zyx" gate "start", .skip]).menu = [⟨0, "Enter", false⟩, ⟨1, "Wait", false⟩] := by
  have hmenu : (halted.after [.skip]).menu = [⟨1, "Wait", false⟩] := by decide
  obtain ⟨-, -, -, hfrozen⟩ :=
    menus_follow_snapshots .empty { skipGuard := .zero } [.enterAt "zyx" gate "start"]
  obtain ⟨⟨w, hafter⟩, -⟩ :=
    hfrozen [.skip] [.write (.setFlag "open" (.bool true)), .skip] (by decide) rfl
  refine ⟨hmenu, ?_, by decide⟩
  rw [show halted = (fresh .empty { skipGuard := .zero }).after [.enterAt "zyx" gate "start"] from
    rfl, hafter]
  exact hmenu

end Conversation

end Colloquy
