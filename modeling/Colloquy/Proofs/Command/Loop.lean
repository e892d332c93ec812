import Colloquy.Command.Play
import Colloquy.Proofs.Conversation.Backlog

/-!
# The loop of a play — one pass after the other

A play in a terminal is a loop. Each pass takes the events and prints them, and then does one thing,
which depends on the phase: it stops, or it asks for a line of input until one is understood and
does what it says, or it lets the line on screen run out. `Loop.pass` is one pass, with whatever can
go wrong in it, and `Loop.Runs` says that passes, one after the other, come to a halt.
-/

namespace Colloquy

/-- What comes of asking for a line. -/
inductive Reply where
  /-- The player picks an item, counted from zero. -/
  | pick (place : Nat)
  /-- The player leaves. -/
  | leave
  /-- The line cannot be read. -/
  | unreadable (fault : ReadFault)
  deriving DecidableEq, Repr

/-- Ask for a line until one is understood, at a menu of so many items: what is printed, the reply,
and the inputs that were not read. -/
def ask (count : Nat) : List Input → List Cue × Reply × List Input
  | [] => ([.prompt, .noInput], .leave, [])
  | .closed :: rest => ([.prompt, .noInput], .leave, rest)
  | .notText :: rest => ([.prompt], .unreadable .notText, rest)
  | .line text :: rest =>
    match Wish.read count text with
    | .pick place => ([.prompt], .pick place, rest)
    | .leave => ([.prompt], .leave, rest)
    | .unclear =>
      let (cues, reply, unread) := ask count rest
      (.prompt :: .hint count :: cues, reply, unread)

/-- Why the loop stops. -/
inductive Halt where
  /-- Nobody is talking. -/
  | idle
  /-- A line should be on screen and none is. -/
  | stuck
  /-- A line of input cannot be read. -/
  | unreadable (fault : ReadFault)
  /-- The conversation refuses a request. -/
  | refused (reason : Refusal)
  deriving DecidableEq, Repr

/-- What the loop works on. -/
structure Loop where
  /-- What was printed so far. -/
  cues : List Cue
  /-- The conversation. -/
  conversation : Conversation
  /-- The inputs that were not read yet. -/
  unread : List Input
  deriving DecidableEq

/-- What comes of a pass. -/
structure Pass where
  /-- What was asked of the conversation, with the answers. -/
  asked : List (Request × Answer)
  /-- What the loop works on afterwards. -/
  next : Loop
  /-- Why the loop stops, if it does. -/
  halt : Option Halt
  deriving DecidableEq

namespace Loop

/-- Make a request. The loop stops if it is refused, and only then. -/
def request (l : Loop) (q : Request) : Pass :=
  let (answer, c) := (l.conversation.respond q).value
  { asked := [(q, answer)]
    next := { l with conversation := c }
    halt := match answer with
      | .refused reason => some (.refused reason)
      | .done | .selected _ | .skipped _ | .events _ => none }

/-- Take the events and print them. -/
def tell (l : Loop) : Loop :=
  { l with
    cues := l.cues ++ l.conversation.events.map .event
    conversation := l.conversation.drain.2 }

/-- Ask for a line of input and do what it says. -/
def prompt (l : Loop) : Pass :=
  let (cues, reply, unread) := ask l.conversation.menu.length l.unread
  let heard : Loop := { l with cues := l.cues ++ cues, unread := unread }
  match reply with
  | .pick place => heard.request (.select place)
  | .leave => heard.request .exit
  | .unreadable fault => ⟨[], heard, some (.unreadable fault)⟩

/-- Do what the phase asks for. -/
def act (l : Loop) : Pass :=
  match l.conversation.phase with
  | .idle => ⟨[], l, some .idle⟩
  | .awaitingChoice => l.prompt
  | .playingIntro | .playingHeroLine | .playingNpcResponse =>
    match l.conversation.turnRemaining with
    | some rest => l.request (.update rest)
    | none => ⟨[], l, some .stuck⟩

/-- One pass through the loop. -/
def pass (l : Loop) : Pass :=
  let p := l.tell.act
  { p with asked := (.drain, .events l.conversation.events) :: p.asked }

/-- Passes, one after the other, that come to a halt: what was asked of the conversation in all of
them, why the loop stops, and what it leaves. -/
inductive Runs : Loop → List (Request × Answer) → Halt → Loop → Prop where
  /-- The pass is the last one. -/
  | stop {l : Loop} {why : Halt} (h : l.pass.halt = some why) :
      Runs l l.pass.asked why l.pass.next
  /-- More passes follow. -/
  | onward {l last : Loop} {asked : List (Request × Answer)} {why : Halt}
      (h : l.pass.halt = none) (hrest : Runs l.pass.next asked why last) :
      Runs l (l.pass.asked ++ asked) why last

end Loop

/-- Whether a cue is the end of a conversation. -/
def Cue.isEnd : Cue → Bool
  | .event e => e.isEnd
  | .prompt | .hint _ | .noInput => false

/-! ## Asking for a line -/

/-- A wish for an item is one for an item that there is. -/
theorem Wish.lt_of_read {count place : Nat} {text : String}
    (h : Wish.read count text = .pick place) : place < count := by
  simp only [read] at h
  split at h
  · cases h
  · split at h
    · split at h
      · rename_i hrange
        obtain rfl := Wish.pick.inj h
        omega
      · cases h
    · cases h

section Asking

variable (count : Nat) (inputs : List Input)

/-- What was not read is the end of what there was. -/
theorem suffix_ask : (ask count inputs).2.2 <:+ inputs := by
  fun_induction ask count inputs with
  | case1 => exact List.suffix_rfl
  | case2 rest | case3 rest | case4 _ rest | case5 _ rest => exact List.suffix_cons _ _
  | case6 text rest _ cues reply unread hask ih =>
    rw [hask] at ih
    exact ih.trans (List.suffix_cons _ _)

/-- **A line is read for each prompt**, except where the input has ended and the player leaves. -/
theorem prompts_ask :
    (ask count inputs).1.count .prompt + (ask count inputs).2.2.length ≤
      inputs.length + if (ask count inputs).2.1 = .leave then 1 else 0 := by
  fun_induction ask count inputs with
  | case1 => decide
  | case2 rest | case3 rest | case4 _ rest | case5 _ rest =>
    simp
    omega
  | case6 text rest _ cues reply unread hask ih =>
    rw [hask] at ih
    simp at ih ⊢
    omega

/-- Asking for a line shows no conversation to end. -/
theorem ends_ask : (ask count inputs).1.countP Cue.isEnd = 0 := by
  fun_induction ask count inputs with
  | case1 | case2 rest | case3 rest | case4 _ rest | case5 _ rest => rfl
  | case6 text rest _ cues reply unread hask ih =>
    rw [hask] at ih
    simpa [Cue.isEnd] using ih

/-- An item is picked by a line, and there is such an item. -/
theorem pick_ask {cues : List Cue} {place : Nat} {unread : List Input}
    (h : ask count inputs = (cues, .pick place, unread)) :
    place < count ∧ unread.length < inputs.length := by
  fun_induction ask count inputs generalizing cues with
  | case1 | case2 rest | case3 rest | case5 _ rest => cases h
  | case4 text rest place' hread =>
    obtain ⟨-, hreply, rfl⟩ := h
    exact ⟨Wish.lt_of_read hread, Nat.lt_succ_self _⟩
  | case6 text rest _ cues' reply unread' hask ih =>
    obtain ⟨-, rfl, rfl⟩ := h
    obtain ⟨hplace, hlength⟩ := ih hask
    exact ⟨hplace, Nat.lt_succ_of_lt hlength⟩

/-- Only a line that is not text cannot be read. -/
theorem unreadable_ask {cues : List Cue} {fault : ReadFault} {unread : List Input}
    (h : ask count inputs = (cues, .unreadable fault, unread)) :
    fault = .notText ∧ .notText ∈ inputs := by
  fun_induction ask count inputs generalizing cues with
  | case1 | case2 rest | case4 _ rest | case5 _ rest => cases h
  | case3 rest =>
    obtain ⟨-, hreply, rfl⟩ := h
    exact ⟨rfl, List.mem_cons_self⟩
  | case6 text rest _ cues' reply unread' hask ih =>
    obtain ⟨-, rfl, rfl⟩ := h
    obtain ⟨hfault, hmem⟩ := ih hask
    exact ⟨hfault, List.mem_cons_of_mem _ hmem⟩

end Asking

end Colloquy
