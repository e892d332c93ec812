import Colloquy.World.Basic

/-!
# Conditions — what a line or a choice may depend on

A condition is a test of the world, or several tests that must all hold. There is no disjunction.
Evaluating a condition reads the world and never changes it.
-/

namespace Colloquy

/-- A test of the world. -/
inductive Condition where
  /-- A choice with this label was picked before. -/
  | asked (label : String)
  /-- No choice with this label was picked before. -/
  | notAsked (label : String)
  /-- The player carries an item. -/
  | hasItem (item : String)
  /-- The player does not carry an item. -/
  | lacksItem (item : String)
  /-- The state of a character is exactly this. -/
  | npcState (npc state : String)
  /-- The player has been in a room. -/
  | visited (room : String)
  /-- A flag is set. -/
  | flag (name : String)
  /-- A flag is not set. -/
  | notFlag (name : String)
  /-- All of several conditions hold. -/
  | all (conditions : List Condition)
  /-- Nothing satisfies this. -/
  | never
  /-- Everything satisfies this. -/
  | always

namespace Condition

instance : Inhabited Condition := ⟨.always⟩

/-! ## Equality -/

mutual

/-- Whether two conditions are the same. -/
def same : Condition → Condition → Bool
  | .asked a, .asked b => a = b
  | .notAsked a, .notAsked b => a = b
  | .hasItem a, .hasItem b => a = b
  | .lacksItem a, .lacksItem b => a = b
  | .npcState a s, .npcState b t => a = b && s = t
  | .visited a, .visited b => a = b
  | .flag a, .flag b => a = b
  | .notFlag a, .notFlag b => a = b
  | .all as, .all bs => sameAll as bs
  | .never, .never => true
  | .always, .always => true
  | _, _ => false

/-- Whether two lists of conditions are the same. -/
def sameAll : List Condition → List Condition → Bool
  | [], [] => true
  | a :: as, b :: bs => same a b && sameAll as bs
  | _, _ => false

end

mutual

theorem same_iff : ∀ {a b : Condition}, same a b = true ↔ a = b
  | .asked _, b => by cases b <;> simp [same]
  | .notAsked _, b => by cases b <;> simp [same]
  | .hasItem _, b => by cases b <;> simp [same]
  | .lacksItem _, b => by cases b <;> simp [same]
  | .npcState _ _, b => by cases b <;> simp [same]
  | .visited _, b => by cases b <;> simp [same]
  | .flag _, b => by cases b <;> simp [same]
  | .notFlag _, b => by cases b <;> simp [same]
  | .all as, b => by cases b <;> simp [same, @sameAll_iff as]
  | .never, b => by cases b <;> simp [same]
  | .always, b => by cases b <;> simp [same]

theorem sameAll_iff : ∀ {as bs : List Condition}, sameAll as bs = true ↔ as = bs
  | [], bs => by cases bs <;> simp [sameAll]
  | a :: as, bs => by
    cases bs <;> simp [sameAll, @same_iff a, @sameAll_iff as]

end

instance : DecidableEq Condition := fun _ _ => decidable_of_iff _ same_iff

/-! ## Meaning -/

mutual

/-- Whether a condition holds in a world. An empty label was never asked about. -/
def holds (w : World) : Condition → Bool
  | .asked label => label ≠ "" && w.hasAsked label
  | .notAsked label => label = "" || !w.hasAsked label
  | .hasItem item => w.hasItem item
  | .lacksItem item => !w.hasItem item
  | .npcState npc state => w.npcState npc = some state
  | .visited room => w.hasVisitedRoom room
  | .flag name => w.isFlagSet name
  | .notFlag name => !w.isFlagSet name
  | .all conditions => allHold w conditions
  | .never => false
  | .always => true

/-- Whether several conditions hold. -/
def allHold (w : World) : List Condition → Bool
  | [] => true
  | c :: cs => holds w c && allHold w cs

end

theorem allHold_eq (w : World) (cs : List Condition) : allHold w cs = cs.all (holds w) := by
  induction cs with
  | nil => rfl
  | cons c cs ih => simp [allHold, ih]

/-! ## Text and labels -/

mutual

/-- A condition as a clause. -/
def display : Condition → String
  | .asked label => s!"asked:{label}"
  | .notAsked label => s!"!asked:{label}"
  | .hasItem item => s!"has:{item}"
  | .lacksItem item => s!"!has:{item}"
  | .npcState npc state => s!"npc_state:{npc}:{state}"
  | .visited room => s!"visited:{room}"
  | .flag name => name
  | .notFlag name => s!"!{name}"
  | .all conditions => Text.join ", " (displayAll conditions)
  | .never => "<never>"
  | .always => "<always>"

/-- Several conditions as clauses. -/
def displayAll : List Condition → List String
  | [] => []
  | c :: cs => display c :: displayAll cs

end

theorem displayAll_eq (cs : List Condition) : displayAll cs = cs.map display := by
  induction cs with
  | nil => rfl
  | cons c cs ih => simp [displayAll, ih]

mutual

/-- The labels that a condition asks about, from left to right. -/
def labels : Condition → List String
  | .asked label | .notAsked label => [label]
  | .all conditions => labelsOfAll conditions
  | _ => []

/-- The labels that several conditions ask about. -/
def labelsOfAll : List Condition → List String
  | [] => []
  | c :: cs => labels c ++ labelsOfAll cs

end

/-- Whether a condition that may be absent holds; an absent one does. -/
def holdsIfAny (w : World) (c : Option Condition) : Bool := c.all (holds w)

end Condition

end Colloquy
