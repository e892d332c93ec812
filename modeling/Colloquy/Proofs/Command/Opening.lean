import Colloquy.Command.Play
import Colloquy.Proofs.Dialogue.Entry
import Colloquy.Proofs.Library.Kept
import Mathlib.Control.Monad.Basic

/-!
# How a play opens

A play that is not told where to begin opens on the node that the dialogue has for it, and without
one it tries the start node, which then does not exist. So it fails to open just if the dialogue is
shut (`begin_iff_not_shut`). That a dialogue is reviewed without a missing entry does not rule this
out, since a review does not look at entry conditions: it leaves a default node that is closed
(`opens_unless_shut`).
-/

namespace Colloquy

namespace PlayRequest

variable {r : PlayRequest} {hero script : String} {read : String → Except ReadFault String}
  {g : Graph} {w : World}

/-- A library in which nothing is kept hands out the dialogue in the script that is there. -/
theorem graph_load {l : Library} {npc : String} (hkept : l.kept.get? npc = none)
    (hfetch : (l.source.fetch npc).value = .ok script)
    (hread : (Script.read l.settings.hero script).value = .ok g) :
    (l.load npc).value.1.graph = g := by
  simp [Library.value_load_of_not_kept hkept, Library.dialogueFrom, hfetch, hread, Except.mapError,
    Library.orFallback]

/-- **A play begins if the node on which it opens exists**, and fails for want of it otherwise. -/
theorem value_begin (hscript : read (r.scripts.scriptPath r.npc) = .ok script)
    (hread : (Script.read (Text.lowercase hero) script).value = .ok g) (w : World) :
    (g.contains (r.opening w g) = true → ∃ scene, (r.begin hero w read).value = .ok scene) ∧
      (g.contains (r.opening w g) = false →
        (r.begin hero w read).value =
          .error (Refusal.unknownEntryNode (r.opening w g)).message) := by
  have hgraph : (Library.load
      { source := .folder r.scripts read
        settings := ({ folder := r.scripts } : LibrarySettings).withHero hero }
      r.npc).value.1.graph = g := by
    refine graph_load rfl ?_ hread
    simp [Source.fetch, hscript]
  unfold begin
  simp only [Noted.value_bind, hgraph]
  constructor <;> intro hnode <;> simp [Conversation.enterAt, hnode]

/-- **A play that is not told where to begin fails just if the dialogue is shut**, and says that
there is no start node. -/
theorem begin_iff_not_shut (hnode : r.node = none)
    (hscript : read (r.scripts.scriptPath r.npc) = .ok script)
    (hread : (Script.read (Text.lowercase hero) script).value = .ok g) (w : World) :
    ((∃ scene, (r.begin hero w read).value = .ok scene) ↔ ¬ g.Shut w r.npc) ∧
      (g.Shut w r.npc → (r.begin hero w read).value =
        .error (Refusal.unknownEntryNode Graph.startNode).message) := by
  obtain ⟨hbegins, hfails⟩ := value_begin hscript hread w
  cases hentry : g.entryNode w r.npc with
  | some key =>
    have hopening : r.opening w g = key := by simp [opening, hnode, hentry]
    have hopen : ¬ g.Shut w r.npc := by simp [← Graph.entryNode_eq_none_iff, hentry]
    rw [hopening] at hbegins
    have hbegun := hbegins (Graph.contains_of_entryNode hentry)
    exact ⟨iff_of_true hbegun hopen, fun hshut => absurd hshut hopen⟩
  | none =>
    have hopening : r.opening w g = Graph.startNode := by simp [opening, hnode, hentry]
    have hshut : g.Shut w r.npc := Graph.entryNode_eq_none_iff.1 hentry
    rw [hopening] at hfails
    have herror := hfails hshut.noStart
    refine ⟨iff_of_false ?_ (not_not_intro hshut), fun _ => herror⟩
    rintro ⟨scene, hscene⟩
    cases herror.symm.trans hscene

/-- **A dialogue that is reviewed without a missing entry opens unless conditions forbid it.** In
every world and for every character there is a node to open on, and it is a node of the dialogue,
unless there is no start node and no node that is meant for opening on has a condition that holds;
then some default node has one that does not hold. A play about a script with this dialogue, if it
is not told where to begin, begins just if there is a node to open on, and fails for want of a start
node otherwise. -/
theorem opens_unless_shut (hreview : .noEntry ∉ g.review) (w : World) :
    (∀ npc,
      ((∃ key, g.entryNode w npc = some key ∧ g.contains key = true) ↔ ¬ g.Shut w npc) ∧
      (g.Shut w npc → ∃ key n, g.get? key = some n ∧ n.isDefault = true ∧ n.Closed w)) ∧
    ∀ (r : PlayRequest) (hero script : String) (read : String → Except ReadFault String),
      r.node = none → read (r.scripts.scriptPath r.npc) = .ok script →
      (Script.read (Text.lowercase hero) script).value = .ok g →
      ((∃ scene, (r.begin hero w read).value = .ok scene) ↔ ¬ g.Shut w r.npc) ∧
      (g.Shut w r.npc → (r.begin hero w read).value =
        .error (Refusal.unknownEntryNode Graph.startNode).message) := by
  refine ⟨fun npc => ⟨?_, fun hshut => hshut.exists_closed hreview⟩,
    fun r hero script read hnode hscript hread => begin_iff_not_shut hnode hscript hread w⟩
  rw [← Graph.entryNode_eq_none_iff]
  constructor
  · rintro ⟨key, hentry, -⟩ hnone
    cases hnone.symm.trans hentry
  · intro hsome
    obtain ⟨key, hentry⟩ := Option.ne_none_iff_exists'.1 hsome
    exact ⟨key, hentry, Graph.contains_of_entryNode hentry⟩

/-- A script with one node, on which conversations open once a flag is set. -/
def hallScript : String := "=== hub ===\n# default\n# requires: open\n- Bye\n> END\n"

/-- The dialogue of the script. -/
def hall : Graph :=
  TextMap.empty.insert "hub" {
    isDefault := true
    entryCondition := some (.flag "open")
    choices := [{ text := "Bye", exit := true }] }

/-- Reading any file gives the script. -/
def hallFiles : String → Except ReadFault String := fun _ => .ok hallScript

/-- A play that is told nothing but the character. -/
def visit : PlayRequest := ⟨"zyx", "dialogue", "txt", none, [], [], none⟩

theorem opens_unless_shut_hall :
    let w := World.empty.apply (.setFlag "open" (.bool true))
    .noEntry ∉ hall.review ∧ hall.entryNode w "zyx" = some "hub" ∧
      (Script.read (Text.lowercase "nate") hallScript).value = .ok hall ∧
      ∃ scene, (visit.begin "nate" w hallFiles).value = .ok scene := by
  intro w
  have hreview : .noEntry ∉ hall.review := by decide
  have hread : (Script.read (Text.lowercase "nate") hallScript).value = .ok hall := by
    decide +kernel
  have hentry : hall.entryNode w "zyx" = some "hub" := by decide
  obtain ⟨hopens, hplays⟩ := opens_unless_shut hreview w
  have hopen : ¬ hall.Shut w "zyx" := (hopens "zyx").1.1 ⟨"hub", hentry, by decide⟩
  exact ⟨hreview, hentry, hread,
    (hplays visit "nate" hallScript hallFiles rfl rfl hread).1.2 hopen⟩

/-- Before the flag is set there is no node to open on and a play fails, though checking the script
finds nothing. -/
theorem hall_shut :
    Command.checkScript (Text.lowercase "nate") "hall.txt" hallScript true =
      { stdout := "  Checked hall.txt: 1 nodes, 1 options\n  All checks passed.\n" } ∧
    .noEntry ∉ hall.review ∧ hall.entryNode .empty "zyx" = none ∧
    (Script.read (Text.lowercase "nate") hallScript).value = .ok hall ∧
    (visit.begin "nate" .empty hallFiles).value =
      .error (Refusal.unknownEntryNode Graph.startNode).message := by
  have hread : (Script.read (Text.lowercase "nate") hallScript).value = .ok hall := by
    decide +kernel
  have hentry : hall.entryNode .empty "zyx" = none := by decide
  have hscript : hallFiles (visit.scripts.scriptPath visit.npc) = .ok hallScript := rfl
  obtain ⟨-, hfails⟩ := begin_iff_not_shut (r := visit) rfl hscript hread .empty
  exact ⟨by decide +kernel, by decide, hentry, hread, hfails (Graph.entryNode_eq_none_iff.1 hentry)⟩

end PlayRequest

end Colloquy
