import Colloquy.Conversation.Run
import Colloquy.Main
import Colloquy.Proofs.World.Writes
import Colloquy.Proofs.Conversation.Moves
import Colloquy.Proofs.Conversation.Coherence
import Colloquy.Proofs.Conversation.Protocol
import Colloquy.Proofs.Conversation.PlayedOut
import Colloquy.Proofs.Conversation.Effects
import Colloquy.Proofs.Conversation.Chronicle
import Colloquy.Proofs.Conversation.Menu
import Colloquy.Proofs.Conversation.Record
import Colloquy.Proofs.Conversation.Credit
import Colloquy.Proofs.Conversation.Frozen
import Colloquy.Proofs.Conversation.Pace
import Colloquy.Proofs.Conversation.Schedule
import Colloquy.Proofs.Condition.Display
import Colloquy.Proofs.Script.Line
import Colloquy.Proofs.Script.Mark
import Colloquy.Proofs.Script.Writer
import Colloquy.Proofs.Script.RoundTrip
import Colloquy.Proofs.Script.Place
import Colloquy.Proofs.Script.Cut
import Colloquy.Proofs.Script.Outcome
import Colloquy.Proofs.Conversation.Spent
import Colloquy.Proofs.Script.Naming
import Colloquy.Proofs.Conversation.OnceFlag
import Colloquy.Proofs.Dialogue.Review
import Colloquy.Library.Run
import Colloquy.Proofs.Condition.Json
import Colloquy.Proofs.Conversation.Course
import Colloquy.Proofs.Conversation.Routes
import Colloquy.Proofs.Dialogue.Document
import Colloquy.Proofs.Dialogue.Nesting
import Colloquy.Proofs.Library.Kept
import Colloquy.Proofs.Library.Fallback
import Colloquy.Proofs.Script.Nesting
import Colloquy.Proofs.World.Snapshot
import Colloquy.Proofs.Command.Opening
import Colloquy.Proofs.Conversation.Recall
import Colloquy.Proofs.Conversation.Unasked
import Colloquy.Proofs.Conversation.Refused
import Colloquy.Proofs.World.History
import Colloquy.Proofs.Command.Finish
import Colloquy.Proofs.Command.Saving
import Colloquy.Proofs.World.Canonical
import Colloquy.Proofs.Dialogue.WellFormed
import Colloquy.Proofs.Script.WellFormed
import Colloquy.Proofs.Script.Layout
import Colloquy.Proofs.Script.Span
import Colloquy.Proofs.Conversation.Skipping
import Colloquy.Proofs.Script.Insertion
import Colloquy.Proofs.Conversation.UsedMarks
import Colloquy.Proofs.Conversation.Entering
import Colloquy.Proofs.World.FlagList
import Colloquy.Proofs.Time.Turn
import Colloquy.Proofs.World.Assignment
import Colloquy.Proofs.Dialogue.Outline
