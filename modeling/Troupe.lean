import Troupe.Palette.Document
import Troupe.Palette.Indexed
import Troupe.Performance.Solo
import Troupe.Proofs.Run.Conservation
import Troupe.Proofs.Run.Queue
import Troupe.Proofs.Run.Refinement
import Troupe.Sprite.Document
import Troupe.Theatre.Playing
import Troupe.Proofs.Run.Meetings
import Troupe.Proofs.Theatre.Chronicle
import Troupe.Proofs.Theatre.Operations
import Troupe.Proofs.Duration
import Troupe.Proofs.Run.Ending
import Troupe.Proofs.Theatre.Timely
import Troupe.Proofs.Theatre.Awaiting
import Troupe.Proofs.Theatre.Instant
import Troupe.Proofs.Season.Ledger
import Troupe.Proofs.Season.Removal
import Troupe.Proofs.Season.Scripts
import Troupe.Proofs.Theatre.Snapshot
import Troupe.Proofs.Run.Termination
import Troupe.Proofs.Workspace.Refusal
import Troupe.Proofs.Json.Numeral
import Troupe.Proofs.Json.Parser
import Troupe.Proofs.Block.Document
import Troupe.Proofs.Block.Accepted
import Troupe.Proofs.Encounter.Exchange
import Troupe.Proofs.Workspace.Release
import Troupe.Proofs.Palette.Schema
import Troupe.Proofs.Palette.Supplied
import Troupe.Proofs.Performance.Unrolling
import Troupe.Proofs.Season.Bubbles
import Troupe.Proofs.Text.LeadingInteger
import Troupe.Proofs.Block.Respelled
import Troupe.Proofs.Sprite.Heading
import Troupe.Proofs.Encounter.Distance
import Troupe.Proofs.Json.Grammar
import Troupe.Proofs.Json.Value
import Troupe.Proofs.Sprite.Identity
import Troupe.Proofs.Sprite.Document
import Troupe.Proofs.Settings
import Troupe.Proofs.Palette.Document
import Troupe.Proofs.Palette.Indexed
