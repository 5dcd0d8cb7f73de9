import MessageRouting.Text.LetterCase
import MessageRouting.Text.LetterCase.Fold
import MessageRouting.Text.Quoted
import MessageRouting.Text.Search
import MessageRouting.Text.Utf8
import MessageRouting.Number.FloatText
import MessageRouting.Time.Pattern
import MessageRouting.Failure
import MessageRouting.Failure.Matcher
import MessageRouting.Value.Printed
import MessageRouting.Value.Truth
import MessageRouting.Regex
import MessageRouting.Exchange
import MessageRouting.Expr.Parser
import MessageRouting.Expr.Template
import MessageRouting.Format
import MessageRouting.Uri
import MessageRouting.Level
import MessageRouting.Config
import MessageRouting.Registry
import MessageRouting.Route.Builder
import MessageRouting.Route.Described
import MessageRouting.Engine.Lifecycle
import MessageRouting.Engine.Run
import MessageRouting.Engine.Timers
import MessageRouting.Proofs.Expr.Reading
import MessageRouting.Proofs.Expr.WrittenBack
import MessageRouting.Proofs.Expr.Shortcuts
import MessageRouting.Proofs.Expr.Templates
import MessageRouting.Proofs.Expr.Calculation
import MessageRouting.Proofs.Expr.Comparison
import MessageRouting.Proofs.Expr.FaultPlaces
import MessageRouting.Proofs.Expr.Integers
import MessageRouting.Proofs.Expr.Searching
import MessageRouting.Proofs.Failure.Containing
import MessageRouting.Proofs.Failure.Nested
import MessageRouting.Proofs.Builder.OpenBlocks
import MessageRouting.Proofs.Builder.Reading
import MessageRouting.Proofs.Convert.Builtins
import MessageRouting.Proofs.Convert.SideBySide
import MessageRouting.Proofs.Convert.ThereAndBack
import MessageRouting.Proofs.Exchange.Forks
import MessageRouting.Proofs.Json.RoundTrip
import MessageRouting.Proofs.Pattern.Containment
import MessageRouting.Proofs.Pattern.Multicast
import MessageRouting.Proofs.Pattern.PendingError
import MessageRouting.Proofs.Pattern.Trying
import MessageRouting.Proofs.Engine.Cancellation
import MessageRouting.Proofs.Engine.Hooks
import MessageRouting.Proofs.Engine.Leaves
import MessageRouting.Proofs.Engine.Loops
import MessageRouting.Proofs.Engine.LoopIndices
import MessageRouting.Proofs.Engine.Resolving
import MessageRouting.Proofs.Route.Resolution
import MessageRouting.Proofs.Route.Meaning
import MessageRouting.Proofs.Lifecycle.Dispatch
import MessageRouting.Proofs.Lifecycle.SideBySide
import MessageRouting.Proofs.Lifecycle.TimerLoop
import MessageRouting.Proofs.Value.Equality
