import InlineCompletion.Main
import InlineCompletion.Connection.Redacted
import InlineCompletion.Files.Tree
import InlineCompletion.Proofs.Connection.Telling
import InlineCompletion.Proofs.Connection.Reuse
import InlineCompletion.Proofs.Connection.Replacing
import InlineCompletion.Proofs.Connection.Connecting
import InlineCompletion.Proofs.Connection.Failing
import InlineCompletion.Proofs.Controller.Conservation
import InlineCompletion.Proofs.Controller.Exclusion
import InlineCompletion.Proofs.Controller.Completing
import InlineCompletion.Proofs.Controller.StaleAnswers
import InlineCompletion.Proofs.Controller.Permission
import InlineCompletion.Proofs.Controller.Accepting
import InlineCompletion.Proofs.Controller.Echo
import InlineCompletion.Proofs.Controller.Tracking
import InlineCompletion.Proofs.Engine.Acknowledgement
import InlineCompletion.Proofs.Engine.Invariants
import InlineCompletion.Proofs.Engine.Answers
import InlineCompletion.Proofs.Engine.Carriers
import InlineCompletion.Proofs.Engine.News
import InlineCompletion.Proofs.Playback.Following
import InlineCompletion.Proofs.Playback.Standing
import InlineCompletion.Proofs.Playback.Rounds
import InlineCompletion.Proofs.Playback.Steps
import InlineCompletion.Proofs.Playback.Acceptance
import InlineCompletion.Proofs.Request.Windows
import InlineCompletion.Proofs.Request.Asking
import InlineCompletion.Proofs.Playback.Shown
import InlineCompletion.Proofs.Controller.Deadlines
import InlineCompletion.Proofs.Playback.Loops
import InlineCompletion.Proofs.Json.OneLine
import InlineCompletion.Proofs.Playback.Ending
import InlineCompletion.Proofs.Request.Languages
import InlineCompletion.Proofs.Controller.Anchoring
import InlineCompletion.Proofs.Controller.Prompting
import InlineCompletion.Proofs.Controller.Disclosure
import InlineCompletion.Proofs.Controller.Isolation
import InlineCompletion.Proofs.Session.Survivors
import InlineCompletion.Proofs.Session.Splitting
import InlineCompletion.Proofs.Engine.History
import InlineCompletion.Proofs.Engine.Keys
import InlineCompletion.Proofs.Playback.Informed
import InlineCompletion.Proofs.Controller.Modifications
import InlineCompletion.Proofs.Engine.Chronicle
import InlineCompletion.Proofs.Engine.Watching
import InlineCompletion.Proofs.Playback.Waiting
import InlineCompletion.Proofs.Language.Table
import InlineCompletion.Proofs.Session.Navigating
import InlineCompletion.Proofs.Text.Lines
import InlineCompletion.Proofs.Script.Reading
import InlineCompletion.Proofs.Wire.Records
import InlineCompletion.Proofs.Wire.RoundTrip
import InlineCompletion.Proofs.CommandLine.Form
import InlineCompletion.Proofs.Controller.Shapes
import InlineCompletion.Proofs.Engine.Delivery
