import Clawhip.Ledger.Compaction
import Clawhip.Router
import Clawhip.Gjc.PublicSafety
import Clawhip.Gjc.TurnEndings
import Clawhip.Gjc.Quarantine
import Clawhip.Ledger.Occurrences
import Clawhip.Gjc.Answers
import Clawhip.Gjc.Worktrees
import Clawhip.Gjc.Isolation
import Clawhip.Tmux.Durability
import Clawhip.Tmux.Categories
import Clawhip.Tmux.Replays
import Clawhip.Http.EventBody
import Clawhip.Ci.Suppression
import Clawhip.Cron.Suppression
import Clawhip.Cron.Firing
import Clawhip.Git.Commits
import Clawhip.Tmux.Failures
import Clawhip.Tmux.ProvenLaunches
import Clawhip.Workspace.Filter
import Clawhip.Workspace.HalfWritten
import Clawhip.Dispatch.CiSummaries
import Clawhip.Platform.Transitions
import Clawhip.Routing.Matchers
import Clawhip.DiscordWatch.Spacing
import Clawhip.Render.Sources
import Clawhip.Binding.Law
import Clawhip.Ledger.Bounding
import Clawhip.Dispatch.Chunks
import Clawhip.Dispatch.Signatures
import Clawhip.SourceCheckout.Kept
import Clawhip.Gjc.SdkExchange
import Clawhip.ConfigFile.Kept
import Clawhip.Hooks.Questions
import Clawhip.ConfigText.Preserved
import Clawhip.Notifications.Deliveries
import Clawhip.Notifications.Drained
import Clawhip.Gjc.Repeats
import Clawhip.Gjc.LaneIds
import Clawhip.Gjc.Fanout
import Clawhip.Gjc.Evidence
import Clawhip.Gjc.Outcomes
import Clawhip.Tmux.KeywordHits
import Clawhip.Tmux.Monitors
import Clawhip.Tmux.Staleness
import Clawhip.Issues.CommentPolls
import Clawhip.Routing.Tokens
import Clawhip.Subscription.Spellings
import Clawhip.Discord.Send
import Clawhip.Gajae.MutationPlan
import Clawhip.Cron.Meaning
import Clawhip.Release.Preflight
