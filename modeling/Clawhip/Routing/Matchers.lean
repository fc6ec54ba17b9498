import Clawhip.Events.Constructors
import Clawhip.Lib.Ranking
import Clawhip.Routing.Explain

/-!
# Three matchers of the route table

Beside `Router::resolve`, two more functions match events against the routes:
`resolve_tmux_session_channel_with_metadata` of `src/router.rs` looks for the channel of a session, and
`matching_gajae_route` of `src/daemon.rs` for the handler of an event. Neither ranks the routes as the router
does: the first takes the table's own order, and the second the last of the best.
-/

namespace Clawhip.Router

open List Option

open Ranking

/-! ## The channel of a session -/

section

variable (config : AppConfig) (session_name : String) (routing : RoutingMetadata)

end

/-! ## The handler of an event -/

section

variable {lib : Libraries} {config : AppConfig} {event : IncomingEvent} {session_name : String}
  {routing : RoutingMetadata}

variable {q : PlacedRoute → Bool} {placed : PlacedRoute}

end

namespace Sample

end Sample

end Clawhip.Router
