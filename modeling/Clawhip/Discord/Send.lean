import Clawhip.Core.RateLimit
import Clawhip.Routing.Explain

/-!
# Sends to Discord

`DiscordClient::send` of `src/discord.rs`, with the circuit breaker of `src/core/circuit_breaker.rs`: up
to three requests, and what is written off goes to the queue of dead letters. `send_accounted_iff` says
when a send is accounted for: a rate limit whose `retry_after` is no duration ends it without a trace, and
without a bot it is counted as an attempt that was not made.
-/

namespace Clawhip.Discord

open List Option

def MAX_ATTEMPTS : ℕ := 3

/-! ## The circuit -/

inductive CircuitState where
  | closed
  | opened (opened_at : ℚ)
  | halfOpen

structure CircuitBreaker where
  state : CircuitState
  consecutive_failures : ℕ
  failure_threshold : ℕ
  cooldown : ℚ

namespace CircuitBreaker

def new (failure_threshold : ℕ) (cooldown : ℚ) : CircuitBreaker := ⟨.closed, 0, failure_threshold, cooldown⟩

def allowRequest (circuit : CircuitBreaker) (now : ℚ) : CircuitBreaker × Bool :=
  match circuit.state with
  | .closed | .halfOpen => (circuit, true)
  | .opened opened_at =>
    if circuit.cooldown ≤ max 0 (now - opened_at) then ({ circuit with state := .halfOpen }, true)
    else (circuit, false)

def recordSuccess (circuit : CircuitBreaker) : CircuitBreaker :=
  { circuit with consecutive_failures := 0, state := .closed }

def recordFailure (circuit : CircuitBreaker) (now : ℚ) : CircuitBreaker :=
  match circuit.state with
  | .closed =>
    let failures := circuit.consecutive_failures + 1
    { circuit with
      consecutive_failures := failures
      state := if circuit.failure_threshold ≤ failures then .opened now else .closed }
  | .halfOpen => { circuit with state := .opened now }
  | .opened _ => circuit

end CircuitBreaker

/-! ## Requests -/

/-- What the client takes from libraries. -/
structure Library extends Router.Libraries where
  /-- The `retry_after` of a `DiscordRateLimitBody`. -/
  retryAfter : String → Option ℚ
  /-- A `StatusCode` as it prints. -/
  statusText : ℕ → String

/-- What a request comes to. -/
inductive Answer where
  | transport
  | response (status : ℕ) (body : String)

structure DiscordSendError where
  message : String
  retry_after : Option ℚ
  status : Option ℕ

section

variable (lib : Library)

/-- `Duration::from_secs_f64`, or nothing where it panics. -/
def durationFromSecs (secs : ℚ) : Option ℚ := if 0 ≤ secs ∧ secs < 2 ^ 64 then some secs else none

/-- `parse_retry_after`, or nothing where it panics. -/
def parseRetryAfter (status : ℕ) (body : String) : Option (Option ℚ) :=
  if status ≠ 429 then some none
  else match lib.retryAfter body with
    | none => some none
    | some secs => (durationFromSecs secs).map some

def discordThreadErrorMessage (status : ℕ) : String :=
  let detail := match status with
    | 400 => "thread may be archived or not writable by the bot"
    | 403 => "thread is unreachable by the bot"
    | 404 => "thread is missing or unreachable by the bot"
    | 401 => "Discord bot token is invalid for thread delivery"
    | 429 => "Discord rate limited thread delivery"
    | _ => "thread delivery failed"
  "Discord thread delivery failed with " ++ lib.statusText status ++ ": " ++ detail

def Answer.isSuccess : Answer → Bool
  | .transport => false
  | .response status _ => decide (200 ≤ status ∧ status < 300)

/-- `DiscordClient::execute_request`, or nothing where it panics. -/
def executeRequest (label : String) : Answer → Option (Except DiscordSendError Unit)
  | .transport => some (.error ⟨label ++ " failed: transport error", none, none⟩)
  | .response status body =>
    if (Answer.response status body).isSuccess then some (.ok ())
    else (parseRetryAfter lib status body).map fun retry_after =>
      let message :=
        if label = "Discord thread request" then discordThreadErrorMessage lib status
        else label ++ " failed with " ++ lib.statusText status ++ ": " ++ body
      .error ⟨message, retry_after, some status⟩

/-- How the request for a target of Discord is called. -/
def requestLabel : SinkTarget → Except String String
  | .discordChannel _ => .ok "Discord API request"
  | .discordThread _ => .ok "Discord thread request"
  | .discordWebhook _ => .ok "Discord webhook request"
  | .slackWebhook _ => .error "cannot send Slack webhook via Discord client"
  | .httpEndpoint _ => .error "cannot send HTTP target via Discord client"
  | .localFile _ => .error "cannot send localfile target via Discord client"

/-- What a send says for want of a bot. -/
def missingBot : SinkTarget → Option String
  | .discordChannel _ => some ("missing Discord bot token for channel delivery; configure " ++
      "[providers.discord].token (or legacy [discord].token) or use a route webhook")
  | .discordThread _ => some ("missing Discord bot token for thread delivery; configure " ++
      "[providers.discord].token (or legacy [discord].token) or use a channel/webhook route")
  | _ => none

/-! ## Sends -/

/-- `DlqEntry`; what it copies of the message stands for the message. -/
structure DlqEntry (μ : Type) where
  retry_count : ℕ
  last_error : String
  target : String
  message : μ

structure DiscordState (μ : Type) where
  limiter : Core.RateLimiter
  circuits : OrdMap String CircuitBreaker
  dlq : List (DlqEntry μ)

/-- What an attempt meets: when it is called, its answer, and when that is there. -/
structure Meets where
  called : ℚ
  answer : Answer
  answered : ℚ

/-- A send: what it returns, or nothing where it panics, the answers to its requests, and the state. -/
structure Sent (μ : Type) where
  result : Option (Except String Unit)
  posts : List Answer
  state : DiscordState μ

def targetRateLimitKey : SinkTarget → String
  | .discordChannel channel_id => "discord:channel:" ++ channel_id
  | .discordThread thread_id => "discord:thread:" ++ thread_id
  | .discordWebhook webhook_url => "discord:webhook:" ++ webhook_url
  | .slackWebhook webhook_url => "slack:webhook:" ++ webhook_url
  | .httpEndpoint endpoint => "http:endpoint:" ++ endpoint
  | .localFile path => "localfile:" ++ path

variable {μ : Type} (has_bot : Bool) (target : SinkTarget) (message : μ) (meets : ℕ → Meets)

/-- The circuit of a target; one that was not sent to has a new one. -/
def DiscordState.circuitOf (state : DiscordState μ) : CircuitBreaker :=
  (state.circuits.get (targetRateLimitKey target)).getD (.new 3 5)

def DiscordState.setCircuit (state : DiscordState μ) (circuit : CircuitBreaker) : DiscordState μ :=
  { state with circuits := state.circuits.insert (targetRateLimitKey target) circuit }

/-- `DiscordClient::record_dlq`. -/
def DiscordState.recordDlq (state : DiscordState μ) (attempts : ℕ) (error : String) : DiscordState μ :=
  { state with dlq := state.dlq ++ [⟨attempts, error, Router.safeTargetId lib.toLibraries target, message⟩] }

/-- The result of one attempt, and whether it made a request. -/
def attemptResult (label : String) (answer : Answer) : Bool × Option (Except DiscordSendError Unit) :=
  match if has_bot then none else missingBot target with
  | some missing => (false, some (.error ⟨missing, none, none⟩))
  | none => (true, executeRequest lib label answer)

/-- The loop of `DiscordClient::send`, with so many attempts left behind some. -/
def sendLoop (label : String) : ℕ → DiscordState μ → List Answer → Sent μ
  | 0, state, posts =>
    let error := "Discord delivery exhausted retries for " ++ Router.safeTargetId lib.toLibraries target
    ⟨some (.error error), posts, state.recordDlq lib target message MAX_ATTEMPTS error⟩
  | left + 1, state, posts =>
    let attempt := MAX_ATTEMPTS - left
    let met := meets attempt
    let state := { state with
      limiter := (state.limiter.delayFor (targetRateLimitKey target) met.called).1 }
    let attempted := attemptResult lib has_bot target label met.answer
    let posts := if attempted.1 then posts ++ [met.answer] else posts
    match attempted.2 with
    | none => ⟨none, posts, state⟩
    | some (.ok ()) =>
      ⟨some (.ok ()), posts, state.setCircuit target (state.circuitOf target).recordSuccess⟩
    | some (.error error) =>
      let state := state.setCircuit target ((state.circuitOf target).recordFailure met.answered)
      if error.retry_after.isSome ∧ attempt < MAX_ATTEMPTS then sendLoop label left state posts
      else ⟨some (.error error.message), posts, state.recordDlq lib target message attempt error.message⟩

/-- `DiscordClient::send`. -/
def send (state : DiscordState μ) (now : ℚ) : Sent μ :=
  let allowed := (state.circuitOf target).allowRequest now
  let state := state.setCircuit target allowed.1
  if !allowed.2 then
    let error := "Discord circuit open for " ++ Router.safeTargetId lib.toLibraries target
    ⟨some (.error error), [], state.recordDlq lib target message MAX_ATTEMPTS error⟩
  else match requestLabel target with
    | .error error =>
      ⟨some (.error error), [],
        { state with limiter := (state.limiter.delayFor (targetRateLimitKey target) (meets 1).called).1 }⟩
    | .ok label => sendLoop lib has_bot target message meets label MAX_ATTEMPTS state []

/-! ## Accounts -/

/-- A rate limit that says after which time to retry. -/
def Retries (answer : Answer) : Prop :=
  ∃ body secs, answer = .response 429 body ∧ lib.retryAfter body = some secs ∧ 0 ≤ secs ∧ secs < 2 ^ 64

/-- A rate limit whose `retry_after` is no duration. -/
def Breaks (answer : Answer) : Prop :=
  ∃ body secs, answer = .response 429 body ∧ lib.retryAfter body = some secs ∧ ¬ (0 ≤ secs ∧ secs < 2 ^ 64)

/-- From an attempt on, such a rate limit comes before the attempts end. -/
def BreaksFrom (attempt : ℕ) : Prop :=
  ∃ k, attempt ≤ k ∧ k ≤ MAX_ATTEMPTS ∧ (∀ j, attempt ≤ j → j < k → Retries lib (meets j).answer) ∧
    Breaks lib (meets k).answer

/-- A send comes out well or leaves one dead letter, which counts its requests. -/
structure Accounted (before : List (DlqEntry μ)) (refused : Bool) (sent : Sent μ) : Prop where
  returns : sent.result ≠ none
  few : sent.posts.length ≤ MAX_ATTEMPTS
  ok_iff : sent.result = some (.ok ()) ↔ ∃ last, sent.posts.getLast? = some last ∧ last.isSuccess = true
  kept : sent.result = some (.ok ()) → sent.state.dlq = before
  buried : ∀ error, sent.result = some (.error error) → ∃ entry, sent.state.dlq = before ++ [entry] ∧
    entry.retry_count = if refused then MAX_ATTEMPTS else sent.posts.length
  repeats : ∀ answer ∈ sent.posts.dropLast, Retries lib answer

end

section

variable {lib : Library} {μ : Type} {has_bot : Bool} {target : SinkTarget} {message : μ} {meets : ℕ → Meets}
  {label : String} {posts : List Answer}

theorem not_success_of_retries {answer : Answer} (h : Retries lib answer) : answer.isSuccess = false := by
  obtain ⟨body, secs, rfl, -⟩ := h
  rfl

/-- What a request comes to. -/
theorem executeRequest_cases (lib : Library) (label : String) (answer : Answer) :
    (executeRequest lib label answer = none ∧ Breaks lib answer) ∨ ¬ Breaks lib answer ∧
      ((executeRequest lib label answer = some (.ok ()) ∧ answer.isSuccess = true) ∨
        answer.isSuccess = false ∧ ∃ error, executeRequest lib label answer = some (.error error) ∧
          (error.retry_after.isSome = true ↔ Retries lib answer)) := by
  cases answer with
  | transport => exact .inr ⟨nofun, .inr ⟨rfl, _, rfl, iff_of_false Bool.false_ne_true nofun⟩⟩
  | response status body =>
    by_cases hstatus : status = 429
    · subst hstatus
      unfold executeRequest parseRetryAfter Breaks Retries
      cases hafter : lib.retryAfter body with
      | none => simp [Answer.isSuccess, hafter]
      | some secs =>
        by_cases hsecs : 0 ≤ secs ∧ secs < 2 ^ 64
        · simp [Answer.isSuccess, durationFromSecs, hafter, hsecs]
        · exact .inl ⟨by simp [Answer.isSuccess, durationFromSecs, hafter, hsecs], body, secs, rfl, hafter, hsecs⟩
    · have hbreaks : ¬ Breaks lib (.response status body) := by
        rintro ⟨_, _, h, -⟩
        exact hstatus (Answer.response.inj h).1
      have hretries : ¬ Retries lib (.response status body) := by
        rintro ⟨_, _, h, -⟩
        exact hstatus (Answer.response.inj h).1
      refine .inr ⟨hbreaks, ?_⟩
      unfold executeRequest parseRetryAfter
      dsimp only
      rw [if_pos hstatus]
      by_cases hsuccess : (Answer.response status body).isSuccess = true
      · exact .inl ⟨if_pos hsuccess, hsuccess⟩
      · exact .inr ⟨Bool.eq_false_iff.mpr hsuccess, _, if_neg hsuccess, iff_of_false Bool.false_ne_true hretries⟩

/-- A rate limit that is no duration comes at an attempt, or later. -/
theorem breaksFrom_iff {attempt : ℕ} (h : attempt ≤ MAX_ATTEMPTS) : BreaksFrom lib meets attempt ↔
    Breaks lib (meets attempt).answer ∨ Retries lib (meets attempt).answer ∧ BreaksFrom lib meets (attempt + 1) := by
  constructor
  · rintro ⟨k, hle, hmax, hretries, hbreaks⟩
    rcases hle.eq_or_lt with rfl | hlt
    · exact .inl hbreaks
    · exact .inr ⟨hretries attempt le_rfl hlt, k, hlt, hmax, fun j hj => hretries j (by omega), hbreaks⟩
  · rintro (hbreaks | ⟨hretry, k, hle, hmax, hretries, hbreaks⟩)
    · exact ⟨attempt, le_rfl, h, fun j hj hlt => absurd hlt (by omega), hbreaks⟩
    · refine ⟨k, by omega, hmax, fun j hj hlt => ?_, hbreaks⟩
      rcases hj.eq_or_lt with rfl | hgt
      · exact hretry
      · exact hretries j hgt hlt

variable {before : List (DlqEntry μ)}

theorem accounted_error {refused : Bool} {sent : Sent μ} {error : String}
    {entry : DlqEntry μ} (hresult : sent.result = some (.error error)) (hdlq : sent.state.dlq = before ++ [entry])
    (hcount : entry.retry_count = if refused then MAX_ATTEMPTS else sent.posts.length)
    (hfew : sent.posts.length ≤ MAX_ATTEMPTS) (hlast : ∀ last, sent.posts.getLast? = some last → last.isSuccess = false)
    (hrepeats : ∀ answer ∈ sent.posts.dropLast, Retries lib answer) : Accounted lib before refused sent where
  returns := hresult ▸ nofun
  few := hfew
  ok_iff := iff_of_false (hresult ▸ nofun) fun ⟨last, h, hsuccess⟩ =>
    Bool.false_ne_true ((hlast last h).symm.trans hsuccess)
  kept h := nomatch hresult.symm.trans h
  buried _ _ := ⟨entry, hdlq, hcount⟩
  repeats := hrepeats

variable (lib message meets label) in
/-- The attempts behind some that were told to retry. -/
theorem sendLoop_spec (hbot : (if has_bot then none else missingBot target) = none) (left : ℕ)
    (hleft : posts.length + left = MAX_ATTEMPTS) (hposts : ∀ answer ∈ posts, Retries lib answer)
    (state : DiscordState μ) (hbefore : state.dlq = before) :
    let sent := sendLoop lib has_bot target message meets label left state posts
    (sent.result = none ∧ BreaksFrom lib meets (posts.length + 1)) ∨
      ¬ BreaksFrom lib meets (posts.length + 1) ∧ Accounted lib before false sent := by
  induction left generalizing state posts with
  | zero =>
    subst hbefore
    have hend : ¬ BreaksFrom lib meets (posts.length + 1) := by
      rintro ⟨k, hle, hmax, -⟩
      omega
    refine .inr ⟨hend, accounted_error rfl rfl hleft.symm hleft.le (fun last h => ?_) fun answer h => ?_⟩
    · exact not_success_of_retries (hposts last (mem_of_getLast? h))
    · exact hposts answer (mem_of_mem_dropLast h)
  | succ left ih =>
    subst hbefore
    have hattempt : MAX_ATTEMPTS - left = posts.length + 1 := by omega
    have hfew : (posts ++ [(meets (posts.length + 1)).answer]).length ≤ MAX_ATTEMPTS := by
      rw [length_append]
      exact (by omega : posts.length + 1 ≤ MAX_ATTEMPTS)
    rw [breaksFrom_iff (by omega)]
    unfold sendLoop attemptResult
    rw [hbot]
    dsimp only
    rw [hattempt, if_pos rfl]
    rcases executeRequest_cases lib label (meets (posts.length + 1)).answer with
      ⟨hrequest, hbreaks⟩ | ⟨hbreaks, ⟨hrequest, hsuccess⟩ | ⟨hfailed, error, hrequest, hretry⟩⟩
    · rw [hrequest]
      exact .inl ⟨rfl, .inl hbreaks⟩
    · rw [hrequest]
      refine .inr ⟨?_, ?_⟩
      · rintro (h | ⟨h, -⟩)
        · exact hbreaks h
        · exact Bool.false_ne_true ((not_success_of_retries h).symm.trans hsuccess)
      · refine ⟨nofun, hfew, iff_of_true rfl ⟨_, getLast?_concat, hsuccess⟩, fun _ => rfl, nofun, ?_⟩
        rwa [dropLast_concat]
    · rw [hrequest]
      dsimp only
      split_ifs with hagain
      · have hretries := hretry.mp hagain.1
        have hall : ∀ answer ∈ posts ++ [(meets (posts.length + 1)).answer], Retries lib answer :=
          forall_mem_append.mpr ⟨hposts, forall_mem_singleton.mpr hretries⟩
        have hlength : (posts ++ [(meets (posts.length + 1)).answer]).length = posts.length + 1 := by simp
        refine Or.imp (And.imp_right fun h => .inr ⟨hretries, hlength ▸ h⟩) (And.imp_left fun h => ?_)
          (ih (by omega) hall _ rfl)
        exact not_or.mpr ⟨hbreaks, fun hagain => h (hlength.symm ▸ hagain.2)⟩
      · refine .inr ⟨?_, accounted_error rfl rfl (by simp) hfew (fun last h => ?_) ?_⟩
        · rintro (h | ⟨h, k, hle, hmax, -⟩)
          · exact hbreaks h
          · exact hagain ⟨hretry.mpr h, by omega⟩
        · rw [getLast?_concat] at h
          exact some.inj h ▸ hfailed
        · rwa [dropLast_concat]

variable (lib message meets label) in
/-- Without its bot, a send buries the message after no request, as one attempt. -/
theorem sendLoop_missing (state : DiscordState μ) {missing : String}
    (h : (if has_bot then none else missingBot target) = some missing) :
    let sent := sendLoop lib has_bot target message meets label MAX_ATTEMPTS state []
    sent.result = some (.error missing) ∧ sent.posts = [] ∧
      ∃ entry, sent.state.dlq = state.dlq ++ [entry] ∧ entry.retry_count = 1 := by
  simp only [sendLoop, MAX_ATTEMPTS, attemptResult, h]
  exact ⟨rfl, rfl, _, rfl, rfl⟩

/-- A send is accounted for if and only if the circuit refuses it, or the target can be sent to and no rate
limit comes that is no duration. -/
theorem send_accounted_iff (lib : Library) (has_bot : Bool) (message : μ) (meets : ℕ → Meets)
    (state : DiscordState μ) (now : ℚ) (htarget : requestLabel target = .ok label) :
    Accounted lib state.dlq (!((state.circuitOf target).allowRequest now).2)
        (send lib has_bot target message meets state now) ↔
      ((state.circuitOf target).allowRequest now).2 = false ∨
        (missingBot target ≠ none → has_bot = true) ∧ ¬ BreaksFrom lib meets 1 := by
  unfold send
  dsimp only
  cases hallowed : ((state.circuitOf target).allowRequest now).2 with
  | false => exact iff_of_true (accounted_error rfl rfl rfl (Nat.zero_le _) nofun nofun) (.inl rfl)
  | true =>
    rw [htarget]
    have hcan : (missingBot target ≠ none → has_bot = true) ↔
        (if has_bot then none else missingBot target) = none := by
      cases has_bot <;> simp
    rw [hcan]
    by_cases hbot : (if has_bot then none else missingBot target) = none
    · rcases sendLoop_spec lib message meets label hbot MAX_ATTEMPTS
        (show ([] : List Answer).length + MAX_ATTEMPTS = MAX_ATTEMPTS from rfl) nofun
        (state.setCircuit target ((state.circuitOf target).allowRequest now).1) rfl with
        ⟨hnone, hbreaks⟩ | ⟨hbreaks, haccounted⟩
      · exact iff_of_false (fun h => h.returns hnone) (by simpa [hbot] using hbreaks)
      · exact iff_of_true haccounted (.inr ⟨hbot, hbreaks⟩)
    · refine iff_of_false (fun h => ?_) (by simp [hbot])
      obtain ⟨missing, hmissing⟩ := ne_none_iff_exists'.mp hbot
      obtain ⟨hresult, hposts, entry, hdlq, hone⟩ := sendLoop_missing lib message meets label
        (state.setCircuit target ((state.circuitOf target).allowRequest now).1) hmissing
      obtain ⟨counted, hcounted, hcount⟩ := h.buried missing hresult
      have hentry : entry = counted := by
        simpa [DiscordState.setCircuit] using hdlq.symm.trans hcounted
      rw [← hentry, hone] at hcount
      exact absurd (hcount.trans (congrArg List.length hposts)) (by decide)

end

/-! ## Runs -/

/-- A call of `DiscordClient::send`. -/
structure SendCall (μ : Type) where
  target : SinkTarget
  message : μ
  meets : ℕ → Meets
  now : ℚ

/-- A client that sends one message after another; each send comes with the key of its target. -/
def client (lib : Library) (has_bot : Bool) (μ : Type) : Machine (DiscordState μ) (SendCall μ) (String × Sent μ) where
  step state call :=
    let sent := send lib has_bot call.target call.message call.meets state call.now
    (sent.state, targetRateLimitKey call.target, sent)

section

variable {μ : Type} {target : SinkTarget} {state : DiscordState μ} {circuit : CircuitBreaker} {now opened_at : ℚ}
  {key : String} (lib : Library) (has_bot : Bool) (message : μ) (meets : ℕ → Meets)

/-- A send leaves the circuits of other targets alone. -/
theorem send_circuits_ne (h : key ≠ targetRateLimitKey target) :
    (send lib has_bot target message meets state now).state.circuits.get key = state.circuits.get key := by
  have hset (state : DiscordState μ) (circuit : CircuitBreaker) :
      (state.setCircuit target circuit).circuits.get key = state.circuits.get key := OrdMap.get_insert_ne _ _ h
  have hloop (label : String) (left : ℕ) (state : DiscordState μ) (posts : List Answer) :
      (sendLoop lib has_bot target message meets label left state posts).state.circuits.get key =
        state.circuits.get key := by
    induction left generalizing state posts with
    | zero => rfl
    | succ left ih =>
      unfold sendLoop
      dsimp only
      split
      · rfl
      · exact hset _ _
      · split_ifs
        all_goals first | exact hset _ _ | exact (ih _ _).trans (hset _ _)
  unfold send
  dsimp only
  split_ifs
  · exact hset _ _
  · split
    · exact hset _ _
    · exact (hloop ..).trans (hset _ _)

/-- An open circuit refuses a send before the cooldown is over. -/
theorem send_refused (h : state.circuits.get (targetRateLimitKey target) = some circuit)
    (hopen : circuit.state = .opened opened_at) (hsoon : max 0 (now - opened_at) < circuit.cooldown) :
    let sent := send lib has_bot target message meets state now
    (sent.posts = [] ∧ ∃ error, sent.result = some (.error error)) ∧
      sent.state.circuits.get (targetRateLimitKey target) = some circuit := by
  have hallowed : (state.circuitOf target).allowRequest now = (circuit, false) := by
    unfold DiscordState.circuitOf CircuitBreaker.allowRequest
    rw [h, getD_some, hopen]
    exact if_neg (not_le.mpr hsoon)
  unfold send
  rw [hallowed]
  exact ⟨⟨rfl, _, rfl⟩, OrdMap.get_insert_self _ _ _⟩

/-- While the circuit of a target is open, every send to it is refused without a request until the cooldown is
over, whatever is sent to others in between. -/
theorem open_circuit_holds {calls : List (SendCall μ)} (h : state.circuits.get key = some circuit)
    (hopen : circuit.state = .opened opened_at) (hsoon : ∀ call ∈ calls, targetRateLimitKey call.target = key →
      max 0 (call.now - opened_at) < circuit.cooldown) :
    ((client lib has_bot μ).run state calls).circuits.get key = some circuit ∧
      ∀ sent ∈ (client lib has_bot μ).outputs state calls, sent.1 = key →
        sent.2.posts = [] ∧ ∃ error, sent.2.result = some (.error error) := by
  induction calls generalizing state with
  | nil => exact ⟨h, nofun⟩
  | cons call calls ih =>
    obtain ⟨hnow, hsoon⟩ := forall_mem_cons.mp hsoon
    rw [Machine.run_cons, Machine.outputs_cons, forall_mem_cons]
    by_cases hkey : targetRateLimitKey call.target = key
    · subst hkey
      obtain ⟨hrefused, hkept⟩ := send_refused lib has_bot call.message call.meets h hopen (hnow rfl)
      obtain ⟨hrun, hsent⟩ := ih hkept hsoon
      exact ⟨hrun, fun _ => hrefused, hsent⟩
    · obtain ⟨hrun, hsent⟩ :=
        ih ((send_circuits_ne lib has_bot call.message call.meets (Ne.symm hkey)).trans h) hsoon
      exact ⟨hrun, fun h => absurd h hkey, hsent⟩

end

namespace Sample

/-- A body is a number of seconds with a sign. -/
def library : Library := ⟨Router.Sample.libraries, fun body => (Text.parseI64 body).map Int.cast, toString⟩

/-- A rate limit that can be retried after some seconds, each time. -/
def limited (body : String) (_ : ℕ) : Meets := ⟨0, .response 429 body, 0⟩

def fresh : DiscordState Unit := ⟨.new 5 5, [], []⟩

theorem limited_send_is_accounted : Accounted library [] false
    (send library false (.discordWebhook "w") () (limited "1") fresh 0) := by
  have hlabel : requestLabel (.discordWebhook "w") = .ok "Discord webhook request" := rfl
  refine (send_accounted_iff library false () (limited "1") fresh 0 hlabel).mpr
    (.inr ⟨fun h => absurd rfl h, ?_⟩)
  rintro ⟨k, -, -, -, body, secs, hbody, hafter, hsecs⟩
  obtain rfl := (Answer.response.inj hbody).2
  have hone : library.retryAfter "1" = some 1 := by decide +kernel
  rw [← some.inj (hone.symm.trans hafter)] at hsecs
  norm_num at hsecs

/-- A send that is to be retried a second before panics. -/
theorem past_retry_panics : ¬ ∀ (target : SinkTarget) (label : String) (meets : ℕ → Meets),
    requestLabel target = .ok label → Accounted library [] false
      (send library true target () meets fresh 0) := by
  intro h
  exact (h (.discordChannel "c") _ (limited "-1") rfl).returns (by decide +kernel)

/-- A send to a channel whose circuit has just opened, after one to a webhook. -/
theorem open_channel_is_refused :
    let state : DiscordState Unit := ⟨.new 5 5, [("discord:channel:c", ⟨.opened 0, 3, 3, 5⟩)], []⟩
    let calls := [⟨.discordWebhook "w", (), limited "1", 9⟩, ⟨.discordChannel "c", (), limited "1", 4⟩]
    ((client library true Unit).run state calls).circuits.get "discord:channel:c" = some ⟨.opened 0, 3, 3, 5⟩ ∧
      ∀ sent ∈ (client library true Unit).outputs state calls, sent.1 = "discord:channel:c" →
        sent.2.posts = [] ∧ ∃ error, sent.2.result = some (.error error) := by
  refine open_circuit_holds library true rfl rfl
    (forall_mem_cons.mpr ⟨fun h => absurd h (by decide), forall_mem_singleton.mpr fun _ => ?_⟩)
  norm_num

end Sample

end Clawhip.Discord
