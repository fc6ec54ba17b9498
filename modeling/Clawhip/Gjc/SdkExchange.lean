import Clawhip.Gjc.SdkClient
import Clawhip.Lib.Machine

/-!
# What a request can rely on

A frame is sent only on a connection on which a valid hello was read, a control request at most once, and the
response that is returned is the first frame behind the request that is neither a notification nor without an
identifier. Notifications behind the hello change nothing, and neither do frames without an identifier as long as
an exchange reads less than sixteen of them (`request_matches`).
-/

namespace Clawhip.Gjc.Sdk

open List SdkClient

section Rules

variable (serde : Serde) (limits : SdkTransportLimits) (request : SdkRequest)

/-! ## The log -/

/-- A valid hello was read on a connection. -/
def Greeted (connection : ℕ) (log : List Event) : Prop :=
  ∃ text hello, Event.read connection (.message (.text text)) ∈ log ∧ parseHello serde limits text = .ok hello

/-- Behind `past`, a frame is sent only on a connection on which a valid hello was read before. -/
def Gated : List Event → List Event → Prop
  | _, [] => True
  | past, event :: log =>
    (∀ connection frame, event = .sent connection frame → Greeted serde limits connection past) ∧
      Gated (past ++ [event]) log

/-- The requests of a log. -/
def sends (log : List Event) : List Event :=
  log.filter fun
    | .sent _ _ => true
    | .read _ _ => false

/-- What a frame is to the loop of an exchange. -/
inductive Kind where
  | notification
  | uncorrelated
  | final
deriving DecidableEq

/-- The kind of a read. Whatever is not skipped ends the exchange. -/
def kindOf (read : Read) : Kind :=
  match read with
  | .message (.text text) =>
    match parseResponse serde limits text with
    | .error _ => .final
    | .ok response =>
      if response.frame_type = "notification" then .notification
      else if response.id.isNone then .uncorrelated
      else .final
  | _ => .final

/-- The frames without an identifier that are read before the exchange ends. -/
def uncorrelatedReads : List Read → ℕ
  | [] => 0
  | read :: reads =>
    match kindOf serde limits read with
    | .notification => uncorrelatedReads reads
    | .uncorrelated => uncorrelatedReads reads + 1
    | .final => 0

structure SdkRequest.AnsweredBy (response : SdkResponse) : Prop where
  id : response.id = some request.id
  frame_type : response.frame_type = request.responseFrameType
  ok : response.ok = some true ∨ response.ok = some false ∧ response.error.isSome

/-- The log of a call that returns a response: behind the last request, frames that are skipped and then the
response. -/
def Answered (frame : String) (response : SdkResponse) (log : List Event) : Prop :=
  ∃ before connection skipped text, log = before ++ .sent connection frame ::
      ((skipped ++ [Read.message (.text text)]).map (Event.read connection)) ∧
    (∀ read ∈ skipped, kindOf serde limits read ≠ .final) ∧
    parseResponse serde limits text = .ok response ∧ request.AnsweredBy response

end Rules

section Gate

variable {serde : Serde} {limits : SdkTransportLimits} {log past : List Event} {connection : ℕ}

theorem Greeted.mono {more : List Event} (h : Greeted serde limits connection log) :
    Greeted serde limits connection (log ++ more) := by
  obtain ⟨text, hello, hmem, hhello⟩ := h
  exact ⟨text, hello, mem_append_left _ hmem, hhello⟩

theorem gated_cons {event : Event} : Gated serde limits past (event :: log) ↔
      (∀ connection frame, event = .sent connection frame → Greeted serde limits connection past) ∧
        Gated serde limits (past ++ [event]) log := Iff.rfl

theorem gated_append {log' : List Event} : Gated serde limits past (log ++ log') ↔
      Gated serde limits past log ∧ Gated serde limits (past ++ log) log' := by
  induction log generalizing past with
  | nil => simp [Gated]
  | cons event log ih => rw [cons_append, gated_cons, gated_cons, ih, and_assoc, append_assoc, singleton_append]

/-- Reads need no gate. -/
theorem gated_reads (reads : List Read) : Gated serde limits past (reads.map (Event.read connection)) := by
  induction reads generalizing past with
  | nil => exact trivial
  | cons read reads ih =>
    refine ⟨fun _ _ h => ?_, ih⟩
    cases h

/-- An exchange sends on its connection and then reads from it. -/
theorem exchange_log (serde : Serde) (limits : SdkTransportLimits) (request : SdkRequest) (connection : ℕ)
    (frame : String) (script : Script) :
    ∃ reads : List Read, (exchange serde limits request connection frame script).2 =
      .sent connection frame :: reads.map (Event.read connection) := by
  unfold exchange
  cases script.send with
  | sent => exact ⟨_, rfl⟩
  | failed | elapsed => exact ⟨[], rfl⟩

theorem sends_exchange (serde : Serde) (limits : SdkTransportLimits) (request : SdkRequest) (connection : ℕ)
    (frame : String) (script : Script) :
    sends (exchange serde limits request connection frame script).2 = [.sent connection frame] := by
  obtain ⟨reads, h⟩ := exchange_log serde limits request connection frame script
  rw [h]
  unfold sends
  rw [filter_cons_of_pos rfl]
  congr 1
  refine filter_eq_nil_iff.mpr fun event hevent => ?_
  obtain ⟨read, -, rfl⟩ := mem_map.mp hevent
  exact Bool.false_ne_true

/-- What a connect comes to: nothing is sent, and on success a valid hello was read on the new connection. -/
theorem connect_spec (serde : Serde) (client : SdkClient) (dial : Dial) :
    (∃ reads : List Read, (client.connect serde dial).log = reads.map (Event.read client.connections)) ∧
    (client.connect serde dial).client.limits = client.limits ∧ match (client.connect serde dial).result with
    | .error _ => (client.connect serde dial).client.stream = client.stream
    | .ok (connection, _) => (client.connect serde dial).client.stream = some connection ∧
        Greeted serde client.limits connection (client.connect serde dial).log := by
  unfold connect
  cases dial with
  | failed error => exact ⟨⟨[], rfl⟩, rfl, rfl⟩
  | accepted send messages =>
    cases messages with
    | nil => exact ⟨⟨[], rfl⟩, rfl, rfl⟩
    | cons first reads =>
      cases first with
      | ended | failed => exact ⟨⟨[_], rfl⟩, rfl, rfl⟩
      | message message =>
        cases message with
        | text text =>
          cases hhello : parseHello serde client.limits text with
          | error error =>
            simp only [hhello]
            exact ⟨⟨[_], rfl⟩, trivial, trivial⟩
          | ok hello =>
            simp only [hhello]
            exact ⟨⟨[_], rfl⟩, trivial, trivial, text, hello, mem_cons_self, hhello⟩
        | binary | ping | pong | close => exact ⟨⟨[_], rfl⟩, rfl, rfl⟩

/-- The connection of a client was greeted. -/
def SdkClient.Open (serde : Serde) (client : SdkClient) (past : List Event) : Prop :=
  ∀ connection, client.stream = some connection → Greeted serde client.limits connection past

/-- The connection of an exchange was greeted, and nothing was sent to get it. -/
theorem connected_spec {client : SdkClient} (h : client.Open serde past) (behaviour : Behaviour) (dialled : ℕ) :
    (∃ reads : List Read, (client.connected serde behaviour dialled).log = reads.map (Event.read client.connections)) ∧
    (client.connected serde behaviour dialled).client.limits = client.limits ∧
    (client.connected serde behaviour dialled).client.Open serde
      (past ++ (client.connected serde behaviour dialled).log) ∧
    ∀ connection script, (client.connected serde behaviour dialled).result = .ok (connection, script) →
      (client.connected serde behaviour dialled).client.stream = some connection := by
  unfold connected
  cases hstream : client.stream with
  | some connection =>
    refine ⟨⟨[], rfl⟩, rfl, fun other hother => ?_, fun other script hok => ?_⟩
    · exact (h other hother).mono
    · obtain ⟨rfl, -⟩ := Prod.mk.inj (Except.ok.inj hok)
      exact hstream
  | none =>
    obtain ⟨hlog, hlimits, hresult⟩ := connect_spec serde client (behaviour.dials dialled)
    refine ⟨hlog, hlimits, fun connection hopen => ?_, fun connection script hok => ?_⟩
    · cases hcase : (client.connect serde (behaviour.dials dialled)).result with
      | error error =>
        rw [hcase] at hresult
        rw [hresult, hstream] at hopen
        cases hopen
      | ok connected =>
        rw [hcase] at hresult
        obtain rfl := Option.some.inj (hresult.1.symm.trans hopen)
        obtain ⟨text, hello, hmem, hhello⟩ := hresult.2
        exact ⟨text, hello, mem_append_right _ hmem, hlimits ▸ hhello⟩
    · rw [hok] at hresult
      exact hresult.1

end Gate

section Calls

variable {serde : Serde} (request : SdkRequest) (frame : String) (behaviour : Behaviour)

/-- An attempt ends where it has no connection, with its exchange, or with another attempt on a new connection. -/
theorem attempt_cases (serde : Serde) (retries dialled : ℕ) (client : SdkClient) {connected : Outcome (ℕ × Script)}
    (hconnected : client.connected serde behaviour dialled = connected) :
    (∃ error, connected.result = .error error ∧ attempt serde request frame behaviour retries dialled client =
        ⟨.error error, connected.client, connected.log⟩) ∨
    ∃ connection script, connected.result = .ok (connection, script) ∧
      ((∃ response, (exchange serde connected.client.limits request connection frame script).1 = .ok response ∧
          attempt serde request frame behaviour retries dialled client = ⟨.ok response, connected.client,
            connected.log ++ (exchange serde connected.client.limits request connection frame script).2⟩) ∨
        (∃ error, attempt serde request frame behaviour retries dialled client = ⟨.error error, connected.client.closed,
            connected.log ++ (exchange serde connected.client.limits request connection frame script).2⟩) ∨
        ∃ fewer, retries = fewer + 1 ∧ request.frame_type ≠ "control_request" ∧
          attempt serde request frame behaviour retries dialled client =
            { attempt serde request frame behaviour fewer (dialled + 1) connected.client.closed with
              log := connected.log ++ (exchange serde connected.client.limits request connection frame script).2 ++
                (attempt serde request frame behaviour fewer (dialled + 1) connected.client.closed).log }) := by
  subst hconnected
  have hattempt := attempt.eq_def serde request frame behaviour retries dialled client
  cases hresult : (client.connected serde behaviour dialled).result with
  | error error =>
    simp only [hresult] at hattempt
    exact .inl ⟨error, rfl, hattempt⟩
  | ok pair =>
    obtain ⟨connection, script⟩ := pair
    simp only [hresult] at hattempt
    refine .inr ⟨connection, script, rfl, ?_⟩
    cases hexchanged : (exchange serde (client.connected serde behaviour dialled).client.limits request connection
        frame script).1 with
    | ok response =>
      simp only [hexchanged] at hattempt
      exact .inl ⟨response, rfl, hattempt⟩
    | error error =>
      simp only [hexchanged] at hattempt
      right
      -- a control request whose connection is lost is not sent again
      split at hattempt
      · exact .inl ⟨_, hattempt⟩
      · next hcontrol =>
        split at hattempt
        · next hlost =>
          cases retries with
          | zero => exact .inl ⟨_, hattempt⟩
          | succ fewer => exact .inr ⟨fewer, rfl, fun h => hcontrol ⟨hlost, h⟩, hattempt⟩
        · exact .inl ⟨_, hattempt⟩

variable (retries : ℕ)

/-- A call sends only on connections that were greeted, and leaves one that was. -/
theorem attempt_gated : ∀ (dialled : ℕ) {client : SdkClient} {past : List Event}, client.Open serde past →
      Gated serde client.limits past (attempt serde request frame behaviour retries dialled client).log ∧
      (attempt serde request frame behaviour retries dialled client).client.limits = client.limits ∧
      (attempt serde request frame behaviour retries dialled client).client.Open serde
        (past ++ (attempt serde request frame behaviour retries dialled client).log) := by
  induction retries using Nat.strongRecOn with
  | _ retries ih =>
    intro dialled client past hopen
    obtain ⟨⟨reads, hlog⟩, hlimits, hconnected, hstream⟩ := connected_spec hopen behaviour dialled
    have hreads : Gated serde client.limits past (client.connected serde behaviour dialled).log :=
      hlog ▸ gated_reads reads
    -- what an exchange adds on the connection
    have hexchange : ∀ connection script, (client.connected serde behaviour dialled).result = .ok (connection, script) →
        Gated serde client.limits past ((client.connected serde behaviour dialled).log ++
          (exchange serde (client.connected serde behaviour dialled).client.limits request connection frame
            script).2) := by
      intro connection script hresult
      obtain ⟨reads', hexchanged⟩ := exchange_log serde
        (client.connected serde behaviour dialled).client.limits request connection frame script
      rw [hexchanged]
      have hsent : ∀ connection' frame', Event.sent connection frame = .sent connection' frame' →
          Greeted serde client.limits connection' (past ++ (client.connected serde behaviour dialled).log) := by
        intro connection' frame' h
        obtain ⟨rfl, -⟩ := Event.sent.inj h
        exact hlimits ▸ hconnected connection (hstream connection script hresult)
      exact gated_append.mpr ⟨hreads, gated_cons.mpr ⟨hsent, gated_reads reads'⟩⟩
    have hclosed : ∀ log, (client.connected serde behaviour dialled).client.closed.Open serde log := by
      intro log connection h
      cases h
    obtain ⟨error, -, hattempt⟩ | ⟨connection, script, hresult, h⟩ :=
      attempt_cases request frame behaviour serde retries dialled client rfl
    · rw [hattempt]
      exact ⟨hreads, hlimits, hconnected⟩
    · obtain ⟨response, -, hattempt⟩ | ⟨error, hattempt⟩ | ⟨fewer, rfl, -, hattempt⟩ := h
      · rw [hattempt]
        refine ⟨hexchange connection script hresult, hlimits, fun connection' hconnection' => ?_⟩
        rw [← append_assoc]
        exact (hconnected connection' hconnection').mono
      · rw [hattempt]
        exact ⟨hexchange connection script hresult, hlimits, hclosed _⟩
      · rw [hattempt]
        obtain ⟨hgated, hlimits', hleft⟩ := ih fewer (Nat.lt_succ_self fewer) (dialled + 1)
          (hclosed (past ++ ((client.connected serde behaviour dialled).log ++
            (exchange serde (client.connected serde behaviour dialled).client.limits request connection frame
              script).2)))
        have hsame : (client.connected serde behaviour dialled).client.closed.limits = client.limits := hlimits
        rw [hsame] at hgated hlimits'
        refine ⟨gated_append.mpr ⟨hexchange connection script hresult, hgated⟩, hlimits', ?_⟩
        rw [← append_assoc]
        exact hleft

/-- A control request is sent at most once. -/
theorem length_sends_attempt (hcontrol : request.frame_type = "control_request") (retries dialled : ℕ)
    (client : SdkClient) : (sends (attempt serde request frame behaviour retries dialled client).log).length ≤ 1 := by
  have hreads : ∀ (connection : ℕ) (reads : List Read), sends (reads.map (Event.read connection)) = [] := by
    intro connection reads
    refine filter_eq_nil_iff.mpr fun event hevent => ?_
    obtain ⟨read, -, rfl⟩ := mem_map.mp hevent
    exact Bool.false_ne_true
  have hnone : sends (client.connected serde behaviour dialled).log = [] := by
    unfold connected
    cases client.stream with
    | some connection => rfl
    | none =>
      obtain ⟨⟨reads, hlog⟩, -⟩ := connect_spec serde client (behaviour.dials dialled)
      rw [hlog]
      exact hreads client.connections reads
  have hone : ∀ connection script, (sends ((client.connected serde behaviour dialled).log ++
      (exchange serde (client.connected serde behaviour dialled).client.limits request connection frame
        script).2)).length ≤ 1 := by
    intro connection script
    have hsends := sends_exchange serde
      (client.connected serde behaviour dialled).client.limits request connection frame script
    unfold sends at hnone hsends ⊢
    rw [filter_append, hnone, hsends]
    exact Nat.le_refl 1
  obtain ⟨error, -, hattempt⟩ | ⟨connection, script, -, h⟩ :=
    attempt_cases request frame behaviour serde retries dialled client rfl
  · rw [hattempt, hnone]
    exact Nat.zero_le 1
  · obtain ⟨response, -, hattempt⟩ | ⟨error, hattempt⟩ | ⟨fewer, -, hother, -⟩ := h
    · rw [hattempt]
      exact hone connection script
    · rw [hattempt]
      exact hone connection script
    · exact absurd hcontrol hother

/-! ## Replies -/

variable {response : SdkResponse} {limits : SdkTransportLimits}

theorem checkReply_ok {request : SdkRequest} {result : SdkResponse} (hid : response.id = some request.id)
    (h : checkReply request response = .ok result) : result = response ∧ request.AnsweredBy response := by
  unfold checkReply at h
  split at h
  · cases h
  · next htype =>
    have htype : response.frame_type = request.responseFrameType := not_not.mp htype
    cases hok : response.ok with
    | none => simp [hok] at h
    | some ok =>
      cases ok with
      | true =>
        simp only [hok, Except.ok.injEq] at h
        exact ⟨h.symm, hid, htype, .inl hok⟩
      | false =>
        simp only [hok] at h
        split at h
        · next herror => exact ⟨(Except.ok.inj h).symm, hid, htype, .inr ⟨hok, herror⟩⟩
        · cases h

/-- A frame that is skipped, by its kind. -/
theorem readReply_cons (limits : SdkTransportLimits) (uncorrelated : ℕ) (read : Read) (reads : List Read) :
    readReply serde limits request uncorrelated (read :: reads) = match kindOf serde limits read with
      | .notification => ((readReply serde limits request uncorrelated reads).1,
          read :: (readReply serde limits request uncorrelated reads).2)
      | .uncorrelated =>
        if uncorrelated + 1 ≥ 16 then (.error .correlationMismatch, [read])
        else ((readReply serde limits request (uncorrelated + 1) reads).1,
          read :: (readReply serde limits request (uncorrelated + 1) reads).2)
      | .final => ((readReply serde limits request 0 [read]).1, [read]) := by
  cases read with
  | failed => rfl
  | ended => rfl
  | message message =>
    cases message with
    | binary => rfl
    | ping => rfl
    | pong => rfl
    | close => rfl
    | text text =>
      simp only [readReply, kindOf]
      cases parseResponse serde limits text with
      | error error => rfl
      | ok response =>
        by_cases hnotification : response.frame_type = "notification"
        · simp only [if_pos hnotification]
        · simp only [if_neg hnotification]
          cases response.id with
          | none => rfl
          | some id =>
            by_cases hid : id = request.id
            · simp [hid]
            · simp [hid]

/-- A frame that ends an exchange with a response is that response. -/
theorem readReply_final_ok {read : Read} (h : (readReply serde limits request 0 [read]).1 = .ok response)
    (hfinal : kindOf serde limits read = .final) :
    ∃ text, read = .message (.text text) ∧ parseResponse serde limits text = .ok response ∧
      request.AnsweredBy response := by
  cases read with
  | failed => cases h
  | ended => cases h
  | message message =>
    cases message with
    | binary => cases h
    | ping => cases h
    | pong => cases h
    | close => cases h
    | text text =>
      refine ⟨text, rfl, ?_⟩
      simp only [readReply, kindOf] at h hfinal
      cases hparse : parseResponse serde limits text with
      | error error => simp [hparse] at h
      | ok parsed =>
        simp only [hparse] at h hfinal
        by_cases hnotification : parsed.frame_type = "notification"
        · simp [hnotification] at hfinal
        · simp only [if_neg hnotification] at h hfinal
          cases hid : parsed.id with
          | none => simp [hid] at hfinal
          | some id =>
            simp only [hid] at h
            by_cases hsame : id = request.id
            · rw [if_pos hsame] at h
              obtain ⟨rfl, hanswered⟩ := checkReply_ok (hsame ▸ hid) h
              exact ⟨rfl, hanswered⟩
            · rw [if_neg hsame] at h
              cases h

/-- A response is the first frame that is not skipped. -/
theorem readReply_ok {reads : List Read} :
    ∀ {uncorrelated : ℕ}, (readReply serde limits request uncorrelated reads).1 = .ok response → ∃ skipped text,
        (readReply serde limits request uncorrelated reads).2 = skipped ++ [.message (.text text)] ∧
        (∀ read ∈ skipped, kindOf serde limits read ≠ .final) ∧
        parseResponse serde limits text = .ok response ∧ request.AnsweredBy response := by
  induction reads with
  | nil =>
    intro uncorrelated h
    cases h
  | cons read reads ih =>
    intro uncorrelated h
    -- a frame that is skipped stands before what the rest skips
    have hskip : ∀ {more : ℕ}, kindOf serde limits read ≠ .final →
        (readReply serde limits request more reads).1 = .ok response →
        ∃ skipped text, read :: (readReply serde limits request more reads).2 =
          skipped ++ [.message (.text text)] ∧ (∀ read ∈ skipped, kindOf serde limits read ≠ .final) ∧
          parseResponse serde limits text = .ok response ∧ request.AnsweredBy response := by
      intro more hread hrest
      obtain ⟨skipped, text, hreads, hskipped, hparse⟩ := ih hrest
      exact ⟨read :: skipped, text, by rw [hreads, cons_append], forall_mem_cons.mpr ⟨hread, hskipped⟩, hparse⟩
    rw [readReply_cons] at h ⊢
    cases hkind : kindOf serde limits read with
    | notification =>
      simp only [hkind] at h ⊢
      exact hskip (by simp [hkind]) h
    | uncorrelated =>
      simp only [hkind] at h ⊢
      by_cases hmany : uncorrelated + 1 ≥ 16
      · rw [if_pos hmany] at h
        cases h
      · rw [if_neg hmany] at h ⊢
        exact hskip (by simp [hkind]) h
    | final =>
      simp only [hkind] at h ⊢
      obtain ⟨text, rfl, hparse⟩ := readReply_final_ok request h hkind
      exact ⟨[], text, rfl, fun _ hmem => absurd hmem not_mem_nil, hparse⟩

variable {request frame}

theorem Answered.prepend {log : List Event} (h : Answered serde limits request frame response log)
    (more : List Event) : Answered serde limits request frame response (more ++ log) := by
  obtain ⟨before, connection, skipped, text, rfl, hanswered⟩ := h
  exact ⟨more ++ before, connection, skipped, text, (append_assoc _ _ _).symm, hanswered⟩

theorem exchange_answered {connection : ℕ} {script : Script}
    (h : (exchange serde limits request connection frame script).1 = .ok response) :
    Answered serde limits request frame response (exchange serde limits request connection frame script).2 := by
  unfold exchange at h ⊢
  cases hsend : script.send with
  | failed | elapsed => simp [hsend] at h
  | sent =>
    simp only [hsend] at h ⊢
    obtain ⟨skipped, text, hreads, hanswered⟩ := readReply_ok request h
    exact ⟨[], connection, skipped, text, by rw [hreads, nil_append], hanswered⟩

theorem connected_limits (serde : Serde) (client : SdkClient) (dialled : ℕ) :
    (client.connected serde behaviour dialled).client.limits = client.limits := by
  unfold connected
  cases client.stream with
  | some connection => rfl
  | none => exact (connect_spec serde client (behaviour.dials dialled)).2.1

/-- A response that is returned answers the last request that was sent. -/
theorem attempt_answered : ∀ (dialled : ℕ) {client : SdkClient},
    (attempt serde request frame behaviour retries dialled client).result = .ok response →
      Answered serde client.limits request frame response
        (attempt serde request frame behaviour retries dialled client).log := by
  induction retries using Nat.strongRecOn with
  | _ retries ih =>
    intro dialled client h
    obtain ⟨error, -, hattempt⟩ | ⟨connection, script, hresult, hcases⟩ :=
      attempt_cases request frame behaviour serde retries dialled client rfl
    · rw [hattempt] at h
      cases h
    · obtain ⟨response', hexchange, hattempt⟩ | ⟨error, hattempt⟩ | ⟨fewer, rfl, -, hattempt⟩ := hcases
      · rw [hattempt] at h ⊢
        obtain rfl := Except.ok.inj h
        have hanswered := exchange_answered hexchange
        rw [connected_limits] at hanswered ⊢
        exact hanswered.prepend _
      · rw [hattempt] at h
        cases h
      · rw [hattempt] at h ⊢
        have hanswered := ih fewer (Nat.lt_succ_self fewer) (dialled + 1) h
        have hlimits : (client.connected serde behaviour dialled).client.closed.limits = client.limits :=
          connected_limits behaviour serde client dialled
        rw [hlimits] at hanswered
        exact hanswered.prepend _

end Calls

/-! ## Noise -/

/-- More is read, in any places. -/
inductive Inserted (noise : Read → Prop) : List Read → List Read → Prop where
  | nil : Inserted noise [] []
  | keep (read : Read) {reads reads' : List Read} (h : Inserted noise reads reads') :
      Inserted noise (read :: reads) (read :: reads')
  | insert {read : Read} (hread : noise read) {reads reads' : List Read} (h : Inserted noise reads reads') :
      Inserted noise reads (read :: reads')

section Noise

variable (serde : Serde) (limits : SdkTransportLimits)

/-- An exchange that also reads frames that are skipped, and no more than fifteen without an identifier. -/
structure Script.Disturbed (script script' : Script) : Prop where
  send : script'.send = script.send
  reads : Inserted (fun read => kindOf serde limits read ≠ .final) script.reads script'.reads
  few : uncorrelatedReads serde limits script'.reads ≤ 15

/-- A connect with the same first message whose exchange is disturbed. -/
inductive Dial.Disturbed : Dial → Dial → Prop where
  | failed (error : SdkTransportError) : Dial.Disturbed (.failed error) (.failed error)
  | silent (send : Send) : Dial.Disturbed (.accepted send []) (.accepted send [])
  | accepted {send send' : Send} (first : Read) {reads reads' : List Read}
      (h : Script.Disturbed serde limits ⟨send, reads⟩ ⟨send', reads'⟩) :
      Dial.Disturbed (.accepted send (first :: reads)) (.accepted send' (first :: reads'))

/-- A behaviour all of whose exchanges are disturbed. -/
structure Behaviour.Disturbed (behaviour behaviour' : Behaviour) : Prop where
  pooled : behaviour.pooled.Disturbed serde limits behaviour'.pooled
  dials : ∀ n, (behaviour.dials n).Disturbed serde limits (behaviour'.dials n)

variable {serde limits} (request : SdkRequest)

/-- What is skipped does not change the result. -/
theorem readReply_inserted {reads reads' : List Read}
    (h : Inserted (fun read => kindOf serde limits read ≠ .final) reads reads') :
    ∀ {uncorrelated uncorrelated' : ℕ}, uncorrelated ≤ uncorrelated' →
      uncorrelated' + uncorrelatedReads serde limits reads' ≤ 15 →
      (readReply serde limits request uncorrelated' reads').1 =
        (readReply serde limits request uncorrelated reads).1 := by
  induction h with
  | nil => exact fun _ _ => rfl
  | keep read h ih =>
    intro uncorrelated uncorrelated' hle hfew
    rw [readReply_cons request limits uncorrelated' read, readReply_cons request limits uncorrelated read]
    unfold uncorrelatedReads at hfew
    cases hkind : kindOf serde limits read with
    | notification =>
      simp only [hkind] at hfew ⊢
      exact ih hle hfew
    | uncorrelated =>
      simp only [hkind] at hfew ⊢
      -- both counts stay below the bound, the disturbed one by what is still to come
      rw [if_neg (by omega), if_neg (by omega)]
      exact ih (by omega) (by omega)
    | final => rfl
  | insert hread h ih =>
    rename_i read reads reads'
    intro uncorrelated uncorrelated' hle hfew
    rw [readReply_cons]
    unfold uncorrelatedReads at hfew
    cases hkind : kindOf serde limits read with
    | notification =>
      simp only [hkind] at hfew ⊢
      exact ih hle hfew
    | uncorrelated =>
      simp only [hkind] at hfew ⊢
      rw [if_neg (by omega)]
      exact ih (by omega) (by omega)
    | final => exact absurd hkind hread

theorem exchange_disturbed {script script' : Script} (h : script.Disturbed serde limits script')
    (request : SdkRequest) (connection : ℕ) (frame : String) :
    (exchange serde limits request connection frame script').1 =
      (exchange serde limits request connection frame script).1 := by
  unfold exchange
  rw [h.send]
  cases script.send with
  | failed => rfl
  | elapsed => rfl
  | sent => exact readReply_inserted request h.reads (Nat.le_refl 0) (by simpa using h.few)

variable {behaviour behaviour' : Behaviour}

/-- The connection of a disturbed exchange. -/
theorem connected_disturbed {client : SdkClient} (h : behaviour.Disturbed serde client.limits behaviour')
    (dialled : ℕ) :
    (client.connected serde behaviour' dialled).client = (client.connected serde behaviour dialled).client ∧
    ((∃ error, (client.connected serde behaviour dialled).result = .error error ∧
        (client.connected serde behaviour' dialled).result = .error error) ∨ ∃ connection script script',
        (client.connected serde behaviour dialled).result = .ok (connection, script) ∧
        (client.connected serde behaviour' dialled).result = .ok (connection, script') ∧
        script.Disturbed serde client.limits script') := by
  unfold connected
  cases client.stream with
  | some connection => exact ⟨rfl, .inr ⟨connection, _, _, rfl, rfl, h.pooled⟩⟩
  | none =>
    have hdial := h.dials dialled
    unfold connect
    generalize behaviour.dials dialled = dial at hdial ⊢
    generalize behaviour'.dials dialled = dial' at hdial ⊢
    cases hdial with
    | failed error => exact ⟨rfl, .inl ⟨error, rfl, rfl⟩⟩
    | silent send => exact ⟨rfl, .inl ⟨_, rfl, rfl⟩⟩
    | accepted first hscript =>
      cases first with
      | ended | failed => exact ⟨rfl, .inl ⟨_, rfl, rfl⟩⟩
      | message message =>
        cases message with
        | text text =>
          simp only
          cases parseHello serde client.limits text with
          | error error => exact ⟨rfl, .inl ⟨error, rfl, rfl⟩⟩
          | ok hello => exact ⟨rfl, .inr ⟨_, _, _, rfl, rfl, hscript⟩⟩
        | binary | ping | pong | close => exact ⟨rfl, .inl ⟨_, rfl, rfl⟩⟩

/-- A call that is disturbed comes to the same result and leaves the same client. -/
theorem attempt_disturbed (frame : String) (retries : ℕ) :
    ∀ (dialled : ℕ) {client : SdkClient}, behaviour.Disturbed serde client.limits behaviour' →
      (attempt serde request frame behaviour' retries dialled client).result =
        (attempt serde request frame behaviour retries dialled client).result ∧
      (attempt serde request frame behaviour' retries dialled client).client =
        (attempt serde request frame behaviour retries dialled client).client := by
  -- both calls dial alike, so that what an attempt hands to the next is disturbed again
  induction retries using Nat.strongRecOn with
  | _ retries ih =>
    intro dialled client h
    have hbefore := attempt.eq_def serde request frame behaviour retries dialled client
    have hafter := attempt.eq_def serde request frame behaviour' retries dialled client
    have hlimits := connected_limits behaviour serde client dialled
    obtain ⟨hclient, hresults⟩ := connected_disturbed h dialled
    obtain ⟨error, hfirst, hsecond⟩ | ⟨connection, script, script', hfirst, hsecond, hscript⟩ := hresults
    · simp only [hfirst] at hbefore
      simp only [hsecond, hclient] at hafter
      rw [hbefore, hafter]
      exact ⟨rfl, rfl⟩
    · simp only [hfirst] at hbefore
      simp only [hsecond, hclient] at hafter
      rw [hlimits] at hbefore hafter
      rw [exchange_disturbed hscript] at hafter
      rw [hbefore, hafter]
      cases (exchange serde client.limits request connection frame script).1 with
      | ok response => exact ⟨rfl, rfl⟩
      | error error =>
        simp only
        split
        · exact ⟨rfl, rfl⟩
        · split
          · cases retries with
            | zero => exact ⟨rfl, rfl⟩
            | succ fewer =>
              have hclosed : (client.connected serde behaviour dialled).client.closed.limits = client.limits := hlimits
              exact ih fewer (Nat.lt_succ_self fewer) (dialled + 1) (hclosed.symm ▸ h)
          · exact ⟨rfl, rfl⟩

end Noise

/-! ## Calls -/

/-- A client and its calls; the answers are what happens. -/
def calls (serde : Serde) : Machine SdkClient (SdkRequest × Behaviour) (List Event) where
  step client call := ((client.request serde call.1 call.2).client, (client.request serde call.1 call.2).log)

/-- The calls of a client send only on connections that were greeted. -/
theorem calls_gated (serde : Serde) (inputs : List (SdkRequest × Behaviour)) :
    ∀ {client : SdkClient} {past : List Event}, client.Open serde past →
      Gated serde client.limits past ((calls serde).outputs client inputs).flatten := by
  induction inputs with
  | nil => exact fun _ => trivial
  | cons call inputs ih =>
    intro client past hopen
    have hcall : Gated serde client.limits past (client.request serde call.1 call.2).log ∧
        (client.request serde call.1 call.2).client.limits = client.limits ∧
        (client.request serde call.1 call.2).client.Open serde (past ++ (client.request serde call.1 call.2).log) := by
      unfold request
      cases call.1.encode with
      | error error =>
        refine ⟨trivial, rfl, ?_⟩
        rw [append_nil]
        exact hopen
      | ok frame => exact attempt_gated call.1 frame call.2 client.limits.max_reconnect_attempts 0 hopen
    obtain ⟨hgated, hlimits, hleft⟩ := hcall
    rw [Machine.outputs_cons, flatten_cons]
    have hrest := ih hleft
    rw [hlimits] at hrest
    exact gated_append.mpr ⟨hgated, hrest⟩

/-- For every endpoint: the calls of a client send a frame only on a connection on which a valid hello was read, a
call sends a control request at most once, a response that it returns is the first frame behind its last request
that is neither a notification nor without an identifier, and noise behind the hello does not change its result. -/
theorem request_matches (serde : Serde) : (∀ limits inputs, Gated serde limits.sanitized []
      ((calls serde).outputs (SdkClient.new.withLimits limits) inputs).flatten) ∧
    (∀ (client : SdkClient) request behaviour, request.frame_type = "control_request" →
      (sends (client.request serde request behaviour).log).length ≤ 1) ∧
    (∀ (client : SdkClient) request behaviour response,
      (client.request serde request behaviour).result = .ok response → ∃ frame, request.encode = .ok frame ∧
          Answered serde client.limits request frame response (client.request serde request behaviour).log) ∧
    ∀ (client : SdkClient) request (behaviour behaviour' : Behaviour),
      behaviour.Disturbed serde client.limits behaviour' →
        (client.request serde request behaviour').result = (client.request serde request behaviour).result := by
  refine ⟨fun limits inputs => ?_, fun client request behaviour hcontrol => ?_,
    fun client request behaviour response hok => ?_, fun client request behaviour behaviour' h => ?_⟩
  · have hnew : (SdkClient.new.withLimits limits).Open serde [] := by
      intro connection hconnection
      cases hconnection
    exact calls_gated serde inputs hnew
  · unfold SdkClient.request
    cases request.encode with
    | error error => exact Nat.zero_le 1
    | ok frame => exact length_sends_attempt request frame behaviour hcontrol _ 0 client
  · unfold SdkClient.request at hok ⊢
    cases hencode : request.encode with
    | error error => simp [hencode] at hok
    | ok frame =>
      simp only [hencode] at hok ⊢
      exact ⟨frame, rfl, attempt_answered behaviour _ 0 hok⟩
  · unfold SdkClient.request
    cases request.encode with
    | error error => rfl
    | ok frame => exact (attempt_disturbed request frame _ 0 h).1

namespace Sample

/-- A hello, a notification, a frame without an identifier and a reply. -/
def hello : String := "\x7b\"type\":\"hello\",\"connectionId\":\"c1\"\x7d"

def notification : String := "\x7b\"type\":\"notification\",\"id\":null\x7d"

def idless : String := "\x7b\"type\":\"event\",\"id\":null\x7d"

def reply : String := "\x7b\"type\":\"query_response\",\"id\":\"q1\",\"ok\":true\x7d"

def answer : SdkResponse := ⟨some "q1", "query_response", some true, .null, .null, none⟩

/-- What `serde_json` reads there. -/
def serde : Serde where
  value text :=
    if text = hello then some (.ofFields [("type", .string "hello"), ("connectionId", .string "c1")]) else none
  response text :=
    if text = notification then some ⟨none, "notification", none, .null, .null, none⟩
    else if text = idless then some ⟨none, "event", none, .null, .null, none⟩
    else if text = reply then some answer
    else none

def request : SdkRequest := ⟨"q1", "query_request", some "session.metadata", none, .object []⟩

def said (text : String) : Read := .message (.text text)

/-- An endpoint that sends these messages on every connection. -/
def endpoint (messages : List Read) : Behaviour := ⟨⟨.sent, []⟩, fun _ => .accepted .sent messages⟩

/-- What the first call of a client returns. -/
def result (messages : List Read) : Except SdkTransportError SdkResponse :=
  (SdkClient.new.request serde request (endpoint messages)).result

theorem notification_is_skipped : result [said hello, said notification, said reply] = .ok answer := by
  have hdisturbed : (endpoint [said hello, said reply]).Disturbed serde SdkClient.new.limits
      (endpoint [said hello, said notification, said reply]) := by
    refine ⟨⟨rfl, .nil, by decide⟩, fun _ => .accepted _ ⟨rfl, ?_, by decide⟩⟩
    exact .insert (by decide) (.keep _ .nil)
  have hresult : result [said hello, said reply] = .ok answer := by decide +kernel
  exact ((request_matches serde).2.2.2 SdkClient.new request _ _ hdisturbed).trans hresult

/-- A notification before the hello, a ping behind it, and fifteen frames without an identifier beside another one
change the result. -/
theorem noise_changes_the_result : (Inserted (fun read => read = said notification) [said hello, said reply]
        [said notification, said hello, said reply] ∧
      result [said hello, said reply] ≠ result [said notification, said hello, said reply]) ∧
    (Inserted (fun read => read = .message .ping) [said hello, said reply]
        [said hello, .message .ping, said reply] ∧
      result [said hello, said reply] ≠ result [said hello, .message .ping, said reply]) ∧
    (Inserted (fun read => read = said idless) [said hello, said idless, said reply]
        (said hello :: List.replicate 15 (said idless) ++ [said idless, said reply]) ∧
      result [said hello, said idless, said reply] ≠
        result (said hello :: List.replicate 15 (said idless) ++ [said idless, said reply])) := by
  have hreply : result [said hello, said reply] = .ok answer := by decide +kernel
  have hbefore : Inserted (fun read => read = said notification) [said hello, said reply]
      [said notification, said hello, said reply] := .insert (by rfl) (.keep _ (.keep _ .nil))
  have hbehind : Inserted (fun read => read = .message .ping) [said hello, said reply]
      [said hello, .message .ping, said reply] := .keep _ (.insert (by rfl) (.keep _ .nil))
  refine ⟨⟨hbefore, ?_⟩, ⟨hbehind, ?_⟩, ?_, ?_⟩
  · have hnoise : result [said notification, said hello, said reply] = .error .invalidHello := by decide +kernel
    rw [hreply, hnoise]
    simp
  · have hnoise : result [said hello, .message .ping, said reply] = .error .frameRejected := by decide +kernel
    rw [hreply, hnoise]
    simp
  · refine .keep _ ?_
    have hinsert : ∀ n, Inserted (fun read => read = said idless) [said idless, said reply]
        (List.replicate n (said idless) ++ [said idless, said reply]) := by
      intro n
      induction n with
      | zero => exact .keep _ (.keep _ .nil)
      | succ n ih => exact .insert (by rfl) ih
    exact hinsert 15
  · have hone : result [said hello, said idless, said reply] = .ok answer := by decide +kernel
    have hmany : result (said hello :: List.replicate 15 (said idless) ++ [said idless, said reply]) =
        .error .correlationMismatch := by decide +kernel
    rw [hone, hmany]
    simp

end Sample

end Clawhip.Gjc.Sdk
