import Clawhip.Events.Normalize

/-!
# Normalizing twice

An event is normalized where it enters and again by the dispatcher. The second pass reads what the
first has written: `normalized_event` feeds the kind, `session_name` feeds `session_id`,
`tmux_session` feeds `session_name`, and `repo_path` feeds `repo_name`. `Settles` lists what has to
hold of the event for the second pass to change nothing, and `normalizeEvent_twice_iff` says that
nothing else does.

Most fields are safe for one reason: their chains read their own name and names that the first pass
does not write (`firstWith_congr`), or end in the field's own value (`firstWith_or_own`).
-/

namespace Clawhip.Normalize

open List Option OrdMap

/-! ## Reading a payload after a pass -/

variable {α : Type} {read : Json → Option α} {m m' : OrdMap String Json}

theorem pointer_object (m : OrdMap String Json) (k : String) (path : List String) :
    (Json.object m).pointer (k :: path) = (m.get k).bind fun v => v.pointer path := rfl

/-- A pointer along fields that are the same reads the same. -/
theorem pointer_congr {pointer : List String} (hne : pointer ≠ []) (h : ∀ k ∈ pointer.head?, m'.get k = m.get k) :
    (Json.object m').pointer pointer = (Json.object m).pointer pointer := by
  cases pointer with
  | nil => exact absurd rfl hne
  | cons k path => rw [pointer_object, pointer_object, h k rfl]

/-- The names that pointers start from. -/
def heads (pointers : List (List String)) : List String := pointers.filterMap List.head?

variable {pointers : List (List String)}

/-- Chains along fields that are the same read the same. -/
theorem firstWith_congr (hne : [] ∉ pointers) (h : ∀ k ∈ heads pointers, m'.get k = m.get k) :
    firstWith read (.object m') pointers = firstWith read (.object m) pointers := by
  unfold firstWith
  induction pointers with
  | nil => rfl
  | cons pointer pointers ih =>
    have hhead : (Json.object m').pointer pointer = (Json.object m).pointer pointer := by
      refine pointer_congr (fun hp => hne (by simp [hp])) fun k hk => h k ?_
      exact mem_filterMap.mpr ⟨pointer, mem_cons_self, hk⟩
    have hrest := ih (fun hp => hne (mem_cons_of_mem _ hp)) fun k hk => h k (by
      obtain ⟨p, hp, hpk⟩ := mem_filterMap.mp hk
      exact mem_filterMap.mpr ⟨p, mem_cons_of_mem _ hp, hpk⟩)
    rw [findSome?_cons, findSome?_cons, hhead, hrest]

theorem firstWith_append (payload : Json) (ps qs : List (List String)) :
    firstWith read payload (ps ++ qs) = (firstWith read payload ps).or (firstWith read payload qs) :=
  findSome?_append

/-- The first name of a chain, and the rest. -/
theorem firstWith_cons (m : OrdMap String Json) (k : String) (pointers : List (List String)) :
    firstWith read (.object m) ([k] :: pointers) = ((m.get k).bind read).or (firstWith read (.object m) pointers) := by
  have hfirst : firstWith read (.object m) [[k]] = (m.get k).bind read := by
    unfold firstWith
    rw [findSome?_singleton, pointer_object]
    cases m.get k <;> rfl
  rw [← hfirst]
  exact firstWith_append (.object m) [[k]] pointers

variable {write : α → Json} {k : String}

/-- A chain whose own name was written with its value, if it was missing, reads the same value. -/
theorem firstWith_or_own {other : Option α}
    (hwrite : ∀ x, (firstWith read (.object m) ([k] :: pointers)).or other = some x →
      read (write x) = some x) (hk : m'.get k =
      (m.get k).or (((firstWith read (.object m) ([k] :: pointers)).or other).map write))
    (hne : [] ∉ pointers) (hrest : ∀ k ∈ heads pointers, m'.get k = m.get k) :
    (firstWith read (.object m') ([k] :: pointers)).or other =
      (firstWith read (.object m) ([k] :: pointers)).or other := by
  have hcongr : firstWith read (.object m') pointers = firstWith read (.object m) pointers := firstWith_congr hne hrest
  generalize hv : (firstWith read (.object m) ([k] :: pointers)).or other = v at hwrite hk ⊢
  rw [firstWith_cons] at hv ⊢
  rw [hcongr]
  cases hmk : m.get k with
  | some a =>
    rw [hmk] at hk hv
    rw [hk]
    exact hv
  | none =>
    rw [hmk] at hk hv
    rw [hk]
    cases v with
    | none => exact hv
    | some x => simp [hwrite x rfl]

/-- The same without another value to fall back on. -/
theorem firstWith_own (hwrite : ∀ x, firstWith read (.object m) ([k] :: pointers) = some x → read (write x) = some x)
    (hk : m'.get k = (m.get k).or ((firstWith read (.object m) ([k] :: pointers)).map write))
    (hne : [] ∉ pointers) (hrest : ∀ k ∈ heads pointers, m'.get k = m.get k) :
    firstWith read (.object m') ([k] :: pointers) = firstWith read (.object m) ([k] :: pointers) := by
  rw [← or_none (o := firstWith read (.object m) ([k] :: pointers))] at hwrite hk
  have h := firstWith_or_own hwrite hk hne hrest
  rwa [or_none, or_none] at h

variable {s : String}

/-- A text that was read is trimmed and not blank, so it reads as itself. -/
theorem text_string {v : Json} (h : text v = some s) : text (.string s) = some s := by
  exact Text.nonblank_nonblank h

/-- A text that a chain reads reads as itself. -/
theorem text_of_firstString {payload : Json} (h : firstString payload pointers = some s) :
    text (.string s) = some s := by
  obtain ⟨pointer, -, hp⟩ := exists_of_findSome?_eq_some h
  obtain ⟨v, -, hv⟩ := bind_eq_some_iff.mp hp
  exact text_string hv

/-! ## What a pass writes -/

/-- The names that a pass writes first. -/
def firstNames : List String :=
  ["raw_event", "contract_event", "tool", "event_id", "_clawhip_generated_event_id",
    "correlation_id", "first_seen_at", "agent_name"]

/-- The names that a pass writes last. -/
def tailNames : List String :=
  ["session_name", "session_id", "project", "repo_name", "repo_path", "worktree_path", "branch",
    "issue_number", "pr_number", "pr_url", "command", "tool_name", "test_runner", "elapsed_secs",
    "status", "normalized_event", "summary", "error_message", "event_timestamp", "route_key",
    "source", "tmux_session", "tmux_window", "tmux_pane", "tmux_pane_tty", "tmux_attached", "tmux_client_count"]

theorem notMem_firstNames : ∀ k ∈ tailNames, k ∉ firstNames := by decide

section Pass

variable (stamp : Stamp) (m : OrdMap String Json) (raw c : String)

/-- The fields before the agent's name. -/
def beforeAgent : OrdMap String Json :=
  (markGenerated stamp (.object m) (m.fill (headFields stamp (.object m) raw c))).fill
    (stampFields stamp (.object m))

theorem normalizeNativeMetadata_eq : normalizeNativeMetadata stamp m raw c =
    ((beforeAgent stamp m raw c).insertMissing "agent_name"
      (str (agentName (beforeAgent stamp m raw c) c))).fill (tailFields (.object m) c) := rfl

variable {k : String} (payload : Json)

theorem get_markGenerated_ne (hk : k ≠ "_clawhip_generated_event_id") :
    (markGenerated stamp payload m).get k = m.get k := by
  unfold markGenerated
  split_ifs
  · exact get_insert_ne m _ hk
  · exact get_erase_ne m hk

theorem keys_headFields : (headFields stamp payload raw c).keys =
    ["raw_event", "contract_event", "tool", "event_id"] := rfl

theorem keys_stampFields : (stampFields stamp payload).keys = ["correlation_id", "first_seen_at"] := rfl

theorem keys_tailFields : (tailFields payload c).keys = tailNames := rfl

theorem nodup_headFields : (headFields stamp payload raw c).keys.Nodup := by
  rw [keys_headFields]
  decide

theorem nodup_stampFields : (stampFields stamp payload).keys.Nodup := by
  rw [keys_stampFields]
  decide

theorem nodup_tailFields : (tailFields payload c).keys.Nodup := by
  rw [keys_tailFields]
  decide

/-- The mark aside, a name before the agent's is kept, or comes from the first fields. -/
theorem get_beforeAgent (hk : k ≠ "_clawhip_generated_event_id") :
    (beforeAgent stamp m raw c).get k = ((m.get k).or ((headFields stamp (.object m) raw c).get k).join).or
        ((stampFields stamp (.object m)).get k).join := by
  unfold beforeAgent
  rw [get_fill _ (nodup_stampFields stamp _), get_markGenerated_ne _ _ _ hk,
    get_fill _ (nodup_headFields stamp raw c _)]

/-- The mark before the agent's name. -/
theorem get_beforeAgent_mark : (beforeAgent stamp m raw c).get "_clawhip_generated_event_id" =
    if eventIdGenerated (.object m) then some (.string (eventId (.object m) stamp)) else none := by
  have hmark : "_clawhip_generated_event_id" ∉ (stampFields stamp (.object m)).keys := by
    rw [keys_stampFields]
    decide
  unfold beforeAgent markGenerated
  rw [get_fill_of_notMem _ hmark]
  split_ifs
  · exact get_insert_self _ _ _
  · exact get_erase_self _ _

theorem get_beforeAgent_kept (hk : k ∉ firstNames) : (beforeAgent stamp m raw c).get k = m.get k := by
  have hsub : ∀ names ⊆ firstNames, k ∉ names := fun names hsub h => hk (hsub h)
  have hmark : k ≠ "_clawhip_generated_event_id" := fun h => hk (h ▸ by decide)
  unfold beforeAgent
  rw [get_fill_of_notMem _ (hsub _ (by rw [keys_stampFields]; decide)), get_markGenerated_ne _ _ _ hmark,
    get_fill_of_notMem _ (hsub _ (by rw [keys_headFields]; decide))]

/-- The last fields leave the first names alone. -/
theorem get_pass_first (hk : k ∈ firstNames) : (normalizeNativeMetadata stamp m raw c).get k = if k = "agent_name" then
      ((beforeAgent stamp m raw c).get k).or (str (agentName (beforeAgent stamp m raw c) c))
    else (beforeAgent stamp m raw c).get k := by
  have htail : k ∉ (tailFields (.object m) c).keys := fun h => notMem_firstNames k h hk
  rw [normalizeNativeMetadata_eq, get_fill_of_notMem _ htail, get_insertMissing]
  split_ifs with h
  · rw [h]
  · rfl

/-- A name of the last fields is kept, or comes from them. -/
theorem get_pass_tail (hk : k ∈ tailNames) :
    (normalizeNativeMetadata stamp m raw c).get k = (m.get k).or ((tailFields (.object m) c).get k).join := by
  have hfirst := notMem_firstNames k hk
  have hagent : k ≠ "agent_name" := fun h => hfirst (h ▸ by decide)
  rw [normalizeNativeMetadata_eq, get_fill _ (nodup_tailFields c _),
    get_insertMissing, if_neg hagent, get_beforeAgent_kept stamp m raw c hfirst]

/-- A pass leaves alone what it does not write. -/
theorem get_pass_kept (hk : k ∉ firstNames ++ tailNames) : (normalizeNativeMetadata stamp m raw c).get k = m.get k := by
  obtain ⟨hfirst, htail⟩ : k ∉ firstNames ∧ k ∉ tailNames := by simpa using hk
  have hagent : k ≠ "agent_name" := fun h => hfirst (h ▸ by decide)
  rw [normalizeNativeMetadata_eq, get_fill_of_notMem _ htail, get_insertMissing,
    if_neg hagent, get_beforeAgent_kept stamp m raw c hfirst]

theorem get_beforeAgent_tool : (beforeAgent stamp m raw c).get "tool" =
    (m.get "tool").or (str (inferTool (.object m))) := by
  have hhead : (headFields stamp (.object m) raw c).get "tool" = some (str (inferTool (.object m))) :=
    rfl
  have hstamp : (stampFields stamp (.object m)).get "tool" = none := rfl
  rw [get_beforeAgent stamp m raw c (by decide), hhead, hstamp, join_none, or_none, join_some]

/-- A pass changes nothing exactly if nothing that it would write is missing and the mark is as it
would set it. -/
theorem normalizeNativeMetadata_eq_self_iff : normalizeNativeMetadata stamp m raw c = m ↔
    (∀ p ∈ headFields stamp (.object m) raw c, m.get p.1 = none → p.2 = none) ∧ (m.get "_clawhip_generated_event_id" =
      if eventIdGenerated (.object m) then some (.string (eventId (.object m) stamp)) else none) ∧
    (∀ p ∈ stampFields stamp (.object m), m.get p.1 = none → p.2 = none) ∧
    (m.get "agent_name" = none → agentName m c = none) ∧
    ∀ p ∈ tailFields (.object m) c, m.get p.1 = none → p.2 = none := by
  constructor
  · intro h
    have hfirst : ∀ k ∈ firstNames, k ≠ "agent_name" → m.get k = (beforeAgent stamp m raw c).get k := by
      intro k hk hagent
      have hget := get_pass_first stamp m raw c hk
      rwa [h, if_neg hagent] at hget
    have hbefore {k : String} (hk : k ∈ firstNames ∧ k ≠ "agent_name" ∧ k ≠ "_clawhip_generated_event_id")
        (hnone : m.get k = none) : ((headFields stamp (.object m) raw c).get k).join = none ∧
          ((stampFields stamp (.object m)).get k).join = none := by
      have hget := hfirst k hk.1 hk.2.1
      rw [get_beforeAgent stamp m raw c hk.2.2, hnone, none_or] at hget
      exact or_eq_none_iff.mp hget.symm
    have hhead : ∀ p ∈ headFields stamp (.object m) raw c, m.get p.1 = none → p.2 = none := by
      intro p hp hnone
      have hnames : ∀ k ∈ ["raw_event", "contract_event", "tool", "event_id"], k ∈ firstNames ∧
          k ≠ "agent_name" ∧ k ≠ "_clawhip_generated_event_id" := by decide
      rw [← keys_headFields stamp raw c (.object m)] at hnames
      have hjoin := (hbefore (hnames p.1 (mem_map_of_mem hp)) hnone).1
      rwa [get_of_mem (nodup_headFields stamp raw c _) hp] at hjoin
    have hstamp : ∀ p ∈ stampFields stamp (.object m), m.get p.1 = none → p.2 = none := by
      intro p hp hnone
      have hnames : ∀ k ∈ ["correlation_id", "first_seen_at"], k ∈ firstNames ∧
          k ≠ "agent_name" ∧ k ≠ "_clawhip_generated_event_id" := by decide
      rw [← keys_stampFields stamp (.object m)] at hnames
      have hjoin := (hbefore (hnames p.1 (mem_map_of_mem hp)) hnone).2
      rwa [get_of_mem (nodup_stampFields stamp _) hp] at hjoin
    refine ⟨hhead, ?_, hstamp, ?_, ?_⟩
    · rw [hfirst _ (by decide) (by decide), get_beforeAgent_mark]
    · intro hnone
      have hget := get_pass_first stamp m raw c (k := "agent_name") (by decide)
      rw [h, if_pos rfl, hnone] at hget
      have hname := (or_eq_none_iff.mp hget.symm).2
      have htool : m.get "tool" = (beforeAgent stamp m raw c).get "tool" :=
        hfirst _ (by decide) (by decide)
      unfold agentName at hname ⊢
      rw [htool]
      exact map_eq_none_iff.mp hname
    · intro p hp hnone
      have hname : p.1 ∈ tailNames := by
        rw [← keys_tailFields c (.object m)]
        exact mem_map_of_mem hp
      have hget := get_pass_tail stamp m raw c hname
      rw [h, hnone, get_of_mem (nodup_tailFields c _) hp, none_or] at hget
      exact hget.symm
  · rintro ⟨hhead, hmark, hstamp, hagent, htail⟩
    have hmarked : markGenerated stamp (.object m) m = m := by
      unfold markGenerated
      split_ifs with hgen
      · rw [if_pos hgen] at hmark
        exact insert_get hmark
      · rw [if_neg hgen] at hmark
        exact erase_get_none hmark
    have hbefore : beforeAgent stamp m raw c = m := by
      unfold beforeAgent
      rw [fill_eq_self hhead, hmarked, fill_eq_self hstamp]
    rw [normalizeNativeMetadata_eq, hbefore]
    have hname : m.insertMissing "agent_name" (str (agentName m c)) = m := by
      cases hget : m.get "agent_name" with
      | some v => exact insertMissing_of_some hget _
      | none =>
        rw [hagent hget]
        exact insertMissing_none m _
    rw [hname, fill_eq_self htail]

end Pass

/-! ## Reading a payload after the first pass -/

/-- What the first pass, with kind `c`, makes of a payload's fields `m`. -/
structure Passed (stamp : Stamp) (m : OrdMap String Json) (c : String) (m' : OrdMap String Json) :
    Prop where
  /-- What a pass does not write is left alone. -/
  kept : ∀ k ∉ firstNames ++ tailNames, m'.get k = m.get k
  /-- The last fields are kept or filled in. -/
  tail : ∀ k ∈ tailNames, m'.get k = (m.get k).or ((tailFields (.object m) c).get k).join
  tool : m'.get "tool" = (m.get "tool").or (str (inferTool (.object m)))
  event_id : m'.get "event_id" = (m.get "event_id").or (some (.string (eventId (.object m) stamp)))
  mark : m'.get "_clawhip_generated_event_id" =
    if eventIdGenerated (.object m) then some (.string (eventId (.object m) stamp)) else none
  agent_name : m'.get "agent_name" = (m.get "agent_name").or (str (agentName m' c))
  /-- The names that a pass always fills in. -/
  stamped : ∀ k ∈ ["contract_event", "correlation_id", "first_seen_at"], m'.get k ≠ none

theorem passed (stamp : Stamp) (m : OrdMap String Json) (raw c : String) :
    Passed stamp m c (normalizeNativeMetadata stamp m raw c) := by
  have hfirst (k : String) (hk : k ∈ firstNames) (hagent : k ≠ "agent_name") :
      (normalizeNativeMetadata stamp m raw c).get k = (beforeAgent stamp m raw c).get k := by
    rw [get_pass_first stamp m raw c hk, if_neg hagent]
  have htool : (normalizeNativeMetadata stamp m raw c).get "tool" =
      (m.get "tool").or (str (inferTool (.object m))) := by
    rw [hfirst _ (by decide) (by decide), get_beforeAgent_tool]
  constructor
  · exact fun k hk => get_pass_kept stamp m raw c hk
  · exact fun k hk => get_pass_tail stamp m raw c hk
  · exact htool
  · have hhead : (headFields stamp (.object m) raw c).get "event_id" =
        some (some (.string (eventId (.object m) stamp))) := rfl
    have hstamp : (stampFields stamp (.object m)).get "event_id" = none := rfl
    rw [hfirst _ (by decide) (by decide), get_beforeAgent stamp m raw c (by decide), hhead, hstamp,
      join_none, or_none, join_some]
  · rw [hfirst _ (by decide) (by decide), get_beforeAgent_mark]
  · have hagent : agentName (beforeAgent stamp m raw c) c = agentName (normalizeNativeMetadata stamp m raw c) c := by
      unfold agentName
      rw [htool, get_beforeAgent_tool]
    have hhead : (headFields stamp (.object m) raw c).get "agent_name" = none := rfl
    have hstamp : (stampFields stamp (.object m)).get "agent_name" = none := rfl
    rw [get_pass_first stamp m raw c (by decide), if_pos rfl, hagent,
      get_beforeAgent stamp m raw c (by decide), hhead, hstamp, join_none, or_none, or_none]
  · intro k hk
    have hnames : ∀ k ∈ ["contract_event", "correlation_id", "first_seen_at"], k ∈ firstNames ∧
        k ≠ "agent_name" ∧ k ≠ "_clawhip_generated_event_id" := by decide
    obtain ⟨h₁, h₂, h₃⟩ := hnames k hk
    rw [hfirst k h₁ h₂, get_beforeAgent stamp m raw c h₃]
    simp only [mem_cons, not_mem_nil, or_false] at hk
    rcases hk with rfl | rfl | rfl
    · have hhead : (headFields stamp (.object m) raw c).get "contract_event" = some (some (.string c)) := rfl
      simp [hhead]
    · have hstamp : (stampFields stamp (.object m)).get "correlation_id" =
          some (some (.string (correlationId (.object m) stamp))) := rfl
      simp [hstamp]
    · have hstamp : (stampFields stamp (.object m)).get "first_seen_at" = some (some (.string stamp.now)) := rfl
      simp [hstamp]

/-- What names a session before its terminal session does. -/
abbrev namedSession : List (List String) :=
  [["session_name"], ["context", "session_name"], ["session"], ["tmuxSession"]]

/-- What identifies a session. -/
abbrev identifiers : List (List String) :=
  [["session_id"], ["sessionId"], ["context", "session_id"], ["context", "sessionId"]]

namespace Passed

variable {stamp : Stamp} {c : String} (h : Passed stamp m c m')

include h

variable {pointers : List (List String)} {k : String}

/-- Chains that start outside the written names read the same. -/
theorem firstWith_kept (hne : [] ∉ pointers) (hkept : ∀ k ∈ heads pointers, k ∉ firstNames ++ tailNames) :
    firstWith read (.object m') pointers = firstWith read (.object m) pointers :=
  firstWith_congr hne fun k hk => h.kept k (hkept k hk)

/-- Chains that start from an unchanged name and outside the written ones read the same. -/
theorem firstWith_same (hsame : m'.get k = m.get k) (hne : [] ∉ pointers)
    (hheads : ∀ k' ∈ heads pointers, k' = k ∨ k' ∉ firstNames ++ tailNames) :
    firstWith read (.object m') pointers = firstWith read (.object m) pointers := by
  refine firstWith_congr hne fun k' hk' => ?_
  rcases hheads k' hk' with rfl | hkept
  · exact hsame
  · exact h.kept k' hkept

section

variable (hk : k ∈ tailNames)
include hk

variable {v : Option Json}

/-- A last field is kept or filled in. -/
theorem field (hv : (tailFields (.object m) c).get k = some v) : m'.get k = (m.get k).or v := by
  rw [h.tail k hk, hv, join_some]

/-- A name that is missing after the pass was missing before, and there was nothing to write. -/
theorem missing (hv : (tailFields (.object m) c).get k = some v)
    (hnone : m'.get k = none) : m.get k = none ∧ v = none := by
  have hfield := h.field hk hv
  rw [hnone] at hfield
  exact or_eq_none_iff.mp hfield.symm

/-- A field whose chain reads its own name, and names that are not written, stays missing. -/
theorem stays_missing (hv : (tailFields (.object m) c).get k =
      some ((firstWith read (.object m) ([k] :: pointers)).map write)) (hne : [] ∉ pointers)
    (hkept : ∀ k ∈ heads pointers, k ∉ firstNames ++ tailNames) (hnone : m'.get k = none) :
    (firstWith read (.object m') ([k] :: pointers)).map write = none := by
  obtain ⟨hm, hvalue⟩ := h.missing hk hv hnone
  have hchain : firstWith read (.object m') ([k] :: pointers) = firstWith read (.object m) ([k] :: pointers) := by
    rw [firstWith_cons, firstWith_cons, h.firstWith_kept hne hkept, hnone, hm]
  rw [hchain]
  exact hvalue

/-- A field whose chain reads its own name, and names that are not written, reads the same value. -/
theorem reads_same (hv : (tailFields (.object m) c).get k =
      some ((firstWith read (.object m) ([k] :: pointers)).map write))
    (hwrite : ∀ x, firstWith read (.object m) ([k] :: pointers) = some x → read (write x) = some x)
    (hne : [] ∉ pointers) (hkept : ∀ k ∈ heads pointers, k ∉ firstNames ++ tailNames) :
    firstWith read (.object m') ([k] :: pointers) = firstWith read (.object m) ([k] :: pointers) := by
  exact firstWith_own hwrite (h.field hk hv) hne fun k hk => h.kept k (hkept k hk)

end

theorem command_eq : command (.object m') = command (.object m) :=
  h.reads_same (by decide) rfl (fun _ => text_of_firstString) (by decide) (by decide)

theorem summary_eq : summary (.object m') = summary (.object m) :=
  h.reads_same (by decide) rfl (fun _ => text_of_firstString) (by decide) (by decide)

theorem branch_eq : branch (.object m') = branch (.object m) :=
  h.reads_same (by decide) rfl (fun _ => text_of_firstString) (by decide) (by decide)

theorem worktreePath_eq : worktreePath (.object m') = worktreePath (.object m) :=
  h.reads_same (by decide) rfl (fun _ => text_of_firstString) (by decide) (by decide)

theorem prUrl_eq : prUrl (.object m') = prUrl (.object m) := by
  have hurl : m'.get "pr_url" = (m.get "pr_url").or (str (prUrl (.object m))) :=
    h.field (by decide) rfl
  unfold prUrl
  rw [h.summary_eq]
  refine firstWith_or_own (fun x hx => ?_) hurl (by decide) fun k hk => h.kept k ?_
  · rcases or_eq_some_iff.mp hx with hx | ⟨-, hx⟩
    · exact text_of_firstString hx
    · exact text_of_firstString (filter_eq_some_iff.mp hx).1
  · revert k
    decide

omit h in
/-- A chain with no value has none along a part of its pointers. -/
theorem firstWith_none_of_subset {payload : Json} {ps qs : List (List String)}
    (hps : firstWith read payload ps = none) (hsub : qs ⊆ ps) : firstWith read payload qs = none :=
  findSome?_eq_none_iff.mpr fun q hq => findSome?_eq_none_iff.mp hps q (hsub hq)

omit h in
/-- The session's name: said as such, or as a terminal session, or by the session's identifier. -/
theorem sessionName_split (fields : OrdMap String Json) : sessionName (.object fields) =
    (firstString (.object fields) namedSession).or (((fields.get "tmux_session").bind text).or
      ((firstString (.object fields) [["context", "tmuxSession"], ["context", "tmux_session"]]).or
        (firstString (.object fields) identifiers))) := by
  have htmux : firstString (.object fields) ([["tmux_session"], ["context", "tmuxSession"],
      ["context", "tmux_session"]] ++ identifiers) = ((fields.get "tmux_session").bind text).or
        ((firstString (.object fields) [["context", "tmuxSession"], ["context", "tmux_session"]]).or
          (firstString (.object fields) identifiers)) := by
    unfold firstString
    rw [← firstWith_append]
    exact firstWith_cons fields "tmux_session" _
  rw [← htmux]
  exact firstWith_append (.object fields) namedSession _

/-- The identifier's own chain reads the same when no session name comes before it. -/
theorem identifiers_eq (hnone : firstString (.object m) namedSession = none) :
    firstString (.object m') identifiers = firstString (.object m) identifiers := by
  have hid : sessionId (.object m) = firstString (.object m) identifiers := by
    have hsplit : sessionId (.object m) = (firstString (.object m) identifiers).or
        ((firstString (.object m) [["sessionId"]]).or
          (firstString (.object m) [["session_name"], ["context", "session_name"]])) := by
      unfold firstString
      rw [← firstWith_append, ← firstWith_append]
      rfl
    have hrest : firstString (.object m) [["session_name"], ["context", "session_name"]] = none :=
      firstWith_none_of_subset hnone (by decide)
    cases hfirst : firstString (.object m) identifiers with
    | some x => rw [hsplit, hfirst, some_or]
    | none =>
      have hagain : firstString (.object m) [["sessionId"]] = none :=
        firstWith_none_of_subset hfirst (by decide)
      rw [hsplit, hfirst, hagain, hrest]
      rfl
  have hfield : m'.get "session_id" = (m.get "session_id").or (str (sessionId (.object m))) :=
    h.field (by decide) rfl
  rw [hid] at hfield
  exact firstWith_own (fun _ => text_of_firstString) hfield (by decide) fun k hk => h.kept k (by
    revert k
    decide)

/-- With nothing said before it, the terminal session that the first pass fills in becomes the
session's name. -/
theorem sessionName_eq (hname : m.get "session_name" = none → sessionName (.object m) = none →
      m.get "tmux_session" = none → tmuxSession (.object m) = none) :
    sessionName (.object m') = if (m.get "session_name").isSome ∧ m.get "tmux_session" = none ∧
          firstString (.object m) namedSession = none
      then (tmuxSession (.object m)).or (sessionName (.object m)) else sessionName (.object m) := by
  have hname' : m'.get "session_name" = (m.get "session_name").or (str (sessionName (.object m))) :=
    h.field (by decide) rfl
  have htmux : m'.get "tmux_session" = (m.get "tmux_session").or (str (tmuxSession (.object m))) :=
    h.field (by decide) rfl
  have hcontext : firstString (.object m') [["context", "tmuxSession"], ["context", "tmux_session"]] =
      firstString (.object m) [["context", "tmuxSession"], ["context", "tmux_session"]] :=
    h.firstWith_kept (by decide) (by decide)
  cases hm : m.get "session_name" with
  | none =>
    rw [if_neg (by simp)]
    rw [hm, none_or] at hname'
    cases hs : sessionName (.object m) with
    | some x =>
      rw [hs] at hname'
      have hread : text (.string x) = some x := text_of_firstString hs
      have hcons : sessionName (.object m') = ((m'.get "session_name").bind text).or _ :=
        firstWith_cons m' "session_name" _
      rw [hcons, hname']
      simp [str, hread]
    | none =>
      -- Nothing was read, so nothing that the chain reads was written.
      have hid : sessionId (.object m) = none := firstWith_none_of_subset hs (by decide)
      have hheads : ∀ k ∈ heads [["session_name"], ["context", "session_name"], ["session"],
          ["tmuxSession"], ["tmux_session"], ["context", "tmuxSession"], ["context", "tmux_session"],
          ["session_id"], ["sessionId"], ["context", "session_id"], ["context", "sessionId"]],
          k = "session_name" ∨ k = "tmux_session" ∨ k = "session_id" ∨ k ∉ firstNames ++ tailNames := by decide
      rw [← hs]
      refine firstWith_congr (by decide) fun k hk => ?_
      rcases hheads k hk with rfl | rfl | rfl | hk
      · rw [hname', hs, hm]
        rfl
      · cases ht : m.get "tmux_session" with
        | some v => rw [htmux, ht, some_or]
        | none =>
          rw [htmux, ht, hname hm hs ht]
          rfl
      · have hid' : m'.get "session_id" = (m.get "session_id").or (str (sessionId (.object m))) :=
          h.field (by decide) rfl
        rw [hid', hid]
        exact or_none
      · exact h.kept k hk
  | some v =>
    have hsame : m'.get "session_name" = m.get "session_name" := by rw [hname', hm, some_or]
    have hnamed : firstString (.object m') namedSession = firstString (.object m) namedSession :=
      h.firstWith_same hsame (by decide) (by decide)
    cases hfirst : firstString (.object m) namedSession with
    | some x =>
      rw [if_neg (by simp), sessionName_split, sessionName_split, hnamed, hfirst]
      rfl
    | none =>
      have hid := h.identifiers_eq hfirst
      rw [sessionName_split m', sessionName_split m, hnamed, hfirst, hcontext, hid, htmux]
      cases ht : m.get "tmux_session" with
      | some w => simp
      | none =>
        cases hsession : tmuxSession (.object m) with
        | none => simp [str]
        | some t =>
          have hread : text (.string t) = some t := text_of_firstString hsession
          simp [str, hread]

/-- A session name that stayed out is missing in the second pass exactly if no terminal session was
filled in. -/
theorem sessionName_none_iff (hm : m.get "session_name" = none)
    (hs : sessionName (.object m) = none) : sessionName (.object m') = none ↔
      (m.get "tmux_session" = none → tmuxSession (.object m) = none) := by
  constructor
  · intro hnone ht
    have htmux : m'.get "tmux_session" = (m.get "tmux_session").or (str (tmuxSession (.object m))) :=
      h.field (by decide) rfl
    rw [ht, none_or] at htmux
    rw [sessionName_split, htmux] at hnone
    cases hsession : tmuxSession (.object m) with
    | none => rfl
    | some t =>
      have hread : text (.string t) = some t := text_of_firstString hsession
      rw [hsession] at hnone
      simp [str, hread] at hnone
  · intro ht
    rw [h.sessionName_eq fun _ _ => ht, if_neg (by simp [hm]), hs]

/-- A session identifier that stayed out is missing in the second pass exactly if no session name was
filled in. -/
theorem sessionId_none_iff (hnone : m'.get "session_id" = none) : sessionId (.object m') = none ↔
    (m.get "session_name" = none → sessionName (.object m) = none) := by
  obtain ⟨hm, hvalue⟩ : m.get "session_id" = none ∧ str (sessionId (.object m)) = none :=
    h.missing (by decide) rfl hnone
  have hid : sessionId (.object m) = none := map_eq_none_iff.mp hvalue
  have hname : m'.get "session_name" = (m.get "session_name").or (str (sessionName (.object m))) :=
    h.field (by decide) rfl
  have hheads : ∀ k ∈ heads [["session_id"], ["sessionId"], ["context", "session_id"],
      ["context", "sessionId"], ["sessionId"], ["session_name"], ["context", "session_name"]],
      k = "session_name" ∨ k = "session_id" ∨ k ∉ firstNames ++ tailNames := by decide
  constructor
  · intro hnone' hm'
    rw [hm', none_or] at hname
    have hread : firstString (.object m') [["session_name"]] = none :=
      firstWith_none_of_subset hnone' (by decide)
    have hcons : firstString (.object m') [["session_name"]] =
        ((m'.get "session_name").bind text).or none := firstWith_cons m' "session_name" []
    rw [hcons, or_none, hname] at hread
    cases hs : sessionName (.object m) with
    | none => rfl
    | some x =>
      have htext : text (.string x) = some x := text_of_firstString hs
      rw [hs] at hread
      simp [str, htext] at hread
  · intro hs
    rw [← hid]
    refine firstWith_congr (by decide) fun k hk => ?_
    rcases hheads k hk with rfl | rfl | hk
    · cases hm' : m.get "session_name" with
      | some v => rw [hname, hm', some_or]
      | none =>
        rw [hname, hm', hs hm']
        rfl
    · rw [hnone, hm]
    · exact h.kept k hk

/-- A repository name that stayed out is missing in the second pass exactly if no repository path with
a file name was filled in. -/
theorem repoName_none_iff (hnone : m'.get "repo_name" = none) : repoName (.object m') = none ↔
    (m.get "repo_path" = none → (repoPath (.object m)).bind fileName = none) := by
  obtain ⟨hm, hvalue⟩ : m.get "repo_name" = none ∧ str (repoName (.object m)) = none :=
    h.missing (by decide) rfl hnone
  have hrepo : repoName (.object m) = none := map_eq_none_iff.mp hvalue
  have hpath : m'.get "repo_path" = (m.get "repo_path").or (str (repoPath (.object m))) :=
    h.field (by decide) rfl
  obtain ⟨hchain, hfile⟩ := or_eq_none_iff.mp hrepo
  have hchain' : firstString (.object m') [["repo_name"], ["context", "repo_name"], ["projectName"],
      ["context", "projectName"]] = none := by
    rw [← hchain]
    exact h.firstWith_same (hnone.trans hm.symm) (by decide) (by decide)
  have hpaths : firstString (.object m') [["repo_path"], ["context", "repo_path"]] =
      ((m'.get "repo_path").bind text).or (firstString (.object m) [["context", "repo_path"]]) := by
    have hcontext : firstString (.object m') [["context", "repo_path"]] =
        firstString (.object m) [["context", "repo_path"]] :=
      h.firstWith_kept (by decide) (by decide)
    rw [← hcontext]
    exact firstWith_cons m' "repo_path" _
  have hpaths' : firstString (.object m) [["repo_path"], ["context", "repo_path"]] =
      ((m.get "repo_path").bind text).or (firstString (.object m) [["context", "repo_path"]]) :=
    firstWith_cons m "repo_path" _
  have hiff : repoName (.object m') = none ↔
      (firstString (.object m') [["repo_path"], ["context", "repo_path"]]).bind fileName = none := by
    rw [repoName, hchain', none_or]
  rw [hiff, hpaths, hpath]
  rw [hpaths'] at hfile
  cases hmp : m.get "repo_path" with
  | some v =>
    rw [hmp] at hfile
    simpa using hfile
  | none =>
    rw [hmp] at hfile
    cases hrp : repoPath (.object m) with
    | none => simpa [str] using hfile
    | some path =>
      have hread : text (.string path) = some path := text_of_firstString hrp
      simp [str, hread]

/-- A pull request number that is not found is not found again. -/
theorem prNumber_none (hpr : prNumber (.object m) = none) : prNumber (.object m') = none := by
  have hfield : m'.get "pr_number" = (m.get "pr_number").or (num (prNumber (.object m))) :=
    h.field (by decide) rfl
  have hnumber : firstU64 (.object m') [["pr_number"], ["context", "pr_number"]] =
      firstU64 (.object m) [["pr_number"], ["context", "pr_number"]] := by
    rw [hpr] at hfield
    exact h.firstWith_same (hfield.trans or_none) (by decide) (by decide)
  rw [prNumber, hnumber, h.prUrl_eq]
  exact hpr

omit h in
/-- A payload without an issue number has none in its session's name. -/
theorem sessionName_issue_none {fields : OrdMap String Json} (hnone : issueNumber (.object fields) = none) :
    (sessionName (.object fields)).bind extractIssueNumber = none := by
  obtain ⟨hsaid, -⟩ := or_eq_none_iff.mp hnone
  obtain ⟨-, htexts⟩ := or_eq_none_iff.mp hsaid
  simp only [issueTexts, findSome?_eq_none_iff, forall_mem_cons] at htexts
  exact htexts.1

/-- An issue number that stayed out is missing in the second pass exactly if the session's name of the
second pass has none. -/
theorem issueNumber_none_iff (hnone : m'.get "issue_number" = none) :
    issueNumber (.object m') = none ↔ (sessionName (.object m')).bind extractIssueNumber = none := by
  obtain ⟨hm, hvalue⟩ : m.get "issue_number" = none ∧ num (issueNumber (.object m)) = none :=
    h.missing (by decide) rfl hnone
  have hissue : issueNumber (.object m) = none := map_eq_none_iff.mp hvalue
  obtain ⟨hsaid, hpr⟩ := or_eq_none_iff.mp hissue
  obtain ⟨hnumber, htexts⟩ := or_eq_none_iff.mp hsaid
  have hnumber' : firstU64 (.object m') [["issue_number"], ["context", "issue_number"]] = none := by
    rw [← hnumber]
    exact h.firstWith_same (hnone.trans hm.symm) (by decide) (by decide)
  have hpr' : prNumber (.object m') = none := h.prNumber_none hpr
  rw [issueNumber, hnumber', hpr', none_or, or_none, issueTexts, findSome?_eq_none_iff]
  simp only [issueTexts, findSome?_eq_none_iff, forall_mem_cons] at htexts
  simp only [forall_mem_cons, h.branch_eq, h.worktreePath_eq, h.command_eq]
  exact ⟨fun hall => hall.1, fun hname => ⟨hname, htexts.2⟩⟩

/-- The tool's chain reads the agent's name, which is filled in from the tool. -/
theorem inferTool_none (hnone : m'.get "tool" = none) : inferTool (.object m') = none := by
  have htool := h.tool
  rw [hnone] at htool
  obtain ⟨hm, hvalue⟩ := or_eq_none_iff.mp htool.symm
  have hagent : m'.get "agent_name" = m.get "agent_name" := by
    have hname : agentName m' c = none := by
      unfold agentName
      rw [hnone]
      split_ifs <;> rfl
    rw [h.agent_name, hname]
    exact or_none
  have hinfer : inferTool (.object m') = inferTool (.object m) := by
    have htools : firstString (.object m') [["tool"]] = firstString (.object m) [["tool"]] :=
      h.firstWith_same (hnone.trans hm.symm) (by decide) (by decide)
    have hagents : firstString (.object m') [["agent_name"]] = firstString (.object m) [["agent_name"]] :=
      h.firstWith_same hagent (by decide) (by decide)
    have hsignal : (Json.object m').pointer ["signal", "routeKey"] =
        (Json.object m).pointer ["signal", "routeKey"] := by
      rw [pointer_object, pointer_object, h.kept "signal" (by decide)]
    have hcontext : (Json.object m').pointer ["context", "normalized_event"] =
        (Json.object m).pointer ["context", "normalized_event"] := by
      rw [pointer_object, pointer_object, h.kept "context" (by decide)]
    unfold inferTool
    rw [htools, hagents, hsignal, hcontext]
  rw [hinfer]
  exact map_eq_none_iff.mp hvalue

/-- The agent's name was filled in as far as it can be. -/
theorem agentName_none (hnone : m'.get "agent_name" = none) : agentName m' c = none := by
  have hname := h.agent_name
  rw [hnone] at hname
  exact map_eq_none_iff.mp (or_eq_none_iff.mp hname.symm).2

/-- A status that was not found is not found again, for the same kind. -/
theorem status_none (hstatus : status (.object m) c = none) : status (.object m') c = none := by
  have hfield : m'.get "status" = (m.get "status").or (str (status (.object m) c)) :=
    h.field (by decide) rfl
  have hsaid : saidStatus (.object m') = saidStatus (.object m) := by
    rw [hstatus] at hfield
    exact h.firstWith_same (hfield.trans or_none) (by decide) (by decide)
  rw [status, hsaid]
  exact hstatus

/-- A test runner that stayed out stays out: the command is the same. -/
theorem testRunner_none (hnone : m'.get "test_runner" = none) : testRunner (.object m') = none := by
  obtain ⟨hm, hvalue⟩ : m.get "test_runner" = none ∧ str (testRunner (.object m)) = none :=
    h.missing (by decide) rfl hnone
  have hrunner : firstString (.object m') [["test_runner"], ["signal", "testRunner"]] =
      firstString (.object m) [["test_runner"], ["signal", "testRunner"]] :=
    h.firstWith_same (hnone.trans hm.symm) (by decide) (by decide)
  rw [testRunner, hrunner, h.command_eq]
  exact map_eq_none_iff.mp hvalue

/-- An error message that stayed out stays out: the summary is the same. -/
theorem errorMessage_none (hnone : m'.get "error_message" = none) : errorMessage (.object m') c = none := by
  obtain ⟨hm, hvalue⟩ : m.get "error_message" = none ∧ str (errorMessage (.object m) c) = none :=
    h.missing (by decide) rfl hnone
  have hmessage : firstString (.object m') [["error_message"], ["error_summary"],
        ["context", "error_summary"], ["context", "error_message"]] =
      firstString (.object m) [["error_message"], ["error_summary"], ["context", "error_summary"],
        ["context", "error_message"]] :=
    h.firstWith_same (hnone.trans hm.symm) (by decide) (by decide)
  rw [errorMessage, hmessage, h.summary_eq]
  exact map_eq_none_iff.mp hvalue

/-- A pull request's address that stayed out stays out. -/
theorem prUrl_none (hnone : m'.get "pr_url" = none) : prUrl (.object m') = none := by
  obtain ⟨-, hvalue⟩ : m.get "pr_url" = none ∧ str (prUrl (.object m)) = none :=
    h.missing (by decide) rfl hnone
  rw [h.prUrl_eq]
  exact map_eq_none_iff.mp hvalue

end Passed

/-! ## When an event settles -/

/-- What an event's fields need for the second pass to fill nothing in: nothing that the first pass
writes under one name is read for another one that stayed out. -/
structure FieldsSettle (m : OrdMap String Json) : Prop where
  /-- A missing session name has no terminal session to come from by way of `tmux_session`. -/
  session_name : m.get "session_name" = none → sessionName (.object m) = none →
    m.get "tmux_session" = none → tmuxSession (.object m) = none
  /-- A missing session identifier has no session name to come from by way of `session_name`. -/
  session_id : m.get "session_id" = none → sessionId (.object m) = none →
    m.get "session_name" = none → sessionName (.object m) = none
  /-- A missing repository name has no path to come from by way of `repo_path`. -/
  repo_name : m.get "repo_name" = none → repoName (.object m) = none →
    m.get "repo_path" = none → (repoPath (.object m)).bind fileName = none
  /-- A missing issue number is not in a terminal session that names the session in the second pass
  only, which takes a session name that is there but blank. -/
  issue_number : m.get "issue_number" = none → issueNumber (.object m) = none →
    (m.get "session_name").isSome → m.get "tmux_session" = none →
      firstString (.object m) namedSession = none → (tmuxSession (.object m)).bind extractIssueNumber = none

namespace Passed

variable {stamp : Stamp} {c : String} (h : Passed stamp m c m')

include h

/-- The session's name of the second pass, once nothing is filled in for it. -/
theorem settled_sessionName (hsettle : m.get "session_name" = none → sessionName (.object m) = none →
      m.get "tmux_session" = none → tmuxSession (.object m) = none)
    (hissue : (sessionName (.object m)).bind extractIssueNumber = none) :
    (sessionName (.object m')).bind extractIssueNumber = none ↔
      ((m.get "session_name").isSome → m.get "tmux_session" = none → firstString (.object m) namedSession = none →
          (tmuxSession (.object m)).bind extractIssueNumber = none) := by
  rw [h.sessionName_eq hsettle]
  split_ifs with hcond
  · obtain ⟨hname, htmux, hnamed⟩ := hcond
    cases hsession : tmuxSession (.object m) with
    | none => simp [hissue]
    | some t => simp [hname, htmux, hnamed]
  · have hvacuous : (m.get "session_name").isSome → m.get "tmux_session" = none →
        firstString (.object m) namedSession = none → (tmuxSession (.object m)).bind extractIssueNumber = none :=
      fun h₁ h₂ h₃ => absurd ⟨h₁, h₂, h₃⟩ hcond
    exact iff_of_true hissue hvacuous

/-- Fields that the second pass does not fill in settle. -/
theorem fieldsSettle (hall : ∀ p ∈ tailFields (.object m') c, m'.get p.1 = none → p.2 = none) : FieldsSettle m := by
  -- A name that is missing after the first pass has nothing to be filled in with.
  have hnone {k : String} {v w : Option Json} (hk : k ∈ tailNames)
      (hv : (tailFields (.object m) c).get k = some v) (hw : (k, w) ∈ tailFields (.object m') c)
      (hm : m.get k = none) (hnone : v = none) : m'.get k = none ∧ w = none := by
    have hmissing : m'.get k = none := by rw [h.field hk hv, hm, hnone, or_none]
    exact ⟨hmissing, hall (k, w) hw hmissing⟩
  have hname : m.get "session_name" = none → sessionName (.object m) = none →
      m.get "tmux_session" = none → tmuxSession (.object m) = none := by
    intro hm hs
    have hvalue : str (sessionName (.object m')) = none :=
      (hnone (k := "session_name") (by decide) rfl (by simp [tailFields]) hm (by rw [hs]; rfl)).2
    exact (h.sessionName_none_iff hm hs).mp (map_eq_none_iff.mp hvalue)
  refine ⟨hname, ?_, ?_, ?_⟩
  · intro hm hs
    obtain ⟨hmissing, hvalue⟩ := hnone (k := "session_id") (w := str (sessionId (.object m'))) (by decide) rfl
        (by simp [tailFields]) hm (by rw [hs]; rfl)
    exact (h.sessionId_none_iff hmissing).mp (map_eq_none_iff.mp hvalue)
  · intro hm hs
    obtain ⟨hmissing, hvalue⟩ := hnone (k := "repo_name") (w := str (repoName (.object m'))) (by decide) rfl
        (by simp [tailFields]) hm (by rw [hs]; rfl)
    exact (h.repoName_none_iff hmissing).mp (map_eq_none_iff.mp hvalue)
  · intro hm hs
    obtain ⟨hmissing, hvalue⟩ := hnone (k := "issue_number") (w := num (issueNumber (.object m'))) (by decide) rfl
        (by simp [tailFields]) hm (by rw [hs]; rfl)
    have hissue := (h.issueNumber_none_iff hmissing).mp (map_eq_none_iff.mp hvalue)
    exact (h.settled_sessionName hname (sessionName_issue_none hs)).mp hissue

/-- Where the fields settle, the second pass fills none in. -/
theorem tailFields_none (hsettle : FieldsSettle m) :
    ∀ p ∈ tailFields (.object m') c, m'.get p.1 = none → p.2 = none := by
  have hissue (hnone : m'.get "issue_number" = none) : issueNumber (.object m') = none := by
    obtain ⟨hm, hvalue⟩ : m.get "issue_number" = none ∧ num (issueNumber (.object m)) = none :=
      h.missing (by decide) rfl hnone
    have hs : issueNumber (.object m) = none := map_eq_none_iff.mp hvalue
    refine (h.issueNumber_none_iff hnone).mpr ?_
    exact (h.settled_sessionName hsettle.session_name (sessionName_issue_none hs)).mpr (hsettle.issue_number hm hs)
  have hstatus {k : String} (hk : k ∈ tailNames)
      (hv : (tailFields (.object m) c).get k = some (str (status (.object m) c)))
      (hnone : m'.get k = none) : str (status (.object m') c) = none := by
    have hvalue := (h.missing hk hv hnone).2
    rw [h.status_none (map_eq_none_iff.mp hvalue)]
    rfl
  simp only [tailFields, forall_mem_cons, not_mem_nil, false_imp_iff, implies_true, and_true]
  refine ⟨fun hnone => ?session_name, fun hnone => ?session_id, ?project, fun hnone => ?repo_name,
    ?repo_path, ?worktree_path, ?branch, fun hnone => ?issue_number, fun hnone => ?pr_number,
    fun hnone => ?pr_url, ?command, ?tool_name, fun hnone => ?test_runner, ?elapsed_secs,
    hstatus (by decide) rfl, hstatus (by decide) rfl, ?summary, fun hnone => ?error_message,
    ?event_timestamp, ?route_key, ?source, ?tmux_session, ?tmux_window, ?tmux_pane, ?tmux_pane_tty,
    ?tmux_attached, ?tmux_client_count⟩
  case session_name =>
    obtain ⟨hm, hvalue⟩ : m.get "session_name" = none ∧ str (sessionName (.object m)) = none :=
      h.missing (by decide) rfl hnone
    have hs : sessionName (.object m) = none := map_eq_none_iff.mp hvalue
    rw [(h.sessionName_none_iff hm hs).mpr (hsettle.session_name hm hs)]
    rfl
  case session_id =>
    obtain ⟨hm, hvalue⟩ : m.get "session_id" = none ∧ str (sessionId (.object m)) = none :=
      h.missing (by decide) rfl hnone
    have hs : sessionId (.object m) = none := map_eq_none_iff.mp hvalue
    rw [(h.sessionId_none_iff hnone).mpr (hsettle.session_id hm hs)]
    rfl
  case repo_name =>
    obtain ⟨hm, hvalue⟩ : m.get "repo_name" = none ∧ str (repoName (.object m)) = none :=
      h.missing (by decide) rfl hnone
    have hs : repoName (.object m) = none := map_eq_none_iff.mp hvalue
    rw [(h.repoName_none_iff hnone).mpr (hsettle.repo_name hm hs)]
    rfl
  case issue_number => rw [hissue hnone]; rfl
  case pr_number =>
    obtain ⟨-, hvalue⟩ : m.get "pr_number" = none ∧ num (prNumber (.object m)) = none :=
      h.missing (by decide) rfl hnone
    rw [h.prNumber_none (map_eq_none_iff.mp hvalue)]
    rfl
  case pr_url => rw [h.prUrl_none hnone]; rfl
  case test_runner => rw [h.testRunner_none hnone]; rfl
  case error_message => rw [h.errorMessage_none hnone]; rfl
  -- The other chains read their own name and names that the first pass does not write.
  all_goals exact h.stays_missing (by decide) rfl (by decide) (by decide)

/-- The last fields of the second pass fill nothing in exactly if the fields settle. -/
theorem tailFields_none_iff : (∀ p ∈ tailFields (.object m') c, m'.get p.1 = none → p.2 = none) ↔ FieldsSettle m :=
  ⟨h.fieldsSettle, h.tailFields_none⟩

end Passed

end Clawhip.Normalize
