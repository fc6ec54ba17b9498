import Clawhip.Http.Redaction
import Clawhip.Lib.Lines
import Clawhip.Lib.Outcome

/-!
# GitHub mutation plans

`github_mutation_plan` of `src/gajae.rs`. A plan is known by the hash of its fields and of the first 4096
bytes of its body, so that is what two mutations are told apart by: `tells_apart`.
-/

namespace Clawhip.Gajae

open List Option

structure GithubMutationPlanRequest where
  repo : String
  kind : String
  target : String
  body : Option String
  label : Option String
  actor : Option String
  existing_keys : List String

structure BoundedBodyDigest where
  algorithm : String
  hex : String
  bytes : ℕ
  chars : ℕ
  capped : Bool

structure PlannedGithubAction where
  provider : String
  repo : String
  kind : String
  risk : String
  target : String
  label : Option String
  actor : Option String

structure MutationExecutionBoundary where
  mode : String
  executed : Bool
  follow_up_required : Bool

structure GithubMutationPlan where
  family : String
  schema : String
  status : String
  action : PlannedGithubAction
  idempotency_key : String
  duplicate : Bool
  authority_required : Bool
  blocked : Bool
  block_reason : Option String
  execution : MutationExecutionBoundary
  body_digest : Option BoundedBodyDigest
  compensation_ref : String

def normalizeActionKind (kind : String) : Except String String :=
  match Text.trim kind with
  | "comment" | "issue-comment" | "pr-comment" => .ok "comment"
  | "label" | "add-label" => .ok "label"
  | "review-request" | "request-review" => .ok "review-request"
  | "draft-pr" | "draft-pr-proposal" => .ok "draft-pr"
  | "close-issue" | "issue-close" => .ok "close-issue"
  | "branch-push" | "push" => .ok "branch-push"
  | "release" => .ok "release"
  | "retag" => .ok "retag"
  | "merge" => .ok "merge"
  | _ => .error "unsupported GitHub mutation action kind"

def protectedGithubAction (kind : String) : Bool :=
  ["branch-push", "close-issue", "release", "retag", "merge"].contains kind

def publicIdentifier (value field : String) : Except String String := do
  let value := Text.trim value
  if value.isEmpty then throw s!"GitHub mutation {field} is required"
  if value.utf8ByteSize > 160 then throw s!"GitHub mutation {field} exceeds public-safe length"
  if value.toList.any fun ch => Http.isControl ch || Text.isWhitespace ch then
    throw s!"GitHub mutation {field} must be a single public identifier"
  let lower := Text.toAsciiLowercase value
  if Text.contains lower "token" || Text.contains lower "secret" || Text.contains lower "password" then
    throw s!"GitHub mutation {field} is not public-safe"
  return value

def asBytes (value : String) : List UInt8 := value.toUTF8.data.toList

def fnv1a64Hex (bytes : List UInt8) : String :=
  Text.hex16 (bytes.foldl
    (fun hash byte => Nat.xor hash byte.toNat * 0x100000001b3 % 2 ^ 64) 0xcbf29ce484222325)

def BODY_DIGEST_LIMIT : ℕ := 4096

def boundedBodyDigest (body : String) : BoundedBodyDigest :=
  let bytes := asBytes body
  { algorithm := "fnv1a64-bounded-4096", hex := fnv1a64Hex (bytes.take BODY_DIGEST_LIMIT)
    bytes := bytes.length, chars := body.toList.length
    capped := decide (BODY_DIGEST_LIMIT < bytes.length) }

/-- Fields before a last one, with a NUL after each. -/
def nulJoined (fields : List String) (last : String) : String :=
  fields.foldr (fun field rest => field ++ '\x00'.toString ++ rest) last

/-- The text that stands for a mutation. -/
def canonical (repo kind target : String) (label actor : Option String)
    (body_digest : Option BoundedBodyDigest) : String :=
  nulJoined ["github", repo, kind, target, label.getD "", actor.getD ""]
    ((body_digest.map (·.hex)).getD "")

def githubMutationIdempotencyKey (repo kind target : String) (label actor : Option String)
    (body_digest : Option BoundedBodyDigest) : String :=
  "gajae:mutation-plan:github:" ++ fnv1a64Hex (asBytes (canonical repo kind target label actor body_digest))

def githubMutationPlan (request : GithubMutationPlanRequest) : Except String GithubMutationPlan := do
  let kind ← normalizeActionKind request.kind
  let repo ← publicIdentifier request.repo "repo"
  let target ← publicIdentifier request.target "target"
  let label ← request.label.mapM fun value => publicIdentifier value "label"
  let actor ← request.actor.mapM fun value => publicIdentifier value "actor"
  let is_protected := protectedGithubAction kind
  let body_digest := request.body.map boundedBodyDigest
  let idempotency_key := githubMutationIdempotencyKey repo kind target label actor body_digest
  let duplicate := request.existing_keys.any fun key => Text.trim key == idempotency_key
  let status := if duplicate then "duplicate-suppressed" else if is_protected then "blocked" else "planned"
  return {
    family := "mutation-plan", schema := "gajae.mutation-plan.github.v1", status
    action := {
      provider := "github", repo, kind, risk := if is_protected then "protected" else "low"
      target, label, actor }
    idempotency_key, duplicate, authority_required := is_protected, blocked := is_protected
    block_reason := if is_protected then some "authority-required" else none
    execution := { mode := "plan-only", executed := false, follow_up_required := !duplicate }
    body_digest, compensation_ref := s!"github:{repo}:{kind}:{target}" }

/-! ## What plans are told apart by -/

/-- What tells one mutation from another, where no more of a body is seen than `view`. -/
def identity {β : Type} (view : String → β) (request : GithubMutationPlanRequest) :
    Except String String × List String × Option String × Option String × Option β :=
  (normalizeActionKind request.kind, [Text.trim request.repo, Text.trim request.target],
    request.label.map Text.trim, request.actor.map Text.trim, request.body.map view)

/-- The bytes of a body that are hashed. -/
def digested (body : String) : List UInt8 := (asBytes body).take BODY_DIGEST_LIMIT

abbrev Planned := GithubMutationPlanRequest × GithubMutationPlan

def hashed (entry : Planned) : List (List UInt8) :=
  let action := entry.2.action
  asBytes (canonical action.repo action.kind action.target action.label action.actor entry.2.body_digest) ::
    (entry.1.body.map digested).toList

/-- No two of the texts that are hashed for some plans have one hash. -/
def NoCollision (planned : List Planned) : Prop :=
  ∀ a ∈ planned.flatMap hashed, ∀ b ∈ planned.flatMap hashed, fnv1a64Hex a = fnv1a64Hex b → a = b

/-- Two plans have one key if they are of the same mutation, and a plan is suppressed for the keys of
earlier ones if one of those is of the same mutation. -/
structure TellsApart {β : Type} (view : String → β) (planned : List Planned) : Prop where
  keys : ∀ first ∈ planned, ∀ second ∈ planned,
    (first.2.idempotency_key = second.2.idempotency_key ↔ identity view first.1 = identity view second.1)
  suppressed : ∀ entry ∈ planned, ∀ earlier, earlier ⊆ planned →
    entry.1.existing_keys = earlier.map (·.2.idempotency_key) → (entry.2.status = "duplicate-suppressed" ↔
      ∃ before ∈ earlier, identity view before.1 = identity view entry.1)

/-! ## Plans -/

/-- What a text that may be missing is made to. -/
structure IsIdentifier (value result : Option String) : Prop where
  trimmed : value.map Text.trim = result
  filled : ∀ text ∈ result, text ≠ "" ∧ '\x00' ∉ text.toList

theorem isIdentifier {value field result : String} (h : publicIdentifier value field = .ok result) :
    IsIdentifier (some value) (some result) := by
  unfold publicIdentifier at h
  dsimp only at h
  split_ifs at h with hempty
  all_goals try
    obtain ⟨_, hthrow, -⟩ := bind_eq_ok.mp h
    cases hthrow
  rename_i hspace _
  obtain rfl := Except.ok.inj h
  refine ⟨rfl, ?_⟩
  rintro _ ⟨⟩
  exact ⟨by simpa using hempty, fun hnul => hspace (any_eq_true.mpr ⟨_, hnul, by decide⟩)⟩

theorem isIdentifier_of_mapM {value result : Option String} {field : String}
    (h : value.mapM (fun value => publicIdentifier value field) = .ok result) : IsIdentifier value result := by
  cases value with
  | none =>
    cases h
    exact ⟨rfl, nofun⟩
  | some value =>
    obtain ⟨text, htext, hresult⟩ := bind_eq_ok.mp h
    exact Except.ok.inj hresult ▸ isIdentifier htext

theorem no_nul_of_normalizeActionKind {kind result : String} (h : normalizeActionKind kind = .ok result) :
    '\x00' ∉ result.toList := by
  unfold normalizeActionKind at h
  split at h
  all_goals
    cases h
    try decide

/-- What a plan says of its request. -/
structure PlanOf (request : GithubMutationPlanRequest) (plan : GithubMutationPlan) : Prop where
  kind : normalizeActionKind request.kind = .ok plan.action.kind
  repo : IsIdentifier (some request.repo) (some plan.action.repo)
  target : IsIdentifier (some request.target) (some plan.action.target)
  label : IsIdentifier request.label plan.action.label
  actor : IsIdentifier request.actor plan.action.actor
  body : plan.body_digest = request.body.map boundedBodyDigest
  key : plan.idempotency_key = githubMutationIdempotencyKey plan.action.repo plan.action.kind
    plan.action.target plan.action.label plan.action.actor plan.body_digest
  status : plan.status = "duplicate-suppressed" ↔
    ∃ key ∈ request.existing_keys, Text.trim key = plan.idempotency_key

variable {request : GithubMutationPlanRequest} {plan : GithubMutationPlan}

theorem planOf (h : githubMutationPlan request = .ok plan) : PlanOf request plan := by
  obtain ⟨kind, hkind, h⟩ := bind_eq_ok.mp h
  obtain ⟨repo, hrepo, h⟩ := bind_eq_ok.mp h
  obtain ⟨target, htarget, h⟩ := bind_eq_ok.mp h
  obtain ⟨label, hlabel, h⟩ := bind_eq_ok.mp h
  obtain ⟨actor, hactor, h⟩ := bind_eq_ok.mp h
  obtain rfl := Except.ok.inj h
  refine ⟨hkind, isIdentifier hrepo, isIdentifier htarget, isIdentifier_of_mapM hlabel,
    isIdentifier_of_mapM hactor, rfl, rfl, ?_⟩
  dsimp only
  split_ifs with hduplicate hprotected
  · exact iff_of_true rfl (by simpa using hduplicate)
  all_goals exact iff_of_false (by decide) (by simpa using hduplicate)

theorem PlanOf.identity_eq (h : PlanOf request plan) {β : Type} (view : String → β) :
    identity view request = (.ok plan.action.kind, [plan.action.repo, plan.action.target],
      plan.action.label, plan.action.actor, request.body.map view) := by
  unfold identity
  rw [h.kind, some.inj h.repo.trimmed, some.inj h.target.trimmed, h.label.trimmed, h.actor.trimmed]

/-! ## Keys -/

theorem nulJoined_inj {fields fields' : List String} {last last' : String}
    (hlength : fields.length = fields'.length) (h : ∀ field ∈ fields, '\x00' ∉ field.toList)
    (h' : ∀ field ∈ fields', '\x00' ∉ field.toList) (heq : nulJoined fields last = nulJoined fields' last') :
    fields = fields' ∧ last = last' := by
  induction fields generalizing fields' with
  | nil =>
    obtain rfl := length_eq_zero_iff.mp hlength.symm
    exact ⟨rfl, heq⟩
  | cons field fields ih =>
    obtain ⟨field', fields', rfl⟩ := exists_cons_of_length_eq_add_one hlength.symm
    have hcut := congrArg (Text.splitOnce · '\x00') heq
    rw [forall_mem_cons] at h h'
    unfold nulJoined at hcut
    dsimp only [foldr_cons] at hcut
    rw [Text.splitOnce_append h.1, Text.splitOnce_append h'.1] at hcut
    obtain ⟨rfl, hrest⟩ := Prod.ext_iff.mp (some.inj hcut)
    obtain ⟨rfl, rfl⟩ := ih (Nat.succ.inj hlength) h.2 h'.2 hrest
    exact ⟨rfl, rfl⟩

theorem getD_inj {α : Type} {f : α → String} {first second : Option α}
    (hne : ∀ a, a ∈ first ∨ a ∈ second → f a ≠ "") (hinj : ∀ a ∈ first, ∀ b ∈ second, f a = f b → a = b)
    (h : (first.map f).getD "" = (second.map f).getD "") : first = second := by
  cases first with
  | none =>
    cases second with
    | none => rfl
    | some b => exact absurd h.symm (hne b (.inr rfl))
  | some a =>
    cases second with
    | none => exact absurd h (hne a (.inl rfl))
    | some b => exact congrArg some (hinj a rfl b rfl h)

theorem asBytes_inj {a b : String} (h : asBytes a = asBytes b) : a = b :=
  String.toByteArray_inj.mp (ByteArray.ext (Array.toList_inj.mp h))

/-- A hash ends with a digit. -/
theorem getLast?_fnv1a64Hex (bytes : List UInt8) :
    ∃ d < 16, (fnv1a64Hex bytes).toList.getLast? = some (Nat.digitChar d) := by
  unfold fnv1a64Hex Text.hex16
  rw [String.toList_ofList, getLast?_append_of_ne_nil _ Nat.toDigits_ne_nil]
  generalize foldl _ _ _ = n
  rcases Nat.lt_or_ge n 16 with hlt | hge
  · exact ⟨n, hlt, by simp [Nat.toDigits_of_lt_base hlt]⟩
  · exact ⟨n % 16, Nat.mod_lt _ (by decide), by simp [Nat.toDigits_of_base_le (by decide) hge]⟩

theorem PlanOf.trim_key (h : PlanOf request plan) : Text.trim plan.idempotency_key = plan.idempotency_key := by
  rw [h.key]
  unfold githubMutationIdempotencyKey
  generalize asBytes _ = bytes
  obtain ⟨d, hd, hlast⟩ := getLast?_fnv1a64Hex bytes
  have hdigits : ∀ d < 16, Text.isWhitespace (Nat.digitChar d) = false := by decide
  refine Text.trim_eq_self ?_ ?_
  · rw [String.toList_append]
    rintro _ ⟨⟩
    decide
  · rw [String.toList_append, getLast?_append, hlast]
    rintro _ ⟨⟩
    exact hdigits d hd

/-- What is in front of the hash of a body has no NUL in it. -/
theorem PlanOf.no_nul (h : PlanOf request plan) :
    ∀ field ∈ ["github", plan.action.repo, plan.action.kind, plan.action.target,
      plan.action.label.getD "", plan.action.actor.getD ""], '\x00' ∉ field.toList := by
  have hgetD {value result : Option String} (h : IsIdentifier value result) : '\x00' ∉ (result.getD "").toList := by
    cases result with
    | none => decide
    | some text => exact (h.filled _ rfl).2
  simp only [forall_mem_cons]
  exact ⟨by decide, hgetD h.repo, no_nul_of_normalizeActionKind h.kind, hgetD h.target, hgetD h.label,
    hgetD h.actor, nofun⟩

/-! ## Duplicates -/

variable {planned : List Planned}

theorem key_eq_iff (hplanned : ∀ entry ∈ planned, githubMutationPlan entry.1 = .ok entry.2)
    (hinj : NoCollision planned) {first second : Planned} (hfirst : first ∈ planned)
    (hsecond : second ∈ planned) : first.2.idempotency_key = second.2.idempotency_key ↔
      identity digested first.1 = identity digested second.1 := by
  have h1 := planOf (hplanned _ hfirst)
  have h2 := planOf (hplanned _ hsecond)
  have hmem {entry : Planned} (hentry : entry ∈ planned) {a : List UInt8} (ha : a ∈ hashed entry) :
      a ∈ planned.flatMap hashed := mem_flatMap.mpr ⟨entry, hentry, ha⟩
  have hhex {entry : Planned} (h : PlanOf entry.1 entry.2) :
      entry.2.body_digest.map (·.hex) = (entry.1.body.map digested).map fnv1a64Hex := by
    rw [h.body, Option.map_map, Option.map_map]
    rfl
  rw [h1.identity_eq, h2.identity_eq, h1.key, h2.key]
  simp only [Prod.mk.injEq, Except.ok.injEq, cons.injEq, and_true]
  constructor
  · intro h
    have hhash := (String.append_right_inj _).mp h
    have hcanonical := asBytes_inj (hinj _ (hmem hfirst mem_cons_self) _ (hmem hsecond mem_cons_self) hhash)
    obtain ⟨hfields, hbody⟩ := nulJoined_inj (by rfl) h1.no_nul h2.no_nul hcanonical
    simp only [cons.injEq, true_and, and_true] at hfields
    obtain ⟨hrepo, hkind, htarget, hlabel, hactor⟩ := hfields
    have hfilled {value result value' result' : Option String} (h : IsIdentifier value result)
        (h' : IsIdentifier value' result') (heq : result.getD "" = result'.getD "") : result = result' :=
      getD_inj (f := id) (fun text ht => (ht.elim (h.filled text) (h'.filled text)).1)
        (fun _ _ _ _ => id) (by simpa using heq)
    rw [hhex h1, hhex h2] at hbody
    refine ⟨hkind, ⟨hrepo, htarget⟩, hfilled h1.label h2.label hlabel, hfilled h1.actor h2.actor hactor,
      getD_inj (fun bytes _ hempty => ?_) (fun a ha b hb => hinj a ?_ b ?_) hbody⟩
    · obtain ⟨d, -, hlast⟩ := getLast?_fnv1a64Hex bytes
      rw [hempty] at hlast
      cases hlast
    · exact hmem hfirst (mem_cons_of_mem _ (mem_toList.mpr ha))
    · exact hmem hsecond (mem_cons_of_mem _ (mem_toList.mpr hb))
  · rintro ⟨hkind, ⟨hrepo, htarget⟩, hlabel, hactor, hbody⟩
    unfold githubMutationIdempotencyKey canonical
    rw [hkind, hrepo, htarget, hlabel, hactor, hhex h1, hhex h2, hbody]

/-- Plans are told apart by the first 4096 bytes of the body and by all of the fields, if what is hashed for
them does not collide. -/
theorem tells_apart (planned : List Planned)
    (hplanned : ∀ entry ∈ planned, githubMutationPlan entry.1 = .ok entry.2) (hinj : NoCollision planned) :
    TellsApart digested planned := by
  refine ⟨fun _ hfirst _ => key_eq_iff hplanned hinj hfirst, fun entry hentry earlier hearlier hexisting => ?_⟩
  have hkey {before : Planned} (hbefore : before ∈ earlier) :
      Text.trim before.2.idempotency_key = entry.2.idempotency_key ↔
        identity digested before.1 = identity digested entry.1 := by
    rw [(planOf (hplanned _ (hearlier hbefore))).trim_key]
    exact key_eq_iff hplanned hinj (hearlier hbefore) hentry
  rw [(planOf (hplanned _ hentry)).status, hexisting]
  constructor
  · rintro ⟨_, hmem, htrim⟩
    obtain ⟨before, hbefore, rfl⟩ := List.mem_map.mp hmem
    exact ⟨before, hbefore, (hkey hbefore).mp htrim⟩
  · rintro ⟨before, hbefore, hsame⟩
    exact ⟨_, List.mem_map_of_mem hbefore, (hkey hbefore).mpr hsame⟩

namespace Sample

def label : GithubMutationPlanRequest := ⟨"o/r", "add-label", "256", none, some "bug", none, []⟩

def comment (body : String) : GithubMutationPlanRequest := ⟨"o/r", "comment", "256", some body, none, none, []⟩

theorem label_and_comment : ∃ plan plan', githubMutationPlan label = .ok plan ∧
    githubMutationPlan (comment "hi") = .ok plan' ∧
    TellsApart digested [(label, plan), (comment "hi", plan')] :=
  ⟨_, _, rfl, rfl, tells_apart _ (by simpa using ⟨rfl, rfl⟩) (by unfold NoCollision; decide +kernel)⟩

/-- 4097 letters. -/
def long (last : Char) : GithubMutationPlanRequest := comment (String.ofList (List.replicate 4096 'a' ++ [last]))

set_option maxRecDepth 100000 in
/-- Two long comments that differ in their last letter have one key. -/
theorem long_comments : ¬ ∀ planned : List Planned,
    (∀ entry ∈ planned, githubMutationPlan entry.1 = .ok entry.2) → NoCollision planned →
      TellsApart asBytes planned := by
  intro h
  obtain ⟨plan, plan', hplan, hplan', hinj, hkey⟩ : ∃ plan plan', githubMutationPlan (long 'a') = .ok plan ∧
      githubMutationPlan (long 'b') = .ok plan' ∧ NoCollision [(long 'a', plan), (long 'b', plan')] ∧
      plan.idempotency_key = plan'.idempotency_key :=
    ⟨_, _, rfl, rfl, by unfold NoCollision; decide +kernel, by decide +kernel⟩
  have hkeys := (h _ (by simpa using ⟨hplan, hplan'⟩) hinj).keys _ mem_cons_self _
    (mem_cons_of_mem _ mem_cons_self)
  simp only [hkey, identity, true_iff, Prod.mk.injEq] at hkeys
  have hbodies := asBytes_inj (some.inj hkeys.2.2.2.2)
  have hlast := congrArg (fun body => body.toList.getLast?) hbodies
  rw [String.toList_ofList, String.toList_ofList, getLast?_concat, getLast?_concat] at hlast
  cases hlast

end Sample

end Clawhip.Gajae
