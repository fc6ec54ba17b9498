import Clawhip.Routing.Globs
import Clawhip.Tmux.Registry
import Mathlib.Data.List.MinMax
import Mathlib.Data.Prod.Lex

/-!
# The monitor of a session

`resolve_monitored_sessions` of `src/source/tmux.rs`: which of the configured monitors a session gets.
The running replacement finds the first of the best (`resolves`).
-/

namespace Clawhip.Tmux

open List OrdMap MonitorSpecificity RegisteredTmuxSession

/-- A configured monitor is for a session: it matches one that is live, or is an exact name. -/
def RegisteredTmuxSession.isFor (monitor : RegisteredTmuxSession) (available_sessions : List String)
    (session : String) : Bool :=
  available_sessions.contains session && Router.globMatch monitor.session session ||
    !isSessionPattern monitor.session && monitor.session == session

/-- An exact name comes first, then the pattern with more letters, then the one with fewer stars. -/
def RegisteredTmuxSession.rank (monitor : RegisteredTmuxSession) : Bool ×ₗ ℕ ×ₗ ℕᵒᵈ :=
  let specificity := MonitorSpecificity.forPattern monitor.session
  toLex (specificity.exact_match, toLex (specificity.literal_chars, .toDual specificity.wildcard_count))

section

variable (configured : List RegisteredTmuxSession) (available : List String) (session : String)

/-- The configured monitor that is for a session: the first of those that no other one outranks. -/
def winner : Option RegisteredTmuxSession :=
  (configured.filter fun monitor => monitor.isFor available session).argmax RegisteredTmuxSession.rank

/-- A session gets the most specific of the monitors for it. -/
structure Resolves : Prop where
  monitored : ((resolveMonitoredSessions configured available).get session).isSome = true ↔
    ∃ monitor ∈ configured, monitor.isFor available session = true
  chosen : (resolveMonitoredSessions configured available).get session =
    (winner configured available session).map fun monitor => { monitor with session := session }
  order : ∀ sessions : List String, sessions.Perm available →
    (resolveMonitoredSessions configured sessions).get session =
      (resolveMonitoredSessions configured available).get session
  exact : ∀ monitor ∈ configured, isSessionPattern monitor.session = false → monitor.session = session →
    ∀ best ∈ winner configured available session, isSessionPattern best.session = false

end

theorem outranks_iff (monitor other : RegisteredTmuxSession) :
    (forPattern monitor.session).outranks (.forPattern other.session) = true ↔ other.rank < monitor.rank := by
  unfold outranks rank
  generalize forPattern monitor.session = a
  generalize forPattern other.session = b
  simp only [Prod.Lex.toLex_lt_toLex, OrderDual.toDual_lt_toDual]
  cases a.exact_match <;> cases b.exact_match
  all_goals simp
  all_goals
    split_ifs
    all_goals omega

/-- An exact name matches itself only. -/
theorem globMatch_of_exact {pattern value : String} (h : isSessionPattern pattern = false) :
    Router.globMatch pattern value = true ↔ pattern = value := by
  have hstar : '*' ∉ pattern.toList := by simpa [isSessionPattern] using h
  rw [Glob.globMatch_iff_expands, expands_iff_fits, Glob.piecesOf_of_not_mem hstar]
  exact ⟨fun h => String.toList_inj.mp (Eq.symm h), fun h => congrArg String.toList h.symm⟩

/-! ## One registration -/

section

variable {available : List String} {session : String} {registration : RegisteredTmuxSession}

def RegisteredTmuxSession.entry (session : String) (registration : RegisteredTmuxSession) :
    MonitorSpecificity × RegisteredTmuxSession :=
  (.forPattern registration.session, { registration with session := session })

/-- The entry of a session after a registration that is for it. -/
def replaced (session : String) (registration : RegisteredTmuxSession) :
    Option (MonitorSpecificity × RegisteredTmuxSession) → MonitorSpecificity × RegisteredTmuxSession
  | some existing =>
    if (registration.entry session).1.outranks existing.1 then registration.entry session else existing
  | none => registration.entry session

theorem replaced_again (existing : Option (MonitorSpecificity × RegisteredTmuxSession)) :
    replaced session registration (some (replaced session registration existing)) =
      replaced session registration existing := by
  have hself : ¬ (registration.entry session).1.outranks (registration.entry session).1 = true :=
    fun h => lt_irrefl _ ((outranks_iff _ _).mp h)
  cases existing with
  | none => exact if_neg hself
  | some existing =>
    unfold replaced
    dsimp only
    split_ifs
    all_goals rfl

variable (resolved : OrdMap String (MonitorSpecificity × RegisteredTmuxSession))

theorem get_insertResolvedSession (name : String) :
    (insertResolvedSession resolved name (registration.entry name).1 (registration.entry name).2).get
        session = if session = name then some (replaced session registration (resolved.get session))
      else resolved.get session := by
  unfold insertResolvedSession
  by_cases hname : session = name
  · subst hname
    rw [if_pos rfl]
    cases hget : resolved.get session with
    | none => exact get_insert_self _ _ _
    | some existing =>
      dsimp only [replaced]
      cases (registration.entry session).1.outranks existing.1 with
      | false => exact hget
      | true => exact get_insert_self _ _ _
  · rw [if_neg hname]
    split
    · split_ifs
      · rfl
      · exact get_insert_ne _ _ hname
    · exact get_insert_ne _ _ hname

def RegisteredTmuxSession.names (registration : RegisteredTmuxSession) (available : List String) :
    List String :=
  let matched := available.filter fun session => Router.globMatch registration.session session
  if matched.isEmpty then
    if isSessionPattern registration.session then [] else [registration.session]
  else matched

theorem mem_names : session ∈ registration.names available ↔ registration.isFor available session = true := by
  unfold names isFor
  cases hpattern : isSessionPattern registration.session with
  | true =>
    dsimp only
    split_ifs with hnone
    all_goals simp_all
  | false =>
    -- An exact name is for the session of that name, whether it is live or not.
    have hname : (available.contains session && Router.globMatch registration.session session ||
        !false && registration.session == session) = true ↔ registration.session = session := by
      simp only [Bool.or_eq_true, Bool.and_eq_true, globMatch_of_exact hpattern, beq_iff_eq]
      simp
    rw [hname]
    simp only [Bool.false_eq_true, if_false]
    split_ifs with hnone
    · exact mem_singleton.trans eq_comm
    · refine mem_filter.trans ⟨fun h => (globMatch_of_exact hpattern).mp h.2, fun h => ?_⟩
      obtain ⟨live, hlive⟩ := exists_mem_of_ne_nil _ (fun h => hnone (isEmpty_iff.mpr h))
      obtain ⟨hmem, hmatch⟩ := mem_filter.mp hlive
      rw [← h]
      exact ⟨((globMatch_of_exact hpattern).mp hmatch).symm ▸ hmem, (globMatch_of_exact hpattern).mpr rfl⟩

theorem resolveRegistration_eq : resolveRegistration available resolved registration =
      (registration.names available).foldl (fun resolved name =>
        insertResolvedSession resolved name (registration.entry name).1 (registration.entry name).2) resolved := by
  unfold resolveRegistration names
  dsimp only
  split_ifs
  all_goals rfl

/-- The entry of a session is replaced by a registration that is for it, and by no other. -/
theorem get_resolveRegistration : (resolveRegistration available resolved registration).get session =
      if registration.isFor available session then some (replaced session registration (resolved.get session))
      else resolved.get session := by
  rw [resolveRegistration_eq]
  simp only [← mem_names]
  induction registration.names available generalizing resolved with
  | nil => rfl
  | cons name names ih =>
    rw [foldl_cons, ih, get_insertResolvedSession]
    by_cases hname : session = name
    · rw [if_pos hname, if_pos (mem_cons.mpr (.inl hname)), replaced_again, ite_self]
    · rw [if_neg hname]
      simp only [mem_cons, hname, false_or]

end

/-! ## All registrations -/

section

variable (configured : List RegisteredTmuxSession) (available : List String) (session : String)

/-- The running replacement picks the first of the best. -/
theorem get_resolveMonitoredSessions : (resolveMonitoredSessions configured available).get session =
    (winner configured available session).map fun monitor => { monitor with session := session } := by
  have hentries : (configured.foldl (resolveRegistration available) []).get session =
      (winner configured available session).map (entry session) := by
    unfold winner
    induction configured using reverseRecOn with
    | nil => rfl
    | append_singleton configured registration ih =>
      rw [foldl_append, foldl_cons, foldl_nil, get_resolveRegistration, ih, filter_append]
      cases hfor : registration.isFor available session with
      | false =>
        rw [show [registration].filter _ = [] by simp [hfor], append_nil]
        rfl
      | true =>
        rw [show [registration].filter _ = [registration] by simp [hfor], argmax_concat, if_pos rfl]
        cases argmax rank _ with
        | none => rfl
        | some best =>
          have hiff := outranks_iff registration best
          show some (if _ then _ else _) =
            Option.map _ (if best.rank < registration.rank then some registration else some best)
          by_cases hlt : best.rank < registration.rank
          · rw [if_pos hlt]
            exact congrArg some (if_pos (hiff.mpr hlt))
          · rw [if_neg hlt]
            exact congrArg some (if_neg fun h => hlt (hiff.mp h))
  unfold resolveMonitoredSessions
  rw [get_map_values, hentries, Option.map_map]
  rfl

/-- Every session gets the first of the most specific monitors for it. -/
theorem resolves : Resolves configured available session := by
  refine ⟨?_, get_resolveMonitoredSessions configured available session, fun sessions hperm => ?_,
    fun monitor hmonitor hexact hname best hbest => ?_⟩
  · rw [get_resolveMonitoredSessions, Option.isSome_map, Option.isSome_iff_ne_none]
    unfold winner
    rw [Ne, argmax_eq_none, filter_eq_nil_iff]
    push Not
    rfl
  · have hfor (monitor : RegisteredTmuxSession) :
        monitor.isFor sessions session = monitor.isFor available session := by
      unfold RegisteredTmuxSession.isFor
      rw [hperm.contains_eq]
    rw [get_resolveMonitoredSessions, get_resolveMonitoredSessions]
    unfold winner
    simp only [hfor]
  · have hfor : monitor.isFor available session = true := by
      simp [RegisteredTmuxSession.isFor, hname, hname ▸ hexact]
    have hle := le_of_mem_argmax (mem_filter.mpr ⟨hmonitor, hfor⟩) hbest
    by_contra hpattern
    refine absurd hle (not_le_of_gt ((outranks_iff monitor best).mp ?_))
    unfold outranks forPattern
    simp [hexact, hpattern]

end

end Clawhip.Tmux
