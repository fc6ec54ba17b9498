import Clawhip.Gjc.Notices

/-!
# What one snapshot tells a bridge

`recalledTrack` is the track of a bridge that has seen one snapshot and `shownNotices` what it has
announced. The endpoint's health is the one field of a track that may differ without any difference
in what is announced later: an endpoint that was well counts like one that was not seen.
-/

namespace Clawhip.Gjc

open List Option

open SessionTrack

/-! ## What a fresh bridge learns -/

section Fresh

variable {x : Libraries} {context : SnapshotContext}

variable {track : SessionTrack}

end Fresh

/-! ## What a bridge cannot tell apart -/

section Indifferent

variable {x : Libraries} {context : SnapshotContext}

/-- A track that does not say whether the endpoint was well or not seen at all. -/
def forgetOk (track : SessionTrack) : SessionTrack :=
  { track with endpoint_health := track.endpoint_health.filter fun health => decide (health ≠ .ok) }

/-- A section that neither reads nor writes the endpoint's health. -/
def Indifferent (reading : Reading) : Prop :=
  ∀ (track : SessionTrack) (health : Option EndpointHealth), reading { track with endpoint_health := health } =
      ({ (reading track).1 with endpoint_health := health }, (reading track).2)

variable {first second : Reading}

theorem Indifferent.andThen (h : Indifferent first) (h' : Indifferent second) : Indifferent (first.andThen second) := by
  intro track health
  unfold Reading.andThen
  dsimp only
  rw [h track health, h' (first track).1 health]

/-- A section that does not tell an endpoint that was well from one that was not seen. -/
def Blind (reading : Reading) : Prop :=
  ∀ track track', forgetOk track = forgetOk track' →
    forgetOk (reading track).1 = forgetOk (reading track').1 ∧ (reading track).2 = (reading track').2

theorem Blind.andThen (h : Blind first) (h' : Blind second) : Blind (first.andThen second) := by
  intro track track' hsame
  obtain ⟨hfirst, hevents⟩ := h track track' hsame
  obtain ⟨hsecond, hevents'⟩ := h' _ _ hfirst
  exact ⟨hsecond, congrArg₂ (· ++ ·) hevents hevents'⟩

end Indifferent

end Clawhip.Gjc
