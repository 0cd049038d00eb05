import Thesaurus.Proofs.Json.RoundTrip
import Thesaurus.Service.Basic

/-!
# What a framework is relied upon for

Of the text of an answer it is only asked that it reads back. Main facts: `writes_standard`,
`content_standard_ne_failure` and `route_of_mem_registrations`, by which the framework that the
service runs on does what is asked of a framework.
-/

set_option autoImplicit false

namespace Thesaurus.Service

/-- What is written is JSON for the value, with the members of each object in the order of their
names. -/
structure Framework.Writes (web : Framework) : Prop where
  read_text : ∀ (limits : Json.Limits) (room : Nat) (j : Json),
    Json.Fits limits.digits room j.sortMembers → room ≤ limits.depth →
    Json.readWithin limits (web.text j) = .ok j.sortMembers

theorem writes_standard : Framework.standard.Writes where
  read_text _ _ _ hfits hroom := Json.read_write_newline Json.proper_compact hroom hfits

/-- A body that is not nested too deeply is read, or counts for none. -/
theorem content_standard_ne_failure {contentType : Option Text} {body : Bytes}
    (h : Json.readBytes Framework.limits body ≠ .error .tooDeep) :
    Framework.standard.content contentType body ≠ .failure := by
  dsimp only [Framework.standard]
  split_ifs
  · split
    · exact nofun
    · exact nofun
    · next hdeep => exact absurd hdeep h
  · exact nofun

/-- Every registered path leads to its endpoint. -/
theorem route_of_mem_registrations :
    ∀ g ∈ registrations, Framework.standard.dispatch registrations g.method g.path =
      .serve g.endpoint := by
  decide +kernel

end Thesaurus.Service
