import Mathlib.Data.List.Forall2
import RepoWatch.Proofs.Feed.Logs
/-!
# The images of events

What the feed is to publish for an event, said without the feed: data that can be decoded gives one
value of the operation, data that cannot gives one failure to parse, a failure gives itself, and
progress gives nothing. What the feed does publish is exactly that.
-/

namespace RepoWatch

open Payload

/-- What is to be published for the data of a response. -/
inductive Operation.Image : Operation → Json → Publication → Prop where
  | repositories {data : Json} {repositories : Repositories}
      (h : Repositories.decode data = .ok repositories) :
      Image .repositories data (.repositories repositories.summaries)
  | detail {data : Json} {detail : Detail} (h : Detail.decode data = .ok detail) :
      Image .detail data (.detail detail)
  | commits {data : Json} {commits : Commits} (h : Commits.decode data = .ok commits) :
      Image .commits data (.commits commits.edges)
  | undecodable {operation : Operation} {data : Json} {e : DecodeFault}
      (h : operation.decode data = .error e) :
      Image operation data (.failure ⟨operation.name, .parse e.message⟩)

/-- What is to be published for an event. -/
inductive Event.Image (operation : Operation) : Event → List Publication → Prop where
  | response {data : Json} {fromCache : Bool} {publication : Publication}
      (h : operation.Image data publication) :
      Image operation (.response data fromCache) [publication]
  | failure (fault : QueryFault) :
      Image operation (.failure fault) [.failure ⟨operation.name, fault⟩]
  | progress (stage : Progress) : Image operation (.progress stage) []

section Images

variable {operation : Operation} {data : Json} {publication : Publication}

theorem Operation.image (operation : Operation) (data : Json) :
    operation.Image data (operation.publicationOf data) := by
  cases hdecode : operation.decode data with
  | error e =>
      rw [publicationOf, hdecode]
      exact .undecodable hdecode
  | ok value =>
      rw [publicationOf, hdecode]
      cases operation with
      | repositories =>
          cases h : Repositories.decode data with
          | error e => simp [decode, h] at hdecode
          | ok repositories =>
              obtain rfl : _ = value := by simpa [decode, h] using hdecode
              exact .repositories h
      | detail =>
          cases h : Detail.decode data with
          | error e => simp [decode, h] at hdecode
          | ok detail =>
              obtain rfl : _ = value := by simpa [decode, h] using hdecode
              exact .detail h
      | commits =>
          cases h : Commits.decode data with
          | error e => simp [decode, h] at hdecode
          | ok commits =>
              obtain rfl : _ = value := by simpa [decode, h] using hdecode
              exact .commits h

/-- Data has one image. -/
theorem Operation.image_iff :
    operation.Image data publication ↔ operation.publicationOf data = publication := by
  constructor
  · intro h
    cases h with
    | repositories h | detail h | commits h => simp [publicationOf, decode, h]
    | undecodable h =>
        rw [publicationOf, h]
        rfl
  · rintro rfl
    exact operation.image data

/-- The image of data is a value of the operation, or a failure that bears its name. -/
theorem Operation.Image.outlet (h : operation.Image data publication) :
    publication.outlet = operation.outlet ∨
      ∃ fault, publication = .failure ⟨operation.name, fault⟩ := by
  cases h with
  | repositories | detail | commits => exact .inl rfl
  | undecodable => exact .inr ⟨_, rfl⟩

theorem Event.image (operation : Operation) (event : Event) :
    event.Image operation (event.publication operation).toList := by
  cases event with
  | response data fromCache => exact .response (operation.image data)
  | failure fault => exact .failure fault
  | progress stage => exact .progress stage

end Images
end RepoWatch
