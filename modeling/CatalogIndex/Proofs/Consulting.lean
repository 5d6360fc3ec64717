import CatalogIndex.Index.Builder
import CatalogIndex.Proofs.Course
/-!
What handlers are asked while documents are built. Every resolution is asked for on behalf of one request. A
handler that fails on basic fields ends the matter at once, and no other failure does.
-/
namespace CatalogIndex

def failure? {ε α : Type} : Except ε α → Option ε
  | .error error => some error
  | .ok _ => none

/-- A consultation on behalf of a request. Its answers tell which handler of basic fields has failed, and it goes
on until one has. -/
inductive Consults {α : Type} (request : RequestContext) (failure : α → Option ExtensionError) :
    Consultation α → Prop where
  | done {answer : α} (sound : failure answer = none) : Consults request failure (.done answer)
  | attach {key : Nat} {item : Item} {document : Document}
      {next : HandlerQuestion.Reply (.attach key item document) → Consultation α}
      (ends : ∀ additions error, ∃ answer, next (Attachment.mk additions (.error error)) = .done answer ∧
        failure answer = some error)
      (goesOn : ∀ additions taken, Consults request failure (next (Attachment.mk additions (.ok taken)))) :
      Consults request failure (.ask (.attach key item document) next)
  | resolve {key : Nat} {resolution : Resolution}
      {next : HandlerQuestion.Reply (.resolve key resolution) → Consultation α}
      (behalf : resolution.request = request) (goesOn : ∀ reply, Consults request failure (next reply)) :
      Consults request failure (.ask (.resolve key resolution) next)

/-- Replies of handlers on behalf of a request, and the failure on basic fields among them; nothing is heard after
one. -/
inductive Heard (request : RequestContext) : List Consulted → Option ExtensionError → Prop where
  | nil : Heard request [] none
  | failed {key : Nat} {item : Item} {document : Document} (additions : List (String × List Value))
      (error : ExtensionError) :
      Heard request [⟨.attach key item document, Attachment.mk additions (.error error)⟩] (some error)
  | attached {key : Nat} {item : Item} {document : Document} {rest : List Consulted} {failure : Option ExtensionError}
      (additions : List (String × List Value)) (taken : Bool) (heard : Heard request rest failure) :
      Heard request (⟨.attach key item document, Attachment.mk additions (.ok taken)⟩ :: rest) failure
  | resolved {key : Nat} {resolution : Resolution} {rest : List Consulted} {failure : Option ExtensionError}
      (reply : HandlerQuestion.Reply (.resolve key resolution)) (behalf : resolution.request = request)
      (heard : Heard request rest failure) : Heard request (⟨.resolve key resolution, reply⟩ :: rest) failure

namespace Consults

variable {α β : Type} {request : RequestContext} {failure : α → Option ExtensionError}
  {later : β → Option ExtensionError} {consultation : Consultation α} {next : α → Consultation β}

theorem bind (consults : Consults request failure consultation)
    (sound : ∀ answer, failure answer = none → Consults request later (next answer))
    (failed : ∀ answer error, failure answer = some error →
      ∃ result, next answer = .done result ∧ later result = some error) :
    Consults request later (consultation.bind next) := by
  induction consults with
  | done same => exact sound _ same
  | @attach key item document rest ends goesOn ih =>
    refine .attach (fun additions error => ?_) ih
    obtain ⟨answer, same, told⟩ := ends additions error
    obtain ⟨result, last, kept⟩ := failed answer error told
    refine ⟨result, ?_, kept⟩
    show (rest _).bind next = _
    rw [same]
    exact last
  | resolve behalf goesOn ih => exact .resolve behalf ih

theorem bind_sound (consults : Consults request (fun _ : α => none) consultation)
    (sound : ∀ answer, Consults request later (next answer)) :
    Consults request later (consultation.bind next) := by
  apply consults.bind
  · intro answer _
    exact sound answer
  · intro answer error impossible
    cases impossible

theorem heard_of_path {replies : List Consulted} {answer : α} (consults : Consults request failure consultation)
    (path : consultation.Path replies answer) : Heard request replies (failure answer) := by
  induction consults generalizing replies with
  | done sound =>
    obtain ⟨rfl, rfl⟩ := Dialogue.path_done.1 path
    rw [sound]
    exact .nil
  | @attach key item document next ends goesOn ih =>
    obtain ⟨⟨additions, outcome⟩, rest, rfl, onward⟩ := Dialogue.path_ask.1 path
    cases outcome with
    | error error =>
      obtain ⟨result, last, failed⟩ := ends additions error
      rw [last] at onward
      obtain ⟨rfl, rfl⟩ := Dialogue.path_done.1 onward
      rw [failed]
      exact .failed additions error
    | ok taken => exact .attached additions taken (ih additions taken onward)
  | resolve behalf goesOn ih =>
    obtain ⟨reply, rest, rfl, onward⟩ := Dialogue.path_ask.1 path
    exact .resolved reply behalf (ih reply onward)

theorem heard_of_unanswered {replies : List Consulted} (consults : Consults request failure consultation)
    (unanswered : consultation.Unanswered replies) : Heard request replies none := by
  induction unanswered with
  | here question next => exact .nil
  | @later question next reply rest unanswered ih =>
    cases consults with
    | attach ends goesOn =>
      obtain ⟨additions, outcome⟩ := reply
      cases outcome with
      | error error =>
        -- This reply would have answered the consultation.
        obtain ⟨result, last, -⟩ := ends additions error
        rw [last] at unanswered
        cases unanswered
      | ok taken => exact .attached additions taken (ih (goesOn additions taken))
    | resolve behalf goesOn => exact .resolved reply behalf (ih (goesOn reply))

end Consults

namespace Chain

theorem consults_resolve (chain : Chain) (resolution : Resolution) :
    Consults resolution.request (fun _ => none) (chain.resolve resolution) := by
  induction chain with
  | nil => exact .done rfl
  | cons handler rest ih =>
    cases handler with
    | translation =>
      unfold resolve
      split
      · exact .done rfl
      · exact ih
    | outside name key =>
      refine .resolve rfl fun (reply : Except ExtensionError (Option PropertyValues)) => ?_
      match reply with
      | .ok none => exact ih
      | .ok (some values) => exact .done rfl
      | .error error => exact .done rfl

theorem consults_attach (chain : Chain) (item : Item) (document : Document) (request : RequestContext) :
    Consults request (fun result => failure? result.2) (chain.attach item document) := by
  induction chain generalizing document with
  | nil => exact .done rfl
  | cons handler rest ih =>
    cases handler with
    | translation => exact ih document
    | outside name key =>
      apply Consults.attach
      · intro additions error
        exact ⟨_, rfl, rfl⟩
      · intro additions taken
        cases taken with
        | false => exact ih _
        | true => exact .done rfl

end Chain

namespace Builder

variable {builder : Builder} {request : RequestContext}

theorem consults_resolve (builder : Builder) (resolution : Resolution) :
    Consults resolution.request (fun _ => none) (builder.resolve resolution) := by
  refine (builder.chain.consults_resolve resolution).bind_sound fun reply => ?_
  split <;> exact .done rfl

theorem consults_attachDescriptors {item : Item} {locales : List Locale} {descriptors : List Descriptor}
    {draft : Draft} :
    Consults request (fun _ => none) (attachDescriptors builder item locales request descriptors draft) := by
  have binds : Binds fun {α : Type} (consultation : Consultation α) => Consults request (fun _ => none) consultation :=
    ⟨fun _ => .done rfl, Consults.bind_sound⟩
  exact binds_attachDescriptors binds
    (fun descriptor fieldType => builder.consults_resolve ⟨item, descriptor, fieldType, locales, request⟩) _ draft

/-- A document fails to be built exactly if a handler of basic fields has failed. -/
theorem consults_build (builder : Builder) (item : Item) (descriptors : List Descriptor) (locales : List Locale)
    (request : RequestContext) : Consults request failure? (builder.build item descriptors locales request) := by
  apply (builder.chain.consults_attach item (builder.identity item) request).bind
  · rintro ⟨document, outcome⟩ sound
    cases outcome with
    | error error => cases sound
    | ok taken => exact consults_attachDescriptors.bind_sound fun draft => .done rfl
  · rintro ⟨document, outcome⟩ error failed
    cases outcome with
    | error other =>
      cases failed
      exact ⟨.error error, rfl, rfl⟩
    | ok taken => cases failed

theorem consults_buildAll (builder : Builder) (items : List Item) (descriptors : List Descriptor)
    (locales : List Locale) (request : RequestContext) :
    Consults request failure? (builder.buildAll items descriptors locales request) := by
  induction items with
  | nil => exact .done rfl
  | cons item rest ih =>
    apply (builder.consults_build item descriptors locales request).bind
    · intro reply sound
      cases reply with
      | error error => cases sound
      | ok document =>
        apply ih.bind
        · intro others sound
          cases others with
          | error error => cases sound
          | ok documents => exact .done rfl
        · intro others error failed
          cases others with
          | error other =>
            cases failed
            exact ⟨.error error, rfl, rfl⟩
          | ok documents => cases failed
    · intro reply error failed
      cases reply with
      | error other =>
        cases failed
        exact ⟨.error error, rfl, rfl⟩
      | ok document => cases failed

end Builder
end CatalogIndex
