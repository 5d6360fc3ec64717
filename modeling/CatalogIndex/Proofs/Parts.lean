import CatalogIndex.Proofs.Course
/-!
The histories of the parts of a rebuild, from the requests of clearing and writing up to the whole course. For
each part there is one relation, or one law, that lists everything the part can go through.
-/
namespace CatalogIndex

def asked (request : Request) : Exchange := ⟨.perform request.1, request.2⟩

def told (consulted : Consulted) : Exchange := ⟨.outside (.handler consulted.1), .returned consulted.2⟩

def granted (operation : Operation) : Request := ⟨operation, .ok ()⟩

def refused (operation : Operation) (error : SearchError) : Request := ⟨operation, .error error⟩

def clearing : List Request := [granted (.delete allDocuments), granted .commit]

def writing (documents : List Document) : List Request :=
  if documents.isEmpty then [] else [granted (.add documents), granted .commit]

inductive BrokenClear (error : SearchError) : List Request → Prop where
  | delete : BrokenClear error [refused (.delete allDocuments) error]
  | commit : BrokenClear error [granted (.delete allDocuments), refused .commit error]

/-- The requests of a batch that cannot be written. Whether it can be rolled back does not matter. -/
inductive BrokenWrite (documents : List Document) (error : SearchError) : List Request → Prop where
  | add (reply : Except SearchError Unit) :
      BrokenWrite documents error [refused (.add documents) error, ⟨.rollback, reply⟩]
  | commit (reply : Except SearchError Unit) :
      BrokenWrite documents error
        [granted (.add documents), refused .commit error, ⟨.rollback, reply⟩]

namespace Maintenance

theorem path_request {operation : Operation} {requests : List Request} {result : Except SearchError Unit} :
    Dialogue.Path (request operation) requests result ↔ requests = [⟨operation, result⟩] := by
  constructor
  · intro path
    obtain ⟨reply, rest, rfl, last⟩ := Dialogue.path_ask.1 path
    obtain ⟨rfl, rfl⟩ := Dialogue.path_done.1 last
    rfl
  · rintro rfl
    exact .ask (.done _)

theorem path_andThen {first second : Operation} {requests : List Request}
    {result : Except SearchError Unit} :
    Dialogue.Path (andThen first second) requests result ↔
      (∃ error, requests = [refused first error] ∧ result = .error error) ∨
      requests = [granted first, ⟨second, result⟩] := by
  constructor
  · intro path
    obtain ⟨reply, rest, rfl, last⟩ := Dialogue.path_ask.1 path
    cases reply with
    | ok value =>
      obtain rfl := path_request.1 last
      exact .inr rfl
    | error error =>
      obtain ⟨rfl, rfl⟩ := Dialogue.path_done.1 last
      exact .inl ⟨error, rfl, rfl⟩
  · rintro (⟨error, rfl, rfl⟩ | rfl)
    · exact Dialogue.path_ask.2 ⟨.error error, [], rfl, .done _⟩
    · exact Dialogue.path_ask.2 ⟨.ok (), _, rfl, path_request.2 rfl⟩

theorem path_clear {requests : List Request} {result : Except SearchError Unit}
    (path : Dialogue.Path clear requests result) :
    (requests = clearing ∧ result = .ok ()) ∨
      ∃ error, BrokenClear error requests ∧ result = .error error := by
  rcases path_andThen.1 path with ⟨error, rfl, rfl⟩ | rfl
  · exact .inr ⟨error, .delete, rfl⟩
  · cases result with
    | ok value => exact .inl ⟨rfl, rfl⟩
    | error error => exact .inr ⟨error, .commit, rfl⟩

theorem path_writeBatch {documents : List Document} {requests : List Request}
    {result : Except SearchError Nat} (path : Dialogue.Path (writeBatch documents) requests result) :
    (requests = writing documents ∧ result = .ok documents.length) ∨
      ∃ error, documents ≠ [] ∧ BrokenWrite documents error requests ∧ result = .error error := by
  cases documents with
  | nil => exact .inl (Dialogue.path_done.1 path)
  | cons document rest =>
    obtain ⟨outcome, before, after, first, second, rfl⟩ := Dialogue.path_bind.1 path
    cases outcome with
    | ok value =>
      obtain ⟨rfl, rfl⟩ := Dialogue.path_done.1 second
      rcases path_andThen.1 first with ⟨error, -, impossible⟩ | rfl
      · cases impossible
      · exact .inl ⟨rfl, rfl⟩
    | error error =>
      obtain ⟨reply, last, rfl, done⟩ := Dialogue.path_ask.1 second
      obtain ⟨rfl, rfl⟩ := Dialogue.path_done.1 done
      refine .inr ⟨error, List.cons_ne_nil _ _, ?_, rfl⟩
      rcases path_andThen.1 first with ⟨other, rfl, same⟩ | rfl
      · cases same
        exact .add reply
      · exact .commit reply

end Maintenance

namespace Run

variable {α : Type} {history : History}

theorem goes_maintain {maintenance : Maintenance α} {outcome : Except Stop α}
    (goes : Goes (maintain maintenance) history outcome) :
    ∃ requests value, Dialogue.Path maintenance requests value ∧ history = requests.map asked ∧
      outcome = .ok value := by
  induction maintenance generalizing history with
  | done value =>
    obtain ⟨rfl, rfl⟩ := goes_pure.1 goes
    exact ⟨[], value, .done value, rfl, rfl⟩
  | ask operation next ih =>
    rcases goes_bind.1 goes with ⟨stop, first, rfl⟩ | ⟨reply, before, after, first, second, rfl⟩
    · obtain ⟨reply, -, impossible⟩ := goes_ask.1 first
      cases impossible
    · obtain ⟨reply, rfl, same⟩ := goes_ask.1 first
      cases same
      obtain ⟨requests, value, path, rfl, rfl⟩ := ih _ second
      exact ⟨⟨operation, reply⟩ :: requests, value, .ask path, rfl, rfl⟩

theorem goes_consult {consultation : Consultation α} {outcome : Except Stop α}
    (goes : Goes (consult consultation) history outcome) :
    (∃ replies value, Dialogue.Path consultation replies value ∧ history = replies.map told ∧
      outcome = .ok value) ∨
    ∃ replies question text, Dialogue.Unanswered consultation replies ∧
      history = replies.map told ++ [⟨.outside (.handler question), .panicked text⟩] ∧
      outcome = .error (.panicked text) := by
  induction consultation generalizing history with
  | done value =>
    obtain ⟨rfl, rfl⟩ := goes_pure.1 goes
    exact .inl ⟨[], value, .done value, rfl, rfl⟩
  | ask question next ih =>
    rcases goes_bind.1 goes with ⟨stop, first, rfl⟩ | ⟨reply, before, after, first, second, rfl⟩
    · obtain ⟨answer, rfl, same⟩ := goes_outside.1 first
      cases answer with
      | returned reply => cases same
      | panicked text =>
        cases same
        exact .inr ⟨[], question, text, .here _ _, rfl, rfl⟩
    · obtain ⟨answer, rfl, same⟩ := goes_outside.1 first
      cases answer with
      | panicked text => cases same
      | returned reply =>
        cases same
        rcases ih _ second with ⟨replies, value, path, rfl, rfl⟩ | ⟨replies, other, text, path, rfl, rfl⟩
        · exact .inl ⟨⟨question, reply⟩ :: replies, value, .ask path, rfl, rfl⟩
        · exact .inr ⟨⟨question, reply⟩ :: replies, other, text, .later path, rfl, rfl⟩

theorem goes_consult_ok {consultation : Consultation α} {value : α}
    (goes : Goes (consult consultation) history (.ok value)) :
    ∃ replies, Dialogue.Path consultation replies value ∧ history = replies.map told := by
  rcases goes_consult goes with ⟨replies, other, path, rfl, same⟩ | ⟨replies, question, text, path, rfl, same⟩
  · cases same
    exact ⟨replies, path, rfl⟩
  · cases same

theorem goes_consult_error {consultation : Consultation α} {stop : Stop}
    (goes : Goes (consult consultation) history (.error stop)) :
    ∃ replies question text, Dialogue.Unanswered consultation replies ∧ stop = .panicked text ∧
      history = replies.map told ++ [⟨.outside (.handler question), .panicked text⟩] := by
  rcases goes_consult goes with ⟨replies, other, path, rfl, same⟩ | ⟨replies, question, text, path, rfl, same⟩
  · cases same
  · cases same
    exact ⟨replies, question, text, path, rfl, rfl⟩

theorem goes_clear {outcome : Except Stop Unit} (goes : Goes clear history outcome) :
    (history = clearing.map asked ∧ outcome = .ok ()) ∨
      ∃ error requests, BrokenClear error requests ∧ history = requests.map asked ∧
        outcome = .error (.failed (.deleteFailed error)) := by
  rcases goes_bind.1 goes with ⟨stop, first, rfl⟩ | ⟨reply, before, after, first, second, rfl⟩
  · obtain ⟨requests, value, -, -, impossible⟩ := goes_maintain first
    cases impossible
  · obtain ⟨requests, value, path, rfl, same⟩ := goes_maintain first
    cases same
    obtain ⟨rfl, rfl⟩ := goes_expect.1 second
    rw [List.append_nil]
    rcases Maintenance.path_clear path with ⟨rfl, rfl⟩ | ⟨error, broken, rfl⟩
    · exact .inl ⟨rfl, rfl⟩
    · exact .inr ⟨error, requests, broken, rfl, rfl⟩

/-- A reply that brings no value, and how it ends the course. -/
inductive Lost {ε : Type} (wrap : ε → RebuildError) : Answer (Except ε α) → Stop → Prop where
  | failed (error : ε) : Lost wrap (.returned (.error error)) (.failed (wrap error))
  | panicked (text : String) : Lost wrap (.panicked text) (.panicked text)

def pageQuestion (plan : Plan) (asOf : Instant) (page : Nat) : Outside :=
  .page (UInt64.ofNat page) plan.config.pageSize asOf

def itemsRead (plan : Plan) (asOf : Instant) (page : Nat) (items : List Item) : Exchange :=
  ⟨.outside (pageQuestion plan asOf page), .returned (.ok items)⟩

def descriptorsRead (descriptors : List Descriptor) : Exchange :=
  ⟨.outside .descriptors, .returned (.ok descriptors)⟩

/-- How the locales come to be known: they are read unless they are known already. -/
inductive Located : Option (List Locale) → History → List Locale → Prop where
  | known (locales : List Locale) : Located (some locales) [] locales
  | read (locales : List Locale) : Located none [⟨.outside .locales, .returned (.ok locales)⟩] locales

inductive Builds (plan : Plan) (asOf : Instant) (request : RequestContext) (page : Nat) :
    Option (List Locale) → History → Except Stop (List Document × List Locale) → Prop where
  | unread {known : Option (List Locale)} {answer : Answer (Except CatalogError (List Item))} {stop : Stop}
      (lost : Lost .catalog answer stop) :
      Builds plan asOf request page known [⟨.outside (pageQuestion plan asOf page), answer⟩] (.error stop)
  | undescribed {known : Option (List Locale)} {items : List Item}
      {answer : Answer (Except CatalogError (List Descriptor))} {stop : Stop}
      (lost : Lost .catalog answer stop) :
      Builds plan asOf request page known
        [itemsRead plan asOf page items, ⟨.outside .descriptors, answer⟩] (.error stop)
  | unlocated {items : List Item} {descriptors : List Descriptor}
      {answer : Answer (Except CatalogError (List Locale))} {stop : Stop} (lost : Lost .catalog answer stop) :
      Builds plan asOf request page none
        [itemsRead plan asOf page items, descriptorsRead descriptors, ⟨.outside .locales, answer⟩] (.error stop)
  | unheard {known : Option (List Locale)} {items : List Item} {descriptors : List Descriptor}
      {locating : History} {locales : List Locale} {replies : List Consulted} {question : HandlerQuestion}
      {text : String} (located : Located known locating locales)
      (unanswered : (plan.builder.buildAll items descriptors locales request).Unanswered replies) :
      Builds plan asOf request page known
        (itemsRead plan asOf page items :: descriptorsRead descriptors :: (locating ++
          (replies.map told ++ [⟨.outside (.handler question), .panicked text⟩]))) (.error (.panicked text))
  | unbuilt {known : Option (List Locale)} {items : List Item} {descriptors : List Descriptor}
      {locating : History} {locales : List Locale} {replies : List Consulted} {error : ExtensionError}
      (located : Located known locating locales)
      (answered : (plan.builder.buildAll items descriptors locales request).Path replies (.error error)) :
      Builds plan asOf request page known
        (itemsRead plan asOf page items :: descriptorsRead descriptors :: (locating ++ replies.map told))
        (.error (.failed (.extension error)))
  | built {known : Option (List Locale)} {items : List Item} {descriptors : List Descriptor}
      {locating : History} {locales : List Locale} {replies : List Consulted} {documents : List Document}
      (located : Located known locating locales)
      (answered : (plan.builder.buildAll items descriptors locales request).Path replies (.ok documents)) :
      Builds plan asOf request page known
        (itemsRead plan asOf page items :: descriptorsRead descriptors :: (locating ++ replies.map told))
        (.ok (documents, locales))

theorem goes_localesOnce_ok {known : Option (List Locale)} {locales : List Locale}
    (goes : Goes (localesOnce known) history (.ok locales)) : Located known history locales := by
  cases known with
  | some known =>
    obtain ⟨rfl, same⟩ := goes_pure.1 goes
    cases same
    exact .known locales
  | none =>
    rcases goes_bind.1 goes with ⟨stop, first, same⟩ | ⟨reply, before, after, first, second, rfl⟩
    · cases same
    · obtain rfl := goes_outside_ok.1 first
      obtain ⟨rfl, same⟩ := goes_expect.1 second
      cases reply <;> cases same
      exact .read _

theorem goes_localesOnce_error {known : Option (List Locale)} {stop : Stop}
    (goes : Goes (localesOnce known) history (.error stop)) :
    known = none ∧ ∃ answer, Lost .catalog answer stop ∧ history = [⟨.outside .locales, answer⟩] := by
  cases known with
  | some known =>
    obtain ⟨rfl, same⟩ := goes_pure.1 goes
    cases same
  | none =>
    refine ⟨rfl, ?_⟩
    rcases goes_bind.1 goes with ⟨stop, first, same⟩ | ⟨reply, before, after, first, second, rfl⟩
    · cases same
      obtain ⟨text, rfl, rfl⟩ := goes_outside_error.1 first
      exact ⟨.panicked text, .panicked text, rfl⟩
    · obtain rfl := goes_outside_ok.1 first
      obtain ⟨rfl, same⟩ := goes_expect.1 second
      cases reply <;> cases same
      exact ⟨_, .failed _, rfl⟩

theorem goes_buildPage {plan : Plan} {asOf : Instant} {request : RequestContext} {page : Nat}
    {known : Option (List Locale)} {outcome : Except Stop (List Document × List Locale)}
    (goes : Goes (buildPage plan asOf request page known) history outcome) :
    Builds plan asOf request page known history outcome := by
  -- Items, descriptors, locales and documents in this order, each of which may be the last one.
  rcases goes_expected goes with
    ⟨stop, first, rfl⟩ | ⟨error, first, rfl⟩ | ⟨items, before, reading, first, describing, rfl⟩
  · obtain ⟨text, rfl, rfl⟩ := goes_outside_error.1 first
    exact .unread (.panicked text)
  · obtain rfl := goes_outside_ok.1 first
    exact .unread (.failed error)
  obtain rfl := goes_outside_ok.1 first
  rcases goes_expected describing with
    ⟨stop, second, rfl⟩ | ⟨error, second, rfl⟩ | ⟨descriptors, before, reading, second, locating, rfl⟩
  · obtain ⟨text, rfl, rfl⟩ := goes_outside_error.1 second
    exact .undescribed (.panicked text)
  · obtain rfl := goes_outside_ok.1 second
    exact .undescribed (.failed error)
  obtain rfl := goes_outside_ok.1 second
  rcases goes_bind.1 locating with ⟨stop, third, rfl⟩ | ⟨locales, reading, handling, third, building, rfl⟩
  · obtain ⟨rfl, answer, lost, rfl⟩ := goes_localesOnce_error third
    exact .unlocated lost
  have located := goes_localesOnce_ok third
  rcases goes_expected building with
    ⟨stop, fourth, rfl⟩ | ⟨error, fourth, rfl⟩ | ⟨documents, handling, last, fourth, done, rfl⟩
  · obtain ⟨replies, question, text, unanswered, rfl, rfl⟩ := goes_consult_error fourth
    exact .unheard located unanswered
  · obtain ⟨replies, answered, rfl⟩ := goes_consult_ok fourth
    exact .unbuilt located answered
  · obtain ⟨replies, answered, rfl⟩ := goes_consult_ok fourth
    obtain ⟨rfl, rfl⟩ := goes_pure.1 done
    rw [List.append_nil]
    exact .built located answered

end Run
end CatalogIndex
