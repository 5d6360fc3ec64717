import CatalogIndex.Proofs.Stages
/-!
What a history tells about the pages of a rebuild. Its journal keeps everything that the documents of each page
are built from, the replies of the handlers included, so the documents are had by building them once more.
-/
namespace CatalogIndex

namespace Consultation

variable {α : Type}

/-- What a consultation comes to by recorded replies, if these are all that it asks for. -/
def replay : Consultation α → List Consulted → Option α
  | .done value, [] => some value
  | .ask (.attach ..) next, ⟨.attach .., reply⟩ :: rest => replay (next reply) rest
  | .ask (.resolve ..) next, ⟨.resolve .., reply⟩ :: rest => replay (next reply) rest
  | _, _ => none

theorem replay_of_path {consultation : Consultation α} {replies : List Consulted} {value : α}
    (path : consultation.Path replies value) : replay consultation replies = some value := by
  induction path with
  | done value => rfl
  | @ask question next reply rest value path ih => cases question <;> exact ih

theorem replay_of_unanswered {consultation : Consultation α} {replies : List Consulted}
    (unanswered : consultation.Unanswered replies) : replay consultation replies = none := by
  induction unanswered with
  | here question next => cases question <;> rfl
  | @later question next reply rest unanswered ih => cases question <;> exact ih

theorem path_of_replay {consultation : Consultation α} {replies : List Consulted} {value : α}
    (same : replay consultation replies = some value) : ∃ exchanges, consultation.Path exchanges value := by
  induction consultation generalizing replies with
  | done answer =>
    cases replies with
    | nil =>
      cases same
      exact ⟨[], .done value⟩
    | cons reply rest => cases same
  | ask question next ih =>
    cases replies with
    | nil => cases question <;> cases same
    | cons reply rest =>
      obtain ⟨asked, reply⟩ := reply
      cases question <;> cases asked <;> first | cases same | skip
      all_goals
        obtain ⟨exchanges, path⟩ := ih reply same
        exact ⟨_, .ask path⟩

end Consultation

theorem Builder.length_of_path_buildAll {builder : Builder} {items : List Item} {descriptors : List Descriptor}
    {locales : List Locale} {request : RequestContext} {replies : List Consulted} {documents : List Document}
    (path : (builder.buildAll items descriptors locales request).Path replies (.ok documents)) :
    documents.length = items.length := by
  induction items generalizing replies documents with
  | nil =>
    obtain ⟨-, same⟩ := Dialogue.path_done.1 path
    cases same
    rfl
  | cons item rest ih =>
    obtain ⟨first, before, after, -, second, rfl⟩ := Dialogue.path_bind.1 path
    cases first with
    | error error =>
      obtain ⟨-, same⟩ := Dialogue.path_done.1 second
      cases same
    | ok document =>
      obtain ⟨others, middle, last, third, done, rfl⟩ := Dialogue.path_bind.1 second
      obtain ⟨rfl, same⟩ := Dialogue.path_done.1 done
      cases others with
      | error error => cases same
      | ok others =>
        cases same
        rw [List.length_cons, List.length_cons, ih third]

/-- A page that has been read, with what its documents are built from so far as it is known. -/
structure PageRecord where
  request : RequestContext
  items : List Item
  descriptors : Option (List Descriptor)
  locales : Option (List Locale)
  replies : List Consulted

structure BuiltPage where
  items : List Item
  documents : List Document

def PageRecord.built? (plan : Plan) (record : PageRecord) : Option BuiltPage := do
  let descriptors ← record.descriptors
  let locales ← record.locales
  match ← (plan.builder.buildAll record.items descriptors locales record.request).replay record.replies with
  | .ok documents => return ⟨record.items, documents⟩
  | .error _ => none

structure Journal where
  request : RequestContext
  locales : Option (List Locale)
  /-- The pages that have been read, the last one first. -/
  pages : List PageRecord

namespace Journal

def empty : Journal := ⟨.empty, none, []⟩

def extend (journal : Journal) (change : PageRecord → PageRecord) : Journal :=
  { journal with pages := journal.pages.modifyHead change }

def note (journal : Journal) : Exchange → Journal
  | ⟨.capture, request⟩ => { journal with request := request }
  | ⟨.outside (.page ..), .returned (.ok items)⟩ =>
    { journal with pages := ⟨journal.request, items, none, journal.locales, []⟩ :: journal.pages }
  | ⟨.outside .descriptors, .returned (.ok descriptors)⟩ =>
    journal.extend fun record => { record with descriptors := some descriptors }
  | ⟨.outside .locales, .returned (.ok locales)⟩ =>
    extend { journal with locales := some locales } fun record => { record with locales := some locales }
  | ⟨.outside (.handler question), .returned reply⟩ =>
    journal.extend fun record => { record with replies := record.replies ++ [⟨question, reply⟩] }
  | _ => journal

def notes (journal : Journal) (history : History) : Journal := history.foldl note journal

def built (plan : Plan) (journal : Journal) : List BuiltPage := journal.pages.reverse.filterMap (·.built? plan)

@[simp] theorem notes_nil (journal : Journal) : journal.notes [] = journal := rfl

@[simp] theorem notes_cons (journal : Journal) (exchange : Exchange) (history : History) :
    journal.notes (exchange :: history) = (journal.note exchange).notes history := rfl

@[simp] theorem notes_append (journal : Journal) (before after : History) :
    journal.notes (before ++ after) = (journal.notes before).notes after := List.foldl_append

@[simp] theorem note_asked (journal : Journal) (request : Request) : journal.note (asked request) = journal := rfl

@[simp] theorem notes_asked (journal : Journal) (requests : List Request) :
    journal.notes (requests.map asked) = journal := by
  induction requests with
  | nil => rfl
  | cons request rest ih => exact ih

@[simp] theorem notes_told (journal : Journal) (replies : List Consulted) :
    journal.notes (replies.map told) =
      journal.extend fun record => { record with replies := record.replies ++ replies } := by
  induction replies generalizing journal with
  | nil =>
    obtain ⟨request, locales, pages⟩ := journal
    cases pages <;> simp [extend]
  | cons reply rest ih =>
    rw [List.map_cons, notes_cons, ih]
    simp only [note, told, extend, List.modifyHead_modifyHead]
    congr 1
    congr 1
    funext record
    simp

theorem notes_page {plan : Plan} {asOf : Instant} {page : Nat} {journal : Journal} {items : List Item}
    {descriptors : List Descriptor} {locating : History} {locales : List Locale} {replies : List Consulted}
    (located : Run.Located journal.locales locating locales) :
    journal.notes (Run.itemsRead plan asOf page items :: Run.descriptorsRead descriptors ::
        (locating ++ replies.map told)) =
      ⟨journal.request, some locales,
        ⟨journal.request, items, some descriptors, some locales, replies⟩ :: journal.pages⟩ := by
  obtain ⟨request, known, pages⟩ := journal
  cases located with
  | known locales => simp [Run.itemsRead, Run.descriptorsRead, Run.pageQuestion, note, extend]
  | read locales => simp [Run.itemsRead, Run.descriptorsRead, Run.pageQuestion, note, extend]

theorem built_cons {plan : Plan} {request : RequestContext} {locales : Option (List Locale)}
    {record : PageRecord} {pages : List PageRecord} :
    built plan ⟨request, locales, record :: pages⟩ =
      built plan ⟨request, locales, pages⟩ ++ (record.built? plan).toList := by
  simp only [built, List.reverse_cons, List.filterMap_append]
  cases h : record.built? plan <;> simp [h]

theorem path_of_mem_built {plan : Plan} {journal : Journal} {page : BuiltPage}
    (member : page ∈ journal.built plan) :
    ∃ descriptors locales request replies,
      (plan.builder.buildAll page.items descriptors locales request).Path replies (.ok page.documents) := by
  obtain ⟨record, -, made⟩ := List.mem_filterMap.1 member
  simp only [PageRecord.built?, Option.bind_eq_bind, Option.bind_eq_some_iff] at made
  obtain ⟨descriptors, -, locales, -, result, replayed, made⟩ := made
  cases result with
  | error error => cases made
  | ok documents =>
    cases made
    obtain ⟨replies, path⟩ := Consultation.path_of_replay replayed
    exact ⟨descriptors, locales, record.request, replies, path⟩

theorem length_of_mem_built {plan : Plan} {journal : Journal} {page : BuiltPage}
    (member : page ∈ journal.built plan) : page.documents.length = page.items.length := by
  obtain ⟨descriptors, locales, request, replies, path⟩ := path_of_mem_built member
  exact Builder.length_of_path_buildAll path

theorem built_of_builds {plan : Plan} {asOf : Instant} {page : Nat} {journal : Journal} {history : History}
    {documents : List Document} {locales : List Locale}
    (builds : Run.Builds plan asOf journal.request page journal.locales history (.ok (documents, locales))) :
    ∃ items, (journal.notes history).built plan = journal.built plan ++ [⟨items, documents⟩] ∧
      (journal.notes history).request = journal.request ∧ (journal.notes history).locales = some locales := by
  obtain ⟨request, known, pages⟩ := journal
  dsimp only at builds
  cases builds with
  | @built _ items descriptors locating _ replies _ located answered =>
    refine ⟨items, ?_, ?_, ?_⟩
    · rw [notes_page located, built_cons]
      simp [PageRecord.built?, Consultation.replay_of_path answered, built]
    · rw [notes_page located]
    · rw [notes_page located]

theorem built_of_not_builds {plan : Plan} {asOf : Instant} {page : Nat} {journal : Journal} {history : History}
    {stop : Stop} (builds : Run.Builds plan asOf journal.request page journal.locales history (.error stop)) :
    (journal.notes history).built plan = journal.built plan := by
  obtain ⟨request, known, pages⟩ := journal
  dsimp only at builds
  cases builds with
  | unread lost => cases lost <;> rfl
  | undescribed lost =>
    cases lost <;>
      simp [Run.itemsRead, Run.pageQuestion, note, built, PageRecord.built?]
  | unlocated lost =>
    cases lost <;>
      simp [Run.itemsRead, Run.descriptorsRead, Run.pageQuestion, note, built, extend, PageRecord.built?]
  | unheard located unanswered =>
    rw [← List.append_assoc, ← List.cons_append, ← List.cons_append, notes_append, notes_page located]
    simp [note, built, PageRecord.built?, Consultation.replay_of_unanswered unanswered]
  | unbuilt located answered =>
    rw [notes_page located]
    simp [built, PageRecord.built?, Consultation.replay_of_path answered]

end Journal

end CatalogIndex
