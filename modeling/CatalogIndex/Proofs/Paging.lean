import CatalogIndex.Proofs.Stages
/-!
The calls of paging. The work inside a transaction starts with the question that it is there for and goes on with
what builds and writes a page; a sweep adds to this its transactions, its checks for a cancellation and its reports.
-/
namespace CatalogIndex

/-- Whether a call builds or writes a page whose items have been read. -/
def Call.isHandling : Call → Bool
  | .outside .descriptors => true
  | .outside .locales => true
  | .outside (.handler _) => true
  | .perform (.add _) => true
  | .perform .commit => true
  | .perform .rollback => true
  | _ => false

/-- Whether a call may be made while items are counted and pages are written. -/
def Call.isPaging : Call → Bool
  | .isCancelled => true
  | .outside _ => true
  | .perform (.add _) => true
  | .perform .commit => true
  | .perform .rollback => true
  | _ => false

/-- Whether a call is made by the phases themselves, outside of all transactions and checks. -/
def Call.isStage : Call → Bool
  | .isShared => true
  | .swap => true
  | .perform _ => true
  | .enter .done => false
  | .enter .failed => false
  | .enter _ => true
  | _ => false

theorem Call.isPaging_of_isHandling {call : Call} (handling : call.isHandling = true) : call.isPaging = true := by
  unfold isHandling at handling
  split at handling <;> first | rfl | cases handling

/-- Work that starts with a question and never comes back to questions of its kind. -/
inductive Works (question : Outside) : History → Prop where
  | intro (answer : Answer question.Reply) {rest : History} (handling : ∀ later ∈ rest, later.1.isHandling = true) :
      Works question (⟨.outside question, answer⟩ :: rest)

theorem Works.append {question : Outside} {before after : History} (works : Works question before)
    (handling : ∀ later ∈ after, later.1.isHandling = true) : Works question (before ++ after) := by
  obtain ⟨answer, handles⟩ := works
  exact .intro answer (List.forall_mem_append.2 ⟨handles, handling⟩)

theorem Works.pages {question : Outside} {history : History} (works : Works question history) :
    ∀ exchange ∈ history, exchange.1.isPaging = true := by
  obtain ⟨answer, handling⟩ := works
  refine List.forall_mem_cons.2 ⟨rfl, fun later member => ?_⟩
  exact Call.isPaging_of_isHandling (handling later member)

namespace Run

theorem vacuous_of_error {α : Type} {claim : α → Prop} (stop : Stop) :
    ∀ answer, (.error stop : Except Stop α) = .ok answer → claim answer := by
  intro answer same
  cases same

variable {plan : Plan} {asOf : Instant} {request : RequestContext} {page : Nat} {known : Option (List Locale)}
  {history : History}

theorem handling_told (replies : List Consulted) : ∀ later ∈ replies.map told, later.1.isHandling = true := by
  rw [List.forall_mem_map]
  exact fun consulted member => rfl

theorem handling_writing (documents : List Document) :
    ∀ later ∈ (writing documents).map asked, later.1.isHandling = true := by
  unfold writing
  split
  · exact List.forall_mem_nil _
  · exact List.forall_mem_cons.2 ⟨rfl, List.forall_mem_singleton.2 rfl⟩

theorem handling_of_brokenWrite {documents : List Document} {error : SearchError} {requests : List Request}
    (broken : BrokenWrite documents error requests) : ∀ later ∈ requests.map asked, later.1.isHandling = true := by
  cases broken with
  | add reply => exact List.forall_mem_cons.2 ⟨rfl, List.forall_mem_singleton.2 rfl⟩
  | commit reply =>
    exact List.forall_mem_cons.2 ⟨rfl, List.forall_mem_cons.2 ⟨rfl, List.forall_mem_singleton.2 rfl⟩⟩

theorem Located.handling {locales : List Locale} (located : Located known history locales) :
    ∀ later ∈ history, later.1.isHandling = true := by
  cases located with
  | known => exact List.forall_mem_nil _
  | read => exact List.forall_mem_singleton.2 rfl

theorem Builds.works {outcome : Except Stop (List Document × List Locale)}
    (builds : Builds plan asOf request page known history outcome) : Works (pageQuestion plan asOf page) history := by
  have panicking (question : HandlerQuestion) (text : String) :
      ∀ later ∈ ([⟨.outside (.handler question), .panicked text⟩] : History), later.1.isHandling = true :=
    List.forall_mem_singleton.2 rfl
  cases builds with
  | unread lost => exact .intro _ (List.forall_mem_nil _)
  | undescribed lost => exact .intro _ (List.forall_mem_singleton.2 rfl)
  | unlocated lost => exact .intro _ (List.forall_mem_cons.2 ⟨rfl, List.forall_mem_singleton.2 rfl⟩)
  | unheard located unanswered =>
    refine .intro _ (List.forall_mem_cons.2 ⟨rfl, List.forall_mem_append.2 ⟨located.handling, ?_⟩⟩)
    exact List.forall_mem_append.2 ⟨handling_told _, panicking _ _⟩
  | unbuilt located answered =>
    exact .intro _ (List.forall_mem_cons.2 ⟨rfl, List.forall_mem_append.2 ⟨located.handling, handling_told _⟩⟩)
  | built located answered =>
    exact .intro _ (List.forall_mem_cons.2 ⟨rfl, List.forall_mem_append.2 ⟨located.handling, handling_told _⟩⟩)

theorem works_of_writePage {outcome : Except Stop (Nat × List Locale)}
    (goes : Goes (writePage plan asOf request page known) history outcome) :
    Works (pageQuestion plan asOf page) history := by
  cases goes_writePage goes with
  | unbuilt builds => exact builds.works
  | unwritten builds nonempty broken => exact builds.works.append (handling_of_brokenWrite broken)
  | written builds => exact builds.works.append (handling_writing _)

theorem works_of_countWork {outcome : Except Stop UInt64} (goes : Goes (countWork asOf) history outcome) :
    Works (.count asOf) history := by
  rcases goes_bind.1 goes with ⟨stop, first, rfl⟩ | ⟨reply, before, rest, first, second, rfl⟩
  · obtain ⟨text, -, rfl⟩ := goes_outside_error.1 first
    exact .intro _ (List.forall_mem_nil _)
  · obtain rfl := goes_outside_ok.1 first
    obtain ⟨rfl, -⟩ := goes_expect.1 second
    exact .intro _ (List.forall_mem_nil _)

/-- A property of exchanges that what surrounds the work of transactions has. -/
structure Frames (property : Exchange → Prop) : Prop where
  begins : ∀ definition answer, property ⟨.outside (.begin definition), answer⟩
  finishes : ∀ transaction ending answer, property ⟨.outside (.finish transaction ending), answer⟩
  checks : ∀ isCancelled : Bool, property ⟨.isCancelled, isCancelled⟩
  reports : ∀ progress answer, progress.completed = false → property ⟨.outside (.report progress), answer⟩

theorem Transacts.every {α : Type} {work : Run α} {property : Exchange → Prop} {outcome : Except Stop α}
    (frames : Frames property)
    (works : ∀ {working result}, Goes work working result → ∀ exchange ∈ working, property exchange)
    (transacts : Transacts work history outcome) : ∀ exchange ∈ history, property exchange := by
  have whole {transaction : Transaction} {isError : Bool} {working finishing : History} {result : Except Stop α}
      {ending : Except Stop (Except TransactionError Unit)} (goes : Goes work working result)
      (finishes : Finishes transaction isError finishing ending) :
      ∀ exchange ∈ begun transaction :: (working ++ finishing), property exchange := by
    refine List.forall_mem_cons.2 ⟨frames.begins _ _, List.forall_mem_append.2 ⟨works goes, ?_⟩⟩
    cases finishes with
    | left => exact List.forall_mem_nil _
    | asked => exact List.forall_mem_singleton.2 (frames.finishes _ _ _)
  cases transacts with
  | unbegun lost => exact List.forall_mem_singleton.2 (frames.begins _ _)
  | committed goes finishes => exact whole goes finishes
  | uncommitted goes finishes => exact whole goes finishes
  | unfinished goes finishes => exact whole goes finishes
  | rolledBack goes finishes => exact whole goes finishes
  | notRolledBack goes finishes => exact whole goes finishes
  | dropped goes => exact List.forall_mem_cons.2 ⟨frames.begins _ _, works goes⟩

theorem Sweeps.every {property : Exchange → Prop} {total : UInt64} {progress : Progress}
    {outcome : Except Stop Progress} (frames : Frames property)
    (works : ∀ {page known working result}, Goes (writePage plan asOf request page known) working result →
      ∀ exchange ∈ working, property exchange) (incomplete : progress.completed = false)
    (sweeps : Sweeps plan asOf request total page known progress history outcome) :
    ∀ exchange ∈ history, property exchange := by
  induction sweeps with
  | ended => exact List.forall_mem_nil _
  | overflown => exact List.forall_mem_nil _
  | cancelled => exact List.forall_mem_singleton.2 (frames.checks true)
  | stopped below transacts => exact List.forall_mem_cons.2 ⟨frames.checks false, transacts.every frames works⟩
  | unheard below transacts =>
    refine List.forall_mem_cons.2 ⟨frames.checks false, ?_⟩
    refine List.forall_mem_append.2 ⟨transacts.every frames works, ?_⟩
    exact List.forall_mem_singleton.2 (frames.reports _ _ incomplete)
  | next below transacts sweeps ih =>
    refine List.forall_mem_cons.2 ⟨frames.checks false, ?_⟩
    refine List.forall_mem_append.2 ⟨transacts.every frames works, ?_⟩
    exact List.forall_mem_cons.2 ⟨frames.reports _ _ incomplete, ih incomplete⟩

theorem Phases.every {property : Exchange → Prop} {outcome : Except Stop Report} (frames : Frames property)
    (stages : ∀ exchange : Exchange, exchange.1.isStage = true → property exchange)
    (counting : ∀ {working result}, Goes (countWork asOf) working result →
      ∀ exchange ∈ working, property exchange)
    (works : ∀ {page known working result}, Goes (writePage plan asOf request page known) working result →
      ∀ exchange ∈ working, property exchange)
    (phases : Phases plan asOf request history outcome) : ∀ exchange ∈ history, property exchange := by
  have requested (requests : List Request) : ∀ exchange ∈ requests.map asked, property exchange := by
    rw [List.forall_mem_map]
    exact fun request _ => stages _ rfl
  have cleared (isShared : Bool) : ∀ exchange ∈ cleared isShared, property exchange := by
    refine List.forall_mem_cons.2 ⟨stages _ rfl, List.forall_mem_append.2 ⟨requested _, ?_⟩⟩
    exact List.forall_mem_singleton.2 (stages _ rfl)
  have filled {isShared : Bool} {filling : History} {progress : Progress}
      (fills : Fills plan asOf request isShared filling progress) : ∀ exchange ∈ filling, property exchange := by
    cases fills with
    | filled counts sweeps =>
      refine List.forall_mem_append.2 ⟨cleared _, List.forall_mem_append.2 ⟨counts.every frames counting, ?_⟩⟩
      exact sweeps.every frames works rfl
  have approving : ∀ exchange ∈ approved, property exchange :=
    List.forall_mem_cons.2 ⟨stages _ rfl, List.forall_mem_cons.2 ⟨stages _ rfl, List.forall_mem_cons.2
      ⟨frames.checks false, List.forall_mem_singleton.2 (stages _ rfl)⟩⟩⟩
  cases phases with
  | uncleared broken => exact List.forall_mem_cons.2 ⟨stages _ rfl, requested _⟩
  | uncounted counts => exact List.forall_mem_append.2 ⟨cleared _, counts.every frames counting⟩
  | unswept counts sweeps =>
    refine List.forall_mem_append.2 ⟨cleared _, List.forall_mem_append.2 ⟨counts.every frames counting, ?_⟩⟩
    exact sweeps.every frames works rfl
  | uncompacted fills =>
    refine List.forall_mem_append.2 ⟨filled fills, List.forall_mem_cons.2 ⟨stages _ rfl, ?_⟩⟩
    exact List.forall_mem_singleton.2 (stages _ rfl)
  | cancelled fills =>
    refine List.forall_mem_append.2 ⟨filled fills, List.forall_mem_cons.2 ⟨stages _ rfl, ?_⟩⟩
    exact List.forall_mem_cons.2 ⟨stages _ rfl, List.forall_mem_singleton.2 (frames.checks true)⟩
  | unswapped fills =>
    refine List.forall_mem_append.2 ⟨filled fills, List.forall_mem_append.2 ⟨approving, ?_⟩⟩
    exact List.forall_mem_singleton.2 (stages _ rfl)
  | uncleaned fills broken =>
    refine List.forall_mem_append.2 ⟨filled fills, List.forall_mem_append.2 ⟨approving, ?_⟩⟩
    exact List.forall_mem_cons.2 ⟨stages _ rfl, List.forall_mem_cons.2 ⟨stages _ rfl, requested _⟩⟩
  | @finished isShared filling progress swapped fills =>
    refine List.forall_mem_append.2 ⟨filled fills, List.forall_mem_append.2 ⟨approving, ?_⟩⟩
    refine List.forall_mem_cons.2 ⟨stages _ rfl, List.forall_mem_cons.2 ⟨stages _ rfl, ?_⟩⟩
    cases isShared with
    | true => exact List.forall_mem_nil _
    | false => exact requested _

theorem frames_pages : Frames fun exchange => exchange.1.isPaging = true :=
  ⟨fun _ _ => rfl, fun _ _ _ => rfl, fun _ => rfl, fun _ _ _ => rfl⟩

theorem pages_of_count {outcome : Except Stop UInt64} (counts : Transacts (countWork asOf) history outcome) :
    ∀ exchange ∈ history, exchange.1.isPaging = true :=
  counts.every frames_pages fun goes => (works_of_countWork goes).pages

theorem pages_of_page {outcome : Except Stop (Nat × List Locale)}
    (transacts : Transacts (writePage plan asOf request page known) history outcome) :
    ∀ exchange ∈ history, exchange.1.isPaging = true :=
  transacts.every frames_pages fun goes => (works_of_writePage goes).pages

theorem Sweeps.pages {total : UInt64} {progress : Progress} {outcome : Except Stop Progress}
    (incomplete : progress.completed = false)
    (sweeps : Sweeps plan asOf request total page known progress history outcome) :
    ∀ exchange ∈ history, exchange.1.isPaging = true :=
  sweeps.every frames_pages (fun goes => (works_of_writePage goes).pages) incomplete

end Run
end CatalogIndex
