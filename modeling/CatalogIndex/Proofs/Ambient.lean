import CatalogIndex.Proofs.Consulting
import CatalogIndex.Proofs.Failures
import CatalogIndex.Proofs.Passage
import CatalogIndex.Proofs.Tally
/-!
The ambient context of a rebuild. It is captured once at the start, whatever it becomes later every document is built
with the captured one, and that one is ambient again before the rebuild tells how it has ended.
-/
namespace CatalogIndex

namespace Exchange

/-- Whether a handler that has been asked to resolve a descriptor has been asked on behalf of a request. -/
def Behalf (request : RequestContext) : Exchange → Prop
  | ⟨.outside (.handler (.resolve _ resolution)), .returned _⟩ => resolution.request = request
  | _ => True

def added? : Exchange → Option (List Document)
  | ⟨.perform (.add documents), _⟩ => some documents
  | _ => none

/-- What is known of the ambient context after an exchange. The parties from outside may change it, and so may
whatever goes on while a generation serves a request. -/
def context? (known : Option RequestContext) : Exchange → Option RequestContext
  | ⟨.restore context, _⟩ => some context
  | ⟨.outside _, _⟩ => none
  | ⟨.perform _, _⟩ => none
  | _ => known

end Exchange

/-- Whether a call tells how a rebuild has ended, or comes after that. -/
def Call.concludes : Call → Bool
  | .enter .done => true
  | .enter .failed => true
  | .outside (.report progress) => progress.completed
  | _ => false

def History.context? (known : Option RequestContext) (history : History) : Option RequestContext :=
  history.foldl Exchange.context? known

/-- The documents that are built from the page that has been read last, with the replies that handlers have given
since, on behalf of a request. -/
def Supplies (plan : Plan) (asOf : Instant) (request : RequestContext) (before : History) (documents : List Document) :
    Prop :=
  ∃ page items descriptors locating locales replies,
    Run.itemsRead plan asOf page items :: Run.descriptorsRead descriptors :: (locating ++ replies.map told) <:+ before ∧
      (plan.builder.buildAll items descriptors locales request).Path replies (.ok documents)

def Supplied (plan : Plan) (asOf : Instant) (request : RequestContext) (history : History) : Prop :=
  ∀ before exchange after documents, history = before ++ exchange :: after → exchange.added? = some documents →
    Supplies plan asOf request before documents

theorem Heard.behalf {request : RequestContext} {replies : List Consulted} {failure : Option ExtensionError}
    (heard : Heard request replies failure) : ∀ exchange ∈ replies.map told, exchange.Behalf request := by
  induction heard with
  | nil => exact List.forall_mem_nil _
  | failed additions error => exact List.forall_mem_singleton.2 trivial
  | attached additions taken heard ih => exact List.forall_mem_cons.2 ⟨trivial, ih⟩
  | resolved reply behalf heard ih => exact List.forall_mem_cons.2 ⟨behalf, ih⟩

namespace Supplied

variable {plan : Plan} {asOf : Instant} {request : RequestContext} {before after history : History}

theorem none (adds : ∀ exchange ∈ history, exchange.added? = Option.none) :
    Supplied plan asOf request history := by
  intro first exchange last documents same added
  rw [adds exchange (same ▸ List.mem_append_right _ List.mem_cons_self)] at added
  cases added

theorem append (head : Supplied plan asOf request before) (rest : Supplied plan asOf request after) :
    Supplied plan asOf request (before ++ after) := by
  intro first exchange last documents same added
  have onward {between : History} (later : after = between ++ exchange :: last) (whole : first = before ++ between) :
      Supplies plan asOf request first documents := by
    obtain ⟨page, items, descriptors, locating, locales, replies, read, path⟩ := rest _ _ _ _ later added
    rw [whole]
    exact ⟨page, items, descriptors, locating, locales, replies, read.trans (List.suffix_append _ _), path⟩
  rcases List.append_eq_append_iff.1 same with ⟨between, whole, later⟩ | ⟨between, whole, later⟩
  · exact onward later whole
  · cases between with
    | nil =>
      rw [List.append_nil] at whole
      rw [← List.append_nil before] at whole
      exact @onward [] later.symm whole.symm
    | cons other middle =>
      cases later
      exact head _ _ _ _ whole added

theorem cons {exchange : Exchange} (adds : exchange.added? = Option.none)
    (supplied : Supplied plan asOf request history) : Supplied plan asOf request (exchange :: history) :=
  append (none (List.forall_mem_singleton.2 adds)) supplied

theorem of_built {page : Nat} {known : Option (List Locale)} {documents : List Document} {locales : List Locale}
    {building rest : History} {reply : Except SearchError Unit}
    (builds : Run.Builds plan asOf request page known building (.ok (documents, locales)))
    (unread : ∀ exchange ∈ building, exchange.added? = Option.none)
    (adds : ∀ exchange ∈ rest, exchange.added? = Option.none) :
    Supplied plan asOf request (building ++ ⟨.perform (.add documents), reply⟩ :: rest) := by
  intro first exchange last others same added
  rcases History.places same.symm with ⟨middle, whole, -⟩ | ⟨rfl, rfl, -⟩ | ⟨middle, -, whole⟩
  · rw [unread exchange (whole ▸ List.mem_append_right _ List.mem_cons_self)] at added
    cases added
  · cases added
    cases builds with
    | @built _ items descriptors locating _ replies _ located answered =>
      exact ⟨page, items, descriptors, locating, locales, replies, List.suffix_rfl, answered⟩
  · rw [adds exchange (whole ▸ List.mem_append_right _ List.mem_cons_self)] at added
    cases added

end Supplied

namespace Run

variable {α : Type} {plan : Plan} {asOf : Instant} {request : RequestContext} {page : Nat}
  {known : Option (List Locale)} {history : History}

theorem Builds.added? {outcome : Except Stop (List Document × List Locale)}
    (builds : Builds plan asOf request page known history outcome) :
    ∀ exchange ∈ history, exchange.added? = none := by
  intro exchange member
  have unasked := List.filterMap_eq_nil_iff.1 builds.building.silent.requests exchange member
  obtain ⟨call, reply⟩ := exchange
  cases call with
  | perform operation => cases unasked
  | _ => rfl

theorem supplied_of_writePage {outcome : Except Stop (Nat × List Locale)}
    (goes : Goes (writePage plan asOf request page known) history outcome) : Supplied plan asOf request history := by
  cases goes_writePage goes with
  | unbuilt builds => exact .none builds.added?
  | unwritten builds nonempty broken =>
    cases broken with
    | add reply => exact .of_built builds builds.added? (List.forall_mem_singleton.2 rfl)
    | commit reply =>
      exact .of_built builds builds.added? (List.forall_mem_cons.2 ⟨rfl, List.forall_mem_singleton.2 rfl⟩)
  | @written building documents locales builds =>
    unfold writing
    split
    · rw [List.map_nil, List.append_nil]
      exact .none builds.added?
    · exact .of_built builds builds.added? (List.forall_mem_singleton.2 rfl)

theorem Transacts.supplied {outcome : Except Stop (Nat × List Locale)}
    (transacts : Transacts (writePage plan asOf request page known) history outcome) :
    Supplied plan asOf request history := by
  have whole {transaction : Transaction} {isError : Bool} {working finishing : History}
      {result : Except Stop (Nat × List Locale)} {ending : Except Stop (Except TransactionError Unit)}
      (goes : Goes (writePage plan asOf request page known) working result)
      (finishes : Finishes transaction isError finishing ending) :
      Supplied plan asOf request (begun transaction :: (working ++ finishing)) := by
    refine .cons rfl ((supplied_of_writePage goes).append (.none ?_))
    cases finishes with
    | left => exact List.forall_mem_nil _
    | asked => exact List.forall_mem_singleton.2 rfl
  cases transacts with
  | unbegun lost => exact .none (List.forall_mem_singleton.2 rfl)
  | committed goes finishes => exact whole goes finishes
  | uncommitted goes finishes => exact whole goes finishes
  | unfinished goes finishes => exact whole goes finishes
  | rolledBack goes finishes => exact whole goes finishes
  | notRolledBack goes finishes => exact whole goes finishes
  | dropped goes => exact .cons rfl (supplied_of_writePage goes)

theorem Sweeps.supplied {total : UInt64} {progress : Progress} {outcome : Except Stop Progress}
    (sweeps : Sweeps plan asOf request total page known progress history outcome) :
    Supplied plan asOf request history := by
  induction sweeps with
  | ended => exact .none (List.forall_mem_nil _)
  | overflown => exact .none (List.forall_mem_nil _)
  | cancelled => exact .none (List.forall_mem_singleton.2 rfl)
  | stopped below transacts => exact .cons rfl transacts.supplied
  | unheard below transacts => exact .cons rfl (transacts.supplied.append (.none (List.forall_mem_singleton.2 rfl)))
  | next below transacts sweeps ih => exact .cons rfl (transacts.supplied.append (.cons rfl ih))

theorem supplied_of_count {outcome : Except Stop UInt64} (counts : Transacts (countWork asOf) history outcome) :
    Supplied plan asOf request history := by
  have frames : Frames fun exchange => exchange.added? = none :=
    ⟨fun _ _ => rfl, fun _ _ _ => rfl, fun _ => rfl, fun _ _ _ => rfl⟩
  refine .none (counts.every frames fun goes => ?_)
  obtain ⟨answer, rfl, -⟩ := goes_countWork goes
  exact List.forall_mem_singleton.2 rfl

theorem Phases.supplied {outcome : Except Stop Report} (phases : Phases plan asOf request history outcome) :
    Supplied plan asOf request history := by
  have opening (isShared : Bool) : Supplied plan asOf request (cleared isShared) := .none (by
    simp [cleared, clearing, asked, granted, Exchange.added?])
  have approving : Supplied plan asOf request approved := .none (by
    simp [approved, asked, granted, Exchange.added?])
  have breaking {error : SearchError} {requests : List Request} (broken : BrokenClear error requests) :
      Supplied plan asOf request (requests.map asked) := .none (by
    cases broken <;> simp [asked, granted, refused, Exchange.added?])
  have filled {isShared : Bool} {filling : History} {progress : Progress}
      (fills : Fills plan asOf request isShared filling progress) : Supplied plan asOf request filling := by
    cases fills with
    | filled counts sweeps => exact (opening _).append ((supplied_of_count counts).append sweeps.supplied)
  cases phases with
  | uncleared broken => exact .cons rfl (breaking broken)
  | uncounted counts => exact (opening _).append (supplied_of_count counts)
  | unswept counts sweeps => exact (opening _).append ((supplied_of_count counts).append sweeps.supplied)
  | uncompacted fills => exact (filled fills).append (.cons rfl (.cons rfl (.none (List.forall_mem_nil _))))
  | cancelled fills => exact (filled fills).append (.cons rfl (.cons rfl (.cons rfl (.none (List.forall_mem_nil _)))))
  | unswapped fills => exact (filled fills).append (approving.append (.cons rfl (.none (List.forall_mem_nil _))))
  | uncleaned fills broken => exact (filled fills).append (approving.append (.cons rfl (.cons rfl (breaking broken))))
  | @finished isShared filling progress swapped fills =>
    refine (filled fills).append (approving.append (.cons rfl (.cons rfl ?_)))
    cases isShared with
    | true => exact .none (List.forall_mem_nil _)
    | false => exact .cons rfl (.cons rfl (.none (List.forall_mem_nil _)))

theorem behalf_asked (requests : List Request) : ∀ exchange ∈ requests.map asked, exchange.Behalf request :=
  List.forall_mem_map.2 fun _ _ => trivial

theorem Builds.behalf {outcome : Except Stop (List Document × List Locale)}
    (builds : Builds plan asOf request page known history outcome) :
    ∀ exchange ∈ history, exchange.Behalf request := by
  have consults (items : List Item) (descriptors : List Descriptor) (locales : List Locale) :=
    plan.builder.consults_buildAll items descriptors locales request
  have around {items : List Item} {descriptors : List Descriptor} {locating rest : History} {locales : List Locale}
      (located : Located known locating locales) (behalf : ∀ exchange ∈ rest, exchange.Behalf request) :
      ∀ exchange ∈ itemsRead plan asOf page items :: descriptorsRead descriptors :: (locating ++ rest),
        exchange.Behalf request := by
    refine List.forall_mem_cons.2 ⟨trivial, List.forall_mem_cons.2 ⟨trivial, ?_⟩⟩
    refine List.forall_mem_append.2 ⟨?_, behalf⟩
    cases located with
    | known => exact List.forall_mem_nil _
    | read => exact List.forall_mem_singleton.2 trivial
  cases builds with
  | unread lost => exact List.forall_mem_singleton.2 trivial
  | undescribed lost => exact List.forall_mem_cons.2 ⟨trivial, List.forall_mem_singleton.2 trivial⟩
  | unlocated lost =>
    exact List.forall_mem_cons.2 ⟨trivial, List.forall_mem_cons.2 ⟨trivial, List.forall_mem_singleton.2 trivial⟩⟩
  | @unheard _ items descriptors locating locales replies question text located unanswered =>
    have panicking : Exchange.Behalf request ⟨.outside (.handler question), .panicked text⟩ := by
      cases question <;> trivial
    refine around located (List.forall_mem_append.2 ⟨((consults _ _ _).heard_of_unanswered unanswered).behalf, ?_⟩)
    exact List.forall_mem_singleton.2 panicking
  | unbuilt located answered => exact around located ((consults _ _ _).heard_of_path answered).behalf
  | built located answered => exact around located ((consults _ _ _).heard_of_path answered).behalf

theorem behalf_of_writePage {outcome : Except Stop (Nat × List Locale)}
    (goes : Goes (writePage plan asOf request page known) history outcome) :
    ∀ exchange ∈ history, exchange.Behalf request := by
  cases goes_writePage goes with
  | unbuilt builds => exact builds.behalf
  | unwritten builds nonempty broken => exact List.forall_mem_append.2 ⟨builds.behalf, behalf_asked _⟩
  | written builds => exact List.forall_mem_append.2 ⟨builds.behalf, behalf_asked _⟩

theorem Phases.behalf {outcome : Except Stop Report} (phases : Phases plan asOf request history outcome) :
    ∀ exchange ∈ history, exchange.Behalf request := by
  have frames : Frames (Exchange.Behalf request) :=
    ⟨fun _ _ => trivial, fun _ _ _ => trivial, fun _ => trivial, fun _ _ _ => trivial⟩
  refine phases.every frames (fun exchange stage => ?_) (fun goes => ?_) behalf_of_writePage
  · obtain ⟨call, reply⟩ := exchange
    cases call <;> trivial
  · obtain ⟨answer, rfl, -⟩ := goes_countWork goes
    exact List.forall_mem_singleton.2 trivial

theorem Phases.concludes {outcome : Except Stop Report} (phases : Phases plan asOf request history outcome) :
    ∀ exchange ∈ history, exchange.1.concludes = false := by
  have handling {question : Outside} {working : History} (works : Works question working)
      (asks : (Call.outside question).concludes = false) : ∀ exchange ∈ working, exchange.1.concludes = false := by
    obtain ⟨answer, handles⟩ := works
    refine List.forall_mem_cons.2 ⟨asks, fun exchange member => ?_⟩
    have handles := handles exchange member
    obtain ⟨call, reply⟩ := exchange
    cases call with
    | outside question => cases question <;> first | rfl | cases handles
    | enter phase => cases handles
    | _ => rfl
  have frames : Frames fun exchange => exchange.1.concludes = false :=
    ⟨fun _ _ => rfl, fun _ _ _ => rfl, fun _ => rfl, fun _ _ incomplete => incomplete⟩
  refine phases.every frames (fun exchange stage => ?_) (fun goes => handling (works_of_countWork goes) rfl)
    fun goes => handling (works_of_writePage goes) rfl
  obtain ⟨call, reply⟩ := exchange
  cases call with
  | enter phase => cases phase <;> first | rfl | cases stage
  | outside question => cases stage
  | _ => rfl

end Run

inductive Concludes : History → Prop where
  | panicked : Concludes [⟨.release, ()⟩]
  | failed : Concludes [⟨.enter .failed, ()⟩, ⟨.release, ()⟩]
  | completed (progress : Progress) (answer : Answer Unit) :
      Concludes [⟨.enter .done, ()⟩, ⟨.outside (.report progress), answer⟩, ⟨.release, ()⟩]

/-- A history that puts the context back which it has captured, before it tells how it ends, and uses no other one. -/
structure Restores (plan : Plan) (asOf : Instant) (request : RequestContext) (history front after : History) :
    Prop where
  parts : history = front ++ ⟨.restore request, ()⟩ :: after
  captures : Run.entered request <+: history
  supplied : Supplied plan asOf request history
  behalf : ∀ exchange ∈ history, exchange.Behalf request
  undecided : ∀ exchange ∈ front, exchange.1.concludes = false
  concludes : Concludes after

section

variable {plan : Plan} {asOf : Instant} {request : RequestContext} {history front after middle last : History}
  {exchange : Exchange}

theorem Run.Phases.restores {outcome : Except Stop Report} (phases : Phases plan asOf request middle outcome)
    (concludes : Concludes after) :
    Restores plan asOf request (entered request ++ (middle ++ ⟨.restore request, ()⟩ :: after))
      (entered request ++ middle) after := by
  have silent : ∀ exchange ∈ after, exchange.added? = none := by
    cases concludes <;> simp [Exchange.added?]
  have apart : ∀ exchange ∈ after, exchange.Behalf request := by
    cases concludes <;> simp [Exchange.Behalf]
  have opening : ∀ exchange ∈ entered request, exchange.added? = none ∧ exchange.Behalf request ∧
      exchange.1.concludes = false := by
    simp [entered, Exchange.added?, Exchange.Behalf, Call.concludes]
  refine ⟨?_, List.prefix_append _ _, ?_, ?_, ?_, concludes⟩
  · simp only [List.append_assoc]
  · refine .append (.none fun exchange member => (opening exchange member).1) (phases.supplied.append ?_)
    exact .cons rfl (.none silent)
  · refine List.forall_mem_append.2 ⟨fun exchange member => (opening exchange member).2.1, ?_⟩
    exact List.forall_mem_append.2 ⟨phases.behalf, List.forall_mem_cons.2 ⟨trivial, apart⟩⟩
  · exact List.forall_mem_append.2 ⟨fun exchange member => (opening exchange member).2.2, phases.concludes⟩

theorem Run.Rebuilds.restores {outcome : Except Stop Report} (rebuilds : Rebuilds plan asOf history outcome) :
    history = [⟨.acquire, false⟩] ∨ ∃ request front after, Restores plan asOf request history front after := by
  cases rebuilds with
  | rejected => exact .inl rfl
  | panicked phases => exact .inr ⟨_, _, _, phases.restores .panicked⟩
  | failed phases => exact .inr ⟨_, _, _, phases.restores .failed⟩
  | completed answer phases => exact .inr ⟨_, _, _, phases.restores (.completed _ answer)⟩

theorem Concludes.context? (concludes : Concludes (middle ++ exchange :: last))
    (ends : exchange.1.concludes = true) (known : Option RequestContext) : History.context? known middle = known := by
  generalize same : middle ++ exchange :: last = after at concludes
  have final {exchange : Exchange} {middle last : History} (ends : exchange.1.concludes = true)
      (same : middle ++ exchange :: last = [⟨.release, ()⟩]) : False := by
    rcases List.append_eq_singleton_iff.1 same with ⟨-, single⟩ | ⟨-, impossible⟩
    · cases single
      cases ends
    · cases impossible
  cases middle with
  | nil => rfl
  | cons first middle =>
    cases concludes with
    | panicked => exact (final ends same).elim
    | failed => exact (final ends (List.cons.inj same).2).elim
    | completed progress answer =>
      obtain ⟨rfl, later⟩ := List.cons.inj same
      cases middle with
      | nil => rfl
      | cons second middle => exact (final ends (List.cons.inj later).2).elim

theorem Restores.context? (restores : Restores plan asOf request history front after)
    (split : history = middle ++ exchange :: last) (ends : exchange.1.concludes = true)
    (known : Option RequestContext) : History.context? known middle = some request := by
  rcases History.places (split.symm.trans restores.parts) with
    ⟨between, whole, -⟩ | ⟨-, same, -⟩ | ⟨between, whole, rest⟩
  · rw [restores.undecided exchange (whole ▸ List.mem_append_right _ List.mem_cons_self)] at ends
    cases ends
  · rw [same] at ends
    cases ends
  · have concludes := restores.concludes
    rw [rest] at concludes
    rw [whole, History.context?, List.foldl_append, List.foldl_cons]
    exact concludes.context? ends _

theorem Restores.context?_of_unsuccessful (restores : Restores plan asOf request history front after)
    (unsuccessful : .done ∉ history.phases) (known : Option RequestContext) :
    History.context? known history = some request := by
  rw [restores.parts] at unsuccessful ⊢
  rw [History.context?, List.foldl_append, List.foldl_cons]
  cases restores.concludes with
  | panicked => rfl
  | failed => rfl
  | completed progress answer =>
    refine absurd ?_ unsuccessful
    rw [History.phases_append]
    exact List.mem_append_right _ List.mem_cons_self

end

namespace World

variable {γ σ : Type} [Engine γ] {plan : Plan} {surroundings : Surroundings σ} {asOf : Instant}

def Knows (world : World γ σ) (known : Option RequestContext) : Prop :=
  ∀ context, known = some context → world.ambience.context = context

theorem knows_replies {world : World γ σ} {known : Option RequestContext} (knows : world.Knows known) (call : Call) :
    (replies plan surroundings call world).2.Knows
      (Exchange.context? known ⟨call, (replies plan surroundings call world).1⟩) := by
  cases call with
  | acquire =>
    unfold replies
    rw [respond_acquire]
    exact knows
  | restore context =>
    intro other same
    cases same
    rfl
  | outside question =>
    intro context impossible
    cases impossible
  | perform operation =>
    intro context impossible
    cases impossible
  | _ => exact knows

theorem knows_of_dialogue {α : Type} (plan : Plan) (surroundings : Surroundings σ)
    (dialogue : Dialogue Call.Reply α) {world : World γ σ} {known : Option RequestContext} (knows : world.Knows known) :
    (dialogue.exec (replies plan surroundings) world).2.Knows
        (History.context? known (dialogue.transcript (replies plan surroundings) world)) ∧
      ∀ (i : Nat) (later : World γ σ), (dialogue.states (replies plan surroundings) world)[i]? = some later →
        later.Knows (History.context? known ((dialogue.transcript (replies plan surroundings) world).take i)) := by
  induction dialogue generalizing world known with
  | done answer =>
    refine ⟨knows, fun i later found => ?_⟩
    cases i with
    | zero =>
      cases found
      exact knows
    | succ i => cases found
  | ask call next ih =>
    obtain ⟨final, between⟩ := ih _ (knows_replies knows call)
    refine ⟨final, fun i later found => ?_⟩
    cases i with
    | zero =>
      cases found
      exact knows
    | succ i => exact between i later found

structure Isolated (plan : Plan) (surroundings : Surroundings σ) (asOf : Instant) (world : World γ σ) : Prop where
  supplied : Supplied plan asOf world.ambience.context (world.history plan surroundings asOf)
  behalf : ∀ exchange ∈ world.history plan surroundings asOf, exchange.Behalf world.ambience.context
  /-- Before success or failure is entered, and before the completion is told, that context is ambient. -/
  restored : ∀ (i : Nat) (later : World γ σ) (call : Call) (reply : call.Reply),
    (world.course plan surroundings asOf)[i]? = some later →
      (world.history plan surroundings asOf)[i]? = some ⟨call, reply⟩ → call.concludes = true →
        later.ambience.context = world.ambience.context
  /-- So it is in the end, by panic too, unless somebody is told of the completion. -/
  left : .done ∉ (world.history plan surroundings asOf).phases →
    (world.rebuild plan surroundings asOf).2.ambience.context = world.ambience.context
  untouched : ∀ (i : Nat) (later : World γ σ) (question : Outside) (answer : Answer question.Reply),
    (world.course plan surroundings asOf)[i]? = some later →
      (world.history plan surroundings asOf)[i]? = some ⟨.outside question, answer⟩ →
        ((surroundings.answer question later.ambience).exec (attempt plan surroundings 1) later).2 = later

theorem restores_of_free {world : World γ σ} (free : world.site.running = false) :
    ∃ front after, Restores plan asOf world.ambience.context (world.history plan surroundings asOf) front after := by
  have rebuilds := World.rebuilds plan surroundings asOf world
  obtain ⟨rest, captured⟩ : ∃ rest, world.history plan surroundings asOf = _ := captured_history free
  rcases rebuilds.restores with rejected | ⟨request, front, after, restores⟩
  · rw [captured] at rejected
    cases rejected
  · -- Both ways to open the history name what has been captured.
    obtain ⟨tail, same⟩ := restores.captures
    rw [captured] at same
    have parts : Run.entered request ++ tail = Run.entered world.ambience.context ++ rest := same
    have captures : Run.entered request = Run.entered world.ambience.context := (List.append_inj parts rfl).1
    unfold Run.entered at captures
    cases captures
    exact ⟨front, after, restores⟩

/-- Whatever the parties from outside make of the ambient context meanwhile, a rebuild works with the one of its
start, and puts it back before it tells how it has ended; a rebuild that is rejected does not touch it. -/
theorem context_isolated (plan : Plan) (surroundings : Surroundings σ) (asOf : Instant) (world : World γ σ) :
    (world.site.running = true →
      world.rebuild plan surroundings asOf = (.error (.failed .alreadyRunning), world)) ∧
    (world.site.running = false → Isolated plan surroundings asOf world) := by
  constructor
  · intro running
    exact attempt_of_running running 2 ⟨asOf⟩
  · intro free
    obtain ⟨front, after, restores⟩ :
        ∃ front after, Restores plan asOf world.ambience.context (world.history plan surroundings asOf) front after :=
      restores_of_free free
    have knows : world.Knows (some world.ambience.context) := by
      intro context same
      exact Option.some.inj same
    obtain ⟨final, between⟩ := knows_of_dialogue plan surroundings (Run.rebuild plan asOf).run knows
    refine ⟨restores.supplied, restores.behalf, ?_, ?_, fun i later question answer found next =>
      (attempts_refused found next).2⟩
    · intro i later call reply found next ends
      obtain ⟨bound, same⟩ := List.getElem?_eq_some_iff.1 next
      have split : world.history plan surroundings asOf = (world.history plan surroundings asOf).take i ++
          ⟨call, reply⟩ :: (world.history plan surroundings asOf).drop (i + 1) := by
        rw [← same, ← List.drop_eq_getElem_cons bound, List.take_append_drop]
      exact between i later found _ (restores.context? split ends _)
    · intro unsuccessful
      exact final _ (restores.context?_of_unsuccessful unsuccessful _)

end World

def Parties.meddling (parties : Parties) (context : RequestContext) : Surroundings Unit :=
  { parties.surroundings with
    answer := fun question ambience => .done (parties.answer question, { ambience with context }) }

namespace World

theorem context_isolated_trial :
    (Trial.world (Trial.refusing 2)).site.running = false ∧
    Isolated Trial.plan ((Trial.parties 0).meddling (RequestContext.empty.withCurrency "EUR")) .epoch
      (Trial.world (Trial.refusing 2)) ∧
    ((Trial.world (Trial.refusing 2)).rebuild Trial.plan
      ((Trial.parties 0).meddling (RequestContext.empty.withCurrency "EUR")) .epoch).2.ambience.context = .empty := by
  have isolated : Isolated Trial.plan ((Trial.parties 0).meddling (RequestContext.empty.withCurrency "EUR")) .epoch
      (Trial.world (Trial.refusing 2)) := (context_isolated _ _ _ _).2 rfl
  have phases : ((Trial.world (Trial.refusing 2)).history Trial.plan
      ((Trial.parties 0).meddling (RequestContext.empty.withCurrency "EUR")) .epoch).phases =
        [.preparing, .paging, .failed] := rfl
  refine ⟨rfl, isolated, isolated.left ?_⟩
  rw [phases]
  decide

end World
end CatalogIndex
