import CatalogIndex.Proofs.Endings
import CatalogIndex.Proofs.Serving
/-!
The requests of a rebuild in the order of the log. Whatever hinders a rebuild, its log follows one ideal trace,
and leaves it only by the rollback of a page that could not be written.
-/
namespace CatalogIndex

abbrev Logged := LoggedCall × Except SearchError Unit

def clearOperations : List Operation := [.delete allDocuments, .commit]

/-- The operations that a page takes: none when it has no items, else one addition and one commit. -/
def BuiltPage.operations (page : BuiltPage) : List Operation :=
  if page.items.isEmpty then [] else [.add page.documents, .commit]

structure IdealTrace where
  opening : List LoggedCall
  paging : List LoggedCall
  closing : List LoggedCall

def IdealTrace.calls (trace : IdealTrace) : List LoggedCall := trace.opening ++ (trace.paging ++ trace.closing)

/-- The trace of a rebuild over generations: the one to write is cleared, takes the pages in order and is
compacted, and then the formerly active one is cleared if there are two. -/
def Pair.idealTrace {γ : Type} (pair : Pair γ) (pages : List BuiltPage) : IdealTrace where
  opening := clearOperations.map (⟨pair.reindex.name, ·⟩)
  paging := (pages.flatMap BuiltPage.operations).map (⟨pair.reindex.name, ·⟩)
  closing := ⟨pair.reindex.name, .optimize⟩ ::
    if pair.isShared then [] else clearOperations.map (⟨pair.active.name, ·⟩)

def allGranted (calls : List LoggedCall) : List Logged := calls.map fun call => (call, .ok ())

inductive Keeps (trace : IdealTrace) : List Logged → Except Stop Report → Prop where
  | whole (report : Report) : Keeps trace (allGranted trace.calls) (.ok report)
  /-- Stopped by something other than a generation. -/
  | cut {calls : List LoggedCall} {stop : Stop} (begins : calls <+: trace.calls) :
      Keeps trace (allGranted calls) (.error stop)
  /-- Stopped by a generation outside of the pages. -/
  | fault {calls : List LoggedCall} {failing : LoggedCall} {error : SearchError} {stop : Stop}
      (begins : calls ++ [failing] <+: trace.calls)
      (apart : calls.length < trace.opening.length ∨ trace.opening.length + trace.paging.length ≤ calls.length) :
      Keeps trace (allGranted calls ++ [(failing, .error error)]) (.error stop)
  /-- Stopped by a generation within a page, which it is asked to roll back. -/
  | pageFault {calls : List LoggedCall} {failing : LoggedCall} {error : SearchError}
      {reply : Except SearchError Unit} {stop : Stop}
      (begins : calls ++ [failing] <+: trace.opening ++ trace.paging)
      (reached : trace.opening.length ≤ calls.length) :
      Keeps trace (allGranted calls ++ [(failing, .error error), (⟨failing.generation, .rollback⟩, reply)])
        (.error stop)

def replied (name : String) (requests : List Request) : List Logged :=
  requests.map fun request => (⟨name, request.1⟩, request.2)

section

variable {γ : Type} {pair : Pair γ} {name : String} {pages more : List BuiltPage} {first second : List Request}

@[simp] theorem replied_append : replied name (first ++ second) = replied name first ++ replied name second :=
  List.map_append

@[simp] theorem allGranted_append (before after : List LoggedCall) :
    allGranted (before ++ after) = allGranted before ++ allGranted after := List.map_append

theorem replied_clearing : replied name clearing = allGranted (clearOperations.map (⟨name, ·⟩)) := rfl

theorem replied_writing (whole : ∀ page ∈ pages, page.documents.length = page.items.length) :
    replied name (pages.flatMap BuiltPage.writing) =
      allGranted ((pages.flatMap BuiltPage.operations).map (⟨name, ·⟩)) := by
  induction pages with
  | nil => rfl
  | cons page rest ih =>
    have later := ih fun other member => whole other (List.mem_cons_of_mem _ member)
    have first : replied name page.writing = allGranted (page.operations.map (⟨name, ·⟩)) := by
      have same := whole page List.mem_cons_self
      obtain ⟨items, documents⟩ := page
      cases items <;> cases documents
      · rfl
      · cases same
      · cases same
      · rfl
    rw [List.flatMap_cons, List.flatMap_cons, replied_append, later, first, List.map_append, allGranted_append]

theorem idealTrace_paging_append :
    (pair.idealTrace (pages ++ more)).paging =
      (pair.idealTrace pages).paging ++ (more.flatMap BuiltPage.operations).map (⟨pair.reindex.name, ·⟩) := by
  simp [Pair.idealTrace]

theorem allGranted_calls (pair : Pair γ) (whole : ∀ page ∈ pages, page.documents.length = page.items.length) :
    replied pair.reindex.name (clearing ++ pages.flatMap BuiltPage.writing) =
      allGranted ((pair.idealTrace pages).opening ++ (pair.idealTrace pages).paging) := by
  rw [replied_append, replied_clearing, replied_writing whole, allGranted_append]
  rfl

theorem keeps_of_uncleared {error : SearchError} {requests : List Request} {stop : Stop}
    (broken : BrokenClear error requests) :
    Keeps (pair.idealTrace pages) (replied pair.reindex.name requests) (.error stop) := by
  cases broken with
  | delete =>
    have begins : [] ++ [⟨pair.reindex.name, .delete allDocuments⟩] <+: (pair.idealTrace pages).calls :=
      ⟨_, rfl⟩
    exact .fault begins (.inl Nat.zero_lt_two)
  | commit =>
    have begins : [⟨pair.reindex.name, .delete allDocuments⟩] ++ [⟨pair.reindex.name, .commit⟩] <+:
        (pair.idealTrace pages).calls := ⟨_, rfl⟩
    exact .fault begins (.inl Nat.one_lt_two)

theorem operations_of_nonempty {page : BuiltPage} (same : page.documents.length = page.items.length)
    (nonempty : page.documents ≠ []) : page.operations = [.add page.documents, .commit] := by
  obtain ⟨items, documents⟩ := page
  cases items with
  | nil => exact absurd (List.length_eq_zero_iff.1 same) nonempty
  | cons item items => rfl

theorem keeps_of_brokenWrite {page : BuiltPage} {error : SearchError} {requests : List Request} {stop : Stop}
    (operations : page.operations = [.add page.documents, .commit])
    (broken : BrokenWrite page.documents error requests) :
    Keeps (pair.idealTrace (pages ++ [page] ++ more))
      (allGranted ((pair.idealTrace pages).opening ++ (pair.idealTrace pages).paging) ++
        replied pair.reindex.name requests) (.error stop) := by
  -- In the trace the page comes right behind those before it, its addition first and then its commit.
  have paging : (pair.idealTrace (pages ++ [page] ++ more)).paging =
      (pair.idealTrace pages).paging ++ ([⟨pair.reindex.name, .add page.documents⟩] ++
        ([⟨pair.reindex.name, .commit⟩] ++ (more.flatMap BuiltPage.operations).map (⟨pair.reindex.name, ·⟩))) := by
    rw [List.append_assoc, idealTrace_paging_append]
    simp [operations]
  have opening : (pair.idealTrace (pages ++ [page] ++ more)).opening = (pair.idealTrace pages).opening := rfl
  cases broken with
  | add reply =>
    have begins : ((pair.idealTrace pages).opening ++ (pair.idealTrace pages).paging) ++
        [⟨pair.reindex.name, .add page.documents⟩] <+:
        (pair.idealTrace (pages ++ [page] ++ more)).opening ++
          (pair.idealTrace (pages ++ [page] ++ more)).paging := by
      rw [paging, opening, ← List.append_assoc, ← List.append_assoc]
      exact List.prefix_append _ _
    have reached : (pair.idealTrace (pages ++ [page] ++ more)).opening.length ≤
        ((pair.idealTrace pages).opening ++ (pair.idealTrace pages).paging).length := by
      rw [opening, List.length_append]
      exact Nat.le_add_right _ _
    exact .pageFault begins reached
  | commit reply =>
    have begins : ((pair.idealTrace pages).opening ++ (pair.idealTrace pages).paging ++
          [⟨pair.reindex.name, .add page.documents⟩]) ++ [⟨pair.reindex.name, .commit⟩] <+:
        (pair.idealTrace (pages ++ [page] ++ more)).opening ++
          (pair.idealTrace (pages ++ [page] ++ more)).paging := by
      rw [paging, opening]
      simp only [← List.append_assoc]
      exact List.prefix_append _ _
    have reached : (pair.idealTrace (pages ++ [page] ++ more)).opening.length ≤
        ((pair.idealTrace pages).opening ++ (pair.idealTrace pages).paging ++
          [LoggedCall.mk pair.reindex.name (.add page.documents)]).length := by
      rw [opening, List.length_append, List.length_append]
      omega
    have parts : allGranted ((pair.idealTrace pages).opening ++ (pair.idealTrace pages).paging) ++
        replied pair.reindex.name [granted (.add page.documents), refused .commit error, ⟨.rollback, reply⟩] =
        allGranted ((pair.idealTrace pages).opening ++ (pair.idealTrace pages).paging ++
          [⟨pair.reindex.name, .add page.documents⟩]) ++
        ([(⟨pair.reindex.name, .commit⟩, .error error), (⟨pair.reindex.name, .rollback⟩, reply)] : List Logged) := by
      simp [replied, allGranted, granted, refused]
    rw [parts]
    exact .pageFault begins reached

theorem keeps_of_interrupted {rest : List BuiltPage} {tail : List Request} {stop : Stop}
    (whole : ∀ page ∈ pages ++ rest, page.documents.length = page.items.length) (breaks : Breaks rest tail) :
    Keeps (pair.idealTrace (pages ++ rest ++ more))
      (replied pair.reindex.name (clearing ++ (pages.flatMap BuiltPage.writing ++ tail))) (.error stop) := by
  have written := allGranted_calls pair fun page member => whole page (List.mem_append_left _ member)
  rw [← List.append_assoc, replied_append, written]
  cases breaks with
  | nothing =>
    have begins : (pair.idealTrace pages).opening ++ (pair.idealTrace pages).paging <+:
        (pair.idealTrace (pages ++ [] ++ more)).calls := by
      unfold IdealTrace.calls
      rw [idealTrace_paging_append, List.append_nil, List.append_assoc, ← List.append_assoc]
      exact List.prefix_append _ _
    have alone : allGranted ((pair.idealTrace pages).opening ++ (pair.idealTrace pages).paging) ++
        replied pair.reindex.name [] = allGranted ((pair.idealTrace pages).opening ++ (pair.idealTrace pages).paging) :=
      List.append_nil _
    rw [alone]
    exact .cut begins
  | @page page error requests nonempty broken =>
    have same := whole page (List.mem_append_right _ (List.mem_singleton_self page))
    exact keeps_of_brokenWrite (operations_of_nonempty same nonempty) broken

def IdealTrace.filling (trace : IdealTrace) (name : String) : List LoggedCall :=
  trace.opening ++ trace.paging ++ [⟨name, .optimize⟩]

theorem calls_eq (pair : Pair γ) (pages : List BuiltPage) : (pair.idealTrace pages).calls =
    (pair.idealTrace pages).filling pair.reindex.name ++
      if pair.isShared then [] else clearOperations.map (⟨pair.active.name, ·⟩) := by
  simp [IdealTrace.calls, IdealTrace.filling, Pair.idealTrace]

theorem allGranted_filling (pair : Pair γ) (whole : ∀ page ∈ pages, page.documents.length = page.items.length) :
    replied pair.reindex.name (clearing ++ (pages.flatMap BuiltPage.writing ++ [granted .optimize])) =
      allGranted ((pair.idealTrace pages).filling pair.reindex.name) := by
  rw [← List.append_assoc, replied_append, allGranted_calls pair whole]
  have last : replied pair.reindex.name [granted .optimize] =
      allGranted [⟨pair.reindex.name, .optimize⟩] := rfl
  rw [last, ← allGranted_append]
  rfl

theorem keeps_of_unexchanged {reply : Except SearchError Unit} {stop : Stop}
    (whole : ∀ page ∈ pages, page.documents.length = page.items.length) :
    Keeps (pair.idealTrace pages)
      (replied pair.reindex.name (clearing ++ (pages.flatMap BuiltPage.writing ++ [⟨.optimize, reply⟩])))
      (.error stop) := by
  have begins : (pair.idealTrace pages).filling pair.reindex.name <+: (pair.idealTrace pages).calls := by
    rw [calls_eq]
    exact List.prefix_append _ _
  cases reply with
  | ok value =>
    have same := allGranted_filling pair whole
    unfold granted at same
    rw [same]
    exact .cut begins
  | error error =>
    rw [← List.append_assoc, replied_append, allGranted_calls pair whole]
    exact .fault begins (.inr (Nat.le_of_eq List.length_append.symm))

theorem keeps_of_cleans {made : List Request} {outcome : Except Stop Report}
    (whole : ∀ page ∈ pages, page.documents.length = page.items.length)
    (cleans : Cleans pair.isShared made outcome) :
    Keeps (pair.idealTrace pages)
      (replied pair.reindex.name (clearing ++ (pages.flatMap BuiltPage.writing ++ [granted .optimize])) ++
        replied pair.active.name made) outcome := by
  -- Where no request fails the trace has been gone through to its end, whatever the outcome is.
  have all {made : List Request} {outcome : Except Stop Report}
      (last : replied pair.active.name made =
        allGranted (if pair.isShared then [] else clearOperations.map (⟨pair.active.name, ·⟩))) :
      Keeps (pair.idealTrace pages) (allGranted ((pair.idealTrace pages).filling pair.reindex.name) ++
        replied pair.active.name made) outcome := by
    rw [last, ← allGranted_append, ← calls_eq]
    cases outcome with
    | ok report => exact .whole report
    | error stop => exact .cut (List.prefix_refl _)
  rw [allGranted_filling pair whole]
  cases cleans with
  | spared shared sound => exact all (by rw [shared]; rfl)
  | cleaned dual sound => exact all (by rw [dual]; rfl)
  | @uncleaned error requests dual broken =>
    have closing : (pair.idealTrace pages).calls = (pair.idealTrace pages).filling pair.reindex.name ++
        ([⟨pair.active.name, .delete allDocuments⟩] ++ [⟨pair.active.name, .commit⟩]) := by
      rw [calls_eq, dual]
      rfl
    have beyond : (pair.idealTrace pages).opening.length + (pair.idealTrace pages).paging.length ≤
        ((pair.idealTrace pages).filling pair.reindex.name).length := by
      simp [IdealTrace.filling]
    cases broken with
    | delete =>
      have begins : (pair.idealTrace pages).filling pair.reindex.name ++
          [⟨pair.active.name, .delete allDocuments⟩] <+: (pair.idealTrace pages).calls := by
        rw [closing, ← List.append_assoc]
        exact List.prefix_append _ _
      exact .fault begins (.inr beyond)
    | commit =>
      have begins : ((pair.idealTrace pages).filling pair.reindex.name ++
          [LoggedCall.mk pair.active.name (.delete allDocuments)]) ++ [⟨pair.active.name, .commit⟩] <+:
            (pair.idealTrace pages).calls := by
        refine ⟨[], ?_⟩
        rw [List.append_nil, closing, List.append_assoc]
      have beyond : (pair.idealTrace pages).opening.length + (pair.idealTrace pages).paging.length ≤
          ((pair.idealTrace pages).filling pair.reindex.name ++
            [LoggedCall.mk pair.active.name (.delete allDocuments)]).length := by
        rw [List.length_append]
        omega
      have parts : allGranted ((pair.idealTrace pages).filling pair.reindex.name) ++
          replied pair.active.name [granted (.delete allDocuments), refused .commit error] =
          allGranted ((pair.idealTrace pages).filling pair.reindex.name ++
            [LoggedCall.mk pair.active.name (.delete allDocuments)]) ++
          [(LoggedCall.mk pair.active.name .commit, .error error)] := by
        simp [replied, allGranted, granted, refused]
      rw [parts]
      exact .fault begins (.inr beyond)

end

theorem requests_of_replied (name : String) (requests : List Request) :
    (replied name requests).map (fun entry => (⟨entry.1.operation, entry.2⟩ : Request)) = requests := by
  rw [replied, List.map_map]
  exact List.map_id _

theorem calls_of_replied (name : String) (requests : List Request) :
    (replied name requests).map (·.1) = Pair.logged name requests := by
  simp [replied, Pair.logged]

/-- How the log of a pair has grown along a history: by the requests of the history, in their order and with their
outcomes, and as the trace has it of the pages built so far and of any others that may still have been planned. -/
structure LogKeeps {γ : Type} (plan : Plan) (history : History) (outcome : Except Stop Report)
    (before after : Pair γ) (logged : List Logged) : Prop where
  log : after.log = before.log ++ logged.map (·.1)
  requests : logged.map (fun entry => (⟨entry.1.operation, entry.2⟩ : Request)) = history.requests
  keeps : ∀ further : List BuiltPage,
    (∀ total, history.total? = some total →
      (history.built plan ++ further).length = Run.pagesPlanned plan total) →
    Keeps (before.idealTrace (history.built plan ++ further)) logged outcome

namespace Site

variable {γ : Type} [Engine γ] {site last : Site γ} {plan : Plan} {history : History}
  {outcome : Except Stop Report}

theorem Leads.logKeeps (leads : site.Leads history last) (account : Account plan history outcome) :
    ∃ logged, LogKeeps plan history outcome site.generations last.generations logged := by
  have whole : ∀ page ∈ history.built plan, page.documents.length = page.items.length :=
    fun page member => Journal.length_of_mem_built member
  have log (still : history.swapped = false) : last.generations.log = site.generations.log ++
      (replied site.generations.reindex.name history.requests).map (·.1) := by
    rw [calls_of_replied]
    exact (leads.served still).log
  have requests := requests_of_replied site.generations.reindex.name history.requests
  cases account with
  | rejected => exact ⟨_, log rfl, requests, fun further _ => .cut List.nil_prefix⟩
  | uncleared broken made unbuilt silent =>
    refine ⟨_, log (History.swapped_of_silent silent), requests, fun further _ => ?_⟩
    rw [made]
    exact keeps_of_uncleared broken
  | interrupted built made breaks silent within recorded =>
    refine ⟨_, log (History.swapped_of_silent silent), requests, fun further _ => ?_⟩
    rw [built] at whole ⊢
    rw [made]
    exact keeps_of_interrupted whole breaks
  | unexchanged filled refused =>
    have still := History.swapped_of_refused refused
    refine ⟨_, log still, requests, fun further planned => ?_⟩
    rw [filled.nothing_further planned, List.append_nil, filled.requests, filled.built]
    exact keeps_of_unexchanged (filled.built ▸ whole)
  | @exchanged before after pages isShared swapped outcome filled silent sure mode closing once unchecked cleans =>
    obtain ⟨middle, first, ok, second⟩ := leads.exchanged silent once
    obtain ⟨-, -, reindex, sameLog, -⟩ := Pair.swap_of_ok ok
    have built : History.built plan (before ++ ⟨.swap, .ok swapped⟩ :: after) = pages :=
      (History.built_swap closing).trans filled.built
    have dual : isShared = site.generations.isShared :=
      leads.isShared.2 isShared (List.mem_append_left _ mode)
    -- Behind the swap the requests go to the generation that was active before.
    have active : middle.swap.2.reindex.name = site.generations.active.name := by
      rw [reindex, first.name_active]
    refine ⟨replied site.generations.reindex.name before.requests ++
      replied site.generations.active.name after.requests, ?_, ?_, fun further planned => ?_⟩
    · rw [List.map_append, calls_of_replied, calls_of_replied, second.log, active, sameLog, first.log,
        List.append_assoc]
    · rw [List.map_append, requests_of_replied, requests_of_replied, History.requests_append,
        History.requests_cons]
      rfl
    · have none : further = [] := by
        refine filled.nothing_further fun total told => ?_
        rw [filled.built, ← built]
        refine planned total ?_
        rw [History.total?_append, told]
        rfl
      rw [built] at whole
      rw [none, List.append_nil, built, filled.requests]
      exact keeps_of_cleans whole (dual ▸ cleans)

end Site

namespace World

variable {γ σ : Type} [Engine γ]

/-- The log of a rebuild, whatever hinders it, keeps to the trace. Before a swap no request reaches the active
generation of two. -/
theorem log_keeps_to_trace (plan : Plan) (surroundings : Surroundings σ) (asOf : Instant) (world : World γ σ) :
    (∃ logged, LogKeeps plan (world.history plan surroundings asOf) (world.rebuild plan surroundings asOf).1
      world.site.generations (world.rebuild plan surroundings asOf).2.site.generations logged) ∧
    (∀ total, (world.history plan surroundings asOf).total? = some total →
      ((world.history plan surroundings asOf).built plan).length ≤ Run.pagesPlanned plan total) ∧
    (world.site.generations.isShared = false →
      ∀ (i : Nat) (later : World γ σ), (world.course plan surroundings asOf)[i]? = some later →
        History.swapped ((world.history plan surroundings asOf).take i) = false →
        later.site.generations.active = world.site.generations.active ∧
          later.site.generations.log = world.site.generations.log ++ Pair.logged
            world.site.generations.reindex.name (History.requests ((world.history plan surroundings asOf).take i))) := by
  have account := (World.rebuilds plan surroundings asOf world).account
  refine ⟨leads.logKeeps account, fun total told => account.length_built_le told, fun dual i later found still => ?_⟩
  have served := (leads_take found).served still
  exact ⟨served.active dual, served.log⟩

end World
end CatalogIndex
