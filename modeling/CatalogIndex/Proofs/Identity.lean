import CatalogIndex.Index.Builder
import CatalogIndex.Proofs.Course
/-!
The ids of built documents. A document gets its id first and everything later only appends, so the id stays
whatever handlers, categories and descriptors contribute. Items of different ids have documents of different ids.
-/
namespace CatalogIndex

namespace Dialogue

variable {Question : Type} {Reply : Question → Type} {α β : Type}

def Ends (property : α → Prop) (dialogue : Dialogue Reply α) : Prop :=
  ∀ exchanges answer, Path dialogue exchanges answer → property answer

theorem ends_done {property : α → Prop} {answer : α} (holds : property answer) :
    Ends property (done answer : Dialogue Reply α) := by
  intro exchanges other path
  rw [(path_done.1 path).2]
  exact holds

theorem ends_ask {property : α → Prop} {question : Question} {next : Reply question → Dialogue Reply α}
    (later : ∀ reply, Ends property (next reply)) : Ends property (ask question next) := by
  intro exchanges answer path
  obtain ⟨reply, rest, -, path⟩ := path_ask.1 path
  exact later reply rest answer path

theorem ends_bind {first : α → Prop} {second : β → Prop} {dialogue : Dialogue Reply α}
    {next : α → Dialogue Reply β} (ends : Ends first dialogue)
    (later : ∀ answer, first answer → Ends second (next answer)) : Ends second (dialogue.bind next) := by
  intro exchanges answer path
  obtain ⟨middle, before, after, begins, goesOn, -⟩ := path_bind.1 path
  exact later middle (ends before middle begins) after answer goesOn

theorem ends_true (dialogue : Dialogue Reply α) : Ends (fun _ => True) dialogue := fun _ _ _ => trivial

end Dialogue

namespace Document

variable {document : Document} {name : String} {value : Value}

abbrev Starts (name : String) (value : Value) (document : Document) : Prop := document.first? name = some value

theorem starts_addValues (starts : Starts name value document) (other : String) (values : List Value) :
    Starts name value (document.addValues other values) := by
  unfold Starts first? at starts ⊢
  rw [values_addValues]
  split
  · rw [List.head?_append, starts]
    rfl
  · exact starts

theorem starts_addAll (starts : Starts name value document) (additions : List (String × List Value)) :
    Starts name value (document.addAll additions) := by
  induction additions generalizing document with
  | nil => exact starts
  | cons addition rest ih => exact ih (starts_addValues starts addition.1 addition.2)

end Document

namespace Builder

open Document (Starts)

variable {builder : Builder} {name : String} {value : Value}

theorem starts_addSearchable {draft : Draft} (starts : Starts name value draft.document) (descriptor : Descriptor)
    (fieldType : FieldType) (values : PropertyValues) :
    Starts name value (draft.addSearchable descriptor fieldType values).document := by
  unfold Draft.addSearchable
  generalize values.entries = entries
  induction entries generalizing draft with
  | nil => exact starts
  | cons entry rest ih => exact ih (Document.starts_addValues starts _ _)

theorem starts_addFacet {draft : Draft} (starts : Starts name value draft.document) (descriptor : Descriptor)
    (fieldType : FieldType) (values : PropertyValues) :
    Starts name value (draft.addFacet descriptor fieldType values).document := by
  unfold Draft.addFacet
  generalize values.entries = entries
  induction entries generalizing draft with
  | nil => exact starts
  | cons entry rest ih =>
    rw [List.foldl_cons]
    refine ih ?_
    dsimp only
    split
    · exact starts
    · exact Document.starts_addValues starts _ _

theorem ends_attachTypes {resolution : FieldType → Resolution} {descriptor : Descriptor} {types : List FieldType}
    {draft : Draft} (starts : Starts name value draft.document) :
    (attachTypes builder resolution descriptor types draft).Ends fun result => Starts name value result.2.document := by
  induction types generalizing draft with
  | nil => exact Dialogue.ends_done starts
  | cons fieldType rest ih =>
    refine Dialogue.ends_bind (Dialogue.ends_true _) fun reply _ => ?_
    cases reply with
    | ok values => exact ih (starts_addSearchable starts descriptor fieldType values)
    | error error => exact Dialogue.ends_done starts

theorem ends_attachDescriptor {item : Item} {locales : List Locale} {request : RequestContext}
    {descriptor : Descriptor} {draft : Draft} (starts : Starts name value draft.document) :
    (attachDescriptor builder item locales request descriptor draft).Ends fun draft =>
      Starts name value draft.document := by
  refine Dialogue.ends_bind (ends_attachTypes starts) fun result starts => ?_
  obtain ⟨complete, draft⟩ := result
  dsimp only at starts ⊢
  split
  · refine Dialogue.ends_bind (Dialogue.ends_true _) fun reply _ => ?_
    cases reply with
    | ok values => exact Dialogue.ends_done (starts_addFacet starts _ _ values)
    | error error => exact Dialogue.ends_done starts
  · exact Dialogue.ends_done starts

theorem ends_attachDescriptors {item : Item} {locales : List Locale} {request : RequestContext}
    {descriptors : List Descriptor} {draft : Draft} (starts : Starts name value draft.document) :
    (attachDescriptors builder item locales request descriptors draft).Ends fun draft =>
      Starts name value draft.document := by
  induction descriptors generalizing draft with
  | nil => exact Dialogue.ends_done starts
  | cons descriptor rest ih =>
    exact Dialogue.ends_bind (ends_attachDescriptor starts) fun draft starts => ih starts

end Builder

theorem Chain.ends_attach {chain : Chain} {item : Item} {document : Document} {name : String} {value : Value}
    (starts : Document.Starts name value document) :
    (chain.attach item document).Ends fun result => Document.Starts name value result.1 := by
  induction chain generalizing document with
  | nil => exact Dialogue.ends_done starts
  | cons handler rest ih =>
    cases handler with
    | translation => exact ih starts
    | outside handler key =>
      refine Dialogue.ends_ask fun attachment => ?_
      have longer := Document.starts_addAll starts (Attachment.additions attachment)
      dsimp only
      split
      · exact ih longer
      · exact Dialogue.ends_done longer

namespace Builder

open Document (Starts)

variable {builder : Builder} {item : Item}

theorem starts_identity : Starts Document.idField (.text (Naming.documentId builder.nameSpace item.id))
    (builder.identity item) := by
  refine Document.starts_addValues ?_ _ _
  unfold Starts Document.first? Document.addField
  rw [Document.values_addValues, if_pos rfl, Document.values_addValues, if_neg (by decide)]
  rfl

/-- Whatever an item is built from, its document starts with what its identity starts with. -/
theorem ends_build_of_starts {descriptors : List Descriptor} {locales : List Locale} {request : RequestContext}
    {name : String} {value : Value} (starts : Starts name value (builder.identity item)) :
    (builder.build item descriptors locales request).Ends fun result =>
      ∀ document, result = .ok document → Starts name value document := by
  refine Dialogue.ends_bind (Chain.ends_attach starts) fun result starts => ?_
  obtain ⟨document, outcome⟩ := result
  cases outcome with
  | error error => exact Dialogue.ends_done nofun
  | ok taken =>
    refine Dialogue.ends_bind (ends_attachDescriptors (Document.starts_addAll starts _)) fun draft starts => ?_
    refine Dialogue.ends_done fun document same => ?_
    cases same
    exact starts

theorem ends_build {descriptors : List Descriptor} {locales : List Locale} {request : RequestContext} :
    (builder.build item descriptors locales request).Ends fun result =>
      ∀ document, result = .ok document → document.id? = some (Naming.documentId builder.nameSpace item.id) := by
  intro exchanges result path document same
  have starts : Starts Document.idField (.text (Naming.documentId builder.nameSpace item.id)) document :=
    ends_build_of_starts starts_identity exchanges result path document same
  unfold Document.id?
  rw [starts]
  rfl

end Builder

namespace Numeral

theorem ofInt_injective {left right : Int} (same : ofInt left = ofInt right) : left = right := by
  have same : signed left = signed right := String.ofList_injective same
  have unsigned (n : Nat) (rest : List Char) : digits n ≠ '-' :: rest := by
    intro isMinus
    have digit := all_isDigit_digits n
    rw [isMinus] at digit
    cases digit
  unfold signed at same
  split at same <;> split at same
  · have := digits_injective (List.cons.inj same).2
    omega
  · exact absurd same.symm (unsigned _ _)
  · exact absurd same (unsigned _ _)
  · have := digits_injective same
    omega

theorem of_mem_signed {n : Int} {c : Char} (member : c ∈ signed n) : c = '-' ∨ isDigit c = true := by
  unfold signed at member
  split at member
  · exact (List.mem_cons.1 member).imp_right (List.all_eq_true.1 (all_isDigit_digits _) c)
  · exact .inr (List.all_eq_true.1 (all_isDigit_digits _) c member)

end Numeral

theorem Cut.append_mark_inj {mark : Char} {left right leftBack rightBack : List Char} (leftFree : mark ∉ leftBack)
    (rightFree : mark ∉ rightBack) (same : left ++ mark :: leftBack = right ++ mark :: rightBack) :
    left = right ∧ leftBack = rightBack := by
  have whole {front back other : List Char} (free : mark ∉ back) (parts : mark :: back = front ++ mark :: other) :
      front = [] ∧ back = other := by
    cases front with
    | nil => exact ⟨rfl, (List.cons.inj parts).2⟩
    | cons first rest =>
      have later : back = rest ++ mark :: other := (List.cons.inj parts).2
      rw [later] at free
      exact absurd (List.mem_append_right _ List.mem_cons_self) free
  rcases List.append_eq_append_iff.1 same with ⟨middle, rfl, parts⟩ | ⟨middle, rfl, parts⟩
  · obtain ⟨rfl, back⟩ := whole leftFree parts
    exact ⟨(List.append_nil _).symm, back⟩
  · obtain ⟨rfl, back⟩ := whole rightFree parts
    exact ⟨List.append_nil _, back.symm⟩

/-- An id tells its namespace, whatever this looks like. -/
theorem Naming.nameSpace_of_documentId {left right : String} {leftId rightId : Int64}
    (same : documentId left leftId = documentId right rightId) : left = right := by
  have free (id : Int64) : '_' ∉ Numeral.signed id.toInt := by
    intro member
    rcases Numeral.of_mem_signed member with minus | digit
    · cases minus
    · cases digit
  have chars : left.toList ++ '_' :: Numeral.signed leftId.toInt = right.toList ++ '_' :: Numeral.signed rightId.toInt := by
    have lists := congrArg String.toList same
    unfold documentId Numeral.ofInt at lists
    simpa using lists
  exact String.toList_inj.1 (Cut.append_mark_inj (free _) (free _) chars).1

theorem Naming.documentId_injective {nameSpace : String} {left right : Int64}
    (same : documentId nameSpace left = documentId nameSpace right) : left = right := by
  unfold documentId at same
  exact Int64.toInt_inj.1 (Numeral.ofInt_injective ((String.append_right_inj _).1 same))

end CatalogIndex
