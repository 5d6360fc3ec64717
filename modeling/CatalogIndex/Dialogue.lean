/-!
Computations that ask outside parties before they answer. A dialogue is the tree of its questions, one branch
for every reply, so statements about all behaviours of the outside are statements about paths of the tree.
`exec` runs a dialogue against a state, `states` lists what the state is between two questions, and
`transcript` records what was asked and replied.
-/
namespace CatalogIndex

/-- A computation that asks questions, each with replies of its own type, and then answers. -/
inductive Dialogue {Question : Type} (Reply : Question → Type) (α : Type) where
  | done (answer : α)
  | ask (question : Question) (next : Reply question → Dialogue Reply α)

namespace Dialogue

variable {Question : Type} {Reply : Question → Type} {α β σ : Type}

def bind : Dialogue Reply α → (α → Dialogue Reply β) → Dialogue Reply β
  | done answer, next => next answer
  | ask question rest, next => ask question fun reply => (rest reply).bind next

instance : Monad (Dialogue Reply) where
  pure := done
  bind := bind

def question (question : Question) : Dialogue Reply (Reply question) := ask question done

theorem bind_done (dialogue : Dialogue Reply α) : dialogue.bind done = dialogue := by
  induction dialogue with
  | done answer => rfl
  | ask question next ih => simp [bind, ih]

theorem bind_assoc {γ : Type} (dialogue : Dialogue Reply α) (middle : α → Dialogue Reply β)
    (last : β → Dialogue Reply γ) :
    (dialogue.bind middle).bind last = dialogue.bind fun answer => (middle answer).bind last := by
  induction dialogue with
  | done answer => rfl
  | ask question next ih => simp [bind, ih]

instance : LawfulMonad (Dialogue Reply) :=
  LawfulMonad.mk' _ (fun dialogue => bind_done dialogue) (fun _ _ => rfl)
    (fun dialogue middle last => bind_assoc dialogue middle last)

def answer (reply : (question : Question) → Reply question) : Dialogue Reply α → α
  | done answer => answer
  | ask question next => (next (reply question)).answer reply

def runIn {m : Type → Type} [Monad m] (reply : (question : Question) → m (Reply question)) :
    Dialogue Reply α → m α
  | done answer => pure answer
  | ask question next => do (next (← reply question)).runIn reply

abbrev Responder {Question : Type} (Reply : Question → Type) (σ : Type) :=
  (question : Question) → σ → Reply question × σ

def exec (respond : Responder Reply σ) : Dialogue Reply α → σ → α × σ
  | done answer, state => (answer, state)
  | ask question next, state =>
    let (reply, state) := respond question state
    (next reply).exec respond state

/-- The states between two questions, before the first and after the last included. -/
def states (respond : Responder Reply σ) : Dialogue Reply α → σ → List σ
  | done _, state => [state]
  | ask question next, state =>
    let (reply, after) := respond question state
    state :: (next reply).states respond after

def transcript (respond : Responder Reply σ) : Dialogue Reply α → σ → List ((question : Question) × Reply question)
  | done _, _ => []
  | ask question next, state =>
    let (reply, after) := respond question state
    ⟨question, reply⟩ :: (next reply).transcript respond after

/-- The exchanges along a path from the root of a dialogue to one of its answers. -/
inductive Path : Dialogue Reply α → List ((question : Question) × Reply question) → α → Prop where
  | done (answer : α) : Path (done answer) [] answer
  | ask {question : Question} {next : Reply question → Dialogue Reply α} {reply : Reply question}
      {rest : List ((question : Question) × Reply question)} {answer : α} (path : Path (next reply) rest answer) :
      Path (ask question next) (⟨question, reply⟩ :: rest) answer

theorem exec_bind (respond : Responder Reply σ) (dialogue : Dialogue Reply α)
    (next : α → Dialogue Reply β) (state : σ) :
    (dialogue.bind next).exec respond state =
      (next (dialogue.exec respond state).1).exec respond (dialogue.exec respond state).2 := by
  induction dialogue generalizing state with
  | done answer => rfl
  | ask question rest ih => exact ih _ _

theorem answer_bind (reply : (question : Question) → Reply question) (dialogue : Dialogue Reply α)
    (next : α → Dialogue Reply β) :
    (dialogue.bind next).answer reply = (next (dialogue.answer reply)).answer reply := by
  induction dialogue with
  | done answer => rfl
  | ask question rest ih => exact ih _

theorem path_transcript (respond : Responder Reply σ) (dialogue : Dialogue Reply α) (state : σ) :
    Path dialogue (dialogue.transcript respond state) (dialogue.exec respond state).1 := by
  induction dialogue generalizing state with
  | done answer => exact .done answer
  | ask question rest ih => exact .ask (ih _ _)

end Dialogue
end CatalogIndex
