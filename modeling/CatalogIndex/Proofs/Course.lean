import CatalogIndex.Rebuild.Run
/-!
What a part of a rebuild can go through. A history lists calls with their replies, and a part goes through a
history to an outcome when the history follows a path of its dialogue. Each way of putting parts together has
one law that tells its histories from those of the parts.
-/
namespace CatalogIndex

abbrev Exchange := (call : Call) × call.Reply

abbrev History := List Exchange

abbrev Request := (operation : Operation) × operation.Reply

abbrev Consulted := (question : HandlerQuestion) × question.Reply

namespace Dialogue

variable {Question : Type} {Reply : Question → Type} {α β : Type}

theorem path_done {answer result : α} {exchanges : List ((question : Question) × Reply question)} :
    Path (done answer : Dialogue Reply α) exchanges result ↔ exchanges = [] ∧ result = answer := by
  constructor
  · intro path
    cases path
    exact ⟨rfl, rfl⟩
  · rintro ⟨rfl, rfl⟩
    exact .done _

theorem path_ask {question : Question} {next : Reply question → Dialogue Reply α} {result : α}
    {exchanges : List ((question : Question) × Reply question)} :
    Path (ask question next) exchanges result ↔
      ∃ reply rest, exchanges = ⟨question, reply⟩ :: rest ∧ Path (next reply) rest result := by
  constructor
  · intro path
    cases path with
    | ask later => exact ⟨_, _, rfl, later⟩
  · rintro ⟨reply, rest, rfl, later⟩
    exact .ask later

theorem path_bind {dialogue : Dialogue Reply α} {next : α → Dialogue Reply β} {result : β}
    {exchanges : List ((question : Question) × Reply question)} :
    Path (dialogue.bind next) exchanges result ↔
      ∃ middle before after, Path dialogue before middle ∧ Path (next middle) after result ∧
        exchanges = before ++ after := by
  induction dialogue generalizing exchanges with
  | done answer =>
    constructor
    · intro path
      exact ⟨answer, [], exchanges, .done _, path, rfl⟩
    · rintro ⟨middle, before, after, first, second, rfl⟩
      obtain ⟨rfl, rfl⟩ := path_done.1 first
      exact second
  | ask question rest ih =>
    constructor
    · intro path
      obtain ⟨reply, later, rfl, remaining⟩ := path_ask.1 path
      obtain ⟨middle, before, after, first, second, rfl⟩ := (ih reply).1 remaining
      exact ⟨middle, _, after, .ask first, second, rfl⟩
    · rintro ⟨middle, before, after, first, second, rfl⟩
      obtain ⟨reply, later, rfl, remaining⟩ := path_ask.1 first
      exact .ask ((ih reply).2 ⟨middle, later, after, remaining, second, rfl⟩)

/-- Exchanges that lead into a dialogue but not to an answer of it. -/
inductive Unanswered : Dialogue Reply α → List ((question : Question) × Reply question) → Prop where
  | here (question : Question) (next : Reply question → Dialogue Reply α) : Unanswered (ask question next) []
  | later {question : Question} {next : Reply question → Dialogue Reply α} {reply : Reply question}
      {rest : List ((question : Question) × Reply question)} (unanswered : Unanswered (next reply) rest) :
      Unanswered (ask question next) (⟨question, reply⟩ :: rest)

end Dialogue

def Answer.outcome {α : Type} : Answer α → Except Stop α
  | .returned value => .ok value
  | .panicked text => .error (.panicked text)

namespace Run

variable {α β ε : Type} {history : History}

/-- Whether a part can go through a history to an outcome. -/
def Goes (part : Run α) (history : History) (outcome : Except Stop α) : Prop :=
  Dialogue.Path part.run history outcome

theorem goes_pure {value : α} {outcome : Except Stop α} :
    Goes (pure value) history outcome ↔ history = [] ∧ outcome = .ok value :=
  Dialogue.path_done

theorem goes_throw {stop : Stop} {outcome : Except Stop α} :
    Goes (throw stop) history outcome ↔ history = [] ∧ outcome = .error stop :=
  Dialogue.path_done

theorem goes_bind {part : Run α} {next : α → Run β} {outcome : Except Stop β} :
    Goes (part >>= next) history outcome ↔
      (∃ stop, Goes part history (.error stop) ∧ outcome = .error stop) ∨
      ∃ value before after, Goes part before (.ok value) ∧ Goes (next value) after outcome ∧
        history = before ++ after := by
  refine Dialogue.path_bind.trans ?_
  constructor
  · rintro ⟨middle, before, after, first, second, rfl⟩
    cases middle with
    | ok value => exact .inr ⟨value, before, after, first, second, rfl⟩
    | error stop =>
      obtain ⟨rfl, rfl⟩ := Dialogue.path_done.1 second
      rw [List.append_nil]
      exact .inl ⟨stop, first, rfl⟩
  · rintro (⟨stop, first, rfl⟩ | ⟨value, before, after, first, second, rfl⟩)
    · exact ⟨.error stop, history, [], first, .done _, by simp⟩
    · exact ⟨.ok value, before, after, first, second, rfl⟩

theorem goes_lift {dialogue : Dialogue Call.Reply α} {outcome : Except Stop α} :
    Goes (ExceptT.lift dialogue) history outcome ↔
      ∃ value, Dialogue.Path dialogue history value ∧ outcome = .ok value := by
  refine Dialogue.path_bind.trans ?_
  constructor
  · rintro ⟨value, before, after, first, second, rfl⟩
    obtain ⟨rfl, rfl⟩ := Dialogue.path_done.1 second
    exact ⟨value, by simpa using first, rfl⟩
  · rintro ⟨value, first, rfl⟩
    exact ⟨value, history, [], first, .done _, by simp⟩

theorem goes_ask {call : Call} {outcome : Except Stop call.Reply} :
    Goes (ask call) history outcome ↔ ∃ reply, history = [⟨call, reply⟩] ∧ outcome = .ok reply := by
  refine goes_lift.trans ?_
  constructor
  · rintro ⟨reply, path, rfl⟩
    obtain ⟨reply, rest, rfl, last⟩ := Dialogue.path_ask.1 path
    obtain ⟨rfl, rfl⟩ := Dialogue.path_done.1 last
    exact ⟨_, rfl, rfl⟩
  · rintro ⟨reply, rfl, rfl⟩
    exact ⟨reply, .ask (.done _), rfl⟩

theorem goes_settle {part : Run α} {outcome : Except Stop (Except Stop α)} :
    Goes (settle part) history outcome ↔ ∃ result, Goes part history result ∧ outcome = .ok result :=
  goes_lift

theorem goes_ask_bind {call : Call} {next : call.Reply → Run β} {outcome : Except Stop β} :
    Goes (ask call >>= next) history outcome ↔
      ∃ reply rest, history = ⟨call, reply⟩ :: rest ∧ Goes (next reply) rest outcome := by
  rw [goes_bind]
  constructor
  · rintro (⟨stop, first, rfl⟩ | ⟨reply, before, after, first, second, rfl⟩)
    · obtain ⟨reply, -, impossible⟩ := goes_ask.1 first
      cases impossible
    · obtain ⟨reply, rfl, same⟩ := goes_ask.1 first
      cases same
      exact ⟨reply, after, rfl, second⟩
  · rintro ⟨reply, rest, rfl, second⟩
    exact .inr ⟨reply, _, rest, goes_ask.2 ⟨reply, rfl, rfl⟩, second, rfl⟩

theorem goes_settle_bind {part : Run α} {next : Except Stop α → Run β} {outcome : Except Stop β} :
    Goes (settle part >>= next) history outcome ↔
      ∃ result before after, Goes part before result ∧ Goes (next result) after outcome ∧
        history = before ++ after := by
  rw [goes_bind]
  constructor
  · rintro (⟨stop, first, rfl⟩ | ⟨result, before, after, first, second, rfl⟩)
    · obtain ⟨result, -, impossible⟩ := goes_settle.1 first
      cases impossible
    · obtain ⟨other, first, same⟩ := goes_settle.1 first
      cases same
      exact ⟨result, before, after, first, second, rfl⟩
  · rintro ⟨result, before, after, first, second, rfl⟩
    exact .inr ⟨result, before, after, goes_settle.2 ⟨result, first, rfl⟩, second, rfl⟩

theorem goes_resume {result outcome : Except Stop α} :
    Goes (resume result) history outcome ↔ history = [] ∧ outcome = result := by
  cases result with
  | ok value => exact goes_pure
  | error stop => exact goes_throw

theorem goes_expect {wrap : ε → RebuildError} {result : Except ε α} {outcome : Except Stop α} :
    Goes (expect wrap result) history outcome ↔
      history = [] ∧ outcome = result.mapError fun error => .failed (wrap error) := by
  cases result with
  | ok value => exact goes_pure
  | error error => exact goes_throw

theorem goes_outside {question : Outside} {outcome : Except Stop question.Reply} :
    Goes (outside question) history outcome ↔
      ∃ answer, history = [⟨.outside question, answer⟩] ∧ outcome = answer.outcome := by
  refine goes_bind.trans ?_
  constructor
  · rintro (⟨stop, first, rfl⟩ | ⟨answer, before, after, first, second, rfl⟩)
    · obtain ⟨reply, -, impossible⟩ := goes_ask.1 first
      cases impossible
    · obtain ⟨reply, rfl, same⟩ := goes_ask.1 first
      cases same
      refine ⟨answer, ?_⟩
      cases answer with
      | returned value =>
        obtain ⟨rfl, rfl⟩ := goes_pure.1 second
        exact ⟨rfl, rfl⟩
      | panicked text =>
        obtain ⟨rfl, rfl⟩ := goes_throw.1 second
        exact ⟨rfl, rfl⟩
  · rintro ⟨answer, rfl, rfl⟩
    refine .inr ⟨answer, _, [], goes_ask.2 ⟨answer, rfl, rfl⟩, ?_, rfl⟩
    cases answer with
    | returned value => exact goes_pure.2 ⟨rfl, rfl⟩
    | panicked text => exact goes_throw.2 ⟨rfl, rfl⟩

theorem goes_outside_ok {question : Outside} {reply : question.Reply} :
    Goes (outside question) history (.ok reply) ↔ history = [⟨.outside question, .returned reply⟩] := by
  rw [goes_outside]
  constructor
  · rintro ⟨answer, rfl, same⟩
    cases answer <;> cases same
    rfl
  · rintro rfl
    exact ⟨.returned reply, rfl, rfl⟩

theorem goes_outside_error {question : Outside} {stop : Stop} :
    Goes (outside question) history (.error stop) ↔
      ∃ text, stop = .panicked text ∧ history = [⟨.outside question, .panicked text⟩] := by
  rw [goes_outside]
  constructor
  · rintro ⟨answer, rfl, same⟩
    cases answer <;> cases same
    exact ⟨_, rfl, rfl⟩
  · rintro ⟨text, rfl, rfl⟩
    exact ⟨.panicked text, rfl, rfl⟩

theorem goes_expected {part : Run (Except ε α)} {wrap : ε → RebuildError} {next : α → Run β}
    {outcome : Except Stop β} (goes : Goes (part >>= fun result => expect wrap result >>= next) history outcome) :
    (∃ stop, Goes part history (.error stop) ∧ outcome = .error stop) ∨
    (∃ error, Goes part history (.ok (.error error)) ∧ outcome = .error (.failed (wrap error))) ∨
    ∃ value before after, Goes part before (.ok (.ok value)) ∧ Goes (next value) after outcome ∧
      history = before ++ after := by
  rcases goes_bind.1 goes with stopped | ⟨result, before, after, first, second, rfl⟩
  · exact .inl stopped
  · right
    cases result with
    | ok value => exact .inr ⟨value, before, after, first, second, rfl⟩
    | error error =>
      obtain ⟨rfl, rfl⟩ := goes_throw.1 second
      rw [List.append_nil]
      exact .inl ⟨error, first, rfl⟩

end Run
end CatalogIndex
