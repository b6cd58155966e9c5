
-- Programs that ask questions of the world around them.
-- A program is done with a result, or asks a question and goes on with each possible answer. What the answers
-- are is not part of it: `Program.run` gives a program to anything that answers, in any monad.
namespace Entitlement

structure Inquiry where
  Question : Type
  Answer : Question → Type

inductive Program (inquiry : Inquiry) (α : Type) where
  | done (result : α)
  | ask (question : inquiry.Question) (resume : inquiry.Answer question → Program inquiry α)

namespace Program

variable {inquiry : Inquiry} {α β : Type}

def bind (p : Program inquiry α) (next : α → Program inquiry β) : Program inquiry β :=
  match p with
  | done result => next result
  | ask question resume => ask question fun answer => (resume answer).bind next

instance : Monad (Program inquiry) where
  pure := done
  bind := bind

def question (q : inquiry.Question) : Program inquiry (inquiry.Answer q) := ask q done

def run {m : Type → Type} [Monad m] (answer : (q : inquiry.Question) → m (inquiry.Answer q)) :
    Program inquiry α → m α
  | done result => pure result
  | ask question resume => do
    let reply ← answer question
    run answer (resume reply)

def attempt {m : Type → Type} [Monad m] (answer : (q : inquiry.Question) → m (inquiry.Answer q))
    (p : ExceptT ε (Program inquiry) α) : m (Except ε α) := run answer (ExceptT.run p)

end Program

def outcome {m : Type → Type} [Monad m] {ε α : Type} (action : ExceptT ε m α) : ExceptT ε m (Except ε α) :=
  ExceptT.mk (do
    let result ← action.run
    pure (.ok result))

end Entitlement
