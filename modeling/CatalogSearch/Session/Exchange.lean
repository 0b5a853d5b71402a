import CatalogSearch.Executor.Basic
import CatalogSearch.Session.Basic

/-! # Sessions and their executor

A session together with the fetches that it has issued. What happens to it is a list of events, calls and
answers, in any order: a fetch is answered at most once, and an answer to a fetch that was never issued is
ignored.
-/

namespace CatalogSearch

/-- A session, the fetches that it issued in order, and the numbers of those without an answer. -/
structure Exchange (α : Type) where
  session : Session α
  issued : List Fetch := []
  waiting : List Nat := []
  deriving Repr

/-- Something that happens to a session: a call, or the answer to the fetch of some number. -/
inductive Event (α : Type) where
  | call (call : Call)
  | answer (number : Nat) (answer : Answer α)
  deriving Repr

namespace Exchange

variable {α : Type}

def call (exchange : Exchange α) (call : Call) : Exchange α × Outcome :=
  let (session, outcome) := exchange.session.call call
  match outcome with
  | .waiting fetch =>
    ({ session
       issued := exchange.issued ++ [fetch]
       waiting := exchange.waiting ++ [exchange.issued.length] }, outcome)
  | _ => ({ exchange with session }, outcome)

/-- The fetch of some number, if it waits for an answer. -/
def waitingFetch? (exchange : Exchange α) (number : Nat) : Option Fetch :=
  if exchange.waiting.contains number then exchange.issued[number]? else none

def answer (exchange : Exchange α) (number : Nat) (answer : Answer α) : Exchange α :=
  match exchange.waitingFetch? number with
  | some fetch =>
    { exchange with
      session := exchange.session.receive fetch answer
      waiting := exchange.waiting.erase number }
  | none => exchange

/-- What an event leads to. -/
def step (exchange : Exchange α) : Event α → Exchange α
  | .call call => (exchange.call call).1
  | .answer number answer => exchange.answer number answer

def run (exchange : Exchange α) (events : List (Event α)) : Exchange α :=
  events.foldl step exchange

def start (settings : SessionSettings) : Exchange α where
  session := .start settings

end Exchange

/-- The answer of an executor to a fetch, unless the conditions fail on a row. -/
def Fetch.answerFrom (fetch : Fetch) (collections : Collections) (name : String) :
    Except Number.IntegerError (Answer Table) :=
  match fetch.query.run collections name with
  | .ok rows => .ok (.rows rows)
  | .error (.refused error) => .ok (.failed error.message)
  | .error (.number error) => .error error

namespace Session

/-- Carry out a call over collections that answer at once. -/
def callOver (session : Session Table) (collections : Collections) (call : Call) :
    Except CallError (Session Table) :=
  match session.call call with
  | (session, .done) => .ok session
  | (session, .waiting fetch) =>
    match fetch.answerFrom collections session.settings.collection with
    | .ok answer => .ok (session.receive fetch answer)
    | .error error => .error (.number error)
  | (_, .raised error) => .error error

end Session

end CatalogSearch
