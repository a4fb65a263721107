import GitLogin.PromptThread

/-!
How jobs reach the prompt thread: through a queue that holds one of them, each with a ticket
under which its result comes back. Threads take their steps in any order.
-/

namespace GitLogin

abbrev Ticket := Nat

/-- What a thread is at. A job that runs may have others under it that wait for its result in
place. -/
inductive Activity (α : Type)
  | receiving
  | running (job : Job α) (under : List (Result α → Job α))
  | sending (ticket : Ticket) (job : Job α) (next : Result α → Job α)
      (under : List (Result α → Job α))
  | waiting (ticket : Ticket) (next : Result α → Job α) (under : List (Result α → Job α))
  | finished (result : Result α)

/-- `accepted` and `started` list tickets in the order in which the queue and the prompt thread
took them. -/
structure Dispatch (α : Type) where
  activity : Thread → Activity α
  queue : Option (Ticket × Job α) := none
  serving : Option Ticket := none
  replies : List (Ticket × Result α) := []
  nextTicket : Ticket := 0
  accepted : List Ticket := []
  started : List Ticket := []

namespace Dispatch

variable {α : Type}

def moveTo (d : Dispatch α) (t : Thread) (a : Activity α) : Dispatch α :=
  { d with activity := fun u => if u = t then a else d.activity u }

def start (jobs : Nat → Job α) : Dispatch α where
  activity
    | .prompt => .receiving
    | .caller i => .running (jobs i) []

def finish (d : Dispatch α) (t : Thread) (r : Result α) : Dispatch α :=
  match t with
  | .caller _ => d.moveTo t (.finished r)
  | .prompt =>
    { d.moveTo t .receiving with
      serving := none
      replies := (d.serving.map fun n => (n, r)).toList ++ d.replies }

def yieldResult (d : Dispatch α) (t : Thread) (r : Result α) :
    List (Result α → Job α) → Dispatch α
  | [] => d.finish t r
  | next :: under => d.moveTo t (.running (next r) under)

def invokeFrom (d : Dispatch α) (t : Thread) (job : Job α) (next : Result α → Job α)
    (under : List (Result α → Job α)) : Dispatch α :=
  match t with
  | .prompt => d.moveTo t (.running job (next :: under))
  | .caller _ =>
    { d.moveTo t (.sending d.nextTicket job next under) with nextTicket := d.nextTicket + 1 }

def step? (d : Dispatch α) (t : Thread) : Option (Dispatch α) :=
  match d.activity t with
  | .running (.value v) under => some (d.yieldResult t (.ok v) under)
  | .running (.panic message) under => some (d.yieldResult t (.error message) under)
  | .running (.current next) under => some (d.moveTo t (.running (next t) under))
  | .running (.invoke job next) under => some (d.invokeFrom t job next under)
  | .sending n job next under =>
    match d.queue with
    | some _ => none
    | none =>
      some { d.moveTo t (.waiting n next under) with
        queue := some (n, job)
        accepted := d.accepted ++ [n] }
  | .waiting n next under =>
    (d.replies.lookup n).map fun r =>
      { d.moveTo t (.running (next r) under) with replies := d.replies.filter (·.1 ≠ n) }
  | .receiving =>
    d.queue.map fun (n, job) =>
      { d.moveTo t (.running job []) with
        queue := none
        serving := some n
        started := d.started ++ [n] }
  | .finished _ => none

inductive Reachable (jobs : Nat → Job α) : Dispatch α → Prop
  | start : Reachable jobs (start jobs)
  | step {d d' : Dispatch α} (t : Thread) :
      Reachable jobs d → d.step? t = some d' → Reachable jobs d'

end Dispatch

end GitLogin
