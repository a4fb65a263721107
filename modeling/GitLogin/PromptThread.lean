namespace GitLogin

inductive DispatchError
  | spawn (cause : String)
  | closed
  deriving DecidableEq

def DispatchError.message : DispatchError → String
  | .spawn cause => "failed to spawn prompt thread: " ++ cause
  | .closed => "prompt thread is closed"

inductive Thread
  | prompt
  | caller (id : Nat)
  deriving DecidableEq

abbrev Result (α : Type) := Except String α

inductive Job (α : Type)
  | value (v : α)
  | panic (message : String)
  | current (next : Thread → Job α)
  | invoke (job : Job α) (next : Result α → Job α)

namespace Job

variable {α : Type}

def run (t : Thread) : Job α → Result α
  | .value v => .ok v
  | .panic message => .error message
  | .current next => (next t).run t
  | .invoke job next => (next (job.run .prompt)).run t

def ofResult : Result α → Job α
  | .ok v => .value v
  | .error message => .panic message

def invokeAndWait (job : Job α) : Job α := .invoke job ofResult

@[simp] theorem run_ofResult (t : Thread) (r : Result α) : (ofResult r).run t = r := by
  cases r <;> rfl

@[simp] theorem run_invokeAndWait (t : Thread) (job : Job α) :
    job.invokeAndWait.run t = job.run .prompt := by
  simp [invokeAndWait, run]

end Job

end GitLogin
