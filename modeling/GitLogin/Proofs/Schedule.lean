import GitLogin.PromptThread.Queue

namespace GitLogin

def Job.resume {α : Type} (t : Thread) (job : Job α) (under : List (Result α → Job α)) :
    Result α :=
  under.foldl (fun r next => (next r).run t) (job.run t)

def Activity.sending? {α : Type} : Activity α → Option Ticket
  | .sending n _ _ _ => some n
  | _ => none

namespace Dispatch

inductive Milestone (α : Type)
  | accepted (n : Ticket) (t : Thread) (job : Job α)
  | started (n : Ticket)
  | ended (n : Ticket) (r : Result α)
  | returned (n : Ticket) (t : Thread) (r : Result α)

namespace Milestone

variable {α : Type}

@[simp] def accepted? : Milestone α → Option Ticket
  | .accepted n _ _ => some n
  | _ => none

@[simp] def started? : Milestone α → Option Ticket
  | .started n => some n
  | _ => none

@[simp] def ended? : Milestone α → Option Ticket
  | .ended n _ => some n
  | _ => none

@[simp] def returned? : Milestone α → Option Ticket
  | .returned n _ _ => some n
  | _ => none

def tickets (kind : Milestone α → Option Ticket) (es : List (Milestone α)) : List Ticket :=
  es.filterMap kind

@[simp] theorem tickets_concat (kind : Milestone α → Option Ticket) (es : List (Milestone α))
    (e : Milestone α) : tickets kind (es ++ [e]) = tickets kind es ++ (kind e).toList := by
  rw [tickets, List.filterMap_append, ← tickets]
  cases h : kind e <;> simp [h]

theorem mem_tickets {kind : Milestone α → Option Ticket} {es : List (Milestone α)} {n : Ticket} :
    n ∈ tickets kind es ↔ ∃ e ∈ es, kind e = some n := List.mem_filterMap

end Milestone

variable {α : Type}

def milestone? (d : Dispatch α) (t : Thread) : Option (Milestone α) :=
  match d.activity t, t with
  | .running (.value v) [], .prompt => d.serving.map fun n => .ended n (.ok v)
  | .running (.panic message) [], .prompt => d.serving.map fun n => .ended n (.error message)
  | .sending n job _ _, t => some (.accepted n t job)
  | .waiting n _ _, t => (d.replies.lookup n).map (.returned n t)
  | .receiving, _ => d.queue.map fun (n, _) => .started n
  | _, _ => none

/-- The steps in any order, with the milestones that were passed. -/
inductive Ran (jobs : Nat → Job α) : List (Milestone α) → Dispatch α → Prop
  | start : Ran jobs [] (start jobs)
  | step {es : List (Milestone α)} {d d' : Dispatch α} (t : Thread) : Ran jobs es d →
      d.step? t = some d' → Ran jobs (es ++ (d.milestone? t).toList) d'

theorem reachable_iff_ran {jobs : Nat → Job α} {d : Dispatch α} :
    Reachable jobs d ↔ ∃ es, Ran jobs es d := by
  constructor
  · intro h
    induction h with
    | start => exact ⟨[], .start⟩
    | step t _ hstep ih =>
      obtain ⟨es, hes⟩ := ih
      exact ⟨_, hes.step t hstep⟩
  · rintro ⟨es, h⟩
    induction h with
    | start => exact .start
    | step t _ hstep ih => exact ih.step t hstep

/-- All that a step can do. -/
inductive Takes (d : Dispatch α) : Thread → Option (Milestone α) → Dispatch α → Prop
  | current {t : Thread} {next : Thread → Job α} {under : List (Result α → Job α)} :
      d.activity t = .running (.current next) under →
      Takes d t none (d.moveTo t (.running (next t) under))
  | resumed {t : Thread} {r : Result α} {next : Result α → Job α}
      {under : List (Result α → Job α)} : d.activity t = .running (.ofResult r) (next :: under) →
      Takes d t none (d.moveTo t (.running (next r) under))
  | nested {job : Job α} {next : Result α → Job α} {under : List (Result α → Job α)} :
      d.activity .prompt = .running (.invoke job next) under →
      Takes d .prompt none (d.moveTo .prompt (.running job (next :: under)))
  | called {i : Nat} {job : Job α} {next : Result α → Job α} {under : List (Result α → Job α)} :
      d.activity (.caller i) = .running (.invoke job next) under →
      Takes d (.caller i) none { d.moveTo (.caller i) (.sending d.nextTicket job next under) with
        nextTicket := d.nextTicket + 1 }
  | finished {i : Nat} {r : Result α} : d.activity (.caller i) = .running (.ofResult r) [] →
      Takes d (.caller i) none (d.moveTo (.caller i) (.finished r))
  | accepted {t : Thread} {n : Ticket} {job : Job α} {next : Result α → Job α}
      {under : List (Result α → Job α)} : d.activity t = .sending n job next under →
      d.queue = none →
      Takes d t (some (.accepted n t job)) { d.moveTo t (.waiting n next under) with
        queue := some (n, job)
        accepted := d.accepted ++ [n] }
  | started {t : Thread} {n : Ticket} {job : Job α} : d.activity t = .receiving →
      d.queue = some (n, job) →
      Takes d t (some (.started n)) { d.moveTo t (.running job []) with
        queue := none
        serving := some n
        started := d.started ++ [n] }
  | ended {r : Result α} : d.activity .prompt = .running (.ofResult r) [] →
      Takes d .prompt (d.serving.map fun n => .ended n r) { d.moveTo .prompt .receiving with
        serving := none
        replies := (d.serving.map fun n => (n, r)).toList ++ d.replies }
  | returned {t : Thread} {n : Ticket} {r : Result α} {next : Result α → Job α}
      {under : List (Result α → Job α)} : d.activity t = .waiting n next under →
      d.replies.lookup n = some r →
      Takes d t (some (.returned n t r)) { d.moveTo t (.running (next r) under) with
        replies := d.replies.filter (·.1 ≠ n) }

theorem takes_yieldResult {d : Dispatch α} {t : Thread} {r : Result α}
    {under : List (Result α → Job α)} (ha : d.activity t = .running (.ofResult r) under) :
    Takes d t (d.milestone? t) (d.yieldResult t r under) := by
  cases under with
  | nil =>
    cases t with
    | prompt =>
      have hm : d.milestone? .prompt = d.serving.map fun n => .ended n r := by
        cases r <;> simp [milestone?, ha, Job.ofResult]
      rw [hm]
      exact .ended ha
    | caller i =>
      have hm : d.milestone? (.caller i) = none := by
        cases r <;> simp [milestone?, ha, Job.ofResult]
      rw [hm]
      exact .finished ha
  | cons next under =>
    have hm : d.milestone? t = none := by cases r <;> simp [milestone?, ha, Job.ofResult]
    rw [hm]
    exact .resumed ha

theorem takes_of_step {d d' : Dispatch α} {t : Thread} (h : d.step? t = some d') :
    Takes d t (d.milestone? t) d' := by
  rw [step?] at h
  split at h
  · next v under ha =>
    cases h
    exact takes_yieldResult (r := .ok v) ha
  · next message under ha =>
    cases h
    exact takes_yieldResult (r := .error message) ha
  · next next under ha =>
    cases h
    have hm : d.milestone? t = none := by simp [milestone?, ha]
    rw [hm]
    exact .current ha
  · next job next under ha =>
    cases h
    have hm : d.milestone? t = none := by simp [milestone?, ha]
    rw [hm]
    cases t with
    | prompt => exact .nested ha
    | caller i => exact .called ha
  · next n job next under ha =>
    split at h
    · cases h
    · next hq =>
      cases h
      have hm : d.milestone? t = some (.accepted n t job) := by simp [milestone?, ha]
      rw [hm]
      exact .accepted ha hq
  · next n next under ha =>
    obtain ⟨r, hr, rfl⟩ := Option.map_eq_some_iff.1 h
    have hm : d.milestone? t = some (.returned n t r) := by simp [milestone?, ha, hr]
    rw [hm]
    exact .returned ha hr
  · next ha =>
    obtain ⟨⟨n, job⟩, hq, rfl⟩ := Option.map_eq_some_iff.1 h
    have hm : d.milestone? t = some (.started n) := by simp [milestone?, ha, hq]
    rw [hm]
    exact .started ha hq
  · cases h

end Dispatch

end GitLogin
