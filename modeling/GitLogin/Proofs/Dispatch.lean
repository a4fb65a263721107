import GitLogin.Proofs.Schedule
import Mathlib.Data.List.Pairwise

/-!
The prompt thread and its callers, whatever the order of their steps. `ran_safe`: jobs are executed
one at a time, in the order in which the queue took them, and every call returns what its own job
came to.
-/

namespace GitLogin.Dispatch

open Milestone

variable {α : Type} {jobs : Nat → Job α} {es : List (Milestone α)} {e : Milestone α}
  {d d' : Dispatch α} {t : Thread} {a : Activity α} {n : Ticket}

/-- What may happen next, after what has happened so far. A job is started only if all before it
have ended, and it is the first in the queue; a call returns the result with which its own job has
ended, and does so once. -/
inductive Allows (es : List (Milestone α)) : Milestone α → Prop
  | accepted {n : Ticket} (i : Nat) (job : Job α) : n ∉ tickets accepted? es →
      Allows es (.accepted n (.caller i) job)
  | started {n : Ticket} {later : List Ticket} :
      tickets started? es = tickets ended? es →
      tickets accepted? es = tickets started? es ++ n :: later →
      Allows es (.started n)
  | ended {n : Ticket} {t : Thread} {job : Job α} : .accepted n t job ∈ es →
      tickets started? es = tickets ended? es ++ [n] →
      Allows es (.ended n (job.run .prompt))
  | returned {n : Ticket} {i : Nat} {job : Job α} : .accepted n (.caller i) job ∈ es →
      .ended n (job.run .prompt) ∈ es → n ∉ tickets returned? es →
      Allows es (.returned n (.caller i) (job.run .prompt))

def Lawful (es : List (Milestone α)) : Prop :=
  ∀ before e after, es = before ++ e :: after → Allows before e

theorem lawful_nil : Lawful ([] : List (Milestone α)) := by
  intro before e after h
  simp at h

theorem Lawful.concat (h : Lawful es) (he : Allows es e) : Lawful (es ++ [e]) := by
  intro before e' after heq
  rcases List.eq_nil_or_concat after with rfl | ⟨after, last, rfl⟩
  · obtain ⟨rfl, he'⟩ := List.append_inj' heq rfl
    cases he'
    exact he
  · rw [List.concat_eq_append, ← List.cons_append, ← List.append_assoc] at heq
    obtain ⟨rfl, -⟩ := List.append_inj' heq rfl
    exact h before e' after rfl

/-- What the milestones tell about the queue, the prompt thread and the replies. -/
structure Kept (es : List (Milestone α)) (d : Dispatch α) : Prop where
  accepted : d.accepted = tickets accepted? es
  started : d.started = tickets started? es
  ended : d.started = tickets ended? es ++ d.serving.toList
  queue : d.accepted = d.started ++ (d.queue.map Prod.fst).toList
  queued : ∀ n job, d.queue = some (n, job) → ∃ t, .accepted n t job ∈ es
  nodup : d.accepted.Nodup
  fresh : ∀ n ∈ d.accepted, n < d.nextTicket
  results : ∀ n r, .ended n r ∈ es → ∃ t job, .accepted n t job ∈ es ∧ r = job.run .prompt
  returned : ∀ n ∈ tickets returned? es, n ∈ tickets ended? es
  replies : ∀ n r, (n, r) ∈ d.replies ↔ .ended n r ∈ es ∧ n ∉ tickets returned? es

/-- Where a thread is on its way: whatever it has still to do, it comes to what its job comes to.
The prompt thread runs a job that was accepted, or waits for one. -/
inductive Fits (jobs : Nat → Job α) (es : List (Milestone α)) (d : Dispatch α) :
    Thread → Activity α → Prop
  | receiving : d.serving = none → Fits jobs es d .prompt .receiving
  | serving {n : Ticket} {t : Thread} {own job : Job α} {under : List (Result α → Job α)} :
      d.serving = some n → .accepted n t own ∈ es →
      job.resume .prompt under = own.run .prompt → Fits jobs es d .prompt (.running job under)
  | running {i : Nat} {job : Job α} {under : List (Result α → Job α)} :
      job.resume (.caller i) under = (jobs i).run (.caller i) →
      Fits jobs es d (.caller i) (.running job under)
  | sending {i : Nat} {n : Ticket} {job : Job α} {next : Result α → Job α}
      {under : List (Result α → Job α)} : n < d.nextTicket → n ∉ d.accepted →
      (next (job.run .prompt)).resume (.caller i) under = (jobs i).run (.caller i) →
      Fits jobs es d (.caller i) (.sending n job next under)
  | waiting {i : Nat} {n : Ticket} {job : Job α} {next : Result α → Job α}
      {under : List (Result α → Job α)} : .accepted n (.caller i) job ∈ es →
      n ∉ tickets returned? es →
      (next (job.run .prompt)).resume (.caller i) under = (jobs i).run (.caller i) →
      Fits jobs es d (.caller i) (.waiting n next under)
  | finished {i : Nat} : Fits jobs es d (.caller i) (.finished ((jobs i).run (.caller i)))

structure Inv (jobs : Nat → Job α) (es : List (Milestone α)) (d : Dispatch α) : Prop where
  kept : Kept es d
  fits : ∀ t, Fits jobs es d t (d.activity t)
  apart : ∀ t t' n, (d.activity t).sending? = some n → (d.activity t').sending? = some n → t = t'

section Kept

theorem Kept.unique {t' : Thread} {job job' : Job α} (h : Kept es d)
    (he : .accepted n t job ∈ es) (he' : .accepted n t' job' ∈ es) : t = t' ∧ job = job' := by
  have hnodup : (tickets accepted? es).Nodup := h.accepted ▸ h.nodup
  rw [tickets, List.Nodup, List.pairwise_filterMap] at hnodup
  have hsymm : Std.Symm fun e e' : Milestone α =>
      ∀ n, e.accepted? = some n → ∀ n', e'.accepted? = some n' → n ≠ n' :=
    ⟨fun e e' hne n hn n' hn' => (hne n' hn' n hn).symm⟩
  have heq : Milestone.accepted n t job = .accepted n t' job' := by
    by_contra hne
    exact hnodup.forall he he' hne n rfl n rfl rfl
  cases heq
  exact ⟨rfl, rfl⟩

theorem Kept.mem_accepted {job : Job α} (h : Kept es d) (he : .accepted n t job ∈ es) :
    n ∈ d.accepted := by
  rw [h.accepted, mem_tickets]
  exact ⟨_, he, rfl⟩

theorem Kept.nodup_started (h : Kept es d) : d.started.Nodup := by
  have hnodup := h.nodup
  rw [h.queue] at hnodup
  exact (List.nodup_append.1 hnodup).1

theorem Kept.ended_mem (h : Kept es d) (hn : n ∈ tickets ended? es) :
    n ∈ d.accepted := by
  rw [h.queue, h.ended]
  exact List.mem_append_left _ (List.mem_append_left _ hn)

theorem Kept.returned_notMem (h : Kept es d) (hs : d.serving = some n) :
    n ∉ tickets returned? es := by
  have hnodup := h.nodup_started
  rw [h.ended, hs] at hnodup
  intro hn
  exact (List.nodup_append.1 hnodup).2.2 n (h.returned n hn) n (by simp) rfl

variable {job : Job α} {r : Result α}

theorem Kept.queued_concat (h : Kept es d) (hq : d.queue = some (n, job)) (e : Milestone α) :
    ∃ t, .accepted n t job ∈ es ++ [e] := by
  obtain ⟨t, he⟩ := h.queued n job hq
  exact ⟨t, List.mem_append_left _ he⟩

theorem Kept.results_concat (h : Kept es d) (hn : .ended n r ∈ es) (e : Milestone α) :
    ∃ t job, .accepted n t job ∈ es ++ [e] ∧ r = job.run .prompt := by
  obtain ⟨t, job, he, hr⟩ := h.results n r hn
  exact ⟨t, job, List.mem_append_left _ he, hr⟩

theorem Kept.accept (h : Kept es d) (hq : d.queue = none) (hlt : n < d.nextTicket)
    (hn : n ∉ d.accepted) (t : Thread) (activity : Thread → Activity α) :
    Kept (es ++ [.accepted n t job]) { d with
      activity
      queue := some (n, job)
      accepted := d.accepted ++ [n] } where
  accepted := by simp [h.accepted]
  started := by simpa using h.started
  ended := by simpa using h.ended
  queue := by simp [h.queue, hq]
  queued := by
    rintro _ _ ⟨⟩
    exact ⟨t, by simp⟩
  nodup := by simpa [List.nodup_append] using ⟨h.nodup, fun m hm heq => hn (heq ▸ hm)⟩
  fresh := by
    intro m hm
    rcases List.mem_append.1 hm with hm | hm
    · exact h.fresh m hm
    · rwa [List.mem_singleton.1 hm]
  results _ _ hm := h.results_concat (by simpa using hm) _
  returned := by simpa using h.returned
  replies := by simpa using h.replies

theorem Kept.start (h : Kept es d) (hs : d.serving = none) (hq : d.queue = some (n, job))
    (activity : Thread → Activity α) :
    Kept (es ++ [.started n]) { d with
      activity
      queue := none
      serving := some n
      started := d.started ++ [n] } where
  accepted := by simpa using h.accepted
  started := by simp [h.started]
  ended := by simp [h.ended, hs]
  queue := by simp [h.queue, hq]
  queued := nofun
  nodup := h.nodup
  fresh := h.fresh
  results _ _ hm := h.results_concat (by simpa using hm) _
  returned := by simpa using h.returned
  replies := by simpa using h.replies

theorem Kept.finish (h : Kept es d) (hs : d.serving = some n) (he : .accepted n t job ∈ es)
    (activity : Thread → Activity α) :
    Kept (es ++ [.ended n (job.run .prompt)]) { d with
      activity
      serving := none
      replies := (n, job.run .prompt) :: d.replies } where
  accepted := by simpa using h.accepted
  started := by simpa using h.started
  ended := by simpa [hs] using h.ended
  queue := h.queue
  queued _ _ hq := h.queued_concat hq _
  nodup := h.nodup
  fresh := h.fresh
  results := by
    intro m r hm
    rcases List.mem_append.1 hm with hm | hm
    · exact h.results_concat hm _
    · cases List.mem_singleton.1 hm
      exact ⟨t, job, List.mem_append_left _ he, rfl⟩
  returned := by
    intro m hm
    rw [tickets_concat]
    exact List.mem_append_left _ (h.returned m (by simpa using hm))
  replies := by
    intro m r
    have hfresh := h.returned_notMem hs
    simp only [tickets_concat, returned?, Option.toList_none, List.append_nil, List.mem_cons,
      Prod.mk.injEq, h.replies, List.mem_append, List.not_mem_nil, or_false, Milestone.ended.injEq]
    constructor
    · rintro (⟨rfl, rfl⟩ | ⟨hm, hnot⟩)
      · exact ⟨.inr ⟨rfl, rfl⟩, hfresh⟩
      · exact ⟨.inl hm, hnot⟩
    · rintro ⟨hm | heq, hnot⟩
      · exact .inr ⟨hm, hnot⟩
      · exact .inl heq

theorem Kept.reply (h : Kept es d) (hr : (n, r) ∈ d.replies) (t : Thread)
    (activity : Thread → Activity α) :
    Kept (es ++ [.returned n t r]) { d with
      activity
      replies := d.replies.filter (·.1 ≠ n) } where
  accepted := by simpa using h.accepted
  started := by simpa using h.started
  ended := by simpa using h.ended
  queue := h.queue
  queued _ _ hq := h.queued_concat hq _
  nodup := h.nodup
  fresh := h.fresh
  results _ _ hm := h.results_concat (by simpa using hm) _
  returned := by
    intro m hm
    rw [tickets_concat, List.mem_append] at hm
    simp only [tickets_concat, ended?, Option.toList_none, List.append_nil]
    rcases hm with hm | hm
    · exact h.returned m hm
    · rw [List.mem_singleton.1 hm, mem_tickets]
      exact ⟨_, ((h.replies n r).1 hr).1, rfl⟩
  replies := by
    intro m r'
    simp only [List.mem_filter, h.replies, tickets_concat, returned?, Option.toList_some,
      List.mem_append, List.mem_singleton, not_or, decide_eq_true_eq, reduceCtorEq, or_false,
      and_assoc, ne_eq]

end Kept

@[simp] theorem activity_moveTo_self (d : Dispatch α) (t : Thread) (a : Activity α) :
    (d.moveTo t a).activity t = a := if_pos rfl

theorem activity_moveTo_of_ne {u : Thread} (hu : u ≠ t) (d : Dispatch α) (a : Activity α) :
    (d.moveTo t a).activity u = d.activity u := if_neg hu

theorem Fits.mono {es' : List (Milestone α)} (h : Fits jobs es d t a) (hes : es ⊆ es')
    (hserving : t = .prompt → d'.serving = d.serving) (hnext : d.nextTicket ≤ d'.nextTicket)
    (hsending : ∀ n, a.sending? = some n → n ∈ d'.accepted → n ∈ d.accepted)
    (hwaiting : ∀ n job, .accepted n t job ∈ es → n ∈ tickets returned? es' →
      n ∈ tickets returned? es) : Fits jobs es' d' t a := by
  -- milestones are only added, so what is to be shown is that no ticket of this thread moved on
  cases h with
  | receiving hs => exact .receiving ((hserving rfl).trans hs)
  | serving hs he hjob => exact .serving ((hserving rfl).trans hs) (hes he) hjob
  | running hjob => exact .running hjob
  | sending hlt hn hjob =>
    exact .sending (Nat.lt_of_lt_of_le hlt hnext) (mt (hsending _ rfl) hn) hjob
  | waiting he hn hjob => exact .waiting (hes he) (mt (hwaiting _ _ he) hn) hjob
  | finished => exact .finished

theorem Inv.moved {es' : List (Milestone α)} (hi : Inv jobs es d)
    (hd : d'.activity = (d.moveTo t a).activity) (hkept : Kept es' d')
    (ht : Fits jobs es' d' t a) (hu : ∀ u, u ≠ t → Fits jobs es' d' u (d.activity u))
    (ha : ∀ n, a.sending? = some n → ∀ u, (d.activity u).sending? ≠ some n) :
    Inv jobs es' d' where
  kept := hkept
  fits u := by
    rw [hd]
    by_cases h : u = t
    · rw [h, activity_moveTo_self]
      exact ht
    · rw [activity_moveTo_of_ne h]
      exact hu u h
  apart u u' n := by
    rw [hd]
    by_cases h : u = t
    · by_cases h' : u' = t
      · rw [h, h']
        exact fun _ _ => rfl
      · rw [h, activity_moveTo_self, activity_moveTo_of_ne h']
        exact fun hu hu' => absurd hu' (ha n hu u')
    · by_cases h' : u' = t
      · rw [h', activity_moveTo_self, activity_moveTo_of_ne h]
        exact fun hu hu' => absurd hu (ha n hu' u)
      · rw [activity_moveTo_of_ne h, activity_moveTo_of_ne h']
        exact hi.apart u u' n

theorem Inv.moveTo (hi : Inv jobs es d) (ht : Fits jobs es d t a) (ha : a.sending? = none) :
    Inv jobs es (d.moveTo t a) := by
  have hsame {u : Thread} {b : Activity α} (h : Fits jobs es d u b) :
      Fits jobs es (d.moveTo t a) u b :=
    h.mono (List.Subset.refl es) (fun _ => rfl) (Nat.le_refl _) (fun _ _ h => h) fun _ _ _ h => h
  have hkept : Kept es (d.moveTo t a) := { hi.kept with }
  exact hi.moved rfl hkept (hsame ht) (fun u _ => hsame (hi.fits u)) (by simp [ha])

variable {i : Nat} {r : Result α} {job : Job α} {next : Result α → Job α}
  {under : List (Result α → Job α)}

theorem Inv.current {next : Thread → Job α} (hi : Inv jobs es d)
    (ha : d.activity t = .running (.current next) under) :
    Inv jobs es (d.moveTo t (.running (next t) under)) := by
  have hfit := hi.fits t
  rw [ha] at hfit
  refine hi.moveTo ?_ rfl
  cases hfit with
  | serving hs he hjob => exact .serving hs he hjob
  | running hjob => exact .running hjob

theorem Inv.resumed (hi : Inv jobs es d)
    (ha : d.activity t = .running (.ofResult r) (next :: under)) :
    Inv jobs es (d.moveTo t (.running (next r) under)) := by
  have hfit := hi.fits t
  rw [ha] at hfit
  refine hi.moveTo ?_ rfl
  cases hfit with
  | serving hs he hjob => exact .serving hs he (by simpa [Job.resume] using hjob)
  | running hjob => exact .running (by simpa [Job.resume] using hjob)

theorem Inv.nested (hi : Inv jobs es d)
    (ha : d.activity .prompt = .running (.invoke job next) under) :
    Inv jobs es (d.moveTo .prompt (.running job (next :: under))) := by
  have hfit := hi.fits .prompt
  rw [ha] at hfit
  refine hi.moveTo ?_ rfl
  cases hfit with
  | serving hs he hjob => exact .serving hs he hjob

theorem Inv.finished (hi : Inv jobs es d)
    (ha : d.activity (.caller i) = .running (.ofResult r) []) :
    Inv jobs es (d.moveTo (.caller i) (.finished r)) := by
  have hfit := hi.fits (.caller i)
  rw [ha] at hfit
  refine hi.moveTo ?_ rfl
  cases hfit with
  | running hjob =>
    obtain rfl : r = (jobs i).run (.caller i) := by simpa [Job.resume] using hjob
    exact .finished

theorem Inv.called (hi : Inv jobs es d)
    (ha : d.activity (.caller i) = .running (.invoke job next) under) :
    Inv jobs es { d.moveTo (.caller i) (.sending d.nextTicket job next under) with
      nextTicket := d.nextTicket + 1 } := by
  have hfit := hi.fits (.caller i)
  rw [ha] at hfit
  cases hfit with
  | running hjob =>
    refine hi.moved (t := .caller i) (a := .sending d.nextTicket job next under) rfl
      { hi.kept with fresh := fun n hn => Nat.lt_succ_of_lt (hi.kept.fresh n hn) } ?_ ?_ ?_
    · refine .sending (Nat.lt_succ_self _) (fun hn => ?_) hjob
      exact Nat.lt_irrefl _ (hi.kept.fresh _ hn)
    · intro u _
      exact (hi.fits u).mono (List.Subset.refl es) (fun _ => rfl) (Nat.le_succ _)
        (fun _ _ h => h) fun _ _ _ h => h
    · rintro _ ⟨⟩ u hu
      have hfit := hi.fits u
      generalize d.activity u = b at hfit hu
      cases hfit with
      | sending hlt =>
        cases hu
        exact Nat.lt_irrefl _ hlt
      | _ => cases hu

theorem Inv.accepted (hi : Inv jobs es d) (ha : d.activity t = .sending n job next under)
    (hq : d.queue = none) :
    Inv jobs (es ++ [.accepted n t job]) { d.moveTo t (.waiting n next under) with
      queue := some (n, job)
      accepted := d.accepted ++ [n] } := by
  have hfit := hi.fits t
  rw [ha] at hfit
  have hsent : (d.activity t).sending? = some n := by rw [ha]; rfl
  cases hfit with
  | @sending i _ _ _ _ hlt hn hjob =>
    refine hi.moved (t := .caller i) (a := .waiting n next under) rfl
      (hi.kept.accept hq hlt hn _ _) ?_ ?_ nofun
    · refine .waiting (by simp) (fun hmem => ?_) hjob
      exact hn (hi.kept.ended_mem (hi.kept.returned n (by simpa using hmem)))
    · intro u hu
      refine (hi.fits u).mono (List.subset_append_left _ _) (fun _ => rfl) (Nat.le_refl _) ?_ ?_
      · intro m hm hmem
        rcases List.mem_append.1 hmem with hmem | hmem
        · exact hmem
        · rw [List.mem_singleton.1 hmem] at hm
          exact absurd (hi.apart u _ n hm hsent) hu
      · intro m own _ hmem
        simpa using hmem

theorem Inv.started (hi : Inv jobs es d) (ha : d.activity t = .receiving)
    (hq : d.queue = some (n, job)) :
    Inv jobs (es ++ [.started n]) { d.moveTo t (.running job []) with
      queue := none
      serving := some n
      started := d.started ++ [n] } := by
  have hfit := hi.fits t
  rw [ha] at hfit
  cases hfit with
  | receiving hs =>
    obtain ⟨u, he⟩ := hi.kept.queued_concat hq (.started n)
    refine hi.moved (t := .prompt) (a := .running job []) rfl (hi.kept.start hs hq _)
      (.serving rfl he rfl) ?_ nofun
    intro u hu
    refine (hi.fits u).mono (List.subset_append_left _ _) (fun h => absurd h hu) (Nat.le_refl _)
      (fun _ _ h => h) ?_
    intro m own _ hmem
    simpa using hmem

theorem Inv.ended (hi : Inv jobs es d) (ha : d.activity .prompt = .running (.ofResult r) []) :
    Inv jobs (es ++ (d.serving.map fun n => .ended n r).toList) { d.moveTo .prompt .receiving with
      serving := none
      replies := (d.serving.map fun n => (n, r)).toList ++ d.replies } := by
  have hfit := hi.fits .prompt
  rw [ha] at hfit
  cases hfit with
  | @serving n t own _ _ hs he hjob =>
    obtain rfl : r = own.run .prompt := by simpa [Job.resume] using hjob
    simp only [hs, Option.map_some, Option.toList_some]
    refine hi.moved (t := .prompt) (a := .receiving) rfl (hi.kept.finish hs he _)
      (.receiving rfl) ?_ nofun
    intro u hu
    refine (hi.fits u).mono (List.subset_append_left _ _) (fun h => absurd h hu) (Nat.le_refl _)
      (fun _ _ h => h) ?_
    intro m own _ hmem
    simpa using hmem

theorem mem_replies (hr : d.replies.lookup n = some r) : (n, r) ∈ d.replies := by
  obtain ⟨before, after, heq, -⟩ := List.lookup_eq_some_iff.1 hr
  rw [heq]
  exact List.mem_append_right _ List.mem_cons_self

theorem Inv.returned (hi : Inv jobs es d) (ha : d.activity t = .waiting n next under)
    (hr : d.replies.lookup n = some r) :
    Inv jobs (es ++ [.returned n t r]) { d.moveTo t (.running (next r) under) with
      replies := d.replies.filter (·.1 ≠ n) } := by
  have hfit := hi.fits t
  rw [ha] at hfit
  have hmem := mem_replies hr
  obtain ⟨hended, -⟩ := (hi.kept.replies n r).1 hmem
  obtain ⟨t', own, he, rfl⟩ := hi.kept.results n r hended
  cases hfit with
  | waiting he' _ hjob =>
    obtain ⟨rfl, rfl⟩ := hi.kept.unique he he'
    refine hi.moved (t := .caller _) (a := .running (next (own.run .prompt)) under) rfl
      (hi.kept.reply hmem _ _) (.running hjob) ?_ nofun
    intro u hu
    refine (hi.fits u).mono (List.subset_append_left _ _) (fun _ => rfl) (Nat.le_refl _)
      (fun _ _ h => h) ?_
    intro m job hm hret
    rw [tickets_concat, List.mem_append] at hret
    rcases hret with hret | hret
    · exact hret
    · rw [List.mem_singleton.1 hret] at hm
      exact absurd (hi.kept.unique hm he').1 hu

theorem Inv.step {e : Option (Milestone α)} (hi : Inv jobs es d) (h : Takes d t e d') :
    Inv jobs (es ++ e.toList) d' := by
  cases h with
  | current ha => simpa using hi.current ha
  | resumed ha => simpa using hi.resumed ha
  | nested ha => simpa using hi.nested ha
  | called ha => simpa using hi.called ha
  | finished ha => simpa using hi.finished ha
  | accepted ha hq => exact hi.accepted ha hq
  | started ha hq => exact hi.started ha hq
  | ended ha => exact hi.ended ha
  | returned ha hr => exact hi.returned ha hr

theorem inv_start (jobs : Nat → Job α) : Inv jobs [] (start jobs) where
  kept := ⟨rfl, rfl, rfl, rfl, nofun, List.nodup_nil, nofun, nofun, nofun, by simp [start]⟩
  fits t := by
    cases t with
    | prompt => exact .receiving rfl
    | caller i => exact .running rfl
  apart t t' n h := by cases t <;> cases h

theorem Inv.allows (hi : Inv jobs es d) (h : Takes d t (some e) d') : Allows es e := by
  generalize he : some e = e' at h
  cases h with
  | accepted ha hq =>
    cases he
    have hfit := hi.fits t
    rw [ha] at hfit
    cases hfit with
    | sending _ hn _ => exact .accepted _ _ (hi.kept.accepted ▸ hn)
  | @started _ n job ha hq =>
    cases he
    have hfit := hi.fits t
    rw [ha] at hfit
    cases hfit with
    | receiving hs =>
      have hended := hi.kept.ended
      have hqueue := hi.kept.queue
      rw [hi.kept.started, hs] at hended
      rw [hi.kept.accepted, hi.kept.started, hq] at hqueue
      exact .started (hended.trans (List.append_nil _)) hqueue
  | @ended r ha =>
    have hfit := hi.fits .prompt
    rw [ha] at hfit
    cases hfit with
    | @serving n t own _ _ hs hown hjob =>
      obtain rfl : r = own.run .prompt := by simpa [Job.resume] using hjob
      rw [hs] at he
      cases he
      have hended := hi.kept.ended
      rw [hi.kept.started, hs] at hended
      exact .ended hown hended
  | @returned _ n r _ _ ha hr =>
    cases he
    have hfit := hi.fits t
    rw [ha] at hfit
    obtain ⟨hended, hret⟩ := (hi.kept.replies n r).1 (mem_replies hr)
    obtain ⟨t', own, hown, rfl⟩ := hi.kept.results n r hended
    cases hfit with
    | waiting hown' _ _ =>
      obtain ⟨rfl, rfl⟩ := hi.kept.unique hown hown'
      exact .returned hown hended hret
  | _ => cases he

theorem inv_of_ran (h : Ran jobs es d) : Inv jobs es d := by
  induction h with
  | start => exact inv_start jobs
  | step t _ hstep ih => exact ih.step (takes_of_step hstep)

theorem lawful_of_ran (h : Ran jobs es d) : Lawful es := by
  induction h with
  | start => exact lawful_nil
  | @step es d d' t hran hstep ih =>
    cases hm : d.milestone? t with
    | none => simpa using ih
    | some e => exact ih.concat ((inv_of_ran hran).allows (hm ▸ takes_of_step hstep))

theorem step?_running {job : Job α} {under : List (Result α → Job α)}
    (ha : d.activity t = .running job under) : d.step? t ≠ none := by
  rw [step?, ha]
  cases job <;> simp

theorem Inv.step?_prompt (hi : Inv jobs es d) :
    d.step? .prompt = none ↔ d.activity .prompt = .receiving ∧ d.queue = none := by
  -- a job in place can always go on
  have hfit := hi.fits .prompt
  generalize ha : d.activity .prompt = a at hfit
  cases hfit with
  | receiving => simp [step?, ha]
  | serving => simpa using step?_running ha

theorem Inv.finished_of_stuck (hi : Inv jobs es d) (hstuck : ∀ t, d.step? t = none) (i : Nat) :
    d.activity (.caller i) = .finished ((jobs i).run (.caller i)) := by
  -- the prompt thread waits for work, so a caller that waits has a reply to take
  obtain ⟨hreceiving, hq⟩ := hi.step?_prompt.1 (hstuck .prompt)
  have hstep := hstuck (.caller i)
  have hfit := hi.fits (.caller i)
  generalize ha : d.activity (.caller i) = a at hfit
  cases hfit with
  | running => exact absurd hstep (step?_running ha)
  | sending => simp [step?, ha, hq] at hstep
  | @waiting _ n job _ _ he hret _ =>
    -- the queue is empty and nothing is served, so the job has ended and its reply is there
    have hserving : d.serving = none := by
      have hfit := hi.fits .prompt
      rw [hreceiving] at hfit
      cases hfit with
      | receiving hs => exact hs
    have hn := hi.kept.mem_accepted he
    rw [hi.kept.queue, hi.kept.ended, hq, hserving] at hn
    obtain ⟨e, hmem, hkind⟩ := mem_tickets.1 (by simpa using hn : n ∈ tickets ended? es)
    cases e with
    | ended m r =>
      cases hkind
      have hreply := (hi.kept.replies n r).2 ⟨hmem, hret⟩
      have hsome : (d.replies.lookup n).isSome := by
        rw [List.lookup_isSome_iff]
        exact ⟨_, hreply, by simp⟩
      simp only [step?, ha, Option.map_eq_none_iff] at hstep
      simp [hstep] at hsome
    | _ => cases hkind
  | finished => rfl

/-- Whatever the order of the steps: the jobs that were started are those that have ended and at
most one more, in the order in which they were accepted, each once. A call returns what its own job
came to, and a caller comes to what its job comes to on its own. The prompt thread only ever runs a
job or waits for one, whether the last has panicked or not, and if no thread can go on then all
callers are done. -/
theorem ran_safe (jobs : Nat → Job α) :
    (∀ d, Reachable jobs d ↔ ∃ es, Ran jobs es d) ∧
    ∀ es d, Ran jobs es d →
      Lawful es ∧
      (tickets accepted? es).Nodup ∧
      tickets started? es <+: tickets accepted? es ∧
      tickets started? es = tickets ended? es ++ d.serving.toList ∧
      d.accepted = tickets accepted? es ∧ d.started = tickets started? es ∧
      (d.activity .prompt = .receiving ∧ d.serving = none ∨
        ∃ n job under, d.activity .prompt = .running job under ∧ d.serving = some n) ∧
      (d.step? .prompt = none ↔ d.activity .prompt = .receiving ∧ d.queue = none) ∧
      (∀ n r d', d.milestone? .prompt = some (.ended n r) → d.step? .prompt = some d' →
        d'.activity .prompt = .receiving) ∧
      (∀ i r, d.activity (.caller i) = .finished r → r = (jobs i).run (.caller i)) ∧
      ((∀ t, d.step? t = none) →
        ∀ i, d.activity (.caller i) = .finished ((jobs i).run (.caller i))) := by
  refine ⟨fun d => reachable_iff_ran, fun es d hran => ?_⟩
  have hi := inv_of_ran hran
  have hnodup := hi.kept.nodup
  have hqueue := hi.kept.queue
  have hended := hi.kept.ended
  rw [hi.kept.accepted] at hnodup hqueue
  rw [hi.kept.started] at hqueue hended
  refine ⟨lawful_of_ran hran, hnodup, ⟨_, hqueue.symm⟩, hended, hi.kept.accepted,
    hi.kept.started, ?_, hi.step?_prompt, ?_, ?_, hi.finished_of_stuck⟩
  · have hfit := hi.fits .prompt
    generalize ha : d.activity .prompt = a at hfit
    cases hfit with
    | receiving hs => exact .inl ⟨rfl, hs⟩
    | serving hs _ _ => exact .inr ⟨_, _, _, rfl, hs⟩
  · intro n r d' hm hstep
    have htakes := takes_of_step hstep
    rw [hm] at htakes
    generalize he : some (Milestone.ended n r) = e at htakes
    cases htakes with
    | ended => exact activity_moveTo_self d .prompt .receiving
    | _ => cases he
  · intro i r ha
    have hfit := hi.fits (.caller i)
    rw [ha] at hfit
    cases hfit with
    | finished => rfl

theorem ran_safe_panic :
    let boom : Job Nat := .panic "boom"
    let nested : Job Nat := .invokeAndWait (.value 7)
    let jobs : Nat → Job Nat := fun i => .invokeAndWait (if i = 0 then boom else nested)
    let es : List (Milestone Nat) := [.accepted 1 (.caller 0) boom, .started 1,
      .accepted 0 (.caller 3) nested, .ended 1 (.error "boom"), .started 0, .ended 0 (.ok 7),
      .returned 0 (.caller 3) (.ok 7), .returned 1 (.caller 0) (.error "boom")]
    Lawful es ∧ ∃ d, Ran jobs es d ∧ d.activity .prompt = .receiving ∧
      d.activity (.caller 0) = .finished (.error "boom") := by
  -- a job that panics, and one after it that hands another job to the thread it runs on
  intro boom nested jobs es
  have hstart : Ran jobs [] (start jobs) := .start
  have hcalled := (hstart.step (.caller 3) rfl).step (.caller 0) rfl
  have hboom := ((hcalled.step (.caller 0) rfl).step .prompt rfl).step (.caller 3) rfl
  -- the panic ends the first job, and the second runs its own in place
  have hnested := (((hboom.step .prompt rfl).step .prompt rfl).step .prompt rfl).step .prompt rfl
  have hended := hnested.step .prompt rfl
  obtain ⟨d, hran, hprompt, hcaller⟩ : ∃ d, Ran jobs es d ∧ d.activity .prompt = .receiving ∧
      d.activity (.caller 0) = .finished (.error "boom") :=
    ⟨_, ((hended.step (.caller 3) rfl).step (.caller 0) rfl).step (.caller 0) rfl, rfl, rfl⟩
  obtain ⟨hlawful, -⟩ := (ran_safe jobs).2 es d hran
  exact ⟨hlawful, d, hran, hprompt, hcaller⟩

end GitLogin.Dispatch
