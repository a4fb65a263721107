import GitLogin.Proofs.Parallel
import Mathlib.Data.List.Chain

/-!
The calls that a prompt makes on its surface. `ask_protocol`: whatever the surface answers, the form
is presented first and closed last, the confirm action is set whenever it changes, and a confirm
that comes while it is disabled is rejected at once.
-/

namespace GitLogin

@[simp] def Call.enabled? : Call → Option Bool
  | .setEnabled b => some b
  | .present .. | .reject | .await _ | .close => none

@[simp] def Call.event? : Call → Option Event
  | .await (.ok e) => some e
  | .await (.error _) | .present .. | .setEnabled _ | .reject | .close => none

abbrev Trace := List Call

namespace Trace

def pushed (t : Trace) : List Bool := t.filterMap Call.enabled?

def enabled? (t : Trace) : Option Bool := t.pushed.getLast?

def heard (t : Trace) : History := t.filterMap Call.event?

@[simp] theorem pushed_append (t : Trace) (c : Call) :
    pushed (t ++ [c]) = t.pushed ++ c.enabled?.toList := by
  cases c <;> simp [pushed]

@[simp] theorem enabled?_append (t : Trace) (c : Call) :
    enabled? (t ++ [c]) = (c.enabled? <|> t.enabled?) := by
  cases c <;> simp [enabled?]

@[simp] theorem heard_append (t : Trace) (c : Call) :
    heard (t ++ [c]) = t.heard ++ c.event?.toList := by
  cases c with
  | await a => cases a <;> simp [heard]
  | _ => simp [heard]

theorem mem_of_heard {t : Trace} {e : Event} (he : e ∈ t.heard) : .await (.ok e) ∈ t := by
  obtain ⟨c, hc, hevent⟩ := List.mem_filterMap.1 he
  cases c with
  | await a =>
    cases a with
    | ok =>
      cases hevent
      exact hc
    | error => cases hevent
  | _ => cases hevent

def Accepted (t : Trace) : Prop :=
  ∃ before : Trace, t = before ++ [.await (.ok .confirm)] ∧ before.enabled? = some true

inductive Over : Trace → Prop
  | unshown {l : Layout} {e : SurfaceFault} : Over [.present l (some e)]
  | failed {t : Trace} {e : SurfaceFault} : Over (t ++ [.await (.error e)])
  | cancelled {t : Trace} : Over (t ++ [.await (.ok .cancel)])
  | accepted {t : Trace} : t.Accepted → Over t

def Synced (t : Trace) : Prop := ∃ b, t.enabled? = some b ∧ (b = true ↔ t.heard.HasSecret)

structure Alternates (bs : List Bool) : Prop where
  head : ∀ b ∈ bs.head?, b = false
  chain : bs.IsChain (· ≠ ·)

/-- What the calls of a prompt keep to, for a form with layout `l` and an outcome `o`. -/
structure Protocol (l : Layout) (o : Outcome) (t : Trace) : Prop where
  present_first : ∃ f rest, t = .present l f :: rest ∧ ∀ l' f', .present l' f' ∉ rest
  close_last : ∃ before : Trace, t = before ++ [.close] ∧ .close ∉ before ∧ before.Over
  unshown : ∀ e rest, t = .present l (some e) :: rest → rest = [.close]
  shown : ∀ rest, t = .present l none :: rest → ∃ rest', rest = .setEnabled false :: rest'
  alternates : Alternates t.pushed
  synced : ∀ (before : Trace) a after, t = before ++ .await a :: after → before.Synced
  rejected : ∀ (before : Trace) after, t = before ++ .await (.ok .confirm) :: after →
    before.enabled? = some false → ∃ after', after = .reject :: after'
  accepted : ∀ (before : Trace) after, t = before ++ .await (.ok .confirm) :: after →
    before.enabled? = some true → after = [.close]
  reject_only : ∀ (before : Trace) after, t = before ++ .reject :: after →
    ∃ earlier : Trace, before = earlier ++ [.await (.ok .confirm)] ∧ earlier.enabled? = some false
  confirmed : (∃ c, o = .confirmed c) ↔ ∃ before : Trace, t = before ++ [.close] ∧ before.Accepted

/-- What a call takes for granted of the calls before it. -/
def Due (t : Trace) : Call → Prop
  | .present .. => t = []
  | .setEnabled b => b = !t.enabled?.getD true
  | .await _ => t.Synced
  | .reject => ∃ before : Trace, t = before ++ [.await (.ok .confirm)] ∧ before.enabled? = some false
  | .close => t.Over

def reply (t : Trace) : Call := if t.enabled? = some true then .close else .reject

structure Allows (t : Trace) (c : Call) : Prop where
  due : t.Due c
  close_notMem : .close ∉ t
  reply : ∀ before : Trace, t = before ++ [.await (.ok .confirm)] → c = before.reply

inductive Lawful : Trace → Prop
  | nil : Lawful []
  | next {t : Trace} {c : Call} : Lawful t → t.Allows c → Lawful (t ++ [c])

variable {t before : Trace} {c : Call} {after : List Call}

theorem reply_of_enabled (h : t.enabled? = some true) : t.reply = .close := if_pos h

theorem reply_of_disabled (h : t.enabled? = some false) : t.reply = .reject := by
  rw [reply, h]
  rfl

theorem confirm_notLast (hc : c ≠ .await (.ok .confirm)) (before : Trace) :
    t ++ [c] ≠ before ++ [.await (.ok .confirm)] :=
  fun heq => hc (List.append_singleton_inj.1 heq).2

theorem allows_of_notLast (hdue : t.Due c) (hclose : .close ∉ t)
    (hlast : ∀ before : Trace, t ≠ before ++ [.await (.ok .confirm)]) : t.Allows c :=
  ⟨hdue, hclose, fun before heq => absurd heq (hlast before)⟩

theorem allows_reply (hdue : Due (t ++ [.await (.ok .confirm)]) t.reply) (hclose : .close ∉ t) :
    Allows (t ++ [.await (.ok .confirm)]) t.reply := by
  refine ⟨hdue, by simpa using hclose, fun before heq => ?_⟩
  rw [(List.append_singleton_inj.1 heq).1]

theorem Lawful.allows (ht : t.Lawful) (heq : t = before ++ c :: after) : before.Allows c := by
  induction ht generalizing after with
  | nil => simp at heq
  | @next t d ht hd ih =>
    -- `c` is the newest call, or one of the calls before it
    rcases List.eq_nil_or_concat after with rfl | ⟨after, e, rfl⟩
    · obtain ⟨rfl, rfl⟩ := List.append_singleton_inj.1 heq
      exact hd
    · rw [List.concat_eq_append, ← List.cons_append, ← List.append_assoc] at heq
      obtain ⟨heq, -⟩ := List.append_singleton_inj.1 heq
      exact ih heq

theorem Alternates.concat {bs : List Bool} {b : Bool} (h : Alternates bs)
    (hb : b = !bs.getLast?.getD true) : Alternates (bs ++ [b]) where
  head := by
    cases bs with
    | nil => simpa using hb
    | cons x xs => simpa using h.head
  chain := by
    refine List.isChain_append.2 ⟨h.chain, List.isChain_singleton b, ?_⟩
    intro x hx y hy
    rw [Option.mem_def] at hx
    obtain rfl : b = y := by simpa using hy
    simp [hb, hx]

theorem Lawful.alternates (ht : t.Lawful) : Alternates t.pushed := by
  -- only a call that sets a value can break this, and it is due to differ from the last one
  induction ht with
  | nil => exact ⟨by simp [pushed], .nil⟩
  | @next t c ht hc ih =>
    rw [pushed_append]
    cases c with
    | setEnabled b => exact ih.concat hc.due
    | present => simpa using ih
    | reject => simpa using ih
    | await a => simpa [Call.enabled?] using ih
    | close => simpa using ih

inductive Opened (l : Layout) : Trace → Prop
  | unshown (e : SurfaceFault) : Opened l [.present l (some e)]
  | shown (rest : List Call) : Opened l (.present l none :: .setEnabled false :: rest)

theorem Lawful.reply_of_confirm (ht : Lawful (t ++ [.close]))
    (heq : t ++ [.close] = before ++ .await (.ok .confirm) :: after) :
    ∃ after', after = before.reply :: after' := by
  cases after with
  | nil =>
    obtain ⟨-, hc⟩ := List.append_singleton_inj.1 heq
    cases hc
  | cons c after =>
    rw [List.append_cons before] at heq
    exact ⟨after, by rw [(ht.allows heq).reply before rfl]⟩

theorem Lawful.close_only (ht : Lawful (t ++ [.close]))
    (heq : t ++ [.close] = before ++ .close :: after) : after = [] := by
  rcases List.eq_nil_or_concat after with rfl | ⟨after, e, rfl⟩
  · rfl
  · rw [List.concat_eq_append, ← List.cons_append, ← List.append_assoc] at heq
    obtain ⟨rfl, -⟩ := List.append_singleton_inj.1 heq
    exact absurd (by simp) (ht.allows rfl).close_notMem

theorem Lawful.protocol {l : Layout} {o : Outcome} (ht : Lawful (t ++ [.close]))
    (hopen : Opened l t) (ho : (∃ c, o = .confirmed c) ↔ t.Accepted) :
    Protocol l o (t ++ [.close]) where
  present_first := by
    obtain ⟨f, rest, hrest⟩ : ∃ f rest, t ++ [.close] = .present l f :: rest := by
      cases hopen with
      | unshown e => exact ⟨_, _, rfl⟩
      | shown rest => exact ⟨_, _, rfl⟩
    refine ⟨f, rest, hrest, ?_⟩
    intro l' f' hmem
    obtain ⟨xs, ys, rfl⟩ := List.append_of_mem hmem
    have heq : t ++ [.close] = (.present l f :: xs) ++ .present l' f' :: ys := hrest
    cases (ht.allows heq).due
  close_last := ⟨t, rfl, (ht.allows rfl).close_notMem, (ht.allows rfl).due⟩
  unshown := by
    intro e rest heq
    cases hopen with
    | unshown e => exact (List.cons.inj heq).2.symm
    | shown rest => cases (List.cons.inj heq).1
  shown := by
    intro rest heq
    cases hopen with
    | unshown e => cases (List.cons.inj heq).1
    | shown rest => exact ⟨_, (List.cons.inj heq).2.symm⟩
  alternates := ht.alternates
  synced _ _ _ heq := (ht.allows heq).due
  rejected before after heq hshut := by
    obtain ⟨after', rfl⟩ := ht.reply_of_confirm heq
    exact ⟨after', by rw [reply_of_disabled hshut]⟩
  accepted before after heq hopen := by
    obtain ⟨after', rfl⟩ := ht.reply_of_confirm heq
    rw [reply_of_enabled hopen, List.append_cons before] at heq
    rw [reply_of_enabled hopen, ht.close_only heq]
  reject_only _ _ heq := (ht.allows heq).due
  confirmed := by
    rw [ho]
    constructor
    · exact fun hacc => ⟨t, rfl, hacc⟩
    · rintro ⟨before, heq, hacc⟩
      rwa [(List.append_singleton_inj.1 heq).1]

/-- What holds of the calls so far while the prompt is open and has heard `h`. -/
structure Settled (l : Layout) (h : History) (t : Trace) : Prop where
  lawful : t.Lawful
  shown : ∃ rest, t = .present l none :: .setEnabled false :: rest
  close_notMem : .close ∉ t
  confirm_notLast : ∀ before : Trace, t ≠ before ++ [.await (.ok .confirm)]
  heard_eq : t.heard = h
  enabled?_eq : t.enabled? = some (Gate.after h).isEnabled

variable {l : Layout} {h : History}

theorem lawful_present (l : Layout) (f : Option SurfaceFault) : Lawful [.present l f] :=
  .next .nil ⟨rfl, by simp, by simp⟩

theorem present_notLast (l : Layout) (f : Option SurfaceFault) (before : Trace) :
    [.present l f] ≠ before ++ [.await (.ok .confirm)] :=
  confirm_notLast (t := []) (c := .present l f) nofun before

theorem settled_shown (l : Layout) : Settled l [] [.present l none, .setEnabled false] where
  lawful := .next (lawful_present l none)
    (allows_of_notLast rfl (by simp) (present_notLast l none))
  shown := ⟨[], rfl⟩
  close_notMem := by simp
  confirm_notLast := confirm_notLast (t := [.present l none]) nofun
  heard_eq := rfl
  enabled?_eq := rfl

namespace Settled

variable (ht : Settled l h t)
include ht

theorem lawful_await (a : Except SurfaceFault Event) : Lawful (t ++ [.await a]) := by
  have hsynced : t.Synced := ⟨_, ht.enabled?_eq, by rw [ht.heard_eq, Gate.isEnabled_after]⟩
  exact ht.lawful.next (allows_of_notLast hsynced ht.close_notMem ht.confirm_notLast)

theorem close_notMem_await (a : Except SurfaceFault Event) : .close ∉ t ++ [.await a] := by
  simpa using ht.close_notMem

theorem shown_append (cs : List Call) :
    ∃ rest, t ++ cs = .present l none :: .setEnabled false :: rest := by
  obtain ⟨rest, rfl⟩ := ht.shown
  exact ⟨rest ++ cs, rfl⟩

theorem username (u : String) :
    Settled l (h ++ [.username u]) (t ++ [.await (.ok (.username u))]) where
  lawful := ht.lawful_await _
  shown := ht.shown_append _
  close_notMem := ht.close_notMem_await _
  confirm_notLast := Trace.confirm_notLast nofun
  heard_eq := by simp [ht.heard_eq]
  enabled?_eq := by simp [ht.enabled?_eq]

theorem secret (x : String) :
    Settled l (h ++ [.secret x]) (t ++ [.await (.ok (.secret x))] ++
      if ((Gate.after h).feed x.length).2 then [.setEnabled (Gate.ofLength x.length).isEnabled]
      else []) := by
  -- the gate is told to the surface only where it moves, and is in step either way
  have hlast := Trace.confirm_notLast (t := t) (c := .await (.ok (.secret x))) nofun
  by_cases hsame : Gate.ofLength x.length = Gate.after h
  · rw [if_neg (by simp [Gate.feed, hsame]), List.append_nil]
    exact {
      lawful := ht.lawful_await _
      shown := ht.shown_append _
      close_notMem := ht.close_notMem_await _
      confirm_notLast := hlast
      heard_eq := by simp [ht.heard_eq]
      enabled?_eq := by simp [ht.enabled?_eq, hsame] }
  · rw [if_pos (by simpa [Gate.feed] using hsame)]
    -- the last value that was set is the one of the gate before the edit
    have hdue : Due (t ++ [.await (.ok (.secret x))])
        (.setEnabled (Gate.ofLength x.length).isEnabled) := by
      simpa [Due, ht.enabled?_eq] using Gate.isEnabled_of_ne hsame
    exact {
      lawful := (ht.lawful_await _).next (allows_of_notLast hdue (ht.close_notMem_await _) hlast)
      shown := by simpa using ht.shown_append _
      close_notMem := by simpa using ht.close_notMem
      confirm_notLast := Trace.confirm_notLast nofun
      heard_eq := by simp [-List.append_assoc, ht.heard_eq]
      enabled?_eq := by simp [-List.append_assoc] }

theorem enabled_of_hasSecret (hs : h.HasSecret) : t.enabled? = some true := by
  rw [ht.enabled?_eq, Gate.isEnabled_after.2 hs]

theorem disabled_of_not_hasSecret (hn : ¬h.HasSecret) : t.enabled? = some false := by
  rw [ht.enabled?_eq, Option.some.injEq, Bool.eq_false_iff, Ne, Gate.isEnabled_after]
  exact hn

theorem rejected (hn : ¬h.HasSecret) :
    Settled l (h ++ [.confirm]) (t ++ [.await (.ok .confirm)] ++ [.reject]) := by
  have hshut := ht.disabled_of_not_hasSecret hn
  have hreply : t.reply = .reject := reply_of_disabled hshut
  exact {
    lawful := (ht.lawful_await _).next
      (hreply ▸ allows_reply (hreply ▸ ⟨t, rfl, hshut⟩) ht.close_notMem)
    shown := by simpa using ht.shown_append _
    close_notMem := by simpa using ht.close_notMem
    confirm_notLast := Trace.confirm_notLast nofun
    heard_eq := by simp [-List.append_assoc, ht.heard_eq]
    enabled?_eq := by simp [-List.append_assoc, ht.enabled?_eq] }

end Settled

inductive Ended (l : Layout) (r : Remote) (prior : Option Credential) : Outcome → Trace → Prop
  | unshown (e : SurfaceFault) : Ended l r prior .declined [.present l (some e)]
  | failed {h : History} {t : Trace} (e : SurfaceFault) : Settled l h t →
      Ended l r prior .declined (t ++ [.await (.error e)])
  | cancelled {h : History} {t : Trace} : Settled l h t →
      Ended l r prior .declined (t ++ [.await (.ok .cancel)])
  | confirmed {h : History} {t : Trace} : Settled l h t → h.HasSecret →
      Ended l r prior (.confirmed (h.credential r prior)) (t ++ [.await (.ok .confirm)])

theorem not_accepted (hc : c ≠ .await (.ok .confirm)) : ¬Accepted (t ++ [c]) := by
  rintro ⟨before, heq, -⟩
  exact confirm_notLast hc before heq

namespace Ended

variable {r : Remote} {prior : Option Credential} {o : Outcome}

theorem opened (ht : Ended l r prior o t) : Opened l t := by
  have hshown {t c} (h : ∃ rest, t ++ [c] = .present l none :: .setEnabled false :: rest) :
      Opened l (t ++ [c]) := by
    obtain ⟨rest, hrest⟩ := h
    rw [hrest]
    exact .shown rest
  cases ht with
  | unshown e => exact .unshown e
  | failed _ ht => exact hshown (ht.shown_append _)
  | cancelled ht => exact hshown (ht.shown_append _)
  | confirmed ht _ => exact hshown (ht.shown_append _)

theorem lawful (ht : Ended l r prior o t) : Lawful (t ++ [.close]) := by
  cases ht with
  | unshown e =>
    exact (lawful_present l _).next (allows_of_notLast .unshown (by simp) (present_notLast l _))
  | failed e ht =>
    exact (ht.lawful_await _).next
      (allows_of_notLast .failed (ht.close_notMem_await _) (confirm_notLast nofun))
  | cancelled ht =>
    exact (ht.lawful_await _).next
      (allows_of_notLast .cancelled (ht.close_notMem_await _) (confirm_notLast nofun))
  | @confirmed h t ht hs =>
    have hopen := ht.enabled_of_hasSecret hs
    have hreply : t.reply = .close := reply_of_enabled hopen
    exact (ht.lawful_await _).next
      (hreply ▸ allows_reply (hreply ▸ .accepted ⟨t, rfl, hopen⟩) ht.close_notMem)

theorem confirmed_iff (ht : Ended l r prior o t) : (∃ c, o = .confirmed c) ↔ t.Accepted := by
  cases ht with
  | unshown e => simpa using not_accepted (t := []) (c := .present l (some e)) nofun
  | failed e ht => simpa using not_accepted (c := .await (.error e)) nofun
  | cancelled ht => simpa using not_accepted (c := .await (.ok .cancel)) nofun
  | @confirmed h t ht hs => simpa using ⟨t, rfl, ht.enabled_of_hasSecret hs⟩

theorem secret_mem {cred : Credential} (ht : Ended l r prior (.confirmed cred) t) :
    ∃ x, cred.secret = some x ∧ x ≠ "" ∧ .await (.ok (.secret x)) ∈ t := by
  cases ht with
  | @confirmed h t ht hs =>
    obtain ⟨x, hx, hne⟩ := hs
    have hmem : .secret x ∈ t.heard := by
      rw [ht.heard_eq]
      exact History.mem_of_secret? hx
    exact ⟨x, hx, hne, List.mem_append_left _ (mem_of_heard hmem)⟩

end Ended

end Trace

namespace Prompt

variable {σ : Type} {S : Surface σ} {l : Layout} {h : History} {x x₀ : Recorded σ}

@[simp] theorem calls_await (S : Surface σ) (x : Recorded σ) :
    (S.recorded.await x).2.calls = x.calls ++ [.await (S.recorded.await x).1] := rfl

@[simp] theorem calls_close (S : Surface σ) (x : Recorded σ) :
    (S.recorded.close x).calls = x.calls ++ [.close] := rfl

@[simp] theorem calls_reject (S : Surface σ) (x : Recorded σ) :
    (S.recorded.reject x).calls = x.calls ++ [.reject] := rfl

theorem calls_present (S : Surface σ) (l : Layout) (s : σ) :
    (S.recorded.present l (.start s)).2.calls =
      [.present l (fault? (S.recorded.present l (.start s)).1)] := rfl

theorem calls_showGate (S : Surface σ) (g : Gate × Bool) (x : Recorded σ) :
    (showGate S.recorded g x).calls =
      x.calls ++ if g.2 then [.setEnabled g.1.isEnabled] else [] := by
  rw [showGate]
  split
  · rfl
  · rw [List.append_nil]

theorem settled_of_heard (hh : Heard S.recorded x₀ h x) (h₀ : Trace.Settled l [] x₀.calls) :
    Trace.Settled l h x.calls := by
  induction hh with
  | start => exact h₀
  | username _ ha ih =>
    rw [calls_await, ha]
    exact ih.username _
  | secret _ ha ih =>
    rw [calls_showGate, calls_await, ha]
    exact ih.secret _
  | rejected _ ha hn ih =>
    rw [calls_reject, calls_await, ha]
    exact ih.rejected hn

theorem run_ended (S : Surface σ) (r : Remote) (prior : Option Credential) (settings : Settings)
    (s : σ) : ∃ t, (run S.recorded r prior settings (.start s)).2.calls = t ++ [.close] ∧
      Trace.Ended (.of r prior settings) r prior
        (run S.recorded r prior settings (.start s)).1 t := by
  have hcalls := calls_present S (.of r prior settings) s
  cases hp : (S.recorded.present (.of r prior settings) (.start s)).1 with
  | error e =>
    rw [hp] at hcalls
    rw [run_of_fault hp, calls_close, hcalls]
    exact ⟨_, rfl, .unshown e⟩
  | ok _ =>
    rw [hp] at hcalls
    obtain ⟨h, x, hh, hends⟩ := run_ends r prior settings hp
    have hx : Trace.Settled (.of r prior settings) h x.calls := by
      refine settled_of_heard hh ?_
      change Trace.Settled _ [] (_ ++ [Call.setEnabled false])
      rw [hcalls]
      exact Trace.settled_shown _
    generalize run S.recorded r prior settings (.start s) = result at hends
    cases hends with
    | failed ha => exact ⟨_, by rw [calls_close, calls_await, ha], .failed _ hx⟩
    | cancelled ha => exact ⟨_, by rw [calls_close, calls_await, ha], .cancelled hx⟩
    | confirmed ha hs => exact ⟨_, by rw [calls_close, calls_await, ha], .confirmed hx hs⟩

end Prompt

/-- A prompt keeps to the protocol on every surface: scripts alone answer in every way that a
finite list can tell. Recording the calls does not change the prompt. -/
theorem ask_protocol {σ : Type} (S : Surface σ) (r : Remote) (prior : Option Credential)
    (settings : Settings) (s : σ) :
    ∃ o x, Prompt.ask S.recorded .interactive r prior settings (.start s) = .ok (o, x) ∧
      Prompt.ask S .interactive r prior settings s = .ok (o, x.state) ∧
      Trace.Protocol (.of r prior settings) o x.calls := by
  obtain ⟨t, hcalls, ht⟩ := Prompt.run_ended S r prior settings s
  have hrun := Prompt.run_recorded S r prior settings s
  obtain ⟨o, x, heq⟩ : ∃ o x, Prompt.run S.recorded r prior settings (.start s) = (o, x) :=
    ⟨_, _, rfl⟩
  rw [heq] at hcalls ht hrun
  refine ⟨o, x, by rw [Prompt.ask_interactive, heq], by rw [Prompt.ask_interactive, hrun], ?_⟩
  rw [show x.calls = t ++ [.close] from hcalls]
  exact ht.lawful.protocol ht.opened ht.confirmed_iff

end GitLogin
