import GitLogin.Proofs.History
import GitLogin.Surface.Script

namespace GitLogin

abbrev Answer := Except SurfaceFault Event

namespace Script

variable {s s₀ : Script} {h before : History} {answers after : List Answer}

@[simp] theorem surface_present (l : Layout) (s : Script) :
    surface.present l s = s.present l := rfl

@[simp] theorem surface_await (s : Script) : surface.await s = s.await := rfl

@[simp] theorem answers_close (s : Script) : (surface.close s).answers = s.answers := rfl

@[simp] theorem answers_reject (s : Script) : (surface.reject s).answers = s.answers := rfl

@[simp] theorem answers_showGate (g : Gate × Bool) (s : Script) :
    (Prompt.showGate surface g s).answers = s.answers := by
  rw [Prompt.showGate]
  split <;> rfl

theorem answers_of_await {e : Event} (ha : s.await.1 = .ok e) (hne : e ≠ .cancel) :
    s.answers = .ok e :: s.await.2.answers := by
  rw [await] at ha ⊢
  split at ha
  · cases ha
    contradiction
  · next a as heq =>
    subst ha
    exact heq

theorem answers_of_heard (hh : Prompt.Heard surface s₀ h s) :
    s₀.answers = h.map .ok ++ s.answers := by
  induction hh with
  | start => rfl
  | username _ ha ih => simp [ih, answers_of_await ha]
  | secret _ ha ih => simp [ih, answers_of_await ha]
  | rejected _ ha _ ih => simp [ih, answers_of_await ha]

/-- The confirm after `before` can be accepted: nothing in front of it ends the prompt, and the
secret that was typed last is not empty. -/
structure Accepts (answers : List Answer) (before : History) (after : List Answer) : Prop where
  answers_eq : answers = before.map .ok ++ .ok .confirm :: after
  cancel_notMem : .cancel ∉ before
  hasSecret : before.HasSecret

structure AcceptsFirst (answers : List Answer) (before : History) (after : List Answer) :
    Prop extends Accepts answers before after where
  first : ∀ earlier later, Accepts answers earlier later → before.length ≤ earlier.length

theorem prefix_of_map_ok {h' : History} (hp : h.map (.ok : Event → Answer) <+: h'.map .ok) :
    h <+: h' := by
  obtain ⟨l, hl, hmap⟩ := List.prefix_map_iff.1 hp
  rwa [(List.map_inj_right fun _ _ => Except.ok.inj).1 hmap]

theorem Accepts.ahead (hacc : Accepts s₀.answers before after)
    (hh : Prompt.Heard surface s₀ h s) :
    h.length ≤ before.length ∧ ∃ e later, s.answers = .ok e :: later ∧ e ≠ .cancel := by
  -- no confirm that was turned down is this one, and nothing in front of it ends the prompt
  have eq : h.map .ok ++ s.answers = before.map .ok ++ .ok .confirm :: after :=
    (answers_of_heard hh).symm.trans hacc.answers_eq
  rcases List.append_eq_append_iff.1 eq with ⟨as, hb, hs⟩ | ⟨as, hb, hs⟩
  · have hlen := congrArg List.length hb
    simp only [List.length_map, List.length_append] at hlen
    refine ⟨by omega, ?_⟩
    cases as with
    | nil => exact ⟨.confirm, after, hs, by simp⟩
    | cons a as =>
      have ha : a ∈ before.map Except.ok := by simp [hb]
      obtain ⟨e, he, rfl⟩ := List.mem_map.1 ha
      refine ⟨e, _, hs, ?_⟩
      rintro rfl
      exact hacc.cancel_notMem he
  · cases as with
    | nil =>
      have hlen := congrArg List.length hb
      simp only [List.length_map, List.append_nil] at hlen
      exact ⟨Nat.le_of_eq hlen, .confirm, after, hs.symm, by simp⟩
    | cons a as =>
      -- the history would hold the accepted confirm
      obtain ⟨rfl, -⟩ := List.cons.inj hs
      have hp : (before ++ [Event.confirm]).map (.ok : Event → Answer) <+: h.map .ok := by
        rw [hb]
        exact ⟨as, by simp⟩
      exact absurd hacc.hasSecret (hh.not_hasSecret (prefix_of_map_ok hp))

theorem not_accepts_of_declined (hh : Prompt.Heard surface s₀ h s)
    (ha : (∃ e, s.await.1 = .error e) ∨ s.await.1 = .ok .cancel) :
    ¬Accepts s₀.answers before after := by
  intro hacc
  obtain ⟨-, e, later, hs, hne⟩ := hacc.ahead hh
  simp [await, hs, hne] at ha

theorem acceptsFirst_of_heard (hh : Prompt.Heard surface s₀ h s) (ha : s.await.1 = .ok .confirm)
    (hs : h.HasSecret) : AcceptsFirst s₀.answers h s.await.2.answers where
  answers_eq := by rw [answers_of_heard hh, answers_of_await ha (by simp)]
  cancel_notMem := hh.cancel_notMem
  hasSecret := hs
  first _ _ hacc := (hacc.ahead hh).1

theorem Accepts.isPrefix (hacc : Accepts answers before after) :
    (before ++ [Event.confirm]).map (.ok : Event → Answer) <+: answers := by
  rw [hacc.answers_eq]
  exact ⟨after, by simp⟩

theorem AcceptsFirst.unique {before' : History} {after' : List Answer}
    (h : AcceptsFirst answers before after) (h' : AcceptsFirst answers before' after') :
    before = before' := by
  have hlen : before.length = before'.length :=
    Nat.le_antisymm (h.first _ _ h'.toAccepts) (h'.first _ _ h.toAccepts)
  have hp := List.prefix_of_prefix_length_le h.isPrefix h'.isPrefix (by simp [hlen])
  have heq := (prefix_of_map_ok hp).eq_of_length (by simp [hlen])
  exact List.append_cancel_right heq

theorem Accepts.acceptsFirst (h : Accepts answers before after) (hc : .confirm ∉ before) :
    AcceptsFirst answers before after where
  toAccepts := h
  first earlier later he := by
    apply Nat.le_of_not_lt
    intro hlt
    have hbefore : before.map .ok <+: answers := ⟨_, h.answers_eq.symm⟩
    have hlen : ((earlier ++ [Event.confirm]).map (.ok : Event → Answer)).length ≤
        (before.map (.ok : Event → Answer)).length := by
      rw [List.length_map, List.length_map, List.length_append, List.length_singleton]
      exact hlt
    have hp := List.prefix_of_prefix_length_le he.isPrefix hbefore hlen
    have hmem : Event.confirm ∈ earlier ++ [Event.confirm] := by simp
    exact hc (List.IsPrefix.mem hmem (prefix_of_map_ok hp))

variable {r : Remote} {prior : Option Credential} {settings : Settings}

theorem present_of_none (hf : s.presentFault = none) (l : Layout) :
    s.present l = (.ok (), { s with shown := some l }) := by
  simp [present, hf]

theorem run_surface (r : Remote) (prior : Option Credential) (settings : Settings) (s : Script) :
    (∃ before after, s.presentFault = none ∧ AcceptsFirst s.answers before after ∧
      (Prompt.run surface r prior settings s).1 = .confirmed (before.credential r prior) ∧
      (Prompt.run surface r prior settings s).2.answers = after) ∨
    ¬(s.presentFault = none ∧ ∃ before after, Accepts s.answers before after) ∧
      (Prompt.run surface r prior settings s).1 = .declined := by
  cases hf : s.presentFault with
  | some e =>
    right
    rw [Prompt.run_of_fault (e := e) (by simp [present, hf])]
    simp
  | none =>
    obtain ⟨h, s', hh, hends⟩ := Prompt.run_ends (S := surface) (s := s) r prior settings
      (by simp [present, hf])
    rw [surface_present, present_of_none hf] at hh
    generalize Prompt.run surface r prior settings s = result at hends
    cases hends with
    | failed ha =>
      right
      refine ⟨?_, rfl⟩
      rintro ⟨-, before, after, hacc⟩
      exact not_accepts_of_declined hh (.inl ⟨_, ha⟩) hacc
    | cancelled ha =>
      right
      refine ⟨?_, rfl⟩
      rintro ⟨-, before, after, hacc⟩
      exact not_accepts_of_declined hh (.inr ha) hacc
    | confirmed ha hs =>
      left
      have hfirst := acceptsFirst_of_heard hh ha hs
      exact ⟨h, s'.await.2.answers, rfl, hfirst, rfl, rfl⟩

theorem run_of_acceptsFirst (hf : s.presentFault = none)
    (hfirst : AcceptsFirst s.answers before after) :
    (Prompt.run surface r prior settings s).1 = .confirmed (before.credential r prior) := by
  rcases run_surface r prior settings s with ⟨before', after', -, hfirst', ho, -⟩ | ⟨hn, -⟩
  · rw [ho, hfirst.unique hfirst']
  · exact absurd ⟨hf, before, after, hfirst.toAccepts⟩ hn

end Script

end GitLogin
