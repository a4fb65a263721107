import GitLogin.Form.Fields
import GitLogin.Form.Gate
import GitLogin.Surface

namespace GitLogin

inductive Misuse
  | promptedIn (mode : Mode)
  deriving DecidableEq

def Misuse.message : Misuse → String
  | .promptedIn mode => "credential prompt invoked during " ++ mode.name ++ " execution"

namespace Prompt

variable {σ : Type}

def showGate (S : Surface σ) (g : Gate × Bool) (s : σ) : σ :=
  if g.2 then S.setEnabled g.1.isEnabled s else s

theorem remaining_showGate (S : Surface σ) (g : Gate × Bool) (s : σ) :
    S.remaining (showGate S g s) ≤ S.remaining s := by
  unfold showGate
  split
  · exact S.remaining_setEnabled _ s
  · exact Nat.le_refl _

def follow (S : Surface σ) (r : Remote) (settings : Settings) (f : Fields) (g : Gate) (s : σ) :
    Outcome × σ :=
  match _h : (S.await s).1 with
  | .error _ | .ok .cancel => (.declined, S.close (S.await s).2)
  | .ok (.username username) => follow S r settings { f with username } g (S.await s).2
  | .ok (.secret secret) =>
    follow S r settings { f with secret } (g.feed secret.length).1
      (showGate S (g.feed secret.length) (S.await s).2)
  | .ok .confirm =>
    if g.isEnabled then (.confirmed (f.resolve r settings), S.close (S.await s).2)
    else follow S r settings f g (S.reject (S.await s).2)
termination_by S.remaining s
decreasing_by
  · exact S.remaining_username _ _ _h
  · exact Nat.lt_of_le_of_lt (remaining_showGate ..) (S.remaining_secret _ _ _h)
  · exact S.remaining_confirm _ _h

def run (S : Surface σ) (r : Remote) (prior : Option Credential) (settings : Settings) (s : σ) :
    Outcome × σ :=
  let layout := Layout.of r prior settings
  match S.present layout s with
  | (.error _, s) => (.declined, S.close s)
  | (.ok (), s) =>
    follow S r settings (.seed layout prior) .initial (S.setEnabled Gate.initial.isEnabled s)

/-- Nobody answers an automated prompt, so asking for one is a misuse. -/
def ask (S : Surface σ) (mode : Mode) (r : Remote) (prior : Option Credential)
    (settings : Settings) (s : σ) : Except Misuse (Outcome × σ) :=
  if mode.isInteractive then .ok (run S r prior settings s) else .error (.promptedIn mode)

end Prompt

end GitLogin
