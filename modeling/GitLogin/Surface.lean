import GitLogin.Form.Layout
import GitLogin.Stream

namespace GitLogin

inductive SurfaceFault
  | io (cause : IoFault)
  | inputClosed
  | notShown
  | other (message : String)
  deriving DecidableEq

namespace SurfaceFault

def message : SurfaceFault → String
  | .io cause => "surface I/O failed: " ++ cause.message
  | .inputClosed => "input closed before the prompt was answered"
  | .notShown => "UI error: terminal surface used before show"
  | .other message => "UI error: " ++ message

end SurfaceFault

/-- An edit carries the whole new text of its field. -/
inductive Event
  | username (text : String)
  | secret (text : String)
  | confirm
  | cancel
  deriving DecidableEq

/-- `remaining` falls with every edit that is delivered, and with every confirm that is
delivered and then rejected. -/
structure Surface (σ : Type) where
  present : Layout → σ → Except SurfaceFault Unit × σ
  setEnabled : Bool → σ → σ
  reject : σ → σ
  await : σ → Except SurfaceFault Event × σ
  close : σ → σ
  remaining : σ → Nat
  remaining_setEnabled : ∀ b s, remaining (setEnabled b s) ≤ remaining s
  remaining_username :
    ∀ s u, (await s).1 = .ok (.username u) → remaining (await s).2 < remaining s
  remaining_secret : ∀ s t, (await s).1 = .ok (.secret t) → remaining (await s).2 < remaining s
  remaining_confirm :
    ∀ s, (await s).1 = .ok .confirm → remaining (reject (await s).2) < remaining s

end GitLogin
