import GitLogin.Surface

namespace GitLogin

inductive Call
  | present (layout : Layout) (failed : Option SurfaceFault)
  | setEnabled (enabled : Bool)
  | reject
  | await (answer : Except SurfaceFault Event)
  | close

structure Recorded (σ : Type) where
  state : σ
  calls : List Call

namespace Recorded

variable {σ : Type}

def start (s : σ) : Recorded σ := ⟨s, []⟩

def note (r : Recorded σ) (c : Call) (s : σ) : Recorded σ := ⟨s, r.calls ++ [c]⟩

end Recorded

def fault? : Except SurfaceFault Unit → Option SurfaceFault
  | .ok () => none
  | .error e => some e

def Surface.recorded {σ : Type} (S : Surface σ) : Surface (Recorded σ) where
  present l r := ((S.present l r.state).1,
    r.note (.present l (fault? (S.present l r.state).1)) (S.present l r.state).2)
  setEnabled b r := r.note (.setEnabled b) (S.setEnabled b r.state)
  reject r := r.note .reject (S.reject r.state)
  await r := ((S.await r.state).1, r.note (.await (S.await r.state).1) (S.await r.state).2)
  close r := r.note .close (S.close r.state)
  remaining r := S.remaining r.state
  remaining_setEnabled b r := S.remaining_setEnabled b r.state
  remaining_username r := S.remaining_username r.state
  remaining_secret r := S.remaining_secret r.state
  remaining_confirm r := S.remaining_confirm r.state

end GitLogin
