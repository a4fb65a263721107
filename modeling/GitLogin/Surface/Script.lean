import GitLogin.Surface

namespace GitLogin

structure Script where
  answers : List (Except SurfaceFault Event)
  presentFault : Option SurfaceFault := none
  shown : Option Layout := none
  enabledHistory : List Bool := []
  rejected : Nat := 0
  delivered : Nat := 0
  closed : Bool := false

namespace Script

def present (l : Layout) (s : Script) : Except SurfaceFault Unit × Script :=
  match s.presentFault with
  | some e => (.error e, { s with presentFault := none })
  | none => (.ok (), { s with shown := some l })

def setEnabled (b : Bool) (s : Script) : Script :=
  { s with enabledHistory := s.enabledHistory ++ [b] }

def reject (s : Script) : Script := { s with rejected := s.rejected + 1 }

def await (s : Script) : Except SurfaceFault Event × Script :=
  match s.answers with
  | [] => (.ok .cancel, s)
  | a :: as => (a, { s with answers := as, delivered := s.delivered + 1 })

def close (s : Script) : Script := { s with closed := true }

def isEnabled (s : Script) : Bool := s.enabledHistory.getLastD false

theorem length_answers_await (s : Script) :
    s.await.1 = .ok .cancel ∨ s.await.2.answers.length < s.answers.length := by
  unfold await
  split
  · exact .inl rfl
  · rename_i heq
    exact .inr (by simp [heq])

def surface : Surface Script where
  present := present
  setEnabled := setEnabled
  reject := reject
  await := await
  close := close
  remaining s := s.answers.length
  remaining_setEnabled _ _ := Nat.le_refl _
  remaining_username s _ h := (length_answers_await s).resolve_left (by simp [h])
  remaining_secret s _ h := (length_answers_await s).resolve_left (by simp [h])
  remaining_confirm s h := (length_answers_await s).resolve_left (by simp [h])

end Script

end GitLogin
