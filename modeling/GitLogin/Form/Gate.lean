namespace GitLogin

inductive Gate
  | disabled
  | enabled
  deriving DecidableEq

namespace Gate

def initial : Gate := .disabled

def isEnabled (g : Gate) : Bool := g = .enabled

def ofLength (n : Nat) : Gate := if 0 < n then .enabled else .disabled

def feed (g : Gate) (n : Nat) : Gate × Bool := (ofLength n, ofLength n != g)

@[simp] theorem feed_fst (g : Gate) (n : Nat) : (g.feed n).1 = ofLength n := rfl

theorem isEnabled_ofLength (n : Nat) : (ofLength n).isEnabled = decide (0 < n) := by
  unfold ofLength isEnabled
  split <;> simp_all

theorem isEnabled_of_ne {g g' : Gate} (h : g ≠ g') : g.isEnabled = !g'.isEnabled := by
  cases g <;> cases g' <;> simp_all [isEnabled]

end Gate

end GitLogin
