namespace GitLogin.Text

def pieces {α : Type} [BEq α] (separator : α) : List α → List (List α)
  | [] => [[]]
  | c :: cs =>
    if c == separator then [] :: pieces separator cs
    else
      match pieces separator cs with
      | [] => [[c]]
      | p :: ps => (c :: p) :: ps

@[simp] theorem pieces_ne_nil {α : Type} [BEq α] (separator : α) (cs : List α) :
    pieces separator cs ≠ [] := by
  cases cs with
  | nil => simp [pieces]
  | cons c cs =>
    unfold pieces
    split
    · simp
    · split <;> simp

end GitLogin.Text
