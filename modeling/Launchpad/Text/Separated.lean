/-!
Texts made of pieces with one separator between neighbours. Joining and splitting are inverse to
each other as long as no piece holds the separator and there is a piece at all.
-/

namespace Launchpad.Text

variable {α : Type} [DecidableEq α]

def splitOn (separator : α) : List α → List (List α)
  | [] => [[]]
  | c :: rest =>
    if c = separator then [] :: splitOn separator rest
    else match splitOn separator rest with
      | [] => [[c]]
      | piece :: pieces => (c :: piece) :: pieces

def joinWith {α : Type} (separator : α) : List (List α) → List α
  | [] => []
  | [piece] => piece
  | piece :: next :: pieces => piece ++ separator :: joinWith separator (next :: pieces)

theorem splitOn_ne_nil (separator : α) (cs : List α) : splitOn separator cs ≠ [] := by
  cases cs with
  | nil => simp [splitOn]
  | cons c rest =>
    unfold splitOn
    split
    · simp
    · split <;> simp

/-- Joining the pieces of a text gives the text back. -/
theorem joinWith_splitOn (separator : α) (cs : List α) :
    joinWith separator (splitOn separator cs) = cs := by
  induction cs with
  | nil => rfl
  | cons c rest ih =>
    unfold splitOn
    cases h : splitOn separator rest with
    | nil => exact absurd h (splitOn_ne_nil separator rest)
    | cons piece pieces =>
      rw [h] at ih
      by_cases hc : c = separator
      · simp [hc, joinWith, ih]
      · cases pieces with
        | nil => simp [hc, joinWith] at ih ⊢; exact ih
        | cons next more => simp [hc, joinWith] at ih ⊢; exact ih

end Launchpad.Text
