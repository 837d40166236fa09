/-!
# Cutting text at a character

A text cut at every occurrence of a character, and put together again. There is always one piece
more than there are cuts, so the empty text has one empty piece.
-/

namespace TypedMvc.Text

/-- The pieces of a text between the occurrences of a character. -/
def piecesOf (separator : Char) : List Char → List (List Char)
  | [] => [[]]
  | c :: rest =>
    if c = separator then [] :: piecesOf separator rest
    else
      match piecesOf separator rest with
      | [] => [[c]]
      | piece :: pieces => (c :: piece) :: pieces

/-- The pieces of a text between the occurrences of a character. -/
def pieces (separator : Char) (s : String) : List String :=
  (piecesOf separator s.toList).map String.ofList

/-- The part of a text behind the last occurrence of a character, or all of it. -/
def afterLast (separator : Char) (text : List Char) : List Char :=
  (text.reverse.takeWhile (· ≠ separator)).reverse

/-- Texts with a separator between any two. -/
def join (separator : String) : List String → String
  | [] => ""
  | [s] => s
  | s :: rest => s ++ separator ++ join separator rest

/-- There is at least one piece. -/
theorem piecesOf_ne_nil (separator : Char) (text : List Char) : piecesOf separator text ≠ [] := by
  cases text with
  | nil => simp [piecesOf]
  | cons c rest =>
    simp only [piecesOf]
    split
    · simp
    · split <;> simp

end TypedMvc.Text
