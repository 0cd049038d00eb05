/-!
# Text

A text is a list of characters, so that what is said about it goes by recursion on the list.
Cutting at chosen elements is shared by words, lines and rule segments.
-/

set_option autoImplicit false

namespace Thesaurus

abbrev Text := List Char

instance : Coe String Text := ⟨String.toList⟩

namespace Text

/-- The decimal digits of a number. -/
def ofNat (n : Nat) : Text := Nat.toDigits 10 n

/-- What stands between the elements that satisfy `p`, empty pieces included. -/
def pieces {α : Type} (p : α → Bool) : List α → List (List α)
  | [] => [[]]
  | x :: xs =>
    if p x then [] :: pieces p xs
    else
      match pieces p xs with
      | [] => [[x]]
      | piece :: rest => (x :: piece) :: rest

/-- The texts one after the other with `separator` between neighbours. -/
def join (separator : Text) : List Text → Text
  | [] => []
  | [t] => t
  | t :: u :: rest => t ++ separator ++ join separator (u :: rest)

end Text

end Thesaurus
