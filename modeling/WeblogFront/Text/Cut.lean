/-! Cutting text at separators. A text is a list of characters here. Every function keeps each
character it does not name, so the pieces, joined by what was dropped, give the text back. -/
namespace WeblogFront.Text

def cutOnce (separator : Char) : List Char → List Char × Option (List Char)
  | [] => ([], none)
  | c :: rest =>
    if c = separator then ([], some rest)
    else
      let tail := cutOnce separator rest
      (c :: tail.1, tail.2)

/-- The runs between separators: one more run than there are separators, empty runs included. -/
def pieces (isSeparator : Char → Bool) : List Char → List (List Char)
  | [] => [[]]
  | c :: rest =>
    if isSeparator c then [] :: pieces isSeparator rest
    else
      match pieces isSeparator rest with
      | [] => [[c]]
      | first :: others => (c :: first) :: others

def dropLead (c : Char) : List Char → List Char
  | [] => []
  | head :: rest => if head = c then rest else head :: rest

def dropTrail (c : Char) (text : List Char) : List Char :=
  (dropLead c text.reverse).reverse

def trimEnds (drops : Char → Bool) (text : List Char) : List Char :=
  ((text.dropWhile drops).reverse.dropWhile drops).reverse

def after? (lead text : List Char) : Option (List Char) :=
  lead.isPrefixOf? text

def exchange (old new : Char) (text : List Char) : List Char :=
  text.map fun c => if c = old then new else c

end WeblogFront.Text
