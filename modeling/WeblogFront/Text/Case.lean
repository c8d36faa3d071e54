/-! Letters without regard to their case. Only the twenty-six letters of ASCII have a case here; every
other character stands for itself alone. -/
namespace WeblogFront.Text

def lower (text : List Char) : List Char :=
  text.map Char.toLower

/-- Whether a text is one of some words, which are in lower case themselves. -/
def isOneOf (words : List String) (text : String) : Bool :=
  words.contains (String.ofList (lower text.toList))

end WeblogFront.Text
