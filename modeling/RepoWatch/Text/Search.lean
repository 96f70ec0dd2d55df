/-!
# Searching

Whether a text occurs in another one.
-/

namespace RepoWatch.Text

/-- Whether `part` begins somewhere in a list of characters. -/
def occursIn (part : List Char) : List Char → Bool
  | [] => part.isEmpty
  | c :: cs => part.isPrefixOf (c :: cs) || occursIn part cs

/-- Whether `part` occurs in `whole`. -/
def contains (whole part : String) : Bool := occursIn part.toList whole.toList

end RepoWatch.Text
