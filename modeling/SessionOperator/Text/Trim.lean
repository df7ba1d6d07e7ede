import SessionOperator.Text.CharClass

/-!
# Trimming

Removing white space, in the sense of `Text.isBlank`, from the ends of a text.
-/

namespace SessionOperator

namespace Text

def trimStart (cs : List Char) : List Char := cs.dropWhile isBlank

/-- Removes the characters of a class from the end. -/
def dropEndWhile (p : Char → Bool) (cs : List Char) : List Char := (cs.reverse.dropWhile p).reverse

def trim (s : String) : String := String.ofList (dropEndWhile isBlank (trimStart s.toList))

def isBlankText (s : String) : Bool := s.toList.all isBlank

end Text

end SessionOperator
