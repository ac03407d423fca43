/-!
ASCII letters without regard to case.
-/

namespace QueryOptions.Text

/-- Makes the letters A to Z small ones. -/
def lowered (text : List Char) : List Char := text.map Char.toLower

end QueryOptions.Text
