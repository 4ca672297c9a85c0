/-!
# Case of ASCII letters

Keywords and the names of fields are the same in upper and in lower case. Only the letters of ASCII
have a case here; every other character is itself.
-/

namespace Lexicon.Text

/-- The text with the letters of ASCII in lower case. -/
def lowerAscii (s : List Char) : String :=
  String.ofList (s.map Char.toLower)

end Lexicon.Text
