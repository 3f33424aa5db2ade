/-!
# Ends of lines

Lines of a text end with a line feed, however they ended where the text was read from: with a carriage
return, with a line feed, or with one after the other.
-/

namespace WhistledSpeech.Text

/-- **The text with every end of a line as a single line feed.** -/
def withLineFeeds : List Char → List Char
  | [] => []
  | '\r' :: '\n' :: rest => '\n' :: withLineFeeds rest
  | '\r' :: rest => '\n' :: withLineFeeds rest
  | c :: rest => c :: withLineFeeds rest

/-- A text as it is read from a file. -/
def asRead (s : String) : String := String.ofList (withLineFeeds s.toList)

end WhistledSpeech.Text
