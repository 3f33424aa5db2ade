/-!
# Parts of texts

Whether one text stands at the front of another, or anywhere in it.
-/

namespace WhistledSpeech.Text

/-- **What follows a word at the front**, if the word is there. -/
def behind? : List Char → List Char → Option (List Char)
  | [], s => some s
  | w :: word, c :: s => if w = c then behind? word s else none
  | _ :: _, [] => none

/-- **Whether a text is a part of another.** The empty text is a part of every text. -/
def occursIn (part : List Char) : List Char → Bool
  | [] => part.isEmpty
  | c :: s => (behind? part (c :: s)).isSome || occursIn part s

end WhistledSpeech.Text
