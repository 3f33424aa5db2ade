import WhistledSpeech.Feed

/-!
# Taking values apart

How the engine uses a value that may be of any kind. It asks for a number, for entries or for members,
and a value of another kind gives the fault that its place calls for. A text can be gone through like a
list, character by character, and an object key by key.
-/

namespace WhistledSpeech

namespace Document

/-- The number a value is, if it is one; a truth value is one or zero. An integer beyond the range of
the doubles is a fault. -/
def number? : Document → Option (Except Fault Float)
  | .bool b => some (.ok (if b then 1 else 0))
  | .int n => some (if Decimal.Binary64.fitsInt n then .ok (Decimal.Binary64.ofInt n)
      else .error .overflow)
  | .float x => some (.ok x)
  | _ => none

/-- **The entries of a value that has to be an object.** A value that counts as left out has none. -/
def optionalEntries (value : Document) : Except Fault (List (String × Document)) :=
  if value.isEmptyValue then .ok []
  else match value with
    | .object entries => .ok entries
    | _ => .error .wrongShape

/-- **The members of a value**: the items of a list, the characters of a text, the keys of an object.
Nothing else has members. -/
def members? : Document → Option (List Document)
  | .list items => some items
  | .text s => some (s.toList.map fun c => .text (String.singleton c))
  | .object entries => some (entries.map fun entry => .text entry.1)
  | _ => none

end Document

end WhistledSpeech
