import WhistledSpeech.Decimal.Shortest
import WhistledSpeech.Text.Quoted

/-!
# Documents

An acoustic model and a list of raw segments arrive as a tree of plain values: numbers, texts, lists
and objects whose entries keep the order in which they were written. Much of that order is meaning –
a later context rule overrides an earlier one, and constants are evaluated in the order of their
entries – so an object is a list of entries and not a map.

The engine reads a document as it goes, and a field may hold anything an author wrote. The functions
here are the few questions it asks: `field?` for an entry by key, `isEmptyValue` for a value that
counts as left out, and `display` for the form a value takes in a message.
-/

namespace WhistledSpeech

/-- **A value of a document.** -/
inductive Document where
  /-- No value. -/
  | null
  /-- A truth value. -/
  | bool (value : Bool)
  /-- An integer of any size. -/
  | int (value : Int)
  /-- A number with a point or an exponent. -/
  | float (value : Float)
  /-- A text. -/
  | text (value : String)
  /-- A list. -/
  | list (items : List Document)
  /-- An object: its entries, each key once, in the order of their first mention. -/
  | object (entries : List (String × Document))
  deriving Inhabited

namespace Document

/-- **Sets an entry**: the value of a key already there is replaced in its place, a new key goes to
the end. -/
def setEntry {α : Type} (key : String) (value : α) : List (String × α) → List (String × α)
  | [] => [(key, value)]
  | (k, v) :: rest => if k = key then (k, value) :: rest else (k, v) :: setEntry key value rest

/-- The entries of a list of pairs, a repeated key keeping its first place and its last value. -/
def entriesOf {α : Type} (pairs : List (String × α)) : List (String × α) :=
  pairs.foldl (fun entries pair => setEntry pair.1 pair.2 entries) []

/-- The value under a key. -/
def find? {α : Type} (key : String) : List (String × α) → Option α
  | [] => none
  | (k, v) :: rest => if k = key then some v else find? key rest

/-- A key just set is found with the value it was set to. -/
@[simp] theorem find?_setEntry_self {α : Type} (key : String) (value : α)
    (entries : List (String × α)) : find? key (setEntry key value entries) = some value := by
  induction entries with
  | nil => simp [setEntry, find?]
  | cons entry rest ih =>
    obtain ⟨k, v⟩ := entry
    by_cases h : k = key <;> simp [setEntry, find?, h, ih]

/-- Setting one key leaves what is found under the others. -/
theorem find?_setEntry_of_ne {α : Type} {key other : String} (h : other ≠ key) (value : α)
    (entries : List (String × α)) : find? other (setEntry key value entries) = find? other entries := by
  induction entries with
  | nil => simp [setEntry, find?, Ne.symm h]
  | cons entry rest ih =>
    obtain ⟨k, v⟩ := entry
    by_cases hk : k = key
    · subst hk; simp [setEntry, find?, Ne.symm h]
    · by_cases ho : k = other
      · subst ho; simp [setEntry, find?, hk]
      · simp [setEntry, find?, hk, ho, ih]

/-- **A value that counts as left out**: none, false, zero, or an empty text, list or object. -/
def isEmptyValue : Document → Bool
  | .null => true
  | .bool b => !b
  | .int n => n == 0
  | .float x => x == 0
  | .text s => s.isEmpty
  | .list items => items.isEmpty
  | .object entries => entries.isEmpty

mutual
/-- **The form of a value in a message.** -/
def display : Document → String
  | .null => "None"
  | .bool true => "True"
  | .bool false => "False"
  | .int n => (if n < 0 then "-" else "") ++ String.ofList (Decimal.digits n.natAbs)
  | .float x => Decimal.shown x
  | .text s => Text.quoted s
  | .list items => "[" ++ ", ".intercalate (displayItems items) ++ "]"
  | .object entries => "\x7b" ++ ", ".intercalate (displayEntries entries) ++ "\x7d"

/-- The forms of the items of a list. -/
def displayItems : List Document → List String
  | [] => []
  | item :: rest => display item :: displayItems rest

/-- The forms of the entries of an object. -/
def displayEntries : List (String × Document) → List String
  | [] => []
  | (key, value) :: rest => (Text.quoted key ++ ": " ++ display value) :: displayEntries rest
end

/-- The text of a value: a text as it stands, any other value in its form in a message. -/
def plain : Document → String
  | .text s => s
  | value => value.display

end Document

end WhistledSpeech
