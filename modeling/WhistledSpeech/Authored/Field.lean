import WhistledSpeech.Document.Access

/-!
# Fields of an authored document

What an author writes is read into types of its own before anything is made of it. The functions here
read the fields of an object, each with the reader of its value: a field that has to be there, one that
may be left out, and one that may also be written as nothing. Keys nobody asks for are passed over.

The writers beside them give back the entries a field was read from, in the order of the type; what was
left out is not written.
-/

namespace WhistledSpeech.Authored

variable {α : Type}

/-- The entries of an object. -/
abbrev Entries := List (String × Document)

/-- A field that has to be there. -/
def required (read : Document → Option α) (key : String) (entries : Entries) : Option α :=
  (Document.find? key entries).bind read

/-- **A field that may be left out**, or written as nothing. -/
def optional (read : Document → Option α) (key : String) (entries : Entries) :
    Option (Option α) :=
  match Document.find? key entries with
  | none | some .null => some none
  | some value => (read value).map some

/-- **A field that may be left out**, and then has a value all the same. -/
def withDefault (read : Document → Option α) (key : String) (fallback : α) (entries : Entries) :
    Option α :=
  match Document.find? key entries with
  | none => some fallback
  | some value => read value

/-- Reads the entries of an object. -/
def ofObject? (read : Entries → Option α) : Document → Option α
  | .object entries => read entries
  | _ => none

/-- A text. -/
def text? : Document → Option String
  | .text s => some s
  | _ => none

/-- A list, item by item. -/
def list? (read : Document → Option α) : Document → Option (List α)
  | .list items => items.mapM read
  | _ => none

/-- An object whose keys are names, entry by entry. -/
def table? (read : Document → Option α) : Document → Option (List (String × α))
  | .object entries => entries.mapM fun entry => (read entry.2).map (entry.1, ·)
  | _ => none

/-! ## Writing -/

/-- The entry of a field that may be left out. -/
def entry (write : α → Document) (key : String) : Option α → Entries
  | none => []
  | some value => [(key, write value)]

/-- A list as a document. -/
def ofList (write : α → Document) (items : List α) : Document := .list (items.map write)

/-- A table as a document. -/
def ofTable (write : α → Document) (table : List (String × α)) : Document :=
  .object (table.map fun row => (row.1, write row.2))

/-! ## Reading what was written -/

/-- A field just written is found, and makes no difference under other keys. -/
@[simp] theorem find?_entry_append (write : α → Document) (key other : String) (value : Option α)
    (rest : Entries) :
    Document.find? key (entry write other value ++ rest) =
      if other = key then (value.map write).or (Document.find? key rest)
      else Document.find? key rest := by
  cases value <;> simp [entry, Document.find?]

/-- A field by itself is found under its key and no other. -/
@[simp] theorem find?_entry (write : α → Document) (key other : String) (value : Option α) :
    Document.find? key (entry write other value) =
      if other = key then value.map write else none := by
  cases value <;> simp [entry, Document.find?]

/-- A field of another key makes no difference. -/
theorem find?_entry_of_ne (write : α → Document) {key other : String} (h : other ≠ key)
    (value : Option α) (rest : Entries) :
    Document.find? key (entry write other value ++ rest) = Document.find? key rest := by
  rw [find?_entry_append, if_neg h]

/-- **A field that may be left out reads back**, whether it was left out or not. -/
theorem optional_of_find? {read : Document → Option α} {write : α → Document} {key : String}
    {entries : Entries} {value : Option α} (back : ∀ x, read (write x) = some x)
    (notNull : ∀ x, write x ≠ .null) (found : Document.find? key entries = value.map write) :
    optional read key entries = some value := by
  cases value with
  | none => simp [optional, found]
  | some x =>
    have := notNull x
    simp only [optional, found, Option.map_some, back]

/-- A text that may be left out reads back. -/
theorem optional_text?_of_find? {key : String} {entries : Entries} {value : Option String}
    (found : Document.find? key entries = value.map .text) :
    optional text? key entries = some value := by
  have back : ∀ s, text? (.text s) = some s := fun _ => rfl
  exact optional_of_find? back (fun _ => nofun) found

/-- **A list reads back**, if its items do. -/
theorem list?_ofList {read : Document → Option α} {write : α → Document}
    (back : ∀ x, read (write x) = some x) (items : List α) :
    list? read (ofList write items) = some items := by
  show (items.map write).mapM read = some items
  induction items with
  | nil => rfl
  | cons item rest ih =>
    rw [List.map_cons, List.mapM_cons, back, ih]
    rfl

/-! ## Quantities -/

/-- **A quantity**: a number or a formula. -/
inductive Quantity where
  /-- A number. -/
  | number (x : Float)
  /-- A formula, as it is written. -/
  | formula (written : String)

namespace Quantity

/-- The quantity of a value. A truth value is one or zero; a text is a formula, be it of digits. -/
def ofDocument? : Document → Option Quantity
  | .text written => some (formula written)
  | value =>
    match value.number? with
    | some (.ok x) => some (number x)
    | _ => none

/-- The quantity as a document. -/
def toDocument : Quantity → Document
  | number x => .float x
  | formula written => .text written

@[simp] theorem ofDocument?_toDocument (quantity : Quantity) :
    ofDocument? quantity.toDocument = some quantity := by
  cases quantity <;> rfl

theorem toDocument_ne_null (quantity : Quantity) : quantity.toDocument ≠ .null := by
  cases quantity <;> simp [toDocument]

/-- A quantity that may be left out reads back. -/
theorem optional_of_find? {key : String} {entries : Entries} {value : Option Quantity}
    (found : Document.find? key entries = value.map toDocument) :
    optional ofDocument? key entries = some value :=
  Authored.optional_of_find? ofDocument?_toDocument toDocument_ne_null found

end Quantity

end WhistledSpeech.Authored
