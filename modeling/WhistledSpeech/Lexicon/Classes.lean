import WhistledSpeech.Document.Access
import WhistledSpeech.Lexicon.Chain
import WhistledSpeech.Lexicon.Member

/-!
# Classes of graphemes

A class lists graphemes and other classes. Flattening a class puts the members of the classes it lists
in their place, all the way down, and keeps of each member the first mention only. A class that lists
itself, directly or through others, has no members to speak of: that is a fault, and it names the
cycle.

Each class is flattened once. What has been flattened is kept in a table that goes along, and a class
found there is not entered again.
-/

namespace WhistledSpeech

/-- **The classes of a model**: what each lists, in order. A list breaks off at what cannot be a
member. -/
abbrev ClassMap := List (String × Feed ClassMember)

/-- **Classes flattened**: the members of each, each once. -/
abbrev ClassTable := List (String × List ClassMember)

namespace ClassMap

/-- Adds a member, unless it is there. -/
def addMember (members : List ClassMember) (member : ClassMember) : List ClassMember :=
  if members.any (ClassMember.same member) then members else members ++ [member]

/-- Adds members one after the other. -/
def addMembers (members : List ClassMember) (more : List ClassMember) : List ClassMember :=
  more.foldl addMember members

/-- The class that a member names, if it names one. -/
def classOf? (classes : ClassMap) (member : ClassMember) : Option String :=
  member.name?.bind fun name =>
    if (Document.find? name classes).isSome then some name else none

mutual

/-- **Flattens a class** that is reached along a chain of classes: gives its members and the table with
what has been flattened on the way. -/
def flatten (classes : ClassMap) (chain : List String) (table : ClassTable) (name : String) :
    Except Fault (List ClassMember × ClassTable) :=
  match Document.find? name table with
  | some members => .ok (members, table)
  | none =>
    if new : chain.contains name then .error (.circularClass (Chain.cycle chain name))
    else
      match found : Document.find? name classes with
      | none => .error .missingKey
      | some listed =>
        have := Chain.unvisited_lt found (by simpa using new)
        match flattenAll classes (chain ++ [name]) table [] listed.items with
        | .error fault => .error fault
        | .ok (members, table) =>
          match listed.fault with
          | some fault => .error fault
          | none => .ok (members, Document.setEntry name members table)
termination_by (Chain.unvisited classes chain, 0)

/-- Flattens what a class lists, onto the members found so far. -/
def flattenAll (classes : ClassMap) (chain : List String) (table : ClassTable)
    (members : List ClassMember) :
    List ClassMember → Except Fault (List ClassMember × ClassTable)
  | [] => .ok (members, table)
  | listed :: rest =>
    match classOf? classes listed with
    | some name =>
      match flatten classes chain table name with
      | .error fault => .error fault
      | .ok (more, table) => flattenAll classes chain table (addMembers members more) rest
    | none => flattenAll classes chain table (addMember members listed) rest
termination_by listed => (Chain.unvisited classes chain, listed.length + 1)

end

/-- Flattens the classes with the given names, one after the other. -/
def flattenNames (classes : ClassMap) (table : ClassTable) :
    List String → Except Fault ClassTable
  | [] => .ok []
  | name :: rest =>
    match flatten classes [] table name with
    | .error fault => .error fault
    | .ok (members, table) =>
      match flattenNames classes table rest with
      | .error fault => .error fault
      | .ok others => .ok ((name, members) :: others)

/-- **Flattens all classes**, in the order in which they are declared. -/
def resolve (classes : ClassMap) : Except Fault ClassTable :=
  flattenNames classes [] (classes.map Prod.fst)

end ClassMap

namespace ClassTable

/-- What a member stands for in a context: the members of the class it names, or itself. -/
def members (table : ClassTable) (member : ClassMember) : List ClassMember :=
  (member.name?.bind fun name => Document.find? name table).getD [member]

end ClassTable

/-! ## Classes of a document -/

namespace ClassMap

/-- What a value of a document lists as a class. -/
def listed (value : Document) : Feed ClassMember :=
  match value.members? with
  | some values => ClassMember.ofDocuments values
  | none => Feed.broken .wrongType

/-- The classes of a document. -/
def ofDocument (value : Document) : Except Fault ClassMap :=
  if value.isEmptyValue then .ok []
  else match value with
    | .object entries => .ok (entries.map fun entry => (entry.1, listed entry.2))
    | _ => .error .wrongType

end ClassMap

end WhistledSpeech
