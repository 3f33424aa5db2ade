import WhistledSpeech.Feed

/-!
# Members of classes

A class lists graphemes. Nothing keeps an author from listing something else – a number, a truth value
or nothing at all – and then that is a member too, though no grapheme of a text is ever it. A list or
an object cannot be a member.

Members are the same if they are the same grapheme or equal numbers; a truth value is the number one or
zero.
-/

namespace WhistledSpeech

/-- **A member of a class.** -/
inductive ClassMember where
  /-- A grapheme, or the name of a class. -/
  | grapheme (name : String)
  /-- No value. -/
  | absent
  /-- A truth value. -/
  | truth (value : Bool)
  /-- An integer. -/
  | whole (value : Int)
  /-- A double, by its bits. -/
  | real (bits : UInt64)
  deriving Repr, DecidableEq

namespace ClassMember

/-- The name of a member, if it has one. -/
def name? : ClassMember → Option String
  | grapheme name => some name
  | _ => none

/-- The integer a member is, if it is one. -/
def whole? : ClassMember → Option Int
  | truth b => some (if b then 1 else 0)
  | whole n => some n
  | real bits =>
    let x := Decimal.Binary64.ofBits bits
    match x, x.floor? with
    | .finite negative mantissa exponent, some n =>
      let signed : Int := if negative then -(mantissa : Int) else mantissa
      if 0 ≤ exponent || n * Int.pow 2 (-exponent).toNat == signed then some n else none
    | _, _ => none
  | _ => none

/-- **Whether two members are the same.** What is not a number is not even the same as itself. -/
def same (a b : ClassMember) : Bool :=
  match a.whole?, b.whole? with
  | some m, some n => m == n
  | none, none =>
    match a, b with
    | real x, real y => x == y && Decimal.Binary64.ofBits x != .nan
    | a, b => a == b
  | _, _ => false

/-- Graphemes are the same member if they are the same text. -/
@[simp] theorem same_grapheme (a b : String) :
    same (grapheme a) (grapheme b) = decide (a = b) := by
  rw [Bool.eq_iff_iff]
  simp [same, whole?]

/-- The member a value of a document is, if it can be one. -/
def ofDocument? : Document → Option ClassMember
  | .text s => some (grapheme s)
  | .null => some absent
  | .bool b => some (truth b)
  | .int n => some (whole n)
  | .float x => some (real x.toBits)
  | .list _ | .object _ => none

/-- A member as a value of a document. -/
def toDocument : ClassMember → Document
  | grapheme s => .text s
  | absent => .null
  | truth b => .bool b
  | whole n => .int n
  | real bits => .float (Float.ofBits bits)

/-- The members of a list; a value that cannot be one breaks off. -/
def ofDocuments : List Document → Feed ClassMember
  | [] => Feed.ofList []
  | value :: rest =>
    match ofDocument? value with
    | some member => Feed.cons member (ofDocuments rest)
    | none => Feed.broken .wrongType

end ClassMember

end WhistledSpeech
