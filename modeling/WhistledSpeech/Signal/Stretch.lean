import WhistledSpeech.Fault

/-!
# Stretches of a buffer

A write covers the cells of a buffer from a first index to before a second one, every cell or every
other one. An index below zero counts from the end, and one beyond either end is moved to that end.
`Stretch.fill` puts values into the cells of a stretch, one each, or a single value into all.

A buffer that is made has to fit in memory. How much there is of that is a matter of the machine and not
of the program; `excessiveLength` is what is assumed of it.
-/

namespace WhistledSpeech

/-- **Equally spaced cells of a buffer.** -/
structure Stretch where
  /-- The first cell. -/
  first : Nat
  /-- The distance from one cell to the next. -/
  step : Nat
  /-- How many cells there are. -/
  count : Nat
  deriving Repr, DecidableEq

namespace Stretch

/-- The place of an index in a buffer. -/
def place (size : Nat) (index : Int) : Nat :=
  if index < 0 then (index + size).toNat else min index.toNat size

/-- The cells from one index to before another, a step apart. -/
def between (size : Nat) (start stop : Int) (step : Nat) : Stretch :=
  let first := place size start
  let last := place size stop
  ⟨first, step, if first < last then (last - first - 1) / step + 1 else 0⟩

/-- The cell with a number. -/
def cell (stretch : Stretch) (k : Nat) : Nat := stretch.first + stretch.step * k

variable {α : Type}

/-- Puts values into the cells of a stretch from a number on. -/
def put (stretch : Stretch) (buffer : Array α) (k : Nat) : List α → Array α
  | [] => buffer
  | value :: rest => put stretch (buffer.setIfInBounds (stretch.cell k) value) (k + 1) rest

/-- **What goes into the cells of a stretch**: as many values as cells one into each, a single value into
all. -/
def spread (stretch : Stretch) (values : List α) : Except Fault (List α) :=
  if values.length = stretch.count then .ok values
  else match values with
    | [value] => .ok (List.replicate stretch.count value)
    | _ => .error .unevenStretch

/-- Whether so many values can go into the cells of a stretch. -/
def takes (stretch : Stretch) (count : Nat) : Bool := count == stretch.count || count == 1

/-- **Fills a stretch.** -/
def fill (stretch : Stretch) (buffer : Array α) (values : List α) : Except Fault (Array α) :=
  match stretch.spread values with
  | .ok cells => .ok (stretch.put buffer 0 cells)
  | .error fault => .error fault

@[simp] theorem size_put (stretch : Stretch) (buffer : Array α) (k : Nat) (values : List α) :
    (stretch.put buffer k values).size = buffer.size := by
  induction values generalizing buffer k with
  | nil => rfl
  | cons value rest ih => simp [put, ih]

/-- As many values as cells are left as they are. -/
theorem spread_of_length_eq {stretch : Stretch} {values : List α}
    (h : values.length = stretch.count) : stretch.spread values = .ok values := by
  simp [spread, h]

end Stretch

/-- A length no buffer can have, nor any longer one. -/
def impossibleLength : Int := Int.pow 2 61

/-- **An assumption about the machine**: a length for which it has no memory, nor for any longer one, while
all shorter ones fit. A machine with more or less memory has another length here; what is proved of buffers
rests on no more than that it is less than `impossibleLength`. -/
def excessiveLength : Int := Int.pow 2 34

/-- The fault of a length that a buffer does not have: none ever, or none on the machine that is assumed. -/
def lengthFault? (length : Int) : Option Fault :=
  if length < 0 ∨ impossibleLength ≤ length then some .impossibleLength
  else if excessiveLength ≤ length then some .noMemory
  else none

/-- A buffer of zeros. Its length has to be a length. -/
def zeroBuffer {α : Type} (zero : α) (length : Int) : Except Fault (Array α) :=
  match lengthFault? length with
  | some fault => .error fault
  | none => .ok (Array.replicate length.toNat zero)

/-- **The buffer of a write**: the one at hand if it is long enough for what is needed, or a new one
of just that length. -/
def destination {α : Type} (zero : α) (atHand : Option (Array α)) (need : Int) :
    Except Fault (Array α) :=
  match atHand with
  | none => zeroBuffer zero need
  | some buffer =>
    if (buffer.size : Int) < need then .error (.shortBuffer need buffer.size) else .ok buffer

end WhistledSpeech
