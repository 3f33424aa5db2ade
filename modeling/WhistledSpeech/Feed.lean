import WhistledSpeech.Fault

/-!
# Feeds

Segments are made one at a time and used as they come, so what was made before a fault has been used
when the fault is met. A feed is such a list: its items in order, and the fault it breaks off with if
it does not run to its end. Two stages in a row keep the order of events: a fault of the later stage
at an item comes before a fault the earlier stage would have met after it.
-/

namespace WhistledSpeech

/-- **A list that may break off**: the items made, and the fault met after the last of them. -/
structure Feed (α : Type) where
  /-- The items, in order. -/
  items : List α
  /-- The fault after the last item, unless the feed runs to its end. -/
  fault : Option Fault

namespace Feed

variable {α β σ : Type}

/-- A feed that runs to its end. -/
def ofList (items : List α) : Feed α := ⟨items, none⟩

/-- A feed that breaks off at once. -/
def broken (fault : Fault) : Feed α := ⟨[], some fault⟩

/-- Puts an item in front. -/
def cons (item : α) (feed : Feed α) : Feed α := ⟨item :: feed.items, feed.fault⟩

/-- Goes on with a second feed, unless the first breaks off. -/
def append (first second : Feed α) : Feed α :=
  match first.fault with
  | some _ => first
  | none => ⟨first.items ++ second.items, second.fault⟩

/-- The items of a feed that runs to its end, or the fault it breaks off with. -/
def toExcept (feed : Feed α) : Except Fault (List α) :=
  match feed.fault with
  | some fault => .error fault
  | none => .ok feed.items

/-- A feed of the items of a list, or of none and a fault. -/
def ofExcept : Except Fault (List α) → Feed α
  | .ok items => ofList items
  | .error fault => broken fault

/-- Replaces every item by a feed of its own, up to the first that breaks off. -/
def expand (f : α → Feed β) (source : Feed α) : Feed β :=
  source.items.foldr (fun item rest => append (f item) rest) ⟨[], source.fault⟩

/-- Replaces every item by another, up to the first that has none. -/
def mapExcept (f : α → Except Fault β) (source : Feed α) : Feed β :=
  source.items.foldr
    (fun item rest => match f item with
      | .ok made => cons made rest
      | .error fault => broken fault)
    ⟨[], source.fault⟩

@[simp] theorem append_ofList (first second : List α) :
    append (ofList first) (ofList second) = ofList (first ++ second) := rfl

end Feed

end WhistledSpeech
