import ProxyWatch.Number.Power

/-!
A lossy feed: published items are kept in a ring of fixed size, and every receiver reads them in order. A
receiver that falls behind by more than the ring holds first learns how many items it lost.
-/
namespace ProxyWatch

/-- The least power of two that is at least `n`. -/
def nextPowerOfTwo (n : Nat) : Nat := if n ≤ 1 then 1 else pow2 ((n - 1).log2 + 1)

/-- Everything published so far, and the position of every receiver. -/
structure Feed (α : Type) where
  size : Nat
  published : Array α := #[]
  receivers : Array Nat := #[]

/-- What a receiver gets. -/
inductive Reception (α : Type)
  | item (a : α)
  | empty
  | lagged (lost : Nat)

namespace Feed

variable {α : Type}

/-- How many items the feed of an application keeps. -/
def defaultCapacity : Nat := 256

/-- A feed that keeps at least the given number of items, and at least one. -/
def ofCapacity (capacity : Nat) : Feed α := { size := nextPowerOfTwo (max capacity 1) }

/-- Adds a receiver that sees everything published from now on. -/
def subscribe (f : Feed α) : Feed α × Nat :=
  ({ f with receivers := f.receivers.push f.published.size }, f.receivers.size)

def publish (f : Feed α) (a : α) : Feed α := { f with published := f.published.push a }

/-- The number of items no longer kept. -/
def dropped (f : Feed α) : Nat := f.published.size - f.size

/-- One reading by receiver `rx`; none if there is no such receiver. -/
def receive (f : Feed α) (rx : Nat) : Option (Feed α × Reception α) := do
  let position ← f.receivers[rx]?
  if position < f.dropped then
    return ({ f with receivers := f.receivers.setIfInBounds rx f.dropped },
      .lagged (f.dropped - position))
  else
    match f.published[position]? with
    | some a => return ({ f with receivers := f.receivers.setIfInBounds rx (position + 1) }, .item a)
    | none => return (f, .empty)

end Feed
end ProxyWatch
