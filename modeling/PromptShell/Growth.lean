namespace PromptShell

/-- Requests from this size on are beyond what most machines can allocate. -/
def allocationLimit : Nat := Nat.pow 2 59

/-- An allocator says whether there is room for a number of items more behind a number of items. -/
abbrev Allocator := Nat → Nat → Bool

/-- An allocator that refuses what is beyond most machines, and nothing else. -/
def Allocator.standard : Allocator := fun _ more => more < allocationLimit

/-- The allocators that a shell meets: one for each line that it reads and one for each text that it
cuts into words, in order. So the room that there is may change from one buffer to the next. -/
structure Memory where
  lines : Nat → Allocator
  words : Nat → Allocator

namespace Memory

/-- Every buffer meets the same allocator. -/
def standard : Memory := ⟨fun _ => .standard, fun _ => .standard⟩

/-- The memory behind the buffer of a line. -/
def behindLine (memory : Memory) : Memory :=
  { memory with lines := fun index => memory.lines (index + 1) }

/-- The memory behind a list of words. -/
def behindWords (memory : Memory) : Memory :=
  { memory with words := fun index => memory.words (index + 1) }

end Memory

/-- A growing buffer with the capacities that its growths reached, the oldest first. It starts with
room for one step and grows by one step as soon as it is full, so there is always room for one more
item. -/
structure Buffer (Item : Type) where
  step : Nat
  items : Array Item
  capacity : Nat
  growths : Array Nat

namespace Buffer

variable {Item : Type}

/-- An empty buffer has room for one step. -/
def empty (step : Nat) : Buffer Item := ⟨step, #[], step, #[]⟩

/-- An empty buffer, if there is room for its first step. -/
def allocate? (allocator : Allocator) (step : Nat) : Option (Buffer Item) :=
  if allocator 0 step then some (empty step) else none

/-- The item is stored, and a buffer that is full then grows by one step. -/
def push (buffer : Buffer Item) (item : Item) : Buffer Item :=
  let items := buffer.items.push item
  if buffer.capacity ≤ items.size then
    let capacity := buffer.capacity + buffer.step
    { buffer with items, capacity, growths := buffer.growths.push capacity }
  else
    { buffer with items }

/-- The buffer after the items are stored in order. -/
def pushAll (buffer : Buffer Item) (items : List Item) : Buffer Item :=
  items.foldl push buffer

/-- The item is stored if there is room for the step that it may need. Without it the item has
filled a buffer that does not grow. -/
def store (allocator : Allocator) (buffer : Buffer Item) (item : Item) :
    Except (Buffer Item) (Buffer Item) :=
  let count := buffer.items.size + 1
  if buffer.capacity ≤ count && !allocator count buffer.step then
    .error { buffer with items := buffer.items.push item }
  else .ok (buffer.push item)

/-- The items are stored in order, up to one for which there is no room. -/
def storeAll (allocator : Allocator) (buffer : Buffer Item) :
    List Item → Except (Buffer Item) (Buffer Item)
  | [] => .ok buffer
  | item :: rest =>
      match buffer.store allocator item with
      | .ok next => next.storeAll allocator rest
      | .error full => .error full

/-- The capacity that a number of items needs in steps of one size. -/
def capacityFor (step count : Nat) : Nat := step * (count / step + 1)

/-- The capacities above one step that lead to the one for a number of items. -/
def growthsFor (step count : Nat) : List Nat :=
  (List.range (count / step)).map fun index => step * (index + 2)

@[simp] theorem pushAll_nil (buffer : Buffer Item) : buffer.pushAll [] = buffer := rfl

@[simp] theorem pushAll_cons (buffer : Buffer Item) (item : Item) (rest : List Item) :
    buffer.pushAll (item :: rest) = (buffer.push item).pushAll rest := rfl

theorem pushAll_append (buffer : Buffer Item) (first second : List Item) :
    buffer.pushAll (first ++ second) = (buffer.pushAll first).pushAll second := by
  simp [pushAll]

@[simp] theorem push_items (buffer : Buffer Item) (item : Item) :
    (buffer.push item).items = buffer.items.push item := by
  simp only [push]
  split <;> rfl

@[simp] theorem pushAll_items (buffer : Buffer Item) (items : List Item) :
    (buffer.pushAll items).items.toList = buffer.items.toList ++ items := by
  induction items generalizing buffer with
  | nil => simp
  | cons item rest ih => simp [ih]

end Buffer
end PromptShell
