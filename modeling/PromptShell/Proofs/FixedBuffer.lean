import PromptShell.Proofs.Capacity
namespace PromptShell

variable {Item : Type}

/-- The most bytes that one allocation can have: as many as 63 bits count. -/
def byteLimit : Nat := Nat.pow 2 63 - 1

theorem byteLimit_lt_size : byteLimit < UInt64.size := by decide

/-- Room is given only if 63 bits count the bytes of all items, each of which has one width. -/
def Allocator.Within (allocator : Allocator) (width : Nat) : Prop :=
  ∀ held more, allocator held more = true → width * (held + more) ≤ byteLimit

/-- A growing buffer whose step and capacities are numbers of 64 bits, so that their sums wrap. -/
structure FixedBuffer (Item : Type) where
  step : UInt64
  items : Array Item
  capacity : UInt64
  growths : Array UInt64

namespace FixedBuffer

/-- An empty buffer, if there is room for one step. -/
def start? (allocator : Allocator) (step : UInt64) : Option (FixedBuffer Item) :=
  if allocator 0 step.toNat then some ⟨step, #[], step, #[]⟩ else none

/-- The item is stored, and a buffer that is full then grows by one step if there is room for it. -/
def push? (allocator : Allocator) (fixed : FixedBuffer Item) (item : Item) :
    Option (FixedBuffer Item) :=
  let items := fixed.items.push item
  if fixed.capacity.toNat ≤ items.size then
    if allocator items.size fixed.step.toNat then
      let capacity := fixed.capacity + fixed.step
      some { fixed with items, capacity, growths := fixed.growths.push capacity }
    else none
  else some { fixed with items }

/-- The buffer after the items are stored in order. -/
def pushAll? (allocator : Allocator) (fixed : FixedBuffer Item) (items : List Item) :
    Option (FixedBuffer Item) :=
  items.foldlM (push? allocator) fixed

/-- A buffer that was empty at first, after the items are stored in order. -/
def fill? (allocator : Allocator) (step : UInt64) (items : List Item) :
    Option (FixedBuffer Item) :=
  (start? allocator step).bind fun fixed => fixed.pushAll? allocator items

/-- The fixed numbers are those of a buffer. -/
structure Counts (fixed : FixedBuffer Item) (buffer : Buffer Item) : Prop where
  step : fixed.step.toNat = buffer.step
  items : fixed.items = buffer.items
  capacity : fixed.capacity.toNat = buffer.capacity
  growths : fixed.growths.toList.map UInt64.toNat = buffer.growths.toList

end FixedBuffer

/-- Items whose bytes 63 bits count are themselves counted by 63 bits. -/
theorem Allocator.Within.le {allocator : Allocator} {width : Nat} (within : allocator.Within width)
    (wide : 0 < width) {held more : Nat} (given : allocator held more = true) :
    held + more ≤ byteLimit :=
  Nat.le_trans (Nat.le_mul_of_pos_left (held + more) wide) (within held more given)

/-- A sum that is small enough does not wrap. -/
theorem toNat_add_of_lt {first second : UInt64} (small : first.toNat + second.toNat < UInt64.size) :
    (first + second).toNat = first.toNat + second.toNat := by
  rw [UInt64.toNat_add, Nat.mod_eq_of_lt small]

namespace FixedBuffer

variable {allocator : Allocator} {width step : Nat} {held : List Item} {buffer : Buffer Item}
  {fixed : FixedBuffer Item}

/-- A buffer that an item fills grows if there is room. -/
theorem push?_of_full (allocator : Allocator) (item : Item)
    (full : fixed.capacity.toNat ≤ fixed.items.size + 1) :
    fixed.push? allocator item =
      if allocator (fixed.items.size + 1) fixed.step.toNat then
        some ⟨fixed.step, fixed.items.push item, fixed.capacity + fixed.step,
          fixed.growths.push (fixed.capacity + fixed.step)⟩
      else none := by
  rw [push?, Array.size_push, if_pos full]

/-- A buffer in which an item leaves room asks for none. -/
theorem push?_of_room (allocator : Allocator) (item : Item)
    (room : fixed.items.size + 1 < fixed.capacity.toNat) :
    fixed.push? allocator item = some { fixed with items := fixed.items.push item } := by
  rw [push?, Array.size_push, if_neg (Nat.not_le.mpr room)]

/-- A full buffer that is given room counts its next capacity. The sum is no larger than the items
that it has room for, since the capacity of a full buffer is its length. -/
theorem Counts.grow (within : allocator.Within width) (wide : 0 < width)
    (counts : fixed.Counts buffer) (item : Item)
    (full : buffer.capacity = buffer.items.size + 1)
    (given : allocator (buffer.items.size + 1) buffer.step = true) :
    Counts ⟨fixed.step, fixed.items.push item, fixed.capacity + fixed.step,
      fixed.growths.push (fixed.capacity + fixed.step)⟩ (buffer.push item) := by
  have small : buffer.capacity + buffer.step < UInt64.size := by
    rw [full]
    exact Nat.lt_of_le_of_lt (within.le wide given) byteLimit_lt_size
  have sum : (fixed.capacity + fixed.step).toNat = buffer.capacity + buffer.step := by
    rw [toNat_add_of_lt, counts.capacity, counts.step]
    rwa [counts.capacity, counts.step]
  rw [Buffer.push_of_full item (Nat.le_of_eq full)]
  refine ⟨counts.step, ?_, sum, ?_⟩
  · exact congrArg (·.push item) counts.items
  · rw [Array.toList_push, Array.toList_push, List.map_append, counts.growths, List.map_singleton,
      sum]

/-- An item is stored if there is room for the step that it may need, and the numbers of the buffer
are exact again. -/
theorem Counts.push (within : allocator.Within width) (wide : 0 < width) (positive : 0 < step)
    (regular : buffer.Regular step held) (counts : fixed.Counts buffer) (item : Item) :
    ((fixed.push? allocator item).isSome ↔
        (step ∣ held.length + 1 → allocator (held.length + 1) step = true)) ∧
      ∀ next, fixed.push? allocator item = some next → next.Counts (buffer.push item) := by
  have size := regular.size
  have fixedSize : fixed.items.size = held.length := by
    rw [counts.items, size]
  have capacity : fixed.capacity.toNat = Buffer.capacityFor step held.length := by
    rw [counts.capacity, regular.capacity]
  have fixedStep : fixed.step.toNat = step := by
    rw [counts.step, regular.steps]
  have room := Buffer.lt_capacityFor positive held.length
  by_cases full : step ∣ held.length + 1
  · have reached := (Buffer.full_iff_dvd positive held.length).mpr full
    rw [push?_of_full allocator item (by rw [capacity, fixedSize]; exact reached), fixedSize,
      fixedStep]
    cases given : allocator (held.length + 1) step with
    | false => simp [full]
    | true =>
        refine ⟨by simp, ?_⟩
        rintro next ⟨⟩
        apply counts.grow within wide item
        · rw [regular.capacity, size]
          omega
        · rwa [size, regular.steps]
  · have left : held.length + 1 < Buffer.capacityFor step held.length := by
      rw [← Buffer.full_iff_dvd positive] at full
      omega
    rw [push?_of_room allocator item (by rwa [capacity, fixedSize])]
    refine ⟨by simp [full], ?_⟩
    rintro next ⟨⟩
    rw [Buffer.push_of_room item (by rwa [regular.capacity, size])]
    exact ⟨counts.step, congrArg (·.push item) counts.items, counts.capacity, counts.growths⟩

/-- Items are stored in order if there is room behind each full step, and the numbers are exact all
the way. -/
theorem Counts.pushAll (within : allocator.Within width) (wide : 0 < width) (positive : 0 < step)
    (regular : buffer.Regular step held) (counts : fixed.Counts buffer) (items : List Item) :
    ((fixed.pushAll? allocator items).isSome ↔
        allocator.Gives step held.length (held.length + items.length)) ∧
      ∀ filled, fixed.pushAll? allocator items = some filled →
        filled.Counts (buffer.pushAll items) := by
  induction items generalizing held buffer fixed with
  | nil =>
      refine ⟨?_, ?_⟩
      · simp only [FixedBuffer.pushAll?, List.foldlM_nil, List.length_nil, Nat.add_zero]
        refine ⟨?_, fun _ => rfl⟩
        intro _ full above below
        omega
      · rintro filled ⟨⟩
        exact counts
  | cons item rest ih =>
      obtain ⟨stored, tells⟩ := counts.push within wide positive regular item
      have parts : fixed.pushAll? allocator (item :: rest) =
          (fixed.push? allocator item).bind fun next => next.pushAll? allocator rest := rfl
      have lengths : (held ++ [item]).length + rest.length =
          held.length + (item :: rest).length := by
        simp only [List.length_append, List.length_cons, List.length_nil]
        omega
      -- Both sides look at the step that the first item may need, and then at the other items.
      rw [parts, allocator.gives_iff (by simp), ← stored, ← lengths]
      cases pushed : fixed.push? allocator item with
      | none => simp
      | some next =>
          have following := ih (regular.push positive item) (tells next pushed)
          simpa using following

/-- A buffer is filled if there is room for the first step and for one more behind each full step,
and the numbers of the filled buffer are exact. -/
theorem fill?_spec (within : allocator.Within width) (wide : 0 < width) (positive : 0 < step)
    (small : step < UInt64.size) (items : List Item) :
    ((fill? allocator (.ofNat step) items).isSome ↔
        ∀ full ≤ items.length, step ∣ full → allocator full step = true) ∧
      ∀ fixed, fill? allocator (.ofNat step) items = some fixed →
        fixed.Counts ((Buffer.empty step).pushAll items) := by
  have same : (UInt64.ofNat step).toNat = step := UInt64.toNat_ofNat_of_lt' small
  rw [fill?, start?, same]
  cases first : allocator 0 step with
  | false =>
      refine ⟨?_, by rintro fixed ⟨⟩⟩
      simp only [Bool.false_eq_true, if_false, Option.bind_none, Option.isSome_none, false_iff]
      intro given
      have refused := given 0 (Nat.zero_le _) (Nat.dvd_zero step)
      rw [first] at refused
      cases refused
  | true =>
      have start : Counts ⟨.ofNat step, #[], .ofNat step, #[]⟩ (Buffer.empty step : Buffer Item) :=
        ⟨same, rfl, same, rfl⟩
      obtain ⟨gives, tells⟩ := start.pushAll within wide positive (.empty step) items
      refine ⟨?_, tells⟩
      rw [if_pos rfl, Option.bind_some, gives, List.length_nil, Nat.zero_add]
      constructor
      · intro above full below whole
        rcases Nat.eq_zero_or_pos full with rfl | beyond
        · exact first
        · exact above full beyond below whole
      · intro given full _ below whole
        exact given full below whole

end FixedBuffer

/-- A buffer of some items that never wraps with numbers of 64 bits, if room is given only as far as
63 bits count the bytes of the items. It is filled so far exactly if there is room for the first
step and for one more behind each full step, and its numbers are then exact. -/
structure Buffer.NeverWraps (width step : Nat) (buffer : Buffer Item) : Prop where
  room : ∀ allocator : Allocator, allocator.Within width →
    ((FixedBuffer.fill? allocator (.ofNat step) buffer.items.toList).isSome ↔
      ∀ full ≤ buffer.items.size, step ∣ full → allocator full step = true)
  counts : ∀ allocator : Allocator, allocator.Within width → ∀ fixed,
    FixedBuffer.fill? allocator (.ofNat step) buffer.items.toList = some fixed →
      fixed.Counts buffer

/-- Where there is room for all steps the exact numbers are reached. -/
theorem Buffer.NeverWraps.reached {width step : Nat} {buffer : Buffer Item}
    (never : buffer.NeverWraps width step) {allocator : Allocator}
    (within : allocator.Within width)
    (given : ∀ full ≤ buffer.items.size, allocator full step = true) :
    ∃ fixed, FixedBuffer.fill? allocator (.ofNat step) buffer.items.toList = some fixed ∧
      fixed.Counts buffer := by
  have room := (never.room allocator within).mpr fun full below _ => given full below
  obtain ⟨fixed, filled⟩ := Option.isSome_iff_exists.mp room
  exact ⟨fixed, filled, never.counts allocator within fixed filled⟩

/-- No buffer wraps while it is filled. -/
theorem Buffer.neverWraps {width step : Nat} (wide : 0 < width) (positive : 0 < step)
    (small : step < UInt64.size) (items : List Item) :
    ((Buffer.empty step).pushAll items).NeverWraps width step := by
  have regular := regular_pushAll positive items
  constructor
  · intro allocator within
    rw [regular.holds, regular.size]
    exact (FixedBuffer.fill?_spec within wide positive small items).1
  · intro allocator within
    rw [regular.holds]
    exact (FixedBuffer.fill?_spec within wide positive small items).2

example : (FixedBuffer.fill? (fun held more => held + more ≤ 4) 2 [1, 2, 3]).isSome ∧
    (FixedBuffer.fill? (fun held more => held + more ≤ 4) 2 [1, 2, 3, 4]).isNone := by decide

/-- A filled buffer holds its items, has the size that their number tells, and never wraps. -/
theorem Buffer.pushAll_sized {width step : Nat} (wide : 0 < width)
    (small : step < UInt64.size) (items : List Item) :
    let buffer := (Buffer.empty (max step 1)).pushAll items
    buffer.items.toList = items ∧
      Sized (max step 1) items.length buffer.capacity buffer.growths.toList ∧
      buffer.NeverWraps width (max step 1) := by
  have positive : 0 < max step 1 := by omega
  have small : max step 1 < UInt64.size := Nat.max_lt.mpr ⟨small, by decide⟩
  have regular := regular_pushAll positive items
  exact ⟨regular.holds, regular.sized positive, neverWraps wide positive small items⟩

end PromptShell
