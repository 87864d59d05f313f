import PromptShell.Growth
namespace PromptShell

variable {Item : Type}

namespace Buffer

/-- A buffer of some items has the capacity for their number, and has grown once for each full
step of them. The capacity is the least multiple of the step above that number. -/
structure Regular (step : Nat) (items : List Item) (buffer : Buffer Item) : Prop where
  steps : buffer.step = step
  holds : buffer.items.toList = items
  capacity : buffer.capacity = capacityFor step items.length
  growths : buffer.growths.toList = growthsFor step items.length

/-- There is room for one more item. -/
theorem lt_capacityFor {step : Nat} (positive : 0 < step) (count : Nat) :
    count < capacityFor step count := by
  have parts := Nat.div_add_mod count step
  have short := Nat.mod_lt count positive
  unfold capacityFor
  rw [Nat.mul_add, Nat.mul_one]
  omega

/-- An item that fills the last step makes one more of the full steps. -/
theorem div_of_full {step count : Nat} (positive : 0 < step)
    (full : capacityFor step count ≤ count + 1) : (count + 1) / step = count / step + 1 := by
  have room := lt_capacityFor positive count
  have whole : count + 1 = step * (count / step + 1) := by
    unfold capacityFor at full room
    omega
  rw [whole, Nat.mul_div_cancel_left _ positive]

/-- An item that leaves room in the last step leaves the number of the full ones alone. -/
theorem div_of_room {step count : Nat} (positive : 0 < step)
    (room : count + 1 < capacityFor step count) : (count + 1) / step = count / step := by
  have below : (count + 1) / step < count / step + 1 := by
    rw [Nat.div_lt_iff_lt_mul positive, Nat.mul_comm]
    exact room
  have above : count / step ≤ (count + 1) / step := Nat.div_le_div_right (Nat.le_succ count)
  omega

/-- A buffer that an item fills grows by one step. -/
theorem push_of_full {buffer : Buffer Item} (item : Item)
    (full : buffer.capacity ≤ buffer.items.size + 1) :
    buffer.push item = ⟨buffer.step, buffer.items.push item, buffer.capacity + buffer.step,
      buffer.growths.push (buffer.capacity + buffer.step)⟩ := by
  unfold push
  rw [if_pos (by rwa [Array.size_push])]

/-- A buffer in which an item leaves room does not grow. -/
theorem push_of_room {buffer : Buffer Item} (item : Item)
    (room : buffer.items.size + 1 < buffer.capacity) :
    buffer.push item = { buffer with items := buffer.items.push item } := by
  unfold push
  rw [if_neg (by rw [Array.size_push]; omega)]

/-- An empty buffer is regular. -/
theorem Regular.empty (step : Nat) : Regular step [] (Buffer.empty step : Buffer Item) where
  steps := rfl
  holds := rfl
  capacity := by simp [Buffer.empty, capacityFor]
  growths := by simp [Buffer.empty, growthsFor]

theorem Regular.size {step : Nat} {items : List Item} {buffer : Buffer Item}
    (regular : Regular step items buffer) : buffer.items.size = items.length := by
  rw [← Array.length_toList, regular.holds]

/-- A regular buffer is regular behind one more item. -/
theorem Regular.push {step : Nat} (positive : 0 < step) {items : List Item}
    {buffer : Buffer Item} (regular : Regular step items buffer) (item : Item) :
    Regular step (items ++ [item]) (buffer.push item) := by
  have size := regular.size
  have stored : (buffer.items.push item).toList = items ++ [item] := by
    rw [Array.toList_push, regular.holds]
  by_cases full : capacityFor step items.length ≤ items.length + 1
  · have count := div_of_full positive full
    have more : buffer.capacity + buffer.step = step * (items.length / step + 2) := by
      rw [regular.capacity, regular.steps, capacityFor, ← Nat.mul_succ]
    rw [push_of_full item (by rwa [regular.capacity, size])]
    refine ⟨regular.steps, stored, ?_, ?_⟩
    · change buffer.capacity + buffer.step = _
      rw [more, capacityFor, List.length_append, List.length_singleton, count]
    · change (buffer.growths.push (buffer.capacity + buffer.step)).toList = _
      rw [Array.toList_push, regular.growths, more, growthsFor, growthsFor, List.length_append,
        List.length_singleton, count, List.range_succ, List.map_append, List.map_singleton]
  · have count := div_of_room positive (Nat.lt_of_not_le full)
    rw [push_of_room item (by rw [regular.capacity, size]; omega)]
    refine ⟨regular.steps, stored, ?_, ?_⟩
    · rw [regular.capacity, capacityFor, capacityFor, List.length_append, List.length_singleton,
        count]
    · rw [regular.growths, growthsFor, growthsFor, List.length_append, List.length_singleton,
        count]

/-- A regular buffer is regular behind more items, whatever is stored. -/
theorem Regular.pushAll {step : Nat} (positive : 0 < step) {held : List Item}
    {buffer : Buffer Item} (regular : Regular step held buffer) (items : List Item) :
    Regular step (held ++ items) (buffer.pushAll items) := by
  induction items generalizing held buffer with
  | nil => rwa [List.append_nil]
  | cons item rest ih =>
      rw [pushAll_cons, List.append_cons]
      exact ih (regular.push positive item)

/-- A buffer that was empty at first is regular. -/
theorem regular_pushAll {step : Nat} (positive : 0 < step) (items : List Item) :
    Regular step items ((Buffer.empty step).pushAll items) :=
  (Regular.empty step).pushAll positive items

example : ((Buffer.empty 3).pushAll [1, 2, 3, 4, 5, 6]).growths.toList = [6, 9] := by decide

/-- The size of a buffer by the number of its items. There is room for one more item, and for no
more than a step of them; each growth was one step, and the last one reached the capacity. -/
structure Sized (step count capacity : Nat) (growths : List Nat) : Prop where
  multiple : capacity = step * (count / step + 1)
  room : count < capacity
  near : capacity ≤ count + step
  steps : growths = (List.range (count / step)).map fun index => step * (index + 2)
  reached : (step :: growths).getLast? = some capacity

/-- The last growth reaches the capacity; without a growth it is the first step. -/
theorem getLast?_growthsFor (step count : Nat) :
    (step :: growthsFor step count).getLast? = some (capacityFor step count) := by
  unfold growthsFor capacityFor
  cases count / step with
  | zero => rw [List.range_zero, List.map_nil, Nat.zero_add, Nat.mul_one, List.getLast?_singleton]
  | succ full =>
      rw [List.range_succ, List.map_append, List.map_singleton, ← List.cons_append,
        List.getLast?_concat]

/-- The capacity and the growths for a number of items are a size. -/
theorem sized_capacityFor {step : Nat} (positive : 0 < step) (count : Nat) :
    Sized step count (capacityFor step count) (growthsFor step count) := by
  have whole := Nat.mul_div_le count step
  refine ⟨rfl, lt_capacityFor positive _, ?_, rfl, getLast?_growthsFor step _⟩
  rw [capacityFor, Nat.mul_add, Nat.mul_one]
  omega

/-- A regular buffer has the size that its number of items tells. -/
theorem Regular.sized {step : Nat} (positive : 0 < step) {items : List Item}
    {buffer : Buffer Item} (regular : Regular step items buffer) :
    Sized step items.length buffer.capacity buffer.growths.toList := by
  rw [regular.capacity, regular.growths]
  exact sized_capacityFor positive items.length

/-- A buffer is full behind each full step of items, and only there. -/
theorem full_iff_dvd {step : Nat} (positive : 0 < step) (count : Nat) :
    capacityFor step count ≤ count + 1 ↔ step ∣ count + 1 := by
  constructor
  · intro full
    have room := lt_capacityFor positive count
    refine ⟨count / step + 1, ?_⟩
    unfold capacityFor at full room
    omega
  · intro whole
    have reached : capacityFor step count = count + 1 := by
      rw [capacityFor, ← Nat.succ_div_of_dvd whole, Nat.mul_div_cancel' whole]
    exact Nat.le_of_eq reached

end Buffer

namespace Allocator

variable {allocator : Allocator} {step above count : Nat}

/-- There is always room for a step. -/
def Allows (allocator : Allocator) (step : Nat) : Prop := ∀ held, allocator held step = true

/-- There is room for a step or not by the size of the step alone. -/
def BySize (allocator : Allocator) (step : Nat) : Prop :=
  ∀ held, allocator held step = allocator 0 step

/-- There is room for one more step behind each full step of items, above one number of them and up
to another. -/
def Gives (allocator : Allocator) (step above count : Nat) : Prop :=
  ∀ full, above < full → full ≤ count → step ∣ full → allocator full step = true

/-- There is no room for one more step behind a number of items, which are full steps, and there has
been room behind each full step before. -/
structure Refuses (allocator : Allocator) (step count : Nat) : Prop where
  solid : 0 < count
  whole : step ∣ count
  before : allocator.Gives step 0 (count - 1)
  refused : allocator count step = false

theorem standard_allows (small : step < allocationLimit) : Allocator.standard.Allows step :=
  fun _ => decide_eq_true small

theorem Allows.gives (allows : allocator.Allows step) (above count : Nat) :
    allocator.Gives step above count :=
  fun full _ _ _ => allows full

theorem Allows.not_refuses (allows : allocator.Allows step) : ¬ allocator.Refuses step count := by
  intro refuses
  have given := allows count
  rw [refuses.refused] at given
  cases given

/-- Where room is by size, a first step that there was room for is followed by others. -/
theorem BySize.not_refuses (sized : allocator.BySize step) (given : allocator 0 step = true) :
    ¬ allocator.Refuses step count := by
  intro refuses
  have refused := refuses.refused
  rw [sized count, given] at refused
  cases refused

/-- Room up to a number of items is room at the next number and room above that one. -/
theorem gives_iff (allocator : Allocator) (more : above < count) :
    allocator.Gives step above count ↔
      (step ∣ above + 1 → allocator (above + 1) step = true) ∧
        allocator.Gives step (above + 1) count := by
  constructor
  · intro gives
    exact ⟨gives _ (Nat.lt_succ_self above) more,
      fun full beyond => gives full (Nat.lt_of_succ_lt beyond)⟩
  · rintro ⟨here, gives⟩ full beyond below whole
    rcases Nat.lt_or_eq_of_le (Nat.succ_le_of_lt beyond) with further | rfl
    · exact gives full further below whole
    · exact here whole

/-- There is room behind all full steps, or the first of them behind which there is none. -/
theorem gives_or_refuses (allocator : Allocator) (step count : Nat) :
    allocator.Gives step 0 count ∨ ∃ full ≤ count, allocator.Refuses step full := by
  induction count with
  | zero => exact Or.inl fun full solid none => by omega
  | succ count ih =>
      rcases ih with gives | ⟨full, below, refuses⟩
      · by_cases here : step ∣ count + 1 → allocator (count + 1) step = true
        · refine Or.inl fun full solid below whole => ?_
          rcases Nat.lt_or_eq_of_le below with earlier | rfl
          · exact gives full solid (Nat.le_of_lt_succ earlier) whole
          · exact here whole
        · rw [Classical.not_imp, Bool.not_eq_true] at here
          exact Or.inr ⟨count + 1, Nat.le_refl _, Nat.succ_pos count, here.1, gives, here.2⟩
      · exact Or.inr ⟨full, Nat.le_succ_of_le below, refuses⟩

end Allocator

/-- There is always room for the steps of both kinds of buffers. -/
structure Memory.Allows (memory : Memory) (lineStep wordStep : Nat) : Prop where
  lines : ∀ index, (memory.lines index).Allows lineStep
  words : ∀ index, (memory.words index).Allows wordStep

/-- There is room for the steps of both kinds of buffers or not by their sizes alone. -/
structure Memory.BySize (memory : Memory) (lineStep wordStep : Nat) : Prop where
  lines : ∀ index, (memory.lines index).BySize lineStep
  words : ∀ index, (memory.words index).BySize wordStep

theorem Memory.standard_allows {lineStep wordStep : Nat} (line : lineStep < allocationLimit)
    (word : wordStep < allocationLimit) : Memory.standard.Allows lineStep wordStep :=
  ⟨fun _ => Allocator.standard_allows line, fun _ => Allocator.standard_allows word⟩

theorem Memory.standard_bySize (lineStep wordStep : Nat) :
    Memory.standard.BySize lineStep wordStep :=
  ⟨fun _ _ => rfl, fun _ _ => rfl⟩

namespace Buffer

variable {allocator : Allocator} {step : Nat} {held : List Item} {buffer : Buffer Item}

/-- A buffer that an item fills, and for which there is no room to grow. -/
def stuck (buffer : Buffer Item) (item : Item) : Buffer Item :=
  { buffer with items := buffer.items.push item }

/-- An item is stored if there is room behind the full step that it may complete. -/
theorem Regular.store (positive : 0 < step) (regular : Regular step held buffer)
    (allocator : Allocator) (item : Item) :
    buffer.store allocator item =
      if step ∣ held.length + 1 → allocator (held.length + 1) step = true then
        .ok (buffer.push item)
      else .error (buffer.stuck item) := by
  have full := full_iff_dvd positive held.length
  simp only [Buffer.store, regular.size, regular.capacity, regular.steps, full,
    Bool.and_eq_true, decide_eq_true_eq, Bool.not_eq_true', stuck]
  by_cases whole : step ∣ held.length + 1
  · cases given : allocator (held.length + 1) step <;> simp [whole]
  · simp [whole]

/-- Where there is room behind each full step all items are stored. -/
theorem Regular.storeAll (positive : 0 < step) (regular : Regular step held buffer)
    (items : List Item)
    (gives : allocator.Gives step held.length (held.length + items.length)) :
    buffer.storeAll allocator items = .ok (buffer.pushAll items) := by
  induction items generalizing held buffer with
  | nil => rfl
  | cons item rest ih =>
      have lengths : (held ++ [item]).length + rest.length =
          held.length + (item :: rest).length := by
        simp only [List.length_append, List.length_cons, List.length_nil]
        omega
      obtain ⟨here, later⟩ := (allocator.gives_iff (by simp)).mp gives
      have following := ih (regular.push positive item)
        (by rwa [lengths, List.length_append, List.length_singleton])
      rw [Buffer.storeAll, regular.store positive, if_pos here]
      exact following

/-- Items are stored one part after the other. -/
theorem storeAll_append (allocator : Allocator) (buffer : Buffer Item) (front back : List Item) :
    buffer.storeAll allocator (front ++ back) =
      (buffer.storeAll allocator front).bind fun next => next.storeAll allocator back := by
  induction front generalizing buffer with
  | nil => rfl
  | cons item rest ih =>
      rw [List.cons_append, Buffer.storeAll, Buffer.storeAll]
      cases buffer.store allocator item with
      | error full => rfl
      | ok next => exact ih next

/-- All of some items are stored where each part of them is. -/
theorem storeAll_append_iff {last : Buffer Item} (front back : List Item) :
    buffer.storeAll allocator (front ++ back) = .ok last ↔
      ∃ next, buffer.storeAll allocator front = .ok next ∧
        next.storeAll allocator back = .ok last := by
  rw [storeAll_append]
  cases buffer.storeAll allocator front with
  | error full => simp [Except.bind]
  | ok next => simp [Except.bind]

/-- A buffer that was empty stores all items if there is room behind each full step of them. -/
theorem storeAll_of_gives (positive : 0 < step) {items : List Item}
    (gives : allocator.Gives step 0 items.length) :
    (Buffer.empty step).storeAll allocator items = .ok ((Buffer.empty step).pushAll items) := by
  apply (Regular.empty step).storeAll positive
  rwa [List.length_nil, Nat.zero_add]

/-- The first item behind which there is no room is the last one that a buffer takes that was
empty. -/
theorem store_of_refuses (positive : 0 < step) {front : List Item}
    (refuses : allocator.Refuses step (front.length + 1)) (last : Item) :
    ((Buffer.empty step).pushAll front).store allocator last =
      .error (((Buffer.empty step).pushAll front).stuck last) := by
  have refused : ¬ (step ∣ front.length + 1 → allocator (front.length + 1) step = true) := by
    rw [refuses.refused]
    exact fun given => Bool.false_ne_true (given refuses.whole)
  rw [(regular_pushAll positive front).store positive, if_neg refused]

/-- The items behind the one for which there is no room do not matter. -/
theorem storeAll_of_refuses (positive : 0 < step) {front : List Item}
    (refuses : allocator.Refuses step (front.length + 1)) (last : Item) (back : List Item) :
    (Buffer.empty step).storeAll allocator (front ++ last :: back) =
      .error (((Buffer.empty step).pushAll front).stuck last) := by
  rw [storeAll_append, storeAll_of_gives positive refuses.before, Except.bind, Buffer.storeAll,
    store_of_refuses positive refuses last]

end Buffer
end PromptShell
