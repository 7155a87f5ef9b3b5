import Chip8.Proofs.CallStack

/-!
# The call stack as a bounded list

Whoever pushes and pops sees a list of at most sixteen addresses (`CallStack.toList`): a push adds
the low twelve bits of an address at its end, and a pop takes the last one off. The slots say no
more than the list does, because those that are not in use are zero.

`CallStack.pushClamped` and `CallStack.popClamped` are the two operations done the other way about.
They work out new slots in any case, at a slot that they are sure to find, and pick the old ones
after all if there was no room or nothing to take.

* `CallStack.toList_of_push?`, `CallStack.toList_of_pop?`: what the operations do to the list.
* `CallStack.WellFormed.toList_slots`: the slots are the list and zeros after it.
* `CallStack.toList_afterAll`: a history of the stack is one of the list.
* `CallStack.bounded_list_of_addresses`: these together, for a stack that was empty at first.
-/

namespace Chip8

-- Powers of natural numbers are those that `BitVec` is stated with, whatever else is in scope.
attribute [local instance (high)] instPowNat

/-- All entries of a table are those read from index zero on. -/
theorem Table.toList_eq_read {w : Nat} {α : Type} (t : Table w α) :
    t.toList = t.read 0 (2 ^ w) := by
  apply List.ext_getElem
  · rw [toList, Vector.length_toList, length_read]
  · intro k hk hread
    have hlt : k < 2 ^ w := by
      rwa [length_read] at hread
    have hindex : (0 : BitVec w) + BitVec.ofNat w k = BitVec.ofNat w k := BitVec.zero_add _
    rw [getElem_read, hindex]
    simp only [toList, get, Vector.getElem_toList, BitVec.toFin_ofNat, Fin.getElem_fin,
      Fin.val_ofNat, Nat.mod_eq_of_lt hlt]

namespace CallStack

/-- What can be done to a call stack. -/
inductive Operation where
  /-- An address is pushed. -/
  | push (address : Int)
  /-- An address is popped. -/
  | pop

/-- The stack after an operation. One that fails leaves the stack as it is. -/
def after (s : CallStack) : Operation → CallStack
  | .push address => (s.push? (BitVec.ofInt 16 address)).getD s
  | .pop => (s.pop?.map Prod.snd).getD s

/-- The stack after several operations, the first of the list first. -/
def afterAll (s : CallStack) (ops : List Operation) : CallStack :=
  ops.foldl after s

/-- A list of at most sixteen addresses after an operation. -/
def listAfter (l : List (BitVec 16)) : Operation → List (BitVec 16)
  | .push address => if l.length < capacity then l ++ [BitVec.ofInt 16 (address % 4096)] else l
  | .pop => l.dropLast

/-- A push that writes the first free slot, or the last slot if none is free, and takes the write
back in that case. The flag tells whether a slot was free. -/
def pushClamped (s : CallStack) (address : Int) : CallStack × Bool :=
  let free := decide (s.depth < capacity)
  let written :=
    s.slots.set (slot (min s.depth (capacity - 1))) (BitVec.ofInt 16 address &&& 0x0FFF#16)
  (⟨if free then written else s.slots, if free then s.depth + 1 else s.depth⟩, free)

/-- A pop that reads and clears the last slot in use, or slot zero if none is in use, and takes
the clearing back in that case. The flag tells whether a slot was in use. -/
def popClamped (s : CallStack) : CallStack × BitVec 16 × Bool :=
  let used := decide (0 < s.depth)
  let last := if used then s.depth - 1 else s.depth
  (⟨if used then s.slots.set (slot last) 0#16 else s.slots, last⟩, s.slots.get (slot last), used)

variable {s t : CallStack} {a : BitVec 16}

/-! ## Two forms of the operations -/

/-- The push that works out new slots in any case has the outcome of the push that looks first. -/
theorem pushClamped_eq (s : CallStack) (address : Int) :
    s.pushClamped address =
      match s.push? (BitVec.ofInt 16 address) with
      | some t => (t, true)
      | none => (s, false) := by
  by_cases hroom : s.depth < capacity
  · have hslot : min s.depth (capacity - 1) = s.depth := by omega
    simp only [pushClamped, push?, hroom, hslot, decide_true, if_true]
  · simp only [pushClamped, push?, hroom, decide_false, if_false, Bool.false_eq_true]

/-- The pop that works out new slots in any case has the outcome of the pop that looks first, and
gives slot zero where that one gives nothing. -/
theorem popClamped_eq (s : CallStack) :
    s.popClamped =
      match s.pop? with
      | some (address, t) => (t, address, true)
      | none => (s, s.slots.get 0, false) := by
  by_cases hused : 0 < s.depth
  · simp only [popClamped, pop?, top, hused, decide_true, if_true]
  · have hempty : s.depth = 0 := Nat.eq_zero_of_not_pos hused
    obtain ⟨slots, depth⟩ := s
    obtain rfl : depth = 0 := hempty
    rfl

/-- Of an address the low twelve bits are kept, which is its remainder. -/
theorem ofInt_and_mask (address : Int) :
    BitVec.ofInt 16 address &&& 0x0FFF#16 = BitVec.ofInt 16 (address % 4096) := by
  have hmask : (0x0FFF#16).toNat = 2 ^ 12 - 1 := rfl
  apply BitVec.eq_of_toNat_eq
  rw [BitVec.toNat_and, hmask, Nat.and_two_pow_sub_one_eq_mod, BitVec.toNat_ofInt,
    BitVec.toNat_ofInt]
  omega

/-! ## The list of addresses -/

@[simp]
theorem length_toList (s : CallStack) : s.toList.length = s.depth :=
  Table.length_read _ _ _

/-- What is read from slot zero on is in the slots with these numbers. -/
theorem read_slots (s : CallStack) (count : Nat) :
    s.slots.read 0 count = (List.range count).map fun k => s.slots.get (slot k) := by
  have hindex (k : Nat) : (0 : BitVec 4) + BitVec.ofNat 4 k = slot k := BitVec.zero_add _
  simp only [Table.read, hindex]

/-- An address of the list is in the slot with its number. -/
theorem getElem_toList {k : Nat} (h : k < s.toList.length) :
    s.toList[k] = s.slots.get (slot k) := by
  simp only [toList, read_slots, List.getElem_map, List.getElem_range]

theorem toList_eq_nil_iff : s.toList = [] ↔ s.depth = 0 := by
  rw [← List.length_eq_zero_iff, length_toList]

/-- A stack that is one slot deeper than another, and the same below, has one address more. -/
theorem toList_eq_concat (hdepth : t.depth = s.depth + 1)
    (hbelow : ∀ k < s.depth, t.slots.get (slot k) = s.slots.get (slot k))
    (hlast : t.slots.get (slot s.depth) = a) : t.toList = s.toList ++ [a] := by
  have hsame : (List.range s.depth).map (fun k => t.slots.get (slot k)) =
      (List.range s.depth).map fun k => s.slots.get (slot k) :=
    List.map_congr_left fun k hk => hbelow k (List.mem_range.1 hk)
  simp only [toList, read_slots, hdepth, List.range_succ, List.map_append, hsame,
    List.map_singleton, hlast]

/-- A push adds the low twelve bits of the address. -/
theorem toList_of_push? (h : s.push? a = some t) : t.toList = s.toList ++ [a &&& 0x0FFF#16] := by
  have hroom := depth_lt_of_push? h
  apply toList_eq_concat (depth_of_push? h)
  · intro k hk
    rw [get_of_push? h, toNat_slot (Nat.lt_trans hk hroom), if_neg (Nat.ne_of_lt hk)]
  · rw [get_of_push? h, if_pos (toNat_slot hroom)]

/-- A pop takes off the address that it gives. -/
theorem toList_of_pop? (hs : s.WellFormed) (h : s.pop? = some (a, t)) :
    s.toList = t.toList ++ [a] := by
  have hle := hs.depth_le
  have hdepth := depth_of_pop? h
  apply toList_eq_concat hdepth
  · intro k hk
    rw [get_of_pop? h hle, toNat_slot (by omega), if_neg (Nat.ne_of_lt hk)]
  · rw [← address_of_pop? h]

/-- A push succeeds exactly if there are fewer addresses than slots. -/
theorem isSome_push?_iff : (s.push? a).isSome = true ↔ s.toList.length < capacity := by
  rw [Option.isSome_iff_ne_none, Ne, push?_eq_none_iff, Nat.not_le, length_toList]

/-- A pop succeeds exactly if there is an address. -/
theorem isSome_pop?_iff : s.pop?.isSome = true ↔ s.toList ≠ [] := by
  rw [Option.isSome_iff_ne_none, Ne, pop?_eq_none_iff, ← toList_eq_nil_iff]

/-- The slots are the list, and zeros after it. -/
theorem WellFormed.toList_slots (hs : s.WellFormed) :
    s.slots.toList = s.toList ++ List.replicate (capacity - s.toList.length) 0#16 := by
  have hle := hs.depth_le
  rw [Table.toList_eq_read, read_slots]
  apply List.ext_getElem
  · rw [List.length_map, List.length_range, List.length_append, List.length_replicate,
      length_toList]
    exact (Nat.add_sub_cancel' hle).symm
  · intro k hk hl
    rw [List.length_map, List.length_range] at hk
    rw [List.getElem_map, List.getElem_range]
    -- below the depth both lists read the same slot, and from there on a slot is zero
    by_cases hused : k < s.toList.length
    · rw [List.getElem_append_left hused, getElem_toList]
    · rw [List.getElem_append_right (Nat.le_of_not_lt hused), List.getElem_replicate]
      apply hs.get_eq_zero
      rw [toNat_slot hk, ← length_toList]
      exact Nat.le_of_not_lt hused

/-- The list says all that there is to a stack. -/
theorem WellFormed.eq_of_toList_eq (hs : s.WellFormed) (ht : t.WellFormed)
    (h : s.toList = t.toList) : s = t := by
  have hdepth : s.depth = t.depth := by
    rw [← length_toList, h, length_toList]
  have hslots : s.slots.toList = t.slots.toList := by
    rw [hs.toList_slots, ht.toList_slots, h]
  obtain ⟨⟨entries⟩, depth⟩ := s
  obtain rfl : depth = t.depth := hdepth
  obtain rfl : entries = t.slots.entries := Vector.toList_inj.1 hslots
  rfl

/-! ## Histories -/

/-- A stack stays well-formed through an operation, whether it succeeds or not. -/
theorem WellFormed.after (hs : s.WellFormed) (op : Operation) : (s.after op).WellFormed := by
  cases op with
  | push address =>
    rw [CallStack.after]
    cases h : s.push? (BitVec.ofInt 16 address) with
    | some t => exact hs.push? h
    | none => exact hs
  | pop =>
    rw [CallStack.after]
    cases h : s.pop? with
    | some popped => exact hs.pop? h
    | none => exact hs

/-- An operation on the stack is one on the list. -/
theorem toList_after (hs : s.WellFormed) (op : Operation) :
    (s.after op).toList = listAfter s.toList op := by
  -- an operation that fails finds the list full or empty, and `listAfter` keeps it then
  cases op with
  | push address =>
    rw [after, listAfter, length_toList]
    cases h : s.push? (BitVec.ofInt 16 address) with
    | some t =>
      rw [if_pos (depth_lt_of_push? h), ← ofInt_and_mask]
      exact toList_of_push? h
    | none => rw [if_neg (Nat.not_lt.2 (push?_eq_none_iff.1 h)), Option.getD_none]
  | pop =>
    rw [after, listAfter]
    cases h : s.pop? with
    | some popped =>
      rw [toList_of_pop? hs h, List.dropLast_concat]
      rfl
    | none =>
      have hnil : s.toList = [] := toList_eq_nil_iff.2 (pop?_eq_none_iff.1 h)
      rw [Option.map_none, Option.getD_none, hnil, List.dropLast_nil]

/-- A stack stays well-formed through any operations. -/
theorem WellFormed.afterAll (hs : s.WellFormed) (ops : List Operation) :
    (s.afterAll ops).WellFormed := by
  induction ops generalizing s with
  | nil => exact hs
  | cons op ops ih => exact ih (hs.after op)

/-- Operations on the stack one after another are operations on the list. -/
theorem toList_afterAll (hs : s.WellFormed) (ops : List Operation) :
    (s.afterAll ops).toList = ops.foldl listAfter s.toList := by
  induction ops generalizing s with
  | nil => rfl
  | cons op ops ih =>
    rw [List.foldl_cons, ← toList_after hs op]
    exact ih (hs.after op)

/-- A call stack that was empty at first is a list of at most sixteen addresses, whatever has been
pushed and popped since. A push succeeds exactly if there are fewer than sixteen and adds the
remainder of its address by 4096. A pop succeeds exactly if there is one, and takes the last one
off and gives it. An operation that fails changes neither a slot nor the depth, also if it works
out new slots before it finds out. The slots are always the list with zeros after it, so the list
determines the stack. -/
theorem bounded_list_of_addresses (ops : List Operation) :
    let s := empty.afterAll ops
    s.toList = ops.foldl listAfter [] ∧
      (∀ address : Int,
        ((s.push? (BitVec.ofInt 16 address)).isSome = true ↔ s.toList.length < 16) ∧
        (∀ t, s.push? (BitVec.ofInt 16 address) = some t →
          t.toList = s.toList ++ [BitVec.ofInt 16 (address % 4096)]) ∧
        s.pushClamped address =
          match s.push? (BitVec.ofInt 16 address) with
          | some t => (t, true)
          | none => (s, false)) ∧
      ((s.pop?.isSome = true ↔ s.toList ≠ []) ∧
        (∀ address t, s.pop? = some (address, t) → s.toList = t.toList ++ [address]) ∧
        s.popClamped =
          match s.pop? with
          | some (address, t) => (t, address, true)
          | none => (s, s.slots.get 0, false)) ∧
      s.slots.toList = s.toList ++ List.replicate (16 - s.toList.length) 0 ∧
      ∀ others, (empty.afterAll others).toList = s.toList → empty.afterAll others = s := by
  intro s
  have hs : s.WellFormed := wellFormed_empty.afterAll ops
  refine ⟨toList_afterAll wellFormed_empty ops,
    fun address => ⟨isSome_push?_iff, fun t ht => ?_, pushClamped_eq s address⟩,
    ⟨isSome_pop?_iff, fun address t => toList_of_pop? hs, popClamped_eq s⟩, hs.toList_slots, ?_⟩
  · rw [toList_of_push? ht, ofInt_and_mask]
  · intro others h
    exact (wellFormed_empty.afterAll others).eq_of_toList_eq hs h

/-- Seventeen pushes, of which the last one fails, and a pop. The one before last is of an address
with more than twelve bits. -/
def overfilling : List Operation :=
  List.replicate 15 (.push 0x200) ++ [.push (-1), .push 0x300, .pop]

/-- Pops that fail, and then fifteen pushes of an address that loses its upper bits. -/
def underflowing : List Operation :=
  [.pop, .pop] ++ List.replicate 15 (.push 0x1200)

/-- The two histories leave the same list, so they leave the same stack. -/
theorem bounded_list_of_addresses_overfilling :
    (empty.afterAll overfilling).toList = List.replicate 15 0x200 ∧
      empty.afterAll underflowing = empty.afterAll overfilling := by
  have hlist : (empty.afterAll overfilling).toList = List.replicate 15 0x200 := by
    decide +kernel
  have hsame : (empty.afterAll underflowing).toList = (empty.afterAll overfilling).toList := by
    decide +kernel
  exact ⟨hlist, (bounded_list_of_addresses overfilling).2.2.2.2 underflowing hsame⟩

end CallStack

end Chip8
