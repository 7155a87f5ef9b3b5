import Chip8.CallStack

/-!
# Call stacks, slot by slot

`CallStack.get_of_push?` and `CallStack.get_of_pop?` say what a push and a pop do to each slot. Two
properties are kept by both:

* `CallStack.WellFormed`: the depth fits, every slot holds an address of twelve bits, and the slots
  that are not in use are zero.
* `CallStack.NestedIn`: while a stack is deeper than an outer one, the slots of the outer one stay
  in place below the address that was pushed on it. Popping that address gives the outer stack
  back (`CallStack.NestedIn.eq_of_pop?`).
-/

namespace Chip8

namespace CallStack

variable {s t : CallStack} {a : BitVec 16}

theorem toNat_slot {n : Nat} (h : n < capacity) : (slot n).toNat = n := by
  rw [slot, BitVec.toNat_ofNat]
  exact Nat.mod_eq_of_lt h

theorem eq_slot_iff {i : BitVec 4} {n : Nat} (h : n < capacity) : i = slot n ↔ i.toNat = n := by
  rw [← BitVec.toNat_inj, toNat_slot h]

/-- A push takes one more slot into use. -/
theorem depth_of_push? (h : s.push? a = some t) : t.depth = s.depth + 1 := by
  obtain ⟨-, rfl⟩ := push?_eq_some_iff.1 h
  rfl

theorem depth_lt_of_push? (h : s.push? a = some t) : s.depth < capacity :=
  (push?_eq_some_iff.1 h).1

/-- A push writes the first free slot. -/
theorem get_of_push? (h : s.push? a = some t) (i : BitVec 4) :
    t.slots.get i = if i.toNat = s.depth then a &&& 0x0FFF#16 else s.slots.get i := by
  obtain ⟨hroom, rfl⟩ := push?_eq_some_iff.1 h
  rw [Table.get_set]
  simp only [eq_slot_iff hroom]

/-- A pop leaves one slot less in use. -/
theorem depth_of_pop? (h : s.pop? = some (a, t)) : s.depth = t.depth + 1 := by
  obtain ⟨hpos, -, rfl⟩ := pop?_eq_some_iff.1 h
  exact (Nat.sub_add_cancel hpos).symm

/-- A pop gives the address in the last slot in use. -/
theorem address_of_pop? (h : s.pop? = some (a, t)) : a = s.slots.get (slot t.depth) := by
  obtain ⟨-, rfl, rfl⟩ := pop?_eq_some_iff.1 h
  rfl

/-- A pop clears the last slot in use. -/
theorem get_of_pop? (h : s.pop? = some (a, t)) (hdepth : s.depth ≤ capacity) (i : BitVec 4) :
    t.slots.get i = if i.toNat = t.depth then 0#16 else s.slots.get i := by
  obtain ⟨hpos, -, rfl⟩ := pop?_eq_some_iff.1 h
  have hlast : s.depth - 1 < capacity := by omega
  rw [Table.get_set]
  simp only [eq_slot_iff hlast]

/-! ## Well-formed stacks -/

/-- What a stack that has only been pushed on and popped from looks like. -/
structure WellFormed (s : CallStack) : Prop where
  /-- No more slots are in use than there are. -/
  depth_le : s.depth ≤ capacity
  /-- Every slot holds an address of twelve bits. -/
  get_le : ∀ i, s.slots.get i ≤ 0x0FFF#16
  /-- The slots that are not in use are zero. -/
  get_eq_zero : ∀ i : BitVec 4, s.depth ≤ i.toNat → s.slots.get i = 0#16

theorem wellFormed_empty : empty.WellFormed where
  depth_le := Nat.zero_le _
  get_le i := by
    rw [empty, Table.get_replicate]
    decide
  get_eq_zero i _ := Table.get_replicate _ _

/-- A push keeps the stack well-formed, because of the mask that it puts on its address. -/
theorem WellFormed.push? (hs : s.WellFormed) (h : s.push? a = some t) : t.WellFormed where
  depth_le := by
    rw [depth_of_push? h]
    exact depth_lt_of_push? h
  get_le i := by
    rw [get_of_push? h]
    split
    next =>
      -- the mask bounds what it lets through
      rw [BitVec.le_def, BitVec.toNat_and]
      exact Nat.and_le_right
    next => exact hs.get_le i
  get_eq_zero i hi := by
    rw [depth_of_push? h] at hi
    rw [get_of_push? h, if_neg (by omega)]
    exact hs.get_eq_zero i (by omega)

/-- A pop keeps the stack well-formed, because it clears the slot that it empties. -/
theorem WellFormed.pop? (hs : s.WellFormed) (h : s.pop? = some (a, t)) : t.WellFormed where
  depth_le := by
    have hdepth := depth_of_pop? h
    have hle := hs.depth_le
    omega
  get_le i := by
    rw [get_of_pop? h hs.depth_le]
    split
    next => decide
    next => exact hs.get_le i
  get_eq_zero i hi := by
    have hdepth := depth_of_pop? h
    rw [get_of_pop? h hs.depth_le]
    -- one more slot is out of use than before, the one just cleared
    split
    next => rfl
    next hne => exact hs.get_eq_zero i (by omega)

/-! ## Stacks above another -/

/-- The stack `s` has grown from `outer` by a push of `address` and by what came after it, and has
not come back since. -/
structure NestedIn (outer : CallStack) (address : BitVec 16) (s : CallStack) : Prop where
  /-- The stack is well-formed. -/
  wellFormed : s.WellFormed
  /-- The stack is deeper than the outer one. -/
  depth_lt : outer.depth < s.depth
  /-- The slots of the outer stack are in place. -/
  get_eq : ∀ i : BitVec 4, i.toNat < outer.depth → s.slots.get i = outer.slots.get i
  /-- The pushed address lies above them. -/
  get_address : s.slots.get (slot outer.depth) = address

namespace NestedIn

variable {outer : CallStack} {address : BitVec 16}

/-- A push on a well-formed stack leaves that stack in place below the address. -/
theorem of_push? (houter : outer.WellFormed) (h : outer.push? a = some s) :
    NestedIn outer (a &&& 0x0FFF#16) s where
  wellFormed := houter.push? h
  depth_lt := by
    rw [depth_of_push? h]
    exact Nat.lt_succ_self _
  get_eq i hi := by
    rw [get_of_push? h, if_neg (by omega)]
  get_address := by
    rw [get_of_push? h, if_pos (toNat_slot (depth_lt_of_push? h))]

/-- A further push leaves the outer stack in place. -/
theorem push? (hs : NestedIn outer address s) (h : s.push? a = some t) :
    NestedIn outer address t where
  wellFormed := hs.wellFormed.push? h
  depth_lt := by
    rw [depth_of_push? h]
    exact Nat.lt_succ_of_lt hs.depth_lt
  get_eq i hi := by
    have hlt := hs.depth_lt
    rw [get_of_push? h, if_neg (by omega)]
    exact hs.get_eq i hi
  get_address := by
    have hlt := hs.depth_lt
    -- the slot written lies above the one of the address
    have hslot := toNat_slot (Nat.lt_trans hlt (depth_lt_of_push? h))
    rw [get_of_push? h, if_neg (by omega)]
    exact hs.get_address

/-- A pop that does not come back to the depth of the outer stack leaves it in place. -/
theorem pop? (hs : NestedIn outer address s) (h : s.pop? = some (a, t))
    (hdeep : outer.depth < t.depth) : NestedIn outer address t where
  wellFormed := hs.wellFormed.pop? h
  depth_lt := hdeep
  get_eq i hi := by
    rw [get_of_pop? h hs.wellFormed.depth_le, if_neg (by omega)]
    exact hs.get_eq i hi
  get_address := by
    -- the slot cleared lies above the one of the address, as the stack stays deeper than that
    have hle := (hs.wellFormed.pop? h).depth_le
    have hslot : (slot outer.depth).toNat = outer.depth := toNat_slot (by omega)
    rw [get_of_pop? h hs.wellFormed.depth_le, if_neg (by omega)]
    exact hs.get_address

/-- The pop that comes back to the depth of the outer stack gives the pushed address and the outer
stack, slot by slot. -/
theorem eq_of_pop? (houter : outer.WellFormed) (hs : NestedIn outer address s)
    (h : s.pop? = some (a, t)) (hback : t.depth = outer.depth) : a = address ∧ t = outer := by
  refine ⟨?_, ?_⟩
  · rw [address_of_pop? h, hback, hs.get_address]
  · have hslots : t.slots = outer.slots := by
      apply Table.ext
      intro i
      rw [get_of_pop? h hs.wellFormed.depth_le, hback]
      split
      -- the slot of the address is clear again, as it was before the push
      next hi => exact (houter.get_eq_zero i (by omega)).symm
      next hi =>
        by_cases hlt : i.toNat < outer.depth
        -- below it the outer stack is in place
        · exact hs.get_eq i hlt
        -- above it nothing has been in use since the last push there was popped
        · have hdepth := depth_of_pop? h
          rw [houter.get_eq_zero i (by omega), hs.wellFormed.get_eq_zero i (by omega)]
    obtain ⟨slots, depth⟩ := t
    obtain rfl : slots = outer.slots := hslots
    obtain rfl : depth = outer.depth := hback
    rfl

end NestedIn

end CallStack

end Chip8
