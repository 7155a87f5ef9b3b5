/-!
# Tables indexed by bit vectors

A `Table w α` holds one entry of type `α` for every index of type `BitVec w`, so that looking up
and writing are total and an index that runs past the end comes around to the beginning. Memory,
the register file, the keypad, the call stack's slots and the display are all tables.

The one view of a table is `Table.get`. The main statements say what each operation does to it:

* `Table.ext`: two tables with the same entries are equal.
* `Table.get_ofFn`, `Table.get_replicate`, `Table.get_zipWith`: the entries of a table built at
  once.
* `Table.get_set`: a write changes the entry written and no other.
* `Table.get_write`, `Table.get_write_of_forall_ne`: writing a list at `start` changes the entries
  at distance less than its length from `start`, counted around the end of the table.
* `Table.length_read`, `Table.getElem_read`: reading a stretch gives the entries in order.
* `Table.write_append`, `Table.read_write_append`: lists written end to end are one write, and
  each of them is read back from where it stands.
* `Table.get_write_read`: a stretch of one table is copied into another.
-/

namespace Chip8

-- Powers of natural numbers are those that `BitVec` is stated with, whatever else is in scope.
attribute [local instance (high)] instPowNat

/-- A total table with one entry for every `w`-bit index. -/
structure Table (w : Nat) (α : Type) where
  /-- The entries in the order of their indices. -/
  entries : Vector α (2 ^ w)
deriving DecidableEq

namespace Table

variable {w : Nat} {α : Type}

/-- The table with entry `f i` at index `i`. -/
def ofFn (f : BitVec w → α) : Table w α :=
  ⟨Vector.ofFn fun i => f (BitVec.ofFin i)⟩

/-- The table that has the same entry everywhere. -/
def replicate (w : Nat) (a : α) : Table w α :=
  ⟨Vector.replicate (2 ^ w) a⟩

/-- The entry at index `i`. -/
def get (t : Table w α) (i : BitVec w) : α :=
  t.entries[i.toFin]

/-- Replaces the entry at index `i`. -/
def set (t : Table w α) (i : BitVec w) (a : α) : Table w α :=
  ⟨t.entries.set i.toNat a i.isLt⟩

/-- All entries in the order of their indices. -/
def toList (t : Table w α) : List α :=
  t.entries.toList

/-- Replaces consecutive entries, the first at index `start`. After the last index comes
index zero. -/
def write (t : Table w α) (start : BitVec w) : List α → Table w α
  | [] => t
  | a :: rest => (t.set start a).write (start + 1#w) rest

/-- The `count` consecutive entries from index `start` on. After the last index comes index
zero. -/
def read (t : Table w α) (start : BitVec w) (count : Nat) : List α :=
  (List.range count).map fun k => t.get (start + BitVec.ofNat w k)

/-- The entries of two tables, combined by `f`. -/
def zipWith {β γ : Type} (f : α → β → γ) (t : Table w α) (u : Table w β) : Table w γ :=
  ⟨Vector.zipWith f t.entries u.entries⟩

/-- Whether some entry is true. -/
def any (t : Table w Bool) : Bool :=
  t.entries.any id

/-- All indices of a table, in order. -/
def indices (w : Nat) : List (BitVec w) :=
  (List.finRange (2 ^ w)).map BitVec.ofFin

/-! ## What the operations do to the entries -/

@[simp]
theorem get_ofFn (f : BitVec w → α) (i : BitVec w) : (ofFn f).get i = f i := by
  simp [ofFn, get]

@[simp]
theorem get_replicate (a : α) (i : BitVec w) : (replicate w a).get i = a := by
  simp [replicate, get]

@[ext]
theorem ext {t u : Table w α} (h : ∀ i, t.get i = u.get i) : t = u := by
  cases t with
  | mk s => cases u with
    | mk v =>
      congr
      ext i hi
      simpa [get] using h (BitVec.ofFin ⟨i, hi⟩)

/-- To set an entry changes that one and keeps the others. -/
theorem get_set (t : Table w α) (i j : BitVec w) (a : α) :
    (t.set i a).get j = if j = i then a else t.get j := by
  by_cases h : j = i
  · simp [set, get, h]
  · have hne : i.toNat ≠ j.toNat := fun e => h (BitVec.eq_of_toNat_eq e.symm)
    simp [set, get, h, Vector.getElem_set_ne _ _ hne]

@[simp]
theorem get_set_self (t : Table w α) (i : BitVec w) (a : α) : (t.set i a).get i = a := by
  simp [get_set]

theorem get_set_of_ne (t : Table w α) {i j : BitVec w} (a : α) (h : j ≠ i) :
    (t.set i a).get j = t.get j := by
  simp [get_set, h]

/-- Two tables are combined entry by entry. -/
@[simp]
theorem get_zipWith {β γ : Type} (f : α → β → γ) (t : Table w α) (u : Table w β)
    (i : BitVec w) : (zipWith f t u).get i = f (t.get i) (u.get i) := by
  simp [zipWith, get]

theorem any_iff {t : Table w Bool} : t.any = true ↔ ∃ i, t.get i = true := by
  simp only [any, Vector.any_eq_true, id_eq]
  constructor
  · rintro ⟨i, hi, h⟩
    exact ⟨BitVec.ofFin ⟨i, hi⟩, h⟩
  · rintro ⟨i, h⟩
    exact ⟨i.toNat, i.isLt, h⟩

/-- Every index is listed. -/
@[simp]
theorem mem_indices (i : BitVec w) : i ∈ indices w := by
  simp only [indices, List.mem_map]
  exact ⟨i.toFin, List.mem_finRange _, rfl⟩

@[simp]
theorem length_indices (w : Nat) : (indices w).length = 2 ^ w := by
  simp [indices]

/-- The indices are listed in increasing order. -/
theorem getElem_indices {n : Nat} (h : n < (indices w).length) :
    (indices w)[n] = BitVec.ofNat w n := by
  have hn : n < 2 ^ w := by rwa [length_indices] at h
  apply BitVec.eq_of_toNat_eq
  rw [BitVec.toNat_ofNat, Nat.mod_eq_of_lt hn]
  simp [indices]

@[simp]
theorem length_read (t : Table w α) (start : BitVec w) (count : Nat) :
    (t.read start count).length = count := by
  simp [read]

/-- An entry of a stretch is read at its distance from the start, around the end of the table. -/
@[simp]
theorem getElem_read (t : Table w α) (start : BitVec w) {count k : Nat}
    (h : k < (t.read start count).length) :
    (t.read start count)[k] = t.get (start + BitVec.ofNat w k) := by
  simp [read]

/-- Every word but zero is one more than its predecessor, also as a number. -/
private theorem toNat_sub_one {d : BitVec w} (h : d ≠ 0#w) : (d - 1#w).toNat + 1 = d.toNat := by
  have hd : d.toNat ≠ 0 := fun e => h (BitVec.eq_of_toNat_eq (by simpa using e))
  have hone : (1#w).toNat ≤ 1 := by
    simpa using Nat.mod_le 1 (2 ^ w)
  have hw : (1#w).toNat ≠ 0 := by
    have := d.isLt
    have hlt : 1 < 2 ^ w := by omega
    simp [Nat.mod_eq_of_lt hlt]
  rw [BitVec.toNat_sub_of_le (by rw [BitVec.le_def]; omega)]
  omega

/-- An index other than `start` lies one step farther from `start` than from `start + 1`. -/
private theorem toNat_sub_of_ne {i start : BitVec w} (h : i ≠ start) :
    (i - start).toNat = (i - (start + 1#w)).toNat + 1 := by
  have hstep : i - (start + 1#w) = (i - start) - 1#w := by
    rw [BitVec.sub_eq_add_neg i (start + 1#w), BitVec.neg_add, BitVec.sub_eq_add_neg (-start),
      ← BitVec.add_assoc, ← BitVec.sub_eq_add_neg, ← BitVec.sub_eq_add_neg]
  rw [hstep, toNat_sub_one]
  intro e
  exact h (by rw [← BitVec.sub_add_cancel i start, e, BitVec.zero_add])

/-- The index just before `start` is the farthest one from it. -/
private theorem toNat_sub_add_one (i : BitVec w) : (i - (i + 1#w)).toNat = 2 ^ w - 1 := by
  have hstep : i - (i + 1#w) = -1#w := by
    rw [BitVec.sub_eq_add_neg, BitVec.neg_add, BitVec.sub_eq_add_neg, ← BitVec.add_assoc,
      BitVec.add_right_neg, BitVec.zero_add]
  rw [hstep, BitVec.neg_one_eq_allOnes, BitVec.toNat_allOnes]

/-- Writing a list changes exactly the entries at a distance less than its length from `start`. -/
theorem get_write (t : Table w α) (start i : BitVec w) (l : List α) (h : l.length ≤ 2 ^ w) :
    (t.write start l).get i = (l[(i - start).toNat]?).getD (t.get i) := by
  induction l generalizing t start with
  | nil => simp [write]
  | cons a rest ih =>
    simp only [List.length_cons] at h
    rw [write, ih _ _ (by omega)]
    by_cases hi : i = start
    · subst hi
      rw [List.getElem?_eq_none (by rw [toNat_sub_add_one]; omega)]
      simp
    · rw [toNat_sub_of_ne hi, List.getElem?_cons_succ, get_set_of_ne _ _ hi]

/-- A write does not reach an entry that is none of those it writes, however long it is. -/
theorem get_write_of_forall_ne {t : Table w α} {start i : BitVec w} {l : List α}
    (h : ∀ k < l.length, i ≠ start + BitVec.ofNat w k) : (t.write start l).get i = t.get i := by
  induction l generalizing t start with
  | nil => rfl
  | cons a rest ih =>
    have hrest : ∀ k < rest.length, i ≠ start + 1#w + BitVec.ofNat w k := by
      intro k hk
      rw [BitVec.add_assoc, ← BitVec.ofNat_add, Nat.add_comm]
      exact h (k + 1) (Nat.succ_lt_succ hk)
    have hfirst : i ≠ start := by
      simpa using h 0 (Nat.succ_pos _)
    rw [write, ih hrest, get_set_of_ne _ _ hfirst]

/-- An entry that two tables share is shared after the same write to both. -/
theorem get_write_congr {t u : Table w α} {start i : BitVec w} {l : List α}
    (h : t.get i = u.get i) : (t.write start l).get i = (u.write start l).get i := by
  induction l generalizing t u start with
  | nil => exact h
  | cons a rest ih =>
    rw [write, write]
    apply ih
    rw [get_set, get_set, h]

/-- Two lists that follow one another can be written one after the other. -/
theorem write_append (t : Table w α) (start : BitVec w) (l r : List α) :
    t.write start (l ++ r) = (t.write start l).write (start + BitVec.ofNat w l.length) r := by
  induction l generalizing t start with
  | nil => simp [write]
  | cons a rest ih =>
    rw [List.cons_append, write, ih, write, List.length_cons, BitVec.add_assoc, ← BitVec.ofNat_add,
      Nat.add_comm 1]

/-- Copying a stretch of one table into another. -/
theorem get_write_read (t u : Table w α) (start i : BitVec w) {count : Nat}
    (h : count ≤ 2 ^ w) :
    (t.write start (u.read start count)).get i =
      if (i - start).toNat < count then u.get i else t.get i := by
  rw [get_write _ _ _ _ (by rwa [length_read])]
  split
  next hlt =>
    rw [List.getElem?_eq_getElem (by rwa [length_read]), Option.getD_some, getElem_read,
      BitVec.ofNat_toNat, BitVec.setWidth_eq, BitVec.add_comm, BitVec.sub_add_cancel]
  next hge =>
    rw [List.getElem?_eq_none (by rwa [length_read, ← Nat.not_lt]), Option.getD_none]

/-- What has been written is read back, wherever in a longer list it stands. -/
theorem read_write_append (t : Table w α) (start : BitVec w) (before l after : List α)
    (h : (before ++ l ++ after).length ≤ 2 ^ w) :
    (t.write start (before ++ l ++ after)).read (start + BitVec.ofNat w before.length) l.length =
      l := by
  apply List.ext_getElem (length_read _ _ _)
  intro k hread hk
  have hlength : before.length + l.length + after.length ≤ 2 ^ w := by
    simpa only [List.length_append] using h
  -- the list does not come around to its start, so an entry is at its distance
  have hdistance : (start + BitVec.ofNat w (before.length + k) - start).toNat =
      before.length + k := by
    rw [BitVec.add_comm, BitVec.add_sub_cancel, BitVec.toNat_ofNat, Nat.mod_eq_of_lt (by omega)]
  have hentry : (before ++ l ++ after)[before.length + k]? = some l[k] := by
    rw [List.append_assoc, List.getElem?_append_right (Nat.le_add_right _ _),
      Nat.add_sub_cancel_left, List.getElem?_append_left hk, List.getElem?_eq_getElem hk]
  rw [getElem_read, BitVec.add_assoc, ← BitVec.ofNat_add, get_write _ _ _ _ h, hdistance, hentry,
    Option.getD_some]

end Table

end Chip8
