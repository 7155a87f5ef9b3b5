import Chip8.Machine.Cycle
import Chip8.Machine.Load

/-!
# Programs in memory

A program is a list of 16-bit words. In memory a word takes two cells, with its high byte in the
first (`programBytes`). A load puts bytes into cells one after another, and a fetch puts the bytes
of two neighbouring cells together again, wherever they stand: the program counter is wider than an
address, and the cell after the last one is the first.

* `Machine.load_eq_ok_iff`: which loads are granted, and what they do.
* `Machine.get_memory_of_load`: each byte is in the cell that it was meant for.
* `Machine.memory_eq_of_fetchedAt_eq`: a memory is known when the word fetched at each of its
  addresses is.
* `Machine.load_fetch_inverse`: a word that has been loaded is fetched again.
-/

namespace Chip8

-- Powers of natural numbers are those that `BitVec` is stated with, whatever else is in scope.
attribute [local instance (high)] instPowNat

/-- The byte of a word that comes first in memory. -/
def highByte (w : BitVec 16) : Byte :=
  w.extractLsb' 8 8

/-- The byte of a word that comes second in memory. -/
def lowByte (w : BitVec 16) : Byte :=
  w.extractLsb' 0 8

/-- The bytes of a program in the order in which they stand in memory. -/
def programBytes (ws : List (BitVec 16)) : List Byte :=
  ws.flatMap fun w => [highByte w, lowByte w]

@[simp]
theorem highByte_append (a b : Byte) : highByte (a ++ b) = a :=
  BitVec.extractLsb'_append_eq_left

@[simp]
theorem lowByte_append (a b : Byte) : lowByte (a ++ b) = b :=
  BitVec.extractLsb'_append_eq_right

theorem highByte_append_lowByte (w : BitVec 16) : highByte w ++ lowByte w = w := by
  have hall : w.extractLsb' 8 8 ++ w.extractLsb' 0 8 = w.extractLsb' 0 16 :=
    BitVec.extractLsb'_append_extractLsb'_eq_extractLsb' rfl
  rw [highByte, lowByte, hall, BitVec.extractLsb'_eq_self]

theorem length_programBytes (ws : List (BitVec 16)) :
    (programBytes ws).length = 2 * ws.length := by
  induction ws with
  | nil => rfl
  | cons w ws ih =>
    have hcons : programBytes (w :: ws) = highByte w :: lowByte w :: programBytes ws := rfl
    rw [hcons, List.length_cons, List.length_cons, ih, List.length_cons, Nat.mul_succ]

/-- The two bytes of a word are next to each other, at twice its place in the program. -/
theorem getElem?_programBytes (ws : List (BitVec 16)) (i : Nat) :
    (programBytes ws)[2 * i]? = ws[i]?.map highByte ∧
      (programBytes ws)[2 * i + 1]? = ws[i]?.map lowByte := by
  induction ws generalizing i with
  | nil => exact ⟨rfl, rfl⟩
  | cons w ws ih =>
    cases i with
    | zero => exact ⟨rfl, rfl⟩
    | succ i => exact ih i

/-- The cell that a register refers to goes by the remainder of its number. -/
theorem addressOf_eq_ofInt {register : BitVec 16} {a : Int}
    (h : (register.toNat : Int) % Memory.size = a % Memory.size) :
    addressOf register = BitVec.ofInt 12 a := by
  have hsize : ((2 ^ 12 : Nat) : Int) = (Memory.size : Int) := rfl
  apply BitVec.eq_of_toNat_eq
  rw [addressOf, BitVec.toNat_setWidth, BitVec.toNat_ofInt, hsize, ← h]
  rfl

namespace Machine

variable {m n : Machine} {offset : Int} {bytes : List Byte}

/-! ## Loads -/

/-- A load is granted if all its bytes fit between its offset and the end of the memory. It writes
them there and changes nothing else. -/
theorem load_eq_ok_iff :
    m.load offset bytes = .ok n ↔
      0 ≤ offset ∧ offset + bytes.length ≤ Memory.size ∧
        n = { m with memory := m.memory.write (BitVec.ofInt 12 offset) bytes } := by
  rw [load]
  split
  next houtside =>
    -- an offset past the end leaves no room for any bytes, not even for none
    constructor
    · intro h
      cases h
    · rintro ⟨hnonneg, hfit, -⟩
      omega
  next hinside =>
    split
    next htoo =>
      constructor
      · intro h
        cases h
      · rintro ⟨-, hfit, -⟩
        omega
    next hfit =>
      rw [Except.ok.injEq, eq_comm]
      exact ⟨fun h => ⟨by omega, by omega, h⟩, fun h => h.2.2⟩

/-- A load that is granted puts each byte into its cell. -/
theorem get_memory_of_load (h : m.load offset bytes = .ok n) {k : Nat} (hk : k < bytes.length) :
    n.memory.get (BitVec.ofInt 12 (offset + k)) = bytes[k] := by
  obtain ⟨hnonneg, hfit, rfl⟩ := load_eq_ok_iff.1 h
  have hlength : bytes.length ≤ 2 ^ 12 := by
    have hsize : Memory.size = 2 ^ 12 := rfl
    omega
  have hdistance : (BitVec.ofInt 12 (offset + k) - BitVec.ofInt 12 offset).toNat = k := by
    rw [BitVec.ofInt_add, BitVec.add_comm, BitVec.add_sub_cancel, BitVec.ofInt_natCast,
      BitVec.toNat_ofNat, Nat.mod_eq_of_lt (by omega)]
  show (m.memory.write (BitVec.ofInt 12 offset) bytes).get _ = _
  rw [Table.get_write _ _ _ _ hlength, hdistance, List.getElem?_eq_getElem hk, Option.getD_some]

/-! ## Fetches -/

/-- The word that is fetched when the program counter is at `pc`. -/
def fetchedAt (m : Machine) (pc : BitVec 16) : BitVec 16 :=
  { m with pc := pc }.fetch.1.setWidth 16

/-- A fetch puts two neighbouring cells together. -/
theorem fetchedAt_eq (m : Machine) (pc : BitVec 16) :
    m.fetchedAt pc = m.memory.get (addressOf pc) ++ m.memory.get (addressOf (pc + 1)) := by
  rw [fetchedAt, fetch, word, BitVec.setWidth_setWidth_of_le _ (by decide), BitVec.setWidth_eq,
    Memory.word, addressOf_add]
  rfl

/-- A fetch gives the word at the program counter and goes past it. -/
theorem fetch_eq (m : Machine) : m.fetch = ((m.fetchedAt m.pc).setWidth 32, m.advance) := by
  rw [fetchedAt_eq, addressOf_add]
  rfl

/-- A word is fetched whose two bytes are in the cells that the program counter refers to. -/
theorem fetchedAt_of_get {w pc : BitVec 16} {a : Int}
    (hpc : (pc.toNat : Int) % Memory.size = a % Memory.size)
    (hhigh : m.memory.get (BitVec.ofInt 12 a) = highByte w)
    (hlow : m.memory.get (BitVec.ofInt 12 (a + 1)) = lowByte w) : m.fetchedAt pc = w := by
  have hnext : addressOf (pc + 1) = BitVec.ofInt 12 (a + 1) := by
    rw [addressOf_add, addressOf_eq_ofInt hpc, BitVec.ofInt_add]
    rfl
  rw [fetchedAt_eq, addressOf_eq_ofInt hpc, hnext, hhigh, hlow, highByte_append_lowByte]

/-- Between two words the low byte of the first meets the high byte of the second. -/
theorem fetchedAt_succ (m : Machine) (pc : BitVec 16) :
    m.fetchedAt (pc + 1) = lowByte (m.fetchedAt pc) ++ highByte (m.fetchedAt (pc + 2)) := by
  simp only [fetchedAt_eq, lowByte_append, highByte_append, BitVec.add_assoc]
  rfl

/-- The words fetched at all addresses fix the memory, as each begins with the byte of its own
cell. -/
theorem memory_eq_of_fetchedAt_eq
    (h : ∀ pc : BitVec 16, pc.toNat < Memory.size → m.fetchedAt pc = n.fetchedAt pc) :
    m.memory = n.memory := by
  apply Table.ext
  intro a
  have hcell : addressOf (a.setWidth 16) = a := by
    rw [addressOf, BitVec.setWidth_setWidth_of_le _ (by decide), BitVec.setWidth_eq]
  have hsize : (a.setWidth 16).toNat < Memory.size := by
    rw [BitVec.toNat_setWidth_of_le (by decide)]
    exact a.isLt
  have hword := congrArg highByte (h _ hsize)
  rwa [fetchedAt_eq, fetchedAt_eq, highByte_append, highByte_append, hcell] at hword

/-! ## Loading and fetching -/

/-- A program that has been loaded is fetched word by word, from any number that refers to the right
cell. -/
theorem fetchedAt_of_load {ws : List (BitVec 16)} (h : m.load offset (programBytes ws) = .ok n)
    {i : Nat} (hi : i < ws.length) {pc : BitVec 16}
    (hpc : (pc.toNat : Int) % Memory.size = (offset + 2 * i) % Memory.size) :
    n.fetchedAt pc = ws[i] := by
  have hlength := length_programBytes ws
  obtain ⟨hhigh, hlow⟩ := getElem?_programBytes ws i
  rw [List.getElem?_eq_getElem hi, List.getElem?_eq_getElem (by omega), Option.map_some,
    Option.some.injEq] at hhigh hlow
  -- the bytes of word `i` are those with the numbers `2 * i` and `2 * i + 1`
  apply fetchedAt_of_get hpc
  · rw [← hhigh, ← get_memory_of_load h]
    norm_cast
  · rw [← hlow, ← get_memory_of_load h, Int.add_assoc]
    norm_cast

/-- Loading and fetching are inverse to each other. A program that fits into the memory from an
offset on is loaded, which changes the memory alone. Whatever else becomes of the machine, as long
as it has this memory, a fetch at the place of a word gives that word, moves the program counter
past it and does nothing else. Conversely the words fetched at the addresses of a machine fix its
memory. The fetch at the last address takes its low byte from the first cell, and a fetch between
two words takes the low byte of the one and the high byte of the other. -/
theorem load_fetch_inverse (m : Machine) (ws : List (BitVec 16)) (offset : Int)
    (hoffset : 0 ≤ offset) (hfit : offset + 2 * ws.length ≤ Memory.size) :
    (∃ loaded, m.load offset (programBytes ws) = .ok loaded ∧
        loaded = { m with memory := loaded.memory } ∧
        ∀ n : Machine, n.memory = loaded.memory → ∀ i (hi : i < ws.length),
          (n.pc.toNat : Int) % Memory.size = (offset + 2 * i) % Memory.size →
            n.fetch = (ws[i].setWidth 32, { n with pc := n.pc + 2 })) ∧
      (∀ s t : Machine,
        (∀ pc : BitVec 16, pc.toNat < Memory.size → s.fetchedAt pc = t.fetchedAt pc) →
          s.memory = t.memory) ∧
      ∀ s : Machine, s.fetchedAt 0xFFF = s.memory.get 0xFFF ++ s.memory.get 0x000 ∧
        ∀ pc, s.fetchedAt (pc + 1) =
          lowByte (s.fetchedAt pc) ++ highByte (s.fetchedAt (pc + 2)) := by
  refine ⟨?_, fun s t => memory_eq_of_fetchedAt_eq, fun s => ⟨fetchedAt_eq s 0xFFF, ?_⟩⟩
  · have hbytes : offset + (programBytes ws).length ≤ Memory.size := by
      rw [length_programBytes]
      exact_mod_cast hfit
    have hgranted := (load_eq_ok_iff (m := m)).2 ⟨hoffset, hbytes, rfl⟩
    refine ⟨_, hgranted, rfl, fun n hmemory i hi hpc => ?_⟩
    have hword := fetchedAt_of_load hgranted hi hpc
    -- what is fetched depends on the memory alone
    rw [fetchedAt_eq, ← hmemory, ← fetchedAt_eq] at hword
    rw [fetch_eq, hword]
    rfl
  · exact fetchedAt_succ s

/-- Two words before the end of the memory are loaded, and the second is fetched by a program
counter that is larger than any address. -/
theorem load_fetch_inverse_twoWords :
    ∃ loaded, (create .zero .modern).load 0xFFB (programBytes [0x6005, 0xD015]) = .ok loaded ∧
      { loaded with pc := 0x2FFD }.fetch = (0xD015, { loaded with pc := 0x2FFF }) := by
  obtain ⟨⟨loaded, hgranted, -, hfetch⟩, -⟩ :=
    load_fetch_inverse (create .zero .modern) [0x6005, 0xD015] 0xFFB (by decide) (by decide)
  have hpc : ((0x2FFD#16).toNat : Int) % Memory.size = (0xFFB + 2 * (1 : Nat)) % Memory.size := by
    decide
  exact ⟨loaded, hgranted, hfetch { loaded with pc := 0x2FFD } rfl 1 (by decide) hpc⟩

end Machine

end Chip8
