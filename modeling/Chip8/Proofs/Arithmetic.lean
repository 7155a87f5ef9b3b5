import Chip8.Proofs.Effects

/-!
# Results and flags as numbers

An arithmetic operation of the family `8` has a result of eight bits in `VX` and a flag in `VF`, and
the two together say all: the carry is worth 256, so is a borrow, and a bit that is shifted out
is worth what it was. If `X` is `F` the flag takes the place of the result. The equations are proved
for bytes (`Byte.add_equation` and the others), and `Machine.HasResultAndFlag` says of a machine
that `VX` and `VF` satisfy one.

* `Machine.hasResultAndFlag_execute`: where result and flag go, whatever `X` and `Y` are.
* `Machine.alu_exact`: the equations, the logical operations, and what stays as it was.
-/

namespace Chip8

/-! ## Bytes -/

theorem toNat_flagByte (flag : Bool) : (flagByte flag).toNat = flag.toNat := by
  cases flag <;> rfl

namespace Byte

/-- A sum of two bytes is its low eight bits, and 256 if there is a carry. -/
theorem add_equation (a b : Byte) :
    ((a + b).toNat : Int) + 256 * (decide (255 < a.toNat + b.toNat)).toNat = a.toNat + b.toNat := by
  have ha : a.toNat < 2 ^ 8 := a.isLt
  have hb : b.toNat < 2 ^ 8 := b.isLt
  rw [BitVec.toNat_add]
  by_cases hcarry : 255 < a.toNat + b.toNat
  · rw [decide_eq_true hcarry, Bool.toNat_true]
    omega
  · rw [decide_eq_false hcarry, Bool.toNat_false]
    omega

/-- A difference of two bytes is its low eight bits, less 256 if something is borrowed. -/
theorem sub_equation (a b : Byte) :
    ((a - b).toNat : Int) = a.toNat - b.toNat + 256 * (1 - (decide (b ≤ a)).toNat) := by
  have ha : a.toNat < 2 ^ 8 := a.isLt
  have hb : b.toNat < 2 ^ 8 := b.isLt
  rw [BitVec.toNat_sub]
  by_cases hle : b ≤ a
  · have hle' : b.toNat ≤ a.toNat := BitVec.le_def.1 hle
    rw [decide_eq_true hle, Bool.toNat_true]
    omega
  · have hlt : a.toNat < b.toNat := BitVec.lt_def.1 (BitVec.not_le.1 hle)
    rw [decide_eq_false hle, Bool.toNat_false]
    omega

/-- A byte is twice its half and the bit that is shifted out to the right. -/
theorem shiftRight_equation (a : Byte) :
    2 * ((a >>> 1).toNat : Int) + (a.getLsbD 0).toNat = a.toNat := by
  rw [BitVec.toNat_ushiftRight, Nat.shiftRight_eq_div_pow, BitVec.getLsbD, Nat.toNat_testBit]
  omega

/-- Twice a byte is what a shift to the left leaves, and 256 if a bit is shifted out. -/
theorem shiftLeft_equation (a : Byte) :
    ((a <<< 1).toNat : Int) + 256 * a.msb.toNat = 2 * a.toNat := by
  have ha : a.toNat < 2 ^ 8 := a.isLt
  rw [BitVec.toNat_shiftLeft, Nat.shiftLeft_eq, BitVec.msb_eq_decide]
  by_cases hhigh : 2 ^ (8 - 1) ≤ a.toNat
  · rw [decide_eq_true hhigh, Bool.toNat_true]
    omega
  · rw [decide_eq_false hhigh, Bool.toNat_false]
    omega

end Byte

namespace Machine

variable {m : Machine}

/-! ## Where result and flag go -/

/-- `VX` holds a result of eight bits and `VF` a flag, and they satisfy an equation. If `X` is `F`
the flag is there, and the result is not. -/
def HasResultAndFlag (n : Machine) (x : Register) (equation : Int → Int → Prop) : Prop :=
  ∃ value flag : Int, equation value flag ∧ (0 ≤ value ∧ value ≤ 255) ∧ (flag = 0 ∨ flag = 1) ∧
    (n.v.get flagRegister).toNat = flag ∧ (x ≠ flagRegister → (n.v.get x).toNat = value)

/-- The registers after a logical operation has put its result into `VX`: the profile may ask for
`VF` to be cleared after that. -/
def withLogicalResult (m : Machine) (x : Register) (value : Byte) : Registers :=
  if m.profile.logicResetsVf then (m.v.set x value).set flagRegister 0 else m.v.set x value

theorem execute_alu (m : Machine) (op : AluOp) (x y : Register) :
    m.execute (Instruction.alu op x y).word =
      { m with v := (op.result m.profile (m.v.get x) (m.v.get y)).store m.v x } := by
  rw [execute_word, perform, performAlu_eq]

/-- An operation with a flag puts its result and its flag where they belong. -/
theorem hasResultAndFlag_execute {op : AluOp} {x y : Register} {value : Byte} {flag : Bool}
    {equation : Int → Int → Prop}
    (hresult : op.result m.profile (m.v.get x) (m.v.get y) = ⟨value, some flag⟩)
    (hequation : equation value.toNat flag.toNat) :
    (m.execute (Instruction.alu op x y).word).HasResultAndFlag x equation := by
  have hvalue : value.toNat < 2 ^ 8 := value.isLt
  have hv : (m.execute (Instruction.alu op x y).word).v =
      (m.v.set x value).set flagRegister (flagByte flag) := by
    rw [execute_alu, hresult]
    rfl
  -- the flag is written last, so in `VF` it takes the place of the result
  refine ⟨value.toNat, flag.toNat, hequation, by omega, ?_, ?_, ?_⟩
  · cases flag
    · exact .inl rfl
    · exact .inr rfl
  · rw [hv, Table.get_set_self, toNat_flagByte]
  · intro hx
    rw [hv, Table.get_set_of_ne _ _ hx, Table.get_set_self]

/-- An operation leaves all registers alone but `VX` and `VF`. -/
theorem get_v_execute_alu (m : Machine) (op : AluOp) {x y r : Register} (hx : r ≠ x)
    (hflag : r ≠ flagRegister) :
    (m.execute (Instruction.alu op x y).word).v.get r = m.v.get r := by
  rw [execute_alu]
  exact AluResult.get_store hx (.inr hflag)

/-- A logical operation puts its result into `VX`, and `VF` is cleared after that where the profile
asks for it. -/
theorem v_execute_logical {op : AluOp} {x y : Register} {value : Byte}
    (hresult : op.result m.profile (m.v.get x) (m.v.get y) = ⟨value, AluOp.logicFlag m.profile⟩) :
    (m.execute (Instruction.alu op x y).word).v = m.withLogicalResult x value := by
  rw [execute_alu, hresult, withLogicalResult, AluOp.logicFlag]
  split <;> rfl

/-! ## The operations -/

/-- `8XY4` adds, with the carry as flag. -/
theorem hasResultAndFlag_add (m : Machine) (x y : Register) :
    (m.execute (Instruction.alu .add x y).word).HasResultAndFlag x fun value flag =>
      value + 256 * flag = (m.v.get x).toNat + (m.v.get y).toNat :=
  hasResultAndFlag_execute rfl (Byte.add_equation _ _)

/-- `8XY5` takes `VY` from `VX`, with the absence of a borrow as flag. -/
theorem hasResultAndFlag_sub (m : Machine) (x y : Register) :
    (m.execute (Instruction.alu .sub x y).word).HasResultAndFlag x fun value flag =>
      value = (m.v.get x).toNat - (m.v.get y).toNat + 256 * (1 - flag) :=
  hasResultAndFlag_execute rfl (Byte.sub_equation _ _)

/-- Taking away what has been added gives back `VX`, and there is a borrow exactly if there was a
carry. -/
theorem sub_of_add {x y : Register} (hxy : x ≠ y) (hx : x ≠ flagRegister)
    (hy : y ≠ flagRegister) :
    let added := m.execute (Instruction.alu .add x y).word
    let restored := added.execute (Instruction.alu .sub x y).word
    restored.v.get x = m.v.get x ∧
      (restored.v.get flagRegister).toNat + (added.v.get flagRegister).toNat = 1 := by
  intro added restored
  obtain ⟨sum, carry, hsum, -, hcarry, hflag, hvx⟩ := hasResultAndFlag_add m x y
  obtain ⟨difference, noBorrow, hdifference, hbounds, hnoBorrow, hflag', hvx'⟩ :=
    hasResultAndFlag_sub added x y
  have hbyte : (m.v.get x).toNat < 2 ^ 8 := (m.v.get x).isLt
  -- the sum is in `VX` and `VY` is as it was, so the second equation has both operands of the first
  have hkept : added.v.get y = m.v.get y := get_v_execute_alu m .add (Ne.symm hxy) hy
  have hadded : ((added.v.get x).toNat : Int) = sum := hvx hx
  have hcarried : ((added.v.get flagRegister).toNat : Int) = carry := hflag
  have hrestored : ((restored.v.get x).toNat : Int) = difference := hvx' hx
  have hreturned : ((restored.v.get flagRegister).toNat : Int) = noBorrow := hflag'
  rw [hkept, hadded] at hdifference
  -- a difference of eight bits leaves no choice: it is `VX` again, and the flags are complements
  constructor
  · apply BitVec.eq_of_toNat_eq
    omega
  · omega

/-- The operations of the family `8` are exact, whichever registers `X` and `Y` are. The result and
the flag of an arithmetic operation satisfy its equation. A logical operation puts its result into
`VX`, and after that `VF` is cleared if the profile asks for it. All other registers, and all other
parts of the machine, stay as they were. A sum that is taken back leaves `VX` as it was, with a
borrow if there was a carry. -/
theorem alu_exact (m : Machine) (x y : Register) :
    let vx := m.v.get x
    let vy := m.v.get y
    let src := if m.profile.shiftUsesVy then vy else vx
    let after := fun op => m.execute (Instruction.alu op x y).word
    ((after .add).HasResultAndFlag x fun value flag => value + 256 * flag = vx.toNat + vy.toNat) ∧
      ((after .sub).HasResultAndFlag x fun value flag =>
        value = vx.toNat - vy.toNat + 256 * (1 - flag)) ∧
      ((after .subFrom).HasResultAndFlag x fun value flag =>
        value = vy.toNat - vx.toNat + 256 * (1 - flag)) ∧
      ((after .shiftRight).HasResultAndFlag x fun value flag => 2 * value + flag = src.toNat) ∧
      ((after .shiftLeft).HasResultAndFlag x fun value flag =>
        value + 256 * flag = 2 * src.toNat) ∧
      (after .set).v = m.v.set x vy ∧
      (after .or).v = m.withLogicalResult x (vx ||| vy) ∧
      (after .and).v = m.withLogicalResult x (vx &&& vy) ∧
      (after .xor).v = m.withLogicalResult x (vx ^^^ vy) ∧
      (∀ op, after op = { m with v := (after op).v } ∧
        ∀ r, r ≠ x → r ≠ flagRegister → (after op).v.get r = m.v.get r) ∧
      (x ≠ y → x ≠ flagRegister → y ≠ flagRegister →
        let restored := (after .add).execute (Instruction.alu .sub x y).word
        restored.v.get x = vx ∧
          (restored.v.get flagRegister).toNat + ((after .add).v.get flagRegister).toNat = 1) := by
  intro vx vy src after
  refine ⟨hasResultAndFlag_add m x y, hasResultAndFlag_sub m x y,
    hasResultAndFlag_execute rfl (Byte.sub_equation _ _),
    hasResultAndFlag_execute rfl (Byte.shiftRight_equation _),
    hasResultAndFlag_execute rfl (Byte.shiftLeft_equation _), ?_, v_execute_logical rfl,
    v_execute_logical rfl, v_execute_logical rfl, ?_, sub_of_add⟩
  · show (m.execute _).v = _
    rw [execute_alu]
    rfl
  · intro op
    refine ⟨?_, fun r hx hflag => get_v_execute_alu m op hx hflag⟩
    show m.execute _ = { m with v := (m.execute _).v }
    rw [execute_alu]

/-- A machine whose first two registers have a sum that does not fit into a byte. -/
def carrying : Machine :=
  { create .zero .modern with v := (Table.replicate 4 0).write 0 [200, 100] }

/-- The sum wraps with a carry, and taking it back restores the first register with a borrow. -/
theorem alu_exact_carrying :
    let added := carrying.execute (Instruction.alu .add 0 1).word
    let restored := added.execute (Instruction.alu .sub 0 1).word
    added.v.get 0 = 44 ∧ added.v.get flagRegister = 1 ∧ restored.v.get 0 = 200 ∧
      (restored.v.get flagRegister).toNat + (added.v.get flagRegister).toNat = 1 := by
  intro added restored
  obtain ⟨-, -, -, -, -, -, -, -, -, -, hrestored⟩ := alu_exact carrying 0 1
  obtain ⟨hvx, hflag⟩ := hrestored (by decide) (by decide) (by decide)
  exact ⟨by decide, by decide, hvx.trans (by decide), hflag⟩

end Machine

end Chip8
