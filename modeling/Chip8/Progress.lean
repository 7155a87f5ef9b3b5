import Chip8.Integer
import Chip8.Text.Grouped

/-!
# Progress bars

A progress bar accompanies a body that is carried out once for each of `total` indices. The bar is
opened before index zero, advanced by `rate` after every index whose successor is a multiple of
`rate`, topped up and closed after the last index. What happens to the bar and to the body is kept
as a list of events.

An index is a 32-bit word with a sign, and so is its successor. It is compared with the lowest 32
bits of the total and of the rate, while the text beside the bar and the last advance go by the
whole numbers.

The body sees nothing of the bar. An index that finds no open bar to advance or to close is an
error; the indices need not come in order.
-/

namespace Chip8

namespace Progress

/-- The index of an iteration. -/
abbrev Index := BitVec 32

/-- How a bar accompanies its body. -/
structure Plan where
  /-- The number of iterations. -/
  total : Int
  /-- The number of iterations from one advance to the next. -/
  rate : Int
  /-- The text beside the bar. -/
  description : String
deriving DecidableEq, Repr

/-- The reasons to fail. -/
inductive Error where
  /-- There is no open bar in the slot with this number. -/
  | noOpenBar (slot : Nat)
  /-- The total or the rate does not fit into 64 bits. -/
  | tooWide (reason : WidthError)
  /-- The bar cannot be advanced by so many steps at once. -/
  | tooManySteps (steps : Int)
deriving DecidableEq, Repr

/-- The wording of the error. Where a bar is missing it is the number of the slot. -/
def Error.message : Error → String
  | noOpenBar slot => toString slot
  | tooWide reason => reason.message
  | tooManySteps steps => s!"Python int {steps} too large to convert to int32"

/-- What happens to a bar and to the body that it accompanies. -/
inductive Event where
  /-- The bar is opened. -/
  | opened (description : String) (total : Int)
  /-- The body is carried out for an index. -/
  | body (index : Index)
  /-- The bar is advanced. -/
  | advanced (steps : Int)
  /-- The bar is closed. -/
  | closed
deriving DecidableEq, Repr

/-- What the bar counts. -/
def unit : String := "frame"

/-- A body on its way, with its bar. -/
structure Tracked (σ : Type) where
  /-- The state that the body passes on. -/
  state : σ
  /-- Whether the bar is open. -/
  isOpen : Bool
  /-- The events so far, in order. -/
  events : Array Event

namespace Tracked

variable {σ : Type}

/-- A body that has not begun. -/
def start (state : σ) : Tracked σ :=
  ⟨state, false, #[]⟩

/-- Opens a bar in place of the one before, if there was one. -/
def openBar (t : Tracked σ) (p : Plan) : Tracked σ :=
  { t with isOpen := true, events := t.events.push (.opened p.description p.total) }

/-- Advances the bar, by a number of steps that fits into a 32-bit word with a sign. -/
def advance (t : Tracked σ) (steps : Int) : Except Error (Tracked σ) :=
  if steps ≠ (BitVec.ofInt 32 steps).toInt then .error (.tooManySteps steps)
  else if t.isOpen then .ok { t with events := t.events.push (.advanced steps) }
  else .error (.noOpenBar 0)

/-- Closes the bar. -/
def closeBar (t : Tracked σ) : Except Error (Tracked σ) :=
  if t.isOpen then .ok { t with isOpen := false, events := t.events.push .closed }
  else .error (.noOpenBar 0)

end Tracked

namespace Plan

/-- The rate for a number of iterations: a twentieth of them, but at least one and at most
fifty. -/
def defaultRate (total : Int) : Int :=
  max 1 (min (total.fdiv 20) 50)

/-- The rate that is used when another is asked for: at least one and at most all iterations. -/
def limitRate (total rate : Int) : Int :=
  max 1 (min rate total)

/-- The text beside the bar unless another is asked for. -/
def defaultDescription (total : Int) : String :=
  s!"Emulating ({Text.Grouped.ofInt total} frames)"

/-- The plan for a number of iterations, with the rate and the text asked for. -/
def create (total : Int) (rate? : Option Int) (description? : Option String) : Plan where
  total := total
  rate := match rate? with
    | some rate => limitRate total rate
    | none => defaultRate total
  description := description?.getD (defaultDescription total)

/-- The number of iterations after the last whole advance. -/
def remainder (p : Plan) : Int :=
  p.total.fmod p.rate

/-- Whether a number is a multiple of a rate. Every number is one of the rate zero. -/
def isMultiple (done rate : BitVec 32) : Bool :=
  rate == 0 || done.toInt % rate.toInt == 0

variable {σ β : Type}

/-- What happens to the bar after the body, when `done` is the successor of its index. -/
def settle (p : Plan) (done : Index) (t : Tracked σ) : Except Error (Tracked σ) := do
  let rate ← (Integer.narrow p.rate).mapError Error.tooWide
  let t ← if isMultiple done rate then t.advance p.rate else pure t
  let total ← (Integer.narrow p.total).mapError Error.tooWide
  let t ← if p.remainder ≠ 0 ∧ done = total then t.advance p.remainder else pure t
  if done = total then t.closeBar else pure t

/-- Carries out the body for an index, with the bar beside it. -/
def iterate (p : Plan) (body : σ → Index → σ × β) (t : Tracked σ) (index : Index) :
    Except Error (Tracked σ × β) := do
  let t := if index = 0 then t.openBar p else t
  let (state, out) := body t.state index
  let t ← p.settle (index + 1) { t with state := state, events := t.events.push (.body index) }
  pure (t, out)

/-- Carries out the body for a list of indices, with the bar beside it, and collects what the
body gives. -/
def scan (p : Plan) (body : σ → Index → σ × β) (t : Tracked σ) :
    List Index → Except Error (Tracked σ × List β)
  | [] => pure (t, [])
  | index :: rest => do
    let (t, out) ← p.iterate body t index
    let (t, outs) ← p.scan body t rest
    pure (t, out :: outs)

end Plan

end Progress

end Chip8
