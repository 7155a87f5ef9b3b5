import Chip8.Machine.Frame
import Mathlib.Algebra.Order.Ring.Int

/-!
# A progress bar ends at its total

A scan with a bar does to its body what a scan without one does (`Progress.scanBare`), and lets the
bar count. After each body but the last the bar stands at the number of bodies so far, rounded down
to a multiple of the rate. After the last body it stands at their number, and is closed.

This takes indices that have a sign and 32 bits, all of them different: there are at most `2 ^ 31`
of them. It also takes advances that fit into such a number. What the bar does in a single iteration
is `Plan.iterate_eq`, and what it has done after some iterations `Plan.scan_indices`.

* `Plan.KeepsCount`: what is asked of a bar.
* `Plan.bar_ends_at_total`: it does this, and so do the frames of a machine.
* `Plan.not_keepsCount_of_wrapping`: with more iterations, or with a wider advance, it does not.
-/

namespace Chip8

namespace Progress

variable {σ β : Type}

/-- Carries out a body for a list of indices, without a bar. -/
def scanBare (body : σ → Index → σ × β) (state : σ) : List Index → σ × List β
  | [] => (state, [])
  | index :: rest =>
    let (next, out) := body state index
    let (last, outs) := scanBare body next rest
    (last, out :: outs)

/-- The indices of the first `n` iterations. -/
def indices (n : Nat) : List Index :=
  (List.range n).map (BitVec.ofNat 32)

/-- The events beside `n` bodies, if the bar is advanced after each body by the steps given. -/
def barEvents (description : String) (n : Nat) (updates : Nat → List Int) : List Event :=
  .opened description n ::
    (List.range n).flatMap (fun k => .body (BitVec.ofNat 32 k) :: (updates k).map .advanced) ++
    [.closed]

theorem indices_succ (n : Nat) : indices (n + 1) = indices n ++ [BitVec.ofNat 32 n] := by
  rw [indices, List.range_succ, List.map_append]
  rfl

/-- A list of indices in two parts is scanned part by part. -/
theorem scanBare_append (body : σ → Index → σ × β) (state : σ) (is js : List Index) :
    scanBare body state (is ++ js) =
      ((scanBare body (scanBare body state is).1 js).1,
        (scanBare body state is).2 ++ (scanBare body (scanBare body state is).1 js).2) := by
  induction is generalizing state with
  | nil => rfl
  | cons i is ih => simp only [List.cons_append, scanBare, ih]

/-! ## Numbers that fit -/

/-- A number that fits is read back with its sign. -/
theorem toInt_ofInt {n : Int} (hlow : 0 ≤ n) (hhigh : n < 2 ^ 31) :
    (BitVec.ofInt 32 n).toInt = n := by
  rw [BitVec.toInt_ofInt]
  exact Int.bmod_eq_of_le (by omega) (by omega)

/-- The number `2 ^ 31` is taken for its negative. -/
theorem toInt_ofNat_eq_or_neg {d : Nat} (h : d ≤ 2 ^ 31) :
    (BitVec.ofNat 32 d).toInt = d ∨ (BitVec.ofNat 32 d).toInt = -d := by
  rcases Nat.eq_or_lt_of_le h with rfl | hlt
  · exact .inr rfl
  · rw [← BitVec.ofInt_natCast]
    exact .inl (toInt_ofInt (by omega) (by omega))

/-- Numbers up to `2 ^ 31` are told apart by their 32 bits. -/
theorem ofNat_inj {a b : Nat} (ha : a ≤ 2 ^ 31) (hb : b ≤ 2 ^ 31) :
    BitVec.ofNat 32 a = BitVec.ofNat 32 b ↔ a = b := by
  rw [BitVec.toNat_eq, BitVec.toNat_ofNat, BitVec.toNat_ofNat, Nat.mod_eq_of_lt (by omega),
    Nat.mod_eq_of_lt (by omega)]

/-- Numbers up to `2 ^ 31` are let in. -/
theorem narrow_natCast {n : Nat} (h : n ≤ 2 ^ 31) :
    (Integer.narrow (n : Int)).mapError Error.tooWide = pure (BitVec.ofNat 32 n) := by
  have hfits : Integer.Fits (n : Int) := ⟨by omega, by omega⟩
  rw [Integer.narrow_of_fits hfits, BitVec.ofInt_natCast]
  rfl

theorem ofNat_succ (k : Nat) : BitVec.ofNat 32 k + 1 = BitVec.ofNat 32 (k + 1) :=
  (BitVec.ofNat_add k 1).symm

/-- Among numbers that fit, the multiples are what they should be: a sign does not matter. -/
theorem isMultiple_ofNat {d r : Nat} (hd : d ≤ 2 ^ 31) (hr : r ≤ 2 ^ 31) (hpos : 0 < r) :
    Plan.isMultiple (BitVec.ofNat 32 d) (BitVec.ofNat 32 r) = decide (r ∣ d) := by
  have hzero : (BitVec.ofNat 32 r == 0) = false := by
    rw [beq_eq_false_iff_ne]
    intro h
    have := (ofNat_inj hr (Nat.zero_le _)).1 h
    omega
  have hdvd : (BitVec.ofNat 32 r).toInt ∣ (BitVec.ofNat 32 d).toInt ↔ r ∣ d := by
    rcases toInt_ofNat_eq_or_neg hd with hd | hd <;>
      rcases toInt_ofNat_eq_or_neg hr with hr | hr <;>
      simp only [hd, hr, Int.neg_dvd, Int.dvd_neg, Int.natCast_dvd_natCast]
  rw [Plan.isMultiple, hzero, Bool.false_or, Bool.eq_iff_iff, beq_iff_eq, decide_eq_true_iff,
    ← Int.dvd_iff_emod_eq_zero, hdvd]

/-! ## Single events -/

namespace Tracked

/-- Adds events to those so far. -/
def noting (t : Tracked σ) (es : List Event) : Tracked σ :=
  { t with events := t.events ++ es.toArray }

variable {t : Tracked σ}

@[simp]
theorem noting_nil (t : Tracked σ) : t.noting [] = t := by
  simp [noting]

@[simp]
theorem noting_noting (t : Tracked σ) (es fs : List Event) :
    (t.noting es).noting fs = t.noting (es ++ fs) := by
  simp [noting]

/-- An advance that fits is noted. -/
theorem advance_eq {steps : Int} (hopen : t.isOpen = true) (hlow : 0 ≤ steps)
    (hhigh : steps < 2 ^ 31) : t.advance steps = .ok (t.noting [.advanced steps]) := by
  rw [advance, toInt_ofInt hlow hhigh, if_neg (not_not_intro rfl), if_pos hopen, noting,
    Array.push_eq_append]

theorem closeBar_eq (hopen : t.isOpen = true) :
    t.closeBar = .ok { t.noting [.closed] with isOpen := false } := by
  rw [closeBar, if_pos hopen, noting, Array.push_eq_append]

/-- An advance that is made under a condition, and what is done after it. -/
theorem ite_advance_bind {c : Prop} [Decidable c] {steps : Int}
    {rest : Tracked σ → Except Error (Tracked σ)} (hopen : t.isOpen = true) (hlow : 0 ≤ steps)
    (hhigh : c → steps < 2 ^ 31) :
    (if c then t.advance steps >>= rest else rest t) =
      rest (t.noting ((if c then [steps] else []).map .advanced)) := by
  split
  next hc =>
    rw [advance_eq hopen hlow (hhigh hc)]
    rfl
  next => rw [List.map_nil, noting_nil]

end Tracked

namespace Plan

variable {p : Plan} {n r k : Nat} {t : Tracked σ}

/-! ## Advances -/

/-- The steps by which a bar is advanced after the body with number `k`, out of `n`: one rate after
a multiple of it, and at the end what is missing. -/
def advances (n r k : Nat) : List Int :=
  (if r ∣ k + 1 then [(r : Int)] else []) ++
    if (n : Int) % r ≠ 0 ∧ k + 1 = n then [(n : Int) % r] else []

/-- The number of iterations up to the last multiple of the rate goes up by the rate at a
multiple. -/
theorem sub_mod_succ (r k : Nat) :
    ((k + 1 : Nat) : Int) - (k + 1 : Nat) % r =
      k - k % r + if r ∣ k + 1 then (r : Int) else 0 := by
  have hthis := Nat.div_add_mod k r
  have hnext := Nat.div_add_mod (k + 1) r
  split
  next hdvd =>
    rw [Nat.succ_div_of_dvd hdvd, Nat.mul_succ] at hnext
    omega
  next hdvd =>
    rw [Nat.succ_div_of_not_dvd hdvd] at hnext
    omega

/-- One body advances the bar by the rate at a multiple of it, and the last one by what is missing.
-/
theorem sum_advances (n r k : Nat) :
    (advances n r k).sum =
      (if r ∣ k + 1 then (r : Int) else 0) + if k + 1 = n then (n : Int) % r else 0 := by
  have hlast : (if (n : Int) % r ≠ 0 ∧ k + 1 = n then [(n : Int) % r] else []).sum =
      if k + 1 = n then (n : Int) % r else 0 := by
    by_cases hrest : (n : Int) % r = 0
    · simp [hrest]
    · simp only [ne_eq, hrest, not_false_eq_true, true_and]
      split <;> simp
  rw [advances, List.sum_append, hlast]
  split <;> simp

/-- The bar is at the last multiple of the rate, and in the end at its total. -/
theorem sum_flatMap_advances (r : Nat) (hk : k ≤ n) (hn : 0 < n) :
    ((List.range k).flatMap (advances n r)).sum = if k < n then (k : Int) - k % r else n := by
  induction k with
  | zero => simp [hn]
  | succ k ih =>
    have hbefore := ih (Nat.le_of_succ_le hk)
    have hstep := sub_mod_succ r k
    rw [if_pos (Nat.lt_of_succ_le hk)] at hbefore
    rw [List.range_succ, List.flatMap_append, List.sum_append, hbefore, List.flatMap_singleton,
      sum_advances]
    -- only the last body is followed by what is missing
    rcases Nat.eq_or_lt_of_le hk with rfl | hlt
    · simp only [if_true, Nat.lt_irrefl, if_false]
      omega
    · have hlast : k + 1 ≠ n := Nat.ne_of_lt hlt
      simp only [hlast, hlt, if_true, if_false]
      omega

/-- What is missing at the end is less than one rate. -/
theorem missing_bounds (n : Nat) (hr : 0 < r) : 0 ≤ (n : Int) % r ∧ (n : Int) % r < r :=
  ⟨Int.emod_nonneg _ (by omega), Int.emod_lt_of_pos _ (by omega)⟩

/-- The bar is never advanced by less than one or more than the rate. -/
theorem mem_advances (hr : 0 < r) {steps : Int} (h : steps ∈ advances n r k) :
    1 ≤ steps ∧ steps ≤ r := by
  have hmissing := missing_bounds n hr
  rcases List.mem_append.1 h with h | h
  · split at h
    · rw [List.mem_singleton] at h
      omega
    · cases h
  · split at h
    · rw [List.mem_singleton] at h
      omega
    · cases h

/-! ## Single iterations -/

/-- A plan for `n` iterations whose indices have a sign and 32 bits. -/
structure Fits (p : Plan) (n r : Nat) : Prop where
  /-- The plan is for this number of iterations. -/
  total_eq : p.total = n
  /-- The rate is a natural number. -/
  rate_eq : p.rate = r
  /-- The bar moves. -/
  rate_pos : 0 < r
  /-- The bar does not move past its total. -/
  rate_le : r ≤ n
  /-- The indices fit. -/
  le : n ≤ 2 ^ 31

/-- What is missing at the end is the remainder by the rate. -/
theorem Fits.remainder_eq (h : p.Fits n r) : p.remainder = (n : Int) % r := by
  rw [remainder, h.total_eq, h.rate_eq, Int.fmod_eq_emod_of_nonneg _ (Int.natCast_nonneg r)]

/-- What happens to an open bar after the body with number `k`. -/
theorem settle_eq (h : p.Fits n r) (hk : k < n) (hopen : t.isOpen = true)
    (hsmall : ∀ steps ∈ advances n r k, steps < 2 ^ 31) :
    p.settle (BitVec.ofNat 32 (k + 1)) t =
      .ok { t.noting ((advances n r k).map .advanced ++ if k + 1 = n then [.closed] else []) with
        isOpen := decide (k + 1 ≠ n) } := by
  have hn : n ≤ 2 ^ 31 := h.le
  have hr : r ≤ 2 ^ 31 := Nat.le_trans h.rate_le hn
  have hdone : k + 1 ≤ 2 ^ 31 := Nat.le_trans hk hn
  -- all numbers fit, so what is tested of their 32 bits holds of them
  simp only [settle, h.rate_eq, h.total_eq, h.remainder_eq, narrow_natCast hr, narrow_natCast hn,
    pure_bind, isMultiple_ofNat hdone hr h.rate_pos, decide_eq_true_eq, ofNat_inj hdone hn]
  have hopenAfter (es : List Event) : (t.noting es).isOpen = true := hopen
  have hrate : r ∣ k + 1 → (r : Int) < 2 ^ 31 := by
    intro hdvd
    apply hsmall
    rw [advances, if_pos hdvd]
    exact List.mem_append_left _ (List.mem_singleton_self _)
  have hmissing := missing_bounds n h.rate_pos
  rw [Tracked.ite_advance_bind hopen (Int.natCast_nonneg r) hrate,
    Tracked.ite_advance_bind (hopenAfter _) hmissing.1 (fun _ => by omega),
    Tracked.noting_noting, ← List.map_append, ← advances]
  -- the last body closes the bar, and the others leave it open
  by_cases hlast : k + 1 = n
  · rw [if_pos hlast, if_pos hlast, Tracked.closeBar_eq (hopenAfter _), Tracked.noting_noting,
      decide_eq_false (not_not_intro hlast)]
  · rw [if_neg hlast, if_neg hlast, List.append_nil, decide_eq_true hlast, ← hopen]
    rfl

/-- The events of an iteration. -/
def eventsOf (p : Plan) (n r k : Nat) : List Event :=
  (if k = 0 then [.opened p.description n] else []) ++
    .body (BitVec.ofNat 32 k) :: (advances n r k).map .advanced ++
    if k + 1 = n then [.closed] else []

/-- What an iteration does, if it opens the bar or finds it open. -/
theorem iterate_eq (h : p.Fits n r) (hk : k < n) (hopen : k ≠ 0 → t.isOpen = true)
    (hsmall : ∀ steps ∈ advances n r k, steps < 2 ^ 31) (body : σ → Index → σ × β) :
    p.iterate body t (BitVec.ofNat 32 k) =
      .ok ({ t.noting (p.eventsOf n r k) with
          state := (body t.state (BitVec.ofNat 32 k)).1
          isOpen := decide (k + 1 ≠ n) },
        (body t.state (BitVec.ofNat 32 k)).2) := by
  have hn : n ≤ 2 ^ 31 := h.le
  have hfirst : BitVec.ofNat 32 k = 0 ↔ k = 0 := ofNat_inj (by omega) (Nat.zero_le _)
  -- index zero opens the bar, and no other index looks like zero
  have hopened : (if BitVec.ofNat 32 k = 0 then t.openBar p else t) =
      { t.noting (if k = 0 then [.opened p.description n] else []) with isOpen := true } := by
    by_cases hk0 : k = 0
    · rw [if_pos (hfirst.2 hk0), if_pos hk0, Tracked.openBar, h.total_eq, Array.push_eq_append]
      rfl
    · rw [if_neg (mt hfirst.1 hk0), if_neg hk0, Tracked.noting_nil, ← hopen hk0]
  rw [iterate, ofNat_succ]
  simp only [hopened, Array.push_eq_append]
  rw [settle_eq h hk rfl hsmall]
  show Except.ok _ = _
  simp [eventsOf, Tracked.noting]

/-! ## Several iterations -/

/-- What a scan does for two lists of indices, one after the other. -/
theorem scan_append (p : Plan) (body : σ → Index → σ × β) (t : Tracked σ)
    (is js : List Index) :
    p.scan body t (is ++ js) =
      p.scan body t is >>= fun x => p.scan body x.1 js >>= fun y => pure (y.1, x.2 ++ y.2) := by
  induction is generalizing t with
  | nil => simp [scan]
  | cons i is ih => simp [scan, ih]

/-- The events of the first `k` iterations. -/
def eventsBefore (p : Plan) (n r k : Nat) : List Event :=
  if k = 0 then [] else
    .opened p.description n ::
      (List.range k).flatMap
        (fun j => .body (BitVec.ofNat 32 j) :: (advances n r j).map .advanced) ++
      if k = n then [.closed] else []

/-- The events of one iteration more are added at the end. -/
theorem eventsBefore_succ (p : Plan) (r : Nat) (hk : k < n) :
    p.eventsBefore n r (k + 1) = p.eventsBefore n r k ++ p.eventsOf n r k := by
  have hbefore : k ≠ n := Nat.ne_of_lt hk
  by_cases hfirst : k = 0
  · simp [eventsBefore, eventsOf, hfirst]
  · simp [eventsBefore, eventsOf, hfirst, hbefore, List.range_succ]

/-- What the first `k` iterations do, as long as all advances fit. -/
theorem scan_indices (h : p.Fits n r) (hk : k ≤ n)
    (hsmall : ∀ j < k, ∀ steps ∈ advances n r j, steps < 2 ^ 31)
    (body : σ → Index → σ × β) (t : Tracked σ) :
    p.scan body t (indices k) =
      .ok ({ t.noting (p.eventsBefore n r k) with
          state := (scanBare body t.state (indices k)).1
          isOpen := if k = 0 then t.isOpen else decide (k ≠ n) },
        (scanBare body t.state (indices k)).2) := by
  -- on the number of iterations; between the first and the last of them the bar is open
  induction k with
  | zero =>
    rw [eventsBefore, if_pos rfl, Tracked.noting_nil]
    rfl
  | succ k ih =>
    have hbefore := ih (Nat.le_of_succ_le hk) fun j hj => hsmall j (Nat.lt_succ_of_lt hj)
    rw [indices_succ, scan_append, hbefore, scanBare_append]
    show (p.scan body _ [BitVec.ofNat 32 k] >>= fun y => pure (y.1, _ ++ y.2)) = _
    rw [scan, iterate_eq h hk _ (hsmall k (Nat.lt_succ_self k))]
    · show Except.ok _ = _
      rw [eventsBefore_succ p r hk, ← Tracked.noting_noting, if_neg (Nat.succ_ne_zero k)]
      rfl
    · intro hfirst
      have hbelow : k ≠ n := Nat.ne_of_lt hk
      simp only [hfirst, hbelow, if_false, ne_eq, not_false_eq_true, decide_true]

/-! ## The whole scan -/

/-- What is asked of a bar beside `n` bodies that is advanced by the given steps after each. -/
structure KeepsCount (p : Plan) (n : Nat) (updates : Nat → List Int) : Prop where
  /-- The advances add up to the multiples of the rate, and in the end to the total. -/
  sum_updates : ∀ k ≤ n,
    ((List.range k).flatMap updates).sum = if k < n then (k : Int) - k % p.rate else n
  /-- Each of them is at least one and at most the rate. -/
  mem_updates : ∀ k < n, ∀ steps ∈ updates k, 1 ≤ steps ∧ steps ≤ p.rate
  /-- Whatever the body is and whatever has been before, the body does what it does without a bar.
  The bar is opened before the first body and closed after the last. -/
  scan_eq : ∀ {σ β : Type} (body : σ → Index → σ × β) (t : Tracked σ),
    p.scan body t (indices n) =
      .ok (⟨(scanBare body t.state (indices n)).1, false,
          t.events ++ (barEvents p.description n updates).toArray⟩,
        (scanBare body t.state (indices n)).2)

/-- A plan whose numbers fit keeps count, if the rate fits into an advance. -/
theorem Fits.keepsCount (h : p.Fits n r) (hrate : r < 2 ^ 31) :
    p.KeepsCount n (advances n r) where
  sum_updates k hk := by
    rw [h.rate_eq]
    exact sum_flatMap_advances r hk (Nat.lt_of_lt_of_le h.rate_pos h.rate_le)
  mem_updates k hk steps hsteps := by
    rw [h.rate_eq]
    exact mem_advances h.rate_pos hsteps
  scan_eq body t := by
    -- no advance is larger than the rate
    have hsmall : ∀ j < n, ∀ steps ∈ advances n r j, steps < 2 ^ 31 := by
      intro j hj steps hsteps
      have hle := (mem_advances h.rate_pos hsteps).2
      omega
    have hn : n ≠ 0 := Nat.ne_of_gt (Nat.lt_of_lt_of_le h.rate_pos h.rate_le)
    rw [scan_indices h (Nat.le_refl n) hsmall, eventsBefore, if_neg hn, if_neg hn, if_pos rfl,
      decide_eq_false (not_not_intro rfl)]
    rfl

/-- The rate is the one that is asked for, or a twentieth of the total up to fifty, and at least
one. -/
theorem rate_create (n : Nat) (rate? : Option Int) (description? : Option String) :
    (create n rate? description?).rate =
      max 1 (rate?.elim (min ((n : Int) / 20) 50) fun rate => min rate n) := by
  cases rate? with
  | some rate => rfl
  | none =>
    show max 1 (min (Int.fdiv n 20) 50) = _
    rw [Int.fdiv_eq_ediv_of_nonneg _ (by decide)]
    rfl

/-- Up to `2 ^ 31` iterations, what is created is a plan whose numbers fit. -/
theorem fits_create {n : Nat} (hpos : 0 < n) (hle : n ≤ 2 ^ 31) (rate? : Option Int)
    (description? : Option String) :
    (create n rate? description?).Fits n (create n rate? description?).rate.toNat := by
  have hbounds : 1 ≤ (create n rate? description?).rate ∧
      (create n rate? description?).rate ≤ n := by
    rw [rate_create]
    cases rate? with
    | some rate =>
      simp only [Option.elim_some]
      omega
    | none =>
      simp only [Option.elim_none]
      omega
  exact ⟨rfl, by omega, by omega, by omega, hle⟩

/-- The frames of a machine beside a bar, with the events of the bar. -/
theorem runFramesTracked_eq {n : Nat} {updates : Nat → List Int}
    (h : (create n none none).KeepsCount n updates) (m : Machine) (cycles : Nat) :
    m.runFramesTracked cycles n =
      .ok ((barEvents (defaultDescription n) n updates).toArray, m.runFrames cycles n) := by
  -- the body does not look at its index, so a scan without a bar is the run of the frames
  have hframes (m : Machine) (is : List Index) :
      scanBare (fun m _ => ((m.runFrame cycles).2, (m.runFrame cycles).1)) m is =
        ((m.runFrames cycles is.length).2, (m.runFrames cycles is.length).1) := by
    induction is generalizing m with
    | nil => rfl
    | cons i is ih =>
      rw [scanBare]
      simp only [ih]
      rfl
  have hscan := h.scan_eq (fun m _ => ((m.runFrame cycles).2, (m.runFrame cycles).1))
    (Tracked.start m)
  have hlength : (indices n).length = n := by
    rw [indices, List.length_map, List.length_range]
  rw [hframes, hlength] at hscan
  show (create n none none).scan _ _ (indices n) >>= _ = _
  rw [hscan]
  show Except.ok ((#[] : Array Event) ++ _, _) = _
  rw [Array.empty_append]
  rfl

/-- A progress bar is transparent and ends exactly at its total. The rate is what is asked for, or
else a twentieth of the total but at most fifty, and is kept between one and the total. The bar is
opened once, before the first of `n` bodies, and closed once, after the last. After an earlier body
it stands at a multiple of the rate and after the last at the total, and it is never advanced by less
than one or more than the rate. The body does what it does without a bar, and so do the frames of a
machine. -/
theorem bar_ends_at_total {n : Nat} (hpos : 0 < n) (hle : n ≤ 2 ^ 31) :
    (∀ rate? description?,
      (create n rate? description?).rate =
          max 1 (rate?.elim (min ((n : Int) / 20) 50) fun rate => min rate n) ∧
        ((create n rate? description?).rate < 2 ^ 31 →
          ∃ updates, (create n rate? description?).KeepsCount n updates)) ∧
      ∀ (m : Machine) (cycles : Nat), ∃ updates,
        (create n none none).KeepsCount n updates ∧
          m.runFramesTracked cycles n =
            .ok ((barEvents (defaultDescription n) n updates).toArray, m.runFrames cycles n) := by
  constructor
  · intro rate? description?
    refine ⟨rate_create n rate? description?, fun hrate => ?_⟩
    exact ⟨_, (fits_create hpos hle rate? description?).keepsCount (by omega)⟩
  · intro m cycles
    -- a rate that nobody asks for is at most fifty
    have hrate : (create n none none).rate < 2 ^ 31 := by
      rw [rate_create]
      simp only [Option.elim_none]
      omega
    have hkeeps := (fits_create hpos hle none none).keepsCount (by omega)
    exact ⟨_, hkeeps, runFramesTracked_eq hkeeps m cycles⟩

/-- Seven iterations with a rate of three: the bar is at six before it is topped up. -/
theorem bar_ends_at_total_sevenByThree :
    ∃ updates, (create 7 (some 3) none).KeepsCount 7 updates ∧
      ((List.range 6).flatMap updates).sum = 6 ∧ ((List.range 7).flatMap updates).sum = 7 := by
  obtain ⟨hrates, -⟩ := bar_ends_at_total (n := 7) (by decide) (by decide)
  obtain ⟨updates, hkeeps⟩ := (hrates (some 3) none).2 (by decide)
  exact ⟨updates, hkeeps, hkeeps.sum_updates 6 (by decide), hkeeps.sum_updates 7 (by decide)⟩

/-! ## Numbers that do not fit -/

/-- The body that does nothing. -/
def idle (_ : Unit) (_ : Index) : Unit × Unit := ((), ())

theorem not_keepsCount_of_error {e : Error} {updates : Nat → List Int}
    (h : p.scan idle (.start ()) (indices n) = .error e) : ¬p.KeepsCount n updates := by
  intro hkeeps
  rw [hkeeps.scan_eq] at h
  cases h

/-- With more iterations than there are indices, the bar is closed too early. The total `2 ^ 32 + 1`
is taken for one, and after the fiftieth body there is no bar left to be advanced. -/
theorem scan_idle_of_wrapping :
    (create (2 ^ 32 + 1 : Nat) none none).scan idle (.start ()) (indices (2 ^ 32 + 1)) =
      .error (.noOpenBar 0) := by
  have hsplit : indices (2 ^ 32 + 1) =
      indices 50 ++ ((List.range (2 ^ 32 - 49)).map (50 + ·)).map (BitVec.ofNat 32) := by
    have hcount : 2 ^ 32 + 1 = 50 + (2 ^ 32 - 49) := by omega
    rw [indices, indices, hcount, List.range_add, List.map_append]
  have hfifty : (create (2 ^ 32 + 1 : Nat) none none).scan idle (.start ()) (indices 50) =
      .error (.noOpenBar 0) := rfl
  rw [hsplit, scan_append, hfifty]
  rfl

/-- A bar is not advanced by `2 ^ 31` at once, which is no number with a sign and 32 bits. -/
theorem settle_of_wide (h : p.Fits n n) (hn : n = 2 ^ 31) (t : Tracked σ) :
    p.settle (BitVec.ofNat 32 n) t = .error (.tooManySteps n) := by
  have hwide : t.advance n = .error (.tooManySteps n) := by
    subst hn
    exact if_pos (by decide)
  simp only [settle, h.rate_eq, narrow_natCast h.le, pure_bind,
    isMultiple_ofNat h.le h.le h.rate_pos, Nat.dvd_refl, decide_true, if_true, hwide]
  rfl

/-- If the rate is `2 ^ 31`, nothing goes wrong before the last of as many iterations. -/
theorem scan_idle_of_wide (h : p.Fits n n) (hn : n = 2 ^ 31) :
    p.scan idle (.start ()) (indices n) = .error (.tooManySteps n) := by
  obtain ⟨k, hk⟩ := Nat.exists_eq_add_one_of_ne_zero (Nat.ne_of_gt h.rate_pos)
  have hnone : ∀ j < k, ∀ steps ∈ advances n n j, steps < 2 ^ 31 := by
    intro j hj steps hsteps
    have hdvd : ¬n ∣ j + 1 := Nat.not_dvd_of_pos_of_lt (Nat.succ_pos j) (by omega)
    rw [advances, if_neg hdvd, Int.emod_self, if_neg (fun h => h.1 rfl)] at hsteps
    cases hsteps
  have hsplit : indices n = indices k ++ [BitVec.ofNat 32 k] := by rw [hk, indices_succ]
  rw [hsplit, scan_append, scan_indices h (by omega) hnone]
  show (p.scan idle _ [BitVec.ofNat 32 k] >>= _) = _
  rw [scan, iterate, ofNat_succ, ← hk]
  dsimp only
  rw [settle_of_wide h hn]
  rfl

/-- A bar for `2 ^ 32 + 1` iterations, and one for `2 ^ 31` that is to be advanced by all of them at
once, do not reach their totals. -/
theorem not_keepsCount_of_wrapping :
    (¬∃ updates, (create (2 ^ 32 + 1 : Nat) none none).KeepsCount (2 ^ 32 + 1) updates) ∧
      ¬∃ updates, (create (2 ^ 31 : Nat) (some (2 ^ 31)) none).KeepsCount (2 ^ 31) updates := by
  have hwide : (create (2 ^ 31 : Nat) (some (2 ^ 31)) none).Fits (2 ^ 31) (2 ^ 31) :=
    fits_create (by decide) (by decide) (some (2 ^ 31)) none
  constructor
  · rintro ⟨updates, hkeeps⟩
    exact not_keepsCount_of_error scan_idle_of_wrapping hkeeps
  · rintro ⟨updates, hkeeps⟩
    exact not_keepsCount_of_error (scan_idle_of_wide hwide rfl) hkeeps

end Plan

end Progress

end Chip8
