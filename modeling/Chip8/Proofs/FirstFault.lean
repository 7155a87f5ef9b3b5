import Chip8.Proofs.Halting
import Chip8.Proofs.Survival
import Mathlib.Data.List.Induction

/-!
# The first fault of several machines

Several machines are asked for their faults at once, each with a history of its own (`Session`). The
answer is about the first of them that has stopped, and about no other.

What that machine says of itself can be trusted. It stopped in a cycle that executed a call or a
return (`Fault.IsCausedBy`), and its program counter is still at that word. From then on only a
reset starts it again and only a load changes its memory, so the word is still there if no load has
gone over it.

* `Machine.checkFaults_eq_error_iff`: whose fault is reported.
* `Machine.exists_fault_moment`: the cycle that a stopped machine has stopped in.
* `Machine.stopped_afterAll`: what later events leave of a stopped machine.
* `Session.exists_stoppedIn`: so a stopped machine tells where it stopped, and why.
* `Machine.first_fault_reported`: these together, for machines with histories.
-/

namespace Chip8

/-- Whether a fault comes from executing a word. -/
def Fault.IsCausedBy : Fault → Word → Prop
  | stackOverflow, w => ∃ target, w = (Instruction.call target).word
  | stackUnderflow, w => w = Instruction.leave.word

theorem Fault.code_ne_zero (fault : Fault) : fault.code ≠ 0 := by
  cases fault <;> decide

/-- What has happened to a machine since it was switched on. No word has been executed that was not
fetched. -/
structure Session where
  /-- The random key that the machine was switched on with. -/
  rng : RandomKey
  /-- The profile that the machine was switched on with. -/
  profile : Profile
  /-- The events since then, the first of them first. -/
  events : List Event
  /-- Words are executed in cycles only. -/
  fetched : ∀ w, .execute w ∉ events

namespace Machine

variable {m : Machine} {es : List Event} {fault : Fault}

/-! ## The answer to whoever asks -/

/-- The first machine with a fault is the one that the answer is about, whatever comes after it. -/
theorem checkFaults_append {before after : List Machine} (hbefore : ∀ b ∈ before, b.fault = 0)
    (hm : m.fault ≠ 0) :
    checkFaults (before ++ m :: after) = .error (faultError m.fault m.pc) := by
  have hfind : (before ++ m :: after).find? (fun n => n.fault != 0) = some m := by
    refine List.find?_eq_some_iff_append.2 ⟨by simpa using hm, before, after, rfl, ?_⟩
    intro b hb
    simp [hbefore b hb]
  rw [checkFaults, hfind]

/-- The fault is reported that the first machine has which has one. -/
theorem checkFaults_eq_error_iff {ms : List Machine} {e : FaultError} :
    checkFaults ms = .error e ↔
      ∃ before m after, ms = before ++ m :: after ∧ (∀ b ∈ before, b.fault = 0) ∧ m.fault ≠ 0 ∧
        e = faultError m.fault m.pc := by
  constructor
  · intro h
    rw [checkFaults] at h
    cases hfind : ms.find? fun n => n.fault != 0 with
    | none =>
      rw [hfind] at h
      cases h
    | some m =>
      rw [hfind] at h
      cases h
      obtain ⟨hm, before, after, rfl, hbefore⟩ := List.find?_eq_some_iff_append.1 hfind
      exact ⟨before, m, after, rfl, by simpa using hbefore, by simpa using hm, rfl⟩
  · rintro ⟨before, m, after, rfl, hbefore, hm, rfl⟩
    exact checkFaults_append hbefore hm

/-- There is nothing to report exactly if no machine has a fault. -/
theorem checkFaults_eq_ok_iff {ms : List Machine} :
    checkFaults ms = .ok () ↔ ∀ m ∈ ms, m.fault = 0 := by
  rw [checkFaults]
  cases hfind : ms.find? fun n => n.fault != 0 with
  | none => exact ⟨fun _ => by simpa using hfind, fun _ => rfl⟩
  | some m =>
    have hm : m.fault ≠ 0 := by simpa using List.find?_some hfind
    refine ⟨nofun, fun h => ?_⟩
    exact absurd (h m (List.mem_of_find?_eq_some hfind)) hm

/-- There is something to report exactly if some machine has a fault. -/
theorem exists_checkFaults_error_iff {ms : List Machine} :
    (∃ e, checkFaults ms = .error e) ↔ ∃ m ∈ ms, m.fault ≠ 0 := by
  cases hanswer : checkFaults ms with
  | ok _ =>
    have hnone : ∀ m ∈ ms, m.fault = 0 := checkFaults_eq_ok_iff.1 hanswer
    exact ⟨nofun, fun ⟨m, hmem, hm⟩ => absurd (hnone m hmem) hm⟩
  | error e =>
    obtain ⟨before, m, after, rfl, -, hm, -⟩ := checkFaults_eq_error_iff.1 hanswer
    exact ⟨fun _ => ⟨m, by simp, hm⟩, fun _ => ⟨e, rfl⟩⟩

/-- To ask one machine is to ask a list of one. -/
theorem checkFault_eq_checkFaults (m : Machine) : m.checkFault = checkFaults [m] := by
  by_cases hm : m.fault = 0
  · have hanswer : checkFaults [m] = .ok () :=
      checkFaults_eq_ok_iff.2 (List.forall_mem_singleton.2 hm)
    rw [checkFault, if_pos hm, hanswer]
  · have hanswer : checkFaults ([] ++ [m]) = .error (faultError m.fault m.pc) :=
      checkFaults_append (List.forall_mem_nil _) hm
    rw [checkFault, if_neg hm]
    exact hanswer.symm

/-- No machine that has been switched on holds a code that names no fault. -/
theorem Consistent.exists_fault (h : m.Consistent) (hm : m.fault ≠ 0) :
    ∃ fault : Fault, m.fault = fault.code := by
  rcases h.fault_eq.resolve_left hm with hone | htwo
  · exact ⟨.stackOverflow, hone⟩
  · exact ⟨.stackUnderflow, htwo⟩

theorem faultError_code (fault : Fault) (pc : BitVec 16) :
    faultError fault.code pc = .stopped fault pc := by
  rw [faultError, Fault.ofCode?_code]

/-! ## A machine that has stopped -/

/-- A cycle that ends with a fault leaves nothing behind but the fault, and the program counter at
the word that caused it. -/
theorem step_of_fault_code (hrunning : m.fault = 0) (h : m.step.fault = fault.code) :
    m.step = { m with fault := fault.code } ∧ fault.IsCausedBy m.word := by
  cases fault with
  | stackOverflow =>
    obtain ⟨⟨target, hcall⟩, hfull⟩ := (fault_step_eq_one_iff hrunning).1 h
    exact ⟨step_of_overflow hcall hfull, target, (executed?_eq_some_iff.1 hcall).2.2⟩
  | stackUnderflow =>
    obtain ⟨hleave, hempty⟩ := (fault_step_eq_two_iff hrunning).1 h
    exact ⟨step_of_underflow hleave hempty, (executed?_eq_some_iff.1 hleave).2.2⟩

/-- Of the events that are not the direct execution of a word only a cycle stops a machine. -/
theorem eq_step_of_fault_after {e : Event} (hrunning : m.fault = 0) (hfetched : ∀ w, e ≠ .execute w)
    (h : (m.after e).fault ≠ 0) : e = .step := by
  cases hinput : e.isInput with
  | true =>
    rw [after_of_isInput m hinput] at h
    exact absurd hrunning h
  | false =>
    cases e with
    | step => rfl
    | reset => exact absurd rfl h
    | execute w => exact absurd rfl (hfetched w)
    | _ => cases hinput

/-- A machine that has a fault at the end of a history has stopped in some cycle, and has not been
reset since. -/
theorem exists_fault_moment (hrunning : m.fault = 0) (hfetched : ∀ w, .execute w ∉ es)
    (hm : (m.afterAll es).fault ≠ 0) :
    ∃ before since, es = before ++ .step :: since ∧ .reset ∉ since ∧
      (m.afterAll before).fault = 0 ∧ (m.afterAll before).step.fault ≠ 0 := by
  -- on the history from its end: the last event has stopped the machine or found it stopped
  induction es using List.reverseRecOn with
  | nil => exact absurd hrunning hm
  | append_singleton es e ih =>
    rw [afterAll_concat] at hm
    by_cases hstopped : (m.afterAll es).fault = 0
    · have hlast : ∀ w, e ≠ .execute w := by
        rintro w rfl
        exact hfetched w (by simp)
      obtain rfl : e = .step := eq_step_of_fault_after hstopped hlast hm
      exact ⟨es, [], rfl, List.not_mem_nil, hstopped, hm⟩
    · have hearlier (w : Word) : .execute w ∉ es :=
        fun hw => hfetched w (List.mem_append_left _ hw)
      have hreset : e ≠ .reset := by
        rintro rfl
        exact hm rfl
      obtain ⟨before, since, rfl, hsince, hmoment⟩ := ih hearlier hstopped
      refine ⟨before, since ++ [e], by simp, ?_, hmoment⟩
      simpa [hsince] using hreset.symm

/-- Of the events that are neither a reset nor the direct execution of a word, none starts a machine
again that has stopped. They leave its program counter, and only loads change its memory. -/
theorem stopped_after {e : Event} (hm : m.fault ≠ 0) (hreset : e ≠ .reset)
    (hfetched : ∀ w, e ≠ .execute w) :
    (m.after e).fault = m.fault ∧ (m.after e).pc = m.pc ∧
      ∀ a ∉ e.cellsLoaded, (m.after e).memory.get a = m.memory.get a := by
  cases hinput : e.isInput with
  | true =>
    -- what comes from outside leaves fault and counter alone, and only a load writes cells
    have hrest := after_of_isInput m hinput
    refine ⟨by rw [hrest], by rw [hrest], fun a ha => ?_⟩
    apply Occurrence.get_memory_result (o := ⟨m, e⟩)
    cases e with
    | step | reset | execute w => cases hinput
    | _ => exact ha
  | false =>
    cases e with
    | step =>
      rw [after, step_of_fault hm]
      exact ⟨rfl, rfl, fun _ _ => rfl⟩
    | reset => exact absurd rfl hreset
    | execute w => exact absurd rfl (hfetched w)
    | _ => cases hinput

/-- A machine that has stopped keeps its fault, its program counter and the cells that no load
writes, until it is reset. -/
theorem stopped_afterAll (hm : m.fault ≠ 0) (hreset : .reset ∉ es)
    (hfetched : ∀ w, .execute w ∉ es) :
    (m.afterAll es).fault = m.fault ∧ (m.afterAll es).pc = m.pc ∧
      ∀ a, (∀ e ∈ es, a ∉ e.cellsLoaded) → (m.afterAll es).memory.get a = m.memory.get a := by
  -- each event keeps all three, and the fault is what lets the next one keep them
  refine afterAll_induction (P := fun n => n.fault = m.fault ∧ n.pc = m.pc ∧
    ∀ a, (∀ e ∈ es, a ∉ e.cellsLoaded) → n.memory.get a = m.memory.get a) ?_
    ⟨rfl, rfl, fun _ _ => rfl⟩
  rintro e he n ⟨hfault, hpc, hmemory⟩
  have hn : n.fault ≠ 0 := by rwa [hfault]
  obtain ⟨hfault', hpc', hmemory'⟩ :=
    stopped_after hn (fun h => hreset (h ▸ he)) fun w h => hfetched w (h ▸ he)
  exact ⟨hfault'.trans hfault, hpc'.trans hpc,
    fun a ha => (hmemory' a (ha e he)).trans (hmemory a ha)⟩

end Machine

/-! ## Sessions -/

namespace Session

/-- The machine before anything has happened to it. -/
def start (s : Session) : Machine :=
  .create s.rng s.profile

/-- The machine as it is now. -/
def machine (s : Session) : Machine :=
  s.start.afterAll s.events

/-- The machine of a session has stopped in the cycle between two stretches of its events, and
has not been reset since. -/
structure StoppedIn (s : Session) (fault : Fault) (before since : List Event) : Prop where
  /-- The cycle is one of the events. -/
  events_eq : s.events = before ++ .step :: since
  /-- A reset would have started the machine again. -/
  reset_not_mem : .reset ∉ since
  /-- The machine had no fault before the cycle. -/
  running : (s.start.afterAll before).fault = 0
  /-- It has had this one since. -/
  fault_eq : (s.start.afterAll before).step.fault = fault.code
  /-- The fault comes from the word at the program counter. -/
  cause : fault.IsCausedBy (s.start.afterAll before).word
  /-- The program counter is where it was before the cycle. -/
  pc_eq : s.machine.pc = (s.start.afterAll before).pc
  /-- The word is still there if no byte of it has been loaded since. -/
  cause_kept :
    (∀ e ∈ since, addressOf s.machine.pc ∉ e.cellsLoaded ∧
      addressOf (s.machine.pc + 1) ∉ e.cellsLoaded) →
    fault.IsCausedBy s.machine.word

variable {s : Session} {fault : Fault}

/-- The machine of a session is one that has been switched on, so it is consistent. -/
theorem consistent_machine (s : Session) : s.machine.Consistent :=
  (Machine.consistent_create s.rng s.profile).afterAll s.events

/-- A machine that has a fault has stopped in one of the cycles of its session. -/
theorem exists_stoppedIn (h : s.machine.fault = fault.code) :
    ∃ before since, s.StoppedIn fault before since := by
  have hstopped : s.machine.fault ≠ 0 := by
    rw [h]
    exact fault.code_ne_zero
  obtain ⟨before, since, hevents, hreset, hrunning, hstep⟩ :=
    Machine.exists_fault_moment rfl s.fetched hstopped
  have hfetched (w : Word) : .execute w ∉ since := by
    intro hw
    apply s.fetched w
    rw [hevents]
    simp [hw]
  have hmachine : s.machine = (s.start.afterAll before).step.afterAll since := by
    rw [machine, hevents, Machine.afterAll_append]
    rfl
  obtain ⟨hfault, hpc, hmemory⟩ := Machine.stopped_afterAll hstep hreset hfetched
  rw [← hmachine] at hfault hpc hmemory
  have hcode : (s.start.afterAll before).step.fault = fault.code := hfault.symm.trans h
  obtain ⟨hleft, hcause⟩ := Machine.step_of_fault_code hrunning hcode
  rw [hleft] at hpc hmemory
  refine ⟨before, since, hevents, hreset, hrunning, hcode, hcause, hpc, fun hload => ?_⟩
  -- the word that has stopped the machine is in two cells, and no load has gone over them
  have hword : s.machine.word = (s.start.afterAll before).word := by
    apply Machine.word_eq_of_get hpc
    · exact hmemory _ fun e he => hpc ▸ (hload e he).1
    · exact hmemory _ fun e he => hpc ▸ (hload e he).2
  rwa [hword]

end Session

namespace Machine

/-- Of the machines of several sessions the first one is reported that has stopped. -/
theorem checkFaults_sessions_eq_error_iff {ss : List Session} {e : FaultError} :
    checkFaults (ss.map Session.machine) = .error e ↔
      ∃ before s after fault, ss = before ++ s :: after ∧ (∀ b ∈ before, b.machine.fault = 0) ∧
        s.machine.fault = Fault.code fault ∧ e = .stopped fault s.machine.pc := by
  rw [checkFaults_eq_error_iff]
  constructor
  · rintro ⟨before, m, after, hsplit, hbefore, hm, rfl⟩
    -- where the machines are split, the sessions are
    obtain ⟨before, rest, rfl, rfl, hrest⟩ := List.map_eq_append_iff.1 hsplit
    obtain ⟨s, after, rfl, rfl, rfl⟩ := List.map_eq_cons_iff.1 hrest
    obtain ⟨fault, hfault⟩ := s.consistent_machine.exists_fault hm
    refine ⟨before, s, after, fault, rfl, ?_, hfault, by rw [hfault, faultError_code]⟩
    exact fun b hb => hbefore _ (List.mem_map_of_mem hb)
  · rintro ⟨before, s, after, fault, rfl, hbefore, hfault, rfl⟩
    refine ⟨before.map Session.machine, s.machine, after.map Session.machine, List.map_append,
      ?_, ?_, by rw [hfault, faultError_code]⟩
    · intro b hb
      obtain ⟨session, hsession, rfl⟩ := List.mem_map.1 hb
      exact hbefore session hsession
    · rw [hfault]
      exact fault.code_ne_zero

/-- Asked for their faults at once, machines with any histories answer with an error exactly if one
of them has a fault. The error is about the first of these: it names its fault, which is one of the
two that there are, and its program counter. There the machine executed a call if its fault is an
overflow, and a return if it is an underflow, in a cycle after which it has not been reset. The word
is still there unless a load has gone over it. A single machine answers as a list of one. -/
theorem first_fault_reported (ss : List Session) :
    let ms := ss.map Session.machine
    ((∃ e, checkFaults ms = .error e) ↔ ∃ m ∈ ms, m.fault ≠ 0) ∧
      (∀ e, checkFaults ms = .error e ↔
        ∃ before s after fault, ss = before ++ s :: after ∧ (∀ b ∈ before, b.machine.fault = 0) ∧
          s.machine.fault = Fault.code fault ∧ e = .stopped fault s.machine.pc) ∧
      (∀ code, checkFaults ms ≠ .error (.unknownCode code)) ∧
      (∀ s ∈ ss, ∀ fault, s.machine.fault = Fault.code fault →
        ∃ before since, s.StoppedIn fault before since) ∧
      ∀ m ∈ ms, m.checkFault = checkFaults [m] := by
  intro ms
  refine ⟨exists_checkFaults_error_iff, fun e => checkFaults_sessions_eq_error_iff, ?_,
    fun s _ fault => Session.exists_stoppedIn, fun m _ => checkFault_eq_checkFaults m⟩
  intro code hcode
  obtain ⟨-, s, -, fault, -, -, -, hstopped⟩ := checkFaults_sessions_eq_error_iff.1 hcode
  cases hstopped

/-- A session without a fault. -/
def idling : Session where
  rng := .zero
  profile := .modern
  events := [.step, .reset]
  fetched := by simp

/-- A session of a program whose second word returns from no call. -/
def returning : Session where
  rng := .zero
  profile := .modern
  events := [.load 0x200 [0x60, 0x01, 0x00, 0xEE], .step, .step, .tick, .step]
  fetched := by simp

/-- A session of a program that calls itself until no slot is free. -/
def calling : Session where
  rng := .zero
  profile := .cosmacVip
  events := .load 0x200 [0x22, 0x00] :: List.replicate 17 .step
  fetched := by simp

/-- The second machine is reported, although the third one has a fault as well. -/
theorem first_fault_reported_idlingFirst :
    checkFaults ([idling, returning, calling].map Session.machine) =
        .error (.stopped .stackUnderflow 0x202) ∧
      calling.machine.fault ≠ 0 := by
  have hidling : idling.machine.fault = 0 := by decide +kernel
  have hfault : returning.machine.fault = Fault.stackUnderflow.code := by decide +kernel
  have hpc : returning.machine.pc = 0x202 := by decide +kernel
  have hfirst := (first_fault_reported [idling, returning, calling]).2.1
  have hbefore : ∀ b ∈ [idling], b.machine.fault = 0 := List.forall_mem_singleton.2 hidling
  exact ⟨(hfirst _).2 ⟨[idling], returning, [calling], _, rfl, hbefore, hfault, by rw [hpc]⟩,
    by decide +kernel⟩

end Machine

end Chip8
