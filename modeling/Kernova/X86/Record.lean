import Kernova.X86.Rules

/-!
# Records only grow

A configuration carries two records of its run, both latest first: the calls and
returns made, and the system instructions executed. No step takes anything back,
so a record also tells the points of a run apart at which instructions of a kind
that it shows are executed.

* `Machine.run_events_le`, `Machine.run_log_le` — the records are in order.
* `Machine.Executes` — an instruction is executed next.
* `Machine.Counted` — a count over the record tells these points apart.
* `Machine.MovesAligned` — an aligned vector move is executed next.
* `Executed` — the VMX instructions that were executed, with their outcomes.
-/

namespace X86

/-- An instruction adds to the record of system instructions. -/
theorem Env.exec_events (e : Env) (o : Op) (s : State) :
    s.sys.events <:+ (e.exec o s).sys.events := by
  cases o with
  | cpuid => exact List.suffix_cons _ _
  | vmread d f => simp only [Env.exec]; split <;> exact List.suffix_cons _ _
  | vmwrite f v => simp only [Env.exec]; split <;> exact List.suffix_cons _ _
  | vmxon a => simp only [Env.exec]; split <;> exact List.suffix_cons _ _
  | vmxoff => simp only [Env.exec]; split <;> exact List.suffix_cons _ _
  | vmclear a => exact List.suffix_cons _ _
  | vmptrld a => exact List.suffix_cons _ _
  | _ => exact List.suffix_refl _

namespace Machine

variable {L : Type} (M : Machine L)

theorem exec_log (pc : Pc L) (c : Config L) (i : Instr L) : c.log <:+ (M.exec pc c i).log := by
  cases i with
  | call l => exact List.suffix_cons _ _
  | ret => exact List.suffix_cons _ _
  | vmovdqa w v a => simp only [Machine.exec]; split <;> exact List.suffix_refl _
  | vmovdqaTo w a v => simp only [Machine.exec]; split <;> exact List.suffix_refl _
  | _ => exact List.suffix_refl _

theorem exec_events (pc : Pc L) (c : Config L) (i : Instr L) :
    c.st.sys.events <:+ (M.exec pc c i).st.sys.events := by
  cases i with
  | op o => exact M.env.exec_events o c.st
  | vmovdqa w v a => simp only [Machine.exec]; split <;> exact List.suffix_refl _
  | vmovdqaTo w a v => simp only [Machine.exec]; split <;> exact List.suffix_refl _
  | vmlaunch => exact List.suffix_cons _ _
  | vmresume => exact List.suffix_cons _ _
  | _ => exact List.suffix_refl _

/-- What an instruction does not take back, no step does. -/
theorem step_suffix {α : Type} {f : Config L → List α}
    (hloc : ∀ c loc, f { c with loc := loc } = f c)
    (hexec : ∀ pc c i, f c <:+ f (M.exec pc c i)) (c : Config L) : f c <:+ f (M.step c) := by
  unfold Machine.step
  split
  · split
    · exact hexec _ _ _
    · split
      · exact ⟨[], (hloc c _).symm⟩
      · exact ⟨[], (hloc c _).symm⟩
  · exact List.suffix_refl _

theorem run_suffix {α : Type} {f : Config L → List α}
    (hloc : ∀ c loc, f { c with loc := loc } = f c)
    (hexec : ∀ pc c i, f c <:+ f (M.exec pc c i)) (n : Nat) (c : Config L) :
    f c <:+ f (M.run n c) := by
  induction n generalizing c with
  | zero => exact List.suffix_refl _
  | succ n ih => exact (M.step_suffix hloc hexec c).trans (ih (M.step c))

theorem run_log (n : Nat) (c : Config L) : c.log <:+ (M.run n c).log :=
  M.run_suffix (fun _ _ => rfl) M.exec_log n c

theorem run_events (n : Nat) (c : Config L) :
    c.st.sys.events <:+ (M.run n c).st.sys.events :=
  M.run_suffix (fun _ _ => rfl) M.exec_events n c

/-- The records are in order: what is on record at an earlier point of a run is on
record later. -/
theorem run_events_le {m n : Nat} (h : m ≤ n) (c : Config L) :
    (M.run m c).st.sys.events <:+ (M.run n c).st.sys.events := by
  rcases Nat.exists_eq_add_of_le h with ⟨k, rfl⟩
  rw [M.run_add]
  exact M.run_events k _

theorem run_log_le {m n : Nat} (h : m ≤ n) (c : Config L) :
    (M.run m c).log <:+ (M.run n c).log := by
  rcases Nat.exists_eq_add_of_le h with ⟨k, rfl⟩
  rw [M.run_add]
  exact M.run_log k _

/-- A run that has not made as many calls and returns is at an earlier point. -/
theorem lt_of_log_length {m n : Nat} {c : Config L}
    (h : (M.run m c).log.length < (M.run n c).log.length) : m < n := by
  by_contra hle
  have hlen := (M.run_log_le (Nat.le_of_not_lt hle) c).length_le
  omega

/-! ## Points of a run -/

/-- `c` executes the plain instruction `o` next. -/
def Executes (c : Config L) (o : Op) : Prop :=
  ∃ pc, c.loc = .code pc ∧ (M.text pc.blk)[pc.off]? = some (.op o)

variable {M} {c : Config L} {o : Op}

theorem Executes.unique {o' : Op} (h : M.Executes c o) (h' : M.Executes c o') : o = o' := by
  rcases h with ⟨pc, hloc, hi⟩
  rcases h' with ⟨pc', hloc', hi'⟩
  rw [hloc] at hloc'
  cases hloc'
  rw [hi] at hi'
  cases hi'
  rfl

theorem Executes.not_final (h : M.Executes c o) : ¬ c.loc.Final := by
  rcases h with ⟨pc, hloc, -⟩
  rw [hloc]
  exact id

theorem Executes.step (h : M.Executes c o) : (M.step c).st = M.env.exec o c.st := by
  rcases h with ⟨pc, hloc, hi⟩
  unfold Machine.step
  rw [hloc]
  simp only [hi]
  rfl

/-- A count over the record of system instructions that every instruction with
`p` raises. -/
structure Counted (e : Env) (f : List Event → Nat) (p : Op → Prop) : Prop where
  mono : ∀ es es', es <:+ es' → f es ≤ f es'
  up : ∀ o s, p o → f (e.exec o s).sys.events = f s.sys.events + 1

section

variable {f : List Event → Nat} {p : Op → Prop} {m n N : Nat}

theorem Counted.run_le (hf : Counted M.env f p) (h : m ≤ n) :
    f (M.run m c).st.sys.events ≤ f (M.run n c).st.sys.events :=
  hf.mono _ _ (M.run_events_le h c)

/-- One step on, the count is one up. -/
theorem Counted.run_succ (hf : Counted M.env f p) (h : M.Executes (M.run n c) o) (ho : p o) :
    f (M.run (n + 1) c).st.sys.events = f (M.run n c).st.sys.events + 1 := by
  rw [M.run_add n 1]
  show f (M.step (M.run n c)).st.sys.events = _
  rw [h.step]
  exact hf.up o _ ho

/-- Such an instruction is executed before the run ends, while the count is below
its final value. -/
theorem Counted.lt_final (hf : Counted M.env f p) (hN : (M.run N c).loc.Final)
    (h : M.Executes (M.run n c) o) (ho : p o) :
    f (M.run n c).st.sys.events < f (M.run N c).st.sys.events := by
  have hn : n < N := by
    by_contra hle
    rcases Nat.exists_eq_add_of_le (Nat.le_of_not_lt hle) with ⟨k, rfl⟩
    rw [M.run_add, Machine.run_final hN] at h
    exact h.not_final hN
  have hle : f (M.run (n + 1) c).st.sys.events ≤ _ := hf.run_le (Nat.succ_le_of_lt hn)
  rw [hf.run_succ h ho] at hle
  omega

/-- Two points with the same count at which such instructions are executed are
one. -/
theorem Counted.point_unique (hf : Counted M.env f p) {o' : Op} (h : M.Executes (M.run m c) o)
    (h' : M.Executes (M.run n c) o') (ho : p o) (ho' : p o')
    (heq : f (M.run m c).st.sys.events = f (M.run n c).st.sys.events) : m = n := by
  have hmono : ∀ {i j : Nat} {x : Op}, M.Executes (M.run i c) x → p x →
      f (M.run i c).st.sys.events = f (M.run j c).st.sys.events → ¬ i < j := by
    intro i j x hx hpx he hlt
    have hle : f (M.run (i + 1) c).st.sys.events ≤ _ := hf.run_le (Nat.succ_le_of_lt hlt)
    rw [hf.run_succ hx hpx, he] at hle
    omega
  have h1 : ¬ m < n := hmono h ho heq
  have h2 : ¬ n < m := hmono h' ho' heq.symm
  omega

end

end Machine

/-! ## Aligned moves -/

/-- The width and the operand of an aligned vector move. -/
def Instr.alignedMove {L : Type} : Instr L → Option (Nat × Addr)
  | .vmovdqa w _ a => some (w, a)
  | .vmovdqaTo w a _ => some (w, a)
  | _ => none

namespace Machine

variable {L : Type} (M : Machine L)

/-- `c` executes an aligned move of `w` bytes at the address `a` next. -/
def MovesAligned (c : Config L) (w : Nat) (a : Word) : Prop :=
  ∃ pc i o, c.loc = .code pc ∧ (M.text pc.blk)[pc.off]? = some i ∧
    i.alignedMove = some (w, o) ∧ c.st.ea o = a

variable {M} {c : Config L} {w m n : Nat} {a : Word}

theorem MovesAligned.fault (h : M.MovesAligned c w a) (ha : a.toNat % w ≠ 0) :
    (M.step c).loc = .fault := by
  rcases h with ⟨pc, i, o, hloc, hi, hmove, rfl⟩
  unfold Machine.step
  rw [hloc]
  simp only [hi]
  cases i <;> cases hmove
  · exact congrArg Config.loc (if_neg ha)
  · exact congrArg Config.loc (if_neg ha)

/-- In a run that has not faulted every aligned move had an aligned address. -/
theorem MovesAligned.aligned (h : M.MovesAligned (M.run m c) w a) (hlt : m < n)
    (hn : (M.run n c).loc ≠ .fault) : a.toNat % w = 0 := by
  by_contra ha
  have hfault : (M.run (m + 1) c).loc = .fault := by
    rw [M.run_add m 1]
    exact h.fault ha
  rcases Nat.exists_eq_add_of_le (Nat.succ_le_of_lt hlt) with ⟨k, rfl⟩
  rw [M.run_add, Machine.run_final (by rw [hfault]; trivial)] at hn
  exact hn hfault

end Machine

/-! ## VMX instructions in a row -/

/-- The VMX instruction that an instruction is in the state `s`. -/
def Op.vmOp (s : State) : Op → Option VmOp
  | .vmread _ f => some (.vmread (s.regs f))
  | .vmwrite f v => some (.vmwrite (s.regs f) (s.regs v))
  | .vmxon a => some (.vmxon (s.ea a))
  | .vmxoff => some .vmxoff
  | .vmclear a => some (.vmclear (s.ea a))
  | .vmptrld a => some (.vmptrld (s.ea a))
  | _ => none

/-- What the environment answers to a list of VMX instructions of which the first
is the `n`-th one, in their order. -/
def Env.outcomes (e : Env) (n : Nat) : List VmOp → List Event
  | [] => []
  | o :: os => .vm o (e.vm n o) :: e.outcomes (n + 1) os

theorem Env.outcomes_append (e : Env) (n : Nat) (os os' : List VmOp) :
    e.outcomes n (os ++ os') = e.outcomes n os ++ e.outcomes (n + os.length) os' := by
  induction os generalizing n with
  | nil => rfl
  | cons o os ih =>
    rw [List.cons_append, Env.outcomes, Env.outcomes, ih, List.length_cons, List.cons_append,
      Nat.add_right_comm, Nat.add_assoc]

/-- From `y` to `y'` the VMX instructions `os` have been executed; the MSRs and the
control registers are as they were. -/
structure Executed (e : Env) (y y' : Sys) (os : List VmOp) : Prop where
  events : y'.events = (e.outcomes y.vmOps os).reverse ++ y.events
  vmOps : y'.vmOps = y.vmOps + os.length
  msr : y'.msr = y.msr
  cr : y'.cr = y.cr

namespace Executed

variable {e : Env} {y y' y'' : Sys} {os os' : List VmOp}

theorem refl (e : Env) (y : Sys) : Executed e y y [] := ⟨rfl, rfl, rfl, rfl⟩

theorem trans (h : Executed e y y' os) (h' : Executed e y' y'' os') :
    Executed e y y'' (os ++ os') := by
  refine ⟨?_, ?_, h'.msr.trans h.msr, h'.cr.trans h.cr⟩
  · rw [h'.events, h.events, h.vmOps, Env.outcomes_append, List.reverse_append, List.append_assoc]
  · rw [h'.vmOps, h.vmOps, List.length_append, Nat.add_assoc]

/-- One VMX instruction, with any outcome. -/
theorem exec {s : State} {o : Op} {v : VmOp} (h : o.vmOp s = some v) :
    Executed e s.sys (e.exec o s).sys [v] := by
  cases o <;> cases h
  case vmread d f => simp only [Env.exec]; split <;> exact ⟨rfl, rfl, rfl, rfl⟩
  case vmwrite f v => simp only [Env.exec]; split <;> exact ⟨rfl, rfl, rfl, rfl⟩
  case vmxon a => simp only [Env.exec]; split <;> exact ⟨rfl, rfl, rfl, rfl⟩
  case vmxoff => simp only [Env.exec]; split <;> exact ⟨rfl, rfl, rfl, rfl⟩
  case vmclear a => exact ⟨rfl, rfl, rfl, rfl⟩
  case vmptrld a => exact ⟨rfl, rfl, rfl, rfl⟩

end Executed

/-! ## Into the middle of a block -/

section

variable {L : Type} {M : Machine L} {Q : Config L → Prop} {b l : L} {i : Nat} {s : State}
  {g : List (Ctl L)}

/-- Plain instructions, executed one after the other. -/
theorem Ev.ops {code : List (Instr L)} (ops : List Op)
    (hcode : (M.text b).drop i = ops.map .op ++ code)
    (h : Ev M Q ⟨.code ⟨b, i + ops.length⟩, M.env.execs ops s, g⟩) :
    Ev M Q ⟨.code ⟨b, i⟩, s, g⟩ := by
  induction ops generalizing i s with
  | nil => exact h
  | cons o ops ih =>
    have hi : (M.text b)[i]? = some (.op o) := by
      have hhead := congrArg List.head? hcode
      simpa using hhead
    have hrest : (M.text b).drop (i + 1) = ops.map .op ++ code := by
      have htail := congrArg List.tail hcode
      simpa using htail
    apply Ev.step
    simp only [Machine.step, hi, Machine.exec]
    refine ih hrest ?_
    rw [Nat.add_right_comm]
    exact h

/-- A branch that is not taken. -/
theorem Ev.not_taken {cond : Cond} (hcode : (M.text b)[i]? = some (.jcc cond l))
    (hcond : ¬ cond.holds s.flags) (h : Ev M Q ⟨.code ⟨b, i + 1⟩, s, g⟩) :
    Ev M Q ⟨.code ⟨b, i⟩, s, g⟩ := by
  apply Ev.step
  simp only [Machine.step, hcode, Machine.exec, if_neg hcond]
  exact h

end

end X86
