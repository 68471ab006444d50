import Kernova.X86.Machine

/-!
# Rules for running code

`Ev M Q c` says that the run of `M` from `c` reaches a configuration that
satisfies `Q`; the machine is deterministic, so this is total correctness.
`wp` evaluates a block from one of its positions up to the first transfer of
control, and `Ev.block` / `Ev.resume` turn it into a statement about the run.
-/

namespace X86

/-! ## State projections -/

namespace State

variable (s : State) (r r' : Reg) (v : Word) (f : Flags) (m : Mem) (y : Sys) (i : Fin 32) (x : Vec)

@[simp] theorem regs_set : (s.set r v).regs r' = if r' = r then v else s.regs r' := rfl
@[simp] theorem flags_set : (s.set r v).flags = s.flags := by cases s; rfl
@[simp] theorem mem_set : (s.set r v).mem = s.mem := by cases s; rfl
@[simp] theorem sys_set : (s.set r v).sys = s.sys := by cases s; rfl
@[simp] theorem vec_set : (s.set r v).vec = s.vec := by cases s; rfl

@[simp] theorem regs_setFlags : (s.setFlags f).regs = s.regs := by cases s; rfl
@[simp] theorem flags_setFlags : (s.setFlags f).flags = f := rfl
@[simp] theorem mem_setFlags : (s.setFlags f).mem = s.mem := by cases s; rfl
@[simp] theorem sys_setFlags : (s.setFlags f).sys = s.sys := by cases s; rfl
@[simp] theorem vec_setFlags : (s.setFlags f).vec = s.vec := by cases s; rfl

@[simp] theorem regs_setMem : (s.setMem m).regs = s.regs := by cases s; rfl
@[simp] theorem flags_setMem : (s.setMem m).flags = s.flags := by cases s; rfl
@[simp] theorem mem_setMem : (s.setMem m).mem = m := rfl
@[simp] theorem sys_setMem : (s.setMem m).sys = s.sys := by cases s; rfl
@[simp] theorem vec_setMem : (s.setMem m).vec = s.vec := by cases s; rfl

@[simp] theorem regs_setSys : (s.setSys y).regs = s.regs := by cases s; rfl
@[simp] theorem flags_setSys : (s.setSys y).flags = s.flags := by cases s; rfl
@[simp] theorem mem_setSys : (s.setSys y).mem = s.mem := by cases s; rfl
@[simp] theorem sys_setSys : (s.setSys y).sys = y := rfl

@[simp] theorem regs_setVec : (s.setVec i x).regs = s.regs := by cases s; rfl
@[simp] theorem flags_setVec : (s.setVec i x).flags = s.flags := by cases s; rfl
@[simp] theorem mem_setVec : (s.setVec i x).mem = s.mem := by cases s; rfl
@[simp] theorem sys_setVec : (s.setVec i x).sys = s.sys := by cases s; rfl
@[simp] theorem vec_setVec_self : (s.setVec i x).vec i = x := if_pos rfl

@[simp] theorem regs_zeroUpper : s.zeroUpper.regs = s.regs := by cases s; rfl
@[simp] theorem flags_zeroUpper : s.zeroUpper.flags = s.flags := by cases s; rfl
@[simp] theorem mem_zeroUpper : s.zeroUpper.mem = s.mem := by cases s; rfl
@[simp] theorem sys_zeroUpper : s.zeroUpper.sys = s.sys := by cases s; rfl
@[simp] theorem vec_zeroUpper_zeroUpper : s.zeroUpper.zeroUpper.vec = s.zeroUpper.vec := by
  funext j i
  simp only [zeroUpper]
  split_ifs <;> rfl

/-- What `vzeroupper` leaves depends on the vector registers alone. -/
theorem zeroUpper_vec {s t : State} (h : t.vec = s.vec) : t.zeroUpper.vec = s.zeroUpper.vec := by
  simp only [zeroUpper, h]

@[simp] theorem sys_push : (s.push v).sys = s.sys := by cases s; rfl
@[simp] theorem flags_push : (s.push v).flags = s.flags := by cases s; rfl
@[simp] theorem vec_push : (s.push v).vec = s.vec := by cases s; rfl
@[simp] theorem mem_push : (s.push v).mem = s.mem.write64 (s.regs .rsp - 8) v := rfl
@[simp] theorem regs_push :
    (s.push v).regs r = if r = .rsp then s.regs .rsp - 8 else s.regs r := rfl

@[simp] theorem sys_drop : s.drop.sys = s.sys := by cases s; rfl
@[simp] theorem flags_drop : s.drop.flags = s.flags := by cases s; rfl
@[simp] theorem mem_drop : s.drop.mem = s.mem := by cases s; rfl
@[simp] theorem vec_drop : s.drop.vec = s.vec := by cases s; rfl
@[simp] theorem regs_drop : s.drop.regs r = if r = .rsp then s.regs .rsp + 8 else s.regs r := rfl

theorem top_push : (s.push v).top = v := by
  simp [top, push]

end State

/-- The low byte after a byte-sized write to a register. -/
@[simp] theorem low8_setLow8 (old : Word) (v : Byte) : low8 (setLow8 old v) = v := by
  have h0 : (0xFFFFFFFFFFFFFF00 : Word).setWidth 8 = 0#8 := rfl
  rw [low8, setLow8, BitVec.setWidth_or, BitVec.setWidth_and, h0, BitVec.and_zero,
    BitVec.zero_or, BitVec.setWidth_setWidth_of_le _ (by omega), BitVec.setWidth_eq]

/-! ## Conditions after a comparison -/

section Conditions

variable {w : Nat} (a b : BitVec w)

@[simp] theorem holds_z_sub : Cond.z.holds (.sub a b) = decide (a = b) := rfl
@[simp] theorem holds_nz_sub : Cond.nz.holds (.sub a b) = !decide (a = b) := rfl
@[simp] theorem holds_ae_sub : Cond.ae.holds (.sub a b) = !a.ult b := rfl
@[simp] theorem holds_z_logic : Cond.z.holds (.logic a) = decide (a = 0) := rfl
@[simp] theorem holds_nz_logic : Cond.nz.holds (.logic a) = !decide (a = 0) := rfl
@[simp] theorem holds_l_logic : Cond.l.holds (.logic a) = a.msb := by
  simp [Cond.holds, Flags.logic]

/-- The two signs of a word. -/
theorem sign_cases (x : Word) :
    (x.msb = false ∧ x.toNat < 2 ^ 63 ∧ x.toInt = x.toNat) ∨
      (x.msb = true ∧ 2 ^ 63 ≤ x.toNat ∧ x.toInt = (x.toNat : Int) - 2 ^ 64) := by
  have hx := x.isLt
  rw [BitVec.toInt_eq_toNat_cond, BitVec.msb_eq_decide]
  by_cases h : x.toNat < 2 ^ 63
  · exact Or.inl ⟨decide_eq_false (by omega), h, if_pos (by omega)⟩
  · exact Or.inr ⟨decide_eq_true (by omega), by omega, if_neg (by omega)⟩

/-- After a subtraction the sign flag differs from the overflow flag exactly
when the first operand is the smaller one, read as signed numbers. -/
@[simp] theorem holds_l_sub (a b : Word) : Cond.l.holds (.sub a b) = a.slt b := by
  have ha := a.isLt
  have hb := b.isLt
  have hd : (a - b).toNat = (2 ^ 64 - b.toNat + a.toNat) % 2 ^ 64 := BitVec.toNat_sub a b
  rw [Cond.holds, Flags.sub, Bool.eq_iff_iff, BitVec.slt_iff_toInt_lt]
  -- The signs of the operands and of the difference decide both flags.
  rcases sign_cases a with ⟨m1, h1, e1⟩ | ⟨m1, h1, e1⟩ <;>
    rcases sign_cases b with ⟨m2, h2, e2⟩ | ⟨m2, h2, e2⟩ <;>
    rcases sign_cases (a - b) with ⟨m3, h3, -⟩ | ⟨m3, h3, -⟩ <;>
    simp [m1, m2, m3, e1, e2] <;> omega

@[simp] theorem holds_ge_sub (a b : Word) : Cond.ge.holds (.sub a b) = !a.slt b := by
  rw [← holds_l_sub]
  simp only [Cond.holds]
  cases (Flags.sub a b).sf <;> cases (Flags.sub a b).of <;> rfl

/-- A signed comparison with a small constant. -/
theorem slt_ofNat (x : Word) {k : Nat} (hk : k < 2 ^ 63) :
    x.slt (BitVec.ofNat 64 k) = true ↔ x.toNat < k ∨ 2 ^ 63 ≤ x.toNat := by
  have h1 : (BitVec.ofNat 64 k).toNat = k := by
    rw [BitVec.toNat_ofNat, Nat.mod_eq_of_lt (by omega)]
  rw [BitVec.slt_iff_toInt_lt]
  rcases sign_cases x with ⟨-, h2, e2⟩ | ⟨-, h2, e2⟩ <;>
    rcases sign_cases (BitVec.ofNat 64 k) with ⟨-, h3, e3⟩ | ⟨-, h3, e3⟩ <;>
    rw [e2, e3, h1] <;> omega

/-- A loop counter with turns to go: it is not zero, and one less after a turn. -/
theorem counter_succ {n : Nat} (hn : n + 1 < 2 ^ 64) :
    BitVec.ofNat 64 (n + 1) ≠ 0#64 ∧ BitVec.ofNat 64 (n + 1) - 1#64 = BitVec.ofNat 64 n := by
  constructor
  · intro h
    have hz := congrArg BitVec.toNat h
    rw [BitVec.toNat_ofNat, Nat.mod_eq_of_lt hn] at hz
    exact absurd hz (by simp)
  · rw [BitVec.ofNat_add]
    ring

end Conditions

/-! ## Runs -/

variable {L : Type} {M : Machine L}

/-- The run from `c` reaches a configuration satisfying `Q`. -/
def Ev (M : Machine L) (Q : Config L → Prop) (c : Config L) : Prop :=
  ∃ n, Q (M.run n c)

theorem Ev.here {Q : Config L → Prop} {c : Config L} (h : Q c) : Ev M Q c := ⟨0, h⟩

theorem Ev.step {Q : Config L → Prop} {c : Config L} (h : Ev M Q (M.step c)) : Ev M Q c := by
  obtain ⟨n, hn⟩ := h
  exact ⟨n + 1, hn⟩

theorem Machine.run_add (n k : Nat) (c : Config L) : M.run (n + k) c = M.run k (M.run n c) := by
  induction n generalizing c with
  | zero => rw [Nat.zero_add]; rfl
  | succ n ih =>
    rw [Nat.add_right_comm]
    exact ih (M.step c)

theorem Ev.bind {P Q : Config L → Prop} {c : Config L} (h : Ev M P c)
    (hPQ : ∀ c', P c' → Ev M Q c') : Ev M Q c := by
  obtain ⟨n, hn⟩ := h
  obtain ⟨k, hk⟩ := hPQ _ hn
  exact ⟨n + k, by rw [Machine.run_add]; exact hk⟩

theorem Ev.mono {P Q : Config L → Prop} {c : Config L} (h : Ev M P c)
    (hPQ : ∀ c', P c' → Q c') : Ev M Q c :=
  h.bind fun c' hc => .here (hPQ c' hc)

/-- A location outside the code: the run stays there. -/
def Loc.Final : Loc L → Prop
  | .code _ => False
  | _ => True

theorem final_of_out {c : Config L} {a : Word} (h : c.loc = .out a) : c.loc.Final := by
  rw [h]
  trivial

theorem Machine.run_final {c : Config L} (h : c.loc.Final) (n : Nat) : M.run n c = c := by
  induction n with
  | zero => rfl
  | succ n ih =>
    have hs : M.step c = c := by
      unfold Machine.step
      cases hc : c.loc with
      | code pc => rw [hc] at h; exact h.elim
      | _ => rfl
    rw [Machine.run, hs, ih]

/-- A run has at most one final configuration. -/
theorem Ev.final_unique {P Q : Config L → Prop} {c : Config L} (hP : Ev M P c) (hQ : Ev M Q c)
    (hPf : ∀ c', P c' → c'.loc.Final) (hQf : ∀ c', Q c' → c'.loc.Final) :
    ∃ c', P c' ∧ Q c' := by
  obtain ⟨n, hn⟩ := hP
  obtain ⟨k, hk⟩ := hQ
  have h1 : M.run (n + k) c = M.run n c := by
    rw [Machine.run_add, Machine.run_final (hPf _ hn)]
  have h2 : M.run (k + n) c = M.run k c := by
    rw [Machine.run_add, Machine.run_final (hQf _ hk)]
  -- Both runs stop for good, so they agree once each has gone on for the other's length.
  rw [Nat.add_comm, h2] at h1
  exact ⟨_, hn, h1 ▸ hk⟩

/-! ## Evaluating a block -/

open Machine (entry)

/-- What must hold for the code `k`, at offset `i` of block `b`, to lead to `Q`. -/
def wp (M : Machine L) (Q : Config L → Prop) (b : L) :
    List (Instr L) → Nat → State → List (Ctl L) → Prop
  | [], _, s, g =>
    match M.next b with
    | some b' => Ev M Q ⟨entry b', s, g⟩
    | none => Ev M Q ⟨.fault, s, g⟩
  | .op o :: k, i, s, g => wp M Q b k (i + 1) (M.env.exec o s) g
  | .jmp l :: _, _, s, g => Ev M Q ⟨entry l, s, g⟩
  | .jcc c l :: k, i, s, g =>
    if c.holds s.flags then Ev M Q ⟨entry l, s, g⟩ else wp M Q b k (i + 1) s g
  | .call l :: _, i, s, g =>
    Ev M Q ⟨entry l, s.push (M.addr ⟨b, i + 1⟩), .call l :: g⟩
  | .ret :: _, _, s, g =>
    Ev M Q ⟨M.retLoc s.top, s.drop, .ret s.top (s.regs .rax) :: g⟩
  | .vmovdqa w v a :: k, i, s, g =>
    if (s.ea a).toNat % w = 0 then wp M Q b k (i + 1) (M.env.exec (.vmovdqu w v a) s) g
    else Ev M Q ⟨.fault, s, g⟩
  | .vmovdqaTo w a v :: k, i, s, g =>
    if (s.ea a).toNat % w = 0 then wp M Q b k (i + 1) (M.env.exec (.vmovdquTo w a v) s) g
    else Ev M Q ⟨.fault, s, g⟩
  | .vmlaunch :: k, i, s, g =>
    if M.env.vm s.sys.vmOps .vmlaunch = .succeed then
      Ev M Q ⟨.guest, M.env.vmStep .vmlaunch s, g⟩
    else wp M Q b k (i + 1) (M.env.vmStep .vmlaunch s) g
  | .vmresume :: k, i, s, g =>
    if M.env.vm s.sys.vmOps .vmresume = .succeed then
      Ev M Q ⟨.guest, M.env.vmStep .vmresume s, g⟩
    else wp M Q b k (i + 1) (M.env.vmStep .vmresume s) g
  | .hlt :: _, _, s, g => Ev M Q ⟨.halted, s, g⟩

/-- What holds on either branch. -/
theorem of_branch {p A B C : Prop} [Decidable p] (h : if p then A else B) (hA : p → A → C)
    (hB : ¬ p → B → C) : C := by
  by_cases hp : p
  · exact hA hp (by rwa [if_pos hp] at h)
  · exact hB hp (by rwa [if_neg hp] at h)

/-- Resume a block at offset `i`, for instance after a call. -/
theorem Ev.resume {Q : Config L → Prop} {b : L} {i : Nat} {s : State} {g : List (Ctl L)}
    (h : wp M Q b ((M.text b).drop i) i s g) : Ev M Q ⟨.code ⟨b, i⟩, s, g⟩ := by
  generalize hk : (M.text b).drop i = k at h
  -- The code that is left gets shorter with every instruction that stays in the block;
  -- the others hand `Q` on to the place they go to.
  induction k generalizing i s with
  | nil =>
    have hi : (M.text b)[i]? = none := by
      rw [List.getElem?_eq_none_iff]
      exact List.drop_eq_nil_iff.mp hk
    apply Ev.step
    simp only [wp] at h
    simp only [Machine.step, hi]
    cases hn : M.next b <;> simpa [hn] using h
  | cons a k ih =>
    have hi : (M.text b)[i]? = some a := by
      have := congrArg List.head? hk
      simpa using this
    have hk' : (M.text b).drop (i + 1) = k := by
      have := congrArg List.tail hk
      simpa using this
    apply Ev.step
    simp only [Machine.step, hi]
    cases a with
    | op o => exact ih hk' h
    | jmp l => exact h
    | call l => exact h
    | ret => exact h
    | hlt => exact h
    | jcc c l =>
      refine of_branch h (fun hc h => ?_) fun hc h => ?_
      · simpa [Machine.exec, hc] using h
      · simpa [Machine.exec, hc] using ih hk' h
    | vmovdqa w v a =>
      refine of_branch h (fun hc h => ?_) fun hc h => ?_
      · simpa [Machine.exec, hc] using ih hk' h
      · simpa [Machine.exec, hc] using h
    | vmovdqaTo w a v =>
      refine of_branch h (fun hc h => ?_) fun hc h => ?_
      · simpa [Machine.exec, hc] using ih hk' h
      · simpa [Machine.exec, hc] using h
    | vmlaunch =>
      refine of_branch h (fun hc h => ?_) fun hc h => ?_
      · simpa [Machine.exec, Machine.enterGuest, hc] using h
      · simpa [Machine.exec, Machine.enterGuest, hc] using ih hk' h
    | vmresume =>
      refine of_branch h (fun hc h => ?_) fun hc h => ?_
      · simpa [Machine.exec, Machine.enterGuest, hc] using h
      · simpa [Machine.exec, Machine.enterGuest, hc] using ih hk' h

/-- Enter a block at its label. -/
theorem Ev.block {Q : Config L → Prop} {b : L} {s : State} {g : List (Ctl L)}
    (h : wp M Q b (M.text b) 0 s g) : Ev M Q ⟨entry b, s, g⟩ :=
  Ev.resume h

/-! ### Symbolic execution

`simp` walks through a block and stops where the stack is touched: the rules
for pushes, pops and returns are applied by hand. -/

/-- The instructions at which evaluation stops. -/
@[simp] def Op.isStack : Op → Bool
  | .push _ | .pop _ => true
  | _ => false

section Walk

variable {Q : Config L → Prop} {b l : L} {c : Cond} {k : List (Instr L)} {i : Nat} {s : State}
  {g : List (Ctl L)} {o : Op}

@[simp] theorem wp_nil : wp M Q b [] i s g =
    match M.next b with
    | some b' => Ev M Q ⟨entry b', s, g⟩
    | none => Ev M Q ⟨.fault, s, g⟩ := rfl

@[simp] theorem wp_op (_ : ¬ o.isStack = true) :
    wp M Q b (.op o :: k) i s g = wp M Q b k (i + 1) (M.env.exec o s) g := rfl

/-- A run of plain instructions at one go. -/
@[simp] theorem wp_ops (ops : List Op) : wp M Q b (ops.map .op ++ k) i s g =
    wp M Q b k (i + ops.length) (M.env.execs ops s) g := by
  induction ops generalizing i s with
  | nil => rfl
  | cons o ops ih =>
    rw [List.length_cons, Nat.add_comm ops.length, ← Nat.add_assoc]
    exact ih

@[simp] theorem wp_jmp : wp M Q b (.jmp l :: k) i s g = Ev M Q ⟨entry l, s, g⟩ := rfl

@[simp] theorem wp_jcc : wp M Q b (.jcc c l :: k) i s g =
    if c.holds s.flags then Ev M Q ⟨entry l, s, g⟩ else wp M Q b k (i + 1) s g := rfl

@[simp] theorem wp_call : wp M Q b (.call l :: k) i s g =
    Ev M Q ⟨entry l, s.push (M.addr ⟨b, i + 1⟩), .call l :: g⟩ := rfl

@[simp] theorem wp_vmovdqa {w : Nat} {v : Fin 32} {a : Addr} :
    wp M Q b (.vmovdqa w v a :: k) i s g =
      if (s.ea a).toNat % w = 0 then wp M Q b k (i + 1) (M.env.exec (.vmovdqu w v a) s) g
      else Ev M Q ⟨.fault, s, g⟩ := rfl

@[simp] theorem wp_vmovdqaTo {w : Nat} {v : Fin 32} {a : Addr} :
    wp M Q b (.vmovdqaTo w a v :: k) i s g =
      if (s.ea a).toNat % w = 0 then wp M Q b k (i + 1) (M.env.exec (.vmovdquTo w a v) s) g
      else Ev M Q ⟨.fault, s, g⟩ := rfl

@[simp] theorem wp_vmresume : wp M Q b (.vmresume :: k) i s g =
    if M.env.vm s.sys.vmOps .vmresume = .succeed then
      Ev M Q ⟨.guest, M.env.vmStep .vmresume s, g⟩
    else wp M Q b k (i + 1) (M.env.vmStep .vmresume s) g := rfl

@[simp] theorem wp_hlt : wp M Q b (.hlt :: k) i s g = Ev M Q ⟨.halted, s, g⟩ := rfl

end Walk

attribute [simp] Env.exec State.ea State.val State.val32

end X86
