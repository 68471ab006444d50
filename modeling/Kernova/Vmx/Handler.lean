import Kernova.Monitor.Journal
import Kernova.Vmx.Dispatch

/-!
# The VM-exit handler

`vmexit_handler` from the first push to `vmresume`: the guest's registers and
selectors go on the stack, the exit is dispatched, RIP is moved past the
instruction and everything is popped again.

* `exitField`, `exitInstrLen`, `nextRip` — what the reads at the start return
  and the RIP made of them.
* `ExitHandled` — the outcome, up to VMRESUME.
* `vmexit_handler_spec` — for every exit.
-/

namespace Kernova

open X86
open Machine (entry)

variable {I : Image}

/-! ## What the handler reads -/

/-- The words pushed for the selectors: each leaves the upper bits of the one
before in RAX. -/
def savedDs (s : State) : Word := setLow16 (s.regs .rax) (s.sys.seg .ds)
def savedEs (s : State) : Word := setLow16 (savedDs s) (s.sys.seg .es)
def savedFs (s : State) : Word := setLow16 (savedEs s) (s.sys.seg .fs)
def savedGs (s : State) : Word := setLow16 (savedFs s) (s.sys.seg .gs)

/-- What `vmcs_read64` returns for field `f` while the handler collects the exit
information. As written the helper hands back RAX, which still holds the words
of the selectors with the hypervisor's selector below. -/
def exitField (I : Image) (s : State) (f : Word) : Word :=
  match I.helpers.read64 with
  | .asWritten => setLow16 (savedGs s) 0x10
  | .byComment => s.sys.vmcs f

/-- What `vmcs_read32` returns for the length of the instruction. -/
def exitInstrLen (I : Image) (s : State) : Word :=
  match I.helpers.read32 with
  | .asWritten => exitField I s vmcsGuestRip
  | .byComment => s.sys.vmcs vmcsExitInstrLen

/-- The RIP read plus the length read, in the 32 bits of R12D. -/
def nextRip (I : Image) (s : State) : Word :=
  exitField I s vmcsGuestRip + ext32 (low32 (exitInstrLen I s))

/-! ## The frame -/

/-- The words on the stack of the handler below the first one, top first. -/
def exitFrame (s : State) : List Word :=
  [savedGs s, savedFs s, savedEs s, savedDs s] ++
    [Reg.r15, .r14, .r13, .r12, .r11, .r10, .r9, .r8, .rbp, .rdi, .rsi, .rdx, .rcx, .rbx].map s.regs

@[simp] theorem setWidth_setLow16 (old : Word) (v : BitVec 16) :
    (setLow16 old v).setWidth 16 = v := by
  have h0 : (0xFFFFFFFFFFFF0000 : Word).setWidth 16 = 0#16 := rfl
  rw [setLow16, BitVec.setWidth_or, BitVec.setWidth_and, h0, BitVec.and_zero,
    BitVec.zero_or, BitVec.setWidth_setWidth_of_le _ (by omega), BitVec.setWidth_eq]

/-- The handler's stack and the state of the engine at an exit: the 368 bytes
below RSP overlap none of the engine's storage, and the write index is within
its limit, as the engine leaves it. -/
structure ExitRoom (I : Image) (s : State) : Prop where
  clear : ∀ a, I.layout.TraceStorage a → ¬ InRange a (s.regs .rsp - BitVec.ofNat 64 368) 368
  index : (s.mem.read64 I.layout.writeIndex).toNat ≤ 1024

section

variable {s t : State} {g : List (Ctl Label)} {Q : Config Label → Prop}

/-- Taken from its first push on, the handler is a routine with 360 bytes of
stack: the word at its top is the guest's RAX. -/
theorem ExitRoom.room (h : ExitRoom I s) : Room I 360 (s.push (s.regs .rax)) := by
  have hbase : s.regs .rsp - 8 - BitVec.ofNat 64 360 = s.regs .rsp - BitVec.ofNat 64 368 := by
    rw [show s.regs .rsp - 8 = s.regs .rsp - BitVec.ofNat 64 8 from rfl, ← sub_ofNat_add]
  constructor
  · intro a ha
    rw [State.regs_push, if_pos rfl, hbase]
    exact h.clear a ha
  · have hidx : (s.push (s.regs .rax)).mem.read64 I.layout.writeIndex =
        s.mem.read64 I.layout.writeIndex := by
      refine Mem.read64_congr fun a ha => Mem.store_of_not fun hr => ?_
      refine h.clear a (counter_storage I.layout.writeIndex_counter ha) (hr.widen ?_)
      rw [show s.regs .rsp - 8 = s.regs .rsp - BitVec.ofNat 64 8 from rfl,
        gap_below _ (by omega) (by omega)]
    rw [hidx]
    exact h.index

/-- Every state that the engine's own calls can lead to is such a state. -/
theorem ExitRoom.of_journal {J : Journal} (hJ : Represents I.layout s.mem J)
    (hclear : ∀ a, I.layout.TraceStorage a →
      ¬ InRange a (s.regs .rsp - BitVec.ofNat 64 368) 368) : ExitRoom I s :=
  ⟨hclear, hJ.index_le⟩

/-- A state of the handler between saving the guest and the dispatch. -/
structure GuestSaved (I : Image) (s t : State) : Prop where
  handling : Handling I 360 (s.push (s.regs .rax)) (exitFrame s) t
  rax : I.helpers.read64 = .asWritten → t.regs .rax = setLow16 (savedGs s) 0x10
  vmcs : t.sys.vmcs = s.sys.vmcs
  cpuids : cpuids t.sys.events = cpuids s.sys.events
  rsi : t.regs .rsi = s.regs .rsi
  undisturbed : Undisturbed I.layout s t

/-- Pushing the guest's RAX leaves the engine alone. -/
theorem ExitRoom.undisturbed_push (h : ExitRoom I s) :
    Undisturbed I.layout s (s.push (s.regs .rax)) := by
  refine ⟨rfl, fun a ha => Mem.store_of_not fun hr => h.clear a ha (hr.widen ?_)⟩
  rw [show s.regs .rsp - 8 = s.regs .rsp - BitVec.ofNat 64 8 from rfl,
    gap_below _ (by omega) (by omega)]

/-- One selector saved. -/
theorem save_segment {b : Label} {s₀ : State} {ws : List Word} {x : Seg} {i : Nat}
    {code : List (Instr Label)} (hf : Framed Nowhere 360 s₀ ws t) (hlen : 8 * ws.length + 8 ≤ 360)
    (hk : ∀ u, Framed Nowhere 360 s₀ (setLow16 (t.regs .rax) (t.sys.seg x) :: ws) u →
      u.regs .rax = setLow16 (t.regs .rax) (t.sys.seg x) →
      u.sys = t.sys ∧ u.vec = t.vec ∧ u.regs .rsi = t.regs .rsi →
      wp I.machine Q b code (i + 1 + 1) u g) :
    wp I.machine Q b (.op (.movFromSeg .rax x) :: .op (.push .rax) :: code) i t g := by
  rw [wp_op (by simp)]
  generalize ht : I.machine.env.exec (.movFromSeg .rax x) t = v
  have hrax : v.regs .rax = setLow16 (t.regs .rax) (t.sys.seg x) := by subst ht; simp
  have hfv : Framed Nowhere 360 s₀ ws v := by subst ht; exact hf.same (by simp) (by simp)
  have hsys : v.sys = t.sys := by subst ht; simp
  have hvec : v.vec = t.vec := by subst ht; simp
  have hrsi : v.regs .rsi = t.regs .rsi := by subst ht; simp
  refine hk (v.push (v.regs .rax)) ?_ ?_ ⟨hsys, hvec, ?_⟩
  · rw [← hrax]
    exact hfv.push hlen (by omega)
  · rw [State.regs_push, if_neg (by decide), hrax]
  · rw [State.regs_push, if_neg (by decide), hrsi]

/-- `saveGuest`, for every guest. -/
theorem save_guest (hs : ExitRoom I s)
    (hk : ∀ u, GuestSaved I s u → wp I.machine Q (.intercept .vmexitHandler)
      ((I.machine.text (.intercept .vmexitHandler)).drop 28) 28 u g) :
    Ev I.machine Q ⟨entry (.intercept .vmexitHandler), s, g⟩ := by
  apply Ev.block
  show wp I.machine Q _ ([Reg.rbx, .rcx, .rdx, .rsi, .rdi, .rbp, .r8, .r9, .r10, .r11, .r12, .r13,
    .r14, .r15].map (fun r => .op (.push r)) ++ _) 1 (s.push (s.regs .rax)) g
  have hroom : Room I 360 (s.push (s.regs .rax)) := hs.room
  have hregs : ∀ r, r ≠ .rsp → (s.push (s.regs .rax)).regs r = s.regs r := fun r hr => if_neg hr
  have hsys : (s.push (s.regs .rax)).sys = s.sys := rfl
  -- RAX is on the stack already, so the frame starts one word below the guest's RSP.
  refine wp_pushes (W := Nowhere) (d := 360) _ [] Framed.entry (by simp) (by omega) (by decide) ?_
  intro t ht hregs' hsys' hvec'
  have hwords : (List.map (s.push (s.regs .rax)).regs
      [Reg.rbx, .rcx, .rdx, .rsi, .rdi, .rbp, .r8, .r9, .r10, .r11, .r12, .r13, .r14, .r15]).reverse ++
      [] = [Reg.r15, .r14, .r13, .r12, .r11, .r10, .r9, .r8, .rbp, .rdi, .rsi, .rdx, .rcx,
        .rbx].map s.regs := by
    simp
  have hrax : t.regs .rax = s.regs .rax := by rw [hregs' _ (by decide), hregs _ (by decide)]
  have hseg : t.sys.seg = s.sys.seg := by rw [hsys', hsys]
  rw [hwords] at ht
  refine save_segment ht (by simp) fun u₁ hu₁ hr₁ hy₁ => ?_
  rcases hy₁ with ⟨hy₁, hv₁, hx₁⟩
  refine save_segment hu₁ (by simp) fun u₂ hu₂ hr₂ hy₂ => ?_
  rcases hy₂ with ⟨hy₂, hv₂, hx₂⟩
  refine save_segment hu₂ (by simp) fun u₃ hu₃ hr₃ hy₃ => ?_
  rcases hy₃ with ⟨hy₃, hv₃, hx₃⟩
  refine save_segment hu₃ (by simp) fun u₄ hu₄ hr₄ hy₄ => ?_
  rcases hy₄ with ⟨hy₄, hv₄, hx₄⟩
  -- Each word saved keeps the upper bits of the one before: `mov ax, ds` writes the low
  -- 16 bits only, and the first word's come from the guest's RAX.
  have hds : setLow16 (t.regs .rax) (t.sys.seg .ds) = savedDs s := by rw [hrax, hseg, savedDs]
  have hes : setLow16 (u₁.regs .rax) (u₁.sys.seg .es) = savedEs s := by
    rw [hr₁, hds, hy₁, hseg, savedEs]
  have hfs : setLow16 (u₂.regs .rax) (u₂.sys.seg .fs) = savedFs s := by
    rw [hr₂, hes, hy₂, hy₁, hseg, savedFs]
  have hgs : setLow16 (u₃.regs .rax) (u₃.sys.seg .gs) = savedGs s := by
    rw [hr₃, hfs, hy₃, hy₂, hy₁, hseg, savedGs]
  rw [hds, hes, hfs, hgs] at hu₄
  rw [hgs] at hr₄
  have hy : u₄.sys = s.sys := by rw [hy₄, hy₃, hy₂, hy₁, hsys', hsys]
  have hrsi : u₄.regs .rsi = s.regs .rsi := by
    rw [hx₄, hx₃, hx₂, hx₁, hregs' _ (by decide), hregs _ (by decide)]
  have hsaved : Undisturbed I.layout s u₄ := by
    refine hs.undisturbed_push.trans ⟨?_, fun a ha => ?_⟩
    · rw [hv₄, hv₃, hv₂, hv₁, hvec']
    · exact hu₄.mem a (hroom.clear.off_stack ha (Nat.le_refl _) (by omega) (by omega)) id
  show wp I.machine Q _ (([.movw .rax 0x10, .movToSeg .ds .rax, .movToSeg .es .rax,
    .movToSeg .fs .rax, .movToSeg .gs .rax] : List Op).map .op ++ _) 23 u₄ g
  rw [wp_ops]
  refine hk _ ⟨⟨(hu₄.weaken fun _ h => h.elim).same (by simp [Env.execs]) (by simp [Env.execs]),
      ?_⟩,
    fun _ => by simp [Env.execs, hr₄], by simp [Env.execs, hy], by simp [Env.execs, hy],
    by simp [Env.execs, hrsi],
    hsaved.trans (Undisturbed.of_eq (by simp [Env.execs]) rfl)⟩
  have hidx := index_off_stack hroom.clear (Nat.le_refl _) (by omega) fun a ha => hu₄.mem a ha id
  have hindex := hroom.index
  rw [← hidx] at hindex
  simpa [Env.execs] using hindex

/-- `mov rdi, f; call vmcs_read64; mov d, rax` -/
theorem read_exit {i : Nat} {f : Word} {d : Reg} {code : List (Instr Label)} (hs : ExitRoom I s)
    (hcode : (I.machine.text (.intercept .vmexitHandler)).drop i = .op (.mov .rdi (.imm f)) ::
      .call (.intercept .vmcsRead64) :: .op (.mov d (.reg .rax)) :: code)
    (hd : d ≠ .rsp ∧ d ≠ .rax ∧ d ≠ .rsi) (ht : GuestSaved I s t)
    (hk : ∀ u h, GuestSaved I s u → u.regs d = exitField I s f → u.regs .rax = exitField I s f →
      (∀ r, r ∉ [.rax, .rdi, d] → u.regs r = t.regs r) →
      wp I.machine Q (.intercept .vmexitHandler)
        ((I.machine.text (.intercept .vmexitHandler)).drop (i + 3)) (i + 3) u
        (.ret h (exitField I s f) :: .call (.intercept .vmcsRead64) :: g)) :
    wp I.machine Q (.intercept .vmexitHandler)
      ((I.machine.text (.intercept .vmexitHandler)).drop i) i t g := by
  have hcall : (I.machine.text (.intercept .vmexitHandler))[i + 1]? =
      some (.call (.intercept .vmcsRead64)) := by
    rw [← List.getElem?_drop, hcode]
    rfl
  have hrest : ∀ n, (I.machine.text (.intercept .vmexitHandler)).drop (i + n) =
      (.op (.mov .rdi (.imm f)) :: .call (.intercept .vmcsRead64) :: .op (.mov d (.reg .rax)) ::
        code).drop n := by
    intro n
    rw [← List.drop_drop, hcode]
  -- As written the helper returns what was in RAX, the selector of the hypervisor.
  have hval : fieldRead I.helpers.read64 (I.machine.env.exec (.mov .rdi (.imm f)) t) =
      exitField I s f := by
    unfold fieldRead exitField
    cases hread : I.helpers.read64 with
    | asWritten => simp [ht.rax hread]
    | byComment => simp [ht.vmcs]
  rw [hcode, wp_op (by simp), wp_call]
  refine (ht.handling.same (by simp) (by simp)).read (i := i + 1) rfl hcall hs.room.clear
    (by simp [exitFrame]) (by omega) ?_
  intro u hu hregs hrax hvmcs hcp huse
  rw [hval] at hrax ⊢
  rw [show i + 1 + 1 = i + 2 from rfl, hrest 2]
  rw [show List.drop 2 _ = .op (.mov d (.reg .rax)) :: code from rfl, wp_op (by simp),
    ← show (I.machine.text (.intercept .vmexitHandler)).drop (i + 3) = code from hrest 3]
  refine hk _ _ ⟨hu.same (by simp [hd.1.symm]) (by simp), fun h => ?_, ?_, ?_, ?_, ?_⟩
    (by simp [hrax]) (by simp [hrax]) fun r hr => ?_
  · rw [exitField, h] at hrax
    simp [hrax]
  · simp [hvmcs, ht.vmcs]
  · simp [hcp, ht.cpuids]
  · simp [hd.2.2.symm, hregs, ht.rsi]
  · have hread : Undisturbed I.layout _ u := huse.performed
    exact ht.undisturbed.trans ((Undisturbed.of_eq (by simp) (by simp)).trans
      (hread.trans (Undisturbed.of_eq (by simp) (by simp))))
  · simp only [List.mem_cons, List.not_mem_nil, not_or] at hr
    simp [hr, hregs]

/-- A state of the handler about to dispatch. -/
structure AtDispatch (I : Image) (s t : State) : Prop where
  handling : Handling I 360 (s.push (s.regs .rax)) (exitFrame s) t
  rdi : t.regs .rdi = exitField I s vmcsExitReason
  r14 : t.regs .r14 = exitField I s vmcsExitQualification
  r13 : t.regs .r13 = exitField I s vmcsGuestRip
  r12 : t.regs .r12 = ext32 (low32 (exitInstrLen I s))
  vmcs : t.sys.vmcs = s.sys.vmcs
  cpuids : cpuids t.sys.events = cpuids s.sys.events
  rsi : t.regs .rsi = s.regs .rsi
  undisturbed : Undisturbed I.layout s t

/-- The exit information is read. -/
theorem read_exit_all (hs : ExitRoom I s) (ht : GuestSaved I s t)
    (hk : ∀ u k, AtDispatch I s u → NoEngineCall k → wp I.machine Q (.intercept .vmexitHandler)
      ((I.machine.text (.intercept .vmexitHandler)).drop 41) 41 u (k ++ g)) :
    wp I.machine Q (.intercept .vmexitHandler)
      ((I.machine.text (.intercept .vmexitHandler)).drop 28) 28 t g := by
  refine read_exit hs rfl (by decide) ht fun u₁ a₁ hu₁ h15 _ _ => ?_
  refine read_exit hs rfl (by decide) hu₁ fun u₂ a₂ hu₂ h14 _ hr₂ => ?_
  refine read_exit hs rfl (by decide) hu₂ fun u₃ a₃ hu₃ h13 hrax hr₃ => ?_
  show wp I.machine Q _ (.op (.mov .rdi (.imm vmcsExitInstrLen)) ::
    .call (.intercept .vmcsRead32) ::
    _) 37 u₃ _
  rw [wp_op (by simp), wp_call]
  refine (hu₃.handling.same (by simp) (by simp)).read (b := .intercept .vmexitHandler) (i := 38) rfl
    rfl hs.room.clear (by simp [exitFrame]) (by omega) ?_
  intro u hu hregs hlen hvmcs hcp huse
  have hval :
    fieldRead I.helpers.read32 (I.machine.env.exec (.mov .rdi (.imm vmcsExitInstrLen)) u₃) =
      exitInstrLen I s := by
    unfold fieldRead exitInstrLen
    cases I.helpers.read32 with
    | asWritten => simp [hrax]
    | byComment => simp [hu₃.vmcs]
  rw [hval] at hlen ⊢
  have hr15 : u.regs .r15 = exitField I s vmcsExitReason := by
    rw [hregs _ (by decide)]
    simp [hr₃ .r15 (by decide), hr₂ .r15 (by decide), h15]
  have hr14 : u.regs .r14 = exitField I s vmcsExitQualification := by
    rw [hregs _ (by decide)]
    simp [hr₃ .r14 (by decide), h14]
  have hr13 : u.regs .r13 = exitField I s vmcsGuestRip := by
    rw [hregs _ (by decide)]
    simp [h13]
  have hrsi : u.regs .rsi = s.regs .rsi := by
    rw [hregs _ (by decide)]
    simp [hu₃.rsi]
  have hread : Undisturbed I.layout _ u := huse.performed
  show wp I.machine Q _ (.op (.movl .r12 (.reg .rax)) :: .op (.mov .rdi (.reg .r15)) :: _) 39 u _
  rw [wp_op (by simp), wp_op (by simp)]
  refine hk _ [_, _, _, _, _, _, _, _] ⟨hu.same (by simp) (by simp), by simp [hr15], by simp [hr14],
    by simp [hr13], by simp [hlen], by simp [hvmcs, hu₃.vmcs], by simp [hcp, hu₃.cpuids],
    by simp [hrsi], hu₃.undisturbed.trans ((Undisturbed.of_eq (by simp) (by simp)).trans
      (hread.trans (Undisturbed.of_eq (by simp) (by simp))))⟩ ?_
  constructor <;> simp

/-! ## Resuming the guest -/

/-- What the handler leaves of the guest RIP field: by its comment
`vmcs_write64` sets it; as written the processor may refuse. -/
def RipWritten (I : Image) (v : Word) (y : Sys) : Prop :=
  match I.helpers.write64 with
  | .asWritten => ∃ r r' es, y.events = .vm .vmresume r' :: .vm (.vmwrite vmcsGuestRip v) r :: es ∧
      (r = .succeed → y.vmcs vmcsGuestRip = v)
  | .byComment => y.vmcs vmcsGuestRip = v

/-- The guest as it was, at the instruction to run next. -/
structure Resumed (I : Image) (s : State) (c : Config Label) : Prop where
  resume : ∃ r es, c.st.sys.events = .vm .vmresume r :: es ∧
    c.loc = if r = .succeed then .guest else .halted
  regs : c.st.regs = s.regs
  seg : c.st.sys.seg = s.sys.seg
  rip : RipWritten I (nextRip I s) c.st.sys

/-- The handler has come to its VM entry, and the guest runs if that succeeds. -/
def EntersGuest (c : Config Label) : Prop :=
  ∃ r es, c.st.sys.events = .vm .vmresume r :: es ∧
    c.loc = if r = .succeed then .guest else .halted

theorem EntersGuest.final {c : Config Label} (h : EntersGuest c) : c.loc.Final := by
  rcases h with ⟨r, es, -, hloc⟩
  rw [hloc]
  split_ifs <;> trivial

/-- The exit of the handler, from a state `t` in which the guest's registers are
on the stack. -/
structure GuestResumed (s t : State) (g : List (Ctl Label)) (c : Config Label) : Prop where
  regs : c.st.regs = s.regs
  seg : c.st.sys.seg = s.sys.seg
  vmcs : c.st.sys.vmcs = t.sys.vmcs
  resume : ∃ r, c.st.sys.events = .vm .vmresume r :: t.sys.events ∧
    c.loc = if r = .succeed then .guest else .halted
  mem : c.st.mem = t.mem
  vec : c.st.vec = t.vec
  log : c.log = g

/-- One selector restored. -/
theorem restore_segment {b : Label} {W : Word → Prop} {d : Nat} {s₀ : State} {w : Word}
    {ws : List Word} {x : Seg} {i : Nat} {code : List (Instr Label)}
    (hf : Framed W d s₀ (w :: ws) t)
    (hk : ∀ u, Framed W d s₀ ws u →
      (∀ y, u.sys.seg y = if y = x then w.setWidth 16 else t.sys.seg y) →
      u.sys.vmcs = t.sys.vmcs ∧ u.sys.events = t.sys.events →
      u.mem = t.mem ∧ u.vec = t.vec → wp I.machine Q b code (i + 1 + 1) u g) :
    wp I.machine Q b (.op (.pop .rax) :: .op (.movToSeg x .rax) :: code) i t g := by
  have htop : t.top = w := hf.top
  show wp I.machine Q b (.op (.movToSeg x .rax) :: code) (i + 1) (t.drop.set .rax t.top) g
  rw [wp_op (by simp)]
  refine hk _ (hf.drop (by simp) rfl) (fun y => ?_) ⟨rfl, rfl⟩ ⟨rfl, rfl⟩
  simp [htop]

/-- `restoreGuest`, the VM entry and what follows a failed one. -/
theorem resume_guest (hf : Framed I.layout.TraceStorage 360 (s.push (s.regs .rax)) (exitFrame s) t)
    (hk : ∀ c, GuestResumed s t g c → Q c) :
    wp I.machine Q (.intercept .vmexitHandler)
      ((I.machine.text (.intercept .vmexitHandler)).drop 46) 46 t g := by
  -- The selectors are popped in the reverse order, and then the registers.
  refine restore_segment hf fun u₁ hu₁ hg₁ hy₁ hm₁ => ?_
  refine restore_segment hu₁ fun u₂ hu₂ hg₂ hy₂ hm₂ => ?_
  refine restore_segment hu₂ fun u₃ hu₃ hg₃ hy₃ hm₃ => ?_
  refine restore_segment hu₃ fun u₄ hu₄ hg₄ hy₄ hm₄ => ?_
  have hseg : u₄.sys.seg = s.sys.seg := by
    funext x
    rw [hg₄, hg₃, hg₂, hg₁]
    cases x <;> simp [savedDs, savedEs, savedFs, savedGs]
  have hvmcs : u₄.sys.vmcs = t.sys.vmcs := by rw [hy₄.1, hy₃.1, hy₂.1, hy₁.1]
  have hevents : u₄.sys.events = t.sys.events := by rw [hy₄.2, hy₃.2, hy₂.2, hy₁.2]
  refine wp_pops s.regs [.r15, .r14, .r13, .r12, .r11, .r10, .r9, .r8, .rbp, .rdi, .rsi, .rdx,
    .rcx, .rbx] [] (by simpa using hu₄) (by decide) fun u hu hpop _ hmem hsys hvec => ?_
  have htop : u.top = s.regs .rax := by
    rw [show u.top = (s.push (s.regs .rax)).top from hu.stack.1, State.top_push]
  have hrsp : u.regs .rsp = s.regs .rsp - 8 := by simpa using hu.rsp
  show wp I.machine _ _ (.vmresume :: .jmp (.intercept .vmexitError) :: []) _
    (u.drop.set .rax u.top) g
  generalize hv : u.drop.set .rax u.top = v
  have hregs : v.regs = s.regs := by
    subst hv
    funext r
    by_cases hr : r ∈ [Reg.r15, .r14, .r13, .r12, .r11, .r10, .r9, .r8, .rbp, .rdi, .rsi, .rdx,
      .rcx, .rbx]
    · have h1 : r ≠ .rax := by rintro rfl; exact absurd hr (by decide)
      have h2 : r ≠ .rsp := by rintro rfl; exact absurd hr (by decide)
      simp [h1, h2, hpop r hr]
    -- RAX is popped last, and with it RSP is the guest's again.
    · have hlast : r = .rax ∨ r = .rsp := by revert hr; cases r <;> decide
      rcases hlast with rfl | rfl
      · simp [htop]
      · simp [hrsp]
  have hvsys : v.sys = u₄.sys := by
    subst hv
    rw [State.sys_set, State.sys_drop, hsys]
  have hdone : GuestResumed s t g ⟨if I.env.vm v.sys.vmOps .vmresume = .succeed then .guest
      else .halted, I.env.vmStep .vmresume v, g⟩ := by
    refine ⟨hregs, ?_, ?_, ⟨_, ?_, rfl⟩, ?_, ?_, rfl⟩
    · simp [Env.vmStep, hvsys, hseg]
    · simp [Env.vmStep, hvsys, hvmcs]
    · simp [Env.vmStep, hvsys, hevents]
    · subst hv
      simp [Env.vmStep, hmem, hm₁.1, hm₂.1, hm₃.1, hm₄.1]
    · subst hv
      show u.vec = t.vec
      rw [hvec, hm₄.2, hm₃.2, hm₂.2, hm₁.2]
  rw [wp_vmresume, Image.machine_env]
  by_cases hsucc : I.env.vm v.sys.vmOps .vmresume = .succeed
  · rw [if_pos hsucc] at hdone ⊢
    exact Ev.here (hk _ hdone)
  · rw [if_neg hsucc] at hdone ⊢
    rw [wp_jmp]
    apply Ev.block
    simp [interceptText, interceptNext]
    apply Ev.block
    exact Ev.here (hk _ hdone)

/-- The use that the handler makes of the engine. As written, the reason it reads
ends in the hypervisor's selector and concerns none of the interceptors. -/
def exitUse (I : Image) (s : State) : EngineUse :=
  match I.helpers.read64 with
  | .asWritten => .nothing
  | .byComment =>
    if s.sys.vmcs vmcsExitReason = exitReasonCrAccess then
      crUse I.layout (s.sys.vmcs vmcsExitQualification) (s.sys.vmcs vmcsExitQualification)
    else if s.sys.vmcs vmcsExitReason = exitReasonMsrWrite then
      msrUse I.layout (s.sys.vmcs vmcsGuestRcx) (s.regs .rsi)
    else .nothing

/-- The use of an exit for a control register. -/
theorem exitUse_cr (hread : I.helpers.read64 = .byComment)
    (hreason : s.sys.vmcs vmcsExitReason = exitReasonCrAccess) : exitUse I s =
      crUse I.layout (s.sys.vmcs vmcsExitQualification) (s.sys.vmcs vmcsExitQualification) := by
  simp only [exitUse, hread, hreason, if_true]

/-- The use of an exit for an MSR. -/
theorem exitUse_msr (hread : I.helpers.read64 = .byComment)
    (hreason : s.sys.vmcs vmcsExitReason = exitReasonMsrWrite) : exitUse I s =
      msrUse I.layout (s.sys.vmcs vmcsGuestRcx) (s.regs .rsi) := by
  have hne : ¬ exitReasonMsrWrite = exitReasonCrAccess := by decide
  simp only [exitUse, hread, hreason, if_neg hne, if_true]

/-- What the handler does with an exit. -/
structure ExitHandled (I : Image) (s : State) (g : List (Ctl Label)) (c : Config Label) : Prop where
  resumed : Resumed I s c
  uses : Uses I.layout (exitUse I s) s g c.st c.log
  cpuid : I.helpers.read64 = .byComment → s.sys.vmcs vmcsExitReason = exitReasonCpuid →
    ∃ y, CpuidEmulated I (low32 (s.sys.vmcs vmcsGuestRcx)) s.sys y ∧
      c.st.sys.vmcs = (fieldWrite I.env I.helpers.write64 y vmcsGuestRip (nextRip I s)).vmcs ∧
      cpuids c.st.sys.events = cpuids y.events

/-- The decision on an MSR write. -/
theorem ExitHandled.msr {c : Config Label} (hc : ExitHandled I s g c)
    (hr : I.helpers.read64 = .byComment)
    (hmsr : s.sys.vmcs vmcsExitReason = exitReasonMsrWrite) :
    MsrDecided (s.sys.vmcs vmcsGuestRcx) g c.log := by
  have hu := hc.uses
  rw [exitUse_msr hr hmsr] at hu
  exact hu.msrDecided

/-- The dispatch uses the engine as the reason, the qualification and RCX of the
exit have it. -/
theorem AtDispatch.dispatchUse_push (ht : AtDispatch I s t) {v : Word} :
    dispatchUse I (t.push v) = exitUse I s := by
  have hreg : ∀ r, r ≠ .rsp → (t.push v).regs r = t.regs r := fun r hr => if_neg hr
  unfold dispatchUse exitUse
  rw [hreg _ (by decide), hreg _ (by decide), hreg _ (by decide), ht.rdi, ht.r14, ht.rsi]
  cases hr : I.helpers.read64 with
  | asWritten =>
    -- The reason read ends in the selector 0x10, which neither exit reason does.
    have hlow : ∀ x : Word, x.setWidth 16 ≠ 0x10#16 → exitField I s vmcsExitReason ≠ x := by
      rintro x hx rfl
      exact hx (by rw [exitField, hr, setWidth_setLow16]; rfl)
    rw [if_neg (hlow _ (by decide)), if_neg (hlow _ (by decide))]
  | byComment =>
    simp [exitField, hr, crQualification, fieldRead, ht.vmcs]

@[simp] theorem fieldMask_guestRip : fieldMask vmcsGuestRip = 0xFFFFFFFFFFFFFFFF := by decide

theorem setField_guestRip (vmcs : Word → Word) (v : Word) :
    setField vmcs vmcsGuestRip v vmcsGuestRip = v := by
  rw [setField, if_pos rfl, fieldMask_guestRip]
  exact BitVec.and_allOnes

/-- The write of RIP, seen after the VM entry. -/
theorem ripWritten_of_fieldWrite {y z : Sys} {v : Word} {r : VmResult}
    (hv : z.vmcs = (fieldWrite I.env I.helpers.write64 y vmcsGuestRip v).vmcs)
    (he : z.events = .vm .vmresume r ::
      (fieldWrite I.env I.helpers.write64 y vmcsGuestRip v).events) : RipWritten I v z := by
  unfold RipWritten
  revert hv he
  cases I.helpers.write64 with
  | asWritten =>
    intro hv he
    refine ⟨_, _, _, he, fun hr => ?_⟩
    rw [hv, fieldWrite]
    simp only [hr, if_true]
    exact setField_guestRip _ _
  | byComment =>
    intro hv _
    show z.vmcs vmcsGuestRip = v
    rw [hv]
    exact setField_guestRip y.vmcs v

/-- `vmexit_handler`, for every exit. -/
theorem vmexit_handler_spec (hs : ExitRoom I s) :
    Ev I.machine (ExitHandled I s g) ⟨entry (.intercept .vmexitHandler), s, g⟩ := by
  refine save_guest hs fun t₀ ht₀ => read_exit_all hs ht₀ fun t k ht hk => ?_
  show wp I.machine _ _ (.call (.intercept .vmexitDispatch) :: _) 41 t _
  rw [wp_call]
  refine Ev.call (i := 41) (vmexit_dispatch_spec _ _ (ht.handling.room hs.room.clear
    (by simp [exitFrame]) (by omega))) (fun c hc => hc.ret) rfl (by omega) ?_
  intro u h hb hc
  have hfu := ht.handling.frame.back hb hs.room.clear (fun _ h => h)
    (by simp [exitFrame]) (by omega)
  have hdispatched : Uses I.layout (exitUse I s) s g u h := by
    have huse := hc.uses
    rw [ht.dispatchUse_push] at huse
    refine huse.after (Uses.of_undisturbed (k := .call (.intercept .vmexitDispatch) :: k)
      (ht.undisturbed.trans (ht.handling.undisturbed_push hs.room.clear (by simp [exitFrame])
        (by omega))) ⟨?_, ?_⟩)
    · simp [hk.1]
    · simp [hk.2]
  have hrdi : I.helpers.read64 = .byComment →
      (t.push (I.machine.addr ⟨.intercept .vmexitHandler, 41 + 1⟩)).regs .rdi =
        s.sys.vmcs vmcsExitReason := by
    intro hr
    rw [State.regs_push, if_neg (by decide), ht.rdi, exitField, hr]
  have hread : I.helpers.read64 = .byComment → fieldRead I.helpers.read64
      ((t.push (I.machine.addr ⟨.intercept .vmexitHandler, 41 + 1⟩)).set .rdi vmcsGuestRcx) =
        s.sys.vmcs vmcsGuestRcx := by
    intro hr
    simp [hr, fieldRead, ht.vmcs]
  have h13 : u.regs .r13 = exitField I s vmcsGuestRip := (hb.regs _ (by decide)).trans ht.r13
  have h12 : u.regs .r12 = ext32 (low32 (exitInstrLen I s)) := (hb.regs _ (by decide)).trans ht.r12
  show wp I.machine _ _ (.op (.mov .rdi (.imm vmcsGuestRip)) :: .op (.mov .rsi (.reg .r13)) ::
    .op (.add .rsi (.reg .r12)) :: .call (.intercept .vmcsWrite64) :: _) 42 u h
  rw [wp_op (by simp), wp_op (by simp), wp_op (by simp), wp_call]
  refine call_vmcs_write64 (b := .intercept .vmexitHandler) (i := 45) rfl fun v hbv hvv hv => ?_
  have hfv := (hfu.same (by simp) (by simp)).back hbv hs.room.clear (fun _ h => h.elim)
    (by simp [exitFrame]) (by omega)
  have hvsys : v.sys = fieldWrite I.env I.helpers.write64 u.sys vmcsGuestRip (nextRip I s) := by
    rw [hv]
    simp [h13, h12, nextRip]
  refine resume_guest hfv fun c hcr => ⟨⟨?_, hcr.regs, hcr.seg, ?_⟩, ?_, fun hr hcpuid => ?_⟩
  · rcases hcr.resume with ⟨r, hev, hloc⟩
    exact ⟨r, _, hev, hloc⟩
  · rcases hcr.resume with ⟨r, hev, -⟩
    rw [hvsys] at hev
    exact ripWritten_of_fieldWrite (by rw [hcr.vmcs, hvsys]) hev
  · refine hdispatched.quiet ?_ hs.index
    rw [hcr.log]
    refine Uses.of_undisturbed (k := [_, .call (.intercept .vmcsWrite64)]) ?_ ⟨by simp, by simp⟩
    have hwrite := undisturbed_of_back (hfu.same (by simp) (by simp)) hbv hvv hs.room.clear
      (by simp [exitFrame]) (by omega)
    refine Undisturbed.trans ?_ (hwrite.trans (Undisturbed.of_eq hcr.mem hcr.vec))
    exact Undisturbed.of_eq (by simp) (by simp)
  · have hx := hc.cpuid (by rw [hrdi hr, hcpuid])
    rw [hread hr] at hx
    refine ⟨u.sys, ?_, by rw [hcr.vmcs, hvsys], ?_⟩
    · rcases hx with ⟨z, hz, hze, hzy⟩
      exact ⟨z, by rw [hz]; exact ht.vmcs, by rw [hze]; exact congrArg _ ht.cpuids, hzy⟩
    · rcases hcr.resume with ⟨r, hev, -⟩
      rw [hev, hvsys]
      exact fieldWrite_cpuids

/-- The guest gets back the registers and selectors it had, whatever the exit. -/
theorem exit_frame_restored (hs : ExitRoom I s) :
    Ev I.machine (Resumed I s) ⟨entry (.intercept .vmexitHandler), s, []⟩ :=
  (vmexit_handler_spec hs).mono fun _ hc => hc.resumed

end

/-! ## An exit -/

/-- A guest stopped with the given registers and VMCS fields, the handler's stack
below 0x8000. -/
def exitSample (rcx : Word) (vmcs : Word → Word) : State :=
  { sampleState (fun
      | .rcx => rcx
      | .rsp => 0x8000
      | _ => 0) with
    sys := { sampleSys with vmcs := vmcs } }

/-- The program with the helpers of `intercept.asm` taken by their comments. -/
def commentImage : Image :=
  sampleImage (sampleEnv 0 fun _ => .succeed) ⟨.byComment, .byComment, .byComment⟩

theorem exitSample_room {e : Env} {h : Helpers} {rcx : Word} {vmcs : Word → Word} :
    ExitRoom (sampleImage e h) (exitSample rcx vmcs) := by
  have hindex : (Mem.read64 (fun _ => 0) sampleLayout.writeIndex).toNat ≤ 1024 := by decide
  refine ⟨fun a ha => ?_, hindex⟩
  have hap : Apart (0x10000 : Word) Layout.traceSize (0x8000 - BitVec.ofNat 64 368) 368 :=
    apart_of_gap (by decide) (by decide)
  exact hap a ha

/-- A guest with something in every register and selector writes IA32_LSTAR. -/
def busyExit : State :=
  let fields : Word → Word := fun f =>
    if f = vmcsExitReason then exitReasonMsrWrite
    else if f = vmcsGuestRcx then ia32Lstar
    else if f = vmcsGuestRip then 0x401000
    else 2
  { exitSample 0 fields with
    regs := fun
      | .rsp => 0x8000
      | .rcx => ia32Lstar
      | .r12 => 0xC0FFEE
      | _ => 0x1234
    sys := { sampleSys with
      vmcs := fields
      seg := fun _ => 0x2B } }

/-- The write is logged, and the engine checks itself. -/
theorem exit_frame_restored_sample :
    exitUse commentImage busyExit =
        .eventAndCheck commentImage.layout.eventLstarWrite ia32Lstar ∧
    Ev commentImage.machine (Resumed commentImage busyExit)
      ⟨entry (.intercept .vmexitHandler), busyExit, []⟩ := by
  have hroom : ExitRoom commentImage (exitSample 0 fun _ => 0) := exitSample_room
  exact ⟨by decide, exit_frame_restored ⟨hroom.clear, hroom.index⟩⟩

end Kernova
