import Kernova.Asm.Labels

/-!
# `marshall/simd_packer.asm`

The marshalling routines, instruction by instruction. `simdNext` is the block
laid out behind a block, into which it falls when it does not end in a jump.
-/

namespace Kernova

open X86 Reg Op

/-- Initial lanes and multiplier of `simd_hash_blocks`. -/
def hashSeed0 : Word := 0x243f6a8885a308d3
def hashSeed1 : Word := 0x13198a2e03707344
def hashSeed2 : Word := 0xa4093822299f31d0
def hashSeed3 : Word := 0x082efa98ec4e6c89
def hashPrime : Word := 0x100000001b3

/-- Multipliers of the finalizer `.fmix64`. -/
def fmixC1 : Word := 0xff51afd7ed558ccd
def fmixC2 : Word := 0xc4ceb9fe1a85ec53

/-- `simd_hash_blocks.hash_loop` between its test and its jump. -/
def hashTurn : List Op := [
  movzxb rax (.sib r12 rbx 0),
  mov rcx rax, add rcx rbx, xor r8 rcx, imul r8 r15, rol r8 13,
  mov rcx rbx, shl rcx 8, xor rcx rax, add r9 rcx, imul r9 r15, rol r9 29,
  mov rcx rax, shl rcx 32, xor rcx rbx, xor r10 rcx, imul r10 r15, rol r10 37,
  lea rcx (.sib rax rbx 0), xor rcx r11, imul rcx r15, xor r11 rcx, rol r11 43,
  inc rbx]

/-- `simd_hash_blocks.fmix64` up to its return. -/
def fmixTurn : List Op := [
  mov rcx rax, shr rcx 33, xor rax rcx, mov rcx (.imm fmixC1), imul rax rcx,
  mov rcx rax, shr rcx 33, xor rax rcx, mov rcx (.imm fmixC2), imul rax rcx,
  mov rcx rax, shr rcx 33, xor rax rcx]

/-- The loop of vector moves, `w` bytes a turn. -/
def copyLoop (w : Nat) (self remaining : Label) : List (Instr Label) := [
  mov rax r14, sub rax rbx, cmp rax (.imm (BitVec.ofNat 64 w)), .jcc .l remaining,
  vmovdqu w 0 (.sib r13 rbx 0), vmovdquTo w (.sib r12 rbx 0) 0,
  add rbx (.imm (BitVec.ofNat 64 w)), .jmp self]

def simdText : SimdLabel → List (Instr Label)
  /- simd_pack_data: RDI = dest, RSI = src, RDX = size, RCX = flags -/
  | .simdPackData => [
      push rbp, mov rbp rsp,
      push rbx, push r12, push r13, push r14, push r15,
      mov r12 rdi, mov r13 rsi, mov r14 rdx, mov r15 rcx,
      test r12 r12, .jcc .z (.simd .simdPackDataInvalidParam),
      test r13 r13, .jcc .z (.simd .simdPackDataInvalidParam),
      test r14 r14, .jcc .z (.simd .simdPackDataZeroSize),
      .jcc .l (.simd .simdPackDataInvalidParam),
      test r15 (.imm 1), .jcc .nz (.simd .simdPackDataTryAvx512)]
  | .simdPackDataUseAvx2 => [
      .call (.simd .simdPack256bit), .jmp (.simd .simdPackDataPackDone)]
  | .simdPackDataTryAvx512 => [
      .call (.simd .checkAvx512Support),
      testl rax rax, .jcc .z (.simd .simdPackDataUseAvx2),
      .call (.simd .simdPack512bit), .jmp (.simd .simdPackDataPackDone)]
  | .simdPackDataInvalidParam => [
      movl rax (.imm (-1)), .jmp (.simd .simdPackDataPackExit)]
  | .simdPackDataZeroSize => [
      xorl rax rax, .jmp (.simd .simdPackDataPackExit)]
  | .simdPackDataPackDone => [vzeroupper]
  | .simdPackDataPackExit => [
      pop r15, pop r14, pop r13, pop r12, pop rbx, pop rbp, .ret]
  /- simd_pack_256bit: R12 = dest, R13 = src, R14 = size -/
  | .simdPack256bit => [
      push rbp, mov rbp rsp, vzeroupper, xor rbx rbx, xor rcx rcx]
  | .simdPack256bitPackLoop => [
      mov rax r14, sub rax rbx, cmp rax (.imm 32),
      .jcc .l (.simd .simdPack256bitPackRemaining),
      vmovdqu 32 0 (.sib r13 rbx 0), vmovdquTo 32 (.sib r12 rbx 0) 0,
      add rbx (.imm 32), .jmp (.simd .simdPack256bitPackLoop)]
  | .simdPack256bitPackRemaining => [
      mov rax r14, sub rax rbx,
      test rax rax, .jcc .z (.simd .simdPack256bitPackComplete),
      cmp rax (.imm 16), .jcc .ge (.simd .simdPack256bitUseXmm)]
  | .simdPack256bitUseByteCopy => [
      mov rcx rax, mov rsi r13, add rsi rbx, mov rdi r12, add rdi rbx,
      repMovsb, .jmp (.simd .simdPack256bitPackComplete)]
  | .simdPack256bitUseXmm => [
      vmovdqu 16 0 (.sib r13 rbx 0), vmovdquTo 16 (.sib r12 rbx 0) 0,
      add rbx (.imm 16),
      mov rax r14, sub rax rbx,
      test rax rax, .jcc .z (.simd .simdPack256bitPackComplete),
      .jmp (.simd .simdPack256bitUseByteCopy)]
  | .simdPack256bitPackComplete => [mov rax r14, vzeroupper, pop rbp, .ret]
  /- simd_pack_512bit: R12 = dest, R13 = src, R14 = size -/
  | .simdPack512bit => [push rbp, mov rbp rsp, xor rbx rbx]
  | .simdPack512bitPackLoop => [
      mov rax r14, sub rax rbx, cmp rax (.imm 64),
      .jcc .l (.simd .simdPack512bitPackRemaining),
      vmovdqu 64 0 (.sib r13 rbx 0), vmovdquTo 64 (.sib r12 rbx 0) 0,
      add rbx (.imm 64), .jmp (.simd .simdPack512bitPackLoop)]
  | .simdPack512bitPackRemaining => [
      add r13 rbx, add r12 rbx, sub r14 rbx,
      test r14 r14, .jcc .z (.simd .simdPack512bitPack512Done),
      .jmp (.simd .simdPack256bit)]
  | .simdPack512bitPack512Done => [mov rax r14, pop rbp, .ret]
  /- simd_unpack_data: RDI = dest, RSI = src, RDX = size -/
  | .simdUnpackData => [
      push rbp, mov rbp rsp, push rbx, push r12, push r13, push r14,
      mov r12 rdi, mov r13 rsi, mov r14 rdx,
      test r12 r12, .jcc .z (.simd .simdUnpackDataInvalidParam),
      test r13 r13, .jcc .z (.simd .simdUnpackDataInvalidParam),
      test r14 r14, .jcc .z (.simd .simdUnpackDataZeroSize),
      .jcc .l (.simd .simdUnpackDataInvalidParam),
      vzeroupper, xor rbx rbx]
  | .simdUnpackDataUnpackLoop => [
      mov rax r14, sub rax rbx, cmp rax (.imm 32),
      .jcc .l (.simd .simdUnpackDataUnpackRemaining),
      vmovdqu 32 0 (.sib r13 rbx 0), vmovdquTo 32 (.sib r12 rbx 0) 0,
      add rbx (.imm 32), .jmp (.simd .simdUnpackDataUnpackLoop)]
  | .simdUnpackDataUnpackRemaining => [
      mov rax r14, sub rax rbx,
      test rax rax, .jcc .z (.simd .simdUnpackDataUnpackComplete),
      mov rcx rax, mov rsi r13, add rsi rbx, mov rdi r12, add rdi rbx, repMovsb]
  | .simdUnpackDataUnpackComplete => [mov rax r14, .jmp (.simd .simdUnpackDataUnpackDone)]
  -- falls through into `.zero_size`
  | .simdUnpackDataInvalidParam => [movl rax (.imm (-1))]
  | .simdUnpackDataZeroSize => [xorl rax rax]
  | .simdUnpackDataUnpackDone => [
      vzeroupper, pop r14, pop r13, pop r12, pop rbx, pop rbp, .ret]
  /- simd_secure_memcpy: RDI = dest, RSI = src, RDX = size -/
  | .simdSecureMemcpy => [
      push rbp, mov rbp rsp, push rbx, push r12, push r13, push r14,
      mov r12 rdi, mov r13 rsi, mov r14 rdx,
      test r12 (.imm 0x1F), .jcc .nz (.simd .simdSecureMemcpyUnalignedCopy),
      test r13 (.imm 0x1F), .jcc .nz (.simd .simdSecureMemcpyUnalignedCopy)]
  | .simdSecureMemcpyAlignedCopy => [xor rbx rbx]
  | .simdSecureMemcpyMemcpyLoop => [
      mov rax r14, sub rax rbx, cmp rax (.imm 32),
      .jcc .l (.simd .simdSecureMemcpyMemcpyRemaining),
      prefetcht0 (.sib r13 rbx 256),
      .vmovdqa 32 0 (.sib r13 rbx 0), .vmovdqaTo 32 (.sib r12 rbx 0) 0,
      add rbx (.imm 32), .jmp (.simd .simdSecureMemcpyMemcpyLoop)]
  | .simdSecureMemcpyUnalignedCopy => [xor rbx rbx]
  | .simdSecureMemcpyUnalignedLoop => [
      mov rax r14, sub rax rbx, cmp rax (.imm 32),
      .jcc .l (.simd .simdSecureMemcpyMemcpyRemaining),
      vmovdqu 32 0 (.sib r13 rbx 0), vmovdquTo 32 (.sib r12 rbx 0) 0,
      add rbx (.imm 32), .jmp (.simd .simdSecureMemcpyUnalignedLoop)]
  | .simdSecureMemcpyMemcpyRemaining => [
      mov rax r14, sub rax rbx,
      test rax rax, .jcc .z (.simd .simdSecureMemcpyMemcpyDone),
      mov rcx rax, lea rsi (.sib r13 rbx 0), lea rdi (.sib r12 rbx 0), repMovsb]
  | .simdSecureMemcpyMemcpyDone => [
      mov rax r14, vzeroupper, pop r14, pop r13, pop r12, pop rbx, pop rbp, .ret]
  /- simd_zero_memory: RDI = buffer, RSI = size -/
  | .simdZeroMemory => [
      push rbp, mov rbp rsp, push rbx, push rdi, push rsi,
      test rdi rdi, .jcc .z (.simd .simdZeroMemoryZeroDone),
      test rsi rsi, .jcc .z (.simd .simdZeroMemoryZeroDone),
      vpxor 0 0 0, xor rbx rbx]
  | .simdZeroMemoryZeroLoop => [
      mov rax rsi, sub rax rbx, cmp rax (.imm 32),
      .jcc .l (.simd .simdZeroMemoryZeroRemaining),
      vmovdquTo 32 (.sib rdi rbx 0) 0,
      add rbx (.imm 32), .jmp (.simd .simdZeroMemoryZeroLoop)]
  | .simdZeroMemoryZeroRemaining => [
      mov rax rsi, sub rax rbx,
      test rax rax, .jcc .z (.simd .simdZeroMemoryZeroComplete),
      add rdi rbx, mov rcx rax, xorl rax rax, repStosb]
  | .simdZeroMemoryZeroComplete => [mov rax rsi]
  | .simdZeroMemoryZeroDone => [
      vzeroupper, pop rsi, pop rdi, pop rbx, pop rbp, .ret]
  /- simd_hash_blocks: RDI = data, RSI = size, RDX = hash output -/
  | .simdHashBlocks => [
      push rbp, mov rbp rsp, push rbx, push r12, push r13, push r14, push r15,
      mov r12 rdi, mov r13 rsi, mov r14 rdx,
      test r14 r14, .jcc .z (.simd .simdHashBlocksInvalidParam),
      test r12 r12, .jcc .z (.simd .simdHashBlocksInvalidData),
      mov r8 (.imm hashSeed0), mov r9 (.imm hashSeed1),
      mov r10 (.imm hashSeed2), mov r11 (.imm hashSeed3),
      xor r8 r13, mov rax r13, shl rax 17, xor r9 rax,
      mov r15 (.imm hashPrime), xor rbx rbx]
  | .simdHashBlocksHashLoop =>
      .op (cmp rbx r13) :: .jcc .ae (.simd .simdHashBlocksHashFinalize) ::
      (hashTurn.map .op ++ [.jmp (.simd .simdHashBlocksHashLoop)])
  | .simdHashBlocksHashFinalize => [
      mov rax r8, .call (.simd .simdHashBlocksFmix64), store (.base r14 0) rax,
      mov rax r9, .call (.simd .simdHashBlocksFmix64), store (.base r14 8) rax,
      mov rax r10, .call (.simd .simdHashBlocksFmix64), store (.base r14 16) rax,
      mov rax r11, .call (.simd .simdHashBlocksFmix64), store (.base r14 24) rax,
      xorl rax rax, .jmp (.simd .simdHashBlocksHashDone)]
  | .simdHashBlocksInvalidData => [
      test r13 r13, .jcc .z (.simd .simdHashBlocksHashZero)]
  | .simdHashBlocksInvalidParam => [
      movl rax (.imm (-1)), .jmp (.simd .simdHashBlocksHashDone)]
  | .simdHashBlocksHashZero => [
      mov rax (.imm hashSeed0), store (.base r14 0) rax,
      mov rax (.imm hashSeed1), store (.base r14 8) rax,
      mov rax (.imm hashSeed2), store (.base r14 16) rax,
      mov rax (.imm hashSeed3), store (.base r14 24) rax,
      xorl rax rax, .jmp (.simd .simdHashBlocksHashDone)]
  | .simdHashBlocksFmix64 => fmixTurn.map .op ++ [.ret]
  | .simdHashBlocksHashDone => [
      vzeroupper, pop r15, pop r14, pop r13, pop r12, pop rbx, pop rbp, .ret]
  /- check_avx512_support -/
  | .checkAvx512Support => [
      push rbx, push rcx,
      movl rax (.imm 7), movl rcx (.imm 0), cpuid,
      testl rbx (.imm 0x10000), .jcc .nz (.simd .checkAvx512SupportSupported),
      xorl rax rax, .jmp (.simd .checkAvx512SupportDone)]
  | .checkAvx512SupportSupported => [movl rax (.imm 1)]
  | .checkAvx512SupportDone => [pop rcx, pop rbx, .ret]

def simdNext : SimdLabel → Option Label
  | .simdPackData => some (.simd .simdPackDataUseAvx2)
  | .simdPackDataPackDone => some (.simd .simdPackDataPackExit)
  | .simdPack256bit => some (.simd .simdPack256bitPackLoop)
  | .simdPack256bitPackRemaining => some (.simd .simdPack256bitUseByteCopy)
  | .simdPack512bit => some (.simd .simdPack512bitPackLoop)
  | .simdUnpackData => some (.simd .simdUnpackDataUnpackLoop)
  | .simdUnpackDataUnpackRemaining => some (.simd .simdUnpackDataUnpackComplete)
  | .simdUnpackDataInvalidParam => some (.simd .simdUnpackDataZeroSize)
  | .simdUnpackDataZeroSize => some (.simd .simdUnpackDataUnpackDone)
  | .simdSecureMemcpy => some (.simd .simdSecureMemcpyAlignedCopy)
  | .simdSecureMemcpyAlignedCopy => some (.simd .simdSecureMemcpyMemcpyLoop)
  | .simdSecureMemcpyUnalignedCopy => some (.simd .simdSecureMemcpyUnalignedLoop)
  | .simdSecureMemcpyMemcpyRemaining => some (.simd .simdSecureMemcpyMemcpyDone)
  | .simdZeroMemory => some (.simd .simdZeroMemoryZeroLoop)
  | .simdZeroMemoryZeroRemaining => some (.simd .simdZeroMemoryZeroComplete)
  | .simdZeroMemoryZeroComplete => some (.simd .simdZeroMemoryZeroDone)
  | .simdHashBlocks => some (.simd .simdHashBlocksHashLoop)
  | .simdHashBlocksInvalidData => some (.simd .simdHashBlocksInvalidParam)
  | .checkAvx512Support => some (.simd .checkAvx512SupportSupported)
  | .checkAvx512SupportSupported => some (.simd .checkAvx512SupportDone)
  | _ => none

end Kernova
