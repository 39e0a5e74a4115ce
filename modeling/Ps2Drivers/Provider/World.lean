import Ps2Drivers.Lib.Ensures
import Ps2Drivers.Lib.Heap
import Ps2Drivers.Provider.Requirements

/-!
# The state the image provider runs in

The six globals of `ps2_drivers_img.c`, the heap, and the library calls the provider makes.  Every
call that can fail asks `Env.ok` whether it does: the `k`-th such call of a run succeeds when
`ok k` holds, so a theorem about every `ok` is a theorem about a failure at any point.
-/

open Binary

namespace Ps2Drivers

/-! ## 1. State -/

/-- A `malloc`ed buffer: its block and the bytes stored in it. -/
structure Buffer where
  block : Nat
  bytes : Bytes
  deriving DecidableEq, Repr

/-- `struct ps2_irx_staged_module`; `none` is a `NULL` data pointer. -/
structure StagedModule where
  id : UInt32
  data : Option Buffer
  size : UInt32
  deriving DecidableEq, Repr

/-- A slot of a freshly `calloc`ed array. -/
def StagedModule.zero : StagedModule := ⟨0, none, 0⟩

/-- The allocation `g_staged_modules` points to. -/
structure StagedArray where
  block : Nat
  slots : List StagedModule
  deriving DecidableEq, Repr

/-- The globals of `ps2_drivers_img.c`; `none` is a `NULL` pointer. -/
structure Provider where
  stagedModules : Option StagedArray
  stagedCapacity : Nat
  stagedCount : Nat
  stagedBytes : Nat
  imagePath : Option Buffer
  lastRequirements : UInt32
  deriving DecidableEq, Repr

def Provider.initial : Provider := ⟨none, 0, 0, 0, none, 0⟩

/-- Nothing is staged: the guard of both staging functions. -/
def Provider.idle (p : Provider) : Prop := p.stagedModules = none ∧ p.stagedCount = 0

instance (p : Provider) : Decidable p.idle := inferInstanceAs (Decidable (_ ∧ _))

/-- The slots `g_staged_modules` points to; none when it is `NULL`. -/
def Provider.slots (p : Provider) : List StagedModule :=
  match p.stagedModules with
  | none => []
  | some array => array.slots

structure World where
  provider : Provider
  heap : Heap
  calls : Nat

def World.initial : World := ⟨Provider.initial, Heap.empty, 0⟩

/-- What the environment answers during one operation: the contents of the file a path names, the
outcome of each call that can fail, the current working directory. -/
structure Env where
  file : Bytes → Option Bytes
  ok : Nat → Bool
  getcwd : Option Bytes

def Env.allOk (env : Env) : Prop := ∀ k, env.ok k = true

inductive ImgError
  | ok
  | errArgument
  | errAlreadyStaged
  | errOpen
  | errIo
  | errFormat
  | errMissingModule
  | errCrc
  | errMemory
  | errNoSource
  | errCwd
  deriving DecidableEq, Repr

def ImgError.code : ImgError → Int
  | .ok => 0
  | .errArgument => -1
  | .errAlreadyStaged => -2
  | .errOpen => -3
  | .errIo => -4
  | .errFormat => -5
  | .errMissingModule => -6
  | .errCrc => -7
  | .errMemory => -8
  | .errNoSource => -9
  | .errCwd => -10

theorem ImgError.code_injective : Function.Injective ImgError.code := by
  intro a b h
  cases a <;> cases b <;> first | rfl | exact absurd h (by decide)

/-! ## 2. Library calls -/

abbrev ProviderM := StateM World

def succeeds (env : Env) : ProviderM Bool := fun w =>
  (env.ok w.calls, { w with calls := w.calls + 1 })

def globals : ProviderM Provider := fun w => (w.provider, w)

theorem globals_bind {α : Type} (f : Provider → ProviderM α) (w : World) :
    (globals >>= f) w = f w.provider w := rfl

def assign (f : Provider → Provider) : ProviderM Unit := fun w =>
  ((), { w with provider := f w.provider })

def allocBlock : ProviderM Nat := fun w => (w.heap.alloc.1, { w with heap := w.heap.alloc.2 })

/-- `malloc`, `calloc` and `alloc_aligned`: a fresh block, or `NULL` -/
def malloc (env : Env) : ProviderM (Option Nat) := do
  if ← succeeds env then
    return some (← allocBlock)
  else
    return none

def free (block : Nat) : ProviderM Unit := fun w => ((), { w with heap := w.heap.free block })

/-- `free(p)` of a pointer that may be `NULL` -/
def freePtr : Option Nat → ProviderM Unit
  | none => pure ()
  | some block => free block

/-- An open `FILE`: its own block and the contents it reads. -/
structure File where
  block : Nat
  contents : Bytes

def fopen (env : Env) (path : Bytes) : ProviderM (Option File) := do
  match env.file path with
  | none => return none
  | some contents =>
    if ← succeeds env then
      return some ⟨← allocBlock, contents⟩
    else
      return none

def fclose (file : File) : ProviderM Unit := free file.block

/-- `ftell` after seeking to the end: the length, or `-1` -/
def ftell (env : Env) (file : File) : ProviderM Int := do
  if ← succeeds env then
    return file.contents.length
  else
    return -1

/-- `fseek(file, offset, SEEK_SET) != 0 || fread(.., size, file) != size`: the bytes read when
neither holds -/
def seekRead (env : Env) (file : File) (offset size : Nat) : ProviderM (Option Bytes) := do
  if !(← succeeds env) then
    return none
  if !(← succeeds env) then
    return none
  let bytes := slice file.contents offset size
  if bytes.length ≠ size then
    return none
  return some bytes

/-! ## 3. What a library call does to the state -/

/-- The globals are `p` and the heap is `h₀` plus the blocks `bs`. -/
def Holds (p : Provider) (h₀ : Heap) (bs : List Nat) (w : World) : Prop :=
  w.provider = p ∧ Heap.Extends h₀ w.heap bs

section

variable {p : Provider} {h₀ : Heap} {bs : List Nat}

theorem Holds.perm {w : World} {cs : List Nat} (hw : Holds p h₀ bs w) (hp : bs.Perm cs) :
    Holds p h₀ cs w := ⟨hw.1, hw.2.perm hp⟩

/-- The order in which the blocks are listed does not matter. -/
theorem ensures_of_perm {α : Type} {cs : List Nat} {m : ProviderM α} {Q : α → World → Prop}
    (hp : bs.Perm cs) (hm : Ensures (Holds p h₀ cs) m Q) : Ensures (Holds p h₀ bs) m Q :=
  hm.imp (fun _ hw => hw.perm hp) fun _ _ h => h

theorem succeeds_ensures (env : Env) :
    Ensures (Holds p h₀ bs) (succeeds env) fun ok w =>
      (ok = false → ¬ env.allOk) ∧ Holds p h₀ bs w := by
  refine fun w hw => ⟨fun hfail hall => ?_, hw⟩
  have hok := hall w.calls
  rw [show env.ok w.calls = false from hfail] at hok
  cases hok

theorem globals_ensures :
    Ensures (Holds p h₀ bs) globals fun r w => r = p ∧ Holds p h₀ bs w := fun _ hw => ⟨hw.1, hw⟩

theorem assign_ensures (f : Provider → Provider) :
    Ensures (Holds p h₀ bs) (assign f) fun _ w => Holds (f p) h₀ bs w := fun _ hw =>
  ⟨congrArg f hw.1, hw.2⟩

theorem allocBlock_ensures :
    Ensures (Holds p h₀ bs) allocBlock fun block w => Holds p h₀ (block :: bs) w := fun _ hw =>
  ⟨hw.1, hw.2.alloc⟩

theorem malloc_ensures (env : Env) :
    Ensures (Holds p h₀ bs) (malloc env) fun r w =>
      (r = none → ¬ env.allOk) ∧ Holds p h₀ (r.toList ++ bs) w := by
  refine Ensures.bind (succeeds_ensures env) fun ok => ?_
  cases ok with
  | false => exact Ensures.ret fun w hw => ⟨fun _ => hw.1 rfl, hw.2⟩
  | true =>
    refine Ensures.bind (allocBlock_ensures.imp (fun w hw => hw.2) fun _ _ h => h) fun block => ?_
    exact Ensures.ret fun w hw => ⟨by simp, hw⟩

theorem free_ensures (block : Nat) :
    Ensures (Holds p h₀ (block :: bs)) (free block) fun _ w => Holds p h₀ bs w := fun _ hw =>
  ⟨hw.1, hw.2.free⟩

theorem freePtr_ensures (r : Option Nat) :
    Ensures (Holds p h₀ (r.toList ++ bs)) (freePtr r) fun _ w => Holds p h₀ bs w := by
  cases r with
  | none => exact fun _ hw => hw
  | some block => exact free_ensures block

theorem fopen_ensures (env : Env) (path : Bytes) :
    Ensures (Holds p h₀ bs) (fopen env path) fun r w =>
      match r with
      | none => (env.allOk → env.file path = none) ∧ Holds p h₀ bs w
      | some file => env.file path = some file.contents ∧ Holds p h₀ (file.block :: bs) w := by
  unfold fopen
  cases hfile : env.file path with
  | none => exact Ensures.ret fun w hw => ⟨fun _ => rfl, hw⟩
  | some contents =>
    refine Ensures.bind (succeeds_ensures env) fun ok => ?_
    cases ok with
    | false => exact Ensures.ret fun w hw => ⟨fun h => (hw.1 rfl h).elim, hw.2⟩
    | true =>
      refine Ensures.bind (allocBlock_ensures.imp (fun w hw => hw.2) fun _ _ h => h) fun block => ?_
      exact Ensures.ret fun w hw => ⟨rfl, hw⟩

theorem ftell_ensures (env : Env) (file : File) :
    Ensures (Holds p h₀ bs) (ftell env file) fun r w =>
      (r = file.contents.length ∨ (r = -1 ∧ ¬ env.allOk)) ∧ Holds p h₀ bs w := by
  refine Ensures.bind (succeeds_ensures env) fun ok => ?_
  cases ok with
  | false => exact Ensures.ret fun w hw => ⟨Or.inr ⟨rfl, hw.1 rfl⟩, hw.2⟩
  | true => exact Ensures.ret fun w hw => ⟨Or.inl rfl, hw.2⟩

theorem seekRead_ensures (env : Env) (file : File) (offset size : Nat) :
    Ensures (Holds p h₀ bs) (seekRead env file offset size) fun r w =>
      (match r with
        | none => env.allOk → (slice file.contents offset size).length ≠ size
        | some bytes => bytes = slice file.contents offset size ∧ bytes.length = size) ∧
      Holds p h₀ bs w := by
  refine Ensures.bind (succeeds_ensures env) fun seek => ?_
  cases seek with
  | false => exact Ensures.ret fun w hw => ⟨fun h => (hw.1 rfl h).elim, hw.2⟩
  | true =>
    simp only [Bool.not_true, Bool.false_eq_true, if_false]
    refine Ensures.bind ((succeeds_ensures env).imp (fun w hw => hw.2) fun _ _ h => h) fun read => ?_
    cases read with
    | false => exact Ensures.ret fun w hw => ⟨fun h => (hw.1 rfl h).elim, hw.2⟩
    | true =>
      simp only [Bool.not_true, Bool.false_eq_true, if_false]
      refine Ensures.branch (fun hshort => ?_) fun hfull => ?_
      · exact Ensures.ret fun w hw => ⟨fun _ => hshort, hw.2⟩
      · exact Ensures.ret fun w hw => ⟨⟨rfl, not_not.mp hfull⟩, hw.2⟩

end

end Ps2Drivers
