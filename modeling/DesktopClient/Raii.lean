import Mathlib.Data.List.Basic
import DesktopClient.Run

/-!
# `raii_t`: four owners of a handle

builtin/util.h, lines 49 to 59 and 248 to 423. `raii_t<Handle, ...>` owns a handle and calls a free function on it
when destroyed. Its four specializations differ in where the free function is and in how they tell that they own
something. The bound kind `raii_t<Handle, FreeFnType, FreeFn>` has the function in its type and the functor kind
`raii_t<Handle, FreeFnType>` stores a functor; both keep the handle as a `get_nullable_t<Handle>` and own it while it
is not null. The pointer kind `raii_t<Handle, FreeFnType*>` and the generic kind `raii_t<Handle, int>` keep a plain
`Handle` and own it while `_free` is set; the generic one stores a `std::function` and can be built or assigned from
the other three.

`raii_t() {}` initializes nothing of its own: a scalar member is left indeterminate, and reading it is undefined. The
model keeps such a member as a `Cell`, and a member function that reads an indeterminate one ends in `none`. Which
members are scalars depends on `Handle` (`HandleType`). A handle value is `none` for `nullptr` (or a null
`nullable_t`) and `some n` for the `n`-th handle acquired. A world of live wrappers, each named by its place, runs the
constructors, the moves, `detach()` and the destructors; its events are the calls of a free function, and, for the
accounting, the handles given up by `detach()`. `step` constructs from newly acquired handles only; `fullStep` adds
the constructors from any handle value the program has, `nullptr` included, with a free function that may be null.

The constructor and the assignment from `impl::wrapped_handle<Handle>` (what `RAII_WRAP(handle)` without a free function
makes) read `move._handle`, which is private. The friend declaration meant to open it up (line 55) stands inside
`namespace impl` and is unqualified, so it names a class template `impl::raii_t` of its own, not `::raii_t`, and
neither member compiles once it is used. The model refuses them.
-/

namespace DesktopClient

namespace Raii

/-- A scalar member: indeterminate until it is first written, or a value. -/
inductive Cell (α : Type) where
  | indet
  | val (a : α)
  deriving DecidableEq, Repr

/-- Reading a member; `none` where the read is undefined. -/
def Cell.read {α : Type} : Cell α → Option α
  | .indet => none
  | .val a => some a

@[simp] theorem Cell.read_indet {α : Type} : (Cell.indet : Cell α).read = none := rfl

@[simp] theorem Cell.read_val {α : Type} (a : α) : (Cell.val a).read = some a := rfl

/-- What `Handle` is, as far as default-initialization goes: a pointer, another scalar (an `int` descriptor), or a
class type, whose default constructor gives it a value that is no acquired handle. -/
inductive HandleType where
  | pointer
  | scalar
  | klass
  deriving DecidableEq, Repr

/-- A default-initialized `get_nullable_t<Handle>`: `T*` for a pointer `Handle`, indeterminate, and otherwise a
`nullable_t<Handle>`, null. -/
def nullableDefault : HandleType → Cell (Option Nat)
  | .pointer => .indet
  | _ => .val none

/-- A default-initialized `Handle`: indeterminate for a scalar, a value that is no handle for a class type. -/
def handleDefault : HandleType → Cell (Option Nat)
  | .klass => .val none
  | _ => .indet

/-- The four specializations, as the type of a wrapper (the bound kind with its `FreeFn`). -/
inductive Kind (Fn : Type) where
  | bound (freeFn : Fn)
  | functor
  | pointer
  | generic
  deriving DecidableEq, Repr

/-- The members of a `raii_t`, by specialization: `_handle`, and `_free` for all but the bound kind. -/
inductive RaiiT (Fn : Type) where
  | bound (freeFn : Fn) (handle : Cell (Option Nat))
  | functor (handle : Cell (Option Nat)) (free : Fn)
  | pointer (handle : Cell (Option Nat)) (free : Cell (Option Fn))
  | generic (handle : Cell (Option Nat)) (free : Option Fn)
  deriving DecidableEq, Repr

/-- A call of the free function `free` on the handle value `handle`, and `detach()` on a wrapper owning `handle`. -/
inductive Event (Fn : Type) where
  | freed (free : Fn) (handle : Option Nat)
  | detached (handle : Nat)
  deriving DecidableEq, Repr

namespace RaiiT

variable {Fn : Type}

/-- The specialization of a wrapper. -/
def kind : RaiiT Fn → Kind Fn
  | bound fn _ => .bound fn
  | functor .. => .functor
  | pointer .. => .pointer
  | generic .. => .generic

/-- `raii_t()`, with `free0` what `FreeFnType`'s default constructor makes for the functor kind's `_free`. -/
def default (ht : HandleType) : Kind Fn → Fn → RaiiT Fn
  | .bound fn, _ => bound fn (nullableDefault ht)
  | .functor, free0 => functor (nullableDefault ht) free0
  | .pointer, _ => pointer (handleDefault ht) .indet
  | .generic, _ => generic (handleDefault ht) none

/-- The constructors from the newly acquired handle `n`: `raii_t(Handle handle)` of the bound kind (which
`RAII_WRAP(handle, FreeFn)` calls; it takes no `free`) and `raii_t(Handle handle, FreeFnType free)` of the others
(`raii_wrap(handle, free)` for the functor kind). -/
def ofHandle (n : Nat) : Kind Fn → Fn → RaiiT Fn
  | .bound fn, _ => bound fn (.val (some n))
  | .functor, free => functor (.val (some n)) free
  | .pointer, free => pointer (.val (some n)) (.val (some free))
  | .generic, free => generic (.val (some n)) (some free)

/-- `~raii_t()`, which each move assignment runs first. The bound and functor kinds test `_handle != nullptr` and call
the free function on `std::exchange(_handle, nullptr)`; the pointer and generic kinds test `_free` and call
`std::exchange(_free, nullptr)` on `_handle`. -/
def release : RaiiT Fn → Option (RaiiT Fn × List (Event Fn))
  | bound fn h => h.read.map fun
    | some n => (bound fn (.val none), [.freed fn (some n)])
    | none => (bound fn h, [])
  | functor h f => h.read.map fun
    | some n => (functor (.val none) f, [.freed f (some n)])
    | none => (functor h f, [])
  | pointer h fr => fr.read.bind fun
    | some f => h.read.map fun v => (pointer h (.val none), [.freed f v])
    | none => some (pointer h fr, [])
  | generic h fr => match fr with
    | some f => h.read.map fun v => (generic h none, [.freed f v])
    | none => some (generic h none, [])

/-- The same constructors from any handle value `h`, `nullptr` included, and the free function `free`, which may be
null: a `FreeFnType*` for the pointer kind, and for the generic kind what the `std::function` is built from (empty from
`nullptr`). The bound kind takes no free function, and the functor kind's has no null value here. -/
def ofValue (h : Option Nat) : Kind Fn → Option Fn → Option (RaiiT Fn)
  | .bound fn, none => some (bound fn (.val h))
  | .functor, some f => some (functor (.val h) f)
  | .pointer, free => some (pointer (.val h) (.val free))
  | .generic, free => some (generic (.val h) free)
  | _, _ => none

/-- The move constructor `raii_t(raii_t&& move)`, whose member initializers each move assignment repeats after
`release`: the new wrapper, and what `move` is left as. The bound and functor kinds take
`std::exchange(move._handle, nullptr)` and copy the functor; the pointer and generic kinds copy `move._handle` and take
`std::exchange(move._free, nullptr)`. -/
def moveOut : RaiiT Fn → Option (RaiiT Fn × RaiiT Fn)
  | bound fn h => h.read.map fun v => (bound fn (.val v), bound fn (.val none))
  | functor h f => h.read.map fun v => (functor (.val v) f, functor (.val none) f)
  | pointer h fr => h.read.bind fun v => fr.read.map fun f => (pointer (.val v) (.val f), pointer (.val v) (.val none))
  | generic h fr => h.read.map fun v => (generic (.val v) fr, generic (.val v) none)

/-- What the converting members of `raii_t<Handle, int>` take from `move` of another kind: its handle and free function
when `move` is valid (`move._handle != nullptr`, or `move._free != nullptr`), and what `move` is left as. The generic
kind is no source of theirs: its own move members are chosen. -/
def convertOut : RaiiT Fn → Option (Option (Option Nat × Fn) × RaiiT Fn)
  | bound fn h => h.read.map fun
    | some n => (some (some n, fn), bound fn (.val none))
    | none => (none, bound fn h)
  | functor h f => h.read.map fun
    | some n => (some (some n, f), functor (.val none) f)
    | none => (none, functor h f)
  | pointer h fr => fr.read.bind fun
    | some f => h.read.map fun v => (some (v, f), pointer h (.val none))
    | none => some (none, pointer h fr)
  | generic .. => none

/-- The generic wrapper `g` after the block `{ _handle = ...; _free = ...; }` of a converting member, run when `move` is
valid and its handle and free function are `t`. -/
def adopt (t : Option (Option Nat × Fn)) (g : RaiiT Fn) : RaiiT Fn :=
  (t.map fun p => generic (.val p.1) (some p.2)).getD g

/-- The converting constructors `raii_t(raii_t<Handle, ...>&& move)` of the generic kind: the new wrapper takes the
handle and the free function of a valid `move`, and is otherwise left as `raii_t()` leaves it. -/
def convert (ht : HandleType) (w : RaiiT Fn) : Option (RaiiT Fn × RaiiT Fn) :=
  (convertOut w).map fun r => (adopt r.1 (generic (handleDefault ht) none), r.2)

/-- The converting assignments `operator=(raii_t<Handle, ...>&& move)` of the generic kind `g`: `release`, then the
handle and the free function of a valid `move`; the new `g`, what `move` is left as, and the calls. The one from the
pointer kind (line 369) has no `return *this;`, and flowing off its end is undefined. -/
def convertAssign : RaiiT Fn → RaiiT Fn → Option (RaiiT Fn × RaiiT Fn × List (Event Fn))
  | g@(generic ..), w => (release g).bind fun (g', e) => (convertOut w).bind fun (t, w') =>
    match w with
    | pointer .. => none
    | _ => some (adopt t g', w', e)
  | _, _ => none

/-- `detach()`: the bound and functor kinds return `std::exchange(_handle, nullptr)`; the pointer and generic kinds set
`_free = nullptr` and return `_handle`. -/
def detach : RaiiT Fn → Option (RaiiT Fn × Option Nat)
  | bound fn h => h.read.map fun v => (bound fn (.val none), v)
  | functor h f => h.read.map fun v => (functor (.val none) f, v)
  | pointer h _ => h.read.map fun v => (pointer h (.val none), v)
  | generic h _ => h.read.map fun v => (generic h none, v)

/-- `valid()`: `_handle != nullptr` for the bound and functor kinds, `_free != nullptr` for the others. -/
def valid : RaiiT Fn → Option Bool
  | bound _ h => h.read.map Option.isSome
  | functor h _ => h.read.map Option.isSome
  | pointer _ fr => fr.read.map Option.isSome
  | generic _ fr => some fr.isSome

/-- The acquired handle a wrapper owns, the one `release` frees: its non-null `_handle` for the bound and functor kinds,
its `_handle` while `_free` is set for the others. -/
def owned : RaiiT Fn → Option Nat
  | bound _ (.val (some n)) | functor (.val (some n)) _ => some n
  | pointer (.val (some n)) (.val (some _)) | generic (.val (some n)) (some _) => some n
  | _ => none

end RaiiT

/-- The live wrappers, each named by its place, and the number of handles acquired so far. -/
structure World (Fn : Type) where
  wrappers : List (RaiiT Fn)
  next : Nat
  deriving DecidableEq, Repr

/-- No wrapper, and no handle acquired. -/
def World.init {Fn : Type} : World Fn := ⟨[], 0⟩

/-- The operations on the world. `construct0` is `raii_t()`; `construct` passes a newly acquired handle to a
constructor; `assignWrapped` is the assignment of `RAII_WRAP(handle)` to a wrapper of the bound kind, which does not
compile; `moveConstruct` and `moveAssign` are the move members of a kind (the same wrapper or not); `convertConstruct`
and `convertAssign` are the converting moves into the generic kind; then `detach()` and the destructor. -/
inductive Op (Fn : Type) where
  | construct0 (k : Kind Fn) (free0 : Fn)
  | construct (k : Kind Fn) (free : Fn)
  | assignWrapped (self : Nat)
  | moveConstruct (other : Nat)
  | moveAssign (self other : Nat)
  | convertConstruct (other : Nat)
  | convertAssign (self other : Nat)
  | detach (self : Nat)
  | destroy (self : Nat)
  deriving DecidableEq, Repr

open RaiiT

variable {Fn : Type} [DecidableEq Fn]

/-- One operation, for a `Handle` of type `ht`; `none` when it names no live wrapper, does not compile (a move
between two kinds, a converting move not into the generic kind, the assignment from a `wrapped_handle`) or is
undefined. A move assignment releases the target before it reads the source, so the source of a self-assignment is the
released wrapper. -/
def step (ht : HandleType) (s : World Fn) : Op Fn → Option (World Fn × List (Event Fn))
  | .construct0 k f => some (⟨s.wrappers ++ [default ht k f], s.next⟩, [])
  | .construct k f => some (⟨s.wrappers ++ [ofHandle s.next k f], s.next + 1⟩, [])
  | .assignWrapped _ => none
  | .moveConstruct j => s.wrappers[j]?.bind fun w => (moveOut w).map fun r =>
      (⟨s.wrappers.set j r.2 ++ [r.1], s.next⟩, [])
  | .moveAssign i j => s.wrappers[i]?.bind fun wi => s.wrappers[j]?.bind fun wj =>
      if wi.kind = wj.kind then
        (release wi).bind fun r => ((s.wrappers.set i r.1)[j]?.bind moveOut).map fun m =>
          (⟨((s.wrappers.set i r.1).set j m.2).set i m.1, s.next⟩, r.2)
      else none
  | .convertConstruct j => s.wrappers[j]?.bind fun w => (convert ht w).map fun r =>
      (⟨s.wrappers.set j r.2 ++ [r.1], s.next⟩, [])
  | .convertAssign i j => s.wrappers[i]?.bind fun wi => s.wrappers[j]?.bind fun wj =>
      (convertAssign wi wj).map fun r => (⟨(s.wrappers.set j r.2.1).set i r.1, s.next⟩, r.2.2)
  | .detach i => s.wrappers[i]?.bind fun w => (detach w).map fun r =>
      (⟨s.wrappers.set i r.1, s.next⟩, (w.owned.map .detached).toList)
  | .destroy i => s.wrappers[i]?.bind fun w => (release w).map fun r => (⟨s.wrappers.eraseIdx i, s.next⟩, r.2)

end Raii

end DesktopClient
