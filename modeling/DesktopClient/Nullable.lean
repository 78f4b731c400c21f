import Mathlib.Logic.Basic

/-!
# `nullable_t<T>`: a `T` or nothing, in storage of its own

builtin/util.h, lines 153 to 218. A `nullable_t<T>` has a slot `_data` the size of a `T` and a flag `_valid`. Its members
build a `T` in the slot with placement `new`, destroy it with `get().~T()` or assign to it, and set `_valid` beside. The
model keeps the slot as what lives in it: `some v` when a `T` of value `v` does, `none` when no `T` does. Building a `T`
in a slot where one lives, destroying or reading the `T` of a slot where none lives, is undefined behaviour, and a
member that does either ends in `fault`.

`T`'s own members are parameters (`TOps`): a constructor builds a value or throws, and an assignment gives the target's
new value and may throw after it has changed the target. Copy and move are one operation each: both leave a live `T` in
their source, and what a move leaves in it is `T`'s business. A C++ exception ends a member with the state it leaves,
so a member that throws part-way has a result like any other. A constructor of `nullable_t` that throws leaves no
object, and no destructor runs for it.
-/

namespace DesktopClient

/-- The storage of a `nullable_t<T>`: the `T` living in `_data`, if one does, and `_valid`. -/
structure Nullable (T : Type) where
  data : Option T
  valid : Bool
  deriving DecidableEq, Repr

namespace Nullable

/-- How a member call ends: normally, by an exception `e` with the state it leaves, or in undefined behaviour. -/
inductive Outcome (ε σ : Type) where
  | ok (s : σ)
  | thrown (e : ε) (s : σ)
  | fault
  deriving DecidableEq, Repr

/-- What `T`'s own members do: a copy or move construction from a value, the construction `T{}` of `emplace()`, and a
copy or move assignment of a value to a `T`, which gives the target's new value and whether it then threw. -/
structure TOps (ε T : Type) where
  construct : T → Except ε T
  construct0 : Except ε T
  assign : T → T → T × Option ε

variable {ε T : Type}

/-- The rest of a member after one of its steps, run only when the step returned normally. -/
def Outcome.andThen {σ : Type} (o : Outcome ε σ) (f : σ → Outcome ε σ) : Outcome ε σ :=
  match o with
  | .ok s => f s
  | .thrown e s => .thrown e s
  | .fault => .fault

/-- `new(_data) T(...)`, with `r` what the constructor of `T` did. -/
def placeNew (r : Except ε T) (s : Nullable T) : Outcome ε (Nullable T) :=
  match s.data, r with
  | some _, _ => .fault
  | none, .ok v => .ok { s with data := some v }
  | none, .error e => .thrown e s

/-- `get().~T()` -/
def destroyT (s : Nullable T) : Outcome ε (Nullable T) :=
  match s.data with
  | some _ => .ok { s with data := none }
  | none => .fault

/-- `get() = value`: the assignment of `T` on the `T` in the slot. -/
def assignT (S : TOps ε T) (v : T) (s : Nullable T) : Outcome ε (Nullable T) :=
  match s.data with
  | none => .fault
  | some w =>
    match S.assign w v with
    | (w', none) => .ok { s with data := some w' }
    | (w', some e) => .thrown e { s with data := some w' }

/-- `nullable_t()` and `nullable_t(const std::nullptr_t&)`: `_valid(false)`. -/
def null : Nullable T := ⟨none, false⟩

/-- `nullable_t(const T& value) : _valid(true) { new(_data) T(value); }`, and the `T&&` one. -/
def ofValue (S : TOps ε T) (v : T) : Outcome ε (Nullable T) := placeNew (S.construct v) ⟨none, true⟩

/-- `nullable_t(const nullable_t& copy) : _valid(copy._valid) { if (_valid) new(_data) T(copy.get()); }`, and the
move one. -/
def ofNullable (S : TOps ε T) (c : Nullable T) : Outcome ε (Nullable T) :=
  if c.valid then
    match c.data with
    | some v => placeNew (S.construct v) ⟨none, c.valid⟩
    | none => .fault
  else .ok ⟨none, c.valid⟩

/-- `clear() { if (_valid) { _valid = false; get().~T(); } }` -/
def clear (s : Nullable T) : Outcome ε (Nullable T) :=
  if s.valid then destroyT { s with valid := false } else .ok s

/-- `~nullable_t() { clear(); }` -/
def destroy (s : Nullable T) : Outcome ε (Nullable T) := clear s

/-- `operator=(const std::nullptr_t&) { clear(); }` -/
def assignNullptr (s : Nullable T) : Outcome ε (Nullable T) := clear s

/-- `operator=(const T& value) { if (_valid) get() = value; else { new(_data) T(value); _valid = true; } }`, and the
`T&&` one. -/
def assignValue (S : TOps ε T) (v : T) (s : Nullable T) : Outcome ε (Nullable T) :=
  if s.valid then assignT S v s
  else (placeNew (S.construct v) s).andThen fun s => .ok { s with valid := true }

/-- `operator=(const nullable_t& copy) { if (copy._valid) { *this = copy.get(); } else clear(); }`, and the move one.
For a self-assignment `copy` is the object itself. -/
def assignNullable (S : TOps ε T) (c s : Nullable T) : Outcome ε (Nullable T) :=
  if c.valid then
    match c.data with
    | some v => assignValue S v s
    | none => .fault
  else clear s

/-- `emplace(args...) { clear(); new(_data) T{args...}; _valid = true; }`, with `r` what `T{args...}` did. -/
def emplace (r : Except ε T) (s : Nullable T) : Outcome ε (Nullable T) :=
  (clear s).andThen fun s => (placeNew r s).andThen fun s => .ok { s with valid := true }

/-- `defaultConstructIfNull() { if (!_valid) { emplace(); } return get(); }` -/
def defaultConstructIfNull (S : TOps ε T) (s : Nullable T) : Outcome ε (Nullable T) :=
  if !s.valid then emplace S.construct0 s else .ok s

/-- `isNull()`, and `operator!()` -/
def isNull (s : Nullable T) : Bool := !s.valid

/-- `explicit operator bool()` -/
def toBool (s : Nullable T) : Bool := s.valid

/-- `ptr()`: `_valid ? reinterpret_cast<T*>(_data) : nullptr`, as the `T` it points to. -/
def ptr (s : Nullable T) : Option T := if s.valid then s.data else none

/-! ## Comparisons

The comparison operators read `*a`; reading a slot where no `T` lives is undefined, and the result is then `none`. -/

section Comparisons

variable [BEq T]

/-- `*a == *b` -/
def derefEq (a b : Nullable T) : Option Bool := a.data.bind fun x => b.data.map fun y => x == y

/-- `operator==(const nullable_t<T>& a, const nullable_t<U>& b) { return a ? b && *a == *b : !b; }` -/
def eqNullable (a b : Nullable T) : Option Bool :=
  if a.valid then (if b.valid then derefEq a b else some false) else some !b.valid

/-- `operator!=(const nullable_t<T>& a, const nullable_t<U>& b) { return a ? !b || *a != *b : !!b; }`, with `ne` the
`operator!=` of `T`. -/
def neNullable (ne : T → T → Bool) (a b : Nullable T) : Option Bool :=
  if a.valid then (if !b.valid then some true else a.data.bind fun x => b.data.map fun y => ne x y) else some b.valid

/-- `operator==(const nullable_t<T>& a, const U& b) { return a && *a == b; }` -/
def eqValue (a : Nullable T) (b : T) : Option Bool := if a.valid then a.data.map fun x => x == b else some false

/-- `operator==(const U& b, const nullable_t<T>& a) { return a && *a == b; }` -/
def eqValueLeft (b : T) (a : Nullable T) : Option Bool := if a.valid then a.data.map fun x => x == b else some false

/-- `operator!=(const nullable_t<T>& a, const U& b) { return !a || *a != b; }` -/
def neValue (ne : T → T → Bool) (a : Nullable T) (b : T) : Option Bool :=
  if !a.valid then some true else a.data.map fun x => ne x b

/-- `operator!=(const U& b, const nullable_t<T>& a) { return !a || *a != b; }` -/
def neValueLeft (ne : T → T → Bool) (b : T) (a : Nullable T) : Option Bool :=
  if !a.valid then some true else a.data.map fun x => ne x b

end Comparisons

/-- `operator==(const nullable_t<T>& a, const std::nullptr_t&) { return !a; }`, and the one with `nullptr` first. -/
def eqNullptr (a : Nullable T) : Bool := !a.valid

/-- `operator!=(const nullable_t<T>& a, const std::nullptr_t&) { return !!a; }`, and the one with `nullptr` first. -/
def neNullptr (a : Nullable T) : Bool := !!a.valid

end Nullable

end DesktopClient
