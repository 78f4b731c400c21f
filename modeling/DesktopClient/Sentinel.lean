import Mathlib.Data.List.Count
import DesktopClient.Run

/-!
# `raii_sentinel_t`: a block run at the end of a scope

builtin/util.h, lines 241 to 246 and 426 to 442. `RAII_SENTINEL(...)` writes `auto name = raii_sentinel([&](){ ... })`,
and `raii_sentinel` returns a `raii_sentinel_t` built from the lambda; the initialization of `name` from that return
value is elided, so one sentinel holds the lambda. The destructor calls the function the sentinel holds, whatever
happened to the sentinel before: the class keeps no state that a move could clear. The move constructor moves the
function into the new sentinel and the move assignment moves it over the target's; the source keeps its moved-from
function.

The lambda `RAII_SENTINEL` writes captures by reference, and moving such a closure copies its references, so the
moved-from closure runs the same block; a function pointer is copied as well. The model's blocks are values of this
kind: a move copies them. It does not cover a `FnType` whose move empties the source, such as `std::function` in
practice, where the moved-from sentinel's destructor would call an empty function and throw `std::bad_function_call`
out of a destructor, which terminates. Nor does every `FnType` allow every
operation: the copy assignment of a closure with a capture is deleted, so the move assignment of the sentinel that
`RAII_SENTINEL` makes does not compile, and its runs are those without `moveAssign`. A world of live sentinels, each
named by its place, runs the four operations.

`invocations_balance` counts a block's calls in every run: one for each sentinel that holds it when destroyed, so one
for each `raii_sentinel` call and each move construction from a sentinel holding it, less those a move assignment
overwrote. A block is called once only when it is never moved (`moved_sentinel_runs_twice`).
-/

namespace DesktopClient

namespace Sentinel

variable {B : Type} [DecidableEq B]

/-- The operations: `raii_sentinel(fn)` (the initialization it returns into elided), the move constructor from sentinel
`other`, the move assignment of sentinel `other` to sentinel `self` (the same one or not), and the destructor. -/
inductive Op (B : Type) where
  | sentinel (fn : B)
  | moveConstruct (other : Nat)
  | moveAssign (self other : Nat)
  | destroy (self : Nat)
  deriving DecidableEq, Repr

/-- A sentinel made for `fn`, a move construction from a sentinel holding `fn`, a move assignment of a sentinel holding
`fn` over one holding `old`, and a call of `fn` by a destructor. -/
inductive Event (B : Type) where
  | made (fn : B)
  | copied (fn : B)
  | assigned (old fn : B)
  | invoked (fn : B)
  deriving DecidableEq, Repr

/-- One operation on the `_fn`s of the live sentinels; `none` when it names no live sentinel. -/
def step (fns : List B) : Op B → Option (List B × List (Event B))
  | .sentinel fn => some (fns ++ [fn], [.made fn])
  | .moveConstruct j => fns[j]?.map fun fn => (fns ++ [fn], [.copied fn])
  | .moveAssign i j => fns[i]?.bind fun old => fns[j]?.map fun fn => (fns.set i fn, [.assigned old fn])
  | .destroy i => fns[i]?.map fun fn => (fns.eraseIdx i, [.invoked fn])

/-- The event is a move assignment over a sentinel holding `b`. -/
def Event.overwrites (b : B) : Event B → Bool
  | .assigned old _ => old = b
  | _ => false

/-- The event is a move assignment from a sentinel holding `b`. -/
def Event.assignsFrom (b : B) : Event B → Bool
  | .assigned _ fn => fn = b
  | _ => false

@[simp] theorem Event.overwrites_assigned (b old fn : B) : Event.overwrites b (.assigned old fn) = decide (old = b) :=
  rfl

@[simp] theorem Event.assignsFrom_assigned (b old fn : B) : Event.assignsFrom b (.assigned old fn) = decide (fn = b) :=
  rfl

@[simp] theorem Event.overwrites_made (b fn : B) : Event.overwrites b (.made fn) = false := rfl

@[simp] theorem Event.overwrites_copied (b fn : B) : Event.overwrites b (.copied fn) = false := rfl

@[simp] theorem Event.overwrites_invoked (b fn : B) : Event.overwrites b (.invoked fn) = false := rfl

@[simp] theorem Event.assignsFrom_made (b fn : B) : Event.assignsFrom b (.made fn) = false := rfl

@[simp] theorem Event.assignsFrom_copied (b fn : B) : Event.assignsFrom b (.copied fn) = false := rfl

@[simp] theorem Event.assignsFrom_invoked (b fn : B) : Event.assignsFrom b (.invoked fn) = false := rfl

/-- What a step changes in the count of sentinels holding `b`, and the events that say so. -/
theorem count_step {fns fns' : List B} {op : Op B} {e : List (Event B)} (hs : step fns op = some (fns', e)) (b : B) :
    e.count (.invoked b) + fns'.count b + e.countP (Event.overwrites b) =
      fns.count b + e.count (.made b) + e.count (.copied b) + e.countP (Event.assignsFrom b) := by
  cases op with
  | sentinel fn => cases hs; simp [List.count_singleton]
  | moveConstruct j =>
    obtain ⟨fn, -, he⟩ := Option.map_eq_some'.1 hs
    cases he
    simp [List.count_singleton]
  | moveAssign i j =>
    obtain ⟨old, hi, hb⟩ := Option.bind_eq_some.1 hs
    obtain ⟨fn, -, he⟩ := Option.map_eq_some'.1 hb
    cases he
    have := count_set_add hi fn b
    simp only [beq_iff_eq] at this
    simp only [List.count_singleton, beq_iff_eq, reduceCtorEq, if_false, List.countP_cons, List.countP_nil,
      Event.overwrites_assigned, Event.assignsFrom_assigned, decide_eq_true_eq]
    omega
  | destroy i =>
    obtain ⟨fn, hi, he⟩ := Option.map_eq_some'.1 hs
    cases he
    have := count_eraseIdx_add hi b
    simp only [beq_iff_eq] at this
    simp only [List.count_singleton, beq_iff_eq, Event.invoked.injEq, reduceCtorEq, if_false, List.countP_cons,
      List.countP_nil, Event.overwrites_invoked, Event.assignsFrom_invoked, Bool.false_eq_true]
    omega

/-- Over every run from no sentinels and for every block `b`: the calls of `b`, with the live sentinels holding `b` and
the move assignments over one holding `b`, are the `raii_sentinel(b)` calls, the move constructions from a sentinel
holding `b` and the move assignments from one. A destructor calls the block of a moved-from sentinel as of any other.
So when every sentinel has been destroyed and none was moved, `b` is called once for each `raii_sentinel(b)`. The
blocks are those a move copies (the closure of `RAII_SENTINEL`, a function pointer); for the closure of
`RAII_SENTINEL`, which cannot be assigned, the runs are those without `moveAssign`. -/
theorem invocations_balance {ops : List (Op B)} {fns : List B} {evs : List (Event B)}
    (h : runSteps step [] ops = some (fns, evs)) (b : B) :
    evs.count (.invoked b) + fns.count b + evs.countP (Event.overwrites b) =
        evs.count (.made b) + evs.count (.copied b) + evs.countP (Event.assignsFrom b) ∧
      (fns = [] → (∀ e ∈ evs, ∀ c, e ≠ .copied c) → (∀ e ∈ evs, ∀ o c, e ≠ .assigned o c) →
        evs.count (.invoked b) = evs.count (.made b)) := by
  have hb : evs.count (.invoked b) + fns.count b + evs.countP (Event.overwrites b) =
      evs.count (.made b) + evs.count (.copied b) + evs.countP (Event.assignsFrom b) := by
    simpa using runSteps_preserves
      (fun fs evs => evs.count (.invoked b) + fs.count b + evs.countP (Event.overwrites b) =
        evs.count (.made b) + evs.count (.copied b) + evs.countP (Event.assignsFrom b))
      (fun {fs fs' _ evs e} ih hs => by
        have := count_step hs b
        simp only [List.count_append, List.countP_append]
        omega) [] (by simp) h
  refine ⟨hb, fun hf hc ha => ?_⟩
  have h0 : evs.count (.copied b) = 0 := List.count_eq_zero.2 fun hm => hc _ hm b rfl
  have hno : ∀ p : Event B → Bool, (∀ e, p e = true → ∃ o c, e = .assigned o c) → evs.countP p = 0 :=
    fun p hp => List.countP_eq_zero.2 fun e he hpe => by
      obtain ⟨o, c, rfl⟩ := hp e hpe
      exact ha _ he o c rfl
  have h1 := hno (Event.assignsFrom b) fun e => by cases e <;> simp
  have h2 := hno (Event.overwrites b) fun e => by cases e <;> simp
  subst hf
  simp only [List.count_nil, h0, h1, h2] at hb
  omega

/-- A sentinel moved into a second one: both destructors call the block. -/
theorem invocations_balance_moved :
    runSteps step [] [.sentinel 0, .moveConstruct 0, .destroy 1, .destroy 0] =
        some ([], [.made 0, .copied 0, .invoked 0, .invoked 0]) ∧
      (([.made 0, .copied 0, .invoked 0, .invoked 0] : List (Event Nat)).count (.invoked 0) + ([] : List Nat).count 0 +
          ([.made 0, .copied 0, .invoked 0, .invoked 0] : List (Event Nat)).countP (Event.overwrites 0) =
        ([.made 0, .copied 0, .invoked 0, .invoked 0] : List (Event Nat)).count (.made 0) +
          ([.made 0, .copied 0, .invoked 0, .invoked 0] : List (Event Nat)).count (.copied 0) +
          ([.made 0, .copied 0, .invoked 0, .invoked 0] : List (Event Nat)).countP (Event.assignsFrom 0) ∧
      (([] : List Nat) = [] → (∀ e ∈ ([.made 0, .copied 0, .invoked 0, .invoked 0] : List (Event Nat)), ∀ c,
          e ≠ .copied c) → (∀ e ∈ ([.made 0, .copied 0, .invoked 0, .invoked 0] : List (Event Nat)), ∀ o c,
          e ≠ .assigned o c) →
        ([.made 0, .copied 0, .invoked 0, .invoked 0] : List (Event Nat)).count (.invoked 0) =
          ([.made 0, .copied 0, .invoked 0, .invoked 0] : List (Event Nat)).count (.made 0))) := by
  have h : runSteps step [] [.sentinel 0, .moveConstruct 0, .destroy 1, .destroy 0] =
      some ([], [.made 0, .copied 0, .invoked 0, .invoked 0]) := by decide
  exact ⟨h, invocations_balance h 0⟩

/-- A sentinel moved once before the two scopes end: the block runs twice, once from the moved-from sentinel. -/
theorem moved_sentinel_runs_twice :
    ¬ ∀ (ops : List (Op Nat)) (fns : List Nat) (evs : List (Event Nat)) (b : Nat),
        runSteps step [] ops = some (fns, evs) → fns = [] → evs.count (.made b) = 1 →
          evs.count (.invoked b) = 1 := by
  intro h
  have := h [.sentinel 0, .moveConstruct 0, .destroy 1, .destroy 0] [] [.made 0, .copied 0, .invoked 0, .invoked 0] 0
    (by decide) rfl (by decide)
  exact absurd this (by decide)

end Sentinel

end DesktopClient
