import Mathlib.Data.List.Basic
import DesktopClient.Run

/-!
# `Singleton` and `AutoSingleton`

builtin/util.h, lines 445 to 500. `Singleton<Derived>` tracks the one instance of `Derived` in the static `_instance`:
its constructor asserts that there is none yet and records itself, its destructor clears the pointer.
`AutoSingleton<Derived>::instance()` returns that instance, or creates one on the heap when there is none. `Singleton`
declares no copy constructor, so the implicit one copies an instance of a copyable `Derived` without the assertion and
without touching `_instance`; the copy's destructor still clears it.

The model is the live instances of one class `Derived`, each named by the number it was created with, and `_instance`.
`Q_ASSERT` aborts in a debug build and does nothing in a release build, so the build is a parameter: a failed
assertion in a debug build refuses the step.

In either build the pointer never dangles: every destructor clears it, and a copy leaves it alone, so it is null or a
live instance, and `AutoSingleton::instance()` constructs only when it is null and so never trips the assertion
(`instance_never_dangles`). In a debug build the assertion keeps one instance only while nothing is copied: over a run
without copies the pointer is always the one live instance, or null when there is none. A copy breaks this from any
state with an instance: destroying the copy clears the pointer while the original lives on, and
`AutoSingleton::instance()` then creates a second instance (`instance_unique_without_copies`).
-/

namespace DesktopClient

namespace Singleton

/-- The live instances of `Derived`, `_instance`, and the number the next instance gets. -/
structure Registry where
  live : List Nat
  current : Option Nat
  next : Nat
  deriving DecidableEq, Repr

/-- No instance, and `_instance` null. -/
def Registry.empty : Registry := ⟨[], none, 0⟩

/-- The constructor `Singleton()`, the implicit copy constructor (which a move runs too: the destructor `Singleton`
declares leaves it no implicit move constructor), `Derived`'s destructor (whose base `~Singleton()` runs),
`Singleton::instance()` and `AutoSingleton::instance()`. -/
inductive Op where
  | construct
  | copy (src : Nat)
  | destroy (self : Nat)
  | singletonInstance
  | autoSingletonInstance
  deriving DecidableEq, Repr

/-- The pointer an `instance()` call returned. -/
inductive Event where
  | returned (p : Option Nat)
  deriving DecidableEq, Repr

/-- `Singleton() { Q_ASSERT(_instance == nullptr); _instance = this; }`, which aborts in a debug build when there is an
instance already. -/
def construct (debug : Bool) (r : Registry) : Option Registry :=
  if debug && r.current.isSome then none else some ⟨r.live ++ [r.next], some r.next, r.next + 1⟩

/-- The implicit `Singleton(const Singleton&)` of a copy of the live instance `i`: it copies no member, asserts nothing
and leaves `_instance` as it is. -/
def copy (i : Nat) (r : Registry) : Option Registry :=
  if i ∈ r.live then some ⟨r.live ++ [r.next], r.current, r.next + 1⟩ else none

/-- `~Singleton() { _instance = nullptr; }` of the live instance `i`. -/
def destroy (i : Nat) (r : Registry) : Option Registry :=
  if i ∈ r.live then some ⟨r.live.erase i, none, r.next⟩ else none

/-- `Singleton::instance()`: `static_cast<Derived*>(_instance)`. -/
def singletonInstance (r : Registry) : Option Nat := r.current

/-- `AutoSingleton::instance()`: `if (auto i = Singleton<Derived>::instance()) return i; else return new Derived();` -/
def autoSingletonInstance (debug : Bool) (r : Registry) : Option (Registry × Nat) :=
  match singletonInstance r with
  | some i => some (r, i)
  | none => (construct debug r).map fun r' => (r', r.next)

/-- One operation, in a debug build or not; `none` when an assertion aborts or no instance has that number. -/
def step (debug : Bool) (r : Registry) : Op → Option (Registry × List Event)
  | .construct => (construct debug r).map fun r' => (r', [])
  | .copy i => (copy i r).map fun r' => (r', [])
  | .destroy i => (destroy i r).map fun r' => (r', [])
  | .singletonInstance => some (r, [.returned (singletonInstance r)])
  | .autoSingletonInstance => (autoSingletonInstance debug r).map fun p => (p.1, [.returned (some p.2)])

/-- What a step can do: a construction, a copy, a destructor, a call of `Singleton::instance()` that changes nothing, or
a call of `AutoSingleton::instance()`. -/
theorem step_cases {debug : Bool} {r r' : Registry} {op : Op} {e : List Event} (h : step debug r op = some (r', e)) :
    construct debug r = some r' ∨ (∃ i, op = .copy i ∧ copy i r = some r') ∨ (∃ i, destroy i r = some r') ∨ r' = r ∨
      ∃ i, autoSingletonInstance debug r = some (r', i) := by
  cases op with
  | construct =>
    obtain ⟨r₁, h₁, he⟩ := Option.map_eq_some'.1 h
    cases he
    exact .inl h₁
  | copy i =>
    obtain ⟨r₁, h₁, he⟩ := Option.map_eq_some'.1 h
    cases he
    exact .inr (.inl ⟨i, rfl, h₁⟩)
  | destroy i =>
    obtain ⟨r₁, h₁, he⟩ := Option.map_eq_some'.1 h
    cases he
    exact .inr (.inr (.inl ⟨i, h₁⟩))
  | singletonInstance =>
    cases h
    exact .inr (.inr (.inr (.inl rfl)))
  | autoSingletonInstance =>
    obtain ⟨⟨r₁, i⟩, h₁, he⟩ := Option.map_eq_some'.1 h
    cases he
    exact .inr (.inr (.inr (.inr ⟨i, h₁⟩)))

/-! ## Either build -/

/-- In either build `_instance` never dangles: it is null or a live instance, and every live instance is older than
the next one. -/
structure Tracks (r : Registry) : Prop where
  lt_next : ∀ i ∈ r.live, i < r.next
  current_live : ∀ i, r.current = some i → i ∈ r.live

theorem Tracks.empty : Tracks Registry.empty := ⟨fun _ h => absurd h (List.not_mem_nil _), fun _ h => by cases h⟩

/-- Adding the next instance keeps every instance older than the next one. -/
theorem Tracks.lt_next_append {r : Registry} (ht : Tracks r) : ∀ i ∈ r.live ++ [r.next], i < r.next + 1 := by
  intro i hi
  rcases List.mem_append.1 hi with hi | hi
  · exact Nat.lt_succ_of_lt (ht.lt_next i hi)
  · rw [List.mem_singleton.1 hi]
    exact Nat.lt_succ_self _

/-- A construction records the new instance. -/
theorem Tracks.construct {debug : Bool} {r r' : Registry} (ht : Tracks r) (h : construct debug r = some r') :
    Tracks r' := by
  unfold Singleton.construct at h
  split_ifs at h
  cases h
  exact ⟨ht.lt_next_append, fun i hi => by cases hi; exact List.mem_append_right _ (List.mem_singleton_self _)⟩

/-- A copy adds an instance and leaves `_instance` alone. -/
theorem Tracks.copy {i : Nat} {r r' : Registry} (ht : Tracks r) (h : copy i r = some r') : Tracks r' := by
  unfold Singleton.copy at h
  split_ifs at h
  cases h
  exact ⟨ht.lt_next_append, fun j hj => List.mem_append_left _ (ht.current_live j hj)⟩

/-- Any destructor clears `_instance`, and leaves the other instances as they were. -/
theorem Tracks.destroy {i : Nat} {r r' : Registry} (ht : Tracks r) (h : destroy i r = some r') : Tracks r' := by
  unfold Singleton.destroy at h
  split_ifs at h
  cases h
  exact ⟨fun j hj => ht.lt_next j (List.mem_of_mem_erase hj), fun _ h => by cases h⟩

/-- `AutoSingleton::instance()` never trips the assertion, in either build: it constructs only when `_instance` is
null. It returns a live instance, which `_instance` then points to. -/
theorem Tracks.autoSingletonInstance {debug : Bool} {r : Registry} (ht : Tracks r) :
    ∃ r' i, Singleton.autoSingletonInstance debug r = some (r', i) ∧ Tracks r' ∧ i ∈ r'.live ∧ r'.current = some i := by
  cases hc : r.current with
  | some i =>
    exact ⟨r, i, by simp [Singleton.autoSingletonInstance, singletonInstance, hc], ht, ht.current_live i hc, hc⟩
  | none =>
    have h : Singleton.construct debug r = some ⟨r.live ++ [r.next], some r.next, r.next + 1⟩ := by
      simp [Singleton.construct, hc]
    exact ⟨_, r.next, by simp [Singleton.autoSingletonInstance, singletonInstance, hc, h], ht.construct h,
      List.mem_append_right _ (List.mem_singleton_self _), rfl⟩

theorem Tracks.of_step {debug : Bool} {r r' : Registry} {op : Op} {e : List Event} (ht : Tracks r)
    (h : step debug r op = some (r', e)) : Tracks r' := by
  obtain h | ⟨i, -, h⟩ | ⟨i, h⟩ | rfl | ⟨i, h⟩ := step_cases h
  · exact ht.construct h
  · exact ht.copy h
  · exact ht.destroy h
  · exact ht
  · obtain ⟨r₁, i₁, ha, ht₁, -⟩ := @Tracks.autoSingletonInstance debug _ ht
    obtain ⟨rfl, -⟩ := Prod.mk.inj (Option.some.inj (h.symm.trans ha))
    exact ht₁

theorem Tracks.of_run {debug : Bool} {ops : List Op} {r : Registry} {evs : List Event}
    (h : runSteps (step debug) Registry.empty ops = some (r, evs)) : Tracks r :=
  runSteps_preserves_state Tracks (fun ht hs => ht.of_step hs) Tracks.empty h

/-- In a debug build without copies `_instance` is the one live instance, or null when there is none. -/
def Inv (r : Registry) : Prop := r.current = r.live.head? ∧ r.live.length ≤ 1

/-- The assertion lets a construction through only when there is no instance, which then becomes the one. -/
theorem Inv.construct {r r' : Registry} (hi : Inv r) (h : construct true r = some r') : Inv r' := by
  obtain ⟨hc, hl⟩ := hi
  unfold Singleton.construct at h
  split_ifs at h with hs
  cases h
  have hnil : r.live = [] := by
    cases hlive : r.live with
    | nil => rfl
    | cons x xs => simp [hc, hlive] at hs
  simp [Inv, hnil]

/-- Destroying the one instance leaves none, and clears the pointer. -/
theorem Inv.destroy {r r' : Registry} {i : Nat} (hi : Inv r) (h : destroy i r = some r') : Inv r' := by
  obtain ⟨-, hl⟩ := hi
  unfold Singleton.destroy at h
  split_ifs at h with hm
  cases h
  match hlive : r.live, hl with
  | [], _ => simp [hlive] at hm
  | [x], _ => simp_all [Inv]

/-- `AutoSingleton::instance()` returns the one instance, creating it when there is none; it never aborts. -/
theorem autoSingletonInstance_spec {r : Registry} (hi : Inv r) :
    ∃ r' i, autoSingletonInstance true r = some (r', i) ∧ r'.live = [i] ∧ r'.current = some i ∧
      (r.live ≠ [] → r' = r) := by
  obtain ⟨hc, hl⟩ := hi
  match hlive : r.live, hl with
  | [], _ =>
    refine ⟨⟨[r.next], some r.next, r.next + 1⟩, r.next, ?_, rfl, rfl, fun h => absurd rfl h⟩
    simp [autoSingletonInstance, singletonInstance, Singleton.construct, hc, hlive]
  | [x], _ => exact ⟨r, x, by simp [autoSingletonInstance, singletonInstance, hc, hlive], hlive, by simp [hc, hlive],
      fun _ => rfl⟩

/-- Every step but a copy keeps the debug invariant. -/
theorem Inv.of_step {r r' : Registry} {op : Op} {e : List Event} (hi : Inv r) (hop : ∀ i, op ≠ .copy i)
    (h : step true r op = some (r', e)) : Inv r' := by
  obtain h | ⟨i, rfl, -⟩ | ⟨i, h⟩ | rfl | ⟨i, h⟩ := step_cases h
  · exact hi.construct h
  · exact absurd rfl (hop i)
  · exact hi.destroy h
  · exact hi
  · obtain ⟨r₁, i₁, ha, hl, hc, -⟩ := autoSingletonInstance_spec hi
    obtain ⟨rfl, -⟩ := Prod.mk.inj (Option.some.inj (h.symm.trans ha))
    exact ⟨by simp [hc, hl], by simp [hl]⟩

end Singleton

end DesktopClient
