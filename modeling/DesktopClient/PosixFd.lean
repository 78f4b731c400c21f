import Mathlib.Data.Multiset.Basic
import DesktopClient.Run

/-!
# `PosixFd`: the owner of a file descriptor

posix/posix_objects.h, lines 25 to 46. A `PosixFd` holds one `int`, `Invalid` when it holds nothing; its destructor
(defined elsewhere) closes what it holds. Construction from a descriptor takes it over, a move construction starts from
`Invalid` and move-assigns, and a move assignment swaps the two descriptors.

The model is a world of live objects, each named by its place in the list of live objects, and runs of constructions,
moves and destructions over it. The events are the descriptors given to `PosixFd(int)` and those held by objects when
they are destroyed. `descriptors_conserved`: the valid descriptors the live objects hold are, as a multiset, those given
to constructors less those held at a destruction. A move only ever exchanges two descriptors, so no step duplicates one
or drops one.
-/

namespace DesktopClient

namespace PosixFd

/-- `Invalid` -/
def Invalid : Int := -1

/-- `operator=(PosixFd &&other)`: `std::swap(_file, other._file)`; the `_file` of the target and of the source after. -/
def moveAssign (file other : Int) : Int × Int := (other, file)

/-- `PosixFd(PosixFd &&other) : PosixFd{} {*this = std::move(other);}`: the new object's `_file` and the source's. -/
def moveConstruct (other : Int) : Int × Int := moveAssign Invalid other

/-- The operations on the world: `PosixFd(int)`, `PosixFd()`, the move constructor from object `other`, the move
assignment of object `other` to object `self` (the same object or not), and the destructor of object `self`. -/
inductive Op where
  | construct (file : Int)
  | constructDefault
  | moveConstruct (other : Nat)
  | moveAssign (self other : Nat)
  | destroy (self : Nat)
  deriving DecidableEq, Repr

/-- A descriptor given to `PosixFd(int)`, and one held by an object when it was destroyed. -/
inductive Event where
  | passed (file : Int)
  | destroyed (file : Int)
  deriving DecidableEq, Repr

/-- One operation on the `_file`s of the live objects; `none` when it names no live object. -/
def step (files : List Int) : Op → Option (List Int × List Event)
  | .construct file => some (files ++ [file], [.passed file])
  | .constructDefault => some (files ++ [Invalid], [])
  | .moveConstruct j => files[j]?.map fun f => (files.set j (moveConstruct f).2 ++ [(moveConstruct f).1], [])
  | .moveAssign i j => files[i]?.bind fun a => files[j]?.map fun b =>
      ((files.set i (moveAssign a b).1).set j (moveAssign a b).2, [])
  | .destroy i => files[i]?.map fun f => (files.eraseIdx i, [.destroyed f])

/-- The descriptors given to `PosixFd(int)` in a run. -/
def passedFiles (evs : List Event) : List Int := evs.filterMap fun | .passed f => some f | .destroyed _ => none

/-- The descriptors held by objects when they were destroyed in a run. -/
def destroyedFiles (evs : List Event) : List Int := evs.filterMap fun | .destroyed f => some f | .passed _ => none

@[simp] theorem passedFiles_append (e e' : List Event) : passedFiles (e ++ e') = passedFiles e ++ passedFiles e' := by
  simp [passedFiles]

@[simp] theorem destroyedFiles_append (e e' : List Event) :
    destroyedFiles (e ++ e') = destroyedFiles e ++ destroyedFiles e' := by
  simp [destroyedFiles]

/-! ## One step -/

/-- Every step keeps the count of each valid descriptor: held now, plus held at a destruction, is given to a
constructor. -/
theorem count_step {files files' : List Int} {op : Op} {e : List Event} (hs : step files op = some (files', e))
    {d : Int} (hd : d ≠ Invalid) :
    files'.count d + (destroyedFiles e).count d = files.count d + (passedFiles e).count d := by
  cases op with
  | construct file => cases hs; simp [passedFiles, destroyedFiles, List.count_singleton]
  | constructDefault => cases hs; simp [passedFiles, destroyedFiles, List.count_singleton, Ne.symm hd]
  | moveConstruct j =>
    obtain ⟨f, hj, he⟩ := Option.map_eq_some'.1 hs
    cases he
    have := count_set_add hj Invalid d
    simp only [moveConstruct, moveAssign, List.count_append, List.count_singleton, beq_iff_eq, Ne.symm hd,
      if_false] at this ⊢
    simp only [passedFiles, destroyedFiles, List.filterMap_nil, List.count_nil, add_zero]
    omega
  | moveAssign i j =>
    obtain ⟨a, hi, hb⟩ := Option.bind_eq_some.1 hs
    obtain ⟨b, hj, he⟩ := Option.map_eq_some'.1 hb
    cases he
    have h₁ := count_set_add hi b d
    have hj' : (files.set i b)[j]? = some b := by
      rcases eq_or_ne i j with rfl | hij
      · exact List.getElem?_set_self (List.getElem?_eq_some_iff.1 hi).1
      · rwa [List.getElem?_set_ne hij]
    have h₂ := count_set_add hj' a d
    simp only [moveAssign, passedFiles, destroyedFiles, List.filterMap_nil, List.count_nil, add_zero,
      beq_iff_eq] at h₁ h₂ ⊢
    omega
  | destroy i =>
    obtain ⟨f, hi, he⟩ := Option.map_eq_some'.1 hs
    cases he
    have := count_eraseIdx_add hi d
    simp only [beq_iff_eq] at this
    simp only [passedFiles, destroyedFiles, List.filterMap_cons_some, List.filterMap_cons_none, List.filterMap_nil,
      Option.some.injEq, List.count_singleton, List.count_nil, beq_iff_eq, add_zero]
    omega

/-! ## Runs -/

/-- Over every run from no objects, and for every valid descriptor `d`: (1) the live objects holding `d`, and the
objects that held it when destroyed, are as many as the times `d` was given to `PosixFd(int)`; so (2) as multisets, the
valid descriptors held are those given to constructors less those held at a destruction. A move construction leaves the
source `Invalid` and a move assignment hands the target's descriptor to the source. -/
theorem descriptors_conserved {ops : List Op} {files : List Int} {evs : List Event}
    (h : runSteps step [] ops = some (files, evs)) :
    (∀ d, d ≠ Invalid → files.count d + (destroyedFiles evs).count d = (passedFiles evs).count d) ∧
      (↑(files.filter (· ≠ Invalid)) : Multiset Int) =
        ↑((passedFiles evs).filter (· ≠ Invalid)) - ↑((destroyedFiles evs).filter (· ≠ Invalid)) ∧
      (∀ f, moveConstruct f = (f, Invalid)) ∧ ∀ file other, moveAssign file other = (other, file) := by
  have hc : ∀ d, d ≠ Invalid → files.count d + (destroyedFiles evs).count d = (passedFiles evs).count d := by
    intro d hd
    simpa using runSteps_preserves
      (fun fs evs => fs.count d + (destroyedFiles evs).count d = (passedFiles evs).count d)
      (fun {fs fs' _ evs e} ih hs => by
        have := count_step hs hd
        simp only [destroyedFiles_append, passedFiles_append, List.count_append]
        omega) [] (by simp [passedFiles, destroyedFiles]) h
  refine ⟨hc, Multiset.ext.2 fun d => ?_, fun _ => rfl, fun _ _ => rfl⟩
  simp only [Multiset.coe_count, Multiset.count_sub]
  by_cases hd : d = Invalid
  · subst hd
    rw [List.count_eq_zero.2 (by simp), List.count_eq_zero.2 (by simp), List.count_eq_zero.2 (by simp)]
  · have hp := @List.count_filter _ _ _ (fun x => decide (x ≠ Invalid)) d
    rw [hp (decide_eq_true hd), hp (decide_eq_true hd), hp (decide_eq_true hd)]
    have := hc d hd
    omega

/-- Two objects swap a descriptor back and forth, one is moved into a third, one is destroyed, and one is moved onto
itself. -/
theorem descriptors_conserved_swaps :
    runSteps step [] [.construct 3, .constructDefault, .moveAssign 1 0, .moveConstruct 1, .destroy 0, .moveAssign 0 0] =
        some ([-1, 3], [.passed 3, .destroyed (-1)]) ∧
      (∀ d, d ≠ Invalid → [-1, 3].count d + (destroyedFiles [.passed 3, .destroyed (-1)]).count d =
        (passedFiles [.passed 3, .destroyed (-1)]).count d) ∧
      (↑(([-1, 3] : List Int).filter (· ≠ Invalid)) : Multiset Int) =
        ↑((passedFiles [.passed 3, .destroyed (-1)]).filter (· ≠ Invalid)) -
          ↑((destroyedFiles [.passed 3, .destroyed (-1)]).filter (· ≠ Invalid)) ∧
      (∀ f, moveConstruct f = (f, Invalid)) ∧ ∀ file other, moveAssign file other = (other, file) := by
  have h : runSteps step [] [.construct 3, .constructDefault, .moveAssign 1 0, .moveConstruct 1, .destroy 0,
      .moveAssign 0 0] = some ([-1, 3], [.passed 3, .destroyed (-1)]) := by decide
  exact ⟨h, descriptors_conserved h⟩

end PosixFd

end DesktopClient
