import DesktopClient.Theorems.Nullable

/-!
# `Comparable`: six operators from one three-way comparison

builtin/util.h, lines 668 to 686. `Comparable<T>` gives a class that defines `compare()` all six comparison operators,
each testing `compare()` against zero. Whatever `compare()` does, the operators agree with each other: `!=` is the
negation of `==`, `<=` is `<` or `==`, and `>=` and `>` are the negations of `<` and `<=`. When `compare()` is
antisymmetric, `>` is `<` with the operands swapped and `==` is symmetric, and a `nullable_t<T>` of such a `T` compares
like an `Option T`, the forms with the value first included (`nullable_comparable_agree`).
-/

namespace DesktopClient

namespace Comparable

variable {T : Type} (compare : T → T → Int)

/-- An operator of `Comparable`: `typeCompare(other)`, the derived class's `compare()`, tested against zero. -/
def byCompare (test : Int → Bool) (a b : T) : Bool := test (compare a b)

/-- `operator<`: `typeCompare(other)<0` -/
def lt : T → T → Bool := byCompare compare fun c => decide (c < 0)

/-- `operator<=`: `typeCompare(other)<=0` -/
def le : T → T → Bool := byCompare compare fun c => decide (c ≤ 0)

/-- `operator>`: `typeCompare(other)>0` -/
def gt : T → T → Bool := byCompare compare fun c => decide (c > 0)

/-- `operator>=`: `typeCompare(other)>=0` -/
def ge : T → T → Bool := byCompare compare fun c => decide (c ≥ 0)

/-- `operator==`: `typeCompare(other)==0` -/
def eq : T → T → Bool := byCompare compare fun c => decide (c = 0)

/-- `operator!=`: `typeCompare(other)!=0` -/
def ne : T → T → Bool := byCompare compare fun c => decide (c ≠ 0)

/-- The six operators agree with each other for every `compare()`; when `compare()` is antisymmetric, swapping the
operands turns `<` into `>` and keeps `==`. -/
theorem comparable_consistent (a b : T) :
    ne compare a b = !eq compare a b ∧ le compare a b = (lt compare a b || eq compare a b) ∧
      ge compare a b = !lt compare a b ∧ gt compare a b = !le compare a b ∧
      ((∀ x y, compare y x = -compare x y) → gt compare a b = lt compare b a ∧ eq compare a b = eq compare b a) := by
  simp only [lt, le, gt, ge, eq, ne, byCompare, ← decide_not, ← Bool.decide_or, decide_eq_decide]
  refine ⟨trivial, by omega, by omega, by omega, fun h => ?_⟩
  rw [h a b]
  exact ⟨by omega, by omega⟩

open Nullable in
/-- When `T`'s `==` and `!=` are those of `Comparable` and `compare()` is antisymmetric, the comparisons of
`nullable_t<T>` agree with `Option` equality and its negation in the order they are written, the forms with the value
first (`b == a`, `b != a`) included. `Comparable`'s `!=` is the negation of its `==` whatever `compare()` returns. -/
theorem nullable_comparable_agree [BEq T] (hbeq : ∀ x y, (x == y) = eq compare x y)
    (hanti : ∀ x y, compare y x = -compare x y) {a b : Nullable T} (ha : Inv a) (hb : Inv b) (v : T) :
    (∀ x y, ne compare x y = !eq compare x y) ∧
    eqNullable a b = some (toOption a == toOption b) ∧ neNullable (ne compare) a b = some !(toOption a == toOption b) ∧
      eqValue a v = some (toOption a == some v) ∧ neValue (ne compare) a v = some !(toOption a == some v) ∧
      eqValueLeft v a = some (some v == toOption a) ∧ neValueLeft (ne compare) v a = some !(some v == toOption a) := by
  have hneq : ∀ x y, ne compare x y = !eq compare x y := fun x y => (comparable_consistent compare x y).1
  have hne : ∀ x y, ne compare x y = !(x == y) := fun x y => by rw [hbeq, hneq]
  have hswap : (toOption a == some v) = (some v == toOption a) := by
    cases toOption a with
    | none => rfl
    | some x =>
      show (x == v) = (v == x)
      rw [hbeq, hbeq]
      exact ((comparable_consistent compare x v).2.2.2.2 hanti).2
  obtain ⟨h₁, h₂, h₃, h₄, h₅, h₆, -⟩ := comparisons_agree (ne compare) hne ha hb v
  exact ⟨hneq, h₁, h₂, h₃, h₄, hswap ▸ h₅, hswap ▸ h₆⟩

open Nullable in
/-- Integers compared by their difference, `nullable_t`s holding 2 and 3, and the value 3. -/
theorem nullable_comparable_agree_int :
    (∀ x y : Int, (x == y) = eq (fun x y : Int => x - y) x y) ∧ (∀ x y : Int, y - x = -(x - y)) ∧
      Inv (ofOption (some (2 : Int))) ∧ Inv (ofOption (some (3 : Int))) ∧
      (∀ x y : Int, ne (fun x y : Int => x - y) x y = !eq (fun x y : Int => x - y) x y) ∧
      eqNullable (ofOption (some (2 : Int))) (ofOption (some (3 : Int))) =
        some (toOption (ofOption (some (2 : Int))) == toOption (ofOption (some (3 : Int)))) ∧
      neNullable (ne (fun x y : Int => x - y)) (ofOption (some (2 : Int))) (ofOption (some (3 : Int))) =
        some !(toOption (ofOption (some (2 : Int))) == toOption (ofOption (some (3 : Int)))) ∧
      eqValue (ofOption (some (2 : Int))) 3 = some (toOption (ofOption (some (2 : Int))) == some 3) ∧
      neValue (ne (fun x y : Int => x - y)) (ofOption (some (2 : Int))) 3 =
        some !(toOption (ofOption (some (2 : Int))) == some 3) ∧
      eqValueLeft 3 (ofOption (some (2 : Int))) = some (some 3 == toOption (ofOption (some (2 : Int)))) ∧
      neValueLeft (ne (fun x y : Int => x - y)) 3 (ofOption (some (2 : Int))) =
        some !(some 3 == toOption (ofOption (some (2 : Int)))) := by
  have hbeq : ∀ x y : Int, (x == y) = eq (fun x y : Int => x - y) x y := fun x y => by
    show (x == y) = decide (x - y = 0)
    simp only [Int.sub_eq_zero]
    rfl
  have hanti : ∀ x y : Int, y - x = -(x - y) := fun x y => by omega
  exact ⟨hbeq, hanti, inv_ofOption _, inv_ofOption _,
    nullable_comparable_agree (fun x y : Int => x - y) hbeq hanti (inv_ofOption _) (inv_ofOption _) 3⟩

end Comparable

end DesktopClient
