import Mathlib.Tactic.NormNum

/-!
# `msec` and `msec32`: millisecond counts for `QTimer`

builtin/util.h, lines 566 to 597. `msec(time)` is the count of a `std::chrono::milliseconds` as a `qint64`, and
`msec32(time)` truncates it to a `qint32` for the `QTimer` methods that take an `int`, after asserting with `Q_ASSERT`
that it fits. `Q_ASSERT` aborts in a debug build and does nothing in a release build, so the build is a parameter and
an assertion that fails in a debug build is `none`. The count of `std::chrono::milliseconds` is a signed 64-bit integer
on the platforms built for, and `static_cast<qint32>` keeps its low 32 bits.

`msec32_truncates`: a count that fits in a `qint32` comes back unchanged in either build. Any other count aborts a debug
build, and in a release build comes back wrapped modulo 2^32, which is a different number: 2^31 ms, under 25 days,
becomes -2^31.
-/

namespace DesktopClient

namespace Msec

/-- `std::numeric_limits<qint32>::min()` -/
def qint32Min : Int := -2 ^ 31

/-- `std::numeric_limits<qint32>::max()` -/
def qint32Max : Int := 2 ^ 31 - 1

/-- `Q_ASSERT(cond)` before the rest `k`: in a debug build a false `cond` aborts, in a release build it is not
evaluated. -/
def qAssert {α : Type} (debug cond : Bool) (k : Option α) : Option α := if debug && !cond then none else k

/-- `msec(time)`: `static_cast<qint64>(time.count())` -/
def msec (time : BitVec 64) : BitVec 64 := time

/-- `msec32(time)`: the two assertions on `count = msec(time)`, then `static_cast<qint32>(count)`. -/
def msec32 (debug : Bool) (time : BitVec 64) : Option (BitVec 32) :=
  let count := msec time
  qAssert debug (decide (count.toInt ≥ qint32Min)) <|
    qAssert debug (decide (count.toInt ≤ qint32Max)) <| some (count.setWidth 32)

/-- `static_cast<qint32>` of a 64-bit count is the count wrapped into `[-2^31, 2^31)`. -/
theorem toInt_setWidth_32 (x : BitVec 64) : (x.setWidth 32).toInt = x.toInt.bmod (2 ^ 32) := by
  have hx := x.isLt
  rw [BitVec.toInt_eq_toNat_cond, BitVec.toInt_eq_toNat_cond, BitVec.toNat_setWidth, Int.bmod_def]
  norm_num at hx ⊢
  split_ifs <;> omega

/-- Wrapping modulo 2^32 keeps a count exactly when it fits in a `qint32`. -/
theorem bmod_eq_self_iff (c : Int) : c.bmod (2 ^ 32) = c ↔ qint32Min ≤ c ∧ c ≤ qint32Max := by
  rw [Int.bmod_def, qint32Min, qint32Max]
  norm_num
  split_ifs <;> omega

/-- What `msec32` returns, for every count and in either build: a count that fits in a `qint32` unchanged; any other
count aborts a debug build and, in a release build, comes back wrapped modulo 2^32, which then differs from it. -/
theorem msec32_truncates (debug : Bool) (time : BitVec 64) :
    (msec32 debug time).map BitVec.toInt =
        (if qint32Min ≤ time.toInt ∧ time.toInt ≤ qint32Max then some time.toInt
          else if debug then none else some (time.toInt.bmod (2 ^ 32))) ∧
      (time.toInt.bmod (2 ^ 32) = time.toInt ↔ qint32Min ≤ time.toInt ∧ time.toInt ≤ qint32Max) := by
  refine ⟨?_, bmod_eq_self_iff _⟩
  simp only [msec32, msec, qAssert, ge_iff_le]
  by_cases hfit : qint32Min ≤ time.toInt ∧ time.toInt ≤ qint32Max
  · simp only [hfit, toInt_setWidth_32, (bmod_eq_self_iff _).2 hfit, and_self, decide_True, Bool.not_true,
      Bool.and_false, Bool.false_eq_true, if_false, if_true, Option.map_some']
  · rw [if_neg hfit]
    cases debug with
    | false => simp [toInt_setWidth_32]
    | true =>
      by_cases hmin : qint32Min ≤ time.toInt
      · simp [hmin, show ¬time.toInt ≤ qint32Max from fun h => hfit ⟨hmin, h⟩]
      · simp [hmin]

/-- Two minutes, the long interval of the example in util.h, fit; 2^31 ms wraps to -2^31 in a release build. -/
example : (msec32 true 120000#64).map BitVec.toInt = some 120000 ∧
    (msec32 false (BitVec.ofInt 64 (2 ^ 31))).map BitVec.toInt = some (-2 ^ 31) := by
  decide

end Msec

end DesktopClient
