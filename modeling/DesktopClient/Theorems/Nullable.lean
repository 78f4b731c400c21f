import DesktopClient.Nullable

/-!
# `nullable_t<T>` keeps its `T` alive exactly while `_valid` is set, and is an `Option T`

The states the members keep are `ofOption o`: a live `T` with `_valid` set, or an empty slot with `_valid` clear. Each
member is computed on such a state once (`clear_ofOption`, `assignValue_ofOption`, ...): it returns or throws into
another such state, and never builds a `T` over a live one nor destroys or reads one that does not live. So over a
whole life of an object (`lifetime_balanced`) every `T` built in the slot is destroyed exactly once. When `T`'s members
do not throw, every member agrees with the `Option` operation under `toOption`.

The comparisons agree with `Option` equality, except that the two with the value first, `b == a` and `b != a`, compare
`*a == b` and `*a != b`: the operands of `T`'s `==` come in the other order (`eqValueLeft_asymmetric`).
-/

namespace DesktopClient

namespace Nullable

variable {ε T : Type}

/-- The storage holding `o`: a `T` of value `v` with `_valid` set for `some v`, an empty slot with `_valid` clear for
`none`. -/
def ofOption : Option T → Nullable T
  | none => ⟨none, false⟩
  | some v => ⟨some v, true⟩

/-- A `T` lives in `_data` exactly when `_valid` is set. -/
def Inv (s : Nullable T) : Prop := s.data.isSome = s.valid

/-- The abstraction `n ↦ if _valid then some (get n) else none`. -/
def toOption (s : Nullable T) : Option T := if s.valid then s.data else none

/-- A call that returns normally in a state of the invariant, whose abstraction is `x`. -/
def Outcome.Returns (o : Outcome ε (Nullable T)) (x : Option T) : Prop := ∃ s, o = .ok s ∧ Inv s ∧ toOption s = x

/-- A call that does not end in undefined behaviour, and leaves a state of the invariant whether it returns or throws. -/
def Outcome.Keeps : Outcome ε (Nullable T) → Prop
  | .ok s => Inv s
  | .thrown _ s => Inv s
  | .fault => False

/-- A constructor that builds an object of the invariant, or throws with no `T` built. -/
def Outcome.Builds : Outcome ε (Nullable T) → Prop
  | .ok s => Inv s
  | .thrown _ s => s.data = none
  | .fault => False

@[simp] theorem ofOption_data (o : Option T) : (ofOption o).data = o := by cases o <;> rfl

@[simp] theorem ofOption_valid (o : Option T) : (ofOption o).valid = o.isSome := by cases o <;> rfl

@[simp] theorem inv_ofOption (o : Option T) : Inv (ofOption o) := by cases o <;> rfl

@[simp] theorem toOption_ofOption (o : Option T) : toOption (ofOption o) = o := by cases o <;> rfl

/-- The states of the invariant are the storages of an `Option T`: the abstraction and `ofOption` are inverse. -/
theorem inv_iff {s : Nullable T} : Inv s ↔ ofOption (toOption s) = s := by
  obtain ⟨_ | v, _ | _⟩ := s <;> simp [Inv, toOption, ofOption]

/-! ## Each member on a state of the invariant -/

/-- What building `r` in an emptied slot leaves: the new `T` with `_valid` set, or, when its constructor threw, the
empty slot with `_valid` clear. -/
def built (r : Except ε T) : Outcome ε (Nullable T) :=
  match r with
  | .ok v => .ok (ofOption (some v))
  | .error e => .thrown e (ofOption none)

/-- What an assignment of `T` leaves: the `T` with its new value, live, whether it threw or not. -/
def assigned (p : T × Option ε) : Outcome ε (Nullable T) :=
  match p with
  | (w, none) => .ok (ofOption (some w))
  | (w, some e) => .thrown e (ofOption (some w))

@[simp] theorem Outcome.keeps_ok (s : Nullable T) : (Outcome.ok s : Outcome ε _).Keeps ↔ Inv s := Iff.rfl

@[simp] theorem keeps_built (r : Except ε T) : (built r).Keeps := by cases r <;> simp [built, Outcome.Keeps]

@[simp] theorem keeps_assigned (p : T × Option ε) : (assigned p).Keeps := by
  obtain ⟨w, _ | e⟩ := p <;> simp [assigned, Outcome.Keeps]

@[simp] theorem clear_ofOption (o : Option T) : clear (ofOption o) = (.ok (ofOption none) : Outcome ε _) := by
  cases o <;> rfl

@[simp] theorem emplace_ofOption (r : Except ε T) (o : Option T) : emplace r (ofOption o) = built r := by
  cases o <;> cases r <;> rfl

@[simp] theorem assignValue_ofOption (S : TOps ε T) (v : T) (o : Option T) :
    assignValue S v (ofOption o) = match o with
      | none => built (S.construct v)
      | some w => assigned (S.assign w v) := by
  cases o with
  | none => cases h : S.construct v <;> simp [assignValue, placeNew, Outcome.andThen, ofOption, built, h]
  | some w => rcases h : S.assign w v with ⟨w', _ | e⟩ <;> simp [assignValue, assignT, ofOption, assigned, h]

@[simp] theorem assignNullable_ofOption (S : TOps ε T) (c o : Option T) :
    assignNullable S (ofOption c) (ofOption o) = match c with
      | none => .ok (ofOption none)
      | some v => assignValue S v (ofOption o) := by
  cases c with
  | none => exact clear_ofOption o
  | some v => rfl

@[simp] theorem defaultConstructIfNull_ofOption (S : TOps ε T) (o : Option T) :
    defaultConstructIfNull S (ofOption o) = match o with
      | none => built S.construct0
      | some v => .ok (ofOption (some v)) := by
  cases o with
  | none => exact emplace_ofOption _ none
  | some v => rfl

/-- `ofValue` builds what an emptied slot does, except that when `T`'s constructor throws, `_valid` was set already:
no object is there for it to describe. -/
theorem ofValue_eq (S : TOps ε T) (v : T) :
    ofValue S v = match S.construct v with
      | .ok w => .ok (ofOption (some w))
      | .error e => .thrown e ⟨none, true⟩ := by
  cases h : S.construct v <;> simp [ofValue, placeNew, ofOption, h]

@[simp] theorem ofNullable_ofOption (S : TOps ε T) (c : Option T) :
    ofNullable S (ofOption c) = match c with
      | none => .ok (ofOption none)
      | some v => ofValue S v := by
  cases c <;> rfl

theorem builds_ofValue (S : TOps ε T) (v : T) : (ofValue S v).Builds := by
  rw [ofValue_eq]
  cases S.construct v <;> simp [Outcome.Builds]

/-! ## Whole lives -/

/-- The members a run calls on a live object. Another `nullable_t` that a member reads is one of the invariant, given
by its abstraction. -/
inductive Op (ε T : Type) where
  | assignNullptr
  | assignValue (v : T)
  | assignNullable (c : Option T)
  | assignSelf
  | clear
  | emplace (r : Except ε T)
  | defaultConstructIfNull

/-- The constructors: `nullable_t()` or `nullable_t(nullptr)`, from a `T`, and from another `nullable_t`. -/
inductive Ctor (T : Type) where
  | null
  | ofValue (v : T)
  | ofNullable (c : Option T)

/-- One member call. -/
def member (S : TOps ε T) : Op ε T → Nullable T → Outcome ε (Nullable T)
  | .assignNullptr, s => assignNullptr s
  | .assignValue v, s => assignValue S v s
  | .assignNullable c, s => assignNullable S (ofOption c) s
  | .assignSelf, s => assignNullable S s s
  | .clear, s => clear s
  | .emplace r, s => emplace r s
  | .defaultConstructIfNull, s => defaultConstructIfNull S s

/-- One constructor call. -/
def construct (S : TOps ε T) : Ctor T → Outcome ε (Nullable T)
  | .null => .ok null
  | .ofValue v => ofValue S v
  | .ofNullable c => ofNullable S (ofOption c)

/-- Member calls in turn, each from the state the one before left, whether it returned or threw (the exception is
caught, or unwinds to the destructor); undefined behaviour ends the run. -/
def callAll (S : TOps ε T) : List (Op ε T) → Nullable T → Outcome ε (Nullable T)
  | [], s => .ok s
  | op :: ops, s =>
    match member S op s with
    | .ok s' => callAll S ops s'
    | .thrown _ s' => callAll S ops s'
    | .fault => .fault

/-- A whole life: a constructor, member calls, and the destructor; a constructor that throws leaves no object and no
destructor runs. -/
def life (S : TOps ε T) (c : Ctor T) (ops : List (Op ε T)) : Outcome ε (Nullable T) :=
  (construct S c).andThen fun s => (callAll S ops s).andThen destroy

theorem keeps_member (S : TOps ε T) (op : Op ε T) (o : Option T) : (member S op (ofOption o)).Keeps := by
  cases op with
  | assignNullptr => simp [member, assignNullptr]
  | assignValue v => cases o <;> simp [member]
  | assignNullable c => cases c <;> cases o <;> simp [member]
  | assignSelf => cases o <;> simp [member]
  | clear => simp [member]
  | emplace r => simp [member]
  | defaultConstructIfNull => cases o <;> simp [member]

theorem builds_construct (S : TOps ε T) (c : Ctor T) : (construct S c).Builds := by
  cases c with
  | null => exact inv_ofOption none
  | ofValue v => exact builds_ofValue S v
  | ofNullable c =>
    cases c with
    | none => exact inv_ofOption none
    | some v => exact builds_ofValue S v

/-- A run of member calls from a state of the invariant returns in one. -/
theorem callAll_ofOption (S : TOps ε T) : ∀ (ops : List (Op ε T)) (o : Option T),
    ∃ o', callAll S ops (ofOption o) = .ok (ofOption o')
  | [], o => ⟨o, rfl⟩
  | op :: ops, o => by
    have hk := keeps_member S op o
    simp only [callAll]
    split
    · rename_i s' h
      rw [h, Outcome.Keeps, inv_iff] at hk
      rw [← hk]
      exact callAll_ofOption S ops _
    · rename_i s' h
      rw [h, Outcome.Keeps, inv_iff] at hk
      rw [← hk]
      exact callAll_ofOption S ops _
    · rename_i h
      rw [h] at hk
      exact hk.elim

/-- Over a whole life of a `nullable_t<T>`, whatever `T`'s members do, throwing ones included: no member builds a `T`
over a live one or destroys or reads a `T` that does not live, and the destructor leaves no `T` behind. A constructor
that throws leaves no `T`. -/
theorem lifetime_balanced (S : TOps ε T) (c : Ctor T) (ops : List (Op ε T)) :
    match life S c ops with
    | .ok s => s.data = none
    | .thrown _ s => s.data = none
    | .fault => False := by
  have hb := builds_construct S c
  unfold life
  cases h : construct S c with
  | ok s =>
    rw [h, Outcome.Builds, inv_iff] at hb
    obtain ⟨o', ho'⟩ := callAll_ofOption S ops (toOption s)
    simp only [Outcome.andThen]
    rw [← hb, ho']
    dsimp only
    rw [destroy, clear_ofOption]
    rfl
  | thrown e s => rw [h] at hb; exact hb
  | fault => rw [h] at hb; exact hb

/-- When `T`'s constructors do not throw and copy their value, and its assignment does not throw and copies the value
assigned, every member on a state of the invariant returns into one, and its abstraction is what the `Option`
operation gives. -/
theorem members_refine_option (S : TOps ε T) (hc : ∀ v, S.construct v = .ok v) (ha : ∀ w v, S.assign w v = (v, none))
    {d : T} (hd : S.construct0 = .ok d) {s : Nullable T} (hs : Inv s) (v : T) (c : Option T) :
    (assignNullptr s : Outcome ε _).Returns none ∧ (assignValue S v s).Returns (some v) ∧
      (assignNullable S (ofOption c) s).Returns c ∧ (assignNullable S s s).Returns (toOption s) ∧
      (clear s : Outcome ε _).Returns none ∧ (emplace (.ok v) s : Outcome ε _).Returns (some v) ∧
      (defaultConstructIfNull S s).Returns (some ((toOption s).getD d)) ∧ (destroy s : Outcome ε _).Returns none := by
  rw [inv_iff] at hs
  rw [← hs]
  generalize toOption s = o
  have hr : ∀ x, (Outcome.ok (ofOption x) : Outcome ε (Nullable T)).Returns x := fun x => ⟨_, rfl, by simp⟩
  refine ⟨by simpa [assignNullptr] using hr none, ?_, ?_, ?_, by simpa using hr none, by simpa using hr (some v), ?_,
    by simpa [destroy] using hr none⟩
  · cases o <;> simp [hc, ha, built, assigned, hr]
  · cases c <;> cases o <;> simp [hc, ha, built, assigned, hr]
  · cases o <;> simp [ha, assigned, hr]
  · cases o <;> simp [hd, built, hr]

/-- The constructors agree with the `Option` ones under the same conditions. -/
theorem ctors_refine_option (S : TOps ε T) (hc : ∀ v, S.construct v = .ok v) (v : T) (c : Option T) :
    (Outcome.ok null : Outcome ε (Nullable T)).Returns none ∧ (ofValue S v).Returns (some v) ∧
      (ofNullable S (ofOption c)).Returns c := by
  have hr : ∀ x, (Outcome.ok (ofOption x) : Outcome ε (Nullable T)).Returns x := fun x => ⟨_, rfl, by simp⟩
  refine ⟨hr none, by simpa [ofValue_eq, hc] using hr (some v), ?_⟩
  cases c <;> simpa [ofValue_eq, hc] using hr _

section Comparisons

variable [BEq T]

/-- On states of the invariant the comparisons never read a slot where no `T` lives, and agree with `Option` equality;
the two with the value first compare the nullable first, as `*a == b`. `ptr()`, `isNull()` and `operator bool` read
the abstraction. -/
theorem comparisons_agree (ne : T → T → Bool) (hne : ∀ x y, ne x y = !(x == y)) {a b : Nullable T} (ha : Inv a)
    (hb : Inv b) (v : T) :
    eqNullable a b = some (toOption a == toOption b) ∧ neNullable ne a b = some !(toOption a == toOption b) ∧
      eqValue a v = some (toOption a == some v) ∧ neValue ne a v = some !(toOption a == some v) ∧
      eqValueLeft v a = some (toOption a == some v) ∧ neValueLeft ne v a = some !(toOption a == some v) ∧
      eqNullptr a = (toOption a).isNone ∧ neNullptr a = (toOption a).isSome ∧
      ptr a = toOption a ∧ isNull a = (toOption a).isNone ∧ toBool a = (toOption a).isSome := by
  rw [inv_iff] at ha hb
  rw [← ha, ← hb]
  generalize toOption a = x
  generalize toOption b = y
  cases x <;> cases y <;>
    simp [eqNullable, neNullable, derefEq, eqValue, neValue, eqValueLeft, neValueLeft, eqNullptr, neNullptr, ptr,
      isNull, toBool, hne]

end Comparisons

/-- For every `T` and whatever its members do. (1) Over every whole life of a `nullable_t<T>` (a constructor, member
calls that return or throw, the destructor) no `T` is built over a live one and none is destroyed or read where none
lives, and the destructor leaves no `T`: every `T` built in `_data` is destroyed exactly once. (2) A constructor builds
an object where a `T` lives exactly when `_valid` is set, or throws with no `T` built; every member keeps that, whether
it returns or throws part-way. (3) When `T`'s members do not throw and copy their values, every constructor and member
agrees with the `Option` operation under `toOption`. (4) When `T`'s `!=` is the negation of its `==`, the comparisons
agree with `Option` equality and its negation, except that `b == a` and `b != a` with the value first compare the
nullable first; `ptr()` is the abstraction, and `isNull()` and `operator bool` say whether it is `none`. -/
theorem nullable_refines_option [BEq T] (S : TOps ε T) :
    (∀ c ops, match life S c ops with
      | .ok s => s.data = none
      | .thrown _ s => s.data = none
      | .fault => False) ∧
    (∀ c, (construct S c).Builds) ∧ (∀ op s, Inv s → (member S op s).Keeps) ∧
    ((∀ v, S.construct v = .ok v) → (∀ w v, S.assign w v = (v, none)) → ∀ d, S.construct0 = .ok d →
      ∀ s, Inv s → ∀ v c,
        (Outcome.ok null : Outcome ε (Nullable T)).Returns none ∧ (ofValue S v).Returns (some v) ∧
        (ofNullable S (ofOption c)).Returns c ∧
        (assignNullptr s : Outcome ε _).Returns none ∧ (assignValue S v s).Returns (some v) ∧
        (assignNullable S (ofOption c) s).Returns c ∧ (assignNullable S s s).Returns (toOption s) ∧
        (clear s : Outcome ε _).Returns none ∧ (emplace (.ok v) s : Outcome ε _).Returns (some v) ∧
        (defaultConstructIfNull S s).Returns (some ((toOption s).getD d)) ∧
        (destroy s : Outcome ε _).Returns none) ∧
    ∀ ne : T → T → Bool, (∀ x y, ne x y = !(x == y)) → ∀ a b, Inv a → Inv b → ∀ v,
      eqNullable a b = some (toOption a == toOption b) ∧ neNullable ne a b = some !(toOption a == toOption b) ∧
      eqValue a v = some (toOption a == some v) ∧ neValue ne a v = some !(toOption a == some v) ∧
      eqValueLeft v a = some (toOption a == some v) ∧ neValueLeft ne v a = some !(toOption a == some v) ∧
      eqNullptr a = (toOption a).isNone ∧ neNullptr a = (toOption a).isSome ∧
      ptr a = toOption a ∧ isNull a = (toOption a).isNone ∧ toBool a = (toOption a).isSome := by
  refine ⟨lifetime_balanced S, builds_construct S, fun op s hs => ?_, fun hc ha d hd s hs v c => ?_,
    fun ne hne a b ha hb v => comparisons_agree ne hne ha hb v⟩
  · rw [inv_iff] at hs
    rw [← hs]
    exact keeps_member S op _
  · exact ⟨(ctors_refine_option S hc v c).1, (ctors_refine_option S hc v c).2.1, (ctors_refine_option S hc v c).2.2,
      members_refine_option S hc ha hd hs v c⟩

/-- With an `operator==` that is not symmetric, `3 == a` for an `a` holding 5 compares `5 == 3`, where `Option`
equality compares `3 == 5`. -/
theorem eqValueLeft_asymmetric :
    ¬ ∀ (b : Nat) (a : Nullable Nat), Inv a →
      @eqValueLeft Nat ⟨fun x y => decide (x ≤ y)⟩ b a =
        some (@BEq.beq _ (@Option.instBEq Nat ⟨fun x y => decide (x ≤ y)⟩) (some b) (toOption a)) := by
  intro h
  exact absurd (h 3 (ofOption (some 5)) (inv_ofOption _)) (by decide)

end Nullable

end DesktopClient
