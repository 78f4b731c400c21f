import Mathlib.Data.List.Forall2

/-!
# `remove_nth_type`, `split_tuple` and the callback thunk

builtin/util.h, lines 80 to 148. `remove_nth_type` and `split_tuple` are functions on type lists written as partial
specializations over `std::tuple<Ts...>`: the index 0 case, and the general case that peels off the first type and
recurses on `N - 1`. A type list is a `List τ` here, and an index with no matching specialization (past the end of the
list) has no member `type`, which is `none`.

`select_callback_impl<N, Return, Args...>` is the `callback_impl` whose context type is `middle` and whose outer argument
lists are `left` and `right`. Its `_thunk` takes `LeftArgs... left, ContextArgType ctx, RightArgs... right` and calls the
wrapped `std::function<Return(LeftArgs..., RightArgs...)>` with `left..., right...`. A call binds its arguments to those
parameters by position; `β` is the type of argument values and `HasType v t` says that `v` is a value of type `t`.
-/

namespace DesktopClient

namespace TypeList

variable {τ β : Type}

/-- `remove_nth_type<N, std::tuple<Ts...>>::type` -/
def removeNthType : Nat → List τ → Option (List τ)
  | 0, _ :: ts => some ts
  | n + 1, t :: ts => (removeNthType n ts).map (t :: ·)
  | _, [] => none

/-- `split_tuple<N, std::tuple<Ts...>>`: its `left`, `middle` and `right`. -/
def splitTuple : Nat → List τ → Option (List τ × τ × List τ)
  | 0, t :: ts => some ([], t, ts)
  | n + 1, t :: ts => (splitTuple n ts).map fun s => (t :: s.1, s.2.1, s.2.2)
  | _, [] => none

/-- A `callback_impl<ContextArgType, Return, std::tuple<LeftArgs...>, std::tuple<RightArgs...>>`, by its three type
arguments that are lists of parameters (the return type plays no part here). -/
structure CallbackImpl (τ : Type) where
  contextArgType : τ
  leftArgs : List τ
  rightArgs : List τ
  deriving DecidableEq, Repr

/-- The parameters of `_thunk`: `LeftArgs... left, ContextArgType ctx, RightArgs... right`. -/
def CallbackImpl.thunkParams (c : CallbackImpl τ) : List τ := c.leftArgs ++ c.contextArgType :: c.rightArgs

/-- The parameters of the wrapped `std::function<Return(LeftArgs..., RightArgs...)>`. -/
def CallbackImpl.wrappedParams (c : CallbackImpl τ) : List τ := c.leftArgs ++ c.rightArgs

/-- A call of `_thunk` on the argument values `vs`: the values bound to `ctx`, and `left..., right...` as passed to
`fn(ctx)`. `none` when there are too few values for the parameters. -/
def CallbackImpl.thunk (c : CallbackImpl τ) (vs : List β) : Option (β × List β) :=
  match vs.drop c.leftArgs.length with
  | ctx :: right => some (ctx, vs.take c.leftArgs.length ++ right)
  | [] => none

/-- `select_callback_impl<ContextArgIndex, Return, Args...>` -/
def selectCallbackImpl (n : Nat) (args : List τ) : Option (CallbackImpl τ) :=
  (splitTuple n args).map fun s => ⟨s.2.1, s.1, s.2.2⟩

/-! ## Splitting a list -/

/-- Below the length, `split_tuple` splits the list at the index: `left` has `N` types and `left ++ [middle] ++ right`
is the list; at or past the length it has no specialization. -/
theorem splitTuple_eq : ∀ (n : Nat) (ts : List τ),
    splitTuple n ts = if h : n < ts.length then some (ts.take n, ts[n], ts.drop (n + 1)) else none
  | 0, [] => rfl
  | 0, t :: ts => by simp [splitTuple]
  | n + 1, [] => rfl
  | n + 1, t :: ts => by
    rw [splitTuple, splitTuple_eq n ts]
    by_cases h : n < ts.length <;> simp [h]

/-- `remove_nth_type` drops the type at the index, and has no `type` at or past the length. -/
theorem removeNthType_eq : ∀ (n : Nat) (ts : List τ),
    removeNthType n ts = if n < ts.length then some (ts.eraseIdx n) else none
  | 0, [] => rfl
  | 0, t :: ts => by simp [removeNthType]
  | n + 1, [] => rfl
  | n + 1, t :: ts => by
    rw [removeNthType, removeNthType_eq n ts]
    by_cases h : n < ts.length <;> simp [h]

/-- The thunk of a `callback_impl` binds a list of values typed by its parameters: it reads the context from the
place after `LeftArgs` and forwards the others, in order, typed by the wrapped function's parameters. -/
theorem thunk_of_forall₂ (HasType : β → τ → Prop) (c : CallbackImpl τ) {vs : List β}
    (hv : List.Forall₂ HasType vs c.thunkParams) :
    ∃ ctx, c.thunk vs = some (ctx, vs.eraseIdx c.leftArgs.length) ∧ vs[c.leftArgs.length]? = some ctx ∧
      HasType ctx c.contextArgType ∧ List.Forall₂ HasType (vs.eraseIdx c.leftArgs.length) c.wrappedParams := by
  have hl := List.forall₂_take_append vs _ _ hv
  obtain ⟨ctx, r, hc, hr, hdrop⟩ := List.forall₂_cons_right_iff.1 (List.forall₂_drop_append vs _ _ hv)
  have herase : vs.eraseIdx c.leftArgs.length = vs.take c.leftArgs.length ++ r := by
    rw [List.eraseIdx_eq_take_drop_succ, ← List.drop_drop, hdrop, List.drop_one, List.tail_cons]
  refine ⟨ctx, by simp [CallbackImpl.thunk, hdrop, herase], ?_, hc, herase ▸ List.rel_append hl hr⟩
  simpa [hdrop] using (List.getElem?_drop vs c.leftArgs.length 0).symm

/-- For every type list `Ts` and index `N < |Ts|`: `split_tuple<N, Ts>` has a `left` of `N` types with
`left ++ [middle] ++ right = Ts`, and `remove_nth_type<N, Ts>::type` is `left ++ right`. So the thunk of
`select_callback_impl<N, Return, Ts...>` has exactly the parameters `Ts`, reads the context from place `N` of its
arguments and forwards the others, in their order, to the wrapped function, whose parameters they fit. -/
theorem select_callback_splits (HasType : β → τ → Prop) {ts : List τ} {n : Nat} (hn : n < ts.length) :
    ∃ left middle right, splitTuple n ts = some (left, middle, right) ∧ left.length = n ∧
      left ++ [middle] ++ right = ts ∧ removeNthType n ts = some (left ++ right) ∧
      ∃ c, selectCallbackImpl n ts = some c ∧ c.thunkParams = ts ∧ c.contextArgType = ts[n] ∧
        c.wrappedParams = ts.eraseIdx n ∧
        ∀ vs : List β, List.Forall₂ HasType vs ts →
          ∃ ctx, c.thunk vs = some (ctx, vs.eraseIdx n) ∧ vs[n]? = some ctx ∧ HasType ctx ts[n] ∧
            List.Forall₂ HasType (vs.eraseIdx n) (ts.eraseIdx n) := by
  have hsplit : ts.take n ++ [ts[n]] ++ ts.drop (n + 1) = ts := by simp
  have herase : ts.eraseIdx n = ts.take n ++ ts.drop (n + 1) := List.eraseIdx_eq_take_drop_succ _ _
  have hlen : (ts.take n).length = n := by simp [hn.le]
  refine ⟨ts.take n, ts[n], ts.drop (n + 1), by simp [splitTuple_eq, hn], hlen, hsplit,
    by simp [removeNthType_eq, hn, herase], ⟨ts[n], ts.take n, ts.drop (n + 1)⟩, by simp [selectCallbackImpl,
    splitTuple_eq, hn], by simp [CallbackImpl.thunkParams], rfl, herase.symm, fun vs hv => ?_⟩
  have hv' : List.Forall₂ HasType vs (CallbackImpl.thunkParams ⟨ts[n], ts.take n, ts.drop (n + 1)⟩) := by
    simpa [CallbackImpl.thunkParams] using hv
  obtain ⟨ctx, ht, hget, hc, hw⟩ := thunk_of_forall₂ HasType _ hv'
  simp only [hlen] at ht hget hw
  exact ⟨ctx, ht, hget, hc, by simpa [CallbackImpl.wrappedParams, herase] using hw⟩

/-- Context at place 1 of three parameters, two of which share a type. -/
theorem select_callback_splits_middle :
    1 < [0, 1, 1].length ∧
      ∃ left middle right, splitTuple 1 [0, 1, 1] = some (left, middle, right) ∧ left.length = 1 ∧
        left ++ [middle] ++ right = [0, 1, 1] ∧ removeNthType 1 [0, 1, 1] = some (left ++ right) ∧
        ∃ c, selectCallbackImpl 1 [0, 1, 1] = some c ∧ c.thunkParams = [0, 1, 1] ∧ c.contextArgType = 1 ∧
          c.wrappedParams = [0, 1] ∧
          ∀ vs : List Nat, List.Forall₂ (· = ·) vs [0, 1, 1] →
            ∃ ctx, c.thunk vs = some (ctx, vs.eraseIdx 1) ∧ vs[1]? = some ctx ∧ ctx = 1 ∧
              List.Forall₂ (· = ·) (vs.eraseIdx 1) [0, 1] :=
  ⟨by decide, @select_callback_splits Nat Nat (fun v t => v = t) [0, 1, 1] 1 (by decide)⟩

end TypeList

end DesktopClient
