import DesktopClient.Raii

/-!
# Every acquired handle has one owner and is freed once

The accounting is per handle `n`: the live wrappers owning `n`, the calls of a free function on `n` and the `detach()`s
that gave `n` up add up to one once `n` is acquired, and to zero before (`StepOk.balance` for one step, from
`step_spec`, and `Inv` for a run). Each member is computed once against `owned` (`release_spec`, `moveOut_spec`, ...),
and a free function is only ever called by `release`, on the handle the wrapper owns. A wrapper of the pointer or
generic kind with `_free` set always holds an acquired handle (`WF`), which every member keeps.

This holds of every run that stays defined. `raii_t() {}` leaves `_free` of the pointer kind indeterminate, and
`_handle` of every kind when `Handle` is a scalar (for the bound and functor kinds, a pointer), so its destructor is
undefined where the generic kind's is not; the converting assignment from the pointer kind is undefined as a whole.
-/

namespace DesktopClient

namespace Raii

variable {Fn : Type}

/-- The event is a call of a free function on the handle `n`. -/
def Event.frees (n : Nat) : Event Fn → Bool
  | .freed _ h => h = some n
  | .detached _ => false

namespace RaiiT

/-- A wrapper of the pointer or generic kind whose `_free` is set holds an acquired handle: it never calls its free
function on `nullptr` or on an indeterminate `_handle`. -/
def WF : RaiiT Fn → Prop
  | pointer h (.val (some _)) | generic h (some _) => ∃ n, h = .val (some n)
  | _ => True

/-- `release` leaves a wrapper owning nothing, and its only call is of a free function on the handle it owned. -/
theorem release_spec {w w' : RaiiT Fn} {e : List (Event Fn)} (hw : w.WF) (h : release w = some (w', e)) :
    w'.owned = none ∧ w'.WF ∧ w'.kind = w.kind ∧ (∀ ev ∈ e, ∃ f n, ev = .freed f (some n) ∧ w.owned = some n) ∧
      ∀ n, e.countP (Event.frees n) = if w.owned = some n then 1 else 0 := by
  rcases w with ⟨fn, _ | _ | n⟩ | ⟨_ | _ | n, f⟩ | ⟨_ | _ | v, _ | _ | f⟩ | ⟨_ | _ | v, _ | f⟩ <;>
    simp [release, WF] at h hw <;> obtain ⟨rfl, rfl⟩ := h <;> simp [owned, WF, kind, Event.frees, List.countP_cons]

/-- A move gives the new wrapper what the source owned and leaves the source owning nothing. -/
theorem moveOut_spec {w new src : RaiiT Fn} (hw : w.WF) (h : moveOut w = some (new, src)) :
    new.owned = w.owned ∧ src.owned = none ∧ new.WF ∧ src.WF := by
  rcases w with ⟨fn, _ | _ | n⟩ | ⟨_ | _ | n, f⟩ | ⟨_ | _ | v, _ | _ | f⟩ | ⟨_ | _ | v, _ | f⟩ <;>
    simp [moveOut, WF] at h hw <;> obtain ⟨rfl, rfl⟩ := h <;> simp [owned, WF]

/-- A converting member leaves `move` owning nothing, and the generic wrapper, which owned nothing before, owns what
`move` owned. -/
theorem convertOut_spec {w src : RaiiT Fn} {t : Option (Option Nat × Fn)} (hw : w.WF)
    (h : convertOut w = some (t, src)) :
    w.valid = some t.isSome ∧ src.owned = none ∧ src.WF ∧
      ∀ g : RaiiT Fn, g.owned = none → g.WF → (adopt t g).owned = w.owned ∧ (adopt t g).WF := by
  rcases w with ⟨fn, _ | _ | n⟩ | ⟨_ | _ | n, f⟩ | ⟨_ | _ | v, _ | _ | f⟩ | ⟨_ | _ | v, _ | f⟩ <;>
    simp [convertOut, WF] at h hw <;> obtain ⟨rfl, rfl⟩ := h <;> simp_all [valid, owned, WF, adopt]

/-- `detach()` leaves a wrapper owning nothing. -/
theorem detach_spec {w w' : RaiiT Fn} {v : Option Nat} (hw : w.WF) (h : detach w = some (w', v)) :
    w'.owned = none ∧ w'.WF := by
  rcases w with ⟨fn, _ | _ | n⟩ | ⟨_ | _ | n, f⟩ | ⟨_ | _ | v, _ | _ | f⟩ | ⟨_ | _ | v, _ | f⟩ <;>
    simp [detach, WF] at h hw <;> obtain ⟨rfl, rfl⟩ := h <;> simp [owned, WF]

/-- `raii_t()` owns nothing. -/
theorem default_spec (ht : HandleType) (k : Kind Fn) (f : Fn) : (default ht k f).owned = none ∧ (default ht k f).WF := by
  cases k <;> cases ht <;> simp [default, nullableDefault, handleDefault, owned, WF]

/-- A constructor from a handle owns it. -/
theorem ofHandle_spec (n : Nat) (k : Kind Fn) (f : Fn) : (ofHandle n k f).owned = some n ∧ (ofHandle n k f).WF := by
  cases k <;> simp [ofHandle, owned, WF]

/-- `valid()` of the generic kind is defined, and says whether the wrapper owns a handle. -/
theorem valid_of_generic {w : RaiiT Fn} (hk : w.kind = .generic) (hw : w.WF) : w.valid = some w.owned.isSome := by
  rcases w with _ | _ | _ | ⟨_ | _ | v, _ | f⟩ <;> simp_all [kind, valid, owned, WF]

/-- The generic wrapper after a converting member is valid exactly when `move` was, given it was not before. -/
theorem adopt_valid (t : Option (Option Nat × Fn)) {g : RaiiT Fn} (hg : g.valid = some false) :
    (adopt t g).valid = some t.isSome := by
  cases t with
  | none => exact hg
  | some p => rfl

/-- A converting constructor keeps `valid()` and the owned handle, and leaves `move` owning nothing. -/
theorem convert_spec (ht : HandleType) {w new src : RaiiT Fn} (hw : w.WF) (h : convert ht w = some (new, src)) :
    new.valid = w.valid ∧ new.owned = w.owned ∧ src.owned = none ∧ new.WF ∧ src.WF := by
  simp only [convert, Option.map_eq_some'] at h
  obtain ⟨⟨t, w'⟩, hc, he⟩ := h
  cases he
  obtain ⟨hv, hs, hswf, hadopt⟩ := convertOut_spec hw hc
  have hg := hadopt (generic (handleDefault ht) none) (by cases ht <;> rfl) trivial
  have hd : (generic (handleDefault ht) none : RaiiT Fn).valid = some false := rfl
  exact ⟨by rw [hv, adopt_valid t hd], hg.1, hs, hg.2, hswf⟩

/-- No wrapper is converted into itself: the target of a converting assignment is of the generic kind, its source is
not. -/
theorem convertAssign_self (w : RaiiT Fn) : convertAssign w w = none := by
  rcases w with _ | _ | _ | ⟨h, fr⟩ <;> simp [convertAssign, convertOut]

/-- A converting assignment into `g`: its calls are those of `release` on `g`; `g` then owns what `move` owned and has
its `valid()`, and `move` owns nothing. -/
theorem convertAssign_spec {g w g' w' : RaiiT Fn} {e : List (Event Fn)} (hg : g.WF) (hw : w.WF)
    (h : convertAssign g w = some (g', w', e)) :
    g'.owned = w.owned ∧ g'.valid = w.valid ∧ w'.owned = none ∧ g'.WF ∧ w'.WF ∧
      (∀ ev ∈ e, ∃ f n, ev = .freed f (some n) ∧ g.owned = some n) ∧
      ∀ n, e.countP (Event.frees n) = if g.owned = some n then 1 else 0 := by
  rcases g with _ | _ | _ | ⟨gh, gf⟩ <;> simp only [convertAssign, Option.bind_eq_some, reduceCtorEq] at h
  obtain ⟨⟨g₁, e₁⟩, hr, ⟨t, w₁⟩, hc, hm⟩ := h
  obtain ⟨hg₁, hg₁wf, hk, hev, hcount⟩ := release_spec hg hr
  obtain ⟨hv, hw₁, hw₁wf, hadopt⟩ := convertOut_spec hw hc
  have hvalid : g₁.valid = some false := by rw [valid_of_generic hk hg₁wf, hg₁]; rfl
  rcases w with _ | _ | _ | _ <;> simp only [Option.some.injEq, Prod.mk.injEq, reduceCtorEq] at hm <;>
    obtain ⟨rfl, rfl, rfl⟩ := hm <;>
    exact ⟨(hadopt g₁ hg₁ hg₁wf).1, by rw [hv, adopt_valid t hvalid], hw₁, (hadopt g₁ hg₁ hg₁wf).2, hw₁wf, hev, hcount⟩

end RaiiT

open RaiiT

/-! ## The world -/

/-- How many of the wrappers `ws` own the handle `n`. -/
def held (ws : List (RaiiT Fn)) (n : Nat) : Nat := (ws.map owned).count (some n)

@[simp] theorem held_append (ws : List (RaiiT Fn)) (w : RaiiT Fn) (n : Nat) :
    held (ws ++ [w]) n = held ws n + if w.owned = some n then 1 else 0 := by
  simp [held, List.count_singleton]

/-- Replacing the wrapper at a place changes who owns `n` by what left and what came. -/
theorem held_set {ws : List (RaiiT Fn)} {i : Nat} {w : RaiiT Fn} (hi : ws[i]? = some w) (x : RaiiT Fn) (n : Nat) :
    held (ws.set i x) n + (if w.owned = some n then 1 else 0) = held ws n + if x.owned = some n then 1 else 0 := by
  have hm : (ws.map owned)[i]? = some w.owned := by simp [hi]
  simpa [held] using count_set_add hm x.owned (some n)

/-- Destroying the wrapper at a place takes away what it owned. -/
theorem held_eraseIdx {ws : List (RaiiT Fn)} {i : Nat} {w : RaiiT Fn} (hi : ws[i]? = some w) (n : Nat) :
    held (ws.eraseIdx i) n + (if w.owned = some n then 1 else 0) = held ws n := by
  have hm : (ws.map owned)[i]? = some w.owned := by simp [hi]
  have he : (ws.eraseIdx i).map owned = (ws.map owned).eraseIdx i := by
    simp [List.eraseIdx_eq_take_drop_succ, List.map_take, List.map_drop]
  simpa [held, he] using count_eraseIdx_add hm (some n)

/-- Replacing a wrapper by a well-formed one keeps every wrapper well formed. -/
theorem wf_set {ws : List (RaiiT Fn)} (hwf : ∀ w ∈ ws, w.WF) {x : RaiiT Fn} (hx : x.WF) (i : Nat) :
    ∀ w ∈ ws.set i x, w.WF := fun w hw => (List.mem_or_eq_of_mem_set hw).elim (hwf w) (· ▸ hx)

/-- Adding a well-formed wrapper keeps every wrapper well formed. -/
theorem wf_append {ws : List (RaiiT Fn)} (hwf : ∀ w ∈ ws, w.WF) {x : RaiiT Fn} (hx : x.WF) :
    ∀ w ∈ ws ++ [x], w.WF := fun w hw => (List.mem_append.1 hw).elim (hwf w) fun h => (List.mem_singleton.1 h) ▸ hx

/-- The calls of `release` on a live wrapper are on a handle a live wrapper owns. -/
theorem frees_of_release {ws : List (RaiiT Fn)} {w : RaiiT Fn} {e : List (Event Fn)} (hw : w ∈ ws)
    (hev : ∀ ev ∈ e, ∃ f n, ev = .freed f (some n) ∧ w.owned = some n) :
    ∀ ev ∈ e, ∀ f h, ev = .freed f h → ∃ n, h = some n ∧ ∃ w ∈ ws, w.owned = some n := by
  intro ev hm f h he
  obtain ⟨f', n, rfl, hn⟩ := hev ev hm
  cases he
  exact ⟨n, rfl, w, hw, hn⟩

variable [DecidableEq Fn]

/-- Events that are all calls of free functions contain no `detach()`. -/
theorem count_detached_eq_zero {e : List (Event Fn)} {P : Nat → Prop}
    (hev : ∀ ev ∈ e, ∃ f n, ev = .freed f (some n) ∧ P n) (m : Nat) : e.count (.detached m) = 0 :=
  List.count_eq_zero.2 fun hm => by
    obtain ⟨f, n, h, -⟩ := hev _ hm
    cases h

/-- What a step from `s` to `s'` with the events `e` keeps: every wrapper is well formed; each call of a free function
is on a handle a live wrapper owned; and per handle `n`, what the wrappers own of `n`, with the calls on `n` and the
`detach()`s giving it up, grows only by the handle the step acquired. -/
structure StepOk (s s' : World Fn) (e : List (Event Fn)) : Prop where
  wf : ∀ w ∈ s'.wrappers, w.WF
  next_le : s.next ≤ s'.next
  frees : ∀ ev ∈ e, ∀ f h, ev = .freed f h → ∃ n, h = some n ∧ ∃ w ∈ s.wrappers, w.owned = some n
  balance : ∀ n, held s'.wrappers n + e.countP (Event.frees n) + e.count (.detached n) +
    (if n < s.next then 1 else 0) = held s.wrappers n + if n < s'.next then 1 else 0

/-- Every defined step from well-formed wrappers is one of `StepOk`. -/
theorem step_spec {ht : HandleType} {s s' : World Fn} {op : Op Fn} {e : List (Event Fn)}
    (hwf : ∀ w ∈ s.wrappers, w.WF) (hs : step ht s op = some (s', e)) : StepOk s s' e := by
  cases op with
  | construct0 k f =>
    simp only [step, Option.some.injEq, Prod.mk.injEq] at hs
    obtain ⟨rfl, rfl⟩ := hs
    obtain ⟨hown, hdwf⟩ := default_spec ht k f
    exact ⟨wf_append hwf hdwf, le_refl _, by simp, fun n => by simp [hown]⟩
  | construct k f =>
    simp only [step, Option.some.injEq, Prod.mk.injEq] at hs
    obtain ⟨rfl, rfl⟩ := hs
    obtain ⟨hown, hdwf⟩ := ofHandle_spec s.next k f
    refine ⟨wf_append hwf hdwf, Nat.le_succ _, by simp, fun n => ?_⟩
    simp only [held_append, hown, Option.some.injEq, List.countP_nil, List.count_nil]
    split_ifs <;> omega
  | assignWrapped _ => cases hs
  | moveConstruct j =>
    simp only [step, Option.bind_eq_some, Option.map_eq_some'] at hs
    obtain ⟨w, hj, ⟨new, src⟩, hm, he⟩ := hs
    cases he
    obtain ⟨hn, hsrc, hnwf, hswf⟩ := moveOut_spec (hwf w (List.getElem?_mem hj)) hm
    refine ⟨wf_append (wf_set hwf hswf j) hnwf, le_refl _, by simp, fun n => ?_⟩
    have h₁ := held_set hj src n
    simp only [hsrc, reduceCtorEq, if_false] at h₁
    simp only [held_append, hn, List.countP_nil, List.count_nil]
    omega
  | moveAssign i j =>
    simp only [step, Option.bind_eq_some, Option.map_eq_some'] at hs
    obtain ⟨wi, hi, wj, hj, hs⟩ := hs
    split_ifs at hs
    simp only [Option.bind_eq_some, Option.map_eq_some'] at hs
    obtain ⟨⟨wi', e'⟩, hr, ⟨new, src⟩, ⟨wj', hj', hm⟩, he⟩ := hs
    cases he
    obtain ⟨hwi', hwi'wf, -, hev, hcount⟩ := release_spec (hwf wi (List.getElem?_mem hi)) hr
    have hwf₁ := wf_set hwf hwi'wf i
    obtain ⟨hn, hsrc, hnwf, hswf⟩ := moveOut_spec (hwf₁ wj' (List.getElem?_mem hj')) hm
    -- the target is released before the source is read, so after the source is left empty the target owns nothing
    have hx : ∃ x, ((s.wrappers.set i wi').set j src)[i]? = some x ∧ x.owned = none := by
      by_cases hij : j = i
      · subst hij
        exact ⟨src, List.getElem?_set_self (List.getElem?_eq_some_iff.1 hj').1, hsrc⟩
      · rw [List.getElem?_set_ne hij, List.getElem?_set_self (List.getElem?_eq_some_iff.1 hi).1]
        exact ⟨wi', rfl, hwi'⟩
    obtain ⟨x, hx, hxo⟩ := hx
    refine ⟨wf_set (wf_set hwf₁ hswf j) hnwf i, le_refl _, frees_of_release (List.getElem?_mem hi) hev, fun n => ?_⟩
    have h₁ := held_set hi wi' n
    have h₂ := held_set hj' src n
    have h₃ := held_set hx new n
    simp only [hwi', hsrc, hxo, hn, reduceCtorEq, if_false] at h₁ h₂ h₃
    dsimp only
    rw [hcount, count_detached_eq_zero hev]
    omega
  | convertConstruct j =>
    simp only [step, Option.bind_eq_some, Option.map_eq_some'] at hs
    obtain ⟨w, hj, ⟨new, src⟩, hc, he⟩ := hs
    cases he
    obtain ⟨-, hn, hsrc, hnwf, hswf⟩ := convert_spec ht (hwf w (List.getElem?_mem hj)) hc
    refine ⟨wf_append (wf_set hwf hswf j) hnwf, le_refl _, by simp, fun n => ?_⟩
    have h₁ := held_set hj src n
    simp only [hsrc, reduceCtorEq, if_false] at h₁
    simp only [held_append, hn, List.countP_nil, List.count_nil]
    omega
  | convertAssign i j =>
    simp only [step, Option.bind_eq_some, Option.map_eq_some'] at hs
    obtain ⟨wi, hi, wj, hj, ⟨g, w', e'⟩, hc, he⟩ := hs
    cases he
    have hij : i ≠ j := by
      rintro rfl
      rw [hi, Option.some.injEq] at hj
      rw [hj, convertAssign_self] at hc
      cases hc
    obtain ⟨hg, -, hw', hgwf, hw'wf, hev, hcount⟩ :=
      convertAssign_spec (hwf wi (List.getElem?_mem hi)) (hwf wj (List.getElem?_mem hj)) hc
    have hi' : (s.wrappers.set j w')[i]? = some wi := by rw [List.getElem?_set_ne (Ne.symm hij), hi]
    refine ⟨wf_set (wf_set hwf hw'wf j) hgwf i, le_refl _, frees_of_release (List.getElem?_mem hi) hev, fun n => ?_⟩
    have h₁ := held_set hj w' n
    have h₂ := held_set hi' g n
    simp only [hw', hg, reduceCtorEq, if_false] at h₁ h₂
    dsimp only
    rw [hcount, count_detached_eq_zero hev]
    omega
  | detach i =>
    simp only [step, Option.bind_eq_some, Option.map_eq_some'] at hs
    obtain ⟨w, hi, ⟨w', v⟩, hd, he⟩ := hs
    cases he
    obtain ⟨hw', hw'wf⟩ := detach_spec (hwf w (List.getElem?_mem hi)) hd
    refine ⟨wf_set hwf hw'wf i, le_refl _, fun ev hm f h he => ?_, fun n => ?_⟩
    · cases hown : w.owned <;> simp [hown] at hm
      cases hm ▸ he
    · have h₁ := held_set hi w' n
      simp only [hw', reduceCtorEq, if_false] at h₁
      dsimp only
      cases hown : w.owned <;> simpa [hown, Event.frees, List.count_cons] using h₁
  | destroy i =>
    simp only [step, Option.bind_eq_some, Option.map_eq_some'] at hs
    obtain ⟨w, hi, ⟨w', e'⟩, hr, he⟩ := hs
    cases he
    obtain ⟨-, -, -, hev, hcount⟩ := release_spec (hwf w (List.getElem?_mem hi)) hr
    refine ⟨fun x hx => hwf x (List.mem_of_mem_eraseIdx hx), le_refl _, frees_of_release (List.getElem?_mem hi) hev,
      fun n => ?_⟩
    have h₁ := held_eraseIdx hi n
    dsimp only
    rw [hcount, count_detached_eq_zero hev]
    omega

/-! ## Runs -/

/-- What every defined run from no wrapper keeps: the wrappers are well formed, every call of a free function was on an
acquired handle, and per handle `n` the wrappers owning it, the calls on it and the `detach()`s giving it up add up to
one once it is acquired and to none before. -/
structure Inv (s : World Fn) (evs : List (Event Fn)) : Prop where
  wf : ∀ w ∈ s.wrappers, w.WF
  frees : ∀ ev ∈ evs, ∀ f h, ev = .freed f h → ∃ n, h = some n ∧ n < s.next
  balance : ∀ n, held s.wrappers n + evs.countP (Event.frees n) + evs.count (.detached n) = if n < s.next then 1 else 0

theorem Inv.init : Inv (World.init : World Fn) [] :=
  ⟨by simp [World.init], by simp, fun n => by simp [World.init, held]⟩

/-- A handle a live wrapper owns has been acquired. -/
theorem Inv.lt_next {s : World Fn} {evs : List (Event Fn)} (hi : Inv s evs) {w : RaiiT Fn} (hw : w ∈ s.wrappers)
    {n : Nat} (hn : w.owned = some n) : n < s.next := by
  have hpos : 0 < held s.wrappers n := List.count_pos_iff.2 (List.mem_map.2 ⟨w, hw, hn⟩)
  have := hi.balance n
  split_ifs at this with hlt
  · exact hlt
  · omega

theorem Inv.of_step {ht : HandleType} {s s' : World Fn} {op : Op Fn} {evs e : List (Event Fn)} (hi : Inv s evs)
    (hs : step ht s op = some (s', e)) : Inv s' (evs ++ e) := by
  have h := step_spec hi.wf hs
  refine ⟨h.wf, fun ev hm f hv he => ?_, fun n => ?_⟩
  · rcases List.mem_append.1 hm with hm | hm
    · obtain ⟨n, rfl, hn⟩ := hi.frees ev hm f hv he
      exact ⟨n, rfl, lt_of_lt_of_le hn h.next_le⟩
    · obtain ⟨n, rfl, w, hw, hown⟩ := h.frees ev hm f hv he
      exact ⟨n, rfl, lt_of_lt_of_le (hi.lt_next hw hown) h.next_le⟩
  · have h₁ := hi.balance n
    have h₂ := h.balance n
    simp only [List.countP_append, List.count_append]
    split_ifs at h₁ h₂ ⊢ <;> omega

theorem Inv.of_run {ht : HandleType} {ops : List (Op Fn)} {s : World Fn} {evs : List (Event Fn)}
    (h : runSteps (step ht) World.init ops = some (s, evs)) : Inv s evs := by
  simpa using runSteps_preserves (fun s evs => Inv s evs) (fun hi hs => hi.of_step hs) [] Inv.init h

/-- `raii_t() {}` leaves `_free` of the pointer kind indeterminate whatever `Handle` is, so destroying a
default-constructed one is undefined, while the generic kind's `std::function` starts empty and the same run is defined
and calls nothing. With a pointer `Handle` the bound kind's `_handle` is a raw pointer left indeterminate as well, where
with an `int` `Handle` it is a `nullable_t` that starts null. -/
theorem default_pointer_destroy_undefined (ht : HandleType) (f : Fn) :
    runSteps (step ht) World.init [.construct0 .pointer f, .destroy 0] = none ∧
      runSteps (step ht) World.init [.construct0 .generic f, .destroy 0] = some (World.init, []) ∧
      runSteps (step .pointer) World.init [.construct0 (.bound f) f, .destroy 0] = none ∧
      runSteps (step .scalar) World.init [.construct0 (.bound f) f, .destroy 0] = some (World.init, []) :=
  ⟨rfl, rfl, rfl, rfl⟩

/-- The converting assignment from the pointer kind runs its body and flows off its end, which is undefined; the one
from the functor kind frees the target's handle, takes the source's and returns `*this`. -/
theorem convertAssign_pointer_undefined (ht : HandleType) (f f₁ : Fn) :
    runSteps (step ht) World.init [.construct .generic f, .construct .pointer f₁, .convertAssign 0 1] = none ∧
      runSteps (step ht) World.init [.construct .generic f, .construct .functor f₁, .convertAssign 0 1] =
        some (⟨[.generic (.val (some 1)) (some f₁), .functor (.val none) f₁], 2⟩, [.freed f (some 0)]) :=
  ⟨rfl, rfl⟩

end Raii

end DesktopClient
