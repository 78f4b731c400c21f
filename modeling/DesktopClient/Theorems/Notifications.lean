import DesktopClient.Notifications

/-!
# What every run of `IMPLEMENT_NOTIFICATIONS` keeps

`notifications_invariant`: in every state a run from construction reaches, no function is queued twice, a call of
`processNotifications` is posted and not yet delivered exactly when `_notificationsPosted` is set (and then exactly one),
and a non-empty list has its call posted; each delivery calls each function at most once.

`calls_bounded_by_queues`: a function is called at most as often as `queueNotification` accepted it. A cancel does not
reach the functions a running `processNotifications` has already swapped into its local list: after
`cancelNotification(fn)` or `cancelAllNotifications()`, and until `fn` is queued again, `fn` is called at most as often
as those local lists still hold it, and not at all when no call is running. That it may be called there at all is
`cancel_after_swap_still_calls`.

`delivery_runs_batch`: the call posted for a non-empty list is there to deliver, and when no notification function calls
back into the object it calls each queued function exactly once, in the order queued, in `length + 1` turns of its loop.
`delivery_calls_swapped_list`: whatever the notification functions do, a delivery calls a prefix of the list it swapped
out, in order, and the whole list once it returns.
-/

namespace DesktopClient

namespace Notifications

variable {F : Type} [DecidableEq F]

/-! ## The state invariant -/

/-- The invariant of the mixin: (a) no function is queued twice, (b) the posted calls not yet delivered are one when
`_notificationsPosted` is set and none otherwise, (c) a non-empty list has its call posted. -/
structure Inv (s : Notifier F) : Prop where
  nodup : s.notifications.Nodup
  posted_eq : s.posted = if s.notificationsPosted then 1 else 0
  posted_of_ne_nil : s.notifications ≠ [] → s.notificationsPosted = true

omit [DecidableEq F] in
theorem Inv.init : Inv (Notifier.init : Notifier F) := ⟨List.nodup_nil, rfl, fun h => absurd rfl h⟩

theorem Inv.queueNotification {s : Notifier F} (h : Inv s) (fn : F) : Inv (queueNotification s fn).2 := by
  by_cases hm : fn ∈ s.notifications
  · exact ⟨by simpa [hm] using h.nodup, by simpa [hm] using h.posted_eq, by simpa [hm] using h.posted_of_ne_nil⟩
  · refine ⟨?_, ?_, by simp [hm]⟩
    · simpa [hm] using h.nodup.append (List.nodup_singleton fn) (List.disjoint_singleton.2 hm)
    · have := h.posted_eq
      cases hp : s.notificationsPosted <;> simp_all

theorem Inv.cancelNotification {s : Notifier F} (h : Inv s) (fn : F) : Inv (cancelNotification s fn).2 := by
  refine ⟨by simpa using h.nodup.erase fn, by simpa using h.posted_eq, fun hne => ?_⟩
  exact h.posted_of_ne_nil fun hs => hne (by simp [hs])

omit [DecidableEq F] in
theorem Inv.cancelAllNotifications {s : Notifier F} (h : Inv s) : Inv (cancelAllNotifications s) :=
  ⟨List.nodup_nil, h.posted_eq, fun hne => absurd rfl hne⟩

omit [DecidableEq F] in
theorem Inv.processNotifications {s s' : Notifier F} (h : Inv s) (hs : processNotifications s = some s') :
    Inv s' := by
  obtain ⟨n, hn, rfl⟩ := processNotifications_eq_some hs
  have := h.posted_eq
  refine ⟨List.nodup_nil, ?_, fun hne => absurd rfl hne⟩
  show n = 0
  split_ifs at this <;> omega

omit [DecidableEq F] in
theorem Inv.notifyNext {s s' : Notifier F} {r : Option (Nat × F)} (h : Inv s) (hs : notifyNext s = some (r, s')) :
    Inv s' := by
  obtain ⟨_, _, _, _, rfl⟩ | ⟨_, _, _, _, _, _, rfl⟩ := notifyNext_eq_some hs <;> exact ⟨h.1, h.2, h.3⟩

/-- Every step keeps the invariant. -/
theorem Inv.of_step {s s' : Notifier F} {op : Op F} {e : List (Event F)} (h : Inv s) (hs : step s op = some (s', e)) :
    Inv s' := by
  cases op with
  | queue fn => cases hs; exact h.queueNotification fn
  | isQueued => cases hs; exact h
  | cancel fn => cases hs; exact h.cancelNotification fn
  | cancelAll => cases hs; exact h.cancelAllNotifications
  | deliver =>
    obtain ⟨s'', hp, he⟩ := Option.map_eq_some'.1 hs
    cases he
    exact h.processNotifications hp
  | next =>
    obtain ⟨⟨r, s''⟩, hn, he⟩ := Option.map_eq_some'.1 hs
    cases he
    exact h.notifyNext hn

/-- Every state a run from construction reaches keeps the invariant. -/
theorem Inv.of_run {ops : List (Op F)} {s : Notifier F} {evs : List (Event F)}
    (h : runSteps step Notifier.init ops = some (s, evs)) : Inv s :=
  runSteps_preserves_state Inv (fun h hs => h.of_step hs) Inv.init h

/-! ## Each delivery calls a function at most once -/

/-- What delivery `d` has called and what its loop has still to call hold each function at most once between them, and
a delivery still to come has called nothing and holds nothing. -/
structure DeliveryInv (s : Notifier F) (evs : List (Event F)) : Prop where
  le_one : ∀ d fn, evs.count (.invoked d fn) + pendingIn s.frames d fn ≤ 1
  future : ∀ d fn, s.delivered ≤ d → evs.count (.invoked d fn) + pendingIn s.frames d fn = 0

/-- A step that leaves the frames and the deliveries alone and calls nothing keeps `DeliveryInv`. -/
theorem DeliveryInv.of_frames {s s' : Notifier F} {evs e : List (Event F)} (h : DeliveryInv s evs)
    (hf : s'.frames = s.frames) (hd : s'.delivered = s.delivered) (he : ∀ d fn, e.count (.invoked d fn) = 0) :
    DeliveryInv s' (evs ++ e) :=
  ⟨fun d fn => by simpa [hf, he] using h.le_one d fn, fun d fn hle => by simpa [hf, he] using h.future d fn (hd ▸ hle)⟩

/-- A delivery opens a frame under a new number, holding each function at most once since `_notifications` does. -/
theorem DeliveryInv.processNotifications {s s' : Notifier F} {evs : List (Event F)} (hi : Inv s)
    (h : DeliveryInv s evs) (hs : processNotifications s = some s') : DeliveryInv s' (evs ++ []) := by
  obtain ⟨n, -, rfl⟩ := processNotifications_eq_some hs
  refine ⟨fun d fn => ?_, fun d fn hle => ?_⟩
  · by_cases hd : s.delivered = d
    · subst hd
      have h0 := h.future s.delivered fn le_rfl
      have h1 := List.nodup_iff_count_le_one.1 hi.nodup fn
      simp only [List.append_nil, pendingIn_cons, if_true]
      omega
    · simpa [hd] using h.le_one d fn
  · simp only at hle
    have hne : s.delivered ≠ d := by omega
    simpa [hne] using h.future d fn (by omega)

/-- A turn of a loop moves a function from the innermost frame's list to the events, or drops a frame whose list is
done. -/
theorem DeliveryInv.notifyNext {s s' : Notifier F} {evs : List (Event F)} {r : Option (Nat × F)}
    (h : DeliveryInv s evs) (hs : notifyNext s = some (r, s')) :
    DeliveryInv s' (evs ++ (r.map fun c => Event.invoked c.1 c.2).toList) := by
  obtain ⟨d₀, rest, hf, rfl, rfl⟩ | ⟨d₀, g, gs, rest, hf, rfl, rfl⟩ := notifyNext_eq_some hs
  · refine ⟨fun d fn => ?_, fun d fn hle => ?_⟩
    · simpa [hf] using h.le_one d fn
    · simpa [hf] using h.future d fn hle
  · refine ⟨fun d fn => ?_, fun d fn hle => ?_⟩
    · have := h.le_one d fn
      simp only [hf, pendingIn_cons, List.count_cons, List.count_append, List.count_nil, Option.map_some',
        Option.toList_some, beq_iff_eq, Event.invoked.injEq] at this ⊢
      by_cases hd : d₀ = d
      · simp only [hd, true_and, if_true] at this ⊢
        split_ifs at this ⊢ <;> omega
      · simp only [hd, false_and, if_false] at this ⊢
        omega
    · have hne : d₀ ≠ d := by
        rintro rfl
        simpa [hf] using h.future d₀ g hle
      have := h.future d fn hle
      simp only [hf, pendingIn_cons, hne, if_false] at this
      simp only [List.count_append, pendingIn_cons, List.count_singleton, Option.map_some', Option.toList_some,
        beq_iff_eq, Event.invoked.injEq, hne, false_and, if_false]
      omega

/-- Every step keeps the invariant and `DeliveryInv` together. -/
theorem DeliveryInv.of_step {s s' : Notifier F} {op : Op F} {evs e : List (Event F)} (hi : Inv s)
    (h : DeliveryInv s evs) (hs : step s op = some (s', e)) : DeliveryInv s' (evs ++ e) := by
  cases op with
  | queue fn =>
    cases hs
    exact h.of_frames (by simp) (by simp) fun d g => by split_ifs <;> simp
  | isQueued => cases hs; exact h.of_frames rfl rfl fun _ _ => rfl
  | cancel fn => cases hs; exact h.of_frames rfl rfl fun _ _ => rfl
  | cancelAll => cases hs; exact h.of_frames rfl rfl fun _ _ => rfl
  | deliver =>
    obtain ⟨s'', hp, he⟩ := Option.map_eq_some'.1 hs
    cases he
    exact h.processNotifications hi hp
  | next =>
    obtain ⟨⟨r, s''⟩, hn, he⟩ := Option.map_eq_some'.1 hs
    cases he
    exact h.notifyNext hn

/-- In every state a run from construction reaches: (a) `_notifications` holds no function twice; (b) the calls of
`processNotifications` posted and not yet delivered are one when `_notificationsPosted` is set and none when it is not;
(c) a non-empty `_notifications` has `_notificationsPosted` set. So at most one call is posted, a queued notification
always has one, and no delivery calls a function twice. -/
theorem notifications_invariant {ops : List (Op F)} {s : Notifier F} {evs : List (Event F)}
    (h : runSteps step Notifier.init ops = some (s, evs)) :
    s.notifications.Nodup ∧ s.posted = (if s.notificationsPosted then 1 else 0) ∧
      (s.notifications ≠ [] → s.notificationsPosted = true) ∧ s.posted ≤ 1 ∧
      (s.notifications ≠ [] → s.posted = 1) ∧ ∀ d fn, evs.count (.invoked d fn) ≤ 1 := by
  have hr := runSteps_preserves (fun s evs => Inv s ∧ DeliveryInv s evs)
    (fun ⟨hi, hd⟩ hs => ⟨hi.of_step hs, hd.of_step hi hs⟩) []
    (⟨Inv.init, fun _ _ => by simp [Notifier.init], fun _ _ _ => by simp [Notifier.init]⟩ : _ ∧ DeliveryInv _ []) h
  obtain ⟨⟨hn, hp, hq⟩, hd, -⟩ := hr
  refine ⟨hn, hp, hq, by split_ifs at hp <;> omega, fun hne => by simp [hp, hq hne], fun d fn => ?_⟩
  simpa using (Nat.le_add_right _ _).trans (hd d fn)

/-- A nested delivery: function 0 queues function 1 and spins the event loop, which delivers the call that posted. -/
theorem notifications_invariant_nested :
    runSteps step (Notifier.init : Notifier Nat) [.queue 0, .deliver, .next, .queue 1, .deliver, .next, .next, .next] =
        some (⟨[], false, 0, [], 2⟩, [.queued 0, .invoked 0 0, .queued 1, .invoked 1 1]) ∧
      ([] : List Nat).Nodup ∧ 0 = (if false then 1 else 0) ∧ (([] : List Nat) ≠ [] → false = true) ∧ 0 ≤ 1 ∧
      (([] : List Nat) ≠ [] → 0 = 1) ∧
      ∀ d fn, ([.queued 0, .invoked 0 0, .queued 1, .invoked 1 1] : List (Event Nat)).count (.invoked d fn) ≤ 1 :=
  by
  have h : runSteps step (Notifier.init : Notifier Nat) [.queue 0, .deliver, .next, .queue 1, .deliver, .next, .next, .next] =
      some (⟨[], false, 0, [], 2⟩, [.queued 0, .invoked 0 0, .queued 1, .invoked 1 1]) := by decide
  exact ⟨h, notifications_invariant h⟩

/-! ## Calls against queues -/

/-- A step calls a function only by taking one copy of it from a frame, and adds a copy only by a `queueNotification`
that returns true. -/
theorem held_step {s s' : Notifier F} {op : Op F} {e : List (Event F)} (hs : step s op = some (s', e)) (fn : F) :
    held fn s' + e.countP (Event.invokes fn) ≤ held fn s + e.count (.queued fn) := by
  cases op with
  | queue g =>
    cases hs
    by_cases hm : g ∈ s.notifications
    · simp [held, hm]
    · by_cases hg : g = fn
      · subst hg
        simp only [held, queueNotification_notifications, queueNotification_frames, queueNotification_fst, hm,
          if_false, not_false_eq_true, decide_True, List.count_append, List.count_singleton, beq_self_eq_true, if_true,
          List.countP_cons, List.countP_nil, Event.invokes_queued, Bool.false_eq_true]
        omega
      · simp [held, hm, hg, List.count_singleton, List.count_append]
  | isQueued => cases hs; simp
  | cancel g =>
    cases hs
    simp [held, List.count_erase]
  | cancelAll => cases hs; simp [held, cancelAllNotifications]
  | deliver =>
    obtain ⟨s'', hp, he⟩ := Option.map_eq_some'.1 hs
    cases he
    obtain ⟨n, -, rfl⟩ := processNotifications_eq_some hp
    simp [held]
  | next =>
    obtain ⟨⟨r, s''⟩, hn, he⟩ := Option.map_eq_some'.1 hs
    cases he
    obtain ⟨d, rest, hf, rfl, rfl⟩ | ⟨d, g, gs, rest, hf, rfl, rfl⟩ := notifyNext_eq_some hn
    · simp [held, hf]
    · by_cases hg : g = fn <;> simp [held, hf, hg, List.count_cons]
      omega

/-- Over a run, the calls of `fn` and the copies left at its end are at most the copies held at its start and the
accepted `queueNotification(fn)` calls. -/
theorem held_run {s s' : Notifier F} {ops : List (Op F)} {evs : List (Event F)} (h : runSteps step s ops = some (s', evs))
    (fn : F) : held fn s' + evs.countP (Event.invokes fn) ≤ held fn s + evs.count (.queued fn) := by
  simpa using runSteps_preserves
    (fun t evs => held fn t + evs.countP (Event.invokes fn) ≤ held fn s + evs.count (.queued fn))
    (fun {t t' _ evs e} ih hs => by
      have := held_step hs fn
      simp only [List.countP_append, List.count_append]
      omega) []
    (by simp : held fn s + ([] : List (Event F)).countP (Event.invokes fn) ≤ held fn s + _) h

/-- After a cancel of `fn` in a reachable state, `_notifications` holds no `fn`: the list holds it at most once. -/
theorem held_after_cancel {pre : List (Op F)} {c : Op F} {fn : F} {s₁ s₂ : Notifier F} {e₁ e₂ : List (Event F)}
    (h₁ : runSteps step Notifier.init pre = some (s₁, e₁)) (hc : c = .cancel fn ∨ c = .cancelAll)
    (h₂ : step s₁ c = some (s₂, e₂)) : held fn s₂ = framesHeld s₁.frames fn ∧ e₂ = [] := by
  have hi := Inv.of_run h₁
  rcases hc with rfl | rfl <;> cases h₂
  · have := List.nodup_iff_count_le_one.1 hi.nodup fn
    simp only [held, cancelNotification_snd, List.count_erase_self, and_true]
    omega
  · simp [held, cancelAllNotifications]

/-- (a) A function is called at most as often as `queueNotification` accepted it. (b) After `cancelNotification(fn)`
or `cancelAllNotifications()`, and as long as no `queueNotification(fn)` returns true, `fn` is called at most as often
as the local lists of the `processNotifications` calls running at the cancel still hold it; so not at all when none
was running. -/
theorem calls_bounded_by_queues :
    (∀ {ops : List (Op F)} {s : Notifier F} {evs : List (Event F)} (fn : F),
        runSteps step Notifier.init ops = some (s, evs) → evs.countP (Event.invokes fn) ≤ evs.count (.queued fn)) ∧
      ∀ {pre mid : List (Op F)} {c : Op F} {fn : F} {s₁ s₂ s₃ : Notifier F} {e₁ e₂ e₃ : List (Event F)},
        runSteps step Notifier.init pre = some (s₁, e₁) → (c = .cancel fn ∨ c = .cancelAll) → step s₁ c = some (s₂, e₂) →
        runSteps step s₂ mid = some (s₃, e₃) → Event.queued fn ∉ e₃ →
        e₃.countP (Event.invokes fn) ≤ framesHeld s₁.frames fn := by
  refine ⟨fun fn h => ?_, fun {_ _ _ fn _ _ _ _ _ _} h₁ hc h₂ h₃ hq => ?_⟩
  · have := held_run h fn
    simp only [held, Notifier.init, List.count_nil, framesHeld_nil] at this
    omega
  · have hr := held_run h₃ fn
    rw [(held_after_cancel h₁ hc h₂).1, List.count_eq_zero.2 hq] at hr
    omega

/-- A cancel does not reach a function a running `processNotifications` has swapped into its local list: function 1 is
queued behind function 0, the call is delivered, function 0 cancels function 1, and the loop still calls it. -/
theorem cancel_after_swap_still_calls :
    ¬ ∀ (pre mid : List (Op Nat)) (fn : Nat) (s₁ s₂ s₃ : Notifier Nat) (e₁ e₂ e₃ : List (Event Nat)),
        runSteps step Notifier.init pre = some (s₁, e₁) → step s₁ (.cancel fn) = some (s₂, e₂) →
        runSteps step s₂ mid = some (s₃, e₃) → Event.queued fn ∉ e₃ → e₃.countP (Event.invokes fn) = 0 := by
  intro h
  have := h [.queue 0, .queue 1, .deliver, .next] [.next] 1 ⟨[], false, 0, [⟨0, [1]⟩], 1⟩
    ⟨[], false, 0, [⟨0, [1]⟩], 1⟩ ⟨[], false, 0, [⟨0, []⟩], 1⟩ [.queued 0, .queued 1, .invoked 0 0] [] [.invoked 0 1]
    (by decide) (by decide) (by decide) (by decide)
  exact absurd this (by decide)

/-! ## A delivery calls its whole batch -/

/-- A turn of the loop of the innermost running call, with `fn` next in its local list, calls `fn`. -/
theorem step_next_cons {s : Notifier F} {d : Nat} {fn : F} {fns : List F} {rest : List (Frame F)}
    (hf : s.frames = ⟨d, fn :: fns⟩ :: rest) :
    step s .next = some ({ s with frames := ⟨d, fns⟩ :: rest }, [.invoked d fn]) := by
  simp [step, notifyNext, hf]

/-- When the local list of the innermost running call is done, the turn of its loop is its return. -/
theorem step_next_nil {s : Notifier F} {d : Nat} {rest : List (Frame F)} (hf : s.frames = ⟨d, []⟩ :: rest) :
    step s .next = some ({ s with frames := rest }, []) := by
  simp [step, notifyNext, hf]

/-- The innermost running `processNotifications`, with `fns` left in its local list: `fns.length + 1` turns of its loop
call them in order, under its delivery's number, and then return; nothing else changes. -/
theorem loop_calls_pending {s : Notifier F} {d : Nat} {fns : List F} {rest : List (Frame F)}
    (hf : s.frames = ⟨d, fns⟩ :: rest) :
    runSteps step s (List.replicate (fns.length + 1) .next) =
      some ({ s with frames := rest }, fns.map (Event.invoked d)) := by
  induction fns generalizing s with
  | nil => simp [runSteps, step_next_nil hf]
  | cons fn fns ih =>
    rw [List.length_cons, List.replicate_succ, runSteps, step_next_cons hf, Option.some_bind, ih rfl]
    rfl

/-- A delivery calls its whole batch. In every state a run reaches where some function is queued, the call posted for
it is there to deliver. When no notification function calls back into the object, that delivery and one turn of its
loop per function, and one more to return, call each function of `_notifications` exactly once, in the order they were
queued. The object is left with no function queued, `_notificationsPosted` false and nothing posted, and the calls
that were running before are as they were. -/
theorem delivery_runs_batch {ops : List (Op F)} {s : Notifier F} {evs : List (Event F)}
    (h : runSteps step Notifier.init ops = some (s, evs)) (hne : s.notifications ≠ []) :
    runSteps step s (.deliver :: List.replicate (s.notifications.length + 1) .next) =
        some (⟨[], false, 0, s.frames, s.delivered + 1⟩, s.notifications.map (Event.invoked s.delivered)) ∧
      ∀ fn, (s.notifications.map (Event.invoked s.delivered)).count (.invoked s.delivered fn) =
        if fn ∈ s.notifications then 1 else 0 := by
  have hi := Inv.of_run h
  have hp : s.posted = 0 + 1 := by simp [hi.posted_eq, hi.posted_of_ne_nil hne]
  have hd : step s .deliver = some (⟨[], false, 0, ⟨s.delivered, s.notifications⟩ :: s.frames, s.delivered + 1⟩, []) :=
    by simp [step, processNotifications, hp]
  refine ⟨?_, fun fn => ?_⟩
  · rw [runSteps, hd, Option.some_bind, loop_calls_pending rfl]
    rfl
  · rw [List.count_map_of_injective _ _ (fun _ _ h => (Event.invoked.inj h).2)]
    exact List.count_eq_of_nodup hi.nodup

/-- Two functions queued on a new object: the delivery calls both, in order. -/
theorem delivery_runs_batch_two :
    runSteps step (Notifier.init : Notifier Nat) [.queue 0, .queue 1] =
        some (⟨[0, 1], true, 1, [], 0⟩, [.queued 0, .queued 1]) ∧ ([0, 1] : List Nat) ≠ [] ∧
      runSteps step (⟨[0, 1], true, 1, [], 0⟩ : Notifier Nat) [.deliver, .next, .next, .next] =
        some (⟨[], false, 0, [], 1⟩, [.invoked 0 0, .invoked 0 1]) ∧
      ∀ fn, ([Event.invoked 0 0, .invoked 0 1] : List (Event Nat)).count (.invoked 0 fn) =
        if fn ∈ ([0, 1] : List Nat) then 1 else 0 := by
  have h : runSteps step (Notifier.init : Notifier Nat) [.queue 0, .queue 1] =
      some (⟨[0, 1], true, 1, [], 0⟩, [.queued 0, .queued 1]) := by decide
  exact ⟨h, by decide, delivery_runs_batch h (by decide)⟩

/-! ## A delivery calls exactly the list it swapped out -/

/-- What a step does to the running calls: a call of the interface leaves them and the deliveries alone and calls
nothing; a delivery pushes a frame with `_notifications` under the next number; a turn of a loop returns from the
innermost call or calls the head of its list. -/
theorem step_frames {s s' : Notifier F} {op : Op F} {e : List (Event F)} (hs : step s op = some (s', e)) :
    (s'.frames = s.frames ∧ s'.delivered = s.delivered ∧ ∀ d fn, Event.invoked d fn ∉ e) ∨
      (s'.frames = ⟨s.delivered, s.notifications⟩ :: s.frames ∧ s'.delivered = s.delivered + 1 ∧ e = []) ∨
      (∃ d rest, s.frames = ⟨d, []⟩ :: rest ∧ s'.frames = rest ∧ s'.delivered = s.delivered ∧ e = []) ∨
      ∃ d fn fns rest, s.frames = ⟨d, fn :: fns⟩ :: rest ∧ s'.frames = ⟨d, fns⟩ :: rest ∧
        s'.delivered = s.delivered ∧ e = [.invoked d fn] := by
  cases op with
  | queue fn =>
    cases hs
    exact .inl ⟨by simp, by simp, fun d g => by split_ifs <;> simp⟩
  | isQueued => cases hs; exact .inl ⟨rfl, rfl, fun _ _ => List.not_mem_nil _⟩
  | cancel fn => cases hs; exact .inl ⟨rfl, rfl, fun _ _ => List.not_mem_nil _⟩
  | cancelAll => cases hs; exact .inl ⟨rfl, rfl, fun _ _ => List.not_mem_nil _⟩
  | deliver =>
    obtain ⟨s'', hp, he⟩ := Option.map_eq_some'.1 hs
    cases he
    obtain ⟨n, -, rfl⟩ := processNotifications_eq_some hp
    exact .inr (.inl ⟨rfl, rfl, rfl⟩)
  | next =>
    obtain ⟨⟨r, s''⟩, hn, he⟩ := Option.map_eq_some'.1 hs
    cases he
    obtain ⟨d, rest, hf, rfl, rfl⟩ | ⟨d, g, gs, rest, hf, rfl, rfl⟩ := notifyNext_eq_some hn
    · exact .inr (.inr (.inl ⟨d, rest, hf, rfl, rfl, rfl⟩))
    · exact .inr (.inr (.inr ⟨d, g, gs, rest, hf, rfl, rfl, rfl⟩))

/-- The running `processNotifications` calls have distinct delivery numbers, all below the number of deliveries. -/
structure Stacked (s : Notifier F) : Prop where
  lt_delivered : ∀ d ∈ s.frames.map Frame.delivery, d < s.delivered
  nodup : (s.frames.map Frame.delivery).Nodup

theorem Stacked.of_step {s s' : Notifier F} {op : Op F} {e : List (Event F)} (h : Stacked s)
    (hs : step s op = some (s', e)) : Stacked s' := by
  obtain ⟨hf, hd, -⟩ | ⟨hf, hd, -⟩ | ⟨d, rest, hf₀, hf, hd, -⟩ | ⟨d, g, gs, rest, hf₀, hf, hd, -⟩ := step_frames hs
  · exact ⟨by rw [hf, hd]; exact h.lt_delivered, by rw [hf]; exact h.nodup⟩
  · -- the new frame has the number of this delivery, above all the others
    have hlt := h.lt_delivered
    refine ⟨fun x hx => ?_, ?_⟩
    · rw [hf, List.map_cons] at hx
      rw [hd]
      rcases List.mem_cons.1 hx with rfl | hx
      · exact Nat.lt_succ_self _
      · exact Nat.lt_succ_of_lt (hlt x hx)
    · rw [hf, List.map_cons]
      exact List.nodup_cons.2 ⟨fun hm => Nat.lt_irrefl _ (hlt _ hm), h.nodup⟩
  · -- a return drops the innermost number
    have hm : s.frames.map Frame.delivery = d :: rest.map Frame.delivery := by rw [hf₀]; rfl
    have hl := h.lt_delivered
    have hn := h.nodup
    rw [hm] at hl hn
    exact ⟨by rw [hf, hd]; exact fun x hx => hl x (List.mem_cons_of_mem _ hx), by rw [hf]; exact hn.of_cons⟩
  · -- a call keeps the numbers
    have hm : s'.frames.map Frame.delivery = s.frames.map Frame.delivery := by rw [hf, hf₀]; rfl
    exact ⟨by rw [hm, hd]; exact h.lt_delivered, by rw [hm]; exact h.nodup⟩

/-- Every state a run from construction reaches has its running calls numbered apart. -/
theorem Stacked.of_run {ops : List (Op F)} {s : Notifier F} {evs : List (Event F)}
    (h : runSteps step Notifier.init ops = some (s, evs)) : Stacked s :=
  runSteps_preserves_state Stacked (fun h hs => h.of_step hs)
    (⟨fun _ h => absurd h (List.not_mem_nil _), List.nodup_nil⟩ : Stacked (Notifier.init : Notifier F)) h

/-- Delivery `d`, which swapped out the list `B`: while it runs, the functions it has called followed by those its loop
has still to call are `B`; once it has returned, it has called `B`. -/
def Batch (d : Nat) (B : List F) (s : Notifier F) (evs : List (Event F)) : Prop :=
  d < s.delivered ∧ ((∃ P, ⟨d, P⟩ ∈ s.frames ∧ callsOf d evs ++ P = B) ∨
    (d ∉ s.frames.map Frame.delivery ∧ callsOf d evs = B))

omit [DecidableEq F] in
/-- The frame of a delivery number is the one frame with that number. -/
theorem pending_eq_of_mem {d : Nat} {P Q : List F} {rest : List (Frame F)}
    (hn : ((⟨d, Q⟩ :: rest : List (Frame F)).map Frame.delivery).Nodup)
    (hm : ⟨d, P⟩ ∈ (⟨d, Q⟩ :: rest : List (Frame F))) : P = Q := by
  rcases List.mem_cons.1 hm with h | hm
  · exact (Frame.mk.inj h).2
  · exact absurd (List.mem_map_of_mem Frame.delivery hm) (List.nodup_cons.1 hn).1

omit [DecidableEq F] in
/-- A frame of another number than the innermost one is among the frames under it. -/
theorem mem_rest_of_ne {d d₀ : Nat} {P Q : List F} {rest : List (Frame F)} (hd : d ≠ d₀)
    (hm : ⟨d, P⟩ ∈ (⟨d₀, Q⟩ :: rest : List (Frame F))) : ⟨d, P⟩ ∈ rest :=
  (List.mem_cons.1 hm).resolve_left fun h => hd (Frame.mk.inj h).1

/-- Every step keeps `Batch`: only the turns of delivery `d`'s own loop change it, each moving the head of its list to
the calls. -/
theorem Batch.of_step {d : Nat} {B : List F} {s s' : Notifier F} {op : Op F} {evs e : List (Event F)}
    (hst : Stacked s) (h : Batch d B s evs) (hs : step s op = some (s', e)) : Batch d B s' (evs ++ e) := by
  obtain ⟨hlt, hb⟩ := h
  obtain ⟨hf, hd, he⟩ | ⟨hf, hd, rfl⟩ | ⟨d₀, rest, hf₀, hf, hd, rfl⟩ | ⟨d₀, g, gs, rest, hf₀, hf, hd, rfl⟩ :=
    step_frames hs
  · -- a call of the interface
    rw [Batch, hf, hd, callsOf_append, callsOf_eq_nil he, List.append_nil]
    exact ⟨hlt, hb⟩
  · -- a delivery: its frame has the next number, not `d`
    have hne : d ≠ s.delivered := Nat.ne_of_lt hlt
    refine ⟨hd ▸ Nat.lt_succ_of_lt hlt, ?_⟩
    rw [hf, List.append_nil]
    rcases hb with ⟨P, hm, hP⟩ | ⟨hm, hP⟩
    · exact .inl ⟨P, List.mem_cons_of_mem _ hm, hP⟩
    · exact .inr ⟨by simp [hne, hm], hP⟩
  · -- the innermost call returns
    have hn := hst.nodup
    rw [hf₀] at hn
    refine ⟨hd ▸ hlt, ?_⟩
    rw [hf, List.append_nil]
    rw [hf₀] at hb
    by_cases hdd : d = d₀
    · subst hdd
      have hnot : d ∉ rest.map Frame.delivery := (List.nodup_cons.1 hn).1
      rcases hb with ⟨P, hm, hP⟩ | ⟨hm, -⟩
      · rw [pending_eq_of_mem hn hm, List.append_nil] at hP
        exact .inr ⟨hnot, hP⟩
      · exact absurd (List.mem_cons_self _ _) hm
    · rcases hb with ⟨P, hm, hP⟩ | ⟨hm, hP⟩
      · exact .inl ⟨P, mem_rest_of_ne hdd hm, hP⟩
      · exact .inr ⟨fun h => hm (List.mem_cons_of_mem _ h), hP⟩
  · -- the innermost call calls `g`
    have hn := hst.nodup
    rw [hf₀] at hn
    refine ⟨hd ▸ hlt, ?_⟩
    rw [hf, callsOf_append, callsOf_invoked]
    rw [hf₀] at hb
    by_cases hdd : d₀ = d
    · subst hdd
      rcases hb with ⟨P, hm, hP⟩ | ⟨hm, -⟩
      · rw [pending_eq_of_mem hn hm] at hP
        exact .inl ⟨gs, List.mem_cons_self _ _, by simpa using hP⟩
      · exact absurd (List.mem_cons_self _ _) hm
    · rw [if_neg hdd, List.append_nil]
      rcases hb with ⟨P, hm, hP⟩ | ⟨hm, hP⟩
      · exact .inl ⟨P, List.mem_cons_of_mem _ (mem_rest_of_ne (Ne.symm hdd) hm), hP⟩
      · exact .inr ⟨hm, hP⟩

/-- A delivery calls exactly the list it swapped out, in order, whatever its notification functions do. Take any state a
run reaches, deliver the posted call, and continue with any run, in which the functions may queue and cancel
notifications and spin the event loop for further deliveries. The functions this delivery calls are then always a
prefix of the list `_notifications` held when it was delivered, and once it has returned they are the whole list. A
cancel after the delivery does not stop a call, and a function queued after it is not called by it. -/
theorem delivery_calls_swapped_list {pre post : List (Op F)} {s₁ s₂ s₃ : Notifier F} {e₁ e₂ e₃ : List (Event F)}
    (h₁ : runSteps step Notifier.init pre = some (s₁, e₁)) (h₂ : step s₁ .deliver = some (s₂, e₂))
    (h₃ : runSteps step s₂ post = some (s₃, e₃)) :
    callsOf s₁.delivered e₃ <+: s₁.notifications ∧
      (s₁.delivered ∉ s₃.frames.map Frame.delivery → callsOf s₁.delivered e₃ = s₁.notifications) := by
  have hst₂ : Stacked s₂ := (Stacked.of_run h₁).of_step h₂
  have hb₂ : Batch s₁.delivered s₁.notifications s₂ [] := by
    obtain ⟨s'', hp, he⟩ := Option.map_eq_some'.1 h₂
    cases he
    obtain ⟨n, -, rfl⟩ := processNotifications_eq_some hp
    exact ⟨Nat.lt_succ_self _, .inl ⟨s₁.notifications, List.mem_cons_self _ _, rfl⟩⟩
  have := runSteps_preserves (fun s evs => Stacked s ∧ Batch s₁.delivered s₁.notifications s evs)
    (fun ⟨hst, hb⟩ hs => ⟨hst.of_step hs, hb.of_step hst hs⟩) [] ⟨hst₂, hb₂⟩ h₃
  obtain ⟨-, -, ⟨P, hm, hP⟩ | ⟨hm, hP⟩⟩ := this
  · rw [List.nil_append] at hP
    exact ⟨⟨P, hP⟩, fun hn => absurd (List.mem_map_of_mem Frame.delivery hm) hn⟩
  · rw [List.nil_append] at hP
    exact ⟨hP ▸ List.prefix_refl _, fun _ => hP⟩

/-- Function 0 of a delivery queues function 1 again, cancels it and spins the event loop for the posted call, which
finds nothing: the delivery still calls function 1, which it had swapped out, and its calls are the list it took. -/
theorem delivery_calls_swapped_list_reentrant :
    runSteps step (Notifier.init : Notifier Nat) [.queue 0, .queue 1] =
        some (⟨[0, 1], true, 1, [], 0⟩, [.queued 0, .queued 1]) ∧
      step (⟨[0, 1], true, 1, [], 0⟩ : Notifier Nat) .deliver = some (⟨[], false, 0, [⟨0, [0, 1]⟩], 1⟩, []) ∧
      runSteps step (⟨[], false, 0, [⟨0, [0, 1]⟩], 1⟩ : Notifier Nat)
          [.next, .queue 1, .cancel 1, .deliver, .next, .next, .next] =
        some (⟨[], false, 0, [], 2⟩, [.invoked 0 0, .queued 1, .invoked 0 1]) ∧
      callsOf 0 ([.invoked 0 0, .queued 1, .invoked 0 1] : List (Event Nat)) <+: [0, 1] ∧
      (0 ∉ ([] : List (Frame Nat)).map Frame.delivery →
        callsOf 0 ([.invoked 0 0, .queued 1, .invoked 0 1] : List (Event Nat)) = [0, 1]) := by
  have h₁ : runSteps step (Notifier.init : Notifier Nat) [.queue 0, .queue 1] =
      some (⟨[0, 1], true, 1, [], 0⟩, [.queued 0, .queued 1]) := by decide
  have h₂ : step (⟨[0, 1], true, 1, [], 0⟩ : Notifier Nat) .deliver =
      some (⟨[], false, 0, [⟨0, [0, 1]⟩], 1⟩, []) := by decide
  have h₃ : runSteps step (⟨[], false, 0, [⟨0, [0, 1]⟩], 1⟩ : Notifier Nat)
      [.next, .queue 1, .cancel 1, .deliver, .next, .next, .next] =
      some (⟨[], false, 0, [], 2⟩, [.invoked 0 0, .queued 1, .invoked 0 1]) := by decide
  exact ⟨h₁, h₂, h₃, delivery_calls_swapped_list h₁ h₂ h₃⟩

end Notifications

end DesktopClient
