import Mathlib.Data.List.Count
import Mathlib.Data.List.Nodup
import DesktopClient.Run

/-!
# `IMPLEMENT_NOTIFICATIONS`: notifications an object queues to itself

builtin/util.h, lines 615 to 648. The mixin keeps a list `_notifications` of member functions and a flag
`_notificationsPosted`. `queueNotification` appends a function that is not queued yet and, unless a call is posted
already, posts one call of `processNotifications` to the event loop (`QMetaObject::invokeMethod`, queued connection).
`processNotifications` clears the flag, swaps the list into a local list and calls each function of that list in turn.

A notification function is arbitrary code: it may queue and cancel notifications, and it may spin the event loop, so
that a posted call is delivered while another `processNotifications` is still in its loop. Besides the two fields the
model therefore keeps the number of posted calls not yet delivered and the stack of running `processNotifications`
calls, each with the part of its local list its loop has not reached. A step is one call of the mixin's interface, one
delivery by the event loop, or one turn of the innermost running loop; any sequence of them is a run (`runSteps step`),
so every reentrant call a notification function can make is one of the runs.
-/

namespace DesktopClient

namespace Notifications

/-- One `processNotifications` call in its loop: the number of the delivery that started it, and the functions of its
local list `notifications` that the loop has not called yet. -/
structure Frame (F : Type) where
  delivery : Nat
  pending : List F
  deriving DecidableEq, Repr

/-- An object using `IMPLEMENT_NOTIFICATIONS(type)`, with what the event loop and the call stack hold for it. `F` is the
type of `NotificationFunction`, compared with `==` as `QList::contains` and `QList::removeOne` do. -/
structure Notifier (F : Type) where
  /-- `_notifications` -/
  notifications : List F
  /-- `_notificationsPosted` -/
  notificationsPosted : Bool
  /-- Calls of `processNotifications` posted to the event loop and not yet delivered. -/
  posted : Nat
  /-- The running `processNotifications` calls, innermost first. -/
  frames : List (Frame F)
  /-- How many posted calls the event loop has delivered; it numbers the frames. -/
  delivered : Nat
  deriving DecidableEq, Repr

/-- What a run shows: a `queueNotification(fn)` that returned true, and a call `(this->*fn)()` made by delivery `d`. -/
inductive Event (F : Type) where
  | queued (fn : F)
  | invoked (d : Nat) (fn : F)
  deriving DecidableEq, Repr

/-- The steps of a run: the four calls of the interface, a delivery of a posted call by the event loop, and one turn of
the loop of the innermost running `processNotifications`. -/
inductive Op (F : Type) where
  | queue (fn : F)
  | isQueued (fn : F)
  | cancel (fn : F)
  | cancelAll
  | deliver
  | next
  deriving DecidableEq, Repr

variable {F : Type} [DecidableEq F]

/-- A newly constructed object: an empty list, `_notificationsPosted = false`, nothing posted and nothing running. -/
def Notifier.init : Notifier F := ⟨[], false, 0, [], 0⟩

/-- `queueNotification(fn)`: false when `fn` is queued already; otherwise `fn` is appended, a call of
`processNotifications` is posted unless one is, and the result is true. -/
def queueNotification (s : Notifier F) (fn : F) : Bool × Notifier F :=
  if s.notifications.contains fn then (false, s)
  else
    let s := { s with notifications := s.notifications ++ [fn] }
    if !s.notificationsPosted then (true, { s with notificationsPosted := true, posted := s.posted + 1 })
    else (true, s)

/-- `isNotificationQueued(fn)` -/
def isNotificationQueued (s : Notifier F) (fn : F) : Bool := s.notifications.contains fn

/-- `cancelNotification(fn)`: `_notifications.removeOne(fn)`, which removes the first `fn` and says whether there was
one. -/
def cancelNotification (s : Notifier F) (fn : F) : Bool × Notifier F :=
  (s.notifications.contains fn, { s with notifications := s.notifications.erase fn })

/-- `cancelAllNotifications()` -/
def cancelAllNotifications (s : Notifier F) : Notifier F := { s with notifications := [] }

/-- The event loop delivers a posted call and `processNotifications` starts: it clears `_notificationsPosted` and swaps
`_notifications` with its empty local list, which its loop then walks. `none` when no call is posted. -/
def processNotifications (s : Notifier F) : Option (Notifier F) :=
  match s.posted with
  | 0 => none
  | n + 1 => some ⟨[], false, n, ⟨s.delivered, s.notifications⟩ :: s.frames, s.delivered + 1⟩

/-- One turn of the loop of the innermost running `processNotifications`: the call of the next function of its local
list, with the number of its delivery, or the return of `processNotifications` when the list is done. `none` when no
call is running. -/
def notifyNext (s : Notifier F) : Option (Option (Nat × F) × Notifier F) :=
  match s.frames with
  | [] => none
  | ⟨_, []⟩ :: rest => some (none, { s with frames := rest })
  | ⟨d, fn :: fns⟩ :: rest => some (some (d, fn), { s with frames := ⟨d, fns⟩ :: rest })

/-- One step, with the events it shows. `none` when the step cannot be taken: a delivery with nothing posted, a turn of
a loop with no call running. -/
def step (s : Notifier F) : Op F → Option (Notifier F × List (Event F))
  | .queue fn => some ((queueNotification s fn).2, if (queueNotification s fn).1 then [.queued fn] else [])
  | .isQueued _ => some (s, [])
  | .cancel fn => some ((cancelNotification s fn).2, [])
  | .cancelAll => some (cancelAllNotifications s, [])
  | .deliver => (processNotifications s).map fun s' => (s', [])
  | .next => (notifyNext s).map fun r => (r.2, (r.1.map fun c => Event.invoked c.1 c.2).toList)

/-- The copies of `fn` that the running `processNotifications` calls of `fs` have still to call. -/
def framesHeld : List (Frame F) → F → Nat
  | [], _ => 0
  | f :: fs, fn => f.pending.count fn + framesHeld fs fn

/-- The copies of `fn` the object holds for a later call: in `_notifications`, or in the local list of a running
`processNotifications`. -/
def held (fn : F) (s : Notifier F) : Nat := s.notifications.count fn + framesHeld s.frames fn

/-- The copies of `fn` that the running call of delivery `d` has still to call. -/
def pendingIn (fs : List (Frame F)) (d : Nat) (fn : F) : Nat := framesHeld (fs.filter fun f => f.delivery = d) fn

/-- The event is a call of `fn`, by whichever delivery. -/
def Event.invokes (fn : F) : Event F → Bool
  | .queued _ => false
  | .invoked _ g => g = fn

/-- The functions delivery `d` called, in the order it called them. -/
def callsOf (d : Nat) (evs : List (Event F)) : List F :=
  evs.filterMap fun
    | .invoked d' fn => if d' = d then some fn else none
    | .queued _ => none

/-! ## Equations -/

@[simp] theorem queueNotification_fst (s : Notifier F) (fn : F) :
    (queueNotification s fn).1 = decide (fn ∉ s.notifications) := by
  unfold queueNotification
  by_cases h : fn ∈ s.notifications <;> cases hp : s.notificationsPosted <;> simp [h, hp]

@[simp] theorem queueNotification_notifications (s : Notifier F) (fn : F) :
    (queueNotification s fn).2.notifications =
      if fn ∈ s.notifications then s.notifications else s.notifications ++ [fn] := by
  unfold queueNotification
  by_cases h : fn ∈ s.notifications <;> cases hp : s.notificationsPosted <;> simp [h, hp]

@[simp] theorem queueNotification_notificationsPosted (s : Notifier F) (fn : F) :
    (queueNotification s fn).2.notificationsPosted = if fn ∈ s.notifications then s.notificationsPosted else true := by
  unfold queueNotification
  by_cases h : fn ∈ s.notifications <;> cases hp : s.notificationsPosted <;> simp [h, hp]

@[simp] theorem queueNotification_posted (s : Notifier F) (fn : F) :
    (queueNotification s fn).2.posted =
      if fn ∈ s.notifications ∨ s.notificationsPosted then s.posted else s.posted + 1 := by
  unfold queueNotification
  by_cases h : fn ∈ s.notifications <;> cases hp : s.notificationsPosted <;> simp [h, hp]

@[simp] theorem queueNotification_frames (s : Notifier F) (fn : F) :
    (queueNotification s fn).2.frames = s.frames := by
  unfold queueNotification
  by_cases h : fn ∈ s.notifications <;> cases hp : s.notificationsPosted <;> simp [h, hp]

@[simp] theorem queueNotification_delivered (s : Notifier F) (fn : F) :
    (queueNotification s fn).2.delivered = s.delivered := by
  unfold queueNotification
  by_cases h : fn ∈ s.notifications <;> cases hp : s.notificationsPosted <;> simp [h, hp]

@[simp] theorem cancelNotification_snd (s : Notifier F) (fn : F) :
    (cancelNotification s fn).2 = { s with notifications := s.notifications.erase fn } := rfl

omit [DecidableEq F] in
/-- A delivery takes the first posted call, moves `_notifications` into a new frame numbered by the delivery, and
clears the list and the flag. -/
theorem processNotifications_eq_some {s s' : Notifier F} (h : processNotifications s = some s') :
    ∃ n, s.posted = n + 1 ∧ s' = ⟨[], false, n, ⟨s.delivered, s.notifications⟩ :: s.frames, s.delivered + 1⟩ := by
  unfold processNotifications at h
  split at h
  · cases h
  · exact ⟨_, ‹_›, (Option.some.inj h).symm⟩

omit [DecidableEq F] in
/-- A turn of a loop returns from the innermost call when its list is done, and otherwise calls the head of that
list and drops it; it changes nothing but the frames. -/
theorem notifyNext_eq_some {s s' : Notifier F} {r : Option (Nat × F)} (h : notifyNext s = some (r, s')) :
    (∃ d rest, s.frames = ⟨d, []⟩ :: rest ∧ r = none ∧ s' = { s with frames := rest }) ∨
      ∃ d fn fns rest, s.frames = ⟨d, fn :: fns⟩ :: rest ∧ r = some (d, fn) ∧ s' = { s with frames := ⟨d, fns⟩ :: rest } := by
  unfold notifyNext at h
  split at h
  · cases h
  · cases h
    exact .inl ⟨_, _, ‹_›, rfl, rfl⟩
  · cases h
    exact .inr ⟨_, _, _, _, ‹_›, rfl, rfl⟩

@[simp] theorem framesHeld_nil (fn : F) : framesHeld [] fn = 0 := rfl

@[simp] theorem framesHeld_cons (f : Frame F) (fs : List (Frame F)) (fn : F) :
    framesHeld (f :: fs) fn = f.pending.count fn + framesHeld fs fn := rfl

@[simp] theorem pendingIn_nil (d : Nat) (fn : F) : pendingIn [] d fn = 0 := rfl

@[simp] theorem pendingIn_cons (f : Frame F) (fs : List (Frame F)) (d : Nat) (fn : F) :
    pendingIn (f :: fs) d fn = (if f.delivery = d then f.pending.count fn else 0) + pendingIn fs d fn := by
  unfold pendingIn
  by_cases h : f.delivery = d <;> simp [h]

@[simp] theorem Event.invokes_queued (fn g : F) : Event.invokes fn (.queued g) = false := rfl

@[simp] theorem Event.invokes_invoked (fn g : F) (d : Nat) : Event.invokes fn (.invoked d g) = decide (g = fn) := rfl

omit [DecidableEq F] in
@[simp] theorem callsOf_append (d : Nat) (evs evs' : List (Event F)) :
    callsOf d (evs ++ evs') = callsOf d evs ++ callsOf d evs' := List.filterMap_append _ _ _

omit [DecidableEq F] in
@[simp] theorem callsOf_nil (d : Nat) : callsOf d ([] : List (Event F)) = [] := rfl

omit [DecidableEq F] in
@[simp] theorem callsOf_invoked (d d' : Nat) (fn : F) :
    callsOf d [.invoked d' fn] = if d' = d then [fn] else [] := by
  by_cases h : d' = d <;> simp [callsOf, h]

omit [DecidableEq F] in
/-- Events with no call in them show no call of any delivery. -/
theorem callsOf_eq_nil {e : List (Event F)} (h : ∀ d fn, Event.invoked d fn ∉ e) (d : Nat) : callsOf d e = [] := by
  induction e with
  | nil => rfl
  | cons ev e ih =>
    have ht : ∀ d fn, Event.invoked d fn ∉ e := fun d fn hm => h d fn (List.mem_cons_of_mem _ hm)
    cases ev with
    | queued g => simpa [callsOf] using ih ht
    | invoked d' g => exact absurd (List.mem_cons_self _ _) (h d' g)

end Notifications

end DesktopClient
