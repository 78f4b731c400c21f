import Mathlib.Data.List.Chain
import DesktopClient.Run

/-!
# `NetExtensionChecker`: polling the macOS network extension

daemon/src/mac/net_extension_checker.cpp. The checker polls, on a `QTimer`, whether the transparent proxy's network
extension and the proxy itself are installed: it runs the CLI tool twice and searches its output. When the result
differs from the last state it recorded, it records the new one and emits `stateChanged`. `start` records the state it
is given and sets the interval (short unless that state is `Installed`), but only when the timer is not running.

`StateModel::NetExtensionState` is declared outside the sources: it is a parameter `State` here, with the two values
the checker names. The outputs of the two CLI calls are what a timeout sees, so they are the arguments of `timeout`;
the log messages are left out. While the timer runs, the checker emits exactly the changes of the observed state
(`runSteps_timeouts`). Over a whole period from `start` to `stop` each emitted state differs from the one before, and
the interval stays what `start` chose (`period_emits_changes`).
-/

namespace DesktopClient

namespace NetExtensionChecker

/-- `haystack.find(pat) != std::string::npos`: `pat` occurs in `haystack` at some position. -/
def found (pat : List Char) : List Char → Bool
  | [] => pat.isEmpty
  | c :: cs => pat.isPrefixOf (c :: cs) || found pat cs

/-- `isNetExtensionInstalled()`, on the output of `sysext status`: the bundled version or another one is installed. -/
def isNetExtensionInstalled (sysextStatus : String) : Bool :=
  found "bundled installed".toList sysextStatus.toList || found "other installed".toList sysextStatus.toList

/-- `isProxyInstalled()`, on the output of `proxy status`: any status but an uninstalled or an invalid one. -/
def isProxyInstalled (proxyStatus : String) : Bool :=
  !found "uninstalled".toList proxyStatus.toList && !found "invalid".toList proxyStatus.toList

/-- `isInstalled()` -/
def isInstalled (sysextStatus proxyStatus : String) : Bool :=
  isNetExtensionInstalled sysextStatus && isProxyInstalled proxyStatus

/-- The two values of `StateModel::NetExtensionState` the checker names, and the intervals given to its constructor, in
milliseconds. -/
structure Config (State : Type) where
  installed : State
  notInstalled : State
  shortInterval : Nat
  longInterval : Nat

/-- `_lastState`, and the timer: whether it is active, and its interval in milliseconds. -/
structure Checker (State : Type) where
  lastState : State
  active : Bool
  interval : Nat
  deriving DecidableEq, Repr

/-- `stateChanged(state)` -/
inductive Event (State : Type) where
  | stateChanged (state : State)
  deriving DecidableEq, Repr

/-- `start(installState)`, `stop()`, and a timeout of the timer, which sees the outputs of `sysext status` and
`proxy status`. -/
inductive Op (State : Type) where
  | start (installState : State)
  | stop
  | timeout (sysextStatus proxyStatus : String)
  deriving DecidableEq, Repr

variable {State : Type} [DecidableEq State] (cfg : Config State)

/-- A new checker: the timer is created but not started (a new `QTimer` has interval 0), and `_lastState` holds what
the class declaration initializes it to. -/
def init (lastState : State) : Checker State := ⟨lastState, false, 0⟩

/-- `updateTimer(installState)`: the long interval when the extension is installed, the short one otherwise. -/
def updateTimer (installState : State) (c : Checker State) : Checker State :=
  { c with interval := if installState ≠ cfg.installed then cfg.shortInterval else cfg.longInterval }

/-- `start(installState)` -/
def start (installState : State) (c : Checker State) : Checker State :=
  if !c.active then { updateTimer cfg installState { c with lastState := installState } with active := true } else c

/-- `stop()` -/
def stop (c : Checker State) : Checker State := if c.active then { c with active := false } else c

/-- `checkInstallationState()` -/
def checkInstallationState (sysextStatus proxyStatus : String) : State :=
  if isInstalled sysextStatus proxyStatus then cfg.installed else cfg.notInstalled

/-- `checkIfNetExtensionStateChanged()`, the timer's slot. -/
def checkIfNetExtensionStateChanged (sysextStatus proxyStatus : String) (c : Checker State) :
    Checker State × List (Event State) :=
  let currentState := checkInstallationState cfg sysextStatus proxyStatus
  if currentState ≠ c.lastState then ({ c with lastState := currentState }, [.stateChanged currentState]) else (c, [])

/-- One operation; `none` for a timeout of a timer that is not running. -/
def step (c : Checker State) : Op State → Option (Checker State × List (Event State))
  | .start s => some (start cfg s c, [])
  | .stop => some (stop c, [])
  | .timeout a b => if c.active then some (checkIfNetExtensionStateChanged cfg a b c) else none

/-! ## The changes of the observed state -/

/-- The observed states that differ from the one before them, `s` before the first. -/
def changes (s : State) : List State → List State
  | [] => []
  | o :: os => if o ≠ s then o :: changes o os else changes s os

/-- Each change differs from the state before it. -/
theorem changes_chain (s : State) (os : List State) : List.Chain (· ≠ ·) s (changes s os) := by
  induction os generalizing s with
  | nil => exact List.Chain.nil
  | cons o os ih =>
    by_cases h : o = s
    · simpa [changes, h] using ih s
    · simpa [changes, h] using List.Chain.cons (Ne.symm h) (ih o)

/-- A timeout of a running timer records what it observed, and emits it when it differs from the last state. -/
theorem step_timeout {c : Checker State} (hc : c.active = true) (a b : String) :
    step cfg c (.timeout a b) = some ({ c with lastState := checkInstallationState cfg a b },
      (changes c.lastState [checkInstallationState cfg a b]).map .stateChanged) := by
  obtain ⟨l, _, i⟩ := c
  cases hc
  by_cases h : checkInstallationState cfg a b = l <;> simp [step, checkIfNetExtensionStateChanged, changes, h]

/-- The changes of `o :: os` are those of the first observation, then those of the rest measured from `o`. -/
theorem changes_cons (s o : State) (os : List State) : changes s (o :: os) = changes s [o] ++ changes o os := by
  by_cases h : o = s
  · subst h
    simp [changes]
  · simp [changes, h]

/-- While the timer runs, timeouts observing `obs` record the last observed state and emit the changes. -/
theorem runSteps_timeouts {c : Checker State} (hc : c.active = true) (obs : List (String × String)) :
    runSteps (step cfg) c (obs.map fun o => .timeout o.1 o.2) =
      some ({ c with lastState := (obs.map fun o => checkInstallationState cfg o.1 o.2).getLastD c.lastState },
        (changes c.lastState (obs.map fun o => checkInstallationState cfg o.1 o.2)).map .stateChanged) := by
  induction obs generalizing c with
  | nil => simp [changes]
  | cons o obs ih =>
    have hc' : ({ c with lastState := checkInstallationState cfg o.1 o.2 } : Checker State).active = true := hc
    rw [List.map_cons, runSteps, step_timeout cfg hc, Option.some_bind, ih hc', Option.map_some', List.map_cons,
      List.getLastD_cons, changes_cons c.lastState _ (obs.map fun o => checkInstallationState cfg o.1 o.2),
      List.map_append]

/-- A whole period of the timer: `start(s)` on a stopped checker, timeouts observing `obs`, then `stop()`. The checker
emits exactly the changes of the observed state, in order, each different from the state before it (the first from
`s`), and ends stopped with `_lastState` the last observed state. Its interval is the one `start` chose from `s`, short
unless `s` is `Installed`: a change of state does not update it. -/
theorem period_emits_changes {c : Checker State} (hc : c.active = false) (s : State) (obs : List (String × String)) :
    runSteps (step cfg) c (.start s :: (obs.map fun o => .timeout o.1 o.2) ++ [.stop]) =
      some (⟨(obs.map fun o => checkInstallationState cfg o.1 o.2).getLastD s, false,
          if s ≠ cfg.installed then cfg.shortInterval else cfg.longInterval⟩,
        (changes s (obs.map fun o => checkInstallationState cfg o.1 o.2)).map .stateChanged) ∧
      List.Chain (· ≠ ·) s (changes s (obs.map fun o => checkInstallationState cfg o.1 o.2)) := by
  have hs : start cfg s c = ⟨s, true, if s ≠ cfg.installed then cfg.shortInterval else cfg.longInterval⟩ := by
    simp [start, updateTimer, hc]
  have ht := runSteps_timeouts cfg (show (start cfg s c).active = true by rw [hs]) obs
  rw [hs] at ht
  refine ⟨?_, changes_chain s _⟩
  rw [runSteps_append]
  simp only [runSteps, step, hs, Option.some_bind, ht, Option.map_some', stop, List.nil_append, List.append_nil,
    if_true]

/-- A period started from `NotInstalled` that sees the extension installed twice and then the proxy uninstalled: it
emits `Installed` once, then `NotInstalled`, and polls at the short interval throughout. -/
theorem period_emits_changes_install :
    (init 1 : Checker Nat).active = false ∧
      runSteps (step ⟨1, 0, 500, 120000⟩) (init 1) (.start 0 :: [.timeout "bundled installed" "running",
          .timeout "bundled installed" "running", .timeout "other installed" "uninstalled"] ++ [.stop]) =
        some (⟨0, false, 500⟩, [.stateChanged 1, .stateChanged 0]) ∧
      List.Chain (· ≠ ·) 0 [1, 0] :=
  ⟨rfl, @period_emits_changes Nat _ ⟨1, 0, 500, 120000⟩ (init 1) rfl 0
    [("bundled installed", "running"), ("bundled installed", "running"), ("other installed", "uninstalled")]⟩

end NetExtensionChecker

end DesktopClient
