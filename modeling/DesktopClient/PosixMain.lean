import Mathlib.Logic.Basic

/-!
# The daemon's `main`

daemon/src/posix/posix_main.cpp, lines 46 to 143. After setting up the locale, the logger, the umask, the paths and
`terminateHandler`, `main` parses the command line: a parse error prints the error text and returns -1, `--help` and
`--version` print their text and return 0. Otherwise it opens the daemon's log file (`Logger logSingleton`) and drops
privileges (`setUidAndGid()`), both outside the `try`, and runs the daemon inside it: an `Error` thrown out of the
daemon is logged with `qCritical` and leaves `exitCode` at 1, which the last log line reports. Anything thrown before
the `try`, and anything but an `Error` inside it, reaches `terminateHandler`, which ends the process with `qFatal`.

The parser, the logger, `setUidAndGid()`, the daemon and the texts they give are outside the sources, so how they end
is an argument here. `main` has no `return` after the `try`: flowing off the end of `main` returns 0, so the process
status is 0 even when the daemon failed and `exitCode` is 1.
-/

namespace DesktopClient

namespace PosixMain

/-- What `parser.parse(QCoreApplication::arguments())` and `parser.isSet(...)` gave: the parse error text, or whether
`--help` and `--version` are set. -/
inductive Parsed where
  | error (text : String)
  | ok (help version : Bool)
  deriving DecidableEq, Repr

/-- How `daemon.start()` ended: by returning, by throwing an `Error` (traced as `trace`), or by throwing anything else
(`extra` is what `terminateHandler` writes of it, its `what()` or its type). -/
inductive DaemonEnd where
  | returned
  | threwError (trace : String)
  | threwOther (extra : String)
  deriving DecidableEq, Repr

/-- What `main` writes: to `stderr` and `stdout`, and with `qCritical`, `qWarning`, `qInfo` and `qFatal`. -/
inductive Output where
  | stderr (text : String)
  | stdout (text : String)
  | critical (text : String)
  | warning (text : String)
  | info (text : String)
  | fatal (text : String)
  deriving DecidableEq, Repr

/-- `terminateHandler()`: `qFatal("Exiting due to unhandled exception%s", extra)`. -/
def terminateHandler (extra : String) : Output := .fatal ("Exiting due to unhandled exception" ++ extra)

/-- The last lines of `main`: `qWarning() << "Exited daemon with error code" << exitCode` when `exitCode` is not 0,
`qInfo() << "Exited daemon successfully."` when it is. -/
def exitLog (exitCode : Int) : Output :=
  if exitCode ≠ 0 then .warning ("Exited daemon with error code " ++ toString exitCode)
  else .info "Exited daemon successfully."

/-- The `try` around the daemon and the lines after it: `exitCode` as the `try` leaves it and what is written, or the
`qFatal` of `terminateHandler` when an exception other than `Error` ends the process. -/
def runDaemon : DaemonEnd → Except Output (Int × List Output)
  | .returned => .ok (0, [exitLog 0])
  | .threwError trace => .ok (1, [.critical trace, exitLog 1])
  | .threwOther extra => .error (terminateHandler extra)

/-- `main`, from the parse onwards: the process status (`none` when `qFatal` aborts it) and what is written. The help
and version texts are the parser's and `Version::semanticVersion()`. `setup` is how `Logger logSingleton` and
`setUidAndGid()` ended: `none` when they returned, `some extra` when one of them threw, which no `catch` sees. -/
def main (helpText versionText : String) (parsed : Parsed) (setup : Option String) (daemon : DaemonEnd) :
    Option Int × List Output :=
  match parsed with
  | .error text => (some (-1), [.stderr text])
  | .ok true _ => (some 0, [.stdout helpText])
  | .ok false true => (some 0, [.stdout versionText])
  | .ok false false =>
    match setup with
    | some extra => (none, [terminateHandler extra])
    | none =>
      match runDaemon daemon with
      | .ok (_, out) => (some 0, out)
      | .error fatal => (none, [fatal])

end PosixMain

end DesktopClient
