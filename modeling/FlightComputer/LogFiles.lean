import FlightComputer.Program

/-!
# `open_logfile`: one file for each flight

`logger.c` writes to the first of a thousand files that it can create. A flight ends at any
time, also in the middle of a write, and the flight computer is started again for the next one.
-/

namespace FlightComputer
namespace LogFiles

/-! ## The directory -/

/-- The values of `errno` that `open_logfile` tells apart. -/
inductive Errno where
  | EEXIST
  | EISDIR
  | other (errno : ℕ)
deriving DecidableEq, Repr

/-- The name of a file, without the NUL at its end. -/
abbrev Name := List Char

inductive Node where
  | file (contents : Bytes)
  | directory
deriving DecidableEq, Repr

/-- The working directory. -/
abbrev Directory := Name → Option Node

/-- `open(buf, O_WRONLY | O_CREAT | O_EXCL, 0444)`: what exists is never opened. There can be other
reasons to refuse a file. -/
def openExcl (fault : Option Errno) (dir : Directory) (buf : Name) : Except Errno Directory :=
  match fault with
  | some errno => .error errno
  | none =>
    if (dir buf).isSome then .error .EEXIST
    else .ok (Function.update dir buf (some (.file [])))

/-! ## Choosing the file -/

def LOGFILE_DIGITS : ℕ := 3

def LOGFILE_BASE : String := "logfile-"

/-- `attempt_count` -/
def attemptCount : ℕ := 10 ^ LOGFILE_DIGITS

/-- `sizeof buf` -/
def sizeofBuf : ℕ := (strlen LOGFILE_BASE + 1) + LOGFILE_DIGITS

/-- A number in decimal, filled up with zeros. -/
def padded (width n : ℕ) : List Char :=
  List.replicate (width - (Nat.toDigits 10 n).length) '0' ++ Nat.toDigits 10 n

/-- `snprintf(buf, sizeof buf, LOGFILE_BASE "%03d", i)` -/
def name (i : ℕ) : Name :=
  (LOGFILE_BASE.toList ++ padded LOGFILE_DIGITS i).take (sizeofBuf - 1)

/-- The operating system while the flight computer starts: why it refuses the file of an attempt,
other than because it exists, and the texts for that. -/
structure System where
  fault : ℕ → Option Errno
  strerror : Errno → String

/-- The `for` loop of `open_logfile`, with so many attempts left: the file that is opened, or the
last words of the process. -/
def openLogfileFrom (system : System) (dir : Directory) : ℕ → ℕ → Except String (Name × Directory)
  | 0, i => .error ("tried " ++ toString i ++ " filenames but couldn't create any logfile\n")
  | attempts + 1, i =>
    match openExcl (system.fault i) dir (name i) with
    | .ok dir => .ok (name i, dir)
    | .error errno =>
      if errno = .EEXIST ∨ errno = .EISDIR then openLogfileFrom system dir attempts (i + 1)
      else
        .error ("permanent failure creating logfile " ++ String.ofList (name i) ++ ": " ++
          system.strerror errno ++ "\n")

def openLogfile (system : System) (dir : Directory) : Except String (Name × Directory) :=
  openLogfileFrom system dir attemptCount 0

/-! ## Flights -/

variable {K : Type} [Field K] [LinearOrder K] [FloorSemiring K]

/-- From a start of the flight computer to its end, after so many bytes of the log. -/
structure Flight (K : Type) where
  system : System
  env : Main.Env K
  events : List Program.Event
  size : ℕ

/-- What is written of the log. -/
def Flight.written (f : Flight K) : Bytes :=
  (Program.logFile (Program.session f.env f.events)).take f.size

/-- How a flight computer starts: with a log file, or not at all. -/
inductive Outcome where
  | logged (buf : Name)
  | exit (message : String)
deriving DecidableEq, Repr

/-- One flight. -/
def fly (dir : Directory) (f : Flight K) : Directory × List Outcome :=
  match openLogfile f.system dir with
  | .ok (buf, dir) => (Function.update dir buf (some (.file f.written)), [.logged buf])
  | .error message => (dir, [.exit message])

/-- One flight after the other, in a directory. -/
def machine (dir : Directory) : Machine Directory (Flight K) Outcome := ⟨dir, fly⟩

end LogFiles
end FlightComputer
