import Drukbox.Await.Machine
import Drukbox.Await.Pipe
import Mathlib.Data.Int.Notation
import Mathlib.Data.Nat.Notation

/-!
# A session of the gateway

`_bridge` as a machine whose steps are the sections between two `await`s: of the bridge, of its pump
for the error stream, and of its pump for the input.  The sandbox process and the caller act at any
time.
-/

namespace Drukbox.Gateway.Session

open Await

def receiveChunkBytes : ℕ := 32768

/-- What the caller of a session that does not open reads:
`cannot open a session for this host`. -/
def refusal : List UInt8 :=
  [99, 97, 110, 110, 111, 116, 32, 111, 112, 101, 110, 32, 97, 32, 115, 101, 115, 115, 105, 111,
    110, 32, 102, 111, 114, 32, 116, 104, 105, 115, 32, 104, 111, 115, 116, 10]

structure TerminalSize where
  columns : ℕ
  rows : ℕ
  deriving DecidableEq, Repr

/-- What the input of a caller gives to its reader, in order. -/
inductive Item
  | byte (value : UInt8)
  /-- `TerminalSizeChanged`. -/
  | sizeChanged (size : TerminalSize)
  /-- `BreakReceived`. -/
  | breakReceived
  /-- An exception that the pump does not catch, such as `SignalReceived`. -/
  | uncaught
  deriving DecidableEq, Repr

namespace Item

def byte? : Item → Option UInt8
  | .byte value => some value
  | _ => none

def size? : Item → Option TerminalSize
  | .sizeChanged size => some size
  | _ => none

end Item

inductive Ended
  | returned
  | raised
  | cancelled
  deriving DecidableEq, Repr

/-- How far a pump has come. -/
inductive Pump
  /-- `create_task` has not been called. -/
  | absent
  /-- It awaits its next piece. -/
  | receiving
  /-- It awaits `drain`. -/
  | draining
  /-- It gets `CancelledError` where it stands. -/
  | cancelling
  | ended (how : Ended)
  deriving DecidableEq, Repr

def Pump.cancel : Pump → Pump
  | .receiving | .draining => .cancelling
  | pump => pump

/-- How far `_bridge` has come. -/
inductive Stage
  /-- It awaits `SandboxProcess.open`. -/
  | opening
  | receiving
  | draining
  /-- It awaits the pump of the error stream, in the `try` block. -/
  | joining
  /-- It awaits the exit status. -/
  | waiting
  /-- The `finally` block awaits the pump of the input.  `_bridge` ends this way behind it. -/
  | endingInput (how : Ended)
  | endingErrors (how : Ended)
  /-- The `finally` block awaits `aclose`. -/
  | closing (how : Ended)
  | ended (how : Ended)
  deriving DecidableEq, Repr

/-- What has gone between the sandbox process and the caller. -/
structure Flow where
  /-- The output of the process. -/
  output : Pipe UInt8 := {}
  /-- Its error stream. -/
  errors : Pipe UInt8 := {}
  /-- Its exit status, once it has ended. -/
  exited : Option ℤ := none
  /-- The input of the caller. -/
  input : Pipe Item := {}
  /-- What the caller's channel was given. -/
  stdout : List UInt8 := []
  stderr : List UInt8 := []
  /-- The channel takes no more until the caller reads. -/
  paused : Bool := false
  /-- The calls of `send`. -/
  fed : List UInt8 := []
  /-- The calls of `resize`. -/
  sizes : List TerminalSize := []
  /-- How often `send_eof` was called. -/
  eofs : ℕ := 0
  deriving DecidableEq, Repr

/-- One call of `_bridge`. -/
structure Bridge extends Flow where
  terminal : Option TerminalSize := none
  stage : Stage := .opening
  inputPump : Pump := .absent
  stderrPump : Pump := .absent
  /-- The caller was told that there is no session. -/
  refused : Bool := false
  /-- The calls of `process.exit`. -/
  exits : List ℤ := []
  /-- How often `aclose` was called. -/
  closes : ℕ := 0
  deriving DecidableEq, Repr

namespace Bridge

/-- `await sandbox_process.aclose()`. -/
def close (bridge : Bridge) (how : Ended) : Bridge :=
  { bridge with closes := bridge.closes + 1, stage := .closing how }

/-- The `finally` block from `await stderr_pump`.  A pump that is done does not suspend it, and one
that raised ends it. -/
def awaitErrors (bridge : Bridge) (how : Ended) : Bridge :=
  match bridge.stderrPump with
  | .ended .raised => { bridge with stage := .ended .raised }
  | .ended _ => bridge.close how
  | _ => { bridge with stage := .endingErrors how }

/-- The `finally` block from `await input_pump`. -/
def awaitInput (bridge : Bridge) (how : Ended) : Bridge :=
  match bridge.inputPump with
  | .ended .raised => { bridge with stage := .ended .raised }
  | .ended _ => bridge.awaitErrors how
  | _ => { bridge with stage := .endingInput how }

def finish (bridge : Bridge) (how : Ended) : Bridge :=
  { bridge with
    inputPump := bridge.inputPump.cancel
    stderrPump := bridge.stderrPump.cancel }.awaitInput how

/-- `process.exit(await sandbox_process.wait())`. -/
def exit (bridge : Bridge) : Bridge :=
  match bridge.exited with
  | some status => { bridge with exits := bridge.exits ++ [status] }.finish .returned
  | none => { bridge with stage := .waiting }

/-- `await stderr_pump` in the `try` block, and what follows. -/
def join (bridge : Bridge) : Bridge :=
  match bridge.stderrPump with
  | .ended .returned => bridge.exit
  | .ended how => bridge.finish how
  | _ => { bridge with stage := .joining }

/-- A piece of a stream. -/
def piece {α : Type} (pipe : Pipe α) (count : ℕ) : Option (List α × Pipe α) :=
  if count ≤ receiveChunkBytes then pipe.receive count else none

/-- `_bridge` after an `await`. -/
def resume (bridge : Bridge) (count : ℕ) : Option Bridge :=
  match bridge.stage with
  | .opening | .ended _ => none
  | .receiving =>
      match piece bridge.output count with
      | some ([], _) => some bridge.join
      | some (data, output) =>
          some { bridge with output, stdout := bridge.stdout ++ data, stage := .draining }
      | none => none
  | .draining => if bridge.paused then none else some { bridge with stage := .receiving }
  | .joining =>
      match bridge.stderrPump with
      | .ended _ => some bridge.join
      | _ => none
  | .waiting => if bridge.exited.isSome then some bridge.exit else none
  | .endingInput how =>
      match bridge.inputPump with
      | .ended _ => some (bridge.awaitInput how)
      | _ => none
  | .endingErrors how =>
      match bridge.stderrPump with
      | .ended _ => some (bridge.awaitErrors how)
      | _ => none
  | .closing how => if bridge.exited.isSome then some { bridge with stage := .ended how } else none

/-- `_pump_stderr_to_channel` after an `await`. -/
def pumpStderrToChannel (bridge : Bridge) (count : ℕ) : Option Bridge :=
  match bridge.stderrPump with
  | .absent | .ended _ => none
  | .receiving =>
      match piece bridge.errors count with
      | some ([], _) => some { bridge with stderrPump := .ended .returned }
      | some (data, errors) =>
          some { bridge with errors, stderr := bridge.stderr ++ data, stderrPump := .draining }
      | none => none
  | .draining =>
      if bridge.paused then none else some { bridge with stderrPump := .receiving }
  | .cancelling => some { bridge with stderrPump := .ended .cancelled }

/-- `_pump_channel_to_process` with what the read gave.  A read gives bytes, or one event. -/
def feed (bridge : Bridge) (items : List Item) : Option Bridge :=
  match items with
  | [] => some { bridge with eofs := bridge.eofs + 1, inputPump := .ended .returned }
  | [.sizeChanged size] => some { bridge with sizes := bridge.sizes ++ [size] }
  | [.breakReceived] => some bridge
  | [.uncaught] => some { bridge with inputPump := .ended .raised }
  | items =>
      if items.all fun item => item.byte?.isSome then
        some { bridge with fed := bridge.fed ++ items.filterMap Item.byte? }
      else none

/-- `_pump_channel_to_process` after an `await`. -/
def pumpChannelToProcess (bridge : Bridge) (count : ℕ) : Option Bridge :=
  match bridge.inputPump with
  | .absent | .draining | .ended _ => none
  | .receiving =>
      match piece bridge.input count with
      | some (items, input) => { bridge with input }.feed items
      | none => none
  | .cancelling => some { bridge with inputPump := .ended .cancelled }

/-- The task of `_bridge` is cancelled.  The `await` of a pump passes it on to the pump, and the
`finally` block suppresses it there. -/
def cancel (bridge : Bridge) : Option Bridge :=
  match bridge.stage with
  | .opening | .closing _ => some { bridge with stage := .ended .cancelled }
  | .receiving | .draining | .waiting => some (bridge.finish .cancelled)
  | .joining =>
      match bridge.stderrPump with
      | .ended _ => some (bridge.finish .cancelled)
      | pump => some { bridge with stderrPump := pump.cancel }
  | .endingInput how =>
      match bridge.inputPump with
      | .ended _ => some (bridge.awaitErrors how)
      | _ => some bridge
  | .endingErrors how =>
      match bridge.stderrPump with
      | .ended _ => some (bridge.close how)
      | _ => some bridge
  | .ended _ => none

end Bridge

/-- What the event loop may run next. -/
inductive Event
  /-- `SandboxProcess.open` returned. -/
  | opened
  /-- It raised a `ProviderError`, or the provider has no process class. -/
  | openFailed
  /-- The sandbox process writes output. -/
  | print (data : List UInt8)
  /-- It writes to its error stream. -/
  | complain (data : List UInt8)
  | endOutput
  | endErrors
  /-- It ends. -/
  | exit (status : ℤ)
  /-- The caller sends input. -/
  | type (items : List Item)
  | endInput
  /-- The caller does not read, and its channel is full. -/
  | pauseWriting
  | resumeWriting
  /-- A section of `_bridge`, with the length of the piece that it receives. -/
  | bridge (count : ℕ)
  | pumpErrors (count : ℕ)
  | pumpInput (count : ℕ)
  /-- What `_bridge` awaits raises. -/
  | bridgeRaises
  | errorsRaise
  | inputRaises
  | cancel
  deriving DecidableEq, Repr

namespace Bridge

/-- One event. -/
def next (bridge : Bridge) : Event → Option Bridge
  | .opened =>
      if bridge.stage = .opening then
        some
          { bridge with
            stage := .receiving
            inputPump := .receiving
            stderrPump := .receiving
            errors := if bridge.terminal.isSome then bridge.errors.close else bridge.errors }
      else none
  | .openFailed =>
      if bridge.stage = .opening then
        some
          { bridge with
            stderr := bridge.stderr ++ refusal
            refused := true
            exits := [255]
            stage := .ended .returned }
      else none
  | .print data => (bridge.output.write data).map fun output => { bridge with output }
  | .complain data => (bridge.errors.write data).map fun errors => { bridge with errors }
  | .endOutput => some { bridge with output := bridge.output.close }
  | .endErrors => some { bridge with errors := bridge.errors.close }
  | .exit status =>
      if bridge.exited.isSome then none else some { bridge with exited := some status }
  | .type items => (bridge.input.write items).map fun input => { bridge with input }
  | .endInput => some { bridge with input := bridge.input.close }
  | .pauseWriting => some { bridge with paused := true }
  | .resumeWriting => some { bridge with paused := false }
  | .bridge count => bridge.resume count
  | .pumpErrors count => bridge.pumpStderrToChannel count
  | .pumpInput count => bridge.pumpChannelToProcess count
  | .bridgeRaises =>
      match bridge.stage with
      | .opening | .closing _ => some { bridge with stage := .ended .raised }
      | .receiving | .draining | .waiting => some (bridge.finish .raised)
      | _ => none
  | .errorsRaise =>
      match bridge.stderrPump with
      | .receiving | .draining => some { bridge with stderrPump := .ended .raised }
      | _ => none
  | .inputRaises =>
      match bridge.inputPump with
      | .receiving => some { bridge with inputPump := .ended .raised }
      | _ => none
  | .cancel => bridge.cancel

def machine : Machine Bridge Event where
  next := next

end Bridge

end Drukbox.Gateway.Session
