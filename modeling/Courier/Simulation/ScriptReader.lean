import Courier.Files.Change
import Courier.Simulation.Schedule

/-!
# Scripts as JSON

A script is written as an object with a list of cues for each kind of call.  A cue may wait
first (`delayMs`) and may make the call fail (`err` with `arg`).

Main definitions:

- `readFault` reads a failure.
- `Script.ofJson` reads the script of one partner, `Cast.ofJson` the scripts of several.
- `Deed.ofJson` reads what somebody does beside the programs, `planOfJson` reads a plan.
-/

namespace Courier.Simulation

open Json

/-! ## Failures -/

/-- A code and a text in a list. -/
def readCause (j : Json) : Decoded (ResultCode × String) :=
  match j with
  | .list [code, text] => do return (← ResultCode.ofJson code, ← toText text)
  | _ => .error (.unexpected "a code and a text")

/-- The transfer that scripted failures are about. -/
def scriptedKey : Record.Key := ⟨7, "a", "b"⟩

/-- Read a failure: its kind and what it is about. -/
def readFault (j : Json) : Decoded SessionFault := do
  let text := j.textAt "arg"
  match j.textAt "err" with
  | "closed" => return .closed
  | "timeout" => return .timeout (.ofNanos (← j.need "arg" toNat64))
  | "io" => return .io text
  | "notConnected" => return .notConnected text
  | "invalidPattern" => return .invalidPattern text
  | "json" => return .json (.unfinishedObject 1 1)
  | "connect" => let (code, message) ← j.need "arg" readCause; return .connect code message
  | "remote" => let (code, message) ← j.need "arg" readCause; return .remote code message
  | "unknownRule" => return .transfer (.unknownRule text)
  | "unknownHost" => return .transfer (.unknownHost text)
  | "invalidRequest" => return .transfer (.invalidRequest text)
  | "transferIo" => return .transfer (.io (.other text))
  | "recordNotFound" => return .transfer (.recordNotFound scriptedKey)
  | "duplicateRecord" => return .transfer (.duplicateRecord scriptedKey)
  | "recordImmutable" => return .transfer (.recordImmutable scriptedKey)
  | "rankRegression" => return .transfer (.rankRegression scriptedKey 9 2)
  | "malformedCommand" => return .wire (.malformedCommand text)
  | "unknownCode" => return .wire (.unknownCode (text.toList.head?.getD ' '))
  | other => .error (.unknownName other)

/-! ## Cues -/

/-- How long a cue waits. -/
def readDelay (j : Json) : Decoded Nat :=
  j.mayOr "delayMs" 0 toNat64

/-- Read a cue that may make the call fail. -/
def readCue {α : Type} (act : Json → Decoded α) (j : Json) :
    Decoded (Cue (Except SessionFault α)) := do
  let delay ← readDelay j
  if (j.given? "err").isSome then return ⟨delay, .error (← readFault j)⟩
  else return ⟨delay, .ok (← act j)⟩

/-- Read how a session is opened. -/
def readReception (j : Json) : Decoded (Cue Reception) := do
  let delay ← readDelay j
  if j == .string "overloaded" then return ⟨delay, .overloaded⟩
  else
    match j.given? "pending", j.given? "fatal" with
    | some reason, _ => return ⟨delay, .pending (← toText reason)⟩
    | none, some cause =>
        let (code, message) ← readCause cause
        return ⟨delay, .fatal code message⟩
    | none, none => return ⟨delay, .welcome⟩

/-- Read how a transfer ends. -/
def readCompletion (j : Json) : Decoded Completion := do
  match j, j.given? "failed" with
  | _, some cause =>
      let (code, message) ← readCause cause
      return .failed code message
  | .object _, none =>
      return {
        success := ← j.mayOr "success" true toBool
        code := ← j.mayOr "code" .completeOk ResultCode.ofJson
        message := ← j.may "message" toText
        rank := ← j.may "rank" toNat32 }
  | _, none => return .ok Script.usualRank

/-- The text of a payload: the text itself, or the value as a text. -/
def payloadText : Json → String
  | .string s => s
  | other => (sorted (canonical other)).compact

/-- Read an answer. -/
def readAnswer (j : Json) : Decoded Answer :=
  match j, j.member? "ok" with
  | _, some payload => .ok { code := .completeOk, payload := some (payloadText payload) }
  | .object _, none => Answer.ofJson j
  | _, none => .ok { code := .completeOk }

/-- Read a cue that only waits or fails. -/
def readPause : Json → Decoded (Cue (Except SessionFault Unit)) :=
  readCue fun _ => .ok ()

/-- Read a block of bytes. -/
def readBytes (j : Json) : Decoded ByteArray := do
  match Text.Hex.decode? (← toText j) with
  | some bytes => return bytes
  | none => .error (.unexpected "bytes")

/-! ## Scripts -/

/-- Read the script of a partner. -/
def Script.ofJson (j : Json) : Decoded Script := do
  return {
    connect := ← (j.listAt "connect").mapM readReception
    send := ← (j.listAt "send").mapM readPause
    writable := ← (j.listAt "writable").mapM readPause
    complete := ← (j.listAt "complete").mapM (readCue readCompletion)
    answer := ← (j.listAt "answer").mapM (readCue readAnswer)
    inbound := ← j.may "inbound" (toListOf readBytes) }

/-- Read the scripts of several partners. -/
def Cast.ofJson : Json → Decoded Cast
  | .object members => members.mapM fun m => do return (m.1, ← Script.ofJson m.2)
  | _ => .error (.unexpected "scripts")

/-! ## Plans -/

/-- Change the files of a world. -/
def World.changeFiles (w : World) (c : FileTree.Change) : World :=
  { w with files := w.files.apply c }

/-- Read what somebody does: stop the programs, look at them, give more cues, or change the
files. -/
def Deed.ofJson (j : Json) : Decoded Deed := do
  if j.flagAt "stop" then return .stop
  else if j.flagAt "probe" then return .look
  else
    match ← j.may "script" Cast.ofJson with
    | some more => return .change fun w => w.extendCast more
    | none =>
        let c ← FileTree.Change.ofJson j
        return .change fun w => w.changeFiles c

/-- Read a plan, whose times count from a start. -/
def planOfJson (start : Nat) : List Json → Decoded Plan
  | [] => return []
  | j :: rest => do
      let time ← j.mayOr "at" 0 toNat64
      let deed ← Deed.ofJson j
      return (start + time, deed) :: (← planOfJson start rest)

end Courier.Simulation
