import Courier.Json.Decode

/-!
# Result codes

How a transfer or an answer of a partner ended.

Main definitions:

- `ResultCode` is a code; `ResultCode.all` lists them in their order.
- `ResultCode.ordinal` is the place in that order, which serves as an exit status.
- `ResultCode.letter` is the one-letter form, and `ResultCode.ofLetter?` reads it.
- `ResultCode.isOkStep` marks the codes that report progress or completion.

Main statements:

- A code is found again by its letter (`ofLetter?_letter`) and by its name
  (`ofJson_toJson`).
- Only the code of registration has the ordinal zero (`ordinal_eq_zero_iff`).
-/

namespace Courier

/-- How a transfer or an answer ended. -/
inductive ResultCode where
  | initOk
  /-- The steps before the transfer went well. -/
  | preProcessingOk
  | transferOk
  /-- The steps after the transfer went well. -/
  | postProcessingOk
  | completeOk
  | connectionImpossible
  | serverOverloaded
  | badAuthent
  /-- A step outside the transfer failed. -/
  | externalOp
  | transferError
  | digestError
  | disconnection
  | remoteShutdown
  | finalOp
  /-- The partner does not know the service. -/
  | unimplemented
  | shutdown
  | remoteError
  | internal
  /-- The transfer was stopped on request. -/
  | stoppedTransfer
  /-- The transfer was canceled on request. -/
  | canceledTransfer
  | warning
  | unknown
  | queryAlreadyFinished
  /-- The transfer is still going on. -/
  | queryStillRunning
  | notKnownHost
  | loopSelfRequestedHost
  /-- The partner does not know the transfer. -/
  | queryRemotelyUnknown
  | fileNotFound
  | commandNotFound
  /-- A streamed transfer cannot be restarted. -/
  | passThroughMode
  | running
  | incorrectCommand
  /-- The file may not be transferred. -/
  | fileNotAllowed
  | sizeNotAllowed
deriving DecidableEq, Repr, Inhabited

namespace ResultCode

/-- Every code, in order. -/
def all : List ResultCode := [
  .initOk, .preProcessingOk, .transferOk, .postProcessingOk, .completeOk, .connectionImpossible,
  .serverOverloaded, .badAuthent, .externalOp, .transferError, .digestError, .disconnection,
  .remoteShutdown, .finalOp, .unimplemented, .shutdown, .remoteError, .internal,
  .stoppedTransfer, .canceledTransfer, .warning, .unknown, .queryAlreadyFinished,
  .queryStillRunning, .notKnownHost, .loopSelfRequestedHost, .queryRemotelyUnknown,
  .fileNotFound, .commandNotFound, .passThroughMode, .running, .incorrectCommand,
  .fileNotAllowed, .sizeNotAllowed]

/-- The place of a code in the order. -/
def ordinal : ResultCode → Nat
  | initOk => 0
  | preProcessingOk => 1
  | transferOk => 2
  | postProcessingOk => 3
  | completeOk => 4
  | connectionImpossible => 5
  | serverOverloaded => 6
  | badAuthent => 7
  | externalOp => 8
  | transferError => 9
  | digestError => 10
  | disconnection => 11
  | remoteShutdown => 12
  | finalOp => 13
  | unimplemented => 14
  | shutdown => 15
  | remoteError => 16
  | internal => 17
  | stoppedTransfer => 18
  | canceledTransfer => 19
  | warning => 20
  | unknown => 21
  | queryAlreadyFinished => 22
  | queryStillRunning => 23
  | notKnownHost => 24
  | loopSelfRequestedHost => 25
  | queryRemotelyUnknown => 26
  | fileNotFound => 27
  | commandNotFound => 28
  | passThroughMode => 29
  | running => 30
  | incorrectCommand => 31
  | fileNotAllowed => 32
  | sizeNotAllowed => 33

/-- The name of a code. -/
def name : ResultCode → String
  | initOk => "InitOk"
  | preProcessingOk => "PreProcessingOk"
  | transferOk => "TransferOk"
  | postProcessingOk => "PostProcessingOk"
  | completeOk => "CompleteOk"
  | connectionImpossible => "ConnectionImpossible"
  | serverOverloaded => "ServerOverloaded"
  | badAuthent => "BadAuthent"
  | externalOp => "ExternalOp"
  | transferError => "TransferError"
  | digestError => "DigestError"
  | disconnection => "Disconnection"
  | remoteShutdown => "RemoteShutdown"
  | finalOp => "FinalOp"
  | unimplemented => "Unimplemented"
  | shutdown => "Shutdown"
  | remoteError => "RemoteError"
  | internal => "Internal"
  | stoppedTransfer => "StoppedTransfer"
  | canceledTransfer => "CanceledTransfer"
  | warning => "Warning"
  | unknown => "Unknown"
  | queryAlreadyFinished => "QueryAlreadyFinished"
  | queryStillRunning => "QueryStillRunning"
  | notKnownHost => "NotKnownHost"
  | loopSelfRequestedHost => "LoopSelfRequestedHost"
  | queryRemotelyUnknown => "QueryRemotelyUnknown"
  | fileNotFound => "FileNotFound"
  | commandNotFound => "CommandNotFound"
  | passThroughMode => "PassThroughMode"
  | running => "Running"
  | incorrectCommand => "IncorrectCommand"
  | fileNotAllowed => "FileNotAllowed"
  | sizeNotAllowed => "SizeNotAllowed"

/-- The one-letter form of a code. -/
def letter : ResultCode → Char
  | initOk => 'i'
  | preProcessingOk => 'B'
  | transferOk => 'X'
  | postProcessingOk => 'P'
  | completeOk => 'O'
  | connectionImpossible => 'C'
  | serverOverloaded => 'l'
  | badAuthent => 'A'
  | externalOp => 'E'
  | transferError => 'T'
  | digestError => 'M'
  | disconnection => 'D'
  | remoteShutdown => 'r'
  | finalOp => 'F'
  | unimplemented => 'U'
  | shutdown => 'S'
  | remoteError => 'R'
  | internal => 'I'
  | stoppedTransfer => 'H'
  | canceledTransfer => 'K'
  | warning => 'W'
  | unknown => '-'
  | queryAlreadyFinished => 'Q'
  | queryStillRunning => 's'
  | notKnownHost => 'N'
  | loopSelfRequestedHost => 'L'
  | queryRemotelyUnknown => 'u'
  | fileNotFound => 'f'
  | commandNotFound => 'c'
  | passThroughMode => 'p'
  | running => 'z'
  | incorrectCommand => 'n'
  | fileNotAllowed => 'a'
  | sizeNotAllowed => 'd'

/-- The description of a code. -/
def message : ResultCode → String
  | initOk => "initialization step ok"
  | preProcessingOk => "pre-processing step ok"
  | transferOk => "transfer step ok"
  | postProcessingOk => "post-processing step ok"
  | completeOk => "transfer complete"
  | connectionImpossible => "connection impossible"
  | serverOverloaded => "server overloaded"
  | badAuthent => "bad authentication"
  | externalOp => "external operation in error"
  | transferError => "transfer in error"
  | digestError => "digest verification failed"
  | disconnection => "network disconnection"
  | remoteShutdown => "remote shutdown"
  | finalOp => "final action in error"
  | unimplemented => "service not implemented"
  | shutdown => "shutdown in progress"
  | remoteError => "remote error"
  | internal => "internal error"
  | stoppedTransfer => "transfer stopped"
  | canceledTransfer => "transfer canceled"
  | warning => "warning during transfer"
  | unknown => "unknown status"
  | queryAlreadyFinished => "request already finished"
  | queryStillRunning => "request still running"
  | notKnownHost => "unknown host"
  | loopSelfRequestedHost => "host requested itself"
  | queryRemotelyUnknown => "request unknown on partner"
  | fileNotFound => "file not found"
  | commandNotFound => "command not found"
  | passThroughMode => "through-mode transfer cannot be restarted"
  | running => "transfer running"
  | incorrectCommand => "incorrect command"
  | fileNotAllowed => "file not allowed"
  | sizeNotAllowed => "size not allowed"

/-- The code with a given letter. -/
def ofLetter? (c : Char) : Option ResultCode :=
  all.find? fun code => code.letter == c

/-- Whether a code only reports progress or completion. -/
def isOkStep : ResultCode → Bool
  | initOk | preProcessingOk | transferOk | postProcessingOk | completeOk => true
  | _ => false

/-- The description of a code with its letter. -/
def text (code : ResultCode) : String :=
  code.message ++ " (" ++ code.letter.toString ++ ")"

/-! ## Order and letters -/

/-- The order lists every code at its place. -/
theorem getElem?_ordinal (code : ResultCode) : all[code.ordinal]? = some code := by
  cases code <;> rfl

/-- Every code is listed. -/
theorem mem_all (code : ResultCode) : code ∈ all :=
  List.mem_of_getElem? (getElem?_ordinal code)

/-- A code is found again by its letter. -/
theorem ofLetter?_letter (code : ResultCode) : ofLetter? code.letter = some code := by
  cases code <;> decide

/-- Only the code of registration has the ordinal zero. -/
theorem ordinal_eq_zero_iff (code : ResultCode) : code.ordinal = 0 ↔ code = initOk := by
  cases code <;> simp [ordinal]

/-! ## JSON -/

/-- The names under which codes travel. -/
def names : List (String × ResultCode) :=
  all.map fun code => (code.name, code)

/-- A code as its name. -/
def toJson (code : ResultCode) : Json :=
  .string code.name

/-- Read a code. -/
def ofJson (j : Json) : Json.Decoded ResultCode :=
  Json.choice names j

/-- A code is read back from its name. -/
theorem ofJson_toJson (code : ResultCode) : ofJson code.toJson = .ok code := by
  cases code <;> rfl

end ResultCode

end Courier
