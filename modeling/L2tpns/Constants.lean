import Mathlib.Init

/-! # Causes of termination and names of result codes

The codes are those of the control messages and of the accounting records; the
texts end up in the reason a session is closed with.
-/

namespace L2tpns

/-- Why a session is terminated. -/
inductive TermCause where
  | userRequest
  | lostCarrier
  | lostService
  | idleTimeout
  | sessionTimeout
  | adminReset
  | adminReboot
  | portError
  | nasError
  | nasRequest
  | nasReboot
  | portUnneeded
  | portPreempted
  | portSuspended
  | serviceUnavailable
  | callback
  | userError
  | hostRequest
  | supplicantRestart
  | reauthenticationFailure
  | portReinit
  | portDisabled
deriving DecidableEq, Repr

/-- Look a code up in a table of names; a code without a name is printed. -/
def constant (names : List (Option String)) (index : Nat) : String :=
  match names[index]? with
  | some (some name) => name
  | _ => toString index

def l2tpStopccnResultCode : Nat → String := constant [
  none,
  some "General request to clear control connection",
  some "General error--Error Code indicates the problem",
  some "Control channel already exists",
  some "Requester is not authorized to establish a control channel",
  some "The protocol version of the requester is not supported",
  some "Requester is being shut down",
  some "Finite State Machine error"]

def l2tpCdnResultCode : Nat → String := constant [
  none,
  some "Call disconnected due to loss of carrier",
  some "Call disconnected for the reason indicated in error code",
  some "Call disconnected for administrative reasons",
  some "Call failed due to lack of appropriate facilities being available (temporary condition)",
  some "Call failed due to lack of appropriate facilities being available (permanent condition)",
  some "Invalid destination",
  some "Call failed due to no carrier detected",
  some "Call failed due to detection of a busy signal",
  some "Call failed due to lack of a dial tone",
  some "Call was not established within time allotted by LAC",
  some "Call was connected but no appropriate framing was detected"]

def l2tpErrorCode : Nat → String := constant [
  some "No general error",
  some "No control connection exists yet for this LAC-LNS pair",
  some "Length is wrong",
  some "One of the field values was out of range or reserved field was non-zero",
  some "Insufficient resources to handle this operation now",
  some "The Session ID is invalid in this context",
  some "A generic vendor-specific error occurred in the LAC",
  some "Try another LNS",
  some "Session or tunnel was shutdown due to receipt of an unknown AVP with the M-bit set"]

end L2tpns
