import ChatRelay.Json.Document

/-!
# Relay errors

Why a turn fails. Faults of the vendor's connection and of the store may pass, so the same turn may
be sent again; faults of the request itself may not.
-/
namespace ChatRelay

/-- Why a turn fails. -/
inductive RelayError where
  | invalidInput (reason : String)
  | unsupportedProvider (provider : String)
  | undecodableReply (vendor : String) (fault : Json.TextFault)
  | transport (reason : String)
  | session (reason : String)
  | internal (reason : String)
  deriving DecidableEq, Repr

namespace RelayError

def kind : RelayError → String
  | .invalidInput _ => "invalid_input_error"
  | .unsupportedProvider _ => "unsupported_provider_error"
  | .undecodableReply _ _ => "decode_error"
  | .transport _ => "transport_error"
  | .session _ => "session_error"
  | .internal _ => "internal_error"

def message : RelayError → String
  | .invalidInput reason => "invalid input: " ++ reason
  | .unsupportedProvider provider => "unsupported provider: " ++ provider
  | .undecodableReply vendor _ => "failed to decode " ++ vendor ++ " response"
  | .transport reason => "transport error: " ++ reason
  | .session reason => "session store error: " ++ reason
  | .internal reason => "internal error: " ++ reason

/-- Whether sending the same turn again may succeed. -/
def isRetryable : RelayError → Bool
  | .transport _ => true
  | .session _ => true
  | .internal _ => true
  | .invalidInput _ => false
  | .unsupportedProvider _ => false
  | .undecodableReply _ _ => false

end RelayError
end ChatRelay
