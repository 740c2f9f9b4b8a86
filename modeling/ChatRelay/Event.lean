import ChatRelay.Conversation.Response

/-!
# Events

What is worth a line in the log. An event is its cause; how urgent it is, what the line says and
which fields it shows follow from that.
-/
namespace ChatRelay

/-- Something that happened during a conversion or a turn. -/
inductive Event where
  | replyNotJson (vendor : String)
  | malformedField (field : String) (kind : Json.Kind)
  | replyError (vendor message : String)
  | oddContent (kind : Json.Kind)
  | strayOutput (callId fallbackName : String)
  | outputWithoutCall
  | argumentsNotObject
  | blockSkipped (kind : String)
  | promptBlocked (vendor reason : String)
  | malformedCount (path : List String)
  | noCandidates
  | reportDropped (session provider : String)
  | converterRegistered (provider protocol model : String)
  | requestSent (session provider : String) (historyLength newItems : Nat)
  | turnNotRecorded (session provider responseId : String)
  | turnFinished (session provider model : String) (status : Status) (total : UInt64)
  deriving DecidableEq, Repr

namespace Event

inductive Level where
  | debug | info | warn
  deriving DecidableEq, Repr

def Level.name : Level → String
  | .debug => "DEBUG"
  | .info => "INFO"
  | .warn => "WARN"

def level : Event → Level
  | .replyNotJson _ => .warn
  | .replyError _ _ => .warn
  | .promptBlocked _ _ => .warn
  | .reportDropped _ _ => .warn
  | .turnNotRecorded _ _ _ => .warn
  | .turnFinished _ _ _ _ _ => .info
  | .malformedField _ _ => .debug
  | .oddContent _ => .debug
  | .strayOutput _ _ => .debug
  | .outputWithoutCall => .debug
  | .argumentsNotObject => .debug
  | .blockSkipped _ => .debug
  | .malformedCount _ => .debug
  | .noCandidates => .debug
  | .converterRegistered _ _ _ => .debug
  | .requestSent _ _ _ _ => .debug

def message : Event → String
  | .replyNotJson _ => "vendor response is not valid JSON"
  | .malformedField _ _ => "malformed vendor field, using zero value"
  | .replyError _ _ => "vendor response carries an error"
  | .oddContent _ => "content has unexpected shape, extracting no text"
  | .strayOutput _ _ => "function output matches no pending call"
  | .outputWithoutCall => "function output without a call id and no pending call"
  | .argumentsNotObject => "function arguments are not a JSON object, sending empty arguments"
  | .blockSkipped _ => "skipping claude content block"
  | .promptBlocked _ _ => "prompt was blocked before any candidate was produced"
  | .malformedCount _ => "malformed usage count, treating as zero"
  | .noCandidates => "vendor returned no candidates, classifying as completed"
  | .reportDropped _ _ => "failed to enqueue usage report, channel closed"
  | .converterRegistered _ _ _ => "registering converter"
  | .requestSent _ _ _ _ => "sending vendor request"
  | .turnNotRecorded _ _ _ => "vendor response failed, turn not recorded"
  | .turnFinished _ _ _ _ _ => "turn finished"

def statusWord : Status → String
  | .completed => "Completed"
  | .failed => "Failed"

def fields : Event → List (String × Json)
  | .replyNotJson vendor => [("provider", .str vendor)]
  | .malformedField field kind => [("field", .str field), ("kind", .str kind.name)]
  | .replyError vendor message => [("provider", .str vendor), ("error_message", .str message)]
  | .oddContent kind => [("kind", .str kind.name)]
  | .strayOutput callId name => [("call_id", .str callId), ("fallback_name", .str name)]
  | .outputWithoutCall => []
  | .argumentsNotObject => []
  | .blockSkipped kind => [("block_type", .str kind)]
  | .promptBlocked vendor reason => [("provider", .str vendor), ("block_reason", .str reason)]
  | .malformedCount path => [("field", .str (Text.join "." path))]
  | .noCandidates => []
  | .reportDropped session provider =>
    [("session_id", .str session), ("provider", .str provider)]
  | .converterRegistered provider protocol model =>
    [("provider", .str provider), ("protocol", .str protocol), ("model", .str model)]
  | .requestSent session provider historyLength newItems =>
    [("session_id", .str session), ("provider", .str provider),
      ("history_len", .ofNat historyLength), ("new_items", .ofNat newItems)]
  | .turnNotRecorded session provider responseId =>
    [("session_id", .str session), ("provider", .str provider), ("response_id", .str responseId)]
  | .turnFinished session provider model status total =>
    [("session_id", .str session), ("provider", .str provider), ("model", .str model),
      ("status", .str (statusWord status)), ("total_tokens", .ofUInt64 total)]

end Event
end ChatRelay
