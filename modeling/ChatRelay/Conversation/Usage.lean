import ChatRelay.Json.Decode

/-!
# Token usage

The counts of one vendor call. The total is always that of prompt and completion, and stays at the
largest count where the sum would be larger.
-/
namespace ChatRelay

open Json (Reader)
open Json.Reader (RecordField)

/-- Token counts; those of the cache are absent where a vendor does not report them. -/
structure Usage where
  prompt : UInt64
  completion : UInt64
  total : UInt64
  cacheCreation : Option UInt64
  cacheRead : Option UInt64
  deriving DecidableEq, Repr

namespace Usage

def largestCount : UInt64 := 18446744073709551615

/-- The sum of two counts, or the largest count if that is smaller. -/
def saturatingAdd (a b : UInt64) : UInt64 :=
  if a.toNat + b.toNat ≤ largestCount.toNat then a + b else largestCount

def ofCounts (prompt completion : UInt64) : Usage :=
  ⟨prompt, completion, saturatingAdd prompt completion, none, none⟩

def zero : Usage := ofCounts 0 0

def fields : List (RecordField Usage) := [
  .make "prompt_tokens" true Reader.uint64 fun u n => { u with prompt := n },
  .make "completion_tokens" true Reader.uint64 fun u n => { u with completion := n },
  .make "total_tokens" true Reader.uint64 fun u n => { u with total := n },
  .make "cache_creation_tokens" false (Reader.optional Reader.uint64) fun u n =>
    { u with cacheCreation := n },
  .make "cache_read_tokens" false (Reader.optional Reader.uint64) fun u n =>
    { u with cacheRead := n }]

def reader : Reader Usage := Reader.record "struct Usage" fields zero

def toJson (u : Usage) : Json := Json.object
  ([("prompt_tokens", Json.ofUInt64 u.prompt), ("completion_tokens", Json.ofUInt64 u.completion),
      ("total_tokens", Json.ofUInt64 u.total)]
    ++ Json.optional "cache_creation_tokens" (u.cacheCreation.map Json.ofUInt64)
    ++ Json.optional "cache_read_tokens" (u.cacheRead.map Json.ofUInt64))

end Usage
end ChatRelay
