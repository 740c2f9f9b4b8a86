/-!
# Response ids

A response that its vendor gives no id gets one of its own: the hexadecimal digits of a random UUID
after a mark that tells them from vendors' ids.
-/
namespace ChatRelay.ResponseId

/-- The byte at a place of a random UUID: the seventh byte starts with the version, four, and the
ninth with the variant, the bits one and zero; all other bits are random. -/
def stamp (place : Nat) (byte : UInt8) : UInt8 :=
  if place = 6 then 0x40 + byte % 0x10
  else if place = 8 then 0x80 + byte % 0x40
  else byte

def digits (byte : UInt8) : List Char :=
  [byte.toNat / 16, byte.toNat % 16].map Nat.digitChar

/-- The id of sixteen random bytes. -/
def ofBytes (bytes : List UInt8) : String :=
  "resp_" ++ String.ofList ((bytes.mapIdx stamp).flatMap digits)

end ChatRelay.ResponseId
