import SearchWire.Config
import SearchWire.Tree.Decoding
import SearchWire.Tree.Encoding

/-!
# Codecs

A codec encodes and decodes under a size limit. The limit is checked behind a successful encoding
and in front of a decoding, so a value that cannot be encoded has the same error under every limit,
and bytes above the limit are refused whatever they hold.
-/

namespace SearchWire

/-- An encoder and decoder with its settings. -/
structure Codec where
  config : Config := {}

namespace Codec

/-- A message of the given length is not above the limit. -/
def checkSize (c : Codec) (size : Nat) : Result Unit :=
  if c.config.maxMessageSize < size then .error (.tooLarge size c.config.maxMessageSize)
  else .ok ()

/-- The bytes of a value, if there are not too many of them. -/
def encode (c : Codec) {s : Shape} (v : Value s) : Result Bytes := do
  let bs ← SearchWire.encode v
  c.checkSize bs.length
  return bs

/-- The value that a byte string is, if it is not too long. -/
def decode (c : Codec) (s : Shape) (bs : Bytes) : Result (Value s) := do
  c.checkSize bs.length
  SearchWire.decode s bs

end Codec

end SearchWire
