/-!
# Hashes of texts

The 64-bit FNV-1a hash of the octets of a text. It starts from an offset and takes the octets one after
another: the exclusive or with the octet is multiplied by a prime.
-/

namespace EndpointGate.Text

/-- The octets of the text in UTF-8. -/
def octets (s : String) : List UInt8 := s.toUTF8.data.toList

/-- The hash with one more octet. -/
def hashOctet (h : UInt64) (octet : UInt8) : UInt64 := (h ^^^ octet.toUInt64) * 0x100000001b3

/-- The FNV-1a hash of the text. -/
def hash (s : String) : UInt64 := (octets s).foldl hashOctet 0xcbf29ce484222325

end EndpointGate.Text
