/-!
# Byte digests

The 64-bit FNV-1a hash: start from the offset basis, and for each byte xor it in and multiply by
the prime, modulo 2^64. It names a byte string in one word where the string is too long to show.
-/

namespace PinballAudio.Digest

def fnvOffsetBasis : UInt64 := 0xcbf29ce484222325

def fnvPrime : UInt64 := 0x100000001b3

def fnvStep (h : UInt64) (b : UInt8) : UInt64 := (h ^^^ b.toUInt64) * fnvPrime

/-- The FNV-1a hash of a byte string. -/
def fnv1a (bytes : Array UInt8) : UInt64 := bytes.foldl fnvStep fnvOffsetBasis

end PinballAudio.Digest
