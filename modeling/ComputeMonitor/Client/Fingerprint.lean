import ComputeMonitor.Number.Binary64

/-!
Fingerprints of 64 bits: the hash function SipHash with one round for each block and three at the
end, under the key zero.
-/

set_option autoImplicit false

namespace ComputeMonitor.Client.Fingerprint

open ComputeMonitor.Number (Binary64)

structure Mixer where
  v0 : UInt64
  v1 : UInt64
  v2 : UInt64
  v3 : UInt64
  deriving DecidableEq, Repr

def start : Mixer :=
  ⟨0x736f6d6570736575, 0x646f72616e646f6d, 0x6c7967656e657261, 0x7465646279746573⟩

def rotateLeft (word amount : UInt64) : UInt64 := (word <<< amount) ||| (word >>> (64 - amount))

namespace Mixer

def round (mixer : Mixer) : Mixer :=
  let v0 := mixer.v0 + mixer.v1
  let v2 := mixer.v2 + mixer.v3
  let v1 := rotateLeft mixer.v1 13 ^^^ v0
  let v3 := rotateLeft mixer.v3 16 ^^^ v2
  let v0 := rotateLeft v0 32
  let v2 := v2 + v1
  let v0 := v0 + v3
  let v1 := rotateLeft v1 17 ^^^ v2
  let v3 := rotateLeft v3 21 ^^^ v0
  ⟨v0, v1, rotateLeft v2 32, v3⟩

def absorb (mixer : Mixer) (block : UInt64) : Mixer :=
  let mixed := { mixer with v3 := mixer.v3 ^^^ block }.round
  { mixed with v0 := mixed.v0 ^^^ block }

def finish (mixer : Mixer) : UInt64 :=
  let mixed := { mixer with v2 := mixer.v2 ^^^ 0xff }.round.round.round
  mixed.v0 ^^^ mixed.v1 ^^^ mixed.v2 ^^^ mixed.v3

end Mixer

def littleEndian (bytes : List UInt8) : UInt64 :=
  bytes.foldr (fun byte total => total <<< 8 ||| byte.toUInt64) 0

/-- Take in bytes block by block; the last block holds what is left and the length. -/
def absorbAll (length : Nat) (mixer : Mixer) : List UInt8 → Mixer
  | a :: b :: c :: d :: e :: f :: g :: h :: rest =>
    absorbAll length (mixer.absorb (littleEndian [a, b, c, d, e, f, g, h])) rest
  | rest => mixer.absorb (littleEndian rest ||| UInt64.ofNat (length % 256) <<< 56)

def ofBytes (bytes : List UInt8) : UInt64 := (absorbAll bytes.length start bytes).finish

def numberBytes : Nat → Nat → List UInt8
  | 0, _ => []
  | count + 1, n => UInt8.ofNat (n % 256) :: numberBytes count (n / 256)

/-- The bytes of a text in UTF-8, closed by a byte that no text has. -/
def textBytes (text : String) : List UInt8 := text.toUTF8.toList ++ [0xff]

def flagByte (flag : Bool) : List UInt8 := [if flag then 1 else 0]

def signedBytes (n : Int) : List UInt8 := numberBytes 8 (n % 18446744073709551616).toNat

inductive Part where
  | text (value : String)
  | number (value : Binary64)
  | signed (value : Int)
  | flag (value : Bool)
  | variant (value : Nat)
  | count (value : UInt32)
  deriving DecidableEq, Repr

def Part.bytes : Part → List UInt8
  | .text value => textBytes value
  | .number value => numberBytes 8 value.toBits
  | .signed value => signedBytes value
  | .flag value => flagByte value
  | .variant value => numberBytes 8 value
  | .count value => numberBytes 4 value.toNat

def ofParts (parts : List Part) : UInt64 := ofBytes (parts.flatMap Part.bytes)

end ComputeMonitor.Client.Fingerprint
