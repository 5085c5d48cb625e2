/-
RSA signatures over SHA-256, with the padding of PKCS #1 version 1.5.

A signature is a number below the modulus; raised to the public exponent it must give exactly
the padded encoding of the message's digest, no encoding of it that merely contains the digest.
Keys that cannot be sound, or would take too long to reckon with, verify nothing.

* `Rsa.Key` — a public key, as the bytes of its modulus and exponent;
* `Rsa.isUsable` — whether a modulus and an exponent can be those of a key;
* `Rsa.encoding` — the padded encoding of a digest;
* `Rsa.verifies` — whether a signature of a message verifies under a key.
-/
import TodoServer.Crypto.Sha256

namespace TodoServer.Rsa

/-- A public key, both numbers with the most significant byte first. -/
structure Key where
  modulus : List UInt8
  exponent : List UInt8
deriving DecidableEq, Repr

/-- The number that bytes write, the most significant first. -/
def ofBytes (bytes : List UInt8) : Nat := bytes.foldl (fun n b => n * 256 + b.toNat) 0

def byteLength (n : Nat) : Nat := if n = 0 then 0 else n.log2 / 8 + 1

/-- The low `count` bytes of a number, the most significant first. -/
def toBytes : Nat → Nat → List UInt8
  | 0, _ => []
  | count + 1, n => toBytes count (n / 256) ++ [UInt8.ofNat n]

/-- The last step of a power: the square so far, times the base when the bit is set. -/
def powerStep (base modulus square : Nat) (bit : Bool) : Nat :=
  let squared := square * square % modulus
  if bit then squared * base % modulus else squared

/-- The bits of a number, the most significant first. -/
def bits (n : Nat) : List Bool :=
  if n = 0 then [] else ((List.range (n.log2 + 1)).map n.testBit).reverse

/-- A power of a number, modulo another. -/
def power (base exponent modulus : Nat) : Nat :=
  (bits exponent).foldl (powerStep base modulus) (1 % modulus)

/-- What stands before a digest in its encoding and names the digest's algorithm. -/
def digestPrologue : List UInt8 :=
  [0x30, 0x31, 0x30, 0x0d, 0x06, 0x09, 0x60, 0x86, 0x48, 0x01, 0x65, 0x03, 0x04, 0x02,
    0x01, 0x05, 0x00, 0x04, 0x20]

/-- The encoding of a message, filled up to a size. -/
def encoding (size : Nat) (message : List UInt8) : List UInt8 :=
  let tail := digestPrologue ++ Sha256.digest message
  0x00 :: 0x01 :: List.replicate (size - tail.length - 3) 0xff ++ 0x00 :: tail

def bitLength (n : Nat) : Nat := if n = 0 then 0 else n.log2 + 1

/-- The least size of a modulus, in bits. -/
def leastBits : Nat := 2048

/-- The greatest size of a modulus, in bits. -/
def greatestBits : Nat := 16384

/-- The greatest size of a modulus under which any exponent will do, in bits. -/
def freeExponentBits : Nat := 3072

/-- The greatest size of an exponent under a larger modulus, in bits. -/
def exponentBits : Nat := 64

/-- Whether a modulus and an exponent can be those of a key: the modulus is odd and of a size
that is neither too small nor too great, and the exponent is below it, and short where the
modulus is long. -/
def isUsable (modulus exponent : Nat) : Bool :=
  leastBits ≤ bitLength modulus && bitLength modulus ≤ greatestBits && modulus % 2 = 1 &&
    exponent < modulus &&
    (bitLength modulus ≤ freeExponentBits || bitLength exponent ≤ exponentBits)

/-- Whether a signature of a message verifies under a key. -/
def verifies (key : Key) (message signature : List UInt8) : Bool :=
  let modulus := ofBytes key.modulus
  let exponent := ofBytes key.exponent
  let size := byteLength modulus
  let value := ofBytes signature
  isUsable modulus exponent && signature.length = size && value < modulus &&
    toBytes size (power value exponent modulus) = encoding size message

end TodoServer.Rsa
