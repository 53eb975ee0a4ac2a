import Provision.Digest.Sha256

/-!
# Keyed digests

The digest of a message under a key: the message is digested after the key masked in one way, and the result after
the key masked in another. Digests are written in lower-case hexadecimal digits, two for each byte.
-/

namespace Provision.Digest

/-- A key of the size of one block: a longer one is digested, a shorter one filled up with zeros. -/
def blockKey (key : List UInt8) : List UInt8 :=
  let short := if 64 < key.length then sha256 key else key
  short ++ List.replicate (64 - short.length) 0

/-- The digest of a message under a key. -/
def hmac (key message : List UInt8) : List UInt8 :=
  let mask (m : UInt8) : List UInt8 := (blockKey key).map (· ^^^ m)
  sha256 (mask 0x5c ++ sha256 (mask 0x36 ++ message))

/-- A hexadecimal digit. -/
def hexDigit (n : Nat) : Char := Char.ofNat (if n < 10 then '0'.toNat + n else 'a'.toNat + (n - 10))

/-- Bytes in hexadecimal digits. -/
def hex (bytes : List UInt8) : String :=
  String.ofList (bytes.flatMap fun b => [hexDigit (b.toNat / 16), hexDigit (b.toNat % 16)])

/-- The digest of a text in hexadecimal digits. -/
def hexDigest (text : String) : String := hex (sha256 (utf8 text))

theorem length_hex (bytes : List UInt8) : (hex bytes).length = 2 * bytes.length := by
  induction bytes with
  | nil => rfl
  | cons b r ih =>
    simp only [hex, String.length_ofList, List.flatMap_cons, List.length_append, List.length_cons,
      List.length_nil] at ih ⊢
    omega

theorem length_hexDigest (text : String) : (hexDigest text).length = 64 := by
  rw [hexDigest, length_hex, length_sha256]

end Provision.Digest
