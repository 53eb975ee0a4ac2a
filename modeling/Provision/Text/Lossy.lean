/-!
# Reading bytes as text

Bytes in UTF-8 as characters. Where the bytes are not UTF-8, the longest part that begins a character, or else one
byte, is read as the replacement character; a byte order mark at the front is dropped. Main statement: bytes below
128 stand for themselves (`decodeFrom_of_ascii`).
-/

namespace Provision.Text.Lossy

/-- What stands for bytes that are no character. -/
def replacement : Char := '\ufffd'

/-- How many bytes follow the first one of a character, and the least and the greatest value of the next of them. -/
def lead? (b : UInt8) : Option (Nat × UInt8 × UInt8) :=
  if 0xC2 ≤ b ∧ b ≤ 0xDF then some (1, 0x80, 0xBF)
  else if b = 0xE0 then some (2, 0xA0, 0xBF)
  else if b = 0xED then some (2, 0x80, 0x9F)
  else if 0xE1 ≤ b ∧ b ≤ 0xEF then some (2, 0x80, 0xBF)
  else if b = 0xF0 then some (3, 0x90, 0xBF)
  else if 0xF1 ≤ b ∧ b ≤ 0xF3 then some (3, 0x80, 0xBF)
  else if b = 0xF4 then some (3, 0x80, 0x8F)
  else none

/-- What the first byte of a character of several bytes adds to its code. -/
def leadBits (b : UInt8) (following : Nat) : Nat := b.toNat % (1 <<< (6 - following))

/-- Where the reader is: between two characters, or inside of one of which the code so far is known, with the number
of bytes that are missing and the bounds of the next one. -/
inductive Place where
  | between
  | inside (code missing : Nat) (low high : UInt8)

/-- Reads bytes from a place. -/
def decodeFrom : Place → List UInt8 → List Char
  | .between, [] => []
  | .inside .., [] => [replacement]
  | .between, b :: rest =>
    if b < 0x80 then Char.ofNat b.toNat :: decodeFrom .between rest
    else
      match lead? b with
      | some (following, low, high) => decodeFrom (.inside (leadBits b following) following low high) rest
      | none => replacement :: decodeFrom .between rest
  | .inside code missing low high, b :: rest =>
    if low ≤ b ∧ b ≤ high then
      let code := code * 64 + b.toNat % 64
      if missing ≤ 1 then Char.ofNat code :: decodeFrom .between rest
      else decodeFrom (.inside code (missing - 1) 0x80 0xBF) rest
    else if b < 0x80 then replacement :: Char.ofNat b.toNat :: decodeFrom .between rest
    else
      match lead? b with
      | some (following, low, high) =>
        replacement :: decodeFrom (.inside (leadBits b following) following low high) rest
      | none => replacement :: replacement :: decodeFrom .between rest

/-- The text of bytes. -/
def decode (bytes : List UInt8) : String :=
  match decodeFrom .between bytes with
  | '\ufeff' :: rest => String.ofList rest
  | chars => String.ofList chars

theorem decodeFrom_of_ascii {bytes : List UInt8} (h : ∀ b ∈ bytes, b < 0x80) :
    decodeFrom .between bytes = bytes.map fun b => Char.ofNat b.toNat := by
  induction bytes with
  | nil => rfl
  | cons b r ih =>
    rw [decodeFrom, if_pos (h b (by simp)), ih fun x hx => h x (by simp [hx])]
    rfl

end Provision.Text.Lossy
