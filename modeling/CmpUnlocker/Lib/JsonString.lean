import Mathlib.Data.Nat.Notation

/-!
# JSON strings

A reader of JSON strings given as bytes.  It stops at the first quote that is not escaped; a raw control character, an
escape that is not one of JSON's and a text without a closing quote are errors.  A byte that is no control character,
quote or backslash stands for itself, and `\uXXXX` for the UTF-8 encoding of the code point.
-/

namespace JsonString

def quote : UInt8 := 0x22

def backslash : UInt8 := 0x5c

/-- The value of a hexadecimal digit. -/
def hexValue (b : UInt8) : Option ℕ :=
  if 0x30 ≤ b ∧ b ≤ 0x39 then some (b.toNat - 0x30)
  else if 0x61 ≤ b ∧ b ≤ 0x66 then some (b.toNat - 0x61 + 10)
  else if 0x41 ≤ b ∧ b ≤ 0x46 then some (b.toNat - 0x41 + 10)
  else none

/-- The byte that an escape of two characters stands for. -/
def simpleEscape : UInt8 → Option UInt8
  | 0x22 => some 0x22
  | 0x5c => some 0x5c
  | 0x2f => some 0x2f
  | 0x62 => some 0x08
  | 0x66 => some 0x0c
  | 0x6e => some 0x0a
  | 0x72 => some 0x0d
  | 0x74 => some 0x09
  | _ => none

/-- UTF-8 of a code point below 2^16; the halves of surrogate pairs are none. -/
def utf8 (n : ℕ) : Option (List UInt8) :=
  if n < 0x80 then some [UInt8.ofNat n]
  else if n < 0x800 then some [UInt8.ofNat (0xc0 + n / 64), UInt8.ofNat (0x80 + n % 64)]
  else if 0xd800 ≤ n ∧ n < 0xe000 then none
  else some [UInt8.ofNat (0xe0 + n / 4096), UInt8.ofNat (0x80 + n / 64 % 64), UInt8.ofNat (0x80 + n % 64)]

/-- Where the reader is: at a character, behind a backslash, or at one of the digits of a code point. -/
inductive At
  | plain
  | escape
  | digit (left acc : ℕ)
  deriving DecidableEq

/-- The bytes up to the closing quote, and the text behind it. -/
def read : At → List UInt8 → Option (List UInt8 × List UInt8)
  | _, [] => none
  | .plain, b :: text =>
    if b = quote then some ([], text)
    else if b = backslash then read .escape text
    else if b < 0x20 then none
    else (read .plain text).map fun r => (b :: r.1, r.2)
  | .escape, b :: text =>
    if b = 0x75 then read (.digit 3 0) text
    else (simpleEscape b).bind fun c => (read .plain text).map fun r => (c :: r.1, r.2)
  | .digit left acc, b :: text =>
    (hexValue b).bind fun d => match left with
      | left + 1 => read (.digit left (16 * acc + d)) text
      | 0 => (utf8 (16 * acc + d)).bind fun bytes => (read .plain text).map fun r => (bytes ++ r.1, r.2)

/-- A string with its quotes, and the text behind it. -/
def string : List UInt8 → Option (List UInt8 × List UInt8)
  | [] => none
  | b :: text => if b = quote then read .plain text else none

/-- The bytes of a text that are neither a backslash that escapes a byte nor escaped by one. -/
def bare : List UInt8 → List UInt8
  | [] => []
  | [b] => [b]
  | b :: c :: text => if b = backslash then bare text else b :: bare (c :: text)

/-! ### Single characters -/

variable {text : List UInt8}

theorem read_quote : read .plain (quote :: text) = some ([], text) := rfl

theorem read_plain {b : UInt8} (hquote : b ≠ quote) (hbackslash : b ≠ backslash) (hcontrol : ¬b < 0x20) :
    read .plain (b :: text) = (read .plain text).map fun r => (b :: r.1, r.2) := by
  rw [read, if_neg hquote, if_neg hbackslash, if_neg hcontrol]

theorem read_simple {e c : UInt8} (h : simpleEscape e = some c) :
    read .plain (backslash :: e :: text) = (read .plain text).map fun r => (c :: r.1, r.2) := by
  have hcode : e ≠ 0x75 := by
    rintro rfl
    cases h
  have hstart : read .plain (backslash :: e :: text) = read .escape (e :: text) := rfl
  rw [hstart, read, if_neg hcode, h]
  rfl

theorem read_digit {b : UInt8} {d left acc : ℕ} (h : hexValue b = some d) :
    read (.digit (left + 1) acc) (b :: text) = read (.digit left (16 * acc + d)) text := by
  rw [read, h]
  rfl

theorem read_lastDigit {b : UInt8} {d acc : ℕ} {bytes : List UInt8} (h : hexValue b = some d)
    (hbytes : utf8 (16 * acc + d) = some bytes) :
    read (.digit 0 acc) (b :: text) = (read .plain text).map fun r => (bytes ++ r.1, r.2) := by
  rw [read, h]
  show (utf8 (16 * acc + d)).bind _ = _
  rw [hbytes]
  rfl

/-- A code point given by four digits. -/
theorem read_code {b₁ b₂ b₃ b₄ : UInt8} {d₁ d₂ d₃ d₄ : ℕ} {bytes : List UInt8} (h₁ : hexValue b₁ = some d₁)
    (h₂ : hexValue b₂ = some d₂) (h₃ : hexValue b₃ = some d₃) (h₄ : hexValue b₄ = some d₄)
    (hbytes : utf8 (16 * (16 * (16 * d₁ + d₂) + d₃) + d₄) = some bytes) :
    read .plain (backslash :: 0x75 :: b₁ :: b₂ :: b₃ :: b₄ :: text) =
      (read .plain text).map fun r => (bytes ++ r.1, r.2) := by
  have hstart : read .plain (backslash :: 0x75 :: b₁ :: b₂ :: b₃ :: b₄ :: text) =
      read (.digit 3 0) (b₁ :: b₂ :: b₃ :: b₄ :: text) := rfl
  rw [hstart, read_digit h₁, read_digit h₂, read_digit h₃, Nat.mul_zero, Nat.zero_add, read_lastDigit h₄ hbytes]

theorem simpleEscape_le {e c : UInt8} (h : simpleEscape e = some c) : 0x20 ≤ e := by
  unfold simpleEscape at h
  split at h <;> first | decide | cases h

theorem hexValue_bounds {b : UInt8} {d : ℕ} (h : hexValue b = some d) : 0x30 ≤ b ∧ b ≠ backslash := by
  unfold hexValue backslash at *
  split at h
  · grind -ring -linarith
  · split at h
    · grind -ring -linarith
    · split at h <;> grind -ring -linarith

theorem bare_escape {e : UInt8} : bare (backslash :: e :: text) = bare text := if_pos rfl

theorem bare_cons {b : UInt8} (h : b ≠ backslash) : bare (b :: text) = b :: bare text := by
  cases text with
  | nil => rfl
  | cons c text => exact if_neg h

end JsonString
