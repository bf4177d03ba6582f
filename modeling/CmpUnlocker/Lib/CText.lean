import Mathlib.Algebra.Ring.Int.Defs
import Mathlib.Data.Nat.Notation
import Mathlib.Data.Int.Notation
import Mathlib.Data.List.Induction
import CmpUnlocker.Lib.Text

/-!
# Texts of C

What `<stdio.h>`, `<stdlib.h>` and `<string.h>` do with texts: white space, the conversion `%x`, `strtol`, `strtok_r`
and `snprintf`, with an `unsigned int` of 32 bits and a `long` of 64 bits.  A text is the list of the `char`s before the
terminating NUL.
-/

namespace CText

/-- `isspace` -/
def isSpace (c : Char) : Bool := ('\t' ≤ c && c ≤ '\r') || c == ' '

/-- Whether there is a minus sign, and the text behind the sign. -/
def sign : List Char → Bool × List Char
  | '-' :: text => (true, text)
  | '+' :: text => (false, text)
  | text => (false, text)

/-- `0x` is skipped in front of a digit.  A bare `0x` is kept, and the `x` is in the way of what the format asks for
next: ISO C has such a text fail, where glibc reads the `0x` as 0. -/
def dropHexMark : List Char → List Char
  | '0' :: x :: c :: text =>
    if (x = 'x' ∨ x = 'X') ∧ (Text.digit 16 c).isSome then c :: text else '0' :: x :: c :: text
  | text => text

/-- `strtoul`: a number that does not fit is the largest one, and a negative one wraps. -/
def toUnsignedLong (negative : Bool) (value : ℕ) : ℕ :=
  if 2 ^ 64 ≤ value then 2 ^ 64 - 1 else if negative then (2 ^ 64 - value) % 2 ^ 64 else value

/-- The conversion `%x`: an `unsigned int` and the text behind it. -/
def scanHex (text : List Char) : Option (Fin (2 ^ 32) × List Char) :=
  let (negative, text) := sign (text.dropWhile isSpace)
  let text := dropHexMark text
  let digits := text.takeWhile fun c => (Text.digit 16 c).isSome
  (Text.number 16 digits).map fun value =>
    (Fin.ofNat (2 ^ 32) (toUnsignedLong negative value), text.drop digits.length)

/-- An ordinary character of a format. -/
def scanChar (c : Char) (text : List Char) : Option (List Char) := Text.dropPrefix [c] text

/-- `strtol` in base 10, if it reads the whole text and the number fits. -/
def strtol (text : List Char) : Option ℤ :=
  let (negative, digits) := sign (text.dropWhile isSpace)
  (Text.number 10 digits).bind fun value =>
    if negative then (if value ≤ 2 ^ 63 then some (-value) else none) else if value < 2 ^ 63 then some value else none

/-- The tokens that `strtok_r` finds. -/
def strtok (sep : Char) (text : List Char) : List (List Char) := Text.words (· == sep) text

/-- What `snprintf` leaves of a text in a buffer. -/
def snprintf (size : ℕ) (text : List Char) : List Char := text.take (size - 1)

/-- An unsigned number as an `int`. -/
def toInt (n : ℕ) : ℤ := Int.bmod n (2 ^ 32)

/-! ### Hexadecimal numbers -/

/-- The text is a number in hexadecimal, in letters of either case and with zeros in front. -/
def PrintsHex (n : ℕ) (text : List Char) : Prop :=
  text ≠ [] ∧ n < 16 ^ text.length ∧ text.map Char.toUpper = Text.upperHex text.length n

instance (n : ℕ) (text : List Char) : Decidable (PrintsHex n text) := inferInstanceAs (Decidable (_ ∧ _ ∧ _))

theorem numberFrom_append (base acc : ℕ) (text : List Char) (c : Char) :
    Text.numberFrom base acc (text ++ [c]) =
      (Text.numberFrom base acc text).bind fun v => (Text.digit base c).map fun d => base * v + d := by
  induction text generalizing acc with
  | nil =>
    simp only [List.nil_append, Text.numberFrom, Option.bind_some]
    cases Text.digit base c <;> rfl
  | cons b text ih =>
    rw [List.cons_append, Text.numberFrom, Text.numberFrom]
    cases Text.digit base b with
    | none => rfl
    | some d => exact ih _

/-- A letter that is a digit in upper case is this digit. -/
theorem digit_of_toUpper {c : Char} {d : ℕ} (hd : d < 16) (h : c.toUpper = Text.upperDigit d) :
    Text.digit 16 c = some d := by
  have hall : ∀ n < 128, ∀ d < 16, (Char.ofNat n).toUpper = Text.upperDigit d →
    Text.digit 16 (Char.ofNat n) = some d := by
    decide +kernel
  have hupper : ∀ d < 16, (Text.upperDigit d).toNat < 128 := by decide
  have hc : c.toNat < 128 := by
    unfold Char.toUpper at h
    split at h
    · rename_i hlower
      have hle : c.toNat ≤ 122 := UInt32.le_iff_toNat_le.1 hlower.2
      omega
    · rw [h]
      exact hupper d hd
  have hdigit := hall c.toNat hc d hd
  rw [Char.ofNat_toNat] at hdigit
  exact hdigit h

theorem numberFrom_upperHex {n : ℕ} {text : List Char} (hlt : n < 16 ^ text.length)
    (h : text.map Char.toUpper = Text.upperHex text.length n) : Text.numberFrom 16 0 text = some n := by
  induction text using List.reverseRecOn generalizing n with
  | nil =>
    obtain rfl : n = 0 := by simpa using hlt
    rfl
  | append_singleton text c ih =>
    rw [List.length_append, List.length_singleton] at hlt h
    rw [Nat.pow_succ] at hlt
    rw [List.map_append, Text.upperHex] at h
    obtain ⟨hfront, hlast⟩ := List.append_inj' h rfl
    have hdigit := digit_of_toUpper (Nat.mod_lt n (by decide)) (List.singleton_inj.1 hlast)
    have hvalue : 16 * (n / 16) + n % 16 = n := by omega
    rw [numberFrom_append, ih (by omega) hfront, hdigit, Option.bind_some, Option.map_some, hvalue]

theorem PrintsHex.number {n : ℕ} {text : List Char} (h : PrintsHex n text) : Text.number 16 text = some n := by
  obtain ⟨hne, hlt, hupper⟩ := h
  cases text with
  | nil => exact absurd rfl hne
  | cons c text => exact numberFrom_upperHex hlt hupper

theorem isSome_digit_of_numberFrom {base acc n : ℕ} {text : List Char} (h : Text.numberFrom base acc text = some n) :
    ∀ c ∈ text, (Text.digit base c).isSome = true := by
  induction text generalizing acc with
  | nil => simp
  | cons b text ih =>
    rw [Text.numberFrom] at h
    cases hdigit : Text.digit base b with
    | none =>
      rw [hdigit] at h
      cases h
    | some d =>
      rw [hdigit] at h
      intro c hc
      rcases List.mem_cons.1 hc with rfl | hc
      · rw [hdigit]
        rfl
      · exact ih h c hc

/-- A character behind a hexadecimal number. -/
def EndsHex (c : Char) : Prop := Text.digit 16 c = none ∧ c ≠ 'x' ∧ c ≠ 'X'

theorem dropHexMark_eq {text : List Char} (h : ∀ a x rest, text = a :: x :: rest → x ≠ 'x' ∧ x ≠ 'X') :
    dropHexMark text = text := by
  unfold dropHexMark
  split
  · rename_i x c rest
    have hx := h '0' x (c :: rest) rfl
    rw [if_neg]
    rintro ⟨hmark | hmark, -⟩
    · exact hx.1 hmark
    · exact hx.2 hmark
  · rfl

theorem endsHex_of_digit {c : Char} (h : (Text.digit 16 c).isSome = true) : c ≠ 'x' ∧ c ≠ 'X' := by
  constructor
  · rintro rfl
    exact absurd h (by decide)
  · rintro rfl
    exact absurd h (by decide)

/-- A digit is no white space and no sign. -/
theorem isSpace_of_digit {c : Char} (h : (Text.digit 16 c).isSome = true) : isSpace c = false ∧ c ≠ '-' ∧ c ≠ '+' := by
  refine ⟨?_, ?_, ?_⟩
  · by_contra hspace
    simp only [Bool.not_eq_false, isSpace, Bool.or_eq_true, Bool.and_eq_true, decide_eq_true_eq, beq_iff_eq] at hspace
    have hlow : c.toNat ≤ 32 := by
      rcases hspace with ⟨-, hle⟩ | rfl
      · have hnat : c.toNat ≤ 13 := UInt32.le_iff_toNat_le.1 hle
        omega
      · decide
    have hall : ∀ n ≤ 32, (Text.digit 16 (Char.ofNat n)).isSome = false := by decide
    have hnone := hall c.toNat hlow
    rw [Char.ofNat_toNat, h] at hnone
    cases hnone
  · rintro rfl
    exact absurd h (by decide)
  · rintro rfl
    exact absurd h (by decide)

theorem takeWhile_append_of {p : Char → Bool} {front rest : List Char} (hfront : ∀ c ∈ front, p c = true)
    (hrest : ∀ c, rest.head? = some c → p c = false) : (front ++ rest).takeWhile p = front := by
  rw [List.takeWhile_append_of_pos hfront]
  cases rest with
  | nil => simp
  | cons c rest => simp [hrest c rfl]

/-- `%x` reads the digits up to a character that ends them. -/
theorem scanHex_append {digits rest : List Char} {n : ℕ} (hnumber : Text.number 16 digits = some n) (hn : n < 2 ^ 32)
    (hrest : ∀ c, rest.head? = some c → EndsHex c) : scanHex (digits ++ rest) = some (⟨n, hn⟩, rest) := by
  cases digits with
  | nil => cases hnumber
  | cons c digits =>
    have hdigits : ∀ d ∈ c :: digits, (Text.digit 16 d).isSome = true := isSome_digit_of_numberFrom hnumber
    obtain ⟨hspace, hminus, hplus⟩ := isSpace_of_digit (hdigits c List.mem_cons_self)
    have hstart : (c :: digits ++ rest).dropWhile isSpace = c :: digits ++ rest := by
      rw [List.cons_append, List.dropWhile_cons, hspace]
      rfl
    have hsign : sign (c :: digits ++ rest) = (false, c :: digits ++ rest) := by
      unfold sign
      split
      · rename_i heq
        exact absurd (List.cons.inj heq).1 hminus
      · rename_i heq
        exact absurd (List.cons.inj heq).1 hplus
      · rfl
    have hmark : dropHexMark (c :: digits ++ rest) = c :: digits ++ rest := by
      apply dropHexMark_eq
      intro a x tail heq
      have hsecond := (List.cons.inj heq).2
      cases digits with
      | nil =>
        have hx := hrest x (by rw [show rest = x :: tail from hsecond]; rfl)
        exact hx.2
      | cons d digits =>
        obtain rfl := (List.cons.inj hsecond).1
        exact endsHex_of_digit (hdigits d (by simp))
    have htake : (c :: digits ++ rest).takeWhile (fun d => (Text.digit 16 d).isSome) = c :: digits := by
      apply takeWhile_append_of hdigits
      intro d hd
      rw [(hrest d hd).1]
      rfl
    have hvalue : toUnsignedLong false n = n := by
      unfold toUnsignedLong
      rw [if_neg (by omega)]
      rfl
    have hfin : Fin.ofNat (2 ^ 32) n = ⟨n, hn⟩ := Fin.ext (Nat.mod_eq_of_lt hn)
    unfold scanHex
    rw [hstart, hsign]
    simp only [hmark, htake, hnumber, Option.map_some, hvalue, hfin]
    rw [List.drop_left]

end CText
