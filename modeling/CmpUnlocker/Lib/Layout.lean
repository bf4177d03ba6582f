import CmpUnlocker.Lib.Search

/-!
# What stands where in a byte string

`Has data pos bytes` says that `data` has these bytes from `pos` on.  A composite piece is there if its parts are there
one behind the other (`has_append`), so a description of a format as a concatenation of pieces can be compared with a
decoder that reads them position by position: a byte (`has_singleton`), a number of `n` bytes (`has_digits`) or a row of
them (`has_row`).
-/

namespace Bytes

def Has (data : List UInt8) (pos : Nat) (bytes : List UInt8) : Prop := slice data pos bytes.length = bytes

instance (data : List UInt8) (pos : Nat) (bytes : List UInt8) : Decidable (Has data pos bytes) :=
  inferInstanceAs (Decidable (_ = _))

variable {data bytes xs ys : List UInt8} {pos n : Nat}

theorem has_iff_getElem? : Has data pos bytes ↔ ∀ i < bytes.length, data[pos + i]? = bytes[i]? := by
  unfold Has
  constructor
  · intro h i hi
    rw [← h, getElem?_slice, if_pos hi]
  · intro h
    refine List.ext_getElem? fun i => ?_
    rw [getElem?_slice]
    by_cases hi : i < bytes.length
    · rw [if_pos hi, h i hi]
    · rw [if_neg hi, List.getElem?_eq_none (by omega)]

@[simp] theorem has_nil : Has data pos [] := by simp [has_iff_getElem?]

theorem has_singleton {b : UInt8} : Has data pos [b] ↔ data[pos]? = some b := by
  simp [has_iff_getElem?]

/-- A piece behind another one. -/
theorem has_append : Has data pos (xs ++ ys) ↔ Has data pos xs ∧ Has data (pos + xs.length) ys := by
  simp only [has_iff_getElem?]
  constructor
  · intro h
    refine ⟨fun i hi => ?_, fun i hi => ?_⟩
    · have hboth := h i (by rw [List.length_append]; omega)
      rwa [List.getElem?_append_left hi] at hboth
    · have hboth := h (xs.length + i) (by rw [List.length_append]; omega)
      rw [List.getElem?_append_right (by omega)] at hboth
      rw [Nat.add_assoc, hboth]
      congr 1
      omega
  · rintro ⟨hxs, hys⟩ i hi
    rw [List.length_append] at hi
    by_cases hlt : i < xs.length
    · rw [List.getElem?_append_left hlt, hxs i hlt]
    · have hrest := hys (i - xs.length) (by omega)
      rw [List.getElem?_append_right (by omega), ← hrest]
      congr 1
      omega

theorem has_cons {b : UInt8} : Has data pos (b :: bytes) ↔ data[pos]? = some b ∧ Has data (pos + 1) bytes := by
  rw [← List.singleton_append, has_append, has_singleton]
  rfl

/-- Pieces of one length, one behind the other. -/
theorem has_flatMap {α : Type} {f : α → List UInt8} {xs : List α} (hlength : ∀ x, (f x).length = n) :
    Has data pos (xs.flatMap f) ↔ ∀ i (h : i < xs.length), Has data (pos + n * i) (f xs[i]) := by
  induction xs generalizing pos with
  | nil => simp
  | cons x xs ih =>
    rw [List.flatMap_cons, has_append, hlength, ih]
    constructor
    · rintro ⟨hfirst, hrest⟩ i hi
      cases i with
      | zero => exact hfirst
      | succ i =>
        have hpiece := hrest i (by simpa using hi)
        rw [Nat.mul_succ, Nat.add_comm (n * i), ← Nat.add_assoc]
        exact hpiece
    · intro h
      refine ⟨h 0 (by simp), fun i hi => ?_⟩
      have hpiece := h (i + 1) (by simpa using hi)
      rw [Nat.mul_succ, Nat.add_comm (n * i), ← Nat.add_assoc] at hpiece
      exact hpiece

/-- A piece that is there ends inside the string. -/
theorem Has.le (h : Has data pos bytes) (hne : bytes ≠ []) : pos + bytes.length ≤ data.length := by
  have hlength := congrArg List.length h
  have hpos := List.length_pos_iff.2 hne
  rw [length_slice] at hlength
  omega

/-- Two pieces of one length at one place are the same. -/
theorem Has.eq (hx : Has data pos xs) (hy : Has data pos ys) (hlength : xs.length = ys.length) : xs = ys := by
  rw [← hx, ← hy, hlength]

theorem has_slice (h : pos + n ≤ data.length) : Has data pos (slice data pos n) := by
  have hlength : (slice data pos n).length = n := by
    rw [length_slice]
    omega
  unfold Has
  rw [hlength]

/-! ### Numbers -/

theorem digits_value (bytes : List UInt8) : digits bytes.length (value bytes) = bytes := by
  induction bytes with
  | nil => rfl
  | cons b bs ih =>
    have hbyte : b.toNat < 256 := b.toNat_lt
    have hlow : UInt8.ofNat (b.toNat + 256 * value bs) = b := by
      apply UInt8.toNat_inj.1
      rw [UInt8.toNat_ofNat']
      omega
    have hhigh : (b.toNat + 256 * value bs) / 256 = value bs := by omega
    rw [List.length_cons, digits, value, hlow, hhigh, ih]

/-- The number of `n` bytes at the position. -/
def number (data : List UInt8) (pos n : Nat) : Nat := value (slice data pos n)

theorem number_lt (data : List UInt8) (pos n : Nat) : number data pos n < 256 ^ n := by
  have hlt := value_lt (slice data pos n)
  have hle : (slice data pos n).length ≤ n := by
    rw [length_slice]
    omega
  exact Nat.lt_of_lt_of_le hlt (Nat.pow_le_pow_right (by decide) hle)

/-- A number is where its digits are. -/
theorem has_digits {x : Nat} (hn : n ≠ 0) (hx : x < 256 ^ n) :
    Has data pos (digits n x) ↔ pos + n ≤ data.length ∧ number data pos n = x := by
  constructor
  · intro h
    have hle := h.le (by
      intro hnil
      have hlength := congrArg List.length hnil
      rw [length_digits] at hlength
      exact hn hlength)
    rw [length_digits] at hle
    have hslice : slice data pos n = digits n x := by
      have := h
      rwa [Has, length_digits] at this
    refine ⟨hle, ?_⟩
    rw [number, hslice, value_digits, Nat.mod_eq_of_lt hx]
  · rintro ⟨hle, rfl⟩
    have hlength : (slice data pos n).length = n := by
      rw [length_slice]
      omega
    have hdigits := digits_value (slice data pos n)
    rw [hlength] at hdigits
    rw [number, hdigits]
    exact has_slice hle

/-- The numbers of `n` bytes each of a row that starts at the position. -/
def row (data : List UInt8) (pos n count : Nat) : List Nat :=
  (List.range count).map fun i => number data (pos + n * i) n

@[simp] theorem length_row (data : List UInt8) (pos n count : Nat) : (row data pos n count).length = count := by
  simp [row]

theorem row_succ (data : List UInt8) (pos n count : Nat) :
    row data pos n (count + 1) = number data pos n :: row data (pos + n) n count := by
  unfold row
  rw [List.range_succ_eq_map, List.map_cons, List.map_map]
  congr 1
  apply List.map_congr_left
  intro i _
  simp only [Function.comp_apply]
  congr 1
  rw [Nat.mul_succ]
  omega

theorem length_flatMap_digits (n : Nat) (xs : List Nat) : (xs.flatMap (digits n)).length = n * xs.length := by
  induction xs with
  | nil => rfl
  | cons x xs ih =>
    rw [List.flatMap_cons, List.length_append, ih, length_digits, List.length_cons, Nat.mul_succ, Nat.add_comm]

/-- A row is where the digits of its numbers are. -/
theorem has_row {values : List Nat} (hn : n ≠ 0) (hvalues : ∀ x ∈ values, x < 256 ^ n) (hpos : pos ≤ data.length) :
    Has data pos (values.flatMap (digits n)) ↔
      pos + n * values.length ≤ data.length ∧ row data pos n values.length = values := by
  induction values generalizing pos with
  | nil => simpa [row] using hpos
  | cons x values ih =>
    have hx : x < 256 ^ n := hvalues x List.mem_cons_self
    have hrest : ∀ y ∈ values, y < 256 ^ n := fun y hy => hvalues y (List.mem_cons_of_mem _ hy)
    rw [List.flatMap_cons, has_append, has_digits hn hx, length_digits, List.length_cons, row_succ, Nat.mul_succ]
    constructor
    · rintro ⟨⟨hle, rfl⟩, h⟩
      obtain ⟨hle', hrow⟩ := (ih hrest hle).1 h
      exact ⟨by omega, by rw [hrow]⟩
    · rintro ⟨hle, hrow⟩
      obtain ⟨hnumber, hrow'⟩ := List.cons.inj hrow
      have hmid : pos + n ≤ data.length := by omega
      exact ⟨⟨hmid, hnumber⟩, (ih hrest hmid).2 ⟨by omega, hrow'⟩⟩

end Bytes
