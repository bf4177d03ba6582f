import Mathlib.Algebra.Group.Nat.Defs
import Mathlib.Data.List.Forall2

/-!
# Byte strings

Little-endian numbers and writes at fixed offsets.  A byte string is a list; `put` overwrites a piece of it, `putAll` a
list of pieces one after the other, and `slice` reads a piece.  What a later write does not touch is what the earlier
ones have left (`slice_putAll`), and what no write touches is as before (`getElem?_putAll`).
-/

namespace Bytes

/-- The number with these little-endian digits. -/
def value : List UInt8 → Nat
  | [] => 0
  | b :: bs => b.toNat + 256 * value bs

/-- The last `n` little-endian digits of a number. -/
def digits : Nat → Nat → List UInt8
  | 0, _ => []
  | n + 1, x => UInt8.ofNat x :: digits n (x / 256)

@[simp] theorem length_digits (n x : Nat) : (digits n x).length = n := by
  induction n generalizing x with
  | zero => rfl
  | succ n ih => simp [digits, ih]

theorem value_digits (n x : Nat) : value (digits n x) = x % 256 ^ n := by
  induction n generalizing x with
  | zero => simp [digits, value, Nat.mod_one]
  | succ n ih =>
    have hbyte : (UInt8.ofNat x).toNat = x % 256 := by simp
    rw [digits, value, ih, hbyte, Nat.pow_succ, Nat.mul_comm (256 ^ n), Nat.mod_mul]

theorem value_lt (bytes : List UInt8) : value bytes < 256 ^ bytes.length := by
  induction bytes with
  | nil => simp [value]
  | cons b bs ih =>
    have hbyte : b.toNat < 256 := b.toNat_lt
    rw [value, List.length_cons, Nat.pow_succ]
    omega

/-- The `n` bytes from an offset on. -/
def slice (blob : List UInt8) (offset n : Nat) : List UInt8 := (blob.drop offset).take n

theorem length_slice (blob : List UInt8) (offset n : Nat) :
    (slice blob offset n).length = min n (blob.length - offset) := by
  simp [slice]

theorem getElem?_slice (blob : List UInt8) (offset n i : Nat) :
    (slice blob offset n)[i]? = if i < n then blob[offset + i]? else none := by
  simp [slice, List.getElem?_take]

/-- The byte string with these bytes from an offset on. -/
def put (blob : List UInt8) (offset : Nat) (bytes : List UInt8) : List UInt8 :=
  blob.take offset ++ (bytes ++ blob.drop (offset + bytes.length))

section

variable {blob blob' bytes : List UInt8} {offset i : Nat}

theorem length_put (h : offset + bytes.length ≤ blob.length) : (put blob offset bytes).length = blob.length := by
  simp only [put, List.length_append, List.length_take, List.length_drop]
  omega

theorem getElem?_put (h : offset + bytes.length ≤ blob.length) (i : Nat) :
    (put blob offset bytes)[i]? =
      if offset ≤ i ∧ i < offset + bytes.length then bytes[i - offset]? else blob[i]? := by
  have htake : (blob.take offset).length = offset := by
    rw [List.length_take]
    omega
  by_cases hbefore : i < offset
  · rw [if_neg (by omega), put, List.getElem?_append_left (by omega), List.getElem?_take_of_lt hbefore]
  · rw [put, List.getElem?_append_right (by omega), htake]
    by_cases hinside : i < offset + bytes.length
    · rw [if_pos (by omega), List.getElem?_append_left (by omega)]
    · rw [if_neg (by omega), List.getElem?_append_right (by omega), List.getElem?_drop]
      congr 1
      omega

/-! ### Several writes -/

/-- The byte string after these writes, in this order. -/
def putAll (writes : List (Nat × List UInt8)) (blob : List UInt8) : List UInt8 :=
  writes.foldl (fun out w => put out w.1 w.2) blob

/-- The writes stay inside a string of this length. -/
def Within (length : Nat) (writes : List (Nat × List UInt8)) : Prop := ∀ w ∈ writes, w.1 + w.2.length ≤ length

/-- No write touches the bytes from `offset` up to `stop`. -/
def Spared (offset stop : Nat) (writes : List (Nat × List UInt8)) : Prop :=
  ∀ w ∈ writes, stop ≤ w.1 ∨ w.1 + w.2.length ≤ offset

instance (length : Nat) (writes : List (Nat × List UInt8)) : Decidable (Within length writes) :=
  inferInstanceAs (Decidable (∀ w ∈ writes, w.1 + w.2.length ≤ length))

instance (offset stop : Nat) (writes : List (Nat × List UInt8)) : Decidable (Spared offset stop writes) :=
  inferInstanceAs (Decidable (∀ w ∈ writes, stop ≤ w.1 ∨ w.1 + w.2.length ≤ offset))

variable {writes pre post : List (Nat × List UInt8)}

@[simp] theorem putAll_cons (w : Nat × List UInt8) (writes : List (Nat × List UInt8)) (blob : List UInt8) :
    putAll (w :: writes) blob = putAll writes (put blob w.1 w.2) := rfl

theorem putAll_append (pre post : List (Nat × List UInt8)) (blob : List UInt8) :
    putAll (pre ++ post) blob = putAll post (putAll pre blob) :=
  List.foldl_append

theorem length_putAll (h : Within blob.length writes) : (putAll writes blob).length = blob.length := by
  induction writes generalizing blob with
  | nil => rfl
  | cons w writes ih =>
    have hput : (put blob w.1 w.2).length = blob.length := length_put (h w List.mem_cons_self)
    rw [putAll_cons, ih, hput]
    intro w' hw'
    rw [hput]
    exact h w' (List.mem_cons_of_mem _ hw')

theorem getElem?_putAll (h : Within blob.length writes) (hspared : Spared i (i + 1) writes) :
    (putAll writes blob)[i]? = blob[i]? := by
  induction writes generalizing blob with
  | nil => rfl
  | cons w writes ih =>
    have hfits := h w List.mem_cons_self
    have hput : (put blob w.1 w.2).length = blob.length := length_put hfits
    have hout := hspared w List.mem_cons_self
    rw [putAll_cons, ih, getElem?_put hfits, if_neg (by omega)]
    · intro w' hw'
      rw [hput]
      exact h w' (List.mem_cons_of_mem _ hw')
    · exact fun w' hw' => hspared w' (List.mem_cons_of_mem _ hw')

/-- A write that the later ones spare is read back. -/
theorem slice_putAll (h : Within blob.length (pre ++ (offset, bytes) :: post))
    (hspared : Spared offset (offset + bytes.length) post) :
    slice (putAll (pre ++ (offset, bytes) :: post) blob) offset bytes.length = bytes := by
  have hpre : (putAll pre blob).length = blob.length :=
    length_putAll fun w hw => h w (List.mem_append_left _ hw)
  have hfits : offset + bytes.length ≤ (putAll pre blob).length := by
    rw [hpre]
    exact h (offset, bytes) (by simp)
  have hpost : Within (put (putAll pre blob) offset bytes).length post := by
    intro w hw
    rw [length_put hfits, hpre]
    exact h w (List.mem_append_right _ (List.mem_cons_of_mem _ hw))
  refine List.ext_getElem? fun i => ?_
  rw [getElem?_slice]
  by_cases hi : i < bytes.length
  · have hspared' : Spared (offset + i) (offset + i + 1) post := by
      intro w hw
      have hw' := hspared w hw
      omega
    rw [if_pos hi, putAll_append, putAll_cons, getElem?_putAll hpost hspared', getElem?_put hfits, if_pos (by omega)]
    congr 1
    omega
  · rw [if_neg hi, List.getElem?_eq_none (by omega)]

/-! ### Byte strings that agree -/

/-- The byte strings have the same length and agree outside the region. -/
def Agree (region : Nat → Prop) (blob blob' : List UInt8) : Prop :=
  blob.length = blob'.length ∧ ∀ i, ¬region i → blob[i]? = blob'[i]?

variable {region : Nat → Prop}

theorem Agree.refl (region : Nat → Prop) (blob : List UInt8) : Agree region blob blob := ⟨rfl, fun _ _ => rfl⟩

/-- The same write, or different ones of the same piece of the region. -/
def Alike (region : Nat → Prop) (w w' : Nat × List UInt8) : Prop :=
  w.1 = w'.1 ∧ w.2.length = w'.2.length ∧ (w.2 = w'.2 ∨ ∀ i, w.1 ≤ i → i < w.1 + w.2.length → region i)

theorem Alike.refl (region : Nat → Prop) (w : Nat × List UInt8) : Alike region w w := ⟨rfl, rfl, .inl rfl⟩

theorem Agree.put {w w' : Nat × List UInt8} (h : Agree region blob blob') (hfits : w.1 + w.2.length ≤ blob.length)
    (halike : Alike region w w') : Agree region (Bytes.put blob w.1 w.2) (Bytes.put blob' w'.1 w'.2) := by
  obtain ⟨hoffset, hlength, hsame⟩ := halike
  have hfits' : w'.1 + w'.2.length ≤ blob'.length := by
    rw [← hoffset, ← hlength, ← h.1]
    exact hfits
  refine ⟨by rw [length_put hfits, length_put hfits', h.1], fun i hi => ?_⟩
  rw [getElem?_put hfits, getElem?_put hfits', ← hoffset, ← hlength, h.2 i hi]
  by_cases hinside : w.1 ≤ i ∧ i < w.1 + w.2.length
  · rcases hsame with hsame | hregion
    · rw [hsame]
    · exact absurd (hregion i hinside.1 hinside.2) hi
  · rw [if_neg hinside, if_neg hinside]

theorem Agree.putAll {writes' : List (Nat × List UInt8)} (h : Agree region blob blob')
    (halike : List.Forall₂ (Alike region) writes writes') (hwithin : Within blob.length writes) :
    Agree region (Bytes.putAll writes blob) (Bytes.putAll writes' blob') := by
  induction halike generalizing blob blob' with
  | nil => exact h
  | @cons w w' writes writes' hw hrest ih =>
    have hfits := hwithin w List.mem_cons_self
    refine ih (h.put hfits hw) ?_
    intro v hv
    rw [length_put hfits]
    exact hwithin v (List.mem_cons_of_mem _ hv)

end

end Bytes
