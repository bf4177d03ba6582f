import CmpUnlocker.Lib.JsonString

/-!
# Strings of the report

`json_escape` writes the strings of the report to an output stream.  The format of the stream is set for the code of a
control character and set back behind it.  Between quotes the text is a JSON string that stands for the bytes it was
made from (`string_jsonEscape`).
-/

namespace CmpUnlocker.Cupti

open JsonString

/-! ### Output streams -/

/-- `std::ostringstream` with its format; the width holds for the next output only. -/
structure OStream where
  text : List UInt8 := []
  base : ℕ := 10
  width : ℕ := 0
  fill : UInt8 := 0x20

namespace OStream

/-- A formatted output. -/
def put (out : OStream) (bytes : List UInt8) : OStream :=
  { out with text := out.text ++ List.replicate (out.width - bytes.length) out.fill ++ bytes, width := 0 }

def putString (out : OStream) (s : String) : OStream := out.put (s.toList.map fun c => UInt8.ofNat c.toNat)

def putChar (out : OStream) (c : UInt8) : OStream := out.put [c]

def putInt (out : OStream) (n : ℕ) : OStream := out.put ((Nat.toDigits out.base n).map fun c => UInt8.ofNat c.toNat)

def hex (out : OStream) : OStream := { out with base := 16 }

def dec (out : OStream) : OStream := { out with base := 10 }

def setw (out : OStream) (n : ℕ) : OStream := { out with width := n }

def setfill (out : OStream) (c : UInt8) : OStream := { out with fill := c }

end OStream

/-! ### Escaping -/

/-- One character of `json_escape`. -/
def escapeChar (out : OStream) (c : UInt8) : OStream :=
  if c = 0x5c then out.putString "\\\\"
  else if c = 0x22 then out.putString "\\\""
  else if c = 0x08 then out.putString "\\b"
  else if c = 0x0c then out.putString "\\f"
  else if c = 0x0a then out.putString "\\n"
  else if c = 0x0d then out.putString "\\r"
  else if c = 0x09 then out.putString "\\t"
  else if c < 0x20 then
    ((((((out.putString "\\u").hex).setw 4).setfill 0x30).putInt c.toNat).dec).setfill 0x20
  else out.putChar c

/-- `json_escape` -/
def jsonEscape (value : List UInt8) : List UInt8 := (value.foldl escapeChar {}).text

/-- What one character is written as. -/
def escaped (c : UInt8) : List UInt8 := (escapeChar {} c).text

/-- The format of a stream is that of a new one. -/
def OStream.Rested (out : OStream) : Prop := out.base = 10 ∧ out.width = 0 ∧ out.fill = 0x20

theorem OStream.Rested.eq {out : OStream} (h : out.Rested) : out = { text := out.text } := by
  obtain ⟨text, base, width, fill⟩ := out
  obtain ⟨rfl, rfl, rfl⟩ := h
  rfl

/-- On a stream with the format of a new one, an output appends what it writes to a new stream and leaves the format as
it was found. -/
def Appends (output : OStream → OStream) : Prop := ∀ text, output { text } = { text := text ++ (output {}).text }

private theorem put_appends (bytes : List UInt8) : Appends (·.put bytes) := by
  intro text
  simp [OStream.put]

private theorem putString_appends (s : String) : Appends (·.putString s) := put_appends _

theorem Appends.ite {p : Prop} [Decidable p] {f g : OStream → OStream} (hf : Appends f) (hg : Appends g) :
    Appends fun out => if p then f out else g out := by
  intro text
  by_cases h : p
  · simpa only [if_pos h] using hf text
  · simpa only [if_neg h] using hg text

private theorem escapeChar_appends (c : UInt8) : Appends (escapeChar · c) := by
  unfold escapeChar
  iterate 7 refine Appends.ite (putString_appends _) ?_
  refine Appends.ite (fun text => ?_) (put_appends [c])
  -- the format of the code point is taken back
  simp [OStream.putString, OStream.putInt, OStream.put, OStream.hex, OStream.dec, OStream.setw, OStream.setfill]

private theorem escapeChar_rested (text : List UInt8) (c : UInt8) :
    escapeChar { text } c = { text := text ++ escaped c } :=
  escapeChar_appends c text

theorem jsonEscape_eq (value : List UInt8) : jsonEscape value = value.flatMap escaped := by
  have hrun :
      ∀ (value text : List UInt8), value.foldl escapeChar { text } = { text := text ++ value.flatMap escaped } := by
    intro value
    induction value with
    | nil => simp
    | cons c value ih =>
      intro text
      rw [List.foldl_cons, escapeChar_rested, ih, List.flatMap_cons, List.append_assoc]
  rw [jsonEscape, hrun value []]
  rfl

/-! ### Reading back -/

/-- A lower-case digit. -/
def lowerHex (n : ℕ) : UInt8 := UInt8.ofNat (if n < 10 then 0x30 + n else 0x61 + (n - 10))

private theorem hexValue_lowerHex : ∀ n < 16, hexValue (lowerHex n) = some n := by decide

private theorem escaped_control : ∀ n < 32, n ∉ [8, 9, 10, 12, 13] →
    escaped (UInt8.ofNat n) = [backslash, 0x75, 0x30, 0x30, lowerHex (n / 16), lowerHex (n % 16)] := by decide +kernel

/-- The three forms in which a character is written. -/
inductive Form (c : UInt8) : List UInt8 → Prop
  | simple (e : UInt8) (h : simpleEscape e = some c) : Form c [backslash, e]
  | code (n : ℕ) (hlt : n < 32) (hc : c = UInt8.ofNat n) :
    Form c [backslash, 0x75, 0x30, 0x30, lowerHex (n / 16), lowerHex (n % 16)]
  | plain (hquote : c ≠ quote) (hbackslash : c ≠ backslash) (hcontrol : ¬c < 0x20) : Form c [c]

theorem escaped_form (c : UInt8) : Form c (escaped c) := by
  by_cases hsimple : c ∈ [0x5c, 0x22, 0x08, 0x0c, 0x0a, 0x0d, 0x09]
  · simp only [List.mem_cons, List.not_mem_nil, or_false] at hsimple
    rcases hsimple with rfl | rfl | rfl | rfl | rfl | rfl | rfl
    all_goals exact .simple _ rfl
  · by_cases hcontrol : c < 0x20
    · have hlt : c.toNat < 32 := UInt8.lt_iff_toNat_lt.1 hcontrol
      have hc : c = UInt8.ofNat c.toNat := UInt8.ofNat_toNat.symm
      have hother : c.toNat ∉ [8, 9, 10, 12, 13] := by
        intro hmem
        simp only [List.mem_cons, List.not_mem_nil, or_false] at hmem
        rcases hmem with hn | hn | hn | hn | hn
        all_goals
          rw [hc, hn] at hsimple
          exact hsimple (by decide)
      have hform : Form c _ := .code c.toNat hlt hc
      rw [← escaped_control _ hlt hother, ← hc] at hform
      exact hform
    · simp only [List.mem_cons, List.not_mem_nil, or_false, not_or] at hsimple
      obtain ⟨hbackslash, hquote, h8, hc, ha, hd, h9⟩ := hsimple
      have hplain : escaped c = [c] := by
        simp only [escaped, escapeChar, hbackslash, hquote, h8, hc, ha, hd, h9, hcontrol, if_false]
        rfl
      rw [hplain]
      exact .plain hquote hbackslash hcontrol

theorem Form.read {c : UInt8} {piece : List UInt8} (h : Form c piece) (text : List UInt8) :
    JsonString.read .plain (piece ++ text) = (JsonString.read .plain text).map fun r => (c :: r.1, r.2) := by
  cases h with
  | simple e h => exact read_simple h
  | code n hlt hc =>
    have hzero : hexValue 0x30 = some 0 := rfl
    have hhigh := hexValue_lowerHex (n / 16) (by omega)
    have hlow := hexValue_lowerHex (n % 16) (by omega)
    have hvalue : 16 * (16 * (16 * 0 + 0) + n / 16) + n % 16 = n := by omega
    have hbytes : utf8 (16 * (16 * (16 * 0 + 0) + n / 16) + n % 16) = some [c] := by
      rw [hvalue, utf8, if_pos (by omega), hc]
    exact read_code hzero hzero hhigh hlow hbytes
  | plain hquote hbackslash hcontrol => exact read_plain hquote hbackslash hcontrol

private theorem lowerHex_bounds {n : ℕ} (h : n < 16) : 0x30 ≤ lowerHex n ∧ lowerHex n ≠ backslash :=
  hexValue_bounds (hexValue_lowerHex n h)

theorem Form.le {c : UInt8} {piece : List UInt8} (h : Form c piece) {b : UInt8} (hb : b ∈ piece) : 0x20 ≤ b := by
  cases h with
  | simple e h =>
    simp only [List.mem_cons, List.not_mem_nil, or_false] at hb
    rcases hb with rfl | rfl
    · decide
    · exact simpleEscape_le h
  | code n hlt hc =>
    have hhigh := (lowerHex_bounds (show n / 16 < 16 by omega)).1
    have hlow := (lowerHex_bounds (show n % 16 < 16 by omega)).1
    simp only [List.mem_cons, List.not_mem_nil, or_false] at hb
    rcases hb with rfl | rfl | rfl | rfl | rfl | rfl
    · decide
    · decide
    · decide
    · decide
    · exact UInt8.le_trans (by decide) hhigh
    · exact UInt8.le_trans (by decide) hlow
  | plain hquote hbackslash hcontrol =>
    obtain rfl := List.mem_singleton.1 hb
    exact UInt8.not_lt.1 hcontrol

/-- Outside of escapes a character leaves no quote and no backslash. -/
theorem Form.bare {c : UInt8} {piece : List UInt8} (h : Form c piece) {b : UInt8} {text : List UInt8}
    (hb : b ∈ JsonString.bare (piece ++ text)) : b ≠ quote ∧ b ≠ backslash ∨ b ∈ JsonString.bare text := by
  cases h with
  | simple e h =>
    have hrest : b ∈ JsonString.bare (backslash :: e :: text) := hb
    rw [bare_escape] at hrest
    exact .inr hrest
  | code n hlt hc =>
    have hdigit : ∀ d : UInt8, 0x30 ≤ d ∧ d ≠ backslash → d ≠ quote ∧ d ≠ backslash := by
      rintro d ⟨hle, hne⟩
      refine ⟨?_, hne⟩
      rintro rfl
      exact absurd hle (by decide)
    have hzero : (0x30 : UInt8) ≠ quote ∧ (0x30 : UInt8) ≠ backslash := by decide
    have hhigh := hdigit _ (lowerHex_bounds (show n / 16 < 16 by omega))
    have hlow := hdigit _ (lowerHex_bounds (show n % 16 < 16 by omega))
    have hrest :
        b ∈ JsonString.bare (backslash :: 0x75 :: 0x30 :: 0x30 :: lowerHex (n / 16) :: lowerHex (n % 16) :: text) :=
      hb
    rw [bare_escape, bare_cons hzero.2, bare_cons hzero.2, bare_cons hhigh.2, bare_cons hlow.2] at hrest
    simp only [List.mem_cons] at hrest
    rcases hrest with rfl | rfl | rfl | rfl | hrest
    · exact .inl hzero
    · exact .inl hzero
    · exact .inl hhigh
    · exact .inl hlow
    · exact .inr hrest
  | plain hquote hbackslash hcontrol =>
    have hrest : b ∈ JsonString.bare (c :: text) := hb
    rw [bare_cons hbackslash] at hrest
    rcases List.mem_cons.1 hrest with rfl | hrest
    · exact .inl ⟨hquote, hbackslash⟩
    · exact .inr hrest

theorem read_escaped (value rest : List UInt8) :
    read .plain (value.flatMap escaped ++ quote :: rest) = some (value, rest) := by
  induction value with
  | nil => exact read_quote
  | cons c value ih => rw [List.flatMap_cons, List.append_assoc, (escaped_form c).read, ih, Option.map_some]

private theorem bare_escaped {value : List UInt8} {b : UInt8} (hb : b ∈ bare (value.flatMap escaped)) :
    b ≠ quote ∧ b ≠ backslash := by
  induction value with
  | nil => cases hb
  | cons c value ih =>
    rw [List.flatMap_cons] at hb
    rcases (escaped_form c).bare hb with hb | hb
    · exact hb
    · exact ih hb

/-- Between quotes an escaped string is read as the string itself, whatever comes behind; it has no raw control
character, and no quote or backslash outside of its escapes. -/
theorem string_jsonEscape (value rest : List UInt8) :
    string (quote :: (jsonEscape value ++ quote :: rest)) = some (value, rest) ∧
      (∀ b ∈ jsonEscape value, 0x20 ≤ b) ∧ quote ∉ bare (jsonEscape value) ∧ backslash ∉ bare (jsonEscape value) := by
  rw [jsonEscape_eq]
  refine
    ⟨?_, fun b hb => ?_, fun hquote => (bare_escaped hquote).1 rfl, fun hbackslash => (bare_escaped hbackslash).2 rfl⟩
  · rw [string, if_pos rfl]
    exact read_escaped value rest
  · obtain ⟨c, -, hb⟩ := List.mem_flatMap.1 hb
    exact (escaped_form c).le hb

example : jsonEscape [0x41, 0x22, 0x01] = "A\\\"\\u0001".toList.map fun c => UInt8.ofNat c.toNat := by decide +kernel

end CmpUnlocker.Cupti
