import CmpUnlocker.Cupti.Report
import CmpUnlocker.Cupti.Escape
import CmpUnlocker.Cupti.Values
import CmpUnlocker.Cupti.Requests
import CmpUnlocker.Lib.JsonText

/-!
# The text of the report

The bytes that `write_samples` and `write_report` write, read back by a reader of JSON.  Whatever names and errors the
driver returns in valid UTF-8, the report is one JSON text, and its value is the one of `writeReport` (`report_read`).
The source copies the bytes of the driver as they are, and `json_escape` passes those from `0x80` on: a name that is not
UTF-8 makes a report that is not, which a strict reader refuses.  Such names are outside the model.
-/

namespace CmpUnlocker.Cupti

open Interaction JsonText JsonString

/-! ### Writing -/

/-- The bytes of a string, which are valid UTF-8. -/
def bytes (s : String) : List UInt8 := encode s.toList

/-- A string of the collector between quotes, by `json_escape`. -/
def quoted (s : String) : List UInt8 := quote :: (jsonEscape (bytes s) ++ [quote])

/-- A string of the source between quotes, as it stands there. -/
def literal (s : String) : List UInt8 := quote :: (bytes s ++ [quote])

def boolText (b : Bool) : List UInt8 := bytes (if b then "true" else "false")

def intText (n : ℤ) : List UInt8 := bytes (toString n)

/-- `"key":value` -/
def memberText (key : String) (value : List UInt8) : List UInt8 := literal key ++ 0x3a :: value

/-- `"key": value`, two columns to the right of `indent`. -/
def lineText (indent key : String) (value : List UInt8) : List UInt8 :=
  bytes indent ++ (bytes "  " ++ (literal key ++ 0x3a :: (bytes " " ++ value)))

/-- `{"key":value,...}` -/
def objectText (members : List (String × List UInt8)) : List UInt8 :=
  0x7b :: (joined [] (members.map fun m => memberText m.1 m.2) ++ [0x7d])

/-- An object with each member on a line of its own. -/
def linesText (members : List (String × List UInt8)) : List UInt8 :=
  0x7b :: (bytes "\n" ++ (joined (bytes "\n") (members.map fun m => lineText "" m.1 m.2) ++ bytes "\n") ++ [0x7d])

/-- `[value,...]` -/
def arrayText (elements : List (List UInt8)) : List UInt8 := 0x5b :: (joined [] elements ++ [0x5d])

def sampleText (bank : Option MetricBank) (sample : MetricSample) : List UInt8 :=
  objectText
    [("available", boolText sample.available),
      ("valid", boolText sample.valid),
      ("enabled", boolText (bank.any (·.enabled))),
      ("disabled", boolText (bank.any (·.disabled))),
      ("bank", quoted ((bank.map (·.name)).getD "")),
      ("consecutive_failures", intText ((bank.map (·.consecutiveFailures)).getD 0)),
      ("value", bytes sample.value),
      ("value_kind", literal (valueKindName sample.kind)),
      ("unit", literal (valueUnit sample.kind)),
      ("sampled_at_unix_ms", intText sample.sampledAtUnixMs),
      ("window_ns", intText sample.windowNs),
      ("pass_count", intText sample.passCount),
      ("simultaneous_with_other_metrics", boolText (bank.any fun bank => 1 < bank.metricNames.length)),
      ("error", quoted sample.error)]

/-- The key of an entry is escaped. -/
def sampleLine (state : DeviceState) (indent : String) (m : Metric) (sample : MetricSample) : List UInt8 :=
  bytes indent ++ (bytes "  " ++ (quoted m.name ++ 0x3a :: (bytes " " ++ sampleText (state.bankOf m) sample)))

/-- `write_samples` -/
def samplesText (state : DeviceState) (indent : String) : List UInt8 :=
  let lines := Metric.sorted.filterMap fun m => (state.samples m).map (sampleLine state indent m)
  0x7b :: (bytes "\n" ++ (joined (bytes "\n") lines ++ (bytes "\n" ++ bytes indent)) ++ [0x7d])

def bankText (bank : MetricBank) : List UInt8 :=
  objectText
    [("name", quoted bank.name),
      ("available", boolText bank.available),
      ("enabled", boolText bank.enabled),
      ("disabled", boolText bank.disabled),
      ("pass_count", intText bank.passCount),
      ("consecutive_failures", intText bank.consecutiveFailures),
      ("error", quoted bank.error)]

def deviceText (state : DeviceState) : List UInt8 :=
  objectText
    [("ordinal", intText state.ordinal),
      ("name", quoted state.name),
      ("pci_bus_id", quoted state.pciBusId),
      ("ready", boolText state.ready),
      ("event_domains", intText state.eventDomains),
      ("metrics", intText state.metricCount),
      ("active_bank", quoted (if state.banks.isEmpty then "" else (state.bank state.activeBankIndex).name)),
      ("banks", arrayText (state.banks.map bankText)),
      ("error", quoted state.error),
      ("samples", samplesText state "    ")]

/-- Each device on a line of its own. -/
def devicesText (devices : List DeviceState) : List UInt8 :=
  0x5b :: (joined [] (devices.map fun state => bytes "\n    " ++ deviceText state) ++
    ((if devices.isEmpty then [] else bytes "\n") ++ bytes "  ") ++ [0x5d])

def rotationText (windowMs : Nat) (devices : List DeviceState) : List UInt8 :=
  objectText
    [("simultaneous", boolText false),
      ("sample_period_ms", intText windowMs),
      ("requested_metrics", intText Metric.all.length),
      ("device_count", intText devices.length),
      ("bank_count", intText 2),
      ("policy", literal rotationPolicy),
      ("note", literal rotationNote)]

/-- `write_report` -/
def reportText (windowMs : Nat) (ready : Bool) (activeRequests : UInt32) (c : Collector) : List UInt8 :=
  linesText
    [("schema_version", intText 3),
      ("collector_mode", literal "persistent-bank-boundary-rotation"),
      ("ready", boolText ready),
      ("active_requests", intText activeRequests.toNat),
      ("event_domains", intText ((c.devices.head?.map (·.eventDomains)).getD 0)),
      ("metrics", intText ((c.devices.head?.map (·.metricCount)).getD 0)),
      ("rotation", rotationText windowMs c.devices),
      ("samples", (c.devices.head?.map fun state => samplesText state "  ").getD (bytes "{}")),
      ("devices", devicesText c.devices),
      ("detail", quoted c.detail)] ++ bytes "\n"

/-! ### Reading strings, numbers and members -/

section

variable {ν : Type} {double : List Char → ν} {value : List UInt8} {v : Json ν}

private theorem inside_escaped (c : UInt8) : JsonText.Inside (escaped c) := by
  have hform := escaped_form c
  generalize escaped c = piece at hform ⊢
  cases hform with
  | simple e h => exact inside_escape e
  | code n hlt hc =>
    have hdigit : ∀ n < 16, lowerHex n ≠ quote ∧ lowerHex n ≠ backslash := by decide
    refine (inside_escape 0x75).append (inside_of_bytes fun b hb => ?_)
    simp only [List.mem_cons, List.not_mem_nil, or_false] at hb
    rcases hb with rfl | rfl | rfl | rfl
    · decide
    · decide
    · exact hdigit _ (by omega)
    · exact hdigit _ (by omega)
  | plain hquote hbackslash hcontrol => exact inside_byte hquote hbackslash

private theorem inside_jsonEscape (value : List UInt8) : JsonText.Inside (jsonEscape value) := by
  rw [jsonEscape_eq]
  induction value with
  | nil => exact inside_nil
  | cons c value ih => exact (inside_escaped c).append ih

private theorem unescape_jsonEscape (s : String) : unescape (jsonEscape (bytes s)) = some s.toList := by
  rw [jsonEscape_eq]
  exact unescape_eq (read_escaped (bytes s) []) (decode_encode s.toList)

private theorem reads_quoted (s : String) : Reads double (quoted s) (text s) :=
  reads_string (inside_jsonEscape _) (unescape_jsonEscape s)

private theorem reads_literal {s : String} (h : bare s.toList = true) : Reads double (literal s) (text s) :=
  reads_string (inside_bare (bare_iff.1 h)) (unescape_bare (bare_iff.1 h))

/-- A word that is a scalar. -/
theorem reads_word {s : String} (hplain : (bytes s).all (fun b => decide (Plain b)) = true)
    (hv : scalar double s.toList = some v) : Reads double (bytes s) v :=
  reads_scalar (by simpa using hplain) (decode_encode _) hv

private theorem reads_boolText (b : Bool) : Reads double (boolText b) (.bool b) := by
  cases b with
  | true => exact reads_word (s := "true") (by decide) rfl
  | false => exact reads_word (s := "false") (by decide) rfl

private theorem reads_intText (n : ℤ) : Reads double (intText n) (.int n) :=
  reads_scalar (plain_encode (chars_int n)) (decode_encode _) (scalar_int n)

/-- A text that adds one member to an object. -/
abbrev Adds (double : List Char → ν) (text : List UInt8) (member : List Char × Json ν) : Prop :=
  Fills double .members [.key, .firstKey] text [member]

private theorem bare_literal {s : String} {t : List Char} (h : s = String.ofList t) (ht : bare t = true) :
    bare s.toList = true := by
  rw [h, String.toList_ofList]
  exact ht

private theorem bare_append {s t : String} (hs : bare s.toList = true) (ht : bare t.toList = true) :
    bare (s ++ t).toList = true := by
  rw [String.toList_append, bare_iff]
  intro c hc
  rcases List.mem_append.1 hc with hc | hc
  · exact bare_iff.1 hs c hc
  · exact bare_iff.1 ht c hc

private theorem memberText_adds {key : String} (hkey : bare key.toList = true) (h : Reads double value v) :
    Adds double (memberText key value) (key.toList, v) := by
  have hraw : JsonText.Inside (bytes key) := inside_bare (bare_iff.1 hkey)
  have hadds : Adds double (literal key ++ 0x3a :: ([] ++ value)) (key.toList, v) :=
    h.member hraw (unescape_bare (bare_iff.1 hkey)) spaces_nil
  exact hadds

/-- A member as it is written and as it is read. -/
def Member (double : List Char → ν) (m : String × List UInt8) (w : String × Json ν) : Prop :=
  (m.1 = w.1 ∧ bare m.1.toList = true) ∧ Reads double m.2 w.2

theorem member {key : String} {t : List Char} (h : Reads double value v) (hkey : key = String.ofList t)
    (ht : bare t = true) : Member double (key, value) (key, v) := ⟨⟨rfl, bare_literal hkey ht⟩, h⟩

private theorem members_add {form : String → List UInt8 → List UInt8}
    (hform : ∀ (key : String) (value : List UInt8) (v : Json ν), bare key.toList = true → Reads double value v →
      Adds double (form key value) (key.toList, v))
    {members : List (String × List UInt8)} {ws : List (String × Json ν)} (h : List.Forall₂ (Member double) members ws) :
    List.Forall₂ (Adds double) (members.map fun m => form m.1 m.2) (ws.map fun w => (w.1.toList, w.2)) := by
  induction h with
  | nil => exact .nil
  | @cons m w members ws hm h ih =>
    have hadds : Adds double (form m.1 m.2) (w.1.toList, w.2) := hm.1.1 ▸ hform m.1 m.2 w.2 hm.1.2 hm.2
    exact .cons hadds ih

private theorem reads_objectText {members : List (String × List UInt8)} {ws : List (String × Json ν)} (hne : ws ≠ [])
    (h : List.Forall₂ (Member double) members ws) : Reads double (objectText members) (fields ws) := by
  have hadds := members_add (fun _ _ _ => memberText_adds) h
  exact reads_object (fills_joined separates_members spaces_nil hadds fun hnil => hne (List.map_eq_nil_iff.1 hnil))

private theorem space_bytes {s : String} (h : (bytes s).all space = true) : ∀ b ∈ bytes s, space b = true :=
  List.all_eq_true.1 h

private theorem space_newline : ∀ b ∈ bytes "\n", space b = true := space_bytes (by decide)

private theorem reads_arrayText {texts : List (List UInt8)} {vs : List (Json ν)}
    (h : List.Forall₂ (Reads double) texts vs) :
    Reads double (arrayText texts) (.array vs) := by
  cases h with
  | nil => exact reads_array_nil spaces_nil
  | cons hfirst hrest =>
    have hall := List.Forall₂.cons hfirst hrest
    have hfills := fills_joined separates_elements spaces_nil
      (hall.imp fun _ _ h => h.fills) (List.cons_ne_nil _ _)
    exact reads_array hfills

/-- A line, with a key that stands there between quotes. -/
theorem line_adds {indent : String} (hindent : (bytes indent).all space = true) {raw : List UInt8}
    {key : List Char} (hraw : JsonText.Inside raw) (hkey : unescape raw = some key) (h : Reads double value v) :
    Adds double (bytes indent ++ (bytes "  " ++ (quote :: (raw ++ [quote]) ++ 0x3a :: (bytes " " ++ value))))
      (key, v) :=
  ((h.member hraw hkey (space_bytes (by decide))).spaces (space_bytes (by decide))).spaces
    (space_bytes hindent)

private theorem lineText_adds {key : String} (hkey : bare key.toList = true) (h : Reads double value v) :
    Adds double (lineText "" key value) (key.toList, v) :=
  line_adds (by decide) (inside_bare (bare_iff.1 hkey)) (unescape_bare (bare_iff.1 hkey)) h

/-! ### Values -/

/-- What the text of a value denotes. -/
def denotes (double : List Char → ν) (value : String) : Json ν := (scalar double value.toList).getD .null

/-- The value is one scalar. -/
def Scalar (double : List Char → ν) (value : String) : Prop := Reads double (bytes value) (denotes double value)

private theorem scalar_null : Scalar double "null" := reads_word (by decide) rfl

private theorem scalar_toString (n : ℤ) : Scalar double (toString n) := by
  have h : denotes double (toString n) = .int n := by rw [denotes, scalar_int]; rfl
  rw [Scalar, h]
  exact reads_intText n

/-! ### Samples, banks and devices -/

private theorem bare_valueKindName (kind : ValueKind) : bare (valueKindName kind).toList = true := by
  cases kind <;> exact bare_literal rfl (by decide)

private theorem bare_valueUnit (kind : ValueKind) : bare (valueUnit kind).toList = true := by
  cases kind <;> exact bare_literal rfl (by decide)

private theorem reads_sampleText (bank : Option MetricBank) {sample : MetricSample}
    (hvalue : Scalar double sample.value) :
    Reads double (sampleText bank sample) (writeSample (denotes double) bank sample) := by
  refine reads_objectText (List.cons_ne_nil _ _) ?_
  refine .cons (member (reads_boolText _) rfl (by decide)) ?_
  refine .cons (member (reads_boolText _) rfl (by decide)) ?_
  refine .cons (member (reads_boolText _) rfl (by decide)) ?_
  refine .cons (member (reads_boolText _) rfl (by decide)) ?_
  refine .cons (member (reads_quoted _) rfl (by decide)) ?_
  refine .cons (member (reads_intText _) rfl (by decide)) ?_
  refine .cons (member hvalue rfl (by decide)) ?_
  refine .cons (member (reads_literal (bare_valueKindName _)) rfl (by decide)) ?_
  refine .cons (member (reads_literal (bare_valueUnit _)) rfl (by decide)) ?_
  refine .cons (member (reads_intText _) rfl (by decide)) ?_
  refine .cons (member (reads_intText _) rfl (by decide)) ?_
  refine .cons (member (reads_intText _) rfl (by decide)) ?_
  refine .cons (member (reads_boolText _) rfl (by decide)) ?_
  exact .cons (member (reads_quoted _) rfl (by decide)) .nil

/-- The values of a device are scalars. -/
def DeviceState.Scalars (double : List Char → ν) (s : DeviceState) : Prop :=
  ∀ m v, s.samples m = some v → Scalar double v.value

private theorem lines_adds {s : DeviceState} (h : s.Scalars double) {indent : String}
    (hindent : (bytes indent).all space = true) (ms : List Metric) :
    List.Forall₂ (Adds double) (ms.filterMap fun m => (s.samples m).map (sampleLine s indent m))
      (ms.filterMap fun m =>
        (s.samples m).map fun sample => (m.name.toList, writeSample (denotes double) (s.bankOf m) sample)) := by
  induction ms with
  | nil => exact .nil
  | cons m ms ih =>
    cases hm : s.samples m with
    | none => simpa only [List.filterMap_cons, hm, Option.map_none] using ih
    | some v =>
      have hadds : Adds double (sampleLine s indent m v) (m.name.toList, _) :=
        line_adds hindent (inside_jsonEscape _) (unescape_jsonEscape m.name) (reads_sampleText (s.bankOf m) (h m v hm))
      simpa only [List.filterMap_cons, hm, Option.map_some] using .cons hadds ih

private theorem reads_samplesText {s : DeviceState} (h : s.Scalars double) {indent : String}
    (hindent : (bytes indent).all space = true) :
    Reads double (samplesText s indent) (writeSamples (denotes double) s) := by
  have hlines := lines_adds h hindent Metric.sorted
  have hbehind : ∀ b ∈ bytes "\n" ++ bytes indent, space b = true := fun b hb =>
    (List.mem_append.1 hb).elim (space_newline b) (space_bytes hindent b)
  unfold samplesText writeSamples
  generalize (Metric.sorted.filterMap fun m => (s.samples m).map (sampleLine s indent m)) = texts at hlines ⊢
  -- the lines and the members depend on each other only through this relation
  revert hlines
  generalize (Metric.sorted.filterMap fun m => (s.samples m).map fun sample =>
    (m.name.toList, writeSample (denotes double) (s.bankOf m) sample)) = members
  intro hlines
  cases hlines with
  -- without a sample the braces stand around white space
  | nil => exact reads_object_nil fun b hb => (List.mem_append.1 hb).elim (space_newline b) (hbehind b)
  | cons hfirst hrest =>
    have hfills := fills_joined separates_members space_newline (.cons hfirst hrest) (List.cons_ne_nil _ _)
    exact reads_object ((hfills.spaces_behind hbehind).spaces space_newline)

private theorem reads_bankText (bank : MetricBank) : Reads double (bankText bank) (writeBank bank) := by
  refine reads_objectText (List.cons_ne_nil _ _) ?_
  refine .cons (member (reads_quoted _) rfl (by decide)) ?_
  refine .cons (member (reads_boolText _) rfl (by decide)) ?_
  refine .cons (member (reads_boolText _) rfl (by decide)) ?_
  refine .cons (member (reads_boolText _) rfl (by decide)) ?_
  refine .cons (member (reads_intText _) rfl (by decide)) ?_
  refine .cons (member (reads_intText _) rfl (by decide)) ?_
  exact .cons (member (reads_quoted _) rfl (by decide)) .nil

private theorem reads_deviceText {s : DeviceState} (h : s.Scalars double) :
    Reads double (deviceText s) (writeDevice (denotes double) s) := by
  have hbanks : List.Forall₂ (Reads double) (s.banks.map bankText) (s.banks.map writeBank) := by
    rw [List.forall₂_map_left_iff, List.forall₂_map_right_iff, List.forall₂_same]
    exact fun bank _ => reads_bankText bank
  refine reads_objectText (List.cons_ne_nil _ _) ?_
  refine .cons (member (reads_intText _) rfl (by decide)) ?_
  refine .cons (member (reads_quoted _) rfl (by decide)) ?_
  refine .cons (member (reads_quoted _) rfl (by decide)) ?_
  refine .cons (member (reads_boolText _) rfl (by decide)) ?_
  refine .cons (member (reads_intText _) rfl (by decide)) ?_
  refine .cons (member (reads_intText _) rfl (by decide)) ?_
  refine .cons (member (reads_quoted _) rfl (by decide)) ?_
  refine .cons (member (reads_arrayText hbanks) rfl (by decide)) ?_
  refine .cons (member (reads_quoted _) rfl (by decide)) ?_
  exact .cons (member (reads_samplesText h (by decide)) rfl (by decide)) .nil

private theorem reads_devicesText {devices : List DeviceState} (h : ∀ s ∈ devices, s.Scalars double) :
    Reads double (devicesText devices) (.array (devices.map (writeDevice (denotes double)))) := by
  have hspaces : ∀ b ∈ bytes "  ", space b = true := space_bytes (by decide)
  have hbehind : ∀ b ∈ (if devices.isEmpty then [] else bytes "\n") ++ bytes "  ", space b = true := by
    intro b hb
    rcases List.mem_append.1 hb with hb | hb
    · split at hb
      · cases hb
      · exact space_newline b hb
    · exact hspaces b hb
  have hdevices : List.Forall₂ (fun text v => Fills double .elements [.value, .firstValue] text [v])
      (devices.map fun state => bytes "\n    " ++ deviceText state) (devices.map (writeDevice (denotes double))) := by
    rw [List.forall₂_map_left_iff, List.forall₂_map_right_iff, List.forall₂_same]
    exact fun s hs => ((reads_deviceText (h s hs)).spaces (space_bytes (by decide))).fills
  by_cases hnil : devices = []
  · subst hnil
    exact reads_array_nil hbehind
  · have hfills := fills_joined separates_elements spaces_nil hdevices
      fun hmap => hnil (List.map_eq_nil_iff.1 hmap)
    exact reads_array (hfills.spaces_behind hbehind)

private theorem bare_rotation : bare rotationPolicy.toList = true ∧ bare rotationNote.toList = true := by
  constructor
  · exact bare_literal rfl (by decide)
  · exact bare_append (bare_literal rfl (by decide)) (bare_literal rfl (by decide))

private theorem reads_rotationText (windowMs : Nat) (devices : List DeviceState) :
    Reads double (rotationText windowMs devices) (fields
      [("simultaneous", .bool false), ("sample_period_ms", .int windowMs),
        ("requested_metrics", .int Metric.all.length), ("device_count", .int devices.length), ("bank_count", .int 2),
        ("policy", text rotationPolicy), ("note", text rotationNote)]) := by
  refine reads_objectText (List.cons_ne_nil _ _) ?_
  refine .cons (member (reads_boolText _) rfl (by decide)) ?_
  refine .cons (member (reads_intText _) rfl (by decide)) ?_
  refine .cons (member (reads_intText _) rfl (by decide)) ?_
  refine .cons (member (reads_intText _) rfl (by decide)) ?_
  refine .cons (member (reads_intText _) rfl (by decide)) ?_
  refine .cons (member (reads_literal bare_rotation.1) rfl (by decide)) ?_
  exact .cons (member (reads_literal bare_rotation.2) rfl (by decide)) .nil

/-! ### The report -/

private theorem reads_linesText {members : List (String × List UInt8)} {ws : List (String × Json ν)} (hne : ws ≠ [])
    (h : List.Forall₂ (Member double) members ws) : Reads double (linesText members) (fields ws) := by
  have hadds := members_add (fun _ _ _ => lineText_adds) h
  have hfills := fills_joined separates_members space_newline hadds fun hnil => hne (List.map_eq_nil_iff.1 hnil)
  exact reads_object ((hfills.spaces_behind space_newline).spaces space_newline)

private theorem reads_reportText {c : Collector} (h : ∀ s ∈ c.devices, s.Scalars double) (windowMs : Nat) (ready : Bool)
    (activeRequests : UInt32) :
    read double (reportText windowMs ready activeRequests c) =
      some (writeReport (denotes double) windowMs ready activeRequests c) := by
  have hsamples : Reads double ((c.devices.head?.map fun state => samplesText state "  ").getD (bytes "{}"))
      ((c.devices.head?.map (writeSamples (denotes double))).getD (.object [])) := by
    cases hdevices : c.devices with
    | nil => exact reads_object_nil spaces_nil
    | cons s devices =>
      exact reads_samplesText (h s (by rw [hdevices]; exact List.mem_cons_self)) (by decide)
  refine (reads_linesText (List.cons_ne_nil _ _) ?_).read_spaces space_newline
  refine .cons (member (reads_intText _) rfl (by decide)) ?_
  refine .cons (member (reads_literal (bare_literal rfl (by decide))) rfl (by decide)) ?_
  refine .cons (member (reads_boolText _) rfl (by decide)) ?_
  refine .cons (member (reads_intText _) rfl (by decide)) ?_
  refine .cons (member (reads_intText _) rfl (by decide)) ?_
  refine .cons (member (reads_intText _) rfl (by decide)) ?_
  refine .cons (member (reads_rotationText _ _) rfl (by decide)) ?_
  refine .cons (member hsamples rfl (by decide)) ?_
  refine .cons (member (reads_devicesText h) rfl (by decide)) ?_
  exact .cons (member (reads_quoted _) rfl (by decide)) .nil

/-- The text of a double is a number of JSON. -/
def Numbers (double : List Char → ν) (P : Platform) : Prop :=
  ∀ bits value, P.doubleText bits = some value → (number double value.toList).isSome = true

private theorem scalar_of_number {value : String} (h : (number double value.toList).isSome = true) :
    Scalar double value := by
  obtain ⟨v, hv⟩ : ∃ v, scalar double value.toList = some v := by
    unfold scalar
    split
    · exact ⟨_, rfl⟩
    · split
      · exact ⟨_, rfl⟩
      · split
        · exact ⟨_, rfl⟩
        · exact Option.isSome_iff_exists.1 h
  have hdenotes : denotes double value = v := by rw [denotes, hv]; rfl
  rw [Scalar, hdenotes]
  exact reads_scalar (plain_encode (number_chars h)) (decode_encode _) hv

private theorem scalar_metricValueJson {P : Platform} (hP : Numbers double P) (kind : ValueKind) (bits : Nat) :
    Scalar double (metricValueJson P kind bits) := by
  have hdouble : Scalar double ((P.doubleText bits).getD "null") := by
    cases hbits : P.doubleText bits with
    | none => exact scalar_null
    | some value => exact scalar_of_number (hP bits value hbits)
  cases kind with
  | double => exact hdouble
  | percent => exact hdouble
  | uint64 => exact scalar_toString (bits : ℤ)
  | throughput => exact scalar_toString (bits : ℤ)
  | int64 => exact scalar_toString _
  | utilizationLevel => exact scalar_toString _
  | forceInt => exact scalar_null

/-- In every state of a run whose driver returns its texts in UTF-8, the text of the report is read as its value. -/
theorem report_read {P : Platform} (hP : Numbers double P) {C : State → Prop} {n : Nat} {s : State}
    (h : Reachable P env C n s) (windowMs : Nat) (ready : Bool) (activeRequests : UInt32) :
    read double (reportText windowMs ready activeRequests s.world.mem) =
      some (writeReport (denotes double) windowMs ready activeRequests s.world.mem) := by
  refine reads_reportText (fun state hstate m v hv => ?_) windowMs ready activeRequests
  -- a value is the one a sample is cleared with, or was printed from bits of the driver
  rcases h.printed.1 state hstate m v hv with hnull | ⟨kind, bits, hvalue⟩
  · rw [hnull]
    exact scalar_null
  · rw [hvalue]
    exact scalar_metricValueJson hP kind bits

end

/-! ### A report with a value -/

/-- The bits of one half. -/
def halfBits : Nat := 0x3FE0000000000000

/-- A platform that prints one half. -/
def halfPlatform : Platform where
  cuptiText _ := none
  cudaText _ := none
  scaled values _ _ := values.head?
  doubleText bits := if bits = halfBits then some "0.5" else none

private theorem numbers_halfPlatform : Numbers id halfPlatform := by
  intro bits value hvalue
  by_cases hbits : bits = halfBits
  · have htext : halfPlatform.doubleText bits = some "0.5" := if_pos hbits
    rw [htext] at hvalue
    cases hvalue
    rfl
  · have htext : halfPlatform.doubleText bits = none := if_neg hbits
    rw [htext] at hvalue
    cases hvalue

/-- Every metric of the one device is one half; the name of the device has a quote and a letter of two bytes. -/
def halves (w : World) : (o : Op) → o.Answer × World
  | .cuDeviceGetName _ => ((success, "G\"\u00e9"), w)
  | .getTimestamp => ((success, (w.mem.bank 0 0).lastReadTimestampNs + 1), w)
  | .metricCreateEventGroupSets _ _ => ((success, some { numSets := 1, eventGroups := [7] }), w)
  | .metricGetValue _ _ _ _ _ => ((success, halfBits), w)
  | o => respond success w o

private theorem env_halves (w : World) (o : Op) : env w o (halves w o).1 (halves w o).2 := by
  cases o <;> first | exact rfl | exact env_respond success w _

/-- What `initialize` leaves. -/
def halfStart : Routine Empty Bool × (World × Shared) := (initializeImpl halfPlatform).run (onShared halves) ({}, {})

private theorem halfStart_eq : halfStart = (.ret true, halfStart.2.1, {}) := rfl

/-- A pass of the sampling loop, with one request active. -/
def halfSample : Routine Empty Unit × (World × Shared) :=
  (sample halfPlatform).run (onShared halves) (halfStart.2.1, { activeRequests := 1 })

private theorem halfSample_eq : halfSample = (.ret (), halfSample.2.1, { activeRequests := 1 }) := rfl

/-- The worker has sampled while its one caller is served. -/
def sampledHalf : State where
  shared := { activeRequests := 1 }
  callers := [.serving true]
  worker := .sampling (.ret ())
  stopper := .notCalled
  world := halfSample.2.1

private theorem reachable_sampledHalf : Reachable halfPlatform env (fun _ => True) 1 sampledHalf := by
  have hstarted := Reachable.initial.deviceWork (P := halfPlatform) (n := 1) (C := fun _ => True) (fun _ _ => .starting)
    env_halves rfl (fun _ _ => trivial) halfStart_eq
  have htop := hstarted.step (.worker rfl) trivial
  have hbegun := htop.callerRun (m := 8) (i := 0) trivial (fun _ _ => trivial) rfl rfl
  have hactive := hbegun.workerRun (m := 4) (fun _ _ => trivial) rfl
  have hsampled := hactive.deviceWork (fun _ _ => .sampling) env_halves rfl (fun _ _ => trivial) halfSample_eq
  exact hsampled

/-- The report of a sample that has a value. -/
theorem report_read_sampledHalf :
    read id (reportText 250 true 1 sampledHalf.world.mem) =
        some (writeReport (denotes id) 250 true 1 sampledHalf.world.mem) ∧
      ((sampledHalf.world.mem.device 0).sample .ipc).valid = true ∧
      ((sampledHalf.world.mem.device 0).sample .ipc).value = "0.5" :=
  ⟨report_read numbers_halfPlatform reachable_sampledHalf 250 true 1, rfl, rfl⟩

end CmpUnlocker.Cupti
