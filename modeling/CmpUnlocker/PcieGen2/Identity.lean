import Mathlib.Algebra.GroupWithZero.Nat
import Mathlib.Data.Fin.Basic
import CmpUnlocker.PcieGen2.Basic

/-!
# Finding a GPU in the inventory

The Gen2 helper finds a device in the output of `nvidia-smi` by its short address, that is without the domain.  Such a
search is exact for bus, device and function (`contains_busId`), but it does not see the domain: the first device
listed at the target's bus is taken for the target (`finds_target_iff`).
-/

namespace CmpUnlocker.PcieGen2

open Interaction Shell Guest

/-! ### Inventories -/

structure PciAddress where
  domain : Fin (2 ^ 32)
  bus : Fin 256
  device : Fin 32
  function : Fin 8
  deriving DecidableEq

/-- NVML's format, `%08X:%02X:%02X.%X`. -/
def PciAddress.busId (a : PciAddress) : List Char :=
  Text.upperHex 8 a.domain ++ ':' :: (Text.upperHex 2 a.bus ++ ':' :: (Text.upperHex 2 a.device ++ '.' ::
    Text.upperHex 1 a.function))

/-- A listed device; the values of the other columns do not break the format. -/
structure Gpu where
  address : PciAddress
  current : List Char
  max : List Char
  current_line : '\n' ∉ current
  max_line : '\n' ∉ max

/-- Its line in the output with three columns. -/
def Gpu.line (g : Gpu) : List Char :=
  g.address.busId ++ ',' :: (' ' :: g.current ++ ',' :: (' ' :: g.max))

/-- `--query-gpu=pci.bus_id` -/
def busIds (inventory : List Gpu) : String :=
  String.ofList (['\n'].intercalate (inventory.map fun g => g.address.busId))

/-- `--query-gpu=pci.bus_id,pcie.link.gen.current,pcie.link.gen.max` -/
def links (inventory : List Gpu) : String := String.ofList (['\n'].intercalate (inventory.map Gpu.line))

local instance neZero_domain : NeZero (2 ^ 32) := ⟨by decide⟩

/-- The address that a target names. -/
def addressOf (bdf : String) : PciAddress :=
  match bdf.toList with
  | [_, _, _, _, _, a, b, _, _, _, _, _] =>
    ⟨0, Fin.ofNat 256 (16 * (Text.digit 16 a).getD 0 + (Text.digit 16 b).getD 0), 0, 0⟩
  | _ => ⟨0, 0, 0, 0⟩

/-- The same bus, device and function. -/
def SameSlot (a b : PciAddress) : Prop := a.bus = b.bus ∧ a.device = b.device ∧ a.function = b.function

instance (a b : PciAddress) : Decidable (SameSlot a b) := inferInstanceAs (Decidable (_ ∧ _ ∧ _))

/-! ### Searching for a short address -/

private theorem digit_lower {c : Char} (h : (Text.digit 16 c).isSome = true) :
    ∀ d < 16, (c.toLower = (Text.upperDigit d).toLower ↔ Text.digit 16 c = some d) := by
  have hall : ∀ n < 128, (Text.digit 16 (Char.ofNat n)).isSome = true → ∀ d < 16,
      ((Char.ofNat n).toLower = (Text.upperDigit d).toLower ↔ Text.digit 16 (Char.ofNat n) = some d) := by
    decide +kernel
  have hlt : c.toNat < 128 := by
    by_contra hge
    have hnine : ('9' : Char).val.toNat = 57 := rfl
    have hf : ('f' : Char).val.toNat = 102 := rfl
    have hF : ('F' : Char).val.toNat = 70 := rfl
    have hval : 128 ≤ c.val.toNat := Nat.le_of_not_lt hge
    have hdecimal : ¬('0' ≤ c ∧ c ≤ '9') := by
      simp only [Char.le_def, UInt32.le_iff_toNat_le]
      omega
    have hsmall : ¬('a' ≤ c ∧ c ≤ 'f') := by
      simp only [Char.le_def, UInt32.le_iff_toNat_le]
      omega
    have hcapital : ¬('A' ≤ c ∧ c ≤ 'F') := by
      simp only [Char.le_def, UInt32.le_iff_toNat_le]
      omega
    have hnone : Text.digit 16 c = none := by simp [Text.digit, hdecimal, hsmall, hcapital]
    rw [hnone] at h
    cases h
  have hc := hall c.toNat hlt
  rw [Char.ofNat_toNat] at hc
  exact hc h

/-- A digit separates nothing in an address, and `0` is the digit of 0. -/
theorem lower_upperDigit :
    ∀ d < 16, (Text.upperDigit d).toLower ≠ ':' ∧ ('0' = (Text.upperDigit d).toLower ↔ d = 0) := by
  decide

private theorem target_shape {bdf : String} (h : isTarget bdf = true) : ∃ a b x y,
    bdf.toList = ['0', '0', '0', '0', ':', a, b, ':', '0', '0', '.', '0'] ∧ Text.digit 16 a = some x ∧
    Text.digit 16 b = some y ∧ x < 16 ∧ y < 16 := by
  have hlt : ∀ {c : Char} {n : Nat}, Text.digit 16 c = some n → n < 16 := by
    intro c n hn
    unfold Text.digit at hn
    by_contra hge
    simp only [Option.ite_none_right_eq_some, Option.some.injEq] at hn
    omega
  unfold isTarget at h
  split at h
  · next a b hbdf =>
    obtain ⟨ha, hb⟩ := Bool.and_eq_true_iff.1 h
    obtain ⟨x, hx⟩ := Option.isSome_iff_exists.1 ha
    obtain ⟨y, hy⟩ := Option.isSome_iff_exists.1 hb
    exact ⟨a, b, x, y, hbdf, hx, hy, hlt hx, hlt hy⟩
  · cases h

/-- A short address is contained in the bus ids with its bus, device and function. -/
theorem contains_busId {bdf : String} (h : isTarget bdf = true) (address : PciAddress) :
    Text.contains ((shortBdf bdf).toList.map Char.toLower) (address.busId.map Char.toLower) = true ↔
      SameSlot address (addressOf bdf) := by
  obtain ⟨a, b, x, y, hbdf, hx, hy, hx16, hy16⟩ := target_shape h
  have hshort : (shortBdf bdf).toList = [a, b, ':', '0', '0', '.', '0'] := by
    rw [shortBdf, hbdf, String.toList_ofList]
    rfl
  have haddress : addressOf bdf = ⟨0, Fin.ofNat 256 (16 * x + y), 0, 0⟩ := by
    simp only [addressOf, hbdf, hx, hy, Option.getD_some]
  obtain ⟨domain, bus, device, function⟩ := address
  have hbus : bus = Fin.ofNat 256 (16 * x + y) ↔ x = bus / 16 % 16 ∧ y = bus % 16 := by
    rw [Fin.ext_iff, Fin.val_ofNat]
    omega
  have hcolon : ∀ n, ¬ ':' = (Text.upperDigit (n % 16)).toLower := fun n =>
    (lower_upperDigit _ (Nat.mod_lt n (by decide))).1.symm
  have hzero : ∀ n, '0' = (Text.upperDigit (n % 16)).toLower ↔ n % 16 = 0 := fun n =>
    (lower_upperDigit _ (Nat.mod_lt n (by decide))).2
  have hlow : ∀ c : Char, c = '0' ∨ c = ':' ∨ c = '.' → c.toLower = c := by
    rintro c (rfl | rfl | rfl) <;> rfl
  have ha : ∀ n, a.toLower = (Text.upperDigit (n % 16)).toLower ↔ x = n % 16 := by
    intro n
    rw [digit_lower (by rw [hx]; rfl) _ (Nat.mod_lt _ (by decide)), hx, Option.some.injEq]
  have hb : ∀ n, b.toLower = (Text.upperDigit (n % 16)).toLower ↔ y = n % 16 := by
    intro n
    rw [digit_lower (by rw [hy]; rfl) _ (Nat.mod_lt _ (by decide)), hy, Option.some.injEq]
  rw [hshort, haddress, SameSlot, hbus]
  simp only [PciAddress.busId, Text.upperHex, List.nil_append, List.cons_append, List.map_cons, List.map_nil, hlow,
    true_or, or_true]
  have hdevice : device = 0 ↔ (device : ℕ) / 16 % 16 = 0 ∧ (device : ℕ) % 16 = 0 := by
    rw [Fin.ext_iff, Fin.val_zero]
    omega
  have hfunction : function = 0 ↔ (function : ℕ) % 16 = 0 := by
    rw [Fin.ext_iff, Fin.val_zero]
    omega
  simp only [Text.contains, Text.cut, Text.dropPrefix, Nat.reducePow, ha, hb, ↓Char.isValue, hcolon, ↓reduceIte,
    ite_self, hzero, Char.reduceEq, Fin.isValue, hdevice, hfunction]
  split_ifs <;> simp [*]

/-! ### The devices found -/

private theorem busId_plain {c : Char} (hline : c = '\n' ∨ c = ',') (address : PciAddress) : c ∉ address.busId := by
  have hdigit : ∀ d < 16, Text.upperDigit d ≠ '\n' ∧ Text.upperDigit d ≠ ',' := by decide
  have hhex : ∀ {width n : ℕ}, c ∉ Text.upperHex width n := by
    intro width n hmem
    obtain ⟨d, hd, rfl⟩ := Text.mem_upperHex hmem
    obtain ⟨hfeed, hcomma⟩ := hdigit d hd
    rcases hline with hc | hc
    · exact hfeed hc
    · exact hcomma hc
  have hseps : c ≠ ':' ∧ c ≠ '.' := by rcases hline with rfl | rfl <;> decide
  simp [PciAddress.busId, hhex, hseps]

private theorem busId_injective {a b : PciAddress} (h : a.busId = b.busId) : a = b := by
  have hlength : ∀ width n m, (Text.upperHex width n).length = (Text.upperHex width m).length := by
    intro width n m
    rw [Text.length_upperHex, Text.length_upperHex]
  obtain ⟨hdomain, h⟩ := List.append_inj h (hlength 8 _ _)
  obtain ⟨hbus, h⟩ := List.append_inj (List.cons.inj h).2 (hlength 2 _ _)
  obtain ⟨hdevice, h⟩ := List.append_inj (List.cons.inj h).2 (hlength 2 _ _)
  have hfunction := (List.cons.inj h).2
  obtain ⟨⟨domain, hd⟩, ⟨bus, hb⟩, ⟨device, hv⟩, ⟨function, hf⟩⟩ := a
  obtain ⟨⟨domain', hd'⟩, ⟨bus', hb'⟩, ⟨device', hv'⟩, ⟨function', hf'⟩⟩ := b
  obtain rfl := Text.upperHex_injective (by omega) (by omega) hdomain
  obtain rfl := Text.upperHex_injective (by omega) (by omega) hbus
  obtain rfl := Text.upperHex_injective (by omega) (by omega) hdevice
  obtain rfl := Text.upperHex_injective (by omega) (by omega) hfunction
  rfl

private theorem Gpu.cut_line (g : Gpu) : (Text.cut [','] g.line).1 = g.address.busId := by
  rw [Gpu.line, Text.cut_append (busId_plain (.inr rfl) g.address)]

private theorem Gpu.address_of_line {g g' : Gpu} (h : g.line = g'.line) : g.address = g'.address := by
  apply busId_injective
  rw [← g.cut_line, ← g'.cut_line, h]

private theorem Gpu.line_plain (g : Gpu) : '\n' ∉ g.line := by
  have hid := busId_plain (.inl rfl) g.address
  simp [Gpu.line, hid, g.current_line, g.max_line]

/-- The first device of the inventory that a search for the target finds. -/
def found (bdf : String) (inventory : List Gpu) : Option Gpu :=
  inventory.find? fun g => SameSlot g.address (addressOf bdf)

section

variable {bdf : String} (hbdf : isTarget bdf = true) {inventory : List Gpu}

include hbdf

/-- Nothing is found in an empty text. -/
theorem not_contains_nil : Text.contains ((shortBdf bdf).toList.map Char.toLower) [] = false := by
  obtain ⟨a, b, x, y, htext, -⟩ := target_shape hbdf
  have hshort : (shortBdf bdf).toList = [a, b, ':', '0', '0', '.', '0'] := by
    rw [shortBdf, htext, String.toList_ofList]
    rfl
  rw [hshort]
  rfl

private theorem grepFqi_empty : grepFqi (shortBdf bdf) "" = false := by
  have hnil := not_contains_nil hbdf
  simpa [grepFqi, Text.splitOn] using hnil

private theorem linkLine_empty : linkLine (shortBdf bdf) "" = "" := by
  have hnil := not_contains_nil hbdf
  simp [linkLine, Text.splitOn, Text.cut, Text.dropPrefix, hnil]

private theorem grepFqi_busIds : grepFqi (shortBdf bdf) (busIds inventory) = (found bdf inventory).isSome := by
  by_cases hempty : inventory = []
  · subst hempty
    exact grepFqi_empty hbdf
  · have hsplit : Text.splitOn (· == '\n') (busIds inventory).toList = inventory.map fun g => g.address.busId := by
      rw [busIds, String.toList_ofList]
      refine Text.splitOn_intercalate rfl (by simpa using hempty) fun text htext c hc => ?_
      obtain ⟨g, -, rfl⟩ := List.mem_map.1 htext
      have hne : c ≠ '\n' := by
        rintro rfl
        exact busId_plain (.inl rfl) _ hc
      simpa using hne
    rw [grepFqi, hsplit, Bool.eq_iff_iff, found, List.find?_isSome]
    simp [contains_busId hbdf]

private theorem linkLine_links :
    linkLine (shortBdf bdf) (links inventory) = String.ofList (((found bdf inventory).map Gpu.line).getD []) := by
  by_cases hempty : inventory = []
  · subst hempty
    exact linkLine_empty hbdf
  · have hsplit : Text.splitOn (· == '\n') (links inventory).toList = inventory.map Gpu.line := by
      rw [links, String.toList_ofList]
      refine Text.splitOn_intercalate rfl (by simpa using hempty) fun text htext c hc => ?_
      obtain ⟨g, -, rfl⟩ := List.mem_map.1 htext
      have hne : c ≠ '\n' := by
        rintro rfl
        exact g.line_plain hc
      simpa using hne
    rw [linkLine, hsplit, List.find?_map, found]
    have hsearch : ((fun line => Text.contains ((shortBdf bdf).toList.map Char.toLower)
        ((Text.cut [','] line).1.map Char.toLower)) ∘ Gpu.line) =
          fun g => decide (SameSlot g.address (addressOf bdf)) := by
      funext g
      rw [Function.comp_apply, g.cut_line, Bool.eq_iff_iff, contains_busId hbdf, decide_eq_true_iff]
    rw [hsearch]

end

/-! ### The queries -/

/-- `nvidia-smi` prints the inventory, or nothing where it fails. -/
def Prints (inventory : List Gpu) : (t : Tool) → t.Answer → Prop
  | .exec argv, r =>
    (argv = ["timeout", "10", "nvidia-smi", "--query-gpu=pci.bus_id", "--format=csv,noheader"] →
      Result.out r = "" ∨ Result.out r = busIds inventory) ∧
    (argv = ["timeout", "10", "nvidia-smi", "--query-gpu=pci.bus_id,pcie.link.gen.current,pcie.link.gen.max",
        "--format=csv,noheader"] → Result.out r = "" ∨ Result.out r = links inventory)
  | _, _ => True

def Printed (inventory : List Gpu) (t : List (Event Tool.Answer)) : Prop := ∀ e ∈ t, Prints inventory e.1 e.2

/-- The searches for a target find its device only, or nothing. -/
structure FindsTarget (bdf : String) (inventory : List Gpu) : Prop where
  listed : ∀ t, Prog.Plays (waitNvidiaBdf bdf) t (.ret true) → Printed inventory t →
    ∃ g ∈ inventory, g.address = addressOf bdf
  line : ∀ t line, Prog.Plays (nvidiaLinkLine bdf) t (.ret line) → Printed inventory t →
    line = "" ∨ ∃ g ∈ inventory, g.address = addressOf bdf ∧ line = String.ofList g.line
  current : ∀ t gen, Prog.Plays (nvidiaCurrentGen bdf) t (.ret gen) → Printed inventory t →
    gen = "" ∨ ∃ g ∈ inventory, g.address = addressOf bdf ∧ gen = lineField 1 (String.ofList g.line)
  max : ∀ t gen, Prog.Plays (nvidiaMaxGen bdf) t (.ret gen) → Printed inventory t →
    gen = "" ∨ ∃ g ∈ inventory, g.address = addressOf bdf ∧ gen = lineField 2 (String.ofList g.line)

section

variable {bdf : String} (hbdf : isTarget bdf = true) {inventory : List Gpu}

include hbdf

/-- A round that succeeds has seen a device. -/
theorem waitNvidiaBdfFor_plays {attempts : List String} {t : List (Event Tool.Answer)}
    (h : Prog.Plays (waitNvidiaBdfFor bdf attempts) t (.ret true)) (hprints : Printed inventory t) :
    (found bdf inventory).isSome = true := by
  obtain ⟨r, hmem, hgrep⟩ := listed_of_plays h
  rcases (hprints _ hmem).1 rfl with hout | hout
  · rw [hout, grepFqi_empty hbdf] at hgrep
    cases hgrep
  · rwa [hout, grepFqi_busIds hbdf] at hgrep

/-- The line of the first device found. -/
theorem nvidiaLinkLine_plays {t : List (Event Tool.Answer)} {line : String}
    (h : Prog.Plays (nvidiaLinkLine bdf) t (.ret line)) (hprints : Printed inventory t) :
    line = "" ∨ ∃ g, found bdf inventory = some g ∧ line = String.ofList g.line := by
  obtain ⟨t₁, t₂, out, rfl, hcapture, hret⟩ := Prog.plays_bind_ret.1 h
  obtain ⟨-, hline⟩ := Prog.plays_ret.1 hret
  cases hline
  obtain ⟨r, hmem, rfl⟩ := capture_plays hcapture
  have hprint := hprints _ (List.mem_append_left _ hmem)
  rcases hprint.2 rfl with hout | hout
  · rw [hout, linkLine_empty hbdf]
    exact .inl rfl
  · rw [hout, linkLine_links hbdf]
    cases hfound : found bdf inventory with
    | none => exact .inl rfl
    | some g => exact .inr ⟨g, rfl, rfl⟩

/-- A column of that line. -/
theorem lineField_plays {n : Nat} {t : List (Event Tool.Answer)} {gen : String}
    (h : Prog.Plays ((nvidiaLinkLine bdf).bind fun line => .ret (if line = "" then "" else lineField n line)) t
      (.ret gen))
    (hprints : Printed inventory t) :
    gen = "" ∨ ∃ g, found bdf inventory = some g ∧ gen = lineField n (String.ofList g.line) := by
  obtain ⟨t₁, t₂, line, rfl, hline, hret⟩ := Prog.plays_bind_ret.1 h
  obtain ⟨-, hgen⟩ := Prog.plays_ret.1 hret
  cases hgen
  by_cases hempty : line = ""
  · exact .inl (if_pos hempty)
  · rw [if_neg hempty]
    have hprintedLine : Printed inventory t₁ := fun e he => hprints e (List.mem_append_left _ he)
    rcases nvidiaLinkLine_plays hbdf hline hprintedLine with hnone | ⟨g, hg, rfl⟩
    · exact absurd hnone hempty
    · exact .inr ⟨g, hg, rfl⟩

omit hbdf in
private theorem addressOf_domain : (addressOf bdf).domain = 0 := by
  unfold addressOf
  split <;> rfl

/-- The line of the first device found is printed for the target. -/
theorem FindsTarget.own (h : FindsTarget bdf inventory) {g : Gpu} (hg : found bdf inventory = some g) :
    g.address = addressOf bdf := by
  have hprinted : linkLine (shortBdf bdf) (links inventory) = String.ofList g.line := by
    rw [linkLine_links hbdf, hg, Option.map_some, Option.getD_some]
  have hruns : Prog.Plays (nvidiaLinkLine bdf) _ (.ret (linkLine (shortBdf bdf) (links inventory))) :=
    .answer (r := ⟨0, links inventory⟩) (.answer (r := none) (.done _))
  have hprints : Printed inventory [⟨.exec ["timeout", "10", "nvidia-smi",
      "--query-gpu=pci.bus_id,pcie.link.gen.current,pcie.link.gen.max", "--format=csv,noheader"],
      ⟨0, links inventory⟩⟩, ⟨.signal, none⟩] := by
    intro e he
    rcases List.mem_cons.1 he with rfl | he
    · exact ⟨fun hargv => absurd hargv (by decide), fun _ => .inr rfl⟩
    · rw [List.mem_singleton.1 he]
      trivial
  rcases h.line _ _ hruns hprints with hempty | ⟨g', -, haddress, hline⟩
  · rw [hprinted] at hempty
    have hnil : g.line = [] := by simpa using hempty
    simp [Gpu.line] at hnil
  · rw [hprinted] at hline
    have hsame : g.line = g'.line := String.ofList_injective hline
    rw [Gpu.address_of_line hsame, haddress]

/-- The searches are exact where the first device listed at the bus of the target, if there is one, is in domain 0. -/
theorem finds_target_iff :
    FindsTarget bdf inventory ↔ ∀ g, found bdf inventory = some g → g.address.domain = 0 := by
  constructor
  · intro h g hg
    rw [h.own hbdf hg, addressOf_domain]
  · intro hown
    have htarget : ∀ g, found bdf inventory = some g → g ∈ inventory ∧ g.address = addressOf bdf := by
      intro g hg
      obtain ⟨hbus, hdevice, hfunction⟩ : SameSlot g.address (addressOf bdf) := by
        simpa using List.find?_some hg
      have hdomain : g.address.domain = (addressOf bdf).domain := by rw [hown g hg, addressOf_domain]
      refine ⟨List.mem_of_find?_eq_some hg, ?_⟩
      cases hg' : g.address
      cases ha : addressOf bdf
      simp_all
    constructor
    · intro t hplays hprints
      obtain ⟨t₁, t₂, attempts, rfl, -, hplays⟩ := Prog.plays_bind_ret.1 hplays
      have hsome := waitNvidiaBdfFor_plays hbdf hplays fun e he => hprints e (List.mem_append_right _ he)
      obtain ⟨g, hg⟩ := Option.isSome_iff_exists.1 hsome
      exact ⟨g, htarget g hg⟩
    · intro t line hplays hprints
      rcases nvidiaLinkLine_plays hbdf hplays hprints with hempty | ⟨g, hg, hline⟩
      · exact .inl hempty
      · exact .inr ⟨g, (htarget g hg).1, (htarget g hg).2, hline⟩
    · intro t gen hplays hprints
      rcases lineField_plays hbdf hplays hprints with hempty | ⟨g, hg, hline⟩
      · exact .inl hempty
      · exact .inr ⟨g, (htarget g hg).1, (htarget g hg).2, hline⟩
    · intro t gen hplays hprints
      rcases lineField_plays hbdf hplays hprints with hempty | ⟨g, hg, hline⟩
      · exact .inl hempty
      · exact .inr ⟨g, (htarget g hg).1, (htarget g hg).2, hline⟩

end

/-- A device at bus 3 of this domain. -/
def atBusThree (domain : Fin (2 ^ 32)) : Gpu where
  address := ⟨domain, 3, 0, 0⟩
  current := ['1']
  max := ['2']
  current_line := by decide
  max_line := by decide

theorem finds_target_two : FindsTarget "0000:03:00.0" [atBusThree 0, atBusThree 1] := by
  apply (finds_target_iff (by decide)).2
  intro g hg
  have hfirst : found "0000:03:00.0" [atBusThree 0, atBusThree 1] = some (atBusThree 0) := rfl
  rw [hfirst] at hg
  cases hg
  rfl

/-- A device of another domain is taken for the target. -/
theorem foreign_domain_found : isTarget "0000:03:00.0" = true ∧ ¬FindsTarget "0000:03:00.0" [atBusThree 1] := by
  have htarget : isTarget "0000:03:00.0" = true := by decide
  refine ⟨htarget, fun h => ?_⟩
  have hown := h.own htarget (g := atBusThree 1) rfl
  exact absurd hown (by decide)

end CmpUnlocker.PcieGen2
