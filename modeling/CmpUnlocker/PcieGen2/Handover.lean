import CmpUnlocker.PcieGen2.Script
import CmpUnlocker.PcieHost.Run

/-!
# The targets handed over

The coordinator validates its configuration, joins the guest addresses of the pending devices by spaces and passes them
to the guest helper in `CMP100_PCIE_BDFS`; the helper splits the value and checks each address, and that none comes
twice.  The two agree: the helper finds the addresses of an accepted configuration and has nothing to object to
(`targets_handed_over`).
-/

namespace CmpUnlocker.PcieGen2

open Interaction Shell Guest

/-! ### The coordinator -/

section

open PcieHost (Device Exn Json validateItem validateDevices validateConfig hasDuplicates lower isHex matchesGuestBdf)

/-- The device with its addresses in lower case. -/
def lowered (d : Device) : Device := { host := lower d.host, guest := lower d.guest }

private theorem hasDuplicates_eq_false {texts : List String} : hasDuplicates texts = false ↔ texts.Nodup := by
  induction texts with
  | nil => simp [hasDuplicates]
  | cons text texts ih =>
    rw [hasDuplicates, Bool.or_eq_false_iff, ih, List.nodup_cons]
    simp

private theorem validateItem_ok {item : Json} {d : Device} (h : validateItem item = .ok d) :
    matchesGuestBdf d.guest = true := by
  unfold validateItem at h
  repeat' split at h
  all_goals try cases h
  assumption

private theorem mapM_ok {items : List Json} {devices : List Device} (h : items.mapM validateItem = .ok devices) :
    devices.length = items.length ∧ ∀ d ∈ devices, matchesGuestBdf d.guest = true := by
  induction items generalizing devices with
  | nil =>
    cases h
    simp
  | cons item items ih =>
    rw [List.mapM_cons] at h
    cases hitem : validateItem item with
    | error e =>
      rw [hitem] at h
      cases h
    | ok d =>
      cases hrest : items.mapM validateItem with
      | error e =>
        rw [hitem, hrest] at h
        cases h
      | ok rest =>
        rw [hitem, hrest] at h
        cases h
        obtain ⟨hlength, hall⟩ := ih hrest
        refine ⟨by simp [hlength], fun d' hd' => ?_⟩
        rcases List.mem_cons.1 hd' with rfl | hd'
        · exact validateItem_ok hitem
        · exact hall d' hd'

/-- What an accepted configuration says of its devices. -/
theorem validateDevices_ok {items : List Json} {devices : List Device} (h : validateDevices items = .ok devices) :
    ∃ given : List Device, items.mapM validateItem = .ok given ∧ devices = given.map lowered ∧
      1 ≤ devices.length ∧ devices.length ≤ 8 ∧ (devices.map (·.host)).Nodup ∧ (devices.map (·.guest)).Nodup := by
  unfold validateDevices at h
  by_cases hbound : (items.length < 1 || 8 < items.length) = true
  · rw [if_pos hbound] at h
    cases h
  · rw [if_neg hbound] at h
    cases hgiven : items.mapM validateItem with
    | error e =>
      rw [hgiven] at h
      cases h
    | ok given =>
      rw [hgiven] at h
      have hlength : (given.map lowered).length = items.length := by
        rw [List.length_map, (mapM_ok hgiven).1]
      have hbounds : 1 ≤ items.length ∧ items.length ≤ 8 := by
        simp only [Bool.or_eq_true, decide_eq_true_eq] at hbound
        omega
      change (if hasDuplicates ((given.map lowered).map (·.host)) = true then _ else _) = _ at h
      by_cases hhosts : hasDuplicates ((given.map lowered).map (·.host)) = true
      · rw [if_pos hhosts] at h
        cases h
      · rw [if_neg hhosts] at h
        change (if hasDuplicates ((given.map lowered).map (·.guest)) = true then _ else _) = _ at h
        by_cases hguests : hasDuplicates ((given.map lowered).map (·.guest)) = true
        · rw [if_pos hguests] at h
          cases h
        · rw [if_neg hguests] at h
          obtain rfl : given.map lowered = devices := Except.ok.inj h
          exact ⟨given, rfl, rfl, by omega, by omega, hasDuplicates_eq_false.1 (by simpa using hhosts),
            hasDuplicates_eq_false.1 (by simpa using hguests)⟩

/-- A hexadecimal digit is one for the helper too, in lower case. -/
theorem isSome_digit_toLower {c : Char} (h : isHex c = true) : (Text.digit 16 c.toLower).isSome = true := by
  have hall : ∀ n < 128, isHex (Char.ofNat n) = true → (Text.digit 16 (Char.ofNat n).toLower).isSome = true := by
    decide +kernel
  have hlt : c.toNat < 128 := by
    simp only [isHex, Char.isDigit, Bool.or_eq_true, Bool.and_eq_true, decide_eq_true_eq, Char.le_def,
      UInt32.le_iff_toNat_le] at h
    change c.val.toNat < 128
    have hnine : ('9' : Char).val.toNat = 57 := rfl
    have hf : ('f' : Char).val.toNat = 102 := rfl
    have hF : ('F' : Char).val.toNat = 70 := rfl
    omega
  have hc := hall c.toNat hlt
  rw [Char.ofNat_toNat] at hc
  exact hc h

/-- An accepted guest address matches the pattern of the helper in lower case. -/
theorem isTarget_lower {s : String} (h : matchesGuestBdf s = true) : isTarget (lower s) = true := by
  unfold matchesGuestBdf at h
  split at h
  · next a b hs =>
    obtain ⟨ha, hb⟩ := Bool.and_eq_true_iff.1 h
    have hlower : (lower s).toList = ['0', '0', '0', '0', ':', a.toLower, b.toLower, ':', '0', '0', '.', '0'] := by
      rw [lower, String.toList_ofList, hs]
      rfl
    unfold isTarget
    rw [hlower]
    simp [isSome_digit_toLower ha, isSome_digit_toLower hb]
  · cases h

/-- The pending devices are some of the configured ones, in their order. -/
theorem pendingDevices_sublist {items : List (Device × (PcieHost.Pci × PcieHost.Pci))} {pending : List Device}
    {t : List (Event PcieHost.Op.Answer)} (h : Prog.Plays (PcieHost.pendingDevices items) t (.ret pending)) :
    pending.Sublist (items.map Prod.fst) := by
  induction items generalizing pending t with
  | nil =>
    obtain ⟨-, hpending⟩ := Prog.plays_ret.1 h
    cases hpending
    exact List.Sublist.refl _
  | cons item items ih =>
    obtain ⟨item, pair⟩ := item
    obtain ⟨t₁, t₂, settled, rfl, -, hrest⟩ := Prog.plays_bind_ret.1 h
    obtain ⟨t₃, t₄, rest, rfl, hpending, hret⟩ := Prog.plays_bind_ret.1 hrest
    obtain ⟨-, heq⟩ := Prog.plays_ret.1 hret
    have hsub := ih hpending
    by_cases hsettled : settled = true
    · rw [if_pos hsettled] at heq
      cases heq
      exact hsub.cons _
    · rw [if_neg hsettled] at heq
      cases heq
      exact hsub.cons_cons _

end

/-! ### The helper -/

/-- `read -r -a TARGETS <<< "$CMP100_PCIE_BDFS"`. -/
def targetsOf (bdfs : String) : List String :=
  (Text.words Text.isBlank (Text.cut ['\n'] bdfs.toList).1).map String.ofList

private theorem require_true (message : String) : require true message = .ret () := rfl

/-- The checks of the shape and of duplicates pass for addresses of the pattern that differ. -/
theorem checkTargets_eq {seen targets : List String} (htarget : ∀ bdf ∈ targets, isTarget bdf = true)
    (hnodup : targets.Nodup) (hnew : ∀ bdf ∈ targets, bdf ∉ seen) :
    checkTargets seen targets = Prog.forEach checkTarget targets := by
  induction targets generalizing seen with
  | nil => rfl
  | cons bdf rest ih =>
    obtain ⟨hbdf, hrest⟩ := List.nodup_cons.1 hnodup
    have hseen : (!seen.contains bdf) = true := by simpa using hnew bdf List.mem_cons_self
    have hnew' : ∀ other ∈ rest, other ∉ bdf :: seen := by
      intro other hother hmem
      rcases List.mem_cons.1 hmem with rfl | hmem
      · exact hbdf hother
      · exact hnew other (List.mem_cons_of_mem _ hother) hmem
    rw [checkTargets, htarget bdf List.mem_cons_self, hseen, require_true, require_true,
      ih (fun other hother => htarget other (List.mem_cons_of_mem _ hother)) hrest hnew']
    rfl

/-- A value that is passed goes before the one of the defaults. -/
theorem preflight_bdfs {c : Config} {t : List (Event (@Op.Answer Vars))} {given : String × String}
    (h : Prog.Plays (liftM (preflight c) : Script Vars (String × String)) t (.ret given)) (hbdfs : c.bdfs ≠ "") :
    given.1 = c.bdfs := by
  obtain ⟨t', h, -⟩ := lift_plays h
  unfold preflight at h
  obtain ⟨_, _, _, -, -, h⟩ := Prog.plays_bind_ret.1 h
  obtain ⟨_, _, _, -, -, h⟩ := Prog.plays_bind_ret.1 h
  obtain ⟨_, _, _, -, -, h⟩ := Prog.plays_bind_ret.1 h
  obtain ⟨_, _, _, -, -, h⟩ := Prog.plays_bind_ret.1 h
  obtain ⟨_, _, _, -, -, h⟩ := Prog.plays_bind_ret.1 h
  obtain ⟨_, _, _, -, -, h⟩ := Prog.plays_bind_ret.1 h
  obtain ⟨_, _, settled, -, hsettings, h⟩ := Prog.plays_bind_ret.1 h
  obtain ⟨_, _, _, -, -, h⟩ := Prog.plays_bind_ret.1 h
  obtain ⟨_, _, _, -, -, h⟩ := Prog.plays_bind_ret.1 h
  obtain ⟨-, hgiven⟩ := Prog.plays_ret.1 h
  cases hgiven
  unfold settings at hsettings
  obtain ⟨_, _, present, -, -, hsettings⟩ := Prog.plays_bind_ret.1 hsettings
  by_cases hpresent : present = true
  · rw [if_pos hpresent] at hsettings
    obtain ⟨_, _, _, -, -, hsettings⟩ := Prog.plays_bind_ret.1 hsettings
    obtain ⟨_, _, vars, -, -, hsettings⟩ := Prog.plays_bind_ret.1 hsettings
    obtain ⟨-, hsettled⟩ := Prog.plays_ret.1 hsettings
    cases hsettled
    exact if_neg hbdfs
  · rw [if_neg hpresent] at hsettings
    obtain ⟨-, hsettled⟩ := Prog.plays_ret.1 hsettings
    cases hsettled
    rfl

/-- The targets of a run are those of the value passed, unless that is empty. -/
theorem checks_targets {c : Config} {t : List (Event (@Op.Answer Vars))} {found : List String × List String}
    (h : Prog.Plays (checks c) t (.ret found)) (hbdfs : c.bdfs ≠ "") : found.1 = targetsOf c.bdfs := by
  unfold checks at h
  obtain ⟨_, _, given, -, hpreflight, h⟩ := Prog.plays_bind_ret.1 h
  obtain ⟨bdfs, services⟩ := given
  obtain rfl : bdfs = c.bdfs := preflight_bdfs hpreflight hbdfs
  obtain ⟨_, _, manifest, -, -, h⟩ := Prog.plays_bind_ret.1 h
  obtain ⟨_, _, _, -, -, h⟩ := Prog.plays_bind_ret.1 h
  obtain ⟨_, _, _, -, -, h⟩ := Prog.plays_bind_ret.1 h
  obtain ⟨_, _, _, -, -, h⟩ := Prog.plays_bind_ret.1 h
  obtain ⟨_, _, _, -, -, h⟩ := Prog.plays_bind_ret.1 h
  obtain ⟨_, _, _, -, -, h⟩ := Prog.plays_bind_ret.1 h
  obtain ⟨_, _, _, -, -, h⟩ := Prog.plays_bind_ret.1 h
  obtain ⟨_, _, _, -, -, h⟩ := Prog.plays_bind_ret.1 h
  obtain ⟨_, _, _, -, -, h⟩ := Prog.plays_bind_ret.1 h
  obtain ⟨-, hfound⟩ := Prog.plays_ret.1 h
  cases hfound
  rfl

/-- No character of an address separates words. -/
theorem isTarget_blank {bdf : String} (h : isTarget bdf = true) : ∀ c ∈ bdf.toList, Text.isBlank c = false := by
  have hdigit : ∀ c : Char, (Text.digit 16 c).isSome = true → Text.isBlank c = false := by
    intro c hc
    by_contra hblank
    simp only [Text.isBlank, Bool.not_eq_false, Bool.or_eq_true, beq_iff_eq] at hblank
    rcases hblank with (rfl | rfl) | rfl <;> exact absurd hc (by decide)
  unfold isTarget at h
  split at h
  · next a b hbdf =>
    obtain ⟨ha, hb⟩ := Bool.and_eq_true_iff.1 h
    have hfixed : Text.isBlank '0' = false ∧ Text.isBlank ':' = false ∧ Text.isBlank '.' = false := by decide
    rw [hbdf]
    simp [hdigit a ha, hdigit b hb, hfixed]
  · cases h

/-- Addresses of the pattern, joined by spaces, are split into the same ones. -/
theorem targetsOf_intercalate {bdfs : List String} (h : ∀ bdf ∈ bdfs, isTarget bdf = true) :
    targetsOf (" ".intercalate bdfs) = bdfs := by
  have htexts : ∀ text ∈ bdfs.map String.toList, text ≠ [] ∧ ∀ c ∈ text, Text.isBlank c = false := by
    intro text htext
    obtain ⟨bdf, hbdf, rfl⟩ := List.mem_map.1 htext
    refine ⟨?_, isTarget_blank (h bdf hbdf)⟩
    intro hempty
    have htarget := h bdf hbdf
    unfold isTarget at htarget
    rw [hempty] at htarget
    cases htarget
  have hline : '\n' ∉ [' '].intercalate (bdfs.map String.toList) := by
    refine Text.notMem_intercalate (by decide) fun text htext hmem => ?_
    exact absurd ((htexts text htext).2 _ hmem) (by decide)
  have hjoined : (" ".intercalate bdfs).toList = [' '].intercalate (bdfs.map String.toList) := String.toList_intercalate
  rw [targetsOf, hjoined, Text.cut_of_notMem hline, Text.words_intercalate (by decide) htexts, List.map_map]
  have hid : String.ofList ∘ String.toList = id := funext fun s => String.ofList_toList
  rw [hid, List.map_id]

/-! ### The handover -/

open PcieHost (Device Json validateItem validateConfig helperCommand)

/-- An accepted configuration has one to eight devices without a repeated address, and the helper finds the addresses of
the pending devices, or of all where none is pending, in the value passed; its checks of their shape and of duplicates
pass. -/
theorem targets_handed_over {vmid : Nat} {data : Json} {devices : List Device}
    (h : validateConfig vmid data = .ok devices) :
    (∃ fields items given, data = .obj fields ∧ PcieHost.Json.get? "devices" fields = some (.arr items) ∧
      items.mapM validateItem = .ok given ∧ devices = given.map lowered) ∧
    1 ≤ devices.length ∧ devices.length ≤ 8 ∧ (devices.map (·.host)).Nodup ∧ (devices.map (·.guest)).Nodup ∧
    ∀ pending : List Device, pending.Sublist devices →
      let targets := if pending.isEmpty then devices else pending
      ∃ bdfs, (helperCommand targets)[5]? = some ("CMP100_PCIE_BDFS=" ++ bdfs) ∧ bdfs ≠ "" ∧
        targetsOf bdfs = targets.map (·.guest) ∧ (∀ bdf ∈ targetsOf bdfs, isTarget bdf = true) ∧
        checkTargets [] (targetsOf bdfs) = Prog.forEach checkTarget (targetsOf bdfs) := by
  obtain ⟨fields, items, rfl, hitems, hdevices⟩ : ∃ fields items, data = .obj fields ∧
      PcieHost.Json.get? "devices" fields = some (.arr items) ∧ PcieHost.validateDevices items = .ok devices := by
    unfold validateConfig at h
    split at h
    · next fields =>
      split at h
      · cases h
      · split at h
        · next items hitems => exact ⟨fields, items, rfl, hitems, h⟩
        · cases h
    · cases h
  obtain ⟨given, hgiven, rfl, hlow, hhigh, hhosts, hguests⟩ := validateDevices_ok hdevices
  refine ⟨⟨fields, items, given, rfl, hitems, hgiven, rfl⟩, hlow, hhigh, hhosts, hguests, fun pending hsub => ?_⟩
  intro targets
  have hsublist : targets.Sublist (given.map lowered) := by
    by_cases hempty : pending.isEmpty = true
    · have htargets : targets = given.map lowered := if_pos hempty
      exact htargets ▸ List.Sublist.refl _
    · have htargets : targets = pending := if_neg hempty
      rw [htargets]
      exact hsub
  have hne : targets ≠ [] := by
    by_cases hempty : pending.isEmpty = true
    · have htargets : targets = given.map lowered := if_pos hempty
      rw [htargets]
      exact List.ne_nil_of_length_pos hlow
    · have htargets : targets = pending := if_neg hempty
      rw [htargets]
      simpa using hempty
  have htarget : ∀ bdf ∈ targets.map (·.guest), isTarget bdf = true := by
    intro bdf hbdf
    obtain ⟨d, hd, rfl⟩ := List.mem_map.1 hbdf
    obtain ⟨d', hd', rfl⟩ := List.mem_map.1 (hsublist.subset hd)
    exact isTarget_lower ((mapM_ok hgiven).2 d' hd')
  have hsplit := targetsOf_intercalate htarget
  have hnodup : (targets.map (·.guest)).Nodup := (hsublist.map _).nodup hguests
  refine ⟨_, rfl, ?_, hsplit, by rwa [hsplit], ?_⟩
  · intro hvalue
    rw [hvalue] at hsplit
    have hnil : targets.map (·.guest) = [] := hsplit.symm
    exact hne (List.map_eq_nil_iff.1 hnil)
  · rw [hsplit]
    exact checkTargets_eq htarget hnodup (by simp)

/-- Two devices, the second of which is pending. -/
def pair : Json :=
  .obj [("vmid", .num 100), ("devices", .arr [.obj [("host", .str "0000:03:00.0"), ("guest", .str "0000:0A:00.0")],
    .obj [("host", .str "0000:04:00.0"), ("guest", .str "0000:0b:00.0")]])]

theorem pair_handed_over : ∃ bdfs, (helperCommand [⟨"0000:04:00.0", "0000:0b:00.0"⟩])[5]? =
      some ("CMP100_PCIE_BDFS=" ++ bdfs) ∧ targetsOf bdfs = ["0000:0b:00.0"] ∧
    checkTargets [] (targetsOf bdfs) = Prog.forEach checkTarget (targetsOf bdfs) := by
  have hvalid : validateConfig 100 pair = .ok [⟨"0000:03:00.0", "0000:0a:00.0"⟩, ⟨"0000:04:00.0", "0000:0b:00.0"⟩] := by
    rfl
  obtain ⟨-, -, -, -, -, hpending⟩ := targets_handed_over hvalid
  obtain ⟨bdfs, hvalue, -, hsplit, -, hchecks⟩ := hpending [⟨"0000:04:00.0", "0000:0b:00.0"⟩] (by decide)
  exact ⟨bdfs, hvalue, hsplit, hchecks⟩

end CmpUnlocker.PcieGen2
