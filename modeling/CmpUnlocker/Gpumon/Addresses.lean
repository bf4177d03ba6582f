import CmpUnlocker.Gpumon.Mapping

/-!
# Texts of PCI addresses

CUDA and NVML print the same address in different ways.  `parse_pci_bus_id` reads every hexadecimal text of an address,
so that a GPU is found by the number and not by the text (`found_by_number`).
-/

namespace CmpUnlocker.Gpumon

open CText

/-- The text is `domain:bus:device.function` in hexadecimal. -/
def PrintsAddress (a : PciAddress) (text : List Char) : Prop :=
  ∃ domain bus device function, text = domain ++ ':' :: (bus ++ ':' :: (device ++ '.' :: function)) ∧
    PrintsHex a.domain domain ∧ PrintsHex a.bus bus ∧ PrintsHex a.device device ∧ PrintsHex a.function function

private theorem endsHex_colon : EndsHex ':' := by
  unfold EndsHex
  decide

private theorem endsHex_dot : EndsHex '.' := by
  unfold EndsHex
  decide

private theorem scanChar_cons (c : Char) (text : List Char) : scanChar c (c :: text) = some text := if_pos rfl

/-- A number in front of a separator. -/
theorem scanHex_separated {sep : Char} (hsep : EndsHex sep) {n : ℕ} {digits : List Char} (h : PrintsHex n digits)
    (hn : n < 2 ^ 32) (text : List Char) : scanHex (digits ++ sep :: text) = some (⟨n, hn⟩, sep :: text) := by
  apply scanHex_append h.number hn
  intro c hc
  obtain rfl : sep = c := by simpa using hc
  exact hsep

private theorem scanHex_last {n : ℕ} {digits : List Char} (h : PrintsHex n digits) (hn : n < 2 ^ 32) :
    scanHex digits = some (⟨n, hn⟩, []) := by
  have hscan : scanHex (digits ++ []) = some (⟨n, hn⟩, []) := by
    apply scanHex_append h.number hn
    intro c hc
    cases hc
  rwa [List.append_nil] at hscan

theorem PrintsAddress.parse {a : PciAddress} {text : List Char} (h : PrintsAddress a text) :
    parsePciBusId text = some a := by
  obtain ⟨domain, bus, device, function, rfl, hdomain, hbus, hdevice, hfunction⟩ := h
  have hb := a.bus.isLt
  have hd := a.device.isLt
  have hf := a.function.isLt
  have hb' : a.bus.val ≤ 0xff := by omega
  have hd' : a.device.val ≤ 0x1f := by omega
  have hf' : a.function.val ≤ 7 := by omega
  unfold parsePciBusId
  rw [scanHex_separated endsHex_colon hdomain a.domain.isLt]
  simp only [Option.bind_eq_bind, Option.bind_some, scanChar_cons,
    scanHex_separated endsHex_colon hbus (show a.bus.val < 2 ^ 32 by omega),
    scanHex_separated endsHex_dot hdevice (show a.device.val < 2 ^ 32 by omega),
    scanHex_last hfunction (show a.function.val < 2 ^ 32 by omega), true_and, hb', hd', hf', and_self, dif_pos]

/-- Every printed form of an address is read as the address, and it leads to a GPU if and only if this is the only one
with the same address, in whatever form either of them is printed. -/
theorem found_by_number {a : PciAddress} {text : List Char} (h : PrintsAddress a text) :
    parsePciBusId text = some a ∧
      ∀ gpu : List GpuStats,
        (∀ g ∈ gpu, (∃ b, PrintsAddress b g.pciBusId) ∨ parsePciBusId g.pciBusId = none) →
        ∀ i, nvmlIndexForPciBusId gpu text = some i ↔
          ∃ g, gpu[i]? = some g ∧ PrintsAddress a g.pciBusId ∧
            ∀ j g', gpu[j]? = some g' → PrintsAddress a g'.pciBusId → j = i := by
  refine ⟨h.parse, fun gpu hgpu i => ?_⟩
  have hprints : ∀ (j : ℕ) (g : GpuStats), gpu[j]? = some g → (g.address = some a ↔ PrintsAddress a g.pciBusId) := by
    intro j g hj
    constructor
    · intro hg
      rcases hgpu g (List.mem_of_getElem? hj) with ⟨b, hb⟩ | hnone
      · have hba : some b = some a := hb.parse.symm.trans hg
        cases hba
        exact hb
      · rw [GpuStats.address, hnone] at hg
        cases hg
    · exact fun hg => hg.parse
  rw [nvmlIndexForPciBusId_eq_some]
  constructor
  · rintro ⟨address, g, hparse, hi, hg, hunique⟩
    obtain rfl : a = address := Option.some.inj (h.parse.symm.trans hparse)
    refine ⟨g, hi, (hprints i g hi).1 hg, fun j g' hj hg' => ?_⟩
    exact hunique g hi j g' hj (((hprints j g' hj).2 hg').trans hg.symm)
  · rintro ⟨g, hi, hg, honly⟩
    have hga := (hprints i g hi).2 hg
    refine ⟨a, g, h.parse, hi, hga, fun g₁ h₁ j g' hj hsame => ?_⟩
    obtain rfl : g = g₁ := Option.some.inj (hi.symm.trans h₁)
    exact honly j g' hj ((hprints j g' hj).1 (hsame.trans hga))

/-- NVML prints eight digits of the domain. -/
def printedByNvml : List GpuStats := [⟨"00000000:02:00.0".toList⟩, ⟨"00000000:0A:00.0".toList⟩]

theorem found_by_number_lowerCase :
    parsePciBusId "0000:0a:00.0".toList = some ⟨0, 10, 0, 0⟩ ∧
      nvmlIndexForPciBusId printedByNvml "0000:0a:00.0".toList = some 1 := by
  have hquery : PrintsAddress ⟨0, 10, 0, 0⟩ "0000:0a:00.0".toList :=
    ⟨"0000".toList, "0a".toList, "00".toList, "0".toList, by decide, by decide, by decide, by decide, by decide⟩
  have hfirst : PrintsAddress ⟨0, 2, 0, 0⟩ "00000000:02:00.0".toList :=
    ⟨"00000000".toList, "02".toList, "00".toList, "0".toList, by decide, by decide, by decide, by decide, by decide⟩
  have hsecond : PrintsAddress ⟨0, 10, 0, 0⟩ "00000000:0A:00.0".toList :=
    ⟨"00000000".toList, "0A".toList, "00".toList, "0".toList, by decide, by decide, by decide, by decide, by decide⟩
  have hgpu : ∀ g ∈ printedByNvml, (∃ b, PrintsAddress b g.pciBusId) ∨ parsePciBusId g.pciBusId = none := by
    intro g hg
    simp only [printedByNvml, List.mem_cons, List.not_mem_nil, or_false] at hg
    rcases hg with rfl | rfl
    · exact .inl ⟨_, hfirst⟩
    · exact .inl ⟨_, hsecond⟩
  refine ⟨(found_by_number hquery).1, ((found_by_number hquery).2 printedByNvml hgpu 1).2 ⟨_, rfl, hsecond, ?_⟩⟩
  intro j g' hj hprints
  have hne : some (⟨0, 2, 0, 0⟩ : PciAddress) ≠ some ⟨0, 10, 0, 0⟩ := by decide
  cases j with
  | zero =>
    obtain rfl : ⟨"00000000:02:00.0".toList⟩ = g' := Option.some.inj hj
    exact absurd (hfirst.parse.symm.trans hprints.parse) hne
  | succ j =>
    have hlt := (List.getElem?_eq_some_iff.1 hj).1
    simp only [printedByNvml, List.length_cons, List.length_nil] at hlt
    omega

end CmpUnlocker.Gpumon
