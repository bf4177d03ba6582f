import CmpUnlocker.Guest.Common
import CmpUnlocker.Payloads.Ucode

/-!
# The payloads

The rest of `build_payloads.py` that does not touch files: the pinned hashes and sizes of the stock images, the FECS
signature and the bootloader, and the five artifacts that `main` writes.  SHA-256 is not modelled; where a digest is
needed it is a parameter.
-/

namespace CmpUnlocker.Payloads

open Bytes Guest

/-- `STOCK_FECS_SHA`, `STOCK_BL_SHA` and `STOCK_UCODE_SHA`. -/
def stockSha : Firmware → String
  | .fecs => "8b636da582662995aa5ed3b8f530299a8aca801934657c85e6a031fb8fd1eab1"
  | .bl => "01326cc997716bebb0eab9fe1f463fffa0ee586079e4ca0e5bb096ab6fcfedab"
  | .ucode => "b349f0355548716770531eb9082544bb84de059f17bbf3952fb09dd27d8673d4"

/-- The size `main` expects of a stock image. -/
def stockSize : Firmware → Nat
  | .fecs => 0xC0
  | .bl => 0x500
  | .ucode => 0x4900

def buildFecs (stock : List UInt8) : Except Exn (List UInt8) := do
  expect stock 0x48 2 "fecs_sig.bin: expected Falcon ID 2"
  let out ← putU32 stock 0x4C 1
  putU32 out 0x54 0x504

def caveOffset : Nat := 0x370

def cave : List UInt8 := [0xdf, 0xde, 0xc0, 0xde, 0xc0, 0x09, 0x40, 0xf7, 0x9f, 0x00, 0xf8, 0x02]

def buildBl (stock : List UInt8) : Except Exn (List UInt8) :=
  if (slice stock caveOffset cave.length).any (· ≠ 0) then
    .error (.systemExit "bl.bin: selected code cave is not zero-filled")
  else
    .ok (put stock caveOffset cave)

/-- What `main` writes: a name in the output directory, the bytes and the pinned hash. -/
structure Artifact where
  name : String
  build : (Firmware → List UInt8) → Except Exn (List UInt8)
  sha : String

def fecsArtifact : Artifact where
  name := "fecs_sig.candidate-c-504.bin"
  build stock := buildFecs (stock .fecs)
  sha := "0c6916d57cd46780261bdf4e9dd5c81691f3c1685d1b1e5ea8b266e14d2ea95e"

def blArtifact : Artifact where
  name := "bl.load-candidate-c.bin"
  build stock := buildBl (stock .bl)
  sha := "7ede4b56759a5e4276604c7bd7e7d6c82016192c019d6d9244e6b2002dbcaa9c"

def tensorArtifact : Artifact where
  name := "ucode_load.tensor-success-lsb-restore.bin"
  build stock := buildUcode (stock .ucode)
  sha := "5bb3828d1b3e8782749b3a9bfcbfc746e88f4ff3ca041c87eea8b4a1eb003b33"

def policyArtifact : Artifact where
  name := "ucode_load.pcie-policy-88610-1.bin"
  build stock := buildUcodeWrite (stock .ucode) 0x00000001 0x00088610
  sha := "f5827fe768a62289fc8080877eb01eacb271b030dbf15c1b43e702f17dacf524"

def vectorArtifact : Artifact where
  name := "ucode_load.pcie-vector-8872c-6.bin"
  build stock := buildUcodeWrite (stock .ucode) 0x00000006 0x0008872C
  sha := "4c658410b734a022d603e766429b1779647850dbd04e9fde3963e378e024d4e2"

def artifacts : List Artifact := [fecsArtifact, blArtifact, tensorArtifact, policyArtifact, vectorArtifact]

/-- The stock images the program is written for: of the pinned sizes and hashes, and with every artifact built from
them of the hash the program expects. -/
structure Pinned (sha256 : List UInt8 → String) (image : Firmware → List UInt8) : Prop where
  size : ∀ x, (image x).length = stockSize x
  sha : ∀ x, sha256 (image x) = stockSha x
  builds : ∀ a ∈ artifacts, ∃ blob, a.build image = .ok blob ∧ sha256 blob = a.sha

/-! ### Images of the right shape -/

/-- Images that pass the checks of the builders. -/
def sampleImage : Firmware → List UInt8
  | .fecs => put (List.replicate 0xC0 0) 0x48 (packed 2)
  | .bl => List.replicate 0x500 0
  | .ucode => blank

/-- A digest with the pinned values on these images and on what is built from them. -/
def sampleSha (blob : List UInt8) : String :=
  if blob.length = 0xC0 then
    if value (slice blob 0x4C 4) = 1 then fecsArtifact.sha else stockSha .fecs
  else if blob.length = 0x500 then
    if slice blob caveOffset cave.length = cave then blArtifact.sha else stockSha .bl
  else if blob.length = 0x4900 then stockSha .ucode
  else if value (slice blob 0x8C8C 4) = 0x888 then tensorArtifact.sha
  else if value (slice blob 0x8C8C 4) = 1 then policyArtifact.sha
  else vectorArtifact.sha

private theorem sampleSha_ucode {blob : List UInt8} (h : blob.length = 0x8E00) :
    sampleSha blob =
      if value (slice blob 0x8C8C 4) = 0x888 then tensorArtifact.sha
      else if value (slice blob 0x8C8C 4) = 1 then policyArtifact.sha
      else vectorArtifact.sha := by
  unfold sampleSha
  rw [h]
  rfl

/-- The payloads of the sample are told apart by their first variable word. -/
theorem sample_ucode {x target : Int} (hx : 0 ≤ x ∧ x < 2 ^ 32) (htarget : 0 ≤ target ∧ target < 2 ^ 32) :
    ∃ blob, buildUcodeWrite (sampleImage .ucode) x target = .ok blob ∧
      sampleSha blob =
        if x = 0x888 then tensorArtifact.sha else if x = 1 then policyArtifact.sha else vectorArtifact.sha := by
  obtain ⟨blob, hblob, hlength, hvalue, -⟩ := ucode_isolated blank_stock hx htarget
  refine ⟨blob, hblob, ?_⟩
  rw [sampleSha_ucode hlength]
  have h888 : value (slice blob 0x8C8C 4) = 0x888 ↔ x = 0x888 := by omega
  have h1 : value (slice blob 0x8C8C 4) = 1 ↔ x = 1 := by omega
  simp only [h888, h1]

theorem sample_pinned : Pinned sampleSha sampleImage where
  size x := by
    cases x with
    | fecs => rfl
    | bl => exact List.length_replicate
    | ucode => exact blank_stock.length
  sha x := by
    cases x with
    | fecs => decide +kernel
    | bl => decide +kernel
    | ucode =>
      unfold sampleSha
      rw [show (sampleImage .ucode).length = 0x4900 from blank_stock.length]
      rfl
  builds := by
    have hfecs : ∃ blob, fecsArtifact.build sampleImage = .ok blob ∧ sampleSha blob = fecsArtifact.sha :=
      ⟨put (put (sampleImage .fecs) 0x4C (packed 1)) 0x54 (packed 0x504), by decide +kernel, by decide +kernel⟩
    have hbl : ∃ blob, blArtifact.build sampleImage = .ok blob ∧ sampleSha blob = blArtifact.sha :=
      ⟨put (sampleImage .bl) caveOffset cave, by decide +kernel, by decide +kernel⟩
    have htensor := @sample_ucode 0x888 0x409664 (by decide) (by decide)
    have hpolicy := @sample_ucode 1 0x88610 (by decide) (by decide)
    have hvector := @sample_ucode 6 0x8872C (by decide) (by decide)
    simp only [artifacts, List.forall_mem_cons]
    exact ⟨hfecs, hbl, htensor, hpolicy, hvector, List.forall_mem_nil _⟩

end CmpUnlocker.Payloads
