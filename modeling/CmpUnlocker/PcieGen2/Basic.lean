import CmpUnlocker.Guest.Common

/-!
# The Gen2 helper: variables and checks

`cmp100-pcie-gen2` swaps three firmware files for the time of a signed write.  This module has its paths and global
variables, and the functions that leave files and variables alone: the checks, the queries of `setpci`, `nvidia-smi`
and sysfs, and the rebinding of drivers.
-/

namespace CmpUnlocker.PcieGen2

open Interaction Shell Guest

/-! ### Paths and variables -/

/-- The user, the directories, the log file of the run, and the environment variables the script starts with. -/
structure Config where
  euid : Nat := 0
  stateDir : String := "/var/lib/cmp100-pcie"
  libDir : String := "/usr/lib/cmp100-pcie"
  log : String := "/var/log/cmp100-pcie/run-19700101T000000Z.log"
  bdfs : String := ""
  stopServices : String := ""
  deriving DecidableEq, Repr

namespace Config

def manifest (c : Config) : String := c.stateDir ++ "/manifest.env"

def stock (c : Config) (x : Firmware) : String := c.stateDir ++ "/stock/" ++ x.file

def customFecs (c : Config) : String := c.libDir ++ "/payloads/fecs_sig.candidate-c-504.bin"

def customBl (c : Config) : String := c.libDir ++ "/payloads/bl.load-candidate-c.bin"

def pciePolicy (c : Config) : String := c.libDir ++ "/payloads/ucode_load.pcie-policy-88610-1.bin"

def pcieVector (c : Config) : String := c.libDir ++ "/payloads/ucode_load.pcie-vector-8872c-6.bin"

def hook (c : Config) : String := c.libDir ++ "/gv100_nouveau_acr_hook.ko"

end Config

def lock : String := "/run/lock/cmp100-pcie.lock"

def defaults : String := "/etc/default/cmp100-pcie"

def logDir : String := "/var/log/cmp100-pcie"

def expectedPolicySha : String := "f5827fe768a62289fc8080877eb01eacb271b030dbf15c1b43e702f17dacf524"

def expectedVectorSha : String := "4c658410b734a022d603e766429b1779647850dbd04e9fde3963e378e024d4e2"

/-- The global variables `cleanup` reads; `exitTrap` says whether the trap on exit is still set. -/
structure Vars where
  targets : List String := []
  stoppedServices : List String := []
  persistencedWasActive : Bool := false
  initiallyLoadedModules : List String := []
  backupDir : String := ""
  active : Firmware → String := fun _ => ""
  stockSha : Firmware → String := fun _ => ""
  mutating : Bool := false
  success : Bool := false
  exitTrap : Bool := true

/-! ### Messages and files -/

/-- `[[ -f $path && ! -L $path ]]` -/
def isPlainFile (path : String) : Routine Bool := do
  let file ← sh (.isFile path)
  if file then do
    let link ← sh (.isLink path)
    return !link
  else return false

def assertRootRegular (path : String) : Routine Unit := do
  let plain ← isPlainFile path
  require plain ("not a regular file: " ++ path)
  let mode ← output ["stat", "-c", "%u:%a", "--", path]
  let owner := (Text.cut [':'] mode.toList).1
  require (owner == ['0']) ("not root-owned: " ++ path)
  let bits := (Text.cut [':'] mode.toList).2.getD mode.toList
  require ((Text.number 8 bits).any fun n => n &&& 0o022 == 0) ("file is group/world writable: " ++ path)

def assertSha (path expected : String) : Routine Unit := do
  assertRootRegular path
  let sum ← shaOf path
  require (sum == expected) ("SHA mismatch: " ++ path)

/-- `resolve_firmware`; it runs in a subshell, and its failure is that of the assignment. -/
def resolveFirmware (path : String) : Routine String := do
  match ← sh (.resolve path) with
  | none => die ("cannot resolve firmware path: " ++ path)
  | some resolved => do
    let plain ← isPlainFile resolved
    require plain ("firmware target is not a regular file: " ++ path)
    return resolved

def removeHook : Routine Unit := do
  let loaded ← sh (.isDir hookModule)
  if loaded then do
    let _ ← check ["rmmod", "gv100_nouveau_acr_hook"]
  else return ()

/-! ### Drivers -/

def waitDriverFor (bdf wanted : String) : List String → Routine Bool
  | [] => return false
  | _ :: attempts => do
    let current ← driverOf bdf
    if current == wanted then return true
    else do
      let _ ← check ["sleep", "0.1"]
      waitDriverFor bdf wanted attempts

def waitDriver (bdf wanted : String) : Routine Bool := do
  let attempts ← rounds 50
  waitDriverFor bdf wanted attempts

def waitNvidiaBdfFor (bdf : String) : List String → Routine Bool
  | [] => return false
  | _ :: attempts => do
    let inventory ← capture ["timeout", "10", "nvidia-smi", "--query-gpu=pci.bus_id", "--format=csv,noheader"]
    if grepFqi (shortBdf bdf) inventory then return true
    else do
      let _ ← check ["sleep", "0.1"]
      waitNvidiaBdfFor bdf attempts

def waitNvidiaBdf (bdf : String) : Routine Bool := do
  let attempts ← rounds 20
  waitNvidiaBdfFor bdf attempts

/-- `rebind_nvidia`, which only `cleanup` calls, behind `set +e`. -/
def rebindNvidia (bdf : String) : Routine Bool := do
  let current ← driverOf bdf
  let current ←
    if current == "nouveau" then do
      let _ ← sh (.writeText (devicePath bdf "driver_override") "test-hold")
      let _ ← sh (.writeText (unbindPath "nouveau") bdf)
      driverOf bdf
    else pure current
  Prog.when (current = "") (do
    let _ ← sh (.writeText (devicePath bdf "driver_override") "nvidia")
    let _ ← sh (.writeText (bindPath "nvidia") bdf))
  let bound ← waitDriver bdf "nvidia"
  if bound then waitNvidiaBdf bdf else return false

def restoreServices (v : Vars) : Routine Unit := do
  Prog.when v.persistencedWasActive (do
    let _ ← check ["systemctl", "start", "--no-block", "nvidia-persistenced.service"])
  Prog.forEach (fun unit => do let _ ← check ["systemctl", "start", "--no-block", unit]) v.stoppedServices

/-! ### What the waits have read -/

/-- The link of the device to its driver ends in `driver`. -/
def ReadDriver (bdf driver : String) (t : List (Event Tool.Answer)) : Prop :=
  ∃ r, ⟨.exec ["readlink", devicePath bdf "driver"], r⟩ ∈ t ∧
    String.ofList (Text.lastComponent (Result.out r).toList) = driver

/-- The short BDF is in the bus ids that `nvidia-smi` prints. -/
def ReadListed (bdf : String) (t : List (Event Tool.Answer)) : Prop :=
  ∃ r, ⟨.exec ["timeout", "10", "nvidia-smi", "--query-gpu=pci.bus_id", "--format=csv,noheader"], r⟩ ∈ t ∧
    grepFqi (shortBdf bdf) (Result.out r) = true

section

variable {bdf : String} {attempts : List String} {t : List (Event Tool.Answer)}

private theorem driver_of_plays {wanted : String} (h : Prog.Plays (waitDriverFor bdf wanted attempts) t (.ret true)) :
    ReadDriver bdf wanted t := by
  induction attempts generalizing t with
  | nil =>
    obtain ⟨-, hfalse⟩ := Prog.plays_ret.1 h
    cases hfalse
  | cons attempt attempts ih =>
    obtain ⟨t₁, t₂, current, rfl, hdriver, hrest⟩ := Prog.plays_bind_ret.1 h
    by_cases hcurrent : (current == wanted) = true
    · obtain ⟨t₃, t₄, link, rfl, hcapture, hret⟩ := Prog.plays_bind_ret.1 hdriver
      obtain ⟨-, hname⟩ := Prog.plays_ret.1 hret
      cases hname
      obtain ⟨r, hmem, rfl⟩ := capture_plays hcapture
      exact ⟨r, by simp [hmem], beq_iff_eq.1 hcurrent⟩
    · rw [if_neg hcurrent] at hrest
      -- a sleep, and the next attempt
      obtain ⟨t₃, t₄, _, rfl, -, hagain⟩ := Prog.plays_bind_ret.1 hrest
      obtain ⟨r, hmem, hname⟩ := ih hagain
      exact ⟨r, by simp [hmem], hname⟩

theorem listed_of_plays (h : Prog.Plays (waitNvidiaBdfFor bdf attempts) t (.ret true)) : ReadListed bdf t := by
  induction attempts generalizing t with
  | nil =>
    obtain ⟨-, hfalse⟩ := Prog.plays_ret.1 h
    cases hfalse
  | cons attempt attempts ih =>
    obtain ⟨t₁, t₂, out, rfl, hcapture, hrest⟩ := Prog.plays_bind_ret.1 h
    by_cases hgrep : grepFqi (shortBdf bdf) out = true
    · obtain ⟨r, hmem, rfl⟩ := capture_plays hcapture
      exact ⟨r, by simp [hmem], hgrep⟩
    · rw [if_neg hgrep] at hrest
      obtain ⟨t₃, t₄, _, rfl, -, hagain⟩ := Prog.plays_bind_ret.1 hrest
      obtain ⟨r, hmem, hlisted⟩ := ih hagain
      exact ⟨r, by simp [hmem], hlisted⟩

/-- Both waits have succeeded, one after the other. -/
theorem waits_plays (h : Prog.Plays (do
      let bound ← waitDriver bdf "nvidia"
      if bound then waitNvidiaBdf bdf else return false : Routine Bool) t (.ret true)) :
    ∃ t₁ t₂, t = t₁ ++ t₂ ∧ ReadDriver bdf "nvidia" t₁ ∧ ReadListed bdf t₂ := by
  obtain ⟨t₁, t₂, bound, rfl, hbound, hrest⟩ := Prog.plays_bind_ret.1 h
  cases bound with
  | false =>
    obtain ⟨-, hfalse⟩ := Prog.plays_ret.1 hrest
    cases hfalse
  | true =>
    obtain ⟨s₁, s₂, attempts, rfl, -, hdriver⟩ := Prog.plays_bind_ret.1 hbound
    obtain ⟨s₃, s₄, attempts', rfl, -, hlisted⟩ := Prog.plays_bind_ret.1 hrest
    obtain ⟨r, hmem, hname⟩ := driver_of_plays hdriver
    obtain ⟨r', hmem', hfound⟩ := listed_of_plays hlisted
    exact ⟨s₁ ++ s₂, s₃ ++ s₄, rfl, ⟨r, by simp [hmem], hname⟩, r', by simp [hmem'], hfound⟩

/-- A rebinding that succeeds has read the driver `nvidia`, and then the device among those of `nvidia-smi`. -/
theorem rebindNvidia_plays (h : Prog.Plays (rebindNvidia bdf) t (.ret true)) :
    ∃ t₁ t₂, t = t₁ ++ t₂ ∧ ReadDriver bdf "nvidia" t₁ ∧ ReadListed bdf t₂ := by
  -- the waits are what the run ends with, whether the device was bound to Nouveau or not
  have hwaits : ∃ t₁ t₂, t = t₁ ++ t₂ ∧ Prog.Plays (do
      let bound ← waitDriver bdf "nvidia"
      if bound then waitNvidiaBdf bdf else return false : Routine Bool) t₂ (.ret true) := by
    obtain ⟨s₁, s₂, current, rfl, -, h₁⟩ := Prog.plays_bind_ret.1 h
    by_cases hnouveau : (current == "nouveau") = true
    · rw [if_pos hnouveau] at h₁
      obtain ⟨s₃, s₄, _, rfl, -, h₂⟩ := Prog.plays_bind_ret.1 h₁
      obtain ⟨s₅, s₆, _, rfl, -, h₃⟩ := Prog.plays_bind_ret.1 h₂
      obtain ⟨s₇, s₈, again, rfl, -, h₄⟩ := Prog.plays_bind_ret.1 h₃
      obtain ⟨s₉, s₁₀, _, rfl, -, h₅⟩ := Prog.plays_bind_ret.1 h₄
      exact ⟨s₁ ++ (s₃ ++ (s₅ ++ (s₇ ++ s₉))), s₁₀, by simp, h₅⟩
    · rw [if_neg hnouveau] at h₁
      obtain ⟨s₃, s₄, _, rfl, -, h₂⟩ := Prog.plays_bind_ret.1 h₁
      obtain ⟨s₅, s₆, _, rfl, -, h₃⟩ := Prog.plays_bind_ret.1 h₂
      exact ⟨s₁ ++ (s₃ ++ s₅), s₆, by simp, h₃⟩
  obtain ⟨s₁, s₂, rfl, hplays⟩ := hwaits
  obtain ⟨t₁, t₂, rfl, ⟨r, hmem, hname⟩, hlisted⟩ := waits_plays hplays
  exact ⟨s₁ ++ t₁, t₂, by simp, ⟨r, by simp [hmem], hname⟩, hlisted⟩

end

/-! ### Registers and links -/

/-- `printf '0x%08x'`. -/
def hexText8 (n : Nat) : String :=
  let digits := Nat.toDigits 16 n
  "0x" ++ String.ofList (List.replicate (8 - digits.length) '0' ++ digits)

def mmioRead (address : String) : Routine String := output ["busybox", "devmem", address, "32"]

def mmioWrite (address value : String) : Routine Unit := must ["busybox", "devmem", address, "32", value]

/-- `mmio_at`: the base of BAR0 plus an offset; none if the base is not a number. -/
def mmioAt (bdf : String) (offset : Nat) : Routine (Option String) := do
  let bar0 ← capture ["awk", "NR == 1 { print $1; exit }", devicePath bdf "resource"]
  return (Text.arith bar0.toList).map fun base => hexText ((base + offset) % 2 ^ 64)

/-- `$(mmio_read "$(mmio_at …)")`: an address that cannot be computed is the empty text. -/
def mmioReadAt (bdf : String) (offset : Nat) : Routine String := do
  let address ← mmioAt bdf offset
  mmioRead (address.getD "")

/-- `pcie_word` -/
def pcieWord (bdf offset : String) : Routine String := output ["setpci", "-s", bdf, "CAP_EXP+" ++ offset ++ ".w"]

def pcieCapSpeed (bdf : String) : Routine Nat := do
  let raw ← capture ["setpci", "-s", bdf, "CAP_EXP+0c.l"]
  match Text.number 16 raw.toList with
  | some n => return n &&& 0xf
  | none => throw 1

def parentPort (bdf : String) : Routine String := do
  match ← sh (.resolve ("/sys/bus/pci/devices/" ++ bdf)) with
  | none => die (bdf ++ " has no sysfs path")
  | some path => do
    let dir ← capture ["dirname", path]
    output ["basename", dir]

/-- The first line whose first field contains the short address. -/
def linkLine (short : String) (text : String) : String :=
  let found := (Text.splitOn (· == '\n') text.toList).find? fun line =>
    Text.contains (short.toList.map Char.toLower) ((Text.cut [','] line).1.map Char.toLower)
  String.ofList (found.getD [])

def nvidiaLinkLine (bdf : String) : Routine String := do
  let text ← capture ["timeout", "10", "nvidia-smi", "--query-gpu=pci.bus_id,pcie.link.gen.current,pcie.link.gen.max",
    "--format=csv,noheader"]
  return linkLine (shortBdf bdf) text

/-- A field of a line, without white space. -/
def lineField (n : Nat) (line : String) : String :=
  let fields := Text.splitOn (· == ',') line.toList
  String.ofList ((fields.getD n []).filter fun c => !(c == ' ' || ('\t' ≤ c && c ≤ '\r')))

/-- `$(nvidia_max_gen … || true)`. -/
def nvidiaMaxGen (bdf : String) : Routine String := do
  let line ← nvidiaLinkLine bdf
  return if line = "" then "" else lineField 2 line

/-- `$(nvidia_current_gen … || true)`. -/
def nvidiaCurrentGen (bdf : String) : Routine String := do
  let line ← nvidiaLinkLine bdf
  return if line = "" then "" else lineField 1 line

def isNumber (text : String) : Bool := !text.toList.isEmpty && text.toList.all fun c => '0' ≤ c && c ≤ '9'

/-- `config_rate_field` -/
def configRateField (n : Nat) : Nat := (n >>> 18) &&& 3

def advertisesGen2 (advertised : String) : Bool := isNumber advertised && (value advertised).any fun n => 2 ≤ n

end CmpUnlocker.PcieGen2
