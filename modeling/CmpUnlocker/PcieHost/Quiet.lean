import CmpUnlocker.PcieHost.Run

/-!
# Quiet work of the coordinator

The host checks, the link reads and the AER reads neither touch the state file nor talk to the guest.
-/

namespace CmpUnlocker.PcieHost

open Interaction

/-- Requests that neither touch the state file nor talk to the guest. -/
def Quiet : Op → Prop
  | .writeTemp _ | .replaceState | .guestExec _ | .guestExecStatus _ => False
  | _ => True

section

variable {P : Platform} {ε α : Type}

theorem call_quiet {o : Op} (h : Quiet o) : (call o : Routine ε o.Answer).Uses Quiet := Prog.uses_request.2 h

theorem raising_quiet (r : Except Exn α) : (raising r : Routine Exn α).Uses Quiet := by
  cases r <;> trivial

private theorem pciRead_quiet (bdf : String) (fd offset size : Nat) : (pciRead bdf fd offset size).Uses Quiet := by
  refine .bind (call_quiet trivial) fun _ => .bind (raising_quiet _) fun _ => ?_
  exact Prog.uses_ite.2 ⟨fun _ => trivial, fun _ => trivial⟩

private theorem findExp_quiet (bdf : String) (fd fuel : Nat) (seen : List Nat) (cap : Nat) :
    (findExp bdf fd fuel seen cap).Uses Quiet := by
  induction fuel generalizing seen cap with
  | zero => exact .bind (call_quiet trivial) fun _ => trivial
  | succ fuel ih =>
    refine Prog.uses_ite.2 ⟨fun _ => .bind (call_quiet trivial) fun _ => trivial, fun _ => ?_⟩
    refine .bind (pciRead_quiet bdf fd cap 1) fun _ => Prog.uses_ite.2 ⟨fun _ => trivial, fun _ => ?_⟩
    exact .bind (pciRead_quiet bdf fd (cap + 1) 1) fun _ => ih _ _

private theorem openPci_quiet (bdf : String) (writable : Bool) : (openPci bdf writable).Uses Quiet := by
  refine .bind (call_quiet trivial) fun _ => .bind (raising_quiet _) fun fd => ?_
  exact .bind (pciRead_quiet bdf fd 0x34 1) fun _ => .bind (findExp_quiet bdf fd 48 [] _) fun _ => trivial

private theorem status_quiet (device : Pci) : device.status.Uses Quiet := by
  refine .bind (pciRead_quiet _ _ _ _) fun _ => ?_
  exact Prog.uses_ite.2 ⟨fun _ => trivial, fun _ => trivial⟩

private theorem aerFrom_quiet (device : Pci) (fuel : Nat) (seen : List Nat) (offset : Nat) :
    (device.aerFrom fuel seen offset).Uses Quiet := by
  induction fuel generalizing seen offset with
  | zero => trivial
  | succ fuel ih =>
    refine Prog.uses_ite.2 ⟨fun _ => trivial, fun _ => .bind (pciRead_quiet _ _ _ _) fun _ => ?_⟩
    refine Prog.uses_ite.2 ⟨fun _ => trivial, fun _ => Prog.uses_ite.2 ⟨fun _ => ?_, fun _ => ih _ _⟩⟩
    exact .bind (pciRead_quiet _ _ _ _) fun _ => .bind (pciRead_quiet _ _ _ _) fun _ => trivial

theorem collect_quiet {β : Type} {f : α → Routine Exn β} (hf : ∀ a, (f a).Uses Quiet) (as : List α) :
    (collect f as).Uses Quiet := by
  induction as with
  | nil => trivial
  | cons a as ih => exact .bind (hf a) fun _ => .bind ih fun _ => trivial

theorem statuses_quiet (pairs : List (Pci × Pci)) : (collectPairs Pci.status pairs).Uses Quiet :=
  collect_quiet status_quiet _

theorem aers_quiet (pairs : List (Pci × Pci)) : (collectPairs Pci.aer pairs).Uses Quiet :=
  collect_quiet (fun device => aerFrom_quiet device 256 [] 0x100) _

theorem log_quiet (message : String) : (log message).Uses Quiet :=
  .bind (call_quiet trivial) fun _ => raising_quiet _

private theorem command_quiet (args : List String) : (command args).Uses Quiet :=
  .bind (call_quiet trivial) fun _ => raising_quiet _

private theorem isCmp100_quiet (endpoint : Pci) : (isCmp100 endpoint).Uses Quiet := by
  refine .bind (pciRead_quiet _ _ _ _) fun _ => Prog.uses_ite.2 ⟨fun _ => trivial, fun _ => ?_⟩
  exact .bind (pciRead_quiet _ _ _ _) fun _ => trivial

theorem openPair_quiet (vmid : Nat) (assigned : List String) (item : Device) :
    (openPair vmid assigned item).Uses Quiet := by
  refine Prog.uses_ite.2 ⟨fun _ => trivial, fun _ => .bind (openPci_quiet _ _) fun endpoint => ?_⟩
  refine .bind (isCmp100_quiet endpoint) fun _ => Prog.uses_ite.2 ⟨fun _ => trivial, fun _ => ?_⟩
  refine .bind (call_quiet trivial) fun _ => .bind (raising_quiet _) fun _ => ?_
  refine Prog.uses_ite.2 ⟨fun _ => trivial, fun _ => .bind (call_quiet trivial) fun _ => ?_⟩
  refine .bind (raising_quiet _) fun rootBdf => Prog.uses_ite.2 ⟨fun _ => trivial, fun _ => ?_⟩
  refine .bind (openPci_quiet rootBdf false) fun root => .bind (pciRead_quiet _ _ _ _) fun _ => ?_
  refine Prog.uses_ite.2 ⟨fun _ => trivial, fun _ => .bind (pciRead_quiet _ _ _ _) fun _ => ?_⟩
  exact Prog.uses_ite.2 ⟨fun _ => trivial, fun _ => trivial⟩

theorem checkTarget_quiet (pair : Pci × Pci) : (checkTarget pair).Uses Quiet :=
  .bind (pciRead_quiet _ _ _ _) fun _ => Prog.uses_ite.2 ⟨fun _ => trivial, fun _ => trivial⟩

private theorem settledPair_quiet (pair : Pci × Pci) : (settledPair pair).Uses Quiet := by
  refine .bind (status_quiet _) fun _ => Prog.uses_ite.2 ⟨fun _ => trivial, fun _ => ?_⟩
  exact .bind (status_quiet _) fun _ => trivial

theorem pendingDevices_quiet (items : List (Device × (Pci × Pci))) : (pendingDevices items).Uses Quiet := by
  induction items with
  | nil => trivial
  | cons item items ih => exact .bind (settledPair_quiet _) fun _ => .bind ih fun _ => trivial

theorem prepare_quiet (args : Args) : (prepare P args).Uses Quiet := by
  refine .bind (call_quiet trivial) fun _ => Prog.uses_ite.2 ⟨fun _ => trivial, fun _ => ?_⟩
  refine .bind (call_quiet trivial) fun _ => .bind (raising_quiet _) fun _ => ?_
  refine Prog.uses_ite.2 ⟨fun _ => trivial, fun _ => .bind (call_quiet trivial) fun _ => ?_⟩
  refine .bind (raising_quiet _) fun _ => .bind (raising_quiet _) fun _ => .bind (raising_quiet _) fun devices => ?_
  refine .bind (command_quiet _) fun _ => Prog.uses_ite.2 ⟨fun _ => .bind (log_quiet _) fun _ => trivial, fun _ => ?_⟩
  exact .bind (command_quiet _) fun _ => .bind (raising_quiet _) fun _ => trivial

end

end CmpUnlocker.PcieHost
