import CmpUnlocker.Lib.Bytes
import CmpUnlocker.Lib.Chain
import CmpUnlocker.PcieHost.Basic

/-!
# The capability lists

The constructor of `PCI` and `aer` on a configuration space of any contents.  Both are walks along a chain of offsets
(`run_findExp`, `run_aerFrom`): that of the capabilities starts at the byte 0x34, that of the extended ones at 0x100.
They read the entry of no offset twice, and what they find is the first hit of their chain (`openPci_walk`,
`aer_walk`).
-/

namespace CmpUnlocker.PcieHost

open Interaction

/-- A configuration space answers each read with the bytes it has there, and records the requests. -/
def serve (fd : Nat) (space : List UInt8) (log : List Op) : (o : Op) → Option (o.Answer × List Op)
  | .pciOpen bdf writable => some (.ok fd, log ++ [.pciOpen bdf writable])
  | .pciRead fd offset size => some (.ok (Bytes.slice space offset size), log ++ [.pciRead fd offset size])
  | .pciClose fd => some ((), log ++ [.pciClose fd])
  | _ => none

/-- The number that a read returns. -/
def word (space : List UInt8) (offset size : Nat) : Nat := fromBytes (Bytes.slice space offset size)

/-- An offset of 0 ends a list. -/
def nonzero (offset : Nat) : Option Nat := if offset = 0 then none else some offset

/-! ### The chains -/

/-- The first capability, at the masked byte 0x34. -/
def capStart (space : List UInt8) : Option Nat := nonzero (word space 0x34 1 &&& 0xfc)

def capNext (space : List UInt8) (cap : Nat) : Option Nat := nonzero (word space (cap + 1) 1 &&& 0xfc)

/-- The capability ID of PCI Express. -/
def isExp (space : List UInt8) (cap : Nat) : Bool := word space cap 1 = 0x10

/-- A header of zero or of ones alone. -/
def isEnd (header : Nat) : Bool := header = 0 || header = 0xffffffff

def aerNext (space : List UInt8) (offset : Nat) : Option Nat :=
  if isEnd (word space offset 4) then none else nonzero ((word space offset 4 >>> 20) &&& 0xffc)

/-- The capability ID of the error reports. -/
def isAer (space : List UInt8) (offset : Nat) : Bool :=
  !isEnd (word space offset 4) && word space offset 4 &&& 0xffff = 1

/-! ### Single reads -/

section

variable {fd offset size : Nat} {space : List UInt8} {log : List Op} {bdf : String} {α : Type}

private theorem run_pciRead (h : offset + size ≤ space.length) (k : Nat → Routine Exn α) :
    ((pciRead bdf fd offset size).bind k).run (serve fd space) log =
      (k (word space offset size)).run (serve fd space) (log ++ [.pciRead fd offset size]) := by
  have hlength : (Bytes.slice space offset size).length = size := by
    rw [Bytes.length_slice]
    omega
  simp [pciRead, call, Prog.request, raising, Prog.run, serve, hlength, word]

private theorem run_pciRead_short (h : space.length < offset + size) (hsize : 0 < size) (k : Nat → Routine Exn α) :
    ((pciRead bdf fd offset size).bind k).run (serve fd space) log =
      (.throw (runtimeError (bdf ++ ": short config read")), log ++ [.pciRead fd offset size]) := by
  have hlength : (Bytes.slice space offset size).length ≠ size := by
    rw [Bytes.length_slice]
    omega
  simp [pciRead, call, Prog.request, raising, Prog.run, serve, hlength]

end

/-! ### The walks -/

/-- The reads of one capability: its ID, and the offset behind it unless it is the one looked for. -/
def capReads (fd : Nat) (space : List UInt8) (cap : Nat) : List Op :=
  if isExp space cap then [.pciRead fd cap 1] else [.pciRead fd cap 1, .pciRead fd (cap + 1) 1]

section

variable {fd : Nat} {space : List UInt8} {bdf : String} {α : Type}

private theorem nonzero_some {offset : Nat} (h : offset ≠ 0) : nonzero offset = some offset := if_neg h

/-- The loop of the constructor is a walk along the capabilities. -/
theorem run_findExp (hspace : 256 ≤ space.length) (k : Nat → Routine Exn α) (fuel : Nat) (seen : List Nat) {cap : Nat}
    (hcap : cap ≤ 0xfc) (log : List Op) :
    ((findExp bdf fd fuel seen cap).bind k).run (serve fd space) log =
      match Chain.walk (capNext space) (isExp space) fuel seen (nonzero cap) with
      | some x => (k x).run (serve fd space)
          (log ++ (Chain.visits (capNext space) (isExp space) fuel seen (nonzero cap)).flatMap (capReads fd space))
      | none => (.throw (runtimeError (bdf ++ ": no PCIe capability")),
          log ++ (Chain.visits (capNext space) (isExp space) fuel seen (nonzero cap)).flatMap (capReads fd space) ++
            [.pciClose fd]) := by
  induction fuel generalizing seen cap log with
  | zero => simp [findExp, Chain.walk, Chain.visits, call, Prog.request, Prog.run, serve]
  | succ fuel ih =>
    unfold findExp
    by_cases hzero : cap = 0
    · simp [hzero, nonzero, Chain.walk, Chain.visits, call, Prog.request, Prog.run, serve]
    rw [nonzero_some hzero, Chain.walk, Chain.visits]
    by_cases hseen : cap ∈ seen
    · simp [hzero, hseen, call, Prog.request, Prog.run, serve]
    have hgo : ¬((decide (cap = 0) || seen.contains cap) = true) := by simp [hzero, hseen]
    rw [if_neg hgo, if_neg hseen, if_neg hseen]
    simp only [Prog.bind_eq, Prog.bind_assoc]
    rw [run_pciRead (by omega)]
    by_cases hexp : word space cap 1 = 0x10
    · have hhit : isExp space cap = true := by simpa [isExp] using hexp
      rw [if_pos hexp, if_pos hhit, if_pos hhit]
      simp [capReads, hhit]
    · have hmiss : ¬isExp space cap = true := by simpa [isExp] using hexp
      rw [if_neg hexp, if_neg hmiss, if_neg hmiss]
      simp only [Prog.bind_assoc]
      rw [run_pciRead (by omega), ih _ Nat.and_le_right]
      have hreads : capReads fd space cap = [.pciRead fd cap 1, .pciRead fd (cap + 1) 1] := if_neg hmiss
      rw [List.flatMap_cons, hreads, ← capNext]
      simp only [List.append_assoc, List.cons_append, List.nil_append]

/-- The two status words of the capability. -/
def aerStatus (device : Pci) (x : Nat) : Routine Exn (Option Aer) := do
  let uncorrectable ← device.read (x + 4) 4
  let correctable ← device.read (x + 0x10) 4
  return some { uncorrectable := uncorrectable, correctable := correctable }

/-- The read of a header. -/
def headerRead (device : Pci) (offset : Nat) : Op := .pciRead device.fd offset 4

/-- The loop of `aer` is a walk along the extended capabilities; behind it come the reads of the status. -/
theorem run_aerFrom (hspace : space.length = 4096) (device : Pci) (fuel : Nat) (seen : List Nat) {offset : Nat}
    (hoffset : offset ≤ 0xffc) (log : List Op) :
    (device.aerFrom fuel seen offset).run (serve device.fd space) log =
      match Chain.walk (aerNext space) (isAer space) fuel seen (nonzero offset) with
      | some x => (aerStatus device x).run (serve device.fd space)
          (log ++ (Chain.visits (aerNext space) (isAer space) fuel seen (nonzero offset)).map (headerRead device))
      | none => (.ret none,
          log ++ (Chain.visits (aerNext space) (isAer space) fuel seen (nonzero offset)).map (headerRead device)) := by
  induction fuel generalizing seen offset log with
  | zero => simp [Pci.aerFrom, Chain.walk, Chain.visits, Prog.run]
  | succ fuel ih =>
    unfold Pci.aerFrom
    by_cases hzero : offset = 0
    · simp [hzero, nonzero, Chain.walk, Chain.visits, Prog.run]
    rw [nonzero_some hzero, Chain.walk, Chain.visits]
    by_cases hseen : offset ∈ seen
    · simp [hzero, hseen, Prog.run]
    have hgo : ¬((decide (offset = 0) || seen.contains offset) = true) := by simp [hzero, hseen]
    rw [if_neg hgo, if_neg hseen, if_neg hseen]
    unfold Pci.read
    rw [Prog.bind_eq, run_pciRead (by omega)]
    by_cases hend : isEnd (word space offset 4) = true
    · have hmiss : ¬isAer space offset = true := by simp [isAer, hend]
      have hnext : aerNext space offset = none := if_pos hend
      have hstop : (decide (word space offset 4 = 0) || decide (word space offset 4 = 0xffffffff)) = true := hend
      rw [if_pos hstop, if_neg hmiss, if_neg hmiss, hnext]
      cases fuel with
      | zero => simp [Chain.walk, Chain.visits, Prog.run, headerRead]
      | succ fuel => simp [Chain.walk, Chain.visits, Prog.run, headerRead]
    have hstop : ¬(decide (word space offset 4 = 0) || decide (word space offset 4 = 0xffffffff)) = true := hend
    rw [if_neg hstop]
    by_cases haer : word space offset 4 &&& 0xffff = 1
    · have hhit : isAer space offset = true := by simp [isAer, hend, haer]
      rw [if_pos haer, if_pos hhit, if_pos hhit]
      rfl
    · have hmiss : ¬isAer space offset = true := by simp [isAer, haer]
      have hnext : aerNext space offset = nonzero ((word space offset 4 >>> 20) &&& 0xffc) := if_neg hend
      rw [if_neg haer, if_neg hmiss, if_neg hmiss, ih _ Nat.and_le_right, hnext]
      simp only [List.map_cons, List.append_assoc, List.cons_append, List.nil_append]
      rfl

private theorem run_aerStatus (hspace : space.length = 4096) (device : Pci) {x : Nat} (hx : x ≤ 0xffc) (log : List Op) :
    ((aerStatus device x).run (serve device.fd space) log).1 =
      (if x + 0x14 ≤ 4096 then
        .ret (some { uncorrectable := word space (x + 4) 4, correctable := word space (x + 0x10) 4 })
      else .throw (runtimeError (device.bdf ++ ": short config read"))) ∧
    ∃ reads, ((aerStatus device x).run (serve device.fd space) log).2 = log ++ reads ∧
      reads <+: [.pciRead device.fd (x + 4) 4, .pciRead device.fd (x + 0x10) 4] := by
  unfold aerStatus Pci.read
  by_cases hfirst : x + 4 + 4 ≤ space.length
  · simp only [Prog.bind_eq]
    rw [run_pciRead hfirst]
    by_cases hsecond : x + 0x10 + 4 ≤ space.length
    · rw [run_pciRead hsecond, if_pos (by omega)]
      refine ⟨rfl, [_, _], ?_, List.prefix_refl _⟩
      simp [Prog.run]
    · rw [run_pciRead_short (by omega) (by omega), if_neg (by omega)]
      refine ⟨rfl, [_, _], ?_, List.prefix_refl _⟩
      simp
  · simp only [Prog.bind_eq]
    rw [run_pciRead_short (by omega) (by omega), if_neg (by omega)]
    exact ⟨rfl, [_], rfl, by simp⟩

end

/-! ### The constructor and the error reports -/

section

variable {space : List UInt8} {device : Pci} {x : Nat}

/-- The constructor on a configuration space. -/
theorem run_openPci (hspace : 256 ≤ space.length) (bdf : String) (writable : Bool) (fd : Nat) :
    (openPci bdf writable).run (serve fd space) [] =
      match Chain.walk (capNext space) (isExp space) 48 [] (capStart space) with
      | some x => (.ret { bdf := bdf, fd := fd, exp := x }, [.pciOpen bdf writable, .pciRead fd 0x34 1] ++
          (Chain.visits (capNext space) (isExp space) 48 [] (capStart space)).flatMap (capReads fd space))
      | none => (.throw (runtimeError (bdf ++ ": no PCIe capability")), [.pciOpen bdf writable, .pciRead fd 0x34 1] ++
          (Chain.visits (capNext space) (isExp space) 48 [] (capStart space)).flatMap (capReads fd space) ++
            [.pciClose fd]) := by
  have hopen : (openPci bdf writable).run (serve fd space) [] =
      ((pciRead bdf fd 0x34 1).bind fun cap =>
        (findExp bdf fd 48 [] (cap &&& 0xfc)).bind fun exp =>
          (.ret { bdf := bdf, fd := fd, exp := exp } : Routine Exn Pci)).run
            (serve fd space) [.pciOpen bdf writable] := rfl
  rw [hopen, run_pciRead (by omega), run_findExp hspace _ _ _ Nat.and_le_right]
  rfl

theorem First.le (h : Chain.First (aerNext space) (isAer space) (some 0x100) 256 x) : x ≤ 0xffc := by
  obtain ⟨n, -, hn, -⟩ := h
  cases n with
  | zero =>
    cases hn
    decide
  | succ n =>
    obtain ⟨y, -, hy⟩ := Option.bind_eq_some_iff.1 hn
    unfold aerNext at hy
    by_cases hend : isEnd (word space y 4) = true
    · rw [if_pos hend] at hy
      cases hy
    · rw [if_neg hend, nonzero] at hy
      split at hy
      · cases hy
      · cases hy
        exact Nat.and_le_right

/-- The error reports on an extended configuration space. -/
theorem run_aer (hspace : space.length = 4096) (device : Pci) :
    device.aer.run (serve device.fd space) [] =
      match Chain.walk (aerNext space) (isAer space) 256 [] (some 0x100) with
      | some x => (aerStatus device x).run (serve device.fd space)
          ((Chain.visits (aerNext space) (isAer space) 256 [] (some 0x100)).map (headerRead device))
      | none => (.ret none,
          (Chain.visits (aerNext space) (isAer space) 256 [] (some 0x100)).map (headerRead device)) :=
  run_aerFrom hspace device 256 [] (by decide) []

/-- On a standard configuration space the first header is read short. -/
theorem run_aer_short (hspace : space.length = 256) (device : Pci) :
    device.aer.run (serve device.fd space) [] =
      (.throw (runtimeError (device.bdf ++ ": short config read")), [headerRead device 0x100]) := by
  have haer : device.aer.run (serve device.fd space) [] =
      ((pciRead device.bdf device.fd 0x100 4).bind fun header =>
        if header = 0 || header = 0xffffffff then (.ret none : Routine Exn (Option Aer))
        else if header &&& 0xffff = 1 then aerStatus device 0x100
        else device.aerFrom 255 [0x100] ((header >>> 20) &&& 0xffc)).run (serve device.fd space) [] := rfl
  rw [haer, run_pciRead_short (by omega) (by decide)]
  rfl

end

/-- The constructor and `aer` end on every configuration space, reading no entry of a list twice, and find the first
hit of their chain. -/
theorem capability_walks {space : List UInt8} (hspace : space.length = 256 ∨ space.length = 4096) (bdf : String)
    (writable : Bool) (fd : Nat) (device : Pci) :
    (∃ (offsets : List Nat) (closing : List Op), offsets.Nodup ∧ (closing = [] ∨ closing = [.pciClose fd]) ∧
      ((openPci bdf writable).run (serve fd space) []).2 =
        [.pciOpen bdf writable, .pciRead fd 0x34 1] ++ offsets.flatMap (capReads fd space) ++ closing) ∧
    (∀ x, Chain.First (capNext space) (isExp space) (capStart space) 48 x →
      ((openPci bdf writable).run (serve fd space) []).1 = .ret { bdf := bdf, fd := fd, exp := x }) ∧
    ((∀ x, ¬Chain.First (capNext space) (isExp space) (capStart space) 48 x) →
      ((openPci bdf writable).run (serve fd space) []).1 = .throw (runtimeError (bdf ++ ": no PCIe capability"))) ∧
    (∃ (offsets : List Nat) (status : List Op) (x : Nat), offsets.Nodup ∧
      status <+: [.pciRead device.fd (x + 4) 4, .pciRead device.fd (x + 0x10) 4] ∧
      (device.aer.run (serve device.fd space) []).2 = offsets.map (headerRead device) ++ status ∧
      ((∃ r, (device.aer.run (serve device.fd space) []).1 = .ret r) ∨
        ∃ e, (device.aer.run (serve device.fd space) []).1 = .throw e)) ∧
    (space.length = 4096 →
      (∀ x, Chain.First (aerNext space) (isAer space) (some 0x100) 256 x →
        (device.aer.run (serve device.fd space) []).1 =
          if x + 0x14 ≤ 4096 then
            .ret (some { uncorrectable := word space (x + 4) 4, correctable := word space (x + 0x10) 4 })
          else .throw (runtimeError (device.bdf ++ ": short config read"))) ∧
      ((∀ x, ¬Chain.First (aerNext space) (isAer space) (some 0x100) 256 x) →
        (device.aer.run (serve device.fd space) []).1 = .ret none)) := by
  have hopen := run_openPci (show 256 ≤ space.length by omega) bdf writable fd
  refine ⟨?_, fun x hx => ?_, fun hnone => ?_, ?_, fun hextended => ⟨fun x hx => ?_, fun hnone => ?_⟩⟩
  · cases hwalk : Chain.walk (capNext space) (isExp space) 48 [] (capStart space) with
    | some x =>
      rw [hwalk] at hopen
      exact ⟨_, [], Chain.visits_nodup, .inl rfl, by rw [hopen, List.append_nil]⟩
    | none =>
      rw [hwalk] at hopen
      exact ⟨_, _, Chain.visits_nodup, .inr rfl, by rw [hopen]⟩
  · rw [Chain.walk_eq_some_iff.2 hx] at hopen
    rw [hopen]
  · have hwalk : Chain.walk (capNext space) (isExp space) 48 [] (capStart space) = none :=
      Option.eq_none_iff_forall_ne_some.2 fun x hx => hnone x (Chain.walk_eq_some_iff.1 hx)
    rw [hwalk] at hopen
    rw [hopen]
  · rcases hspace with hstandard | hextended
    · rw [run_aer_short hstandard]
      exact ⟨[0x100], [], 0, by simp, by simp, rfl, .inr ⟨_, rfl⟩⟩
    · have haer := run_aer hextended device
      cases hwalk : Chain.walk (aerNext space) (isAer space) 256 [] (some 0x100) with
      | none =>
        rw [hwalk] at haer
        rw [haer]
        exact ⟨_, [], 0, Chain.visits_nodup, by simp, by rw [List.append_nil], .inl ⟨_, rfl⟩⟩
      | some x =>
        rw [hwalk] at haer
        obtain ⟨hresult, reads, hlog, hprefix⟩ := run_aerStatus hextended device
          (First.le (Chain.walk_eq_some_iff.1 hwalk))
          ((Chain.visits (aerNext space) (isAer space) 256 [] (some 0x100)).map (headerRead device))
        rw [haer]
        refine ⟨_, reads, x, Chain.visits_nodup, hprefix, hlog, ?_⟩
        dsimp only
        rw [hresult]
        by_cases hfits : x + 0x14 ≤ 4096
        · rw [if_pos hfits]
          exact .inl ⟨_, rfl⟩
        · rw [if_neg hfits]
          exact .inr ⟨_, rfl⟩
  · rw [run_aer hextended device, Chain.walk_eq_some_iff.2 hx]
    exact (run_aerStatus hextended device (First.le hx) _).1
  · have hwalk : Chain.walk (aerNext space) (isAer space) 256 [] (some 0x100) = none :=
      Option.eq_none_iff_forall_ne_some.2 fun x hx => hnone x (Chain.walk_eq_some_iff.1 hx)
    rw [run_aer hextended device, hwalk]

/-- A standard space: a capability at 0x60, and behind it the one of PCI Express at 0x78, which points back. -/
def standard : List UInt8 :=
  Bytes.putAll [(0x34, [0x60]), (0x60, [0x01, 0x78]), (0x78, [0x10, 0x60])] (List.replicate 256 0)

theorem standard_walk :
    ((openPci "0000:01:00.0" false).run (serve 3 standard) []).1 =
      .ret { bdf := "0000:01:00.0", fd := 3, exp := 0x78 } :=
  (capability_walks (.inl (by decide +kernel)) "0000:01:00.0" false 3 { bdf := "", fd := 3, exp := 0 }).2.1 0x78
    (Chain.walk_eq_some_iff.1 (by decide +kernel))

end CmpUnlocker.PcieHost
