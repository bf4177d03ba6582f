import Mathlib.Data.Int.Bitwise
import Mathlib.Data.List.FinRange
import CmpUnlocker.Lib.Scan
import CmpUnlocker.Lib.Text

/-!
# Constants at calls of the MMIO helpers

`inventory` of `inventory_gr_mmio_calls.py` goes through a listing of instructions once, and notes which constants are
in the registers `$r10` to `$r14` at the calls of some helpers.  The machine it is about has sixteen registers of 32
bits (`Effect`), and control enters an instruction from the one before it, or by a jump or a call to a literal target
(`Goes`).  What is noted is what the registers hold whenever a run reaches the call (`inventory_sound`).

How a token is read as a number, Python's `int(token, base)`, is a parameter.
-/

namespace CmpUnlocker.Analysis.Mmio

/-! ### Instructions -/

structure Instruction where
  pc : ℤ
  op : String
  args : List String
  deriving DecidableEq, Repr

/-- `REGISTER`: `$r0` to `$r15`. -/
def register (token : String) : Option (Fin 16) := (List.finRange 16).find? fun r => token = "$r" ++ toString r.val

/-- `READ_ONLY` -/
def readOnly : List String := ["st", "iowr", "cmp", "test", "push", "nop", "sleep"]

def calls : List String := ["call", "lcall"]

def returns : List String := ["ret", "iret", "mpopret", "mpopaddret"]

/-- The arguments without the width. -/
def Instruction.operands (ins : Instruction) : List String := ins.args.filter fun x => x ∉ ["b8", "b16", "b32"]

/-- Only a part of the register is written. -/
def Instruction.narrow (ins : Instruction) : Prop := "b8" ∈ ins.args ∨ "b16" ∈ ins.args

instance (ins : Instruction) : Decidable ins.narrow := inferInstanceAs (Decidable (_ ∨ _))

/-- The literal target of a jump or a call: its last argument, where that is written as an address, `0x…`. -/
def Instruction.literal (ins : Instruction) : Option String :=
  if ins.op ∈ ["bra", "lbra", "call", "lcall"] then
    ins.args.getLast?.filter fun last => (Text.dropPrefix "0x".toList last.toList).isSome
  else none

/-- The arithmetic with two operands. -/
inductive Arith
  | add
  | sub
  | and
  | or
  | xor
  | shl
  | shr

def Arith.named (op : String) : Option Arith :=
  match op with
  | "add" => some .add
  | "sub" => some .sub
  | "and" => some .and
  | "or" => some .or
  | "xor" => some .xor
  | "shl" => some .shl
  | "shr" => some .shr
  | _ => none

/-! ### The inventory -/

/-- `regs`: the constants that are known. -/
abbrev Known : Type := Fin 16 → Option ℤ

def unknown : Known := fun _ => none

structure Record where
  pc : ℤ
  helper : ℤ
  operation : String
  arguments : List (Fin 16 × Option ℤ)
  deriving DecidableEq, Repr

/-- Python's arithmetic. -/
def Arith.eval : Arith → ℤ → ℤ → Option ℤ
  | .add, a, b => some (a + b)
  | .sub, a, b => some (a - b)
  | .and, a, b => some (Int.land a b)
  | .or, a, b => some (Int.lor a b)
  | .xor, a, b => some (Int.xor a b)
  | .shl, a, b => if 0 ≤ b ∧ b < 32 then some (a * 2 ^ b.toNat) else none
  | .shr, a, b => if 0 ≤ b ∧ b < 32 then some (a / 2 ^ b.toNat) else none

section

variable (int : String → ℕ → Option ℤ) (helpers : ℤ → Option String)

def value (regs : Known) (token : String) : Option ℤ :=
  match register token with
  | some r => regs r
  | none => int token 0

/-- The new value of the register `d`, which is the token `dest`, if it is known. -/
def assigned (regs : Known) (ins : Instruction) (dest : String) (d : Fin 16) (operands : List String) : Option ℤ :=
  let previous := regs d
  let popped := Function.update regs d none
  let read := fun token => if token = dest then previous else value int popped token
  if ins.narrow then none
  else if ins.op = "clear" then some 0
  else if ins.op = "mov" then
    match operands with
    | [token] => read token
    | _ => none
  else
    match Arith.named ins.op, operands with
    | some k, [token] => previous.bind fun a => (read token).bind fun b => k.eval a b
    | some k, [left, right] => (read left).bind fun a => (read right).bind fun b => k.eval a b
    | _, _ => none

/-- Nothing is known at the target of a jump. -/
def enter (targets : List ℤ) (ins : Instruction) (regs : Known) : Known := if ins.pc ∈ targets then unknown else regs

/-- The constants behind an instruction. -/
def transfer (targets : List ℤ) (ins : Instruction) (regs : Known) : Known :=
  let regs := enter targets ins regs
  if ins.op ∈ calls then unknown
  else if ins.op ∈ ["bra", "lbra", "exit"] ++ returns then unknown
  else
    match ins.operands with
    | [] => regs
    | dest :: operands =>
      match register dest with
      | none => regs
      | some d =>
        if ins.op ∈ readOnly then regs
        -- `& 0xffffffff`
        else Function.update regs d ((assigned int regs ins dest d operands).map (· % 2 ^ 32))

/-- The record of a call of a helper. -/
def recordAt (targets : List ℤ) (regs : Known) (ins : Instruction) : Option Record :=
  let regs := enter targets ins regs
  if ins.op ∈ calls then
    match ins.operands.getLast?.bind (value int regs) with
    | some target => (helpers target).map fun operation =>
        { pc := ins.pc, helper := target, operation, arguments := [10, 11, 12, 13, 14].map fun r => (r, regs r) }
    | none => none
  else none

/-- The addresses of the literal targets; one that is no number ends the program. -/
def targetsOf (instructions : List Instruction) : Option (List ℤ) :=
  (instructions.filterMap Instruction.literal).mapM fun target => int target 16

def inventory (instructions : List Instruction) : Option (List Record) :=
  (targetsOf int instructions).map fun targets =>
    Scan.collect (transfer int targets) (recordAt int helpers targets) unknown instructions

/-! ### The machine -/

abbrev Registers : Type := Fin 16 → BitVec 32

/-- A register or an immediate; other operands are not modelled. -/
def operand (ρ : Registers) (token : String) : Option (BitVec 32) :=
  match register token with
  | some r => some (ρ r)
  | none => (int token 0).map (BitVec.ofInt 32)

/-- The arithmetic of the machine; longer shifts are unspecified. -/
def Arith.compute : Arith → BitVec 32 → BitVec 32 → Option (BitVec 32)
  | .add, x, y => some (x + y)
  | .sub, x, y => some (x - y)
  | .and, x, y => some (x &&& y)
  | .or, x, y => some (x ||| y)
  | .xor, x, y => some (x ^^^ y)
  | .shl, x, y => if y.toNat < 32 then some (x <<< y.toNat) else none
  | .shr, x, y => if y.toNat < 32 then some (x >>> y.toNat) else none

/-- What is written to the register `d`, if it is specified. -/
def result (ρ : Registers) (ins : Instruction) (d : Fin 16) (operands : List String) : Option (BitVec 32) :=
  if ins.narrow then none
  else if ins.op = "clear" then some 0
  else if ins.op = "mov" then
    match operands with
    | [token] => operand int ρ token
    | _ => none
  else
    match Arith.named ins.op, operands with
    | some k, [token] => (operand int ρ token).bind fun y => k.compute (ρ d) y
    | some k, [left, right] => (operand int ρ left).bind fun x => (operand int ρ right).bind fun y => k.compute x y
    | _, _ => none

/-- Calls and returns may change every register, the others only the one that is their first operand. -/
def Effect (ins : Instruction) (ρ ρ' : Registers) : Prop :=
  if ins.op ∈ calls ++ returns then True
  else
    match ins.operands with
    | [] => ρ' = ρ
    | dest :: operands =>
      match register dest with
      | none => ρ' = ρ
      | some d =>
        if ins.op ∈ readOnly then ρ' = ρ
        else (∀ r ≠ d, ρ' r = ρ r) ∧ ∀ x, result int ρ ins d operands = some x → ρ' d = x

/-- Control goes on behind the instruction, to the literal target of a jump or a call, or, from a return, behind a
call. -/
def Goes (instructions : List Instruction) (i j : ℕ) : Prop :=
  j = i + 1 ∨
  (∃ ins target, instructions[i]? = some ins ∧ ins.literal = some target ∧
    ∃ next, instructions[j]? = some next ∧ int target 16 = some next.pc) ∨
  ∃ ins call k, instructions[i]? = some ins ∧ ins.op ∈ returns ∧ instructions[k]? = some call ∧ call.op ∈ calls ∧
    j = k + 1

/-- The registers when a run reaches an instruction. -/
def Reaches (instructions : List Instruction) : ℕ → Registers → Prop :=
  Scan.Reaches (Effect int) (Goes int instructions) instructions

/-- Immediates have 32 bits and no sign. -/
def Immediates (instructions : List Instruction) : Prop :=
  ∀ ins ∈ instructions, ∀ token ∈ ins.operands, ∀ n, register token = none → int token 0 = some n →
    0 ≤ n ∧ n < 2 ^ 32

end

/-! ### Soundness -/

/-- The constants that are known are in the registers. -/
def Holds (regs : Known) (ρ : Registers) : Prop := ∀ r n, regs r = some n → n = (ρ r).toNat

private theorem unknown_holds (ρ : Registers) : Holds unknown ρ := by
  intro r n h
  cases h

private theorem register_inj {token token' : String} {r : Fin 16} (h : register token = some r)
    (h' : register token' = some r) : token = token' := by
  have hname : token = "$r" ++ toString r.val := by simpa using List.find?_some h
  have hname' : token' = "$r" ++ toString r.val := by simpa using List.find?_some h'
  rw [hname, hname']

/-- The arithmetic of Python, taken modulo `2 ^ 32`, is the one of the machine. -/
theorem Arith.eval_compute {k : Arith} {x y : BitVec 32} {n : ℤ} (h : k.eval x.toNat y.toNat = some n) :
    ∃ z, k.compute x y = some z ∧ n % 2 ^ 32 = z.toNat := by
  have hx := x.isLt
  have hy := y.isLt
  cases k with
  | add =>
    cases h
    refine ⟨x + y, rfl, ?_⟩
    rw [BitVec.toNat_add]
    omega
  | sub =>
    cases h
    refine ⟨x - y, rfl, ?_⟩
    rw [BitVec.toNat_sub]
    omega
  | and =>
    cases h
    refine ⟨x &&& y, rfl, ?_⟩
    have hlt := (x &&& y).isLt
    rw [BitVec.toNat_and] at hlt ⊢
    have hland : Int.land x.toNat y.toNat = ((x.toNat &&& y.toNat : ℕ) : ℤ) := rfl
    rw [hland]
    omega
  | or =>
    cases h
    refine ⟨x ||| y, rfl, ?_⟩
    have hlt := (x ||| y).isLt
    rw [BitVec.toNat_or] at hlt ⊢
    have hlor : Int.lor x.toNat y.toNat = ((x.toNat ||| y.toNat : ℕ) : ℤ) := rfl
    rw [hlor]
    omega
  | xor =>
    cases h
    refine ⟨x ^^^ y, rfl, ?_⟩
    have hlt := (x ^^^ y).isLt
    rw [BitVec.toNat_xor] at hlt ⊢
    have hxor : Int.xor x.toNat y.toNat = ((x.toNat ^^^ y.toNat : ℕ) : ℤ) := rfl
    rw [hxor]
    omega
  | shl =>
    obtain ⟨hsmall, hn⟩ : (y.toNat : ℤ) < 32 ∧ (x.toNat : ℤ) * 2 ^ y.toNat = n := by simpa [Arith.eval] using h
    have hshift : y.toNat < 32 := by omega
    refine ⟨x <<< y.toNat, if_pos hshift, ?_⟩
    rw [BitVec.toNat_shiftLeft, Nat.shiftLeft_eq, ← hn]
    push_cast
    rfl
  | shr =>
    obtain ⟨hsmall, hn⟩ : (y.toNat : ℤ) < 32 ∧ (x.toNat : ℤ) / 2 ^ y.toNat = n := by simpa [Arith.eval] using h
    have hshift : y.toNat < 32 := by omega
    refine ⟨x >>> y.toNat, if_pos hshift, ?_⟩
    have hlt := (x >>> y.toNat).isLt
    rw [BitVec.toNat_ushiftRight, Nat.shiftRight_eq_div_pow] at hlt ⊢
    have hcast : n = ((x.toNat / 2 ^ y.toNat : ℕ) : ℤ) := by
      rw [← hn]
      push_cast
      rfl
    rw [hcast]
    generalize x.toNat / 2 ^ y.toNat = q at hlt ⊢
    omega

section

variable {int : String → ℕ → Option ℤ} {helpers : ℤ → Option String} {regs : Known} {ρ : Registers} {ins : Instruction}

/-- The value of an operand that is known. -/
theorem value_operand (hholds : Holds regs ρ) {token : String} {n : ℤ} (h : value int regs token = some n)
    (himm : register token = none → 0 ≤ n ∧ n < 2 ^ 32) : ∃ x, operand int ρ token = some x ∧ n = x.toNat := by
  unfold value at h
  unfold operand
  cases hregister : register token with
  | some r =>
    rw [hregister] at h
    exact ⟨ρ r, rfl, hholds r n h⟩
  | none =>
    rw [hregister] at h
    obtain ⟨hlow, hhigh⟩ := himm hregister
    have hint : int token 0 = some n := h
    refine ⟨BitVec.ofInt 32 n, by rw [hint, Option.map_some], ?_⟩
    rw [BitVec.toNat_ofInt]
    omega

/-- The destination is read before it is dropped. -/
theorem read_eq {dest : String} {d : Fin 16} (hdest : register dest = some d) (token : String) :
    (if token = dest then regs d else value int (Function.update regs d none) token) = value int regs token := by
  by_cases hsame : token = dest
  · rw [if_pos hsame, hsame, value, hdest]
  · rw [if_neg hsame]
    unfold value
    cases hregister : register token with
    | none => rfl
    | some r =>
      have hne : r ≠ d := by
        rintro rfl
        exact hsame (register_inj hregister hdest)
      exact Function.update_of_ne hne _ _

/-- A value that is computed is the one that is written. -/
theorem assigned_result (hholds : Holds regs ρ) {dest : String} {d : Fin 16} (hdest : register dest = some d)
    {operands : List String}
    (himm : ∀ token ∈ operands, ∀ n, register token = none → int token 0 = some n → 0 ≤ n ∧ n < 2 ^ 32) {n : ℤ}
    (h : assigned int regs ins dest d operands = some n) :
    ∃ x, result int ρ ins d operands = some x ∧ n % 2 ^ 32 = x.toNat := by
  have hoperand : ∀ token ∈ operands, ∀ n, value int regs token = some n →
      ∃ x, operand int ρ token = some x ∧ n = x.toNat := by
    intro token htoken n hvalue
    refine value_operand hholds hvalue fun hnone => himm token htoken n hnone ?_
    rwa [value, hnone] at hvalue
  simp only [assigned, read_eq hdest] at h
  unfold result
  by_cases hnarrow : ins.narrow
  · rw [if_pos hnarrow] at h
    cases h
  rw [if_neg hnarrow] at h ⊢
  by_cases hclear : ins.op = "clear"
  · rw [if_pos hclear] at h ⊢
    cases h
    exact ⟨0, rfl, rfl⟩
  rw [if_neg hclear] at h ⊢
  by_cases hmov : ins.op = "mov"
  · rw [if_pos hmov] at h ⊢
    split at h
    · next token =>
      obtain ⟨x, hx, rfl⟩ := hoperand token List.mem_cons_self n h
      refine ⟨x, hx, ?_⟩
      have hlt := x.isLt
      omega
    · cases h
  rw [if_neg hmov] at h ⊢
  cases hk : Arith.named ins.op with
  | none =>
    rw [hk] at h
    cases h
  | some k =>
    rw [hk] at h
    split at h
    · next k' token hsome =>
      cases hsome
      obtain ⟨a, ha, h⟩ := Option.bind_eq_some_iff.1 h
      obtain ⟨b, hb, h⟩ := Option.bind_eq_some_iff.1 h
      obtain rfl := hholds d a ha
      obtain ⟨y, hy, rfl⟩ := hoperand token List.mem_cons_self b hb
      obtain ⟨z, hz, hn⟩ := Arith.eval_compute h
      exact ⟨z, by simp [hy, hz], hn⟩
    · next k' left right hsome =>
      cases hsome
      obtain ⟨a, ha, h⟩ := Option.bind_eq_some_iff.1 h
      obtain ⟨b, hb, h⟩ := Option.bind_eq_some_iff.1 h
      obtain ⟨x, hx, rfl⟩ := hoperand left List.mem_cons_self a ha
      obtain ⟨y, hy, rfl⟩ := hoperand right (by simp) b hb
      obtain ⟨z, hz, hn⟩ := Arith.eval_compute h
      exact ⟨z, by simp [hx, hy, hz], hn⟩
    · cases h

/-- What is known behind an instruction holds of the registers that it leaves. -/
theorem transfer_holds {targets : List ℤ} {ρ' : Registers}
    (himm : ∀ token ∈ ins.operands, ∀ n, register token = none → int token 0 = some n → 0 ≤ n ∧ n < 2 ^ 32)
    (hholds : Holds (enter targets ins regs) ρ) (heffect : Effect int ins ρ ρ') :
    Holds (transfer int targets ins regs) ρ' := by
  unfold transfer
  unfold Effect at heffect
  by_cases hcall : ins.op ∈ calls
  · rw [if_pos hcall]
    exact unknown_holds ρ'
  rw [if_neg hcall]
  by_cases hjump : ins.op ∈ ["bra", "lbra", "exit"] ++ returns
  · rw [if_pos hjump]
    exact unknown_holds ρ'
  have hreturn : ins.op ∉ returns := fun hmem => hjump (List.mem_append_right _ hmem)
  rw [if_neg (by simp [hcall, hreturn])] at heffect
  rw [if_neg hjump]
  cases hoperands : ins.operands with
  | nil =>
    rw [hoperands] at heffect
    obtain rfl : ρ' = ρ := heffect
    exact hholds
  | cons dest operands =>
    simp only [hoperands] at heffect ⊢
    cases hdest : register dest with
    | none =>
      rw [hdest] at heffect
      obtain rfl : ρ' = ρ := heffect
      exact hholds
    | some d =>
      simp only [hdest] at heffect ⊢
      by_cases hread : ins.op ∈ readOnly
      · rw [if_pos hread] at heffect ⊢
        rw [heffect]
        exact hholds
      · rw [if_neg hread] at heffect ⊢
        obtain ⟨hothers, hwritten⟩ := heffect
        intro r n hn
        by_cases hr : r = d
        · subst hr
          rw [Function.update_self, Option.map_eq_some_iff] at hn
          obtain ⟨m, hm, rfl⟩ := hn
          have himmediate : ∀ token ∈ operands, ∀ n, register token = none → int token 0 = some n →
              0 ≤ n ∧ n < 2 ^ 32 := fun token htoken => himm token (by simp [hoperands, htoken])
          obtain ⟨x, hx, hmod⟩ := assigned_result hholds hdest himmediate hm
          rw [hmod, hwritten x hx]
        · rw [Function.update_of_ne hr] at hn
          rw [hothers r hr]
          exact hholds r n hn

end

/-- The address of a literal target is one of the targets. -/
theorem mem_targetsOf {int : String → ℕ → Option ℤ} {instructions : List Instruction} {targets : List ℤ}
    (h : targetsOf int instructions = some targets) {ins : Instruction} (hins : ins ∈ instructions) {target : String}
    (hliteral : ins.literal = some target) {pc : ℤ} (hpc : int target 16 = some pc) : pc ∈ targets := by
  have hmem : target ∈ instructions.filterMap Instruction.literal := List.mem_filterMap.2 ⟨ins, hins, hliteral⟩
  unfold targetsOf at h
  generalize instructions.filterMap Instruction.literal = literals at h hmem
  induction literals generalizing targets with
  | nil => cases hmem
  | cons literal literals ih =>
    rw [List.mapM_cons] at h
    obtain ⟨first, hfirst, h⟩ := Option.bind_eq_some_iff.1 h
    obtain ⟨rest, hrest, h⟩ := Option.bind_eq_some_iff.1 h
    cases h
    rcases List.mem_cons.1 hmem with rfl | hmem
    · rw [hpc] at hfirst
      cases hfirst
      exact List.mem_cons_self
    · exact List.mem_cons_of_mem _ (ih hrest hmem)

/-- The record of the instruction at this position. -/
def noted (int : String → ℕ → Option ℤ) (helpers : ℤ → Option String) (instructions : List Instruction) (i : ℕ) :
    Option Record :=
  (targetsOf int instructions).bind fun targets =>
    instructions[i]?.bind (recordAt int helpers targets (Scan.known (transfer int targets) unknown instructions i))

/-- The records are those of the instructions in the order of the listing, and a constant that is noted is in its
register whenever a run reaches the instruction. -/
theorem inventory_sound {int : String → ℕ → Option ℤ} {helpers : ℤ → Option String} {instructions : List Instruction}
    {records : List Record} (himm : Immediates int instructions)
    (h : inventory int helpers instructions = some records) :
    records = (List.range instructions.length).filterMap (noted int helpers instructions) ∧
    ∀ i record, noted int helpers instructions i = some record →
      ∀ ρ, Reaches int instructions i ρ → ∀ r n, (r, some n) ∈ record.arguments → (ρ r).toNat = n := by
  obtain ⟨targets, htargets, rfl⟩ := Option.map_eq_some_iff.1 h
  have hnoted : noted int helpers instructions = fun i => instructions[i]?.bind
      (recordAt int helpers targets (Scan.known (transfer int targets) unknown instructions i)) := by
    funext i
    rw [noted, htargets, Option.bind_some]
  rw [hnoted]
  refine ⟨Scan.collect_eq _ _ _ _, fun i record hrecord ρ hreach r n hmem => ?_⟩
  obtain ⟨ins, hins, hrecord⟩ := Option.bind_eq_some_iff.1 hrecord
  have hholds : Holds (enter targets ins (Scan.known (transfer int targets) unknown instructions i)) ρ := by
    apply Scan.known_sound unknown_holds _ _ _ hreach hins
    · intro ins regs ρ hregs
      unfold enter
      by_cases htarget : ins.pc ∈ targets
      · rw [if_pos htarget]
        exact unknown_holds ρ
      · rw [if_neg htarget]
        exact hregs
    · intro ins hmem regs ρ ρ' hregs heffect
      exact transfer_holds (himm ins hmem) hregs heffect
    · intro i j hgo
      rcases hgo with rfl | ⟨jump, target, hjump, hliteral, next, hnext, hpc⟩ | ⟨_, call, k, -, -, hcall, hop, rfl⟩
      · exact .inl rfl
      · -- the target of a jump is one of the targets
        right
        intro ins hins ρ
        have hmem := mem_targetsOf htargets (List.mem_of_getElem? hjump) hliteral hpc
        rw [hnext] at hins
        cases hins
        rw [enter, if_pos hmem]
        exact unknown_holds ρ
      · -- nothing is known behind a call
        right
        intro ins hins ρ
        rw [Scan.known_succ hcall, transfer, if_pos hop, enter, ite_self]
        exact unknown_holds ρ
  unfold recordAt at hrecord
  by_cases hcall : ins.op ∈ calls
  · rw [if_pos hcall] at hrecord
    split at hrecord
    · obtain ⟨operation, -, rfl⟩ := Option.map_eq_some_iff.1 hrecord
      obtain ⟨r', -, hr⟩ := List.mem_map.1 hmem
      obtain ⟨rfl, hknown⟩ := Prod.mk.inj hr
      exact (hholds r' n hknown).symm
    · cases hrecord
  · rw [if_neg hcall] at hrecord
    cases hrecord

/-- `int(token, base)` of plain digits, with the prefix `0x` in the bases 0 and 16. -/
def plainInt (token : String) (base : ℕ) : Option ℤ :=
  match Text.dropPrefix "0x".toList token.toList with
  | some digits => (Text.number 16 digits).map Int.ofNat
  | none => (Text.number (if base = 0 then 10 else base) token.toList).map Int.ofNat

def writeAt99 (target : ℤ) : Option String := if target = 99 then some "write" else none

/-- An address that is computed before the call. -/
def computed : List Instruction :=
  [⟨0, "mov", ["$r10", "0x21000"]⟩, ⟨1, "add", ["b32", "$r10", "$r10", "0x760"]⟩, ⟨2, "lcall", ["0x63"]⟩]

theorem computed_address : ∃ ρ, Reaches plainInt computed 2 ρ ∧ (ρ 10).toNat = 0x21760 := by
  have hbounds : ∀ ins ∈ computed, ∀ token ∈ ins.operands,
      (plainInt token 0).all (fun n => decide (0 ≤ n ∧ n < 2 ^ 32)) = true := by
    decide
  have himm : Immediates plainInt computed := by
    intro ins hins token htoken n _ hn
    have hbound := hbounds ins hins token htoken
    rw [hn] at hbound
    simpa using hbound
  have hinventory : inventory plainInt writeAt99 computed =
      some [⟨2, 99, "write", [(10, some 0x21760), (11, none), (12, none), (13, none), (14, none)]⟩] := by
    decide
  let ρ : Registers := Function.update (fun _ => 0) 10 0x21000
  have hmov : Effect plainInt ⟨0, "mov", ["$r10", "0x21000"]⟩ (fun _ => 0) ρ := by
    refine ⟨fun r hr => Function.update_of_ne hr _ _, fun x hx => ?_⟩
    have hx' : some (0x21000 : BitVec 32) = some x := hx
    cases hx'
    rfl
  have hadd : Effect plainInt ⟨1, "add", ["b32", "$r10", "$r10", "0x760"]⟩ ρ (Function.update ρ 10 0x21760) := by
    refine ⟨fun r hr => Function.update_of_ne hr _ _, fun x hx => ?_⟩
    have hx' : some (0x21760 : BitVec 32) = some x := hx
    cases hx'
    rfl
  have hreach : Reaches plainInt computed 2 (Function.update ρ 10 0x21760) :=
    .step (.step (.start _) rfl hmov (.inl rfl)) rfl hadd (.inl rfl)
  have hvalue := (inventory_sound himm hinventory).2 2 _ rfl _ hreach 10 0x21760 (by decide)
  exact ⟨_, hreach, by exact_mod_cast hvalue⟩

end CmpUnlocker.Analysis.Mmio
