import CmpUnlocker.Clock.Commands

/-!
# The gates in front of the writes

A driver that answers truthfully, and the reasons for which `tune`, `profile` and `reset` must not write (`Refused`).
Whatever a command has found out before its transaction decides whether it may write, so the commands are followed with
an assertion on the values they have read (`Passes`): no setter is called unless none of the reasons applies and
`--apply` is one of the options.
-/

namespace CmpUnlocker.Clock

open Interaction

/-! ### The driver -/

/-- What the driver reports and no setter changes. -/
structure Host where
  driver : String
  uuids : String → D
  names : D → String
  vbios : D → String
  capability : D → Int × Int
  range : D → K → Int × Int
  constraints : D → Int × Int
  defaultLimit : D → Int

def Host.Reports (host : Host) : (g : Getter) → g.Value → Prop
  | .driver, v => v = host.driver
  | .byUuid u, d => d = host.uuids u
  | .name d, n => n = host.names d
  | .vbios d, v => v = host.vbios d
  | .capability d, c => c = host.capability d
  | .range d k, r => r = host.range d k
  | .constraints d, r => r = host.constraints d
  | .defaultLimit d, x => x = host.defaultLimit d
  | _, _ => True

/-- A call may fail with any code; a getter that answers `OK` tells the truth. -/
def nvml (host : Host) : Env Request Request.Answer (D → Device)
  | w, .get g, r, w' => w' = w ∧ (r.1 = ok → host.Reports g r.2)
  | w, .setting d o, r, w' => device (w d) o r (w' d) ∧ ∀ d', d' ≠ d → w' d' = w d'
  | w, _, _, w' => w' = w

/-- The request is a call of an NVML setter. -/
def Request.Writes : Request → Prop
  | .setting _ (.set _ _) => True
  | _ => False

/-- The next request of the program is a call of an NVML setter. -/
def CallsSetter {α : Type} (p : Command α) : Prop := ∃ o k, p = .call o k ∧ o.Writes

/-! ### The reasons not to write -/

def Host.Identified (host : Host) (d : D) : Prop := host.names d = CMP_NAME ∧ host.capability d = (7, 0)

def Host.Tested (host : Host) (d : D) : Prop := host.driver = PROFILE_DRIVER ∧ host.vbios d = PROFILE_VBIOS

def Within (x : Int) (bounds : Int × Int) : Prop := bounds.1 ≤ x ∧ x ≤ bounds.2

/-- The value options of a command. -/
def valueOptions (command : String) : List String :=
  if command = "tune" then tuneValues
  else if command = "profile" then profileValues
  else if command = "reset" then resetValues
  else []

def boolOptions (command : String) : List String :=
  if command = "tune" then tuneBools
  else if command = "profile" then profileBools
  else if command = "reset" then resetBools
  else []

/-- The offset options of `tune`. -/
def offsetOption : K → Option String
  | .hbm => some "--hbm-offset"
  | .core => some "--core-offset"
  | .power => none

/-- A reason for which a command with these options must not write. -/
inductive Refused (host : Host) (command : String) (opts : List (String × Option String)) : Prop
  | malformed (h : ¬ WellFormed (valueOptions command) (boolOptions command) opts)
  | uuid {u : String} (hgiven : ("--uuid", some u) ∈ opts) (h : '\x00' ∈ u.toList)
  | name {n : String} (hgiven : ("--name", some n) ∈ opts) (h : n ≠ "hbm-877")
  | offset {k : K} {f v e : String} (hf : offsetOption k = some f) (hgiven : (f, some v) ∈ opts) (h : pi v f = .error e)
  | watts {v e : String} (hgiven : ("--watts", some v) ∈ opts) (h : pw v = .error e)
  | identity {u : String} (hgiven : ("--uuid", some u) ∈ opts) (h : ¬ host.Identified (host.uuids u))
  | platform {u : String} (hc : command = "profile") (hgiven : ("--uuid", some u) ∈ opts)
      (h : ¬ host.Tested (host.uuids u)) (hallow : ¬ Given "--allow-untested" opts)
  | range {k : K} {f u v : String} {x : Int} (hc : command = "tune") (hgiven : ("--uuid", some u) ∈ opts)
      (hf : offsetOption k = some f) (hv : (f, some v) ∈ opts) (hx : pi v f = .ok x)
      (h : ¬ Within x (host.range (host.uuids u) k)) (hallow : ¬ Given "--allow-out-of-range" opts)
  | power {u v : String} {x : Int} (hc : command = "tune") (hgiven : ("--uuid", some u) ∈ opts)
      (hv : ("--watts", some v) ∈ opts) (hx : pw v = .ok x) (h : ¬ Within x (host.constraints (host.uuids u)))
  | default {u : String} (hc : command = "reset") (hgiven : ("--uuid", some u) ∈ opts) (hp : Given "--power" opts)
      (h : ¬ Within (host.defaultLimit (host.uuids u)) (host.constraints (host.uuids u)))

/-! ### Following the values read -/

/-- Setters are called only if `φ` holds, and the program ends with a value of `Q`, whatever the driver answers. -/
def Passes {α : Type} (host : Host) (φ : Prop) (Q : α → Prop) (p : Command α) : Prop :=
  ∀ w, p.Meets (nvml host) (fun _ o _ _ => o.Writes → φ) (fun a _ => Q a) (fun _ _ => True) w

section

variable {α β : Type} {host : Host} {φ : Prop} {Q : α → Prop} {R : β → Prop}

private theorem passes_ret {a : α} (h : Q a) : Passes host φ Q (.ret a) := fun _ => h

private theorem passes_throw {e : String} : Passes host φ Q (.throw e) := fun _ => trivial

private theorem passes_bind {p : Command α} {f : α → Command β} (hp : Passes host φ Q p)
    (hf : ∀ a, Q a → Passes host φ R (f a)) : Passes host φ R (p.bind f) := by
  intro w
  exact Prog.meets_bind.2 ((hp w).imp (fun a w' ha => hf a ha w') fun _ _ hx => hx)

private theorem passes_ite {c : Prop} [Decidable c] {p q : Command α} (hp : c → Passes host φ Q p)
    (hq : ¬c → Passes host φ Q q) : Passes host φ Q (if c then p else q) := by
  split
  · next h => exact hp h
  · next h => exact hq h

private theorem passes_attempt {p : Command α} (hp : Passes host φ (fun _ => True) p) :
    Passes host φ (fun _ => True) (p.attempt : Command (Except String α)) := by
  intro w
  exact Prog.meets_attempt.2 ((hp w).imp (fun _ _ _ => trivial) fun _ _ _ => trivial)

/-- A request that is no setter. -/
theorem passes_request {o : Request} (h : ¬ o.Writes) :
    Passes host φ (fun _ => True) (Prog.request o : Command o.Answer) := by
  intro w r w' _
  exact ⟨fun hwrites => absurd hwrites h, trivial⟩

private theorem passes_forEach {f : β → Command Unit} (hf : ∀ x, Passes host φ (fun _ => True) (f x)) (xs : List β) :
    Passes host φ (fun _ => True) (Prog.forEach f xs) := by
  induction xs with
  | nil => exact passes_ret trivial
  | cons x xs ih => exact passes_bind (hf x) fun _ _ => ih

private theorem passes_lifted {x : Except String α} : Passes host φ (fun a => x = .ok a) (lift x) := by
  cases x with
  | error e => exact passes_throw
  | ok a => exact passes_ret rfl

/-- Where writing is allowed, nothing is left to check. -/
theorem passes_allowed (h : φ) (p : Command α) : Passes host φ (fun _ => True) p := by
  induction p with
  | ret a => exact passes_ret trivial
  | throw e => exact passes_throw
  | call o k ih =>
    intro w r w' _
    exact ⟨fun _ => h, ih r w'⟩

variable (es : Int → String) (debug : String → String)

private theorem passes_checked {r : Int} {what : String} : Passes host φ (fun _ => r = ok) (checked es r what) :=
  passes_ite (fun h => passes_ret h) fun _ => passes_throw

private theorem passes_read {g : Getter} {what : String} {Q : g.Value → Prop} (h : ∀ x, host.Reports g x → Q x) :
    Passes host φ Q (read es g what) := by
  intro w r w' hr
  refine ⟨fun hwrites => hwrites.elim, ?_⟩
  obtain ⟨-, htruth⟩ := hr
  have hrest : Passes host φ Q ((checked es r.1 what).bind fun _ => .ret r.2) :=
    passes_bind (passes_checked es) fun _ hok => passes_ret (h _ (htruth hok))
  exact hrest w'

/-- A routine without a setter. -/
theorem passes_onDevice {d : D} {p : Routine String α} (hp : p.Uses fun o => ∀ k v, o ≠ .set k v) :
    Passes host φ (fun _ => True) (onDevice d p) := by
  induction p with
  | ret a => exact passes_ret trivial
  | throw e => exact passes_throw
  | call o k ih =>
    obtain ⟨ho, hk⟩ := hp
    have hreads : ¬ (Request.setting d o).Writes := by
      cases o with
      | set k' v => exact absurd rfl (ho k' v)
      | _ => exact fun hwrites => hwrites
    exact passes_bind (passes_request hreads) fun r _ => ih r (hk r)

private theorem passes_current (d : D) (k : K) : Passes host φ (fun _ => True) (current es d k) := by
  have hreads : ∀ k what, (readSetting es k what).Uses fun o => ∀ k v, o ≠ .set k v := by
    intro k what
    refine Prog.Uses.bind (by simp [call]) fun r => Prog.Uses.bind ?_ fun _ => trivial
    unfold ck
    exact Prog.uses_ite.2 ⟨fun _ => trivial, fun _ => trivial⟩
  cases k <;> exact passes_onDevice (hreads _ _)

/-! ### The gates -/

private theorem passes_byU (u : String) :
    Passes host φ (fun d => d = host.uuids u ∧ '\x00' ∉ u.toList) (byU es u) :=
  passes_ite (fun _ => passes_throw) fun hnul => passes_read es fun _ hd => ⟨hd, hnul⟩

private theorem passes_cmp (d : D) : Passes host φ (fun _ => host.Identified d) (cmp es debug d) := by
  refine passes_bind (passes_read es (Q := fun n : String => n = host.names d) fun _ hn => hn) fun n hn => ?_
  refine passes_bind (passes_read es (Q := fun c : Int × Int => c = host.capability d) fun _ hc => hc) fun c hc => ?_
  refine passes_ite (fun _ => passes_throw) fun h => passes_ret ?_
  simp only [not_or, not_not] at h
  obtain ⟨hname, hmajor, hminor⟩ := h
  exact ⟨hn ▸ hname, hc ▸ Prod.ext hmajor hminor⟩

private theorem passes_profilePlatform (d : D) (untested : Bool) :
    Passes host φ (fun _ => host.Identified d ∧ (untested = false → host.Tested d))
      (profilePlatform es debug d untested) := by
  refine passes_bind (passes_cmp es debug d) fun _ hid => ?_
  refine passes_bind (passes_read es (Q := fun v : String => v = host.driver) fun _ hv => hv) fun dr hdr => ?_
  refine passes_bind (passes_read es (Q := fun v : String => v = host.vbios d) fun _ hv => hv) fun vb hvb => ?_
  refine passes_ite (fun h => passes_ret ⟨hid, fun _ => ⟨hdr ▸ h.1, hvb ▸ h.2⟩⟩) fun _ => ?_
  refine passes_ite (fun huntested => ?_) fun _ => passes_throw
  intro w r w' _
  exact ⟨fun hwrites => hwrites.elim, hid, fun hfalse => absurd (huntested.symm.trans hfalse) (by decide)⟩

private theorem passes_po (d : D) (k : K) (new : Int) (bypass : Bool) :
    Passes host φ (fun _ => bypass = false → Within new (host.range d k)) (po es d k new bypass) := by
  refine passes_bind (passes_current es d k) fun old _ => ?_
  refine passes_bind (passes_read es (Q := fun r : Int × Int => r = host.range d k) fun _ hr => hr) fun r hr => ?_
  refine passes_ite (fun _ => passes_throw) fun h => passes_ret fun hbypass => ?_
  rw [← hr]
  constructor
  · by_contra hlt
    exact h ⟨.inl (by omega), hbypass⟩
  · by_contra hlt
    exact h ⟨.inr (by omega), hbypass⟩

private theorem passes_pp (d : D) (new : Int) :
    Passes host φ (fun _ => Within new (host.constraints d)) (pp es d new) := by
  refine passes_bind (passes_current es d .power) fun old _ => ?_
  refine passes_bind (passes_read es (Q := fun r : Int × Int => r = host.constraints d) fun _ hr => hr) fun r hr => ?_
  refine passes_ite (fun _ => passes_throw) fun h => passes_ret ?_
  rw [← hr]
  unfold Within
  omega

private theorem passes_defaulted (d : D) :
    Passes host φ (fun _ => Within (host.defaultLimit d) (host.constraints d)) (defaulted es d) := by
  refine passes_bind (passes_current es d .power) fun old _ => ?_
  refine passes_bind (passes_read es (Q := fun x : Int => x = host.defaultLimit d) fun _ hx => hx)
    fun (x : Int) hx => ?_
  refine passes_bind (passes_read es (Q := fun r : Int × Int => r = host.constraints d) fun _ hr => hr) fun r hr => ?_
  refine passes_ite (fun _ => passes_throw) fun h => passes_ret ?_
  have hbounds : ¬ (x < r.1 ∨ x > r.2) := h
  rw [← hr, ← hx]
  unfold Within
  omega

/-- A change that is asked for has passed its check. -/
theorem passes_pushed {P : β → Prop} {x : Option β} {change : β → Command C}
    (h : ∀ b, Passes host φ (fun _ => P b) (change b)) :
    Passes host φ (fun _ => ∀ b, x = some b → P b) (pushed x change) := by
  cases x with
  | none => exact passes_ret fun b hb => (nomatch hb)
  | some b =>
    refine passes_bind (h b) fun c hP => passes_ret fun b' hb' => ?_
    rwa [← Option.some.inj hb']

/-- Without `--apply` the transaction only prints. -/
theorem passes_exec {d : D} {u cmd : String} {cs : List C} {apply clock : Bool} (h : apply = true → φ) :
    Passes host φ (fun _ => True) (onDevice d (exec es u cmd cs apply clock)) := by
  by_cases happly : apply = false
  · unfold exec
    rw [if_pos happly]
    exact passes_onDevice (by simp [call])
  · exact passes_allowed (h (by simpa using happly)) _

/-! ### The commands that write -/

variable {program : String} {args : List String}

private theorem passes_tune (hprogram : isOption program = false) :
    Passes host
      (¬ Refused host "tune" (options tuneValues args) ∧ Given "--apply" (options tuneValues args)) (fun _ => True)
      (tune es debug (program :: "tune" :: args)) := by
  refine passes_bind passes_lifted fun _ hflags => passes_bind passes_lifted fun u hu => ?_
  refine passes_bind passes_lifted fun h hh => passes_bind passes_lifted fun c hc => ?_
  refine passes_bind passes_lifted fun w hw => passes_ite (fun _ => passes_throw) fun _ => ?_
  refine passes_bind (passes_byU es u) fun d hd => passes_bind (passes_cmp es debug d) fun _ hid => ?_
  refine passes_bind (passes_pushed fun x => passes_po es d .hbm x _) fun hbm hhbm => ?_
  refine passes_bind (passes_pushed fun x => passes_po es d .core x _) fun core hcore => ?_
  refine passes_bind (passes_pushed fun x => passes_pp es d x) fun power hpower => ?_
  refine passes_exec es fun happly => ?_
  obtain ⟨rfl, hnul⟩ := hd
  have hval := val_of_req hu
  have hall : ∀ f ∈ tuneValues, ∃ r, val (program :: "tune" :: args) f = .ok r := by
    intro f hf
    simp only [tuneValues, List.mem_cons, List.not_mem_nil, or_false] at hf
    rcases hf with rfl | rfl | rfl | rfl
    · exact ⟨_, hval⟩
    · exact (val_of_parsed hh).imp fun _ => And.left
    · exact (val_of_parsed hc).imp fun _ => And.left
    · exact (val_of_parsed hw).imp fun _ => And.left
  have hknown := understood hprogram (by decide) (by decide) hflags hall
  have huuid : ∀ {v}, ("--uuid", some v) ∈ options tuneValues args → v = u := by
    intro v hv
    exact (Option.some.inj (hknown.given _ (by decide) _ hval v hv)).symm
  -- an offset that is given has been parsed and compared
  have hoffset : ∀ {k f v}, offsetOption k = some f → (f, some v) ∈ options tuneValues args →
      ∃ x, pi v f = .ok x ∧
        (¬ Given "--allow-out-of-range" (options tuneValues args) → Within x (host.range (host.uuids u) k)) := by
    intro k f v hf hv
    have hbypass : ¬ Given "--allow-out-of-range" (options tuneValues args) →
        flag (program :: "tune" :: args) "--allow-out-of-range" = false := by
      intro hnone
      by_contra hflag
      exact hnone ((hknown.flag _ (by decide)).1 (by simpa using hflag))
    cases k with
    | power => cases hf
    | hbm =>
      cases hf
      obtain ⟨x, hx, hsome⟩ := hknown.parsed (by decide) hh hv
      exact ⟨x, hx, fun hnone => hhbm x hsome (hbypass hnone)⟩
    | core =>
      cases hf
      obtain ⟨x, hx, hsome⟩ := hknown.parsed (by decide) hc hv
      exact ⟨x, hx, fun hnone => hcore x hsome (hbypass hnone)⟩
  have hwatts : ∀ {v}, ("--watts", some v) ∈ options tuneValues args →
      ∃ x, pw v = .ok x ∧ Within x (host.constraints (host.uuids u)) := by
    intro v hv
    obtain ⟨x, hx, hsome⟩ := hknown.parsed (by decide) hw hv
    exact ⟨x, hx, hpower x hsome⟩
  refine ⟨fun hrefused => ?_, (hknown.flag _ (by decide)).1 happly⟩
  cases hrefused with
  | malformed h => exact h hknown.wellFormed
  | uuid hgiven h => exact hnul (huuid hgiven ▸ h)
  | name hgiven h => exact hknown.unknown (by decide) (by decide) _ hgiven
  | offset hf hgiven h =>
    obtain ⟨x, hx, -⟩ := hoffset hf hgiven
    rw [hx] at h
    cases h
  | watts hgiven h =>
    obtain ⟨x, hx, -⟩ := hwatts hgiven
    rw [hx] at h
    cases h
  | identity hgiven h => exact h (huuid hgiven ▸ hid)
  | platform hc => exact absurd hc (by decide)
  | range hc hgiven hf hv hx h hallow =>
    obtain ⟨x, hx', hwithin⟩ := hoffset hf hv
    rw [hx] at hx'
    cases hx'
    exact h (huuid hgiven ▸ hwithin hallow)
  | power hc hgiven hv hx h =>
    obtain ⟨x, hx', hwithin⟩ := hwatts hv
    rw [hx] at hx'
    cases hx'
    exact h (huuid hgiven ▸ hwithin)
  | default hc => exact absurd hc (by decide)

private theorem val_of_required {a : List String} {f e v : String} (h : (val a f).bind (required e) = .ok v) :
    val a f = .ok (some v) := by
  cases hval : val a f with
  | error e' =>
    rw [hval] at h
    cases h
  | ok r =>
    rw [hval] at h
    cases r with
    | none => cases h
    | some v' =>
      cases h
      rfl

private theorem passes_profile (hprogram : isOption program = false) :
    Passes host
      (¬ Refused host "profile" (options profileValues args) ∧ Given "--apply" (options profileValues args))
      (fun _ => True) (profile es debug (program :: "profile" :: args)) := by
  refine passes_bind passes_lifted fun _ hflags => passes_bind passes_lifted fun u hu => ?_
  refine passes_bind passes_lifted fun n hn => passes_ite (fun _ => passes_throw) fun hname => ?_
  refine passes_bind (passes_byU es u) fun d hd => ?_
  refine passes_bind (passes_profilePlatform es debug d _) fun _ hplatform => ?_
  refine passes_bind (passes_current es d .hbm) fun old _ => ?_
  refine passes_exec es fun happly => ?_
  obtain ⟨rfl, hnul⟩ := hd
  obtain ⟨hid, htested⟩ := hplatform
  have hval := val_of_req hu
  have hall : ∀ f ∈ profileValues, ∃ r, val (program :: "profile" :: args) f = .ok r := by
    intro f hf
    simp only [profileValues, List.mem_cons, List.not_mem_nil, or_false] at hf
    rcases hf with rfl | rfl
    · exact ⟨_, hval⟩
    · exact ⟨_, val_of_required hn⟩
  have hknown := understood hprogram (by decide) (by decide) hflags hall
  have huuid : ∀ {v}, ("--uuid", some v) ∈ options profileValues args → v = u := by
    intro v hv
    exact (Option.some.inj (hknown.given _ (by decide) _ hval v hv)).symm
  refine ⟨fun hrefused => ?_, (hknown.flag _ (by decide)).1 happly⟩
  cases hrefused with
  | malformed h => exact h hknown.wellFormed
  | uuid hgiven h => exact hnul (huuid hgiven ▸ h)
  | name hgiven h =>
    have hsame := hknown.given _ (by decide) _ (val_of_required hn) _ hgiven
    exact hname (Option.some.inj hsame ▸ h)
  | @offset k f v e hf hgiven h =>
    cases k with
    | power => cases hf
    | hbm =>
      cases hf
      exact hknown.unknown (by decide) (by decide) _ hgiven
    | core =>
      cases hf
      exact hknown.unknown (by decide) (by decide) _ hgiven
  | watts hgiven h => exact hknown.unknown (by decide) (by decide) _ hgiven
  | identity hgiven h => exact h (huuid hgiven ▸ hid)
  | platform hc hgiven h hallow =>
    rw [huuid hgiven] at h
    by_cases hflag : flag (program :: "profile" :: args) "--allow-untested" = true
    · exact hallow ((hknown.flag _ (by decide)).1 hflag)
    · exact h (htested (by simpa using hflag))
  | range hc => exact absurd hc (by decide)
  | power hc => exact absurd hc (by decide)
  | default hc => exact absurd hc (by decide)

private theorem passes_reset (hprogram : isOption program = false) :
    Passes host
      (¬ Refused host "reset" (options resetValues args) ∧ Given "--apply" (options resetValues args))
      (fun _ => True) (reset es debug (program :: "reset" :: args)) := by
  refine passes_bind passes_lifted fun _ hflags => passes_bind passes_lifted fun u hu => ?_
  refine passes_ite (fun _ => passes_throw) fun _ => ?_
  refine passes_bind (passes_byU es u) fun d hd => passes_bind (passes_cmp es debug d) fun _ hid => ?_
  have hcleared : ∀ k, Passes host (¬ Refused host "reset" (options resetValues args) ∧
      Given "--apply" (options resetValues args)) (fun _ => True) (cleared es d k) := by
    intro k
    exact passes_bind (passes_current es d k) fun _ _ => passes_ret trivial
  refine passes_bind (passes_pushed hcleared) fun hbm _ => passes_bind (passes_pushed hcleared) fun core _ => ?_
  refine passes_bind (passes_pushed fun _ => passes_defaulted es d) fun power hpower => ?_
  refine passes_exec es fun happly => ?_
  obtain ⟨rfl, hnul⟩ := hd
  have hval := val_of_req hu
  have hall : ∀ f ∈ resetValues, ∃ r, val (program :: "reset" :: args) f = .ok r := by
    intro f hf
    rw [List.mem_singleton.1 hf]
    exact ⟨_, hval⟩
  have hknown := understood hprogram (by decide) (by decide) hflags hall
  have huuid : ∀ {v}, ("--uuid", some v) ∈ options resetValues args → v = u := by
    intro v hv
    exact (Option.some.inj (hknown.given _ (by decide) _ hval v hv)).symm
  refine ⟨fun hrefused => ?_, (hknown.flag _ (by decide)).1 happly⟩
  cases hrefused with
  | malformed h => exact h hknown.wellFormed
  | uuid hgiven h => exact hnul (huuid hgiven ▸ h)
  | name hgiven h => exact hknown.unknown (by decide) (by decide) _ hgiven
  | @offset k f v e hf hgiven h =>
    cases k with
    | power => cases hf
    | hbm =>
      cases hf
      exact hknown.unknown (by decide) (by decide) _ hgiven
    | core =>
      cases hf
      exact hknown.unknown (by decide) (by decide) _ hgiven
  | watts hgiven h => exact hknown.unknown (by decide) (by decide) _ hgiven
  | identity hgiven h => exact h (huuid hgiven ▸ hid)
  | platform hc => exact absurd hc (by decide)
  | range hc => exact absurd hc (by decide)
  | power hc => exact absurd hc (by decide)
  | default hc hgiven hp h =>
    rw [huuid hgiven] at h
    have hflag := (hknown.flag "--power" (by decide)).2 hp
    exact h (hpower () (if_pos hflag))

/-! ### The reports -/

private theorem passes_reading {g : Getter} {what : String} : Passes host φ (fun _ => True) (read es g what) :=
  passes_read es fun _ _ => trivial

private theorem passes_reporting {n : Nat} {body : D → Command Unit}
    (h : ∀ d, Passes host φ (fun _ => True) (body d)) : Passes host φ (fun _ => True) (reporting es n body) := by
  refine passes_bind (passes_forEach (fun i => ?_) _) fun _ _ => passes_request fun hwrites => hwrites
  exact passes_bind (passes_reading es) fun d _ => h d

private theorem passes_query {d : D} {function : String} {arguments : List Int} :
    Passes host φ (fun _ => True) (query d function arguments) :=
  passes_bind (passes_request fun hwrites => hwrites) fun _ _ => passes_ret trivial

private theorem passes_readArray {d : D} {function : String} {arguments : List Int} {capacity : Int → Option Int}
    {n : Int}
    (attempts : List Nat) : Passes host φ (fun _ => True) (readArray d function arguments capacity n attempts) := by
  induction attempts generalizing n with
  | nil => exact passes_ret trivial
  | cons attempt attempts ih =>
    unfold readArray
    cases capacity n with
    | none => exact passes_ret trivial
    | some cap =>
      refine passes_bind passes_query fun answer _ => ?_
      refine passes_ite (fun _ => passes_ret trivial) fun _ => ?_
      exact passes_ite (fun _ => ih) fun _ => passes_ret trivial

private theorem passes_list {n : Nat} : Passes host φ (fun _ => True) (list es n) := by
  refine passes_bind (passes_reading es) fun _ _ => passes_reporting es fun d => ?_
  refine passes_bind (passes_reading es) fun _ _ => passes_bind (passes_reading es) fun _ _ => ?_
  exact passes_bind (passes_reading es) fun _ _ => passes_bind (passes_reading es) fun _ _ => passes_ret trivial

private theorem passes_readAll {d : D} {calls : List (String × List Int × String)} :
    Passes host φ (fun _ => True) (readAll es d calls) :=
  passes_forEach (fun _ => passes_bind (passes_reading es) fun _ _ => passes_ret trivial) _

private theorem passes_telemetry {n : Nat} : Passes host φ (fun _ => True) (telemetry es n) := by
  refine passes_reporting es fun d => passes_bind (passes_readAll es) fun _ _ => ?_
  refine passes_bind (passes_reading es) fun _ _ => passes_ite (fun _ => passes_throw) fun _ => ?_
  refine passes_bind (passes_readAll es) fun _ _ => passes_bind (passes_reading es) fun _ _ => ?_
  exact passes_bind (passes_reading es) fun _ _ => passes_ret trivial

private theorem passes_fields {n : Nat} : Passes host φ (fun _ => True) (fields es n) := by
  refine passes_reporting es fun d => passes_bind (passes_reading es) fun _ _ => ?_
  exact passes_forEach (fun _ => passes_bind passes_query fun _ _ => passes_ret trivial) _

private theorem passes_sampleStreams {n : Nat} : Passes host φ (fun _ => True) (sampleStreams es n) := by
  refine passes_reporting es fun d => passes_bind (passes_forEach (fun t => ?_) _) fun _ _ => ?_
  · refine passes_bind passes_query fun _ _ => ?_
    exact passes_ite (fun _ => passes_ret trivial) fun _ => passes_readArray _
  · exact passes_bind (passes_reading es) fun _ _ => passes_ret trivial

private theorem passes_processes {n : Nat} : Passes host φ (fun _ => True) (processes es n) := by
  have hprocs : ∀ d function, Passes host φ (fun _ => True) (procs d function) := by
    intro d function
    refine passes_bind passes_query fun _ _ => ?_
    exact passes_ite (fun _ => passes_ret trivial) fun _ => passes_readArray _
  refine passes_reporting es fun d => passes_bind (passes_reading es) fun _ _ => ?_
  exact passes_bind (hprocs _ _) fun _ _ => hprocs _ _

end

/-! ### The program -/

/-- The options behind the command of an argument list. -/
def optionsOf (args : List String) : List (String × Option String) :=
  options (valueOptions (args.headD "")) args.tail

/-- The command of the argument list may write. -/
def Allowed (host : Host) (args : List String) : Prop :=
  ¬ Refused host (args.headD "") (optionsOf args) ∧ Given "--apply" (optionsOf args)

section

variable {host : Host} (es : Int → String) (debug : String → String) {program : String} {args : List String}

private theorem head_tail_of {c : String} (h : args.head?.getD "" = c) (hne : c ≠ "") : ∃ rest, args = c :: rest := by
  cases args with
  | nil => exact absurd h.symm hne
  | cons x rest =>
    have hx : x = c := h
    exact ⟨rest, by rw [hx]⟩

private theorem passes_run (hprogram : isOption program = false) :
    Passes host (Allowed host args) (fun _ => True) (run es debug program args) := by
  refine passes_bind (passes_reading es) fun n _ => ?_
  split
  · exact passes_bind passes_lifted fun _ _ => passes_list es
  · exact passes_bind passes_lifted fun _ _ => passes_telemetry es
  · exact passes_bind passes_lifted fun _ _ => passes_telemetry es
  · exact passes_bind passes_lifted fun _ _ => passes_fields es
  · exact passes_bind passes_lifted fun _ _ => passes_sampleStreams es
  · exact passes_bind passes_lifted fun _ _ => passes_processes es
  · next hc =>
    obtain ⟨rest, rfl⟩ := head_tail_of hc (by decide)
    exact passes_profile es debug hprogram
  · next hc =>
    obtain ⟨rest, rfl⟩ := head_tail_of hc (by decide)
    exact passes_tune es debug hprogram
  · next hc =>
    obtain ⟨rest, rfl⟩ := head_tail_of hc (by decide)
    exact passes_reset es debug hprogram
  · exact passes_bind (passes_request fun hwrites => hwrites) fun _ _ => passes_throw

private theorem passes_main (hprogram : isOption program = false) :
    Passes host (Allowed host args) (fun _ => True) (main es debug program args) := by
  have hquiet : ∀ o : Request, ¬ o.Writes → Passes host (Allowed host args) (fun _ => True)
      (Prog.request o : Command o.Answer) := fun _ h => passes_request h
  have hchecked : ∀ {r what}, Passes host (Allowed host args) (fun _ => True)
      ((checked es r what).attempt : Command (Except String Unit)) :=
    fun {r what} => passes_attempt fun w => (passes_checked es w).imp (fun _ _ _ => trivial) fun _ _ hx => hx
  refine passes_bind (hquiet .init fun h => h) fun init _ => passes_bind hchecked fun started _ => ?_
  cases started with
  | error e => exact passes_bind (hquiet (.eprintln _) fun h => h) fun _ _ => passes_ret trivial
  | ok _ =>
    refine passes_bind (passes_attempt (passes_run es debug hprogram)) fun r _ => ?_
    refine passes_bind (hquiet .shutdown fun h => h) fun shut _ => ?_
    cases r with
    | error e =>
      refine passes_bind (hquiet (.eprintln _) fun h => h) fun _ _ => ?_
      refine passes_bind (Q := fun _ => True) (passes_ite (fun _ => hquiet (.eprintln _) fun h => h) fun _ => ?_) ?_
      · exact passes_ret trivial
      · exact fun _ _ => passes_ret trivial
    | ok _ =>
      refine passes_bind hchecked fun stopped _ => ?_
      cases stopped with
      | ok _ => exact passes_ret trivial
      | error e => exact passes_bind (hquiet (.eprintln _) fun h => h) fun _ _ => passes_ret trivial

/-- No run of the tool calls a setter, whatever the driver answers, if one of the reasons against it applies or
`--apply` is none of the options. -/
theorem no_setter_unless_allowed (host : Host) (hprogram : isOption program = false)
    (hreason : Refused host (args.headD "") (optionsOf args) ∨ ¬ Given "--apply" (optionsOf args))
    {w w' : D → Device} {p : Command Nat} (hrun : Prog.Steps (nvml host) (main es debug program args, w) (p, w')) :
    ¬ CallsSetter p := by
  rintro ⟨o, k, rfl, hwrites⟩
  have hend := (passes_main es debug hprogram w).steps hrun
  have hallowed : Allowed host args := by
    cases o with
    | setting d o =>
      cases o with
      | set c v =>
        have hanswer : nvml host w' (.setting d (.set c v)) (0 : Int) w' := ⟨fun _ _ => rfl, fun _ _ => rfl⟩
        exact (hend _ _ hanswer).1 trivial
      | _ => exact hwrites.elim
    | _ => exact hwrites.elim
  rcases hreason with hrefused | hdry
  · exact hallowed.1 hrefused
  · exact hdry hallowed.2

end

/-! ### A power limit outside its constraints -/

/-- A driver that answers every call with `OK`. -/
def obliging (host : Host) (w : D → Device) : (o : Request) → Option (o.Answer × (D → Device))
  | .init | .shutdown => some (ok, w)
  | .report | .eprintln _ => some ((), w)
  | .get .count => some ((ok, 1), w)
  | .get .driver => some ((ok, host.driver), w)
  | .get (.byIndex i) => some ((ok, i), w)
  | .get (.byUuid u) => some ((ok, host.uuids u), w)
  | .get (.name d) => some ((ok, host.names d), w)
  | .get (.uuid _) => some ((ok, "GPU-0"), w)
  | .get (.vbios d) => some ((ok, host.vbios d), w)
  | .get (.capability d) => some ((ok, host.capability d), w)
  | .get (.range d k) => some ((ok, host.range d k), w)
  | .get (.constraints d) => some ((ok, host.constraints d), w)
  | .get (.defaultLimit d) => some ((ok, host.defaultLimit d), w)
  | .get (.query _ _ _) => some ((ok, [0]), w)
  | .setting d (.set k v) => some (ok, fun d' k' => if d' = d ∧ k' = k then v else w d' k')
  | .setting d (.get k) => some ((ok, w d k), w)
  | .setting _ .getClockInfo => some ((ok, hbmClock), w)
  | .setting _ (.sleep _) => some ((), w)
  | .setting _ (.println _) => some ((), w)

private theorem nvml_obliging (host : Host) (w : D → Device) (o : Request) (r : o.Answer) (w' : D → Device)
    (h : obliging host w o = some (r, w')) : nvml host w o r w' := by
  cases o with
  | setting d o =>
    cases o with
    | set k v =>
      cases h
      exact ⟨fun k' hk' => if_neg fun hsame => hk' hsame.2,
        fun d' hd' => funext fun k' => if_neg fun hsame => hd' hsame.1⟩
    | get k =>
      cases h
      exact ⟨⟨rfl, fun _ => rfl⟩, fun _ _ => rfl⟩
    | _ =>
      cases h
      exact ⟨rfl, fun _ _ => rfl⟩
  | get g =>
    cases g <;> cases h <;> exact ⟨rfl, fun _ => by simp [Host.Reports]⟩
  | _ =>
    cases h
    rfl

def mining : Host where
  driver := PROFILE_DRIVER
  uuids _ := 0
  names _ := CMP_NAME
  vbios _ := PROFILE_VBIOS
  capability _ := (7, 0)
  range _ _ := (0, 138)
  constraints _ := (100000, 250000)
  defaultLimit _ := 250000

def overPowered : List String := ["tune", "--uuid", "GPU-0", "--watts", "300", "--apply"]

theorem no_setter_unless_allowed_power :
    ¬ CallsSetter ((main (fun _ => "") (fun n => n) "tool" overPowered).run (obliging mining) fun _ _ => 0).1 := by
  have hopts : optionsOf overPowered = [("--uuid", some "GPU-0"), ("--watts", some "300"), ("--apply", none)] := by
    decide
  have hrefused : Refused mining (overPowered.headD "") (optionsOf overPowered) := by
    have hparsed : parseU64 "300" = some 300 := by decide
    have hwatts : pw "300" = .ok 300000 := by simp [pw, hparsed]
    rw [hopts]
    refine .power (u := "GPU-0") rfl (by decide) (by decide) hwatts ?_
    unfold Within mining
    decide
  exact no_setter_unless_allowed (fun _ => "") (fun n => n) mining (by decide) (.inl hrefused)
    (Prog.steps_run (nvml_obliging mining) (main (fun _ => "") (fun n => n) "tool" overPowered) fun _ _ => 0)

end CmpUnlocker.Clock
