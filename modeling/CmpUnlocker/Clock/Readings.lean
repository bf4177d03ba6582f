import CmpUnlocker.Clock.Commands

/-!
# The readings of the arguments

`flags` scans the arguments by position, `val` and `flag` look at every token of the vector wherever it stands.  They
accept the arguments together exactly if these read as value options, each with a token that is no option, and boolean
options, no value option twice (`parses_iff`); then they agree on what that reading says.  `tuneArguments`,
`profileArguments` and `resetArguments` are what `tune`, `profile` and `reset` do before they turn to the device
(`tune_eq`, `profile_eq`, `reset_eq`).
-/

namespace CmpUnlocker.Clock

section

variable {values bools args a : List String} {opts : List (String × Option String)} {f : String} {r r' : Option String}

/-- The tokens of an option: its name, and its value if it has one. -/
def tokens (o : String × Option String) : List String := o.1 :: o.2.toList

/-- The tokens read as these options: value options with a token that is no option, and boolean options, no value
option twice. -/
structure Reads (values bools args : List String) (opts : List (String × Option String)) : Prop where
  concat : args = opts.flatMap tokens
  each : ∀ o ∈ opts, (o.1 ∈ values ∧ ∃ v, o.2 = some v ∧ isOption v = false) ∨ o.1 ∈ bools ∧ o.2 = none
  once : ∀ f ∈ values, (opts.map Prod.fst).count f ≤ 1

/-- `flags` and every `val` succeed. -/
def Parses (a values bools : List String) : Prop := flags a values bools = .ok () ∧ ∀ f ∈ values, ∃ r, val a f = .ok r

/-! ### The two scanners -/

private theorem Accepted.concat (h : Accepted values bools args opts) : args = opts.flatMap tokens := by
  induction h with
  | nil => rfl
  | bool hnot hx h ih => simp [tokens, ← ih]
  | value hx hv h ih => simp [tokens, ← ih]

theorem Accepted.each (h : Accepted values bools args opts) :
    ∀ o ∈ opts, (o.1 ∈ values ∧ ∃ v, o.2 = some v ∧ isOption v = false) ∨ o.1 ∈ bools ∧ o.2 = none := by
  induction h with
  | nil => simp
  | bool hnot hx h ih =>
    intro o ho
    rcases List.mem_cons.1 ho with rfl | ho
    · exact .inr ⟨hx, rfl⟩
    · exact ih o ho
  | value hx hv h ih =>
    intro o ho
    rcases List.mem_cons.1 ho with rfl | ho
    · exact .inl ⟨hx, _, rfl, hv⟩
    · exact ih o ho

/-- Where no option is both, a reading is what the scanners accept. -/
theorem Reads.accepted (hdisjoint : ∀ x ∈ bools, x ∉ values) (h : Reads values bools args opts) :
    Accepted values bools args opts := by
  obtain ⟨rfl, heach, honce⟩ := h
  clear honce
  induction opts with
  | nil => exact .nil
  | cons o opts ih =>
    have hrest := ih fun o' ho' => heach o' (List.mem_cons_of_mem _ ho')
    obtain ⟨x, value⟩ := o
    rcases heach _ List.mem_cons_self with ⟨hx, v, hvalue, hv⟩ | ⟨hx, hvalue⟩
    · obtain rfl : value = some v := hvalue
      exact .value hx hv hrest
    · obtain rfl : value = none := hvalue
      exact .bool (hdisjoint x hx) hx hrest

theorem Accepted.flags (h : Accepted values bools args opts) : flagsFrom values bools false args = .ok () := by
  induction h with
  | nil => rfl
  | bool hnot hx h ih =>
    rw [flagsFrom, if_neg (by decide), if_neg hnot, if_neg (by simpa using hx), ih]
  | value hx hv h ih =>
    rw [flagsFrom, if_neg (by decide), if_pos hx, flagsFrom, if_pos rfl, ih]

/-- `val` does not fail where its option stands at most once, that found so far included. -/
theorem Accepted.val_ok (h : Accepted values bools args opts) (hoption : ∀ f ∈ values, isOption f = true)
    (hf : f ∈ values) (honce : r.toList.length + (opts.map Prod.fst).count f ≤ 1) :
    ∃ r', valFrom f r args = .ok r' := by
  induction h generalizing r with
  | nil => exact ⟨r, rfl⟩
  | @bool x rest opts hnot hx h ih =>
    have hne : x ≠ f := by
      rintro rfl
      exact hnot hf
    rw [valFrom_other hne]
    refine ih ?_
    simpa [hne] using honce
  | @value x v rest opts hx hv h ih =>
    have hvf := ne_of_isOption hv (hoption f hf)
    by_cases hxf : x = f
    · subst hxf
      rw [List.map_cons, List.count_cons_self] at honce
      have hnone : r = none := by
        cases r with
        | none => rfl
        | some w =>
          simp only [Option.toList_some, List.length_singleton] at honce
          omega
      subst hnone
      have hfound : valFrom x none (x :: v :: rest) = valFrom x (some v) (v :: rest) := by
        rw [valFrom, if_pos rfl]
        simp [hv]
      rw [hfound, valFrom_other hvf]
      refine ih ?_
      simp only [Option.toList_none, Option.toList_some, List.length_nil, List.length_singleton] at honce ⊢
      omega
    · rw [valFrom_other hxf, valFrom_other hvf]
      refine ih ?_
      simpa [hxf] using honce

/-- The first two elements of the vector, if it has them, are not looked at. -/
theorem val_drop (hfront : ∀ x ∈ a.take 2, isOption x = false) (hf : isOption f = true) :
    val a f = valFrom f none (a.drop 2) := by
  match a, hfront with
  | [], _ => rfl
  | [program], hfront =>
    exact valFrom_other (ne_of_isOption (hfront program (by simp)) hf)
  | program :: command :: args, hfront =>
    exact val_behind (hfront program (by simp)) (hfront command (by simp)) hf

private theorem flag_drop (hfront : ∀ x ∈ a.take 2, isOption x = false) (hf : isOption f = true) :
    flag a f = true ↔ f ∈ a.drop 2 := by
  match a, hfront with
  | [], _ => simp [flag]
  | [program], hfront =>
    have hne := ne_of_isOption (hfront program (by simp)) hf
    simp [flag, hne]
  | program :: command :: args, hfront =>
    exact flag_behind (hfront program (by simp)) (hfront command (by simp)) hf

/-- The scanners accept the arguments exactly if these have a reading. -/
theorem parses_iff (hfront : ∀ x ∈ a.take 2, isOption x = false) (hoption : ∀ f ∈ values, isOption f = true)
    (hdisjoint : ∀ x ∈ bools, x ∉ values) :
    Parses a values bools ↔ ∃ opts, Reads values bools (a.drop 2) opts := by
  constructor
  · rintro ⟨hflags, hval⟩
    have hargs : ∀ f ∈ values, ∃ r, valFrom f none (a.drop 2) = .ok r := by
      intro f hf
      obtain ⟨r, hr⟩ := hval f hf
      exact ⟨r, (val_drop hfront (hoption f hf)).symm.trans hr⟩
    have h := accepted hoption hflags fun f hf => ⟨none, hargs f hf⟩
    exact ⟨_, h.concat, h.each, (h.wellFormed hoption hargs).once⟩
  · rintro ⟨opts, hreads⟩
    have h := hreads.accepted hdisjoint
    refine ⟨h.flags, fun f hf => ?_⟩
    rw [val_drop hfront (hoption f hf)]
    exact h.val_ok hoption hf (by simpa using hreads.once f hf)

/-- On a reading, `val` returns the tokens paired with the options. -/
theorem Reads.val_iff (h : Reads values bools (a.drop 2) opts) (hfront : ∀ x ∈ a.take 2, isOption x = false)
    (hoption : ∀ f ∈ values, isOption f = true) (hdisjoint : ∀ x ∈ bools, x ∉ values) (hf : f ∈ values) {v : String} :
    val a f = .ok (some v) ↔ (f, some v) ∈ opts := by
  have hacc := h.accepted hdisjoint
  rw [val_drop hfront (hoption f hf)]
  constructor
  · intro hr
    obtain ⟨hlist, -⟩ := hacc.val hoption hf hr
    have hmem : v ∈ supplied f opts := by
      rw [Option.toList_none, List.nil_append] at hlist
      simp [← hlist]
    obtain ⟨o, ho, hsome⟩ := List.mem_filterMap.1 hmem
    by_cases hname : o.1 = f
    · rw [if_pos hname] at hsome
      rw [← hname, ← hsome]
      exact ho
    · rw [if_neg hname] at hsome
      cases hsome
  · intro hmem
    have honce : (none : Option String).toList.length + (opts.map Prod.fst).count f ≤ 1 := by
      simpa using h.once f hf
    obtain ⟨r, hr⟩ := hacc.val_ok hoption hf honce
    rw [hr, hacc.given hoption hf hr hmem]

/-- On a reading, `flag` tells the boolean options that occur. -/
theorem Reads.flag_iff (h : Reads values bools (a.drop 2) opts) (hfront : ∀ x ∈ a.take 2, isOption x = false)
    (hdisjoint : ∀ x ∈ bools, x ∉ values) (hf : f ∈ bools) (hisOption : isOption f = true) :
    flag a f = true ↔ (f, none) ∈ opts := by
  rw [flag_drop hfront hisOption, (h.accepted hdisjoint).flag_iff hisOption]
  unfold Given
  constructor
  · intro hmem
    obtain ⟨o, ho, rfl⟩ := List.mem_map.1 hmem
    rcases h.each o ho with ⟨hvalue, -⟩ | ⟨-, hnone⟩
    · exact absurd hvalue (hdisjoint _ hf)
    · rw [← hnone]
      exact ho
  · intro hmem
    exact List.mem_map.2 ⟨_, hmem, rfl⟩

/-! ### The commands -/

/-- What `tune` has read off its arguments when it turns to the device. -/
structure Tuning where
  uuid : String
  hbm : Option Int
  core : Option Int
  watts : Option Int
  allowOutOfRange : Bool
  apply : Bool

def tuneArguments (a : List String) : Except String Tuning := do
  flags a tuneValues tuneBools
  let uuid ← req a
  let hbm ← parsed a "--hbm-offset" (pi · "--hbm-offset")
  let core ← parsed a "--core-offset" (pi · "--core-offset")
  let watts ← parsed a "--watts" pw
  if hbm.isNone ∧ core.isNone ∧ watts.isNone then .error "tune requires --hbm-offset, --core-offset, or --watts"
  else return { uuid, hbm, core, watts, allowOutOfRange := flag a "--allow-out-of-range", apply := flag a "--apply" }

structure Profiling where
  uuid : String
  allowUntested : Bool
  apply : Bool

def profileArguments (a : List String) : Except String Profiling := do
  flags a profileValues profileBools
  let uuid ← req a
  let n ← (val a "--name").bind (required "missing --name hbm-877")
  if n ≠ "hbm-877" then .error "supported profile: hbm-877"
  else return { uuid, allowUntested := flag a "--allow-untested", apply := flag a "--apply" }

structure Resetting where
  uuid : String
  hbm : Bool
  core : Bool
  power : Bool
  apply : Bool

def resetArguments (a : List String) : Except String Resetting := do
  flags a resetValues resetBools
  let uuid ← req a
  if flag a "--hbm" = false ∧ flag a "--core" = false ∧ flag a "--power" = false then
    .error "reset requires --hbm, --core, or --power"
  else
    return { uuid, hbm := flag a "--hbm", core := flag a "--core", power := flag a "--power", apply := flag a "--apply" }

section

variable (es : Int → String) (debug : String → String)

/-- `tune` behind its arguments. -/
def tuned (x : Tuning) : Command Unit := do
  let d ← byU es x.uuid
  cmp es debug d
  let hbm ← pushed x.hbm fun v => po es d .hbm v x.allowOutOfRange
  let core ← pushed x.core fun v => po es d .core v x.allowOutOfRange
  let power ← pushed x.watts fun v => pp es d v
  onDevice d (exec es x.uuid "tune" (hbm ++ core ++ power) x.apply false)

/-- `profile` behind its arguments. -/
def profiled (x : Profiling) : Command Unit := do
  let d ← byU es x.uuid
  profilePlatform es debug d x.allowUntested
  let old ← current es d .hbm
  onDevice d (exec es x.uuid "profile:hbm-877" [{ k := .hbm, old, new := HBM_OFFSET }] x.apply true)

/-- `reset` behind its arguments. -/
def resetting (x : Resetting) : Command Unit := do
  let d ← byU es x.uuid
  cmp es debug d
  let hbm ← pushed (if x.hbm then some K.hbm else none) fun k => cleared es d k
  let core ← pushed (if x.core then some K.core else none) fun k => cleared es d k
  let power ← pushed (if x.power then some () else none) fun _ => defaulted es d
  onDevice d (exec es x.uuid "reset" (hbm ++ core ++ power) x.apply false)

theorem lift_bind {α β : Type} (x : Except String α) (g : α → Except String β) :
    lift (x >>= g) = (lift x).bind fun y => lift (g y) := by
  cases x <;> rfl

/-- Two programs that go on alike behind their first part. -/
theorem bind_congr {α β : Type} (p : Command α) {g g' : α → Command β} (h : ∀ x, g x = g' x) : p.bind g = p.bind g' :=
  congrArg p.bind (funext h)

theorem tune_eq (a : List String) : tune es debug a = (lift (tuneArguments a)).bind (tuned es debug) := by
  unfold tuneArguments
  simp only [lift_bind, Interaction.Prog.bind_assoc]
  unfold tune
  refine bind_congr _ fun _ => bind_congr _ fun u => bind_congr _ fun h => bind_congr _ fun c => bind_congr _
    fun w => ?_
  by_cases hnone : h.isNone ∧ c.isNone ∧ w.isNone
  · rw [if_pos hnone, if_pos hnone]
    rfl
  · rw [if_neg hnone, if_neg hnone]
    rfl

theorem profile_eq (a : List String) : profile es debug a = (lift (profileArguments a)).bind (profiled es debug) := by
  unfold profileArguments
  simp only [lift_bind, Interaction.Prog.bind_assoc]
  unfold profile
  refine bind_congr _ fun _ => bind_congr _ fun u => bind_congr _ fun n => ?_
  by_cases hname : n ≠ "hbm-877"
  · rw [if_pos hname, if_pos hname]
    rfl
  · rw [if_neg hname, if_neg hname]
    rfl

theorem reset_eq (a : List String) : reset es debug a = (lift (resetArguments a)).bind (resetting es debug) := by
  unfold resetArguments
  simp only [lift_bind, Interaction.Prog.bind_assoc]
  unfold reset
  refine bind_congr _ fun _ => bind_congr _ fun u => ?_
  by_cases hnone : flag a "--hbm" = false ∧ flag a "--core" = false ∧ flag a "--power" = false
  · dsimp only
    rw [if_pos hnone, if_pos hnone]
    rfl
  · dsimp only
    rw [if_neg hnone, if_neg hnone]
    rfl

end

/-- The option is supplied with a value. -/
def Supplied (a : List String) (f : String) : Prop := ∃ v, val a f = .ok (some v)

/-- The value of the option, if it has one, is one that `parse` understands. -/
def Formatted {α : Type} (a : List String) (f : String) (parse : String → Except String α) : Prop :=
  ∀ v, val a f = .ok (some v) → ∃ y, parse v = .ok y

theorem bind_eq_ok {α β : Type} {x : Except String α} {g : α → Except String β} {y : β} :
    (x >>= g) = .ok y ↔ ∃ z, x = .ok z ∧ g z = .ok y := by
  cases x with
  | error e => exact ⟨fun h => (nomatch h), fun ⟨_, h, _⟩ => (nomatch h)⟩
  | ok z => exact ⟨fun h => ⟨z, rfl, h⟩, fun ⟨_, h, hg⟩ => by cases h; exact hg⟩

private theorem req_eq_ok {u : String} : req a = .ok u ↔ val a "--uuid" = .ok (some u) := by
  refine ⟨val_of_req, fun h => ?_⟩
  unfold req
  rw [h]
  rfl

/-- `parsed` succeeds where `val` does and the value is understood; it returns nothing where none is supplied. -/
theorem parsed_eq_ok {α : Type} {parse : String → Except String α} {x : Option α} (h : parsed a f parse = .ok x) :
    (∃ r, val a f = .ok r) ∧ Formatted a f parse ∧ (x.isNone ↔ ¬Supplied a f) := by
  unfold Formatted Supplied
  obtain ⟨r, hr, hparse⟩ := val_of_parsed h
  rw [hr]
  cases r with
  | none =>
    unfold parsed at h
    rw [hr] at h
    cases h
    exact ⟨⟨_, rfl⟩, by simp, by simp⟩
  | some v =>
    obtain ⟨y, hy, rfl⟩ := hparse v rfl
    refine ⟨⟨_, rfl⟩, ?_, by simp⟩
    rintro w ⟨⟩
    exact ⟨y, hy⟩

private theorem exists_parsed {α : Type} {parse : String → Except String α} (hval : ∃ r, val a f = .ok r)
    (hformat : Formatted a f parse) : ∃ x, parsed a f parse = .ok x := by
  obtain ⟨r, hr⟩ := hval
  unfold parsed
  rw [hr]
  cases r with
  | none => exact ⟨none, rfl⟩
  | some v =>
    obtain ⟨y, hy⟩ := hformat v hr
    exact ⟨some y, by simp [Except.bind, hy, Except.map]⟩

private theorem tuneArguments_iff :
    (∃ x, tuneArguments a = .ok x) ↔ Parses a tuneValues tuneBools ∧ Supplied a "--uuid" ∧
    (Supplied a "--hbm-offset" ∨ Supplied a "--core-offset" ∨ Supplied a "--watts") ∧
    Formatted a "--hbm-offset" (pi · "--hbm-offset") ∧ Formatted a "--core-offset" (pi · "--core-offset") ∧
    Formatted a "--watts" pw := by
  unfold tuneArguments
  simp only [bind_eq_ok, req_eq_ok]
  constructor
  · rintro ⟨x, ⟨⟩, hflags, u, hu, h, hh, c, hc, w, hw, hend⟩
    obtain ⟨hvalh, hformath, hnoneh⟩ := parsed_eq_ok hh
    obtain ⟨hvalc, hformatc, hnonec⟩ := parsed_eq_ok hc
    obtain ⟨hvalw, hformatw, hnonew⟩ := parsed_eq_ok hw
    have hvals : ∀ f ∈ tuneValues, ∃ r, val a f = .ok r := by
      simp only [tuneValues, List.forall_mem_cons, List.not_mem_nil, false_imp_iff, implies_true, and_true]
      exact ⟨⟨_, hu⟩, hvalh, hvalc, hvalw⟩
    have hsome : Supplied a "--hbm-offset" ∨ Supplied a "--core-offset" ∨ Supplied a "--watts" := by
      by_cases hnone : h.isNone ∧ c.isNone ∧ w.isNone
      · rw [if_pos hnone] at hend
        cases hend
      · rw [hnoneh, hnonec, hnonew] at hnone
        grind -ring -linarith
    exact ⟨⟨hflags, hvals⟩, ⟨u, hu⟩, hsome, hformath, hformatc, hformatw⟩
  · rintro ⟨⟨hflags, hvals⟩, ⟨u, hu⟩, hsome, hformath, hformatc, hformatw⟩
    obtain ⟨h, hh⟩ := exists_parsed (hvals _ (by decide)) hformath
    obtain ⟨c, hc⟩ := exists_parsed (hvals _ (by decide)) hformatc
    obtain ⟨w, hw⟩ := exists_parsed (hvals _ (by decide)) hformatw
    have hnone : ¬(h.isNone ∧ c.isNone ∧ w.isNone) := by
      rw [(parsed_eq_ok hh).2.2, (parsed_eq_ok hc).2.2, (parsed_eq_ok hw).2.2]
      grind -ring -linarith
    exact ⟨_, (), hflags, u, hu, h, hh, c, hc, w, hw, if_neg hnone⟩

private theorem profileArguments_iff : (∃ x, profileArguments a = .ok x) ↔
    Parses a profileValues profileBools ∧ Supplied a "--uuid" ∧ val a "--name" = .ok (some "hbm-877") := by
  unfold profileArguments
  simp only [bind_eq_ok, req_eq_ok]
  constructor
  · rintro ⟨x, ⟨⟩, hflags, u, hu, n, hn, hend⟩
    by_cases hname : n ≠ "hbm-877"
    · rw [if_pos hname] at hend
      cases hend
    · obtain rfl : n = "hbm-877" := by simpa using hname
      have hval : val a "--name" = .ok (some "hbm-877") := by
        cases hval : val a "--name" with
        | error e =>
          rw [hval] at hn
          cases hn
        | ok r =>
          rw [hval] at hn
          cases r with
          | none => cases hn
          | some v =>
            cases hn
            rfl
      have hvals : ∀ f ∈ profileValues, ∃ r, val a f = .ok r := by
        simp only [profileValues, List.forall_mem_cons, List.not_mem_nil, false_imp_iff, implies_true, and_true]
        exact ⟨⟨_, hu⟩, ⟨_, hval⟩⟩
      exact ⟨⟨hflags, hvals⟩, ⟨u, hu⟩, hval⟩
  · rintro ⟨⟨hflags, -⟩, ⟨u, hu⟩, hval⟩
    have hname : ¬("hbm-877" ≠ "hbm-877") := by simp
    exact ⟨_, (), hflags, u, hu, "hbm-877", by rw [hval]; rfl, if_neg hname⟩

private theorem resetArguments_iff :
    (∃ x, resetArguments a = .ok x) ↔ Parses a resetValues resetBools ∧ Supplied a "--uuid" ∧
    (flag a "--hbm" ∨ flag a "--core" ∨ flag a "--power") := by
  unfold resetArguments
  simp only [bind_eq_ok, req_eq_ok]
  constructor
  · rintro ⟨x, ⟨⟩, hflags, u, hu, hend⟩
    by_cases hnone : flag a "--hbm" = false ∧ flag a "--core" = false ∧ flag a "--power" = false
    · rw [if_pos hnone] at hend
      cases hend
    · have hvals : ∀ f ∈ resetValues, ∃ r, val a f = .ok r := by
        simp only [resetValues, List.forall_mem_cons, List.not_mem_nil, false_imp_iff, implies_true, and_true]
        exact ⟨_, hu⟩
      exact ⟨⟨hflags, hvals⟩, ⟨u, hu⟩, by grind -ring -linarith⟩
  · rintro ⟨⟨hflags, -⟩, ⟨u, hu⟩, hsome⟩
    have hnone : ¬(flag a "--hbm" = false ∧ flag a "--core" = false ∧ flag a "--power" = false) := by
      grind -ring -linarith
    exact ⟨_, (), hflags, u, hu, if_neg hnone⟩

end

/-! ### The commands that write -/

inductive Writer
  | tune
  | profile
  | reset

namespace Writer

def values : Writer → List String
  | tune => tuneValues
  | profile => profileValues
  | reset => resetValues

def bools : Writer → List String
  | tune => tuneBools
  | profile => profileBools
  | reset => resetBools

/-- The command gets through its arguments. -/
def Succeeds (a : List String) : Writer → Prop
  | tune => ∃ x, tuneArguments a = .ok x
  | profile => ∃ x, profileArguments a = .ok x
  | reset => ∃ x, resetArguments a = .ok x

/-- The options the command requires, and the formats of its values. -/
def Demands (a : List String) : Writer → Prop
  | tune => Supplied a "--uuid" ∧ (Supplied a "--hbm-offset" ∨ Supplied a "--core-offset" ∨ Supplied a "--watts") ∧
      Formatted a "--hbm-offset" (pi · "--hbm-offset") ∧ Formatted a "--core-offset" (pi · "--core-offset") ∧
      Formatted a "--watts" pw
  | profile => Supplied a "--uuid" ∧ val a "--name" = .ok (some "hbm-877")
  | reset => Supplied a "--uuid" ∧ (flag a "--hbm" ∨ flag a "--core" ∨ flag a "--power")

variable {a : List String}

private theorem succeeds_iff (c : Writer) : c.Succeeds a ↔ Parses a c.values c.bools ∧ c.Demands a := by
  cases c with
  | tune => exact tuneArguments_iff
  | profile => exact profileArguments_iff
  | reset => exact resetArguments_iff

private theorem isOption_values (c : Writer) : ∀ f ∈ c.values, isOption f = true := by
  cases c <;> decide

private theorem isOption_bools (c : Writer) : ∀ f ∈ c.bools, isOption f = true := by
  cases c <;> decide

private theorem disjoint (c : Writer) : ∀ x ∈ c.bools, x ∉ c.values := by
  cases c <;> decide

/-- A command gets through its arguments exactly if these have a reading, up to the options it requires and the formats
of their values, and then it has what the reading says. -/
theorem arguments_iff (c : Writer) (a : List String) (hfront : ∀ x ∈ a.take 2, isOption x = false) :
    (c.Succeeds a ↔ (∃ opts, Reads c.values c.bools (a.drop 2) opts) ∧ c.Demands a) ∧
      ∀ opts, Reads c.values c.bools (a.drop 2) opts →
        (∀ f ∈ c.values, (∃ r, val a f = .ok r) ∧ ∀ v, val a f = .ok (some v) ↔ (f, some v) ∈ opts) ∧
        ∀ x ∈ c.bools, flag a x = true ↔ (x, none) ∈ opts := by
  have hparses : Parses a c.values c.bools ↔ ∃ opts, Reads c.values c.bools (a.drop 2) opts :=
    parses_iff hfront c.isOption_values c.disjoint
  refine ⟨by rw [succeeds_iff, hparses], fun opts hopts => ⟨fun f hf => ?_, fun x hx => ?_⟩⟩
  · have hval := (hparses.2 ⟨opts, hopts⟩).2 f hf
    exact ⟨hval, fun v => hopts.val_iff hfront c.isOption_values c.disjoint hf⟩
  · exact hopts.flag_iff hfront c.disjoint hx (c.isOption_bools x hx)

/-- A negative number is a value, and the option behind it an option. -/
theorem arguments_negative : tune.Succeeds ["cmp100", "tune", "--uuid", "GPU-0", "--core-offset", "-30", "--apply"] ∧
    val ["cmp100", "tune", "--uuid", "GPU-0", "--core-offset", "-30", "--apply"] "--core-offset" = .ok (some "-30") ∧
    flag ["cmp100", "tune", "--uuid", "GPU-0", "--core-offset", "-30", "--apply"] "--apply" = true := by
  obtain ⟨hsucceeds, hreading⟩ :=
    arguments_iff tune ["cmp100", "tune", "--uuid", "GPU-0", "--core-offset", "-30", "--apply"] (by decide)
  have hreads : Reads tuneValues tuneBools ["--uuid", "GPU-0", "--core-offset", "-30", "--apply"]
      [("--uuid", some "GPU-0"), ("--core-offset", some "-30"), ("--apply", none)] := by
    refine ⟨rfl, fun o ho => ?_, by decide⟩
    simp only [List.mem_cons, List.not_mem_nil, or_false] at ho
    rcases ho with rfl | rfl | rfl
    · exact .inl ⟨by decide, _, rfl, by decide⟩
    · exact .inl ⟨by decide, _, rfl, by decide⟩
    · exact .inr ⟨by decide, rfl⟩
  obtain ⟨hvals, hflags⟩ := hreading _ hreads
  have huuid := ((hvals "--uuid" (by decide)).2 "GPU-0").2 (by decide)
  have hcore := ((hvals "--core-offset" (by decide)).2 "-30").2 (by decide)
  refine ⟨hsucceeds.2 ⟨⟨_, hreads⟩, ⟨_, huuid⟩, .inr (.inl ⟨_, hcore⟩), ?_, ?_, ?_⟩, hcore,
    (hflags "--apply" (by decide)).2 (by decide)⟩
  · intro v hv
    have hmem := ((hvals "--hbm-offset" (by decide)).2 v).1 hv
    simp at hmem
  · intro v hv
    have hmem := ((hvals "--core-offset" (by decide)).2 v).1 hv
    obtain rfl : v = "-30" := by simpa using hmem
    exact ⟨-30, rfl⟩
  · intro v hv
    have hmem := ((hvals "--watts" (by decide)).2 v).1 hv
    simp at hmem

end Writer

end CmpUnlocker.Clock
