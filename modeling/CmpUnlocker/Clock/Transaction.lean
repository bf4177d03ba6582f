import CmpUnlocker.Clock.Basic

/-!
# The write transaction of the clock tool

A write that succeeds leaves its setting at the value it read back (`one_meets`), and a rollback whose text is
`rollback=ok` has read every affected setting back at its old value (`rollback_meets`).  The settings of a change
list being distinct, no later write undoes this, so `exec` either leaves every setting at its requested value or
fails with a text that ends in `rollback=ok` and every setting at its old value, or fails with another text.
-/

namespace CmpUnlocker.Clock

open Interaction

/-! ### Texts -/

/-- The text says that the rollback succeeded. -/
def SaysRolledBack (text : String) : Prop := ∃ front, text = front ++ "rollback=ok"

/-- The text ends in another character than `rollback=ok` does. -/
def EndsOther (text : String) : Prop := ∃ c, text.toList.getLast? = some c ∧ c ≠ 'k'

theorem EndsOther.append {text : String} (h : EndsOther text) (front : String) : EndsOther (front ++ text) := by
  obtain ⟨c, hc, hne⟩ := h
  refine ⟨c, ?_, hne⟩
  rw [String.toList_append, List.getLast?_append, hc]
  rfl

private theorem EndsOther.not_rolledBack {text : String} (h : EndsOther text) : ¬ SaysRolledBack text := by
  rintro ⟨front, rfl⟩
  obtain ⟨c, hc, hne⟩ := h
  rw [String.toList_append, List.getLast?_append] at hc
  have hk : "rollback=ok".toList.getLast? = some 'k' := by decide
  rw [hk] at hc
  exact hne (Option.some.inj hc).symm

private theorem endsOther_nat (n : Nat) : EndsOther n.repr := by
  have hne : Nat.toDigits 10 n ≠ [] := Nat.toDigits_ne_nil
  refine ⟨(Nat.toDigits 10 n).getLast hne, ?_, ?_⟩
  · rw [Nat.toList_repr, List.getLast?_eq_some_getLast hne]
  · intro hk
    have hdigit := Nat.isDigit_of_mem_toDigits (by decide) (by decide) (List.getLast_mem hne)
    rw [hk] at hdigit
    exact absurd hdigit (by decide)

private theorem endsOther_int (n : Int) : EndsOther (toString n) := by
  rw [Int.toString_eq_repr, Int.repr_eq_if]
  split
  · exact endsOther_nat _
  · exact (endsOther_nat _).append "-"

private theorem endsOther_intercalate {texts : List String} (h : ∀ text ∈ texts, EndsOther text) (hne : texts ≠ []) :
    EndsOther ("; ".intercalate texts) := by
  induction texts with
  | nil => exact absurd rfl hne
  | cons text rest ih =>
    by_cases hrest : rest = []
    · subst hrest
      rw [String.intercalate_singleton]
      exact h text (List.mem_cons_self ..)
    · rw [String.intercalate_cons_of_ne_nil hrest]
      exact (ih (fun t ht => h t (List.mem_cons_of_mem _ ht)) hrest).append _

/-! ### One change -/

/-- Every request of the tool is admissible. -/
def anything : Env Op Op.Answer Device := fun _ _ _ _ => True

section

variable {ε : Type} (es : Int → String)

private theorem endsOther_ck (r : Int) (what : String) :
    EndsOther (what ++ ": " ++ es r ++ " (" ++ toString r ++ ")") := by
  have hclose : EndsOther ")" := ⟨')', by decide, by decide⟩
  exact hclose.append _

private theorem ck_meets {r : Int} {what : String} {w : Device} {Q : Unit → Device → Prop} {X : String → Device → Prop}
    (hok : r = ok → Q () w) (hfail : ∀ e, EndsOther e → X e w) : (ck es r what).Meets device anything Q X w := by
  unfold ck
  refine Prog.meets_ite.2 ⟨hok, fun _ => ?_⟩
  exact hfail _ (endsOther_ck es r what)

private theorem readSetting_meets {k : K} {what : String} {w : Device} {Q : Int → Device → Prop}
    {X : String → Device → Prop} (hok : Q (w k) w) (hfail : ∀ e, EndsOther e → X e w) :
    (readSetting es k what).Meets device anything Q X w := by
  unfold readSetting
  refine Prog.meets_bind.2 fun r w' hr => ⟨trivial, ?_⟩
  obtain ⟨hw, hvalue⟩ := hr
  subst hw
  refine Prog.meets_bind.2 (ck_meets es (fun hrc => ?_) hfail)
  have hstored := hvalue hrc
  show Q r.2 w'
  rw [hstored]
  exact hok

/-- `one` changes its own setting only, and succeeds only if it read the new value back. -/
theorem one_meets (c : C) (w : Device) :
    (one es c).Meets device anything (fun _ w' => w' c.k = c.new ∧ ∀ k, k ≠ c.k → w' k = w k)
      (fun e w' => EndsOther e ∧ ∀ k, k ≠ c.k → w' k = w k) w := by
  unfold one
  refine Prog.meets_bind.2 fun r w₁ hframe => ⟨trivial, ?_⟩
  refine Prog.meets_bind.2 (ck_meets es (fun _ => ?_) fun e he => ⟨he, hframe⟩)
  refine Prog.meets_bind.2 (readSetting_meets es ?_ fun e he => ⟨he, hframe⟩)
  refine Prog.meets_ite.2 ⟨fun _ => ?_, fun hread => ?_⟩
  · exact ⟨(endsOther_int _).append _, hframe⟩
  · have hnew : w₁ c.k = c.new := by
      by_cases heq : w₁ c.k = c.new
      · exact heq
      · exact absurd heq hread
    exact ⟨hnew, hframe⟩

/-! ### Rollback -/

/-- The loop of `rollback` has restored every setting of the list, or it reports an error. -/
theorem restore_meets {cs : List C} (hdistinct : (cs.map C.k).Nodup) (w : Device) {X : ε → Device → Prop} :
    (restore es cs : Routine ε (List String)).Meets device anything
      (fun errors w' => (errors = [] → ∀ c ∈ cs, w' c.k = c.old) ∧ (∀ e ∈ errors, EndsOther e) ∧
        ∀ k, k ∉ cs.map C.k → w' k = w k) X w := by
  induction cs generalizing w with
  | nil => exact ⟨fun _ c hc => (nomatch hc), fun e he => (nomatch he), fun _ _ => rfl⟩
  | cons c cs ih =>
    obtain ⟨hfresh, hrest⟩ := List.nodup_cons.1 hdistinct
    unfold restore
    refine Prog.meets_bind.2 (Prog.meets_attempt.2 ((one_meets es { c with new := c.old } w).imp ?_ ?_))
    · intro _ w₁ h₁
      obtain ⟨hold, hframe⟩ := h₁
      refine (ih hrest w₁).imp (fun errors w₂ h₂ => ?_) fun _ _ hx => hx
      obtain ⟨hrestored, htexts, hframe₂⟩ := h₂
      refine ⟨fun hnone c' hc' => ?_, htexts, fun k hk => ?_⟩
      · rcases List.mem_cons.1 hc' with rfl | hc'
        · rw [hframe₂ _ hfresh]
          exact hold
        · exact hrestored hnone c' hc'
      · rw [List.map_cons, List.mem_cons, not_or] at hk
        rw [hframe₂ k hk.2]
        exact hframe k hk.1
    · intro e w₁ h₁
      obtain ⟨he, hframe⟩ := h₁
      refine Prog.meets_bind.2 ((ih hrest w₁).imp (fun errors w₂ h₂ => ?_) fun _ _ hx => hx)
      obtain ⟨-, htexts, hframe₂⟩ := h₂
      refine ⟨fun hnone => (nomatch hnone), fun e' he' => ?_, fun k hk => ?_⟩
      · rcases List.mem_cons.1 he' with rfl | he'
        · exact he
        · exact htexts e' he'
      · rw [List.map_cons, List.mem_cons, not_or] at hk
        rw [hframe₂ k hk.2]
        exact hframe k hk.1

/-- A rollback whose text says so has restored every setting of its list, and it touches no other. -/
theorem rollback_meets {cs : List C} (hdistinct : (cs.map C.k).Nodup) (w : Device) {X : ε → Device → Prop} :
    (rollback es cs : Routine ε String).Meets device anything
      (fun text w' => ((∀ c ∈ cs, w' c.k = c.old) ∨ EndsOther text) ∧ ∀ k, k ∉ cs.map C.k → w' k = w k) X w := by
  unfold rollback
  have hreverse : (cs.reverse.map C.k).Nodup := by
    rw [List.map_reverse]
    exact (List.reverse_perm _).nodup_iff.2 hdistinct
  refine Prog.meets_bind.2 ((restore_meets es hreverse w).imp (fun errors w' h => ?_) fun _ _ hx => hx)
  obtain ⟨hrestored, htexts, hframe⟩ := h
  have hframe' : ∀ k, k ∉ cs.map C.k → w' k = w k := by
    intro k hk
    refine hframe k ?_
    rwa [List.map_reverse, List.mem_reverse]
  refine Prog.meets_ite.2 ⟨fun hnone => ⟨.inl fun c hc => ?_, hframe'⟩, fun hsome => ⟨.inr ?_, hframe'⟩⟩
  · exact hrestored (List.isEmpty_iff.1 hnone) c (List.mem_reverse.2 hc)
  · have hne : errors ≠ [] := fun hnil => hsome (List.isEmpty_iff.2 hnil)
    exact (endsOther_intercalate htexts hne).append _

/-! ### The transaction -/

/-- The changes made are at their new values, those to come at their old ones. -/
structure Progress (done rest : List C) (w : Device) : Prop where
  distinct : ((done ++ rest).map C.k).Nodup
  done : ∀ c ∈ done, w c.k = c.new
  rest : ∀ c ∈ rest, w c.k = c.old

/-- A text may claim the rollback only if every setting is back at its old value. -/
def Undone (cs : List C) (e : String) (w : Device) : Prop := SaysRolledBack e → ∀ c ∈ cs, w c.k = c.old

private theorem undone_append {cs : List C} {front text : String} {w : Device}
    (h : (∀ c ∈ cs, w c.k = c.old) ∨ EndsOther text) : Undone cs (front ++ text) w := by
  intro hsays
  rcases h with hold | htext
  · exact hold
  · exact absurd hsays (htext.append front).not_rolledBack

private theorem ne_of_nodup {l₁ l₂ : List C} (h : ((l₁ ++ l₂).map C.k).Nodup) {c c' : C} (hc : c ∈ l₁) (hc' : c' ∈ l₂) :
    c.k ≠ c'.k := by
  rw [List.map_append] at h
  have hdisjoint := (List.nodup_append.1 h).2.2
  exact hdisjoint c.k (List.mem_map_of_mem hc) c'.k (List.mem_map_of_mem hc')

/-- The write loop makes all changes, or its text tells whether it undid those it made. -/
theorem applyAll_meets {cmd : String} {done rest : List C} {w : Device} (h : Progress done rest w) :
    (applyAll es cmd done rest).Meets device anything
      (fun all w' => all = done ++ rest ∧ Progress all [] w') (fun e w' => Undone (done ++ rest) e w') w := by
  induction rest generalizing done w with
  | nil => exact ⟨(List.append_nil done).symm, h⟩
  | cons c rest ih =>
    have hsplit : done ++ c :: rest = done ++ [c] ++ rest := by simp
    have hdistinct : ((done ++ [c] ++ rest).map C.k).Nodup := by
      rw [← hsplit]
      exact h.distinct
    have hdone : ∀ c' ∈ done, c'.k ≠ c.k := fun c' hc' => ne_of_nodup h.distinct hc' (List.mem_cons_self ..)
    have hrest : ∀ c' ∈ rest, c'.k ∉ (done ++ [c]).map C.k := by
      intro c' hc' hmem
      obtain ⟨c'', hc'', heq⟩ := List.mem_map.1 hmem
      exact ne_of_nodup hdistinct hc'' hc' heq
    unfold applyAll
    refine Prog.meets_bind.2 (Prog.meets_attempt.2 ((one_meets es c w).imp (fun _ w₁ h₁ => ?_) fun e w₁ h₁ => ?_))
    · obtain ⟨hnew, hframe⟩ := h₁
      have hprogress : Progress (done ++ [c]) rest w₁ := by
        refine ⟨hdistinct, fun c' hc' => ?_, fun c' hc' => ?_⟩
        · rcases List.mem_append.1 hc' with hc' | hc'
          · rw [hframe c'.k (hdone c' hc')]
            exact h.done c' hc'
          · rw [List.mem_singleton.1 hc']
            exact hnew
        · have hne : c'.k ≠ c.k := by
            intro heq
            exact hrest c' hc' (List.mem_map.2 ⟨c, by simp, heq.symm⟩)
          rw [hframe c'.k hne]
          exact h.rest c' (List.mem_cons_of_mem _ hc')
      rw [hsplit]
      exact ih hprogress
    · obtain ⟨-, hframe⟩ := h₁
      have hnodup : ((done ++ [c]).map C.k).Nodup := by
        rw [List.map_append] at hdistinct
        exact (List.nodup_append.1 hdistinct).1
      refine Prog.meets_bind.2 ((rollback_meets es hnodup w₁).imp (fun text w₂ h₂ => ?_) fun _ _ hx => hx)
      obtain ⟨hback, hframe₂⟩ := h₂
      refine undone_append ?_
      rcases hback with hold | htext
      · left
        intro c' hc'
        rw [hsplit] at hc'
        rcases List.mem_append.1 hc' with hc' | hc'
        · exact hold c' hc'
        · have hne : c'.k ≠ c.k := by
            intro heq
            exact hrest c' hc' (List.mem_map.2 ⟨c, by simp, heq.symm⟩)
          rw [hframe₂ c'.k (hrest c' hc'), hframe c'.k hne]
          exact h.rest c' (List.mem_cons_of_mem _ hc')
      · exact .inr htext

theorem call_meets {o : Op} (ho : ∀ w r w', device w o r w' → w' = w) {w : Device} {Q : o.Answer → Device → Prop}
    {X : ε → Device → Prop} (h : ∀ r, Q r w) : (call o : Routine ε o.Answer).Meets device anything Q X w := by
  intro r w' hr
  rw [ho w r w' hr]
  exact ⟨trivial, h r⟩

/-- Waiting for the clock changes no setting. -/
theorem waitFrom_meets (mhz : Int) (attempts : List Nat) (w : Device) :
    (waitFrom es mhz attempts).Meets device anything (fun _ w' => w' = w) (fun _ w' => w' = w) w := by
  induction attempts generalizing mhz with
  | nil => rfl
  | cons attempt attempts ih =>
    unfold waitFrom
    refine Prog.meets_bind.2 (call_meets (by exact fun _ _ _ hr => hr) fun r => ?_)
    refine Prog.meets_bind.2 (ck_meets es (fun _ => Prog.meets_ite.2 ⟨fun _ => rfl, fun _ => ?_⟩) fun _ _ => rfl)
    refine Prog.meets_bind.2 (Prog.meets_when.2 ⟨fun _ => ?_, fun _ => ih r.2⟩)
    exact call_meets (by exact fun _ _ _ hr => hr) fun _ => ih r.2

private theorem verifyClock_meets {done : List C} {w : Device} (h : Progress done [] w) :
    (verifyClock es done).Meets device anything (fun _ w' => w' = w) (fun e w' => Undone done e w') w := by
  unfold verifyClock
  have hdistinct := h.distinct
  rw [List.append_nil] at hdistinct
  refine Prog.meets_bind.2 (Prog.meets_attempt.2 ((waitFrom_meets es 0 _ w).imp (fun _ w₁ h₁ => h₁) fun e w₁ _ => ?_))
  refine Prog.meets_bind.2 ((rollback_meets es hdistinct w₁).imp (fun text w₂ h₂ => ?_) fun _ _ hx => hx)
  exact undone_append h₂.1

private theorem exec_meets {u cmd : String} {cs : List C} {apply clock : Bool} (hdistinct : (cs.map C.k).Nodup)
    {w : Device}
    (hold : ∀ c ∈ cs, w c.k = c.old) :
    (exec es u cmd cs apply clock).Meets device anything (fun _ w' => apply = true → ∀ c ∈ cs, w' c.k = c.new)
      (fun e w' => Undone cs e w') w := by
  unfold exec
  refine Prog.meets_ite.2 ⟨fun happly => ?_, fun _ => ?_⟩
  · exact call_meets (by exact fun _ _ _ hr => hr) fun _ htrue => absurd htrue (by simp [happly])
  · have hstart : Progress [] cs w := ⟨hdistinct, fun c hc => (nomatch hc), hold⟩
    refine Prog.meets_bind.2 ((applyAll_meets es hstart).imp (fun done w₁ h₁ => ?_) fun _ _ hx => hx)
    obtain ⟨hdone, hprogress⟩ := h₁
    rw [hdone, List.nil_append] at hprogress
    rw [hdone, List.nil_append]
    have hprint : ∀ text, (call (.println text) : Routine String Unit).Meets device anything
        (fun _ w' => apply = true → ∀ c ∈ cs, w' c.k = c.new) (fun e w' => Undone cs e w') w₁ :=
      fun text => call_meets (by exact fun _ _ _ hr => hr) fun _ _ => hprogress.done
    refine Prog.meets_bind.2 (Prog.meets_when.2 ⟨fun _ => ?_, fun _ => hprint _⟩)
    refine (verifyClock_meets es hprogress).imp (fun _ w₂ h₂ => ?_) fun _ _ hx => hx
    rw [h₂]
    exact hprint _

end

/-- Whatever the driver does, an applied transaction that succeeds has set every setting to its requested value, and
one that fails with a text ending in `rollback=ok` has set every setting back to its old value. -/
theorem exec_applied_or_rolled_back (es : Int → String) (u cmd : String) (cs : List C) (apply clock : Bool)
    (hdistinct : (cs.map C.k).Nodup) {w w' : Device} (hold : ∀ c ∈ cs, w c.k = c.old) {p : Routine String Unit}
    (hrun : Prog.Steps device (exec es u cmd cs apply clock, w) (p, w')) :
    (apply = true → p = .ret () → ∀ c ∈ cs, w' c.k = c.new) ∧
      ∀ e, p = .throw e → SaysRolledBack e → ∀ c ∈ cs, w' c.k = c.old := by
  have hend := (exec_meets es hdistinct hold).steps hrun
  constructor
  · intro happly hret
    subst hret
    exact hend happly
  · intro e hthrow
    subst hthrow
    exact hend

/-! ### A transaction that is rolled back -/

/-- A driver that rejects every power limit but 120 W, and stores another one when it does. -/
def strictPower (w : Device) : (o : Op) → Option (o.Answer × Device)
  | .set k v =>
    if k = .power ∧ v ≠ 120000 then some (1, fun k' => if k' = k then 90000 else w k')
    else some (ok, fun k' => if k' = k then v else w k')
  | .get k => some ((ok, w k), w)
  | .getClockInfo => some ((ok, hbmClock), w)
  | .sleep _ | .println _ => some ((), w)

private theorem device_strictPower (w : Device) (o : Op) (r : o.Answer) (w' : Device)
    (h : strictPower w o = some (r, w')) :
    device w o r w' := by
  cases o with
  | set k v =>
    intro k' hk'
    simp only [strictPower] at h
    split at h <;> cases h <;> exact if_neg hk'
  | get k =>
    cases h
    exact ⟨rfl, fun _ => rfl⟩
  | getClockInfo =>
    cases h
    rfl
  | sleep ms =>
    cases h
    rfl
  | println text =>
    cases h
    rfl

def stock : Device
  | .hbm => 0
  | .core => 0
  | .power => 120000

def tuning : List C := [{ k := .hbm, old := 0, new := 138 }, { k := .power, old := 120000, new := 200000 }]

theorem exec_applied_or_rolled_back_strictPower :
    tuning.map (fun c => ((exec (fun _ => "rejected") "GPU-0" "tune" tuning true false).run strictPower stock).2 c.k) =
      tuning.map C.old := by
  have hold : ∀ c ∈ tuning, stock c.k = c.old := by decide
  have hrun := Prog.steps_run device_strictPower (exec (fun _ => "rejected") "GPU-0" "tune" tuning true false) stock
  have h := exec_applied_or_rolled_back (fun _ => "rejected") "GPU-0" "tune" tuning true false (by decide) hold hrun
  exact List.map_congr_left (h.2 _ rfl ⟨_, rfl⟩)

end CmpUnlocker.Clock
