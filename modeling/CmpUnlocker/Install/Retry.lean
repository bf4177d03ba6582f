import CmpUnlocker.Install.Effects

/-!
# Running an installer again

A run that fails or is cut off leaves saved copies behind, and the next run takes no copies if `fecs_sig.bin` is among
them.  So a run with the stock images active completes exactly if there is no saved `fecs_sig.bin` or all three saved
files are the stock images (`completes_iff`).  Runs that copy the stock images, and are not cut off between the first
copy and the last, leave one or the other (`careful_sound`).
-/

namespace CmpUnlocker.Install

open Interaction Guest Payloads
open Shell (Content)

/-! ### The saved copies and the manifest -/

variable {sha256 : Content → String} {image : Firmware → Content} {i : Installer} {root : String} {w₀ w w' : World}

/-- The stock images are active. -/
def Active (image : Firmware → Content) (w : World) : Prop := ∀ x, w.files (.active x) = some (image x)

/-- The saved copies are the stock images. -/
def Held (image : Firmware → Content) (i : Installer) (w : World) : Prop := ∀ x, w.files (.stock i x) = some (image x)

/-- There is no saved `fecs_sig.bin`, or the three saved files are the stock images. -/
def Sound (image : Firmware → Content) (i : Installer) (w : World) : Prop :=
  w.files (.stock i .fecs) = none ∨ Held image i w

/-- The hashes of the stock images are in the manifest. -/
def Recorded (sha256 : Content → String) (image : Firmware → Content) (lines : Manifest) : Prop :=
  ∀ x, lines.lookup x.stockVariable = some (sha256 (image x))

/-- What a complete installation leaves: the saved copies are the stock images, and the manifest has their hashes. -/
structure Installed (sha256 : Content → String) (image : Firmware → Content) (i : Installer) (w : World) : Prop where
  held : Held image i w
  recorded : ∃ lines, w.manifest i = some lines ∧ Recorded sha256 image lines

private theorem stable_active : Stable (Active image) := fun _ _ h hw x => (h.active x).trans (hw x)

private theorem stable_sound : Stable (fun w => Active image w ∧ Sound image i w) := by
  rintro w w' h ⟨hactive, hsound⟩
  refine ⟨stable_active w w' h hactive, ?_⟩
  rcases hsound with hnone | hheld
  · exact .inl ((h.stock i .fecs).trans hnone)
  · exact .inr fun x => (h.stock i x).trans (hheld x)

private theorem stable_held : Stable (Held image i) := fun _ _ h hw x => (h.stock i x).trans (hw x)

private theorem stable_installed : Stable (Installed sha256 image i) := by
  intro w w' h hw
  refine ⟨stable_held w w' h hw.held, ?_⟩
  obtain ⟨lines, hlines, hrec⟩ := hw.recorded
  exact ⟨lines, by rw [h.manifest, hlines], hrec⟩

/-- A copy of a stock image that succeeds saves it. -/
theorem saveStock_meets {w : World} (hactive : Active image w) (x : Firmware)
    {Q : Unit → World → Prop}
    (hQ : ∀ w', Active image w' → w'.files (.stock i x) = some (image x) →
      (∀ y, y ≠ x → w'.files (.stock i y) = w.files (.stock i y)) → Q () w') :
    (saveStock i x).Meets (succeeding sha256) (fun _ _ _ _ => True) Q (fun _ _ => False) w := by
  intro status w' hr
  obtain ⟨⟨content, rfl, hcopy⟩, hstatus⟩ := hr
  have hzero : status = 0 := hstatus
  obtain ⟨-, hcontent⟩ := hcopy hzero
  have hsaved : content = some (image x) := hcontent (image x) (hactive x)
  refine ⟨trivial, ?_⟩
  show Prog.Meets _ _ Q _ (ensure status) _
  rw [ensure, if_pos hzero]
  apply hQ
  · intro y
    show Function.update w.files (.stock i x) content (.active y) = _
    rw [Function.update_of_ne (by simp)]
    exact hactive y
  · show Function.update w.files (.stock i x) content (.stock i x) = _
    rw [Function.update_self, hsaved]
  · intro y hy
    show Function.update w.files (.stock i x) content (.stock i y) = _
    rw [Function.update_of_ne (by simpa using hy)]

private theorem captureStock_meets {w : World} (hactive : Active image w) (hsound : Sound image i w) :
    (captureStock i).Meets (succeeding sha256) (fun _ _ _ _ => True) (fun _ w' => Held image i w') (fun _ _ => False)
      w := by
  intro saved w' hr
  obtain ⟨⟨rfl, hsaved⟩, -⟩ := hr
  refine ⟨trivial, Prog.meets_when.2 ⟨fun hnot => ?_, fun hpresent => ?_⟩⟩
  · -- nothing is saved yet: the three copies are taken one after the other
    refine Prog.meets_seq.2 (saveStock_meets hactive .fecs fun w₁ h₁ hfecs _ => ?_)
    refine Prog.meets_seq.2 (saveStock_meets h₁ .bl fun w₂ h₂ hbl hsame₂ => ?_)
    refine saveStock_meets h₂ .ucode fun w₃ _ hucode hsame₃ => ?_
    intro x
    cases x with
    | fecs => rw [hsame₃ .fecs (by decide), hsame₂ .fecs (by decide), hfecs]
    | bl => rw [hsame₃ .bl (by decide), hbl]
    | ucode => exact hucode
  · rcases hsound with hnone | hheld
    · rw [hnone] at hsaved
      exact absurd hsaved hpresent
    · exact hheld

/-- The lines of the manifest are in the order of the files, and the saved copies are there with their hashes. -/
theorem manifestLines_goes {I : World → Prop} (hI : Stable I) (hstock : ∀ w, I w → Held image i w)
    (entries : List (String × Place)) :
    Goes sha256 I (fun lines => List.Forall₂
      (fun entry line => line.1 = entry.1 ∧ ∀ x, entry.2 = .stock i x → line.2 = sha256 (image x)) entries lines)
      (manifestLines entries) := by
  induction entries with
  | nil => exact .ret .nil
  | cons entry entries ih =>
    obtain ⟨name, path⟩ := entry
    have hdigest : Goes sha256 I (fun sum => ∀ x, path = .stock i x → sum = sha256 (image x)) (digest path) := by
      apply request_goes hI (o := .digest path) trivial
      rintro w sum hw hsum x rfl
      exact hsum _ (hstock w hw x)
    apply hdigest.bind; intro sum hsum
    apply ih.bind; intro lines hlines
    exact .ret (.cons ⟨rfl, hsum⟩ hlines)

private theorem recorded_lines {lines : Manifest} (h : List.Forall₂
    (fun entry line => line.1 = entry.1 ∧ ∀ x, entry.2 = Place.stock i x → line.2 = sha256 (image x))
      (recorded i) lines) :
    Recorded sha256 image lines := by
  unfold recorded at h
  simp only [Firmware.all, List.map_cons, List.map_nil, List.cons_append, List.nil_append] at h
  obtain ⟨⟨name₁, sum₁⟩, rest₁, ⟨hname₁, hsum₁⟩, h₁, rfl⟩ := List.forall₂_cons_left_iff.1 h
  obtain ⟨⟨name₂, sum₂⟩, rest₂, ⟨hname₂, hsum₂⟩, h₂, rfl⟩ := List.forall₂_cons_left_iff.1 h₁
  obtain ⟨⟨name₃, sum₃⟩, rest₃, ⟨hname₃, hsum₃⟩, -, rfl⟩ := List.forall₂_cons_left_iff.1 h₂
  simp only at hname₁ hname₂ hname₃ hsum₁ hsum₂ hsum₃
  subst hname₁ hname₂ hname₃
  rw [hsum₁ .fecs rfl, hsum₂ .bl rfl, hsum₃ .ucode rfl]
  intro x
  cases x <;> rfl

private theorem writeManifest_meets {w : World} (hheld : Held image i w) :
    (writeManifest i).Meets (succeeding sha256) (fun _ _ _ _ => True) (fun _ w' => Installed sha256 image i w')
      (fun _ _ => False) w := by
  have hlines : Goes sha256 (Held image i) _ (manifestLines (recorded i)) :=
    manifestLines_goes stable_held (fun _ h => h) (recorded i)
  refine Prog.meets_seq.2 ((hlines w hheld).imp ?_ fun _ _ h => h)
  rintro lines w₁ ⟨hheld₁, hrec⟩
  intro status w₂ hr
  obtain ⟨⟨content, rfl, hwritten⟩, hstatus⟩ := hr
  have hzero : status = 0 := hstatus
  have hinstalled : Installed sha256 image i { w₁ with manifest := Function.update w₁.manifest i content } := by
    refine ⟨hheld₁, lines, ?_, recorded_lines hrec⟩
    show Function.update w₁.manifest i content i = some lines
    rw [Function.update_self, hwritten hzero]
  have hrest : Goes sha256 (Installed sha256 image i) (fun _ => True) (do
      ensure status
      Prog.when (i = .pcieGuest) (must ["chown", "root:root", manifestPath i])
      must ["chmod", "0600", manifestPath i]) := by
    apply Goes.bind (ensure_goes hzero); intro _ _
    apply Goes.bind (Goes.when (must_goes stable_installed _)); intro _ _
    exact must_goes stable_installed _
  exact ⟨trivial, (hrest _ hinstalled).imp (fun _ _ h => h.1) fun _ _ h => h⟩

/-! ### A run with the stock images active -/

private theorem body_meets (hpinned : Pinned sha256 image) (tmp : String) {w : World} (hactive : Active image w)
    (hsound : Sound image i w) :
    (body sha256 root tmp i).Meets (succeeding sha256) (fun _ _ _ _ => True) (fun _ w' => Installed sha256 image i w')
      (fun _ _ => False) w := by
  unfold body
  have hfiles : ∀ w : World, Active image w ∧ Sound image i w → ∀ x, (w.files (.active x)).isSome = true := by
    intro w hw x
    rw [hw.1 x]
    rfl
  refine (preflight_goes stable_sound hfiles i).seq ⟨hactive, hsound⟩ fun _ w₁ h₁ _ => ?_
  refine Prog.meets_seq.2 ((captureStock_meets h₁.1 h₁.2).imp (fun _ w₂ h₂ => ?_) fun _ _ h => h)
  -- from here on the saved copies are the stock images
  refine (python_goes stable_held hpinned root tmp fun _ h => h).seq h₂ fun _ w₃ h₃ _ => ?_
  refine (buildHook_goes stable_held root i).seq h₃ fun _ w₄ h₄ _ => ?_
  refine (installFiles_goes stable_held root tmp i).seq h₄ fun _ w₅ h₅ _ => ?_
  refine Prog.meets_seq.2 ((writeManifest_meets h₅).imp (fun _ w₆ h₆ => ?_) fun _ _ h => h)
  refine (writeDefaults_goes stable_installed i).seq h₆ fun _ w₇ h₇ _ => ?_
  exact (finish_goes stable_installed i w₇ h₇).imp (fun _ _ h => h.1) fun _ _ h => h

/-- Whatever else the commands do, the run comes to its end and leaves a complete installation. -/
def Completes (sha256 : Content → String) (image : Firmware → Content) (root : String) (i : Installer) (w : World) :
    Prop :=
  (install sha256 root i).Meets (succeeding sha256) (fun _ _ _ _ => True) (fun _ w' => Installed sha256 image i w')
    (fun _ _ => False) w

private theorem completes_of_sound (hpinned : Pinned sha256 image) {w : World} (hactive : Active image w)
    (hsound : Sound image i w) : Completes sha256 image root i w := by
  intro dir w₁ hr
  obtain ⟨hsame, hdir⟩ := hr
  cases hsame
  refine ⟨trivial, ?_⟩
  obtain ⟨tmp, rfl⟩ := Option.isSome_iff_exists.1 hdir
  have hbody : (body sha256 root tmp i).Meets _ _ _ _ w := body_meets hpinned tmp hactive hsound
  show Prog.Meets _ _ _ _ ((body sha256 root tmp i).attempt >>= _) w
  refine Prog.meets_seq.2 (Prog.meets_attempt.2 (hbody.imp (fun _ w₂ h₂ => ?_) fun _ _ h => h.elim))
  refine (cleanup_goes stable_installed tmp).seq h₂ fun _ w₃ h₃ _ => ?_
  exact h₃

/-! ### The saved copies decide -/

/-- The saved copies are those of `w`. -/
def Unchanged (i : Installer) (w w' : World) : Prop := ∀ x, w'.files (.stock i x) = w.files (.stock i x)

/-- A part of a script that spares the saved copies, whether it ends or fails. -/
theorem Unchanged.meets {w w₁ : World} (h : Unchanged i w w₁) {p : Script Unit} (hp : p.Uses Op.Spares) :
    p.Meets (succeeding sha256) (fun _ _ _ _ => True) (fun _ w' => Unchanged i w w')
      (fun _ w' => Unchanged i w w') w₁ := by
  refine hp.meets (I := Unchanged i w) ?_ h
  intro w₂ o r w₃ ho h₂ hr
  exact ⟨trivial, fun x => (env_spares hr.1 ho i x).trans (h₂ x)⟩

private theorem body_keeps (tmp : String) {w : World} (hsaved : (w.files (.stock i .fecs)).isSome = true) :
    (body sha256 root tmp i).Meets (succeeding sha256) (fun _ _ _ _ => True) (fun _ w' => Unchanged i w w')
      (fun _ w' => Unchanged i w w') w := by
  have hstart : Unchanged i w w := fun _ => rfl
  rw [body_eq]
  refine Prog.meets_seq.2 ((hstart.meets (preflight_uses i)).imp (fun _ w₁ h₁ => ?_) fun _ _ h => h)
  refine Prog.meets_seq.2 ?_
  -- the test of `fecs_sig.bin` succeeds, so no copy is taken
  intro saved w₂ hr
  obtain ⟨⟨rfl, rfl⟩, -⟩ := hr
  rw [h₁ .fecs, hsaved]
  exact ⟨trivial, h₁.meets (afterCapture_uses root tmp i)⟩

/-- A script that finds a saved `fecs_sig.bin` changes no saved copy. -/
theorem install_keeps {w : World} (hsaved : (w.files (.stock i .fecs)).isSome = true) :
    (install sha256 root i).Meets (succeeding sha256) (fun _ _ _ _ => True) (fun _ w' => Unchanged i w w')
      (fun _ w' => Unchanged i w w') w := by
  intro dir w₁ hr
  obtain ⟨rfl, -⟩ := hr
  refine ⟨trivial, ?_⟩
  cases dir with
  | none => exact fun _ => rfl
  | some tmp =>
    show Prog.Meets _ _ _ _ ((body sha256 root tmp i).attempt >>= _) w₁
    refine Prog.meets_seq.2 (Prog.meets_attempt.2 ((body_keeps tmp hsaved).imp ?_ ?_))
    · intro _ w₂ h₂
      exact h₂.meets ((cleanup_uses tmp).bind fun _ => trivial)
    · intro status w₂ h₂
      exact h₂.meets ((cleanup_uses tmp).bind fun _ => trivial)

/-- With the stock images active, a run completes exactly if the saved copies are sound. -/
theorem completes_iff (hpinned : Pinned sha256 image) {w : World} (hactive : Active image w) :
    Completes sha256 image root i w ↔ Sound image i w := by
  constructor
  · intro h
    by_cases hnone : w.files (.stock i .fecs) = none
    · exact .inl hnone
    have hsaved : (w.files (.stock i .fecs)).isSome = true := Option.isSome_iff_ne_none.2 hnone
    rcases Prog.exists_end (succeeding_total sha256) (install sha256 root i) w with ⟨a, w', hs⟩ | ⟨e, w', hs⟩
    · right
      intro x
      rw [← (install_keeps hsaved).of_ret hs x]
      exact (h.of_ret hs).held x
    · exact (h.of_throw hs).elim
  · exact completes_of_sound hpinned hactive

/-! ### Earlier runs -/

/-- Nothing has been saved. -/
def Fresh (w : World) : Prop := ∀ i x, w.files (.stock i x) = none

/-- Between two runs anything may happen but to the saved copies and the manifests. -/
def Between (w w' : World) : Prop :=
  (∀ i x, w'.files (.stock i x) = w.files (.stock i x)) ∧ w'.manifest = w.manifest

/-- Any number of runs of the two installers, each up to any of its requests, in a world where the requests are
answered as `E` allows; `C` holds where a run stops. -/
def Earlier (sha256 : Content → String) (E : Env Op Op.Answer World) (C : World → Prop) : World → World → Prop :=
  Relation.ReflTransGen fun w w' =>
    Between w w' ∨ (∃ root i p, Prog.Steps E (install sha256 root i, w) (p, w')) ∧ C w'

/-- Copies of an active file are copies of the stock image, and succeed. -/
def Op.Careful (image : Firmware → Content) (w : World) : (o : Op) → o.Answer → Prop
  | .install _ (.active x) _, status => status = 0 ∧ w.files (.active x) = some (image x)
  | _, _ => True

def careful (sha256 : Content → String) (image : Firmware → Content) : Env Op Op.Answer World := fun w o r w' =>
  env sha256 w o r w' ∧ o.Careful image w r

/-- The copies of an installer are all there if the first one is. -/
def Whole (w : World) : Prop :=
  ∀ i, (w.files (.stock i .fecs)).isSome = true → ∀ x, (w.files (.stock i x)).isSome = true

/-- Every saved copy is the stock image. -/
def Clean (image : Firmware → Content) (w : World) : Prop :=
  ∀ i x, w.files (.stock i x) = none ∨ w.files (.stock i x) = some (image x)

private theorem sound_of_clean (hclean : Clean image w) (hwhole : Whole w) : Sound image i w := by
  rcases hclean i .fecs with hnone | hfecs
  · exact .inl hnone
  right
  intro x
  have hsome := hwhole i (by rw [hfecs]; rfl) x
  rcases hclean i x with hnone | himage
  · rw [hnone] at hsome
    cases hsome
  · exact himage

private theorem clean_step {o : Op} {r : o.Answer} (h : careful sha256 image w o r w') (ho : o.Saves)
    (hclean : Clean image w) :
    Clean image w' := by
  intro i x
  rcases ho with hspares | ⟨options, j, y, rfl⟩
  · rw [env_spares h.1 hspares i x]
    exact hclean i x
  · -- only a copy of a stock image changes a saved file
    obtain ⟨⟨content, rfl, hcopy⟩, hzero, hactive⟩ := h
    have hcontent : content = some (image y) := (hcopy hzero).2 (image y) hactive
    show Function.update w.files (.stock j y) content (.stock i x) = none ∨
      Function.update w.files (.stock j y) content (.stock i x) = some (image x)
    by_cases heq : Place.stock i x = .stock j y
    · cases heq
      rw [Function.update_self, hcontent]
      exact .inr rfl
    · rw [Function.update_of_ne heq]
      exact hclean i x

/-- A run in which the copies are copies of the stock images, stopped anywhere. -/
theorem clean_run {p : Script Unit} (hs : Prog.Steps (careful sha256 image) (install sha256 root i, w) (p, w'))
    (hclean : Clean image w) : Clean image w' := by
  have hmeets : (install sha256 root i).Meets (careful sha256 image) (fun w _ _ w' => Clean image w → Clean image w')
      (fun _ _ => True) (fun _ _ => True) w := by
    refine (install_uses root i).meets (I := fun _ => True) ?_ trivial
    intro w₁ o r w₂ ho _ hr
    exact ⟨clean_step hr ho, trivial⟩
  exact hmeets.invariant hs (fun _ _ _ _ _ hG => hG) hclean

/-- Careful runs that do not stop between the first copy and the last leave sound copies. -/
theorem careful_sound (hfresh : Fresh w₀) (h : Earlier sha256 (careful sha256 image) Whole w₀ w) : Sound image i w := by
  have hboth : Clean image w ∧ Whole w := by
    induction h with
    | refl =>
      refine ⟨fun i x => .inl (hfresh i x), fun i hsome => ?_⟩
      rw [hfresh i .fecs] at hsome
      cases hsome
    | tail _ hlast ih =>
      obtain ⟨hclean, hwhole⟩ := ih
      rcases hlast with ⟨hstock, -⟩ | ⟨⟨root, j, p, hs⟩, hwhole'⟩
      · refine ⟨fun i x => ?_, fun i hsome x => ?_⟩
        · rw [hstock i x]
          exact hclean i x
        · rw [hstock i .fecs] at hsome
          rw [hstock i x]
          exact hwhole i hsome x
      · -- the run may stop anywhere with clean copies, and where it did they are whole
        exact ⟨clean_run hs hclean, hwhole'⟩
  exact sound_of_clean hboth.1 hboth.2

/-- With the stock images active, an installer completes exactly if there is no saved `fecs_sig.bin` or the saved files
are the stock images; after runs that copied the stock images, all of them or none, it completes. -/
theorem later_run_completes (hpinned : Pinned sha256 image) :
    (∀ root i w, Active image w → (Completes sha256 image root i w ↔ Sound image i w)) ∧
      ∀ root i w₀ w, Fresh w₀ → Earlier sha256 (careful sha256 image) Whole w₀ w → Active image w →
        Completes sha256 image root i w := by
  refine ⟨fun root i w hactive => completes_iff hpinned hactive, ?_⟩
  intro root i w₀ w hfresh hearlier hactive
  exact (completes_iff hpinned hactive).2 (careful_sound hfresh hearlier)

/-- A machine on which nothing was installed yet. -/
def emptyWorld : World where
  files p :=
    match p with
    | .active x => some (sampleImage x)
    | _ => none
  manifest _ := none

private theorem emptyWorld_fresh : Fresh emptyWorld := fun _ _ => rfl

private theorem emptyWorld_active : Active sampleImage emptyWorld := fun _ => rfl

/-- The commands succeed until the three copies are there, and fail from then on. -/
def failingAnswer (w : World) : (o : Op) → Option (o.Answer × World)
  | .exec _ => some (⟨if (w.files (.stock .tensor .ucode)).isSome then 1 else 0, ""⟩, w)
  | .isFile p => some ((w.files p).isSome, w)
  | .makeTemp => some (some "/tmp/tmp.0", w)
  | .removeTemp _ => some (0, w)
  | .install _ (.active x) (.stock i y) =>
    some (0, { w with files := Function.update w.files (.stock i y) (w.files (.active x)) })
  | _ => none

/-- Its copies are those of the stock images. -/
theorem failingAnswer_careful (w : World) (o : Op) (r : o.Answer) (w' : World) (hactive : Active sampleImage w)
    (h : failingAnswer w o = some (r, w')) : careful sampleSha sampleImage w o r w' ∧ Active sampleImage w' := by
  unfold failingAnswer at h
  split at h
  · cases h
    exact ⟨⟨⟨w.files, rfl, fun _ _ => rfl⟩, trivial⟩, hactive⟩
  · cases h
    exact ⟨⟨⟨rfl, rfl⟩, trivial⟩, hactive⟩
  · cases h
    exact ⟨⟨rfl, trivial⟩, hactive⟩
  · cases h
    exact ⟨⟨⟨w.files, rfl, fun _ _ => rfl⟩, trivial⟩, hactive⟩
  · -- the copy: its source is an active file, which it leaves as it is
    rename_i x i y
    cases h
    have hsource := hactive x
    refine ⟨⟨⟨w.files (.active x), rfl, fun _ => ⟨?_, fun bytes hbytes => hbytes⟩⟩, rfl, hsource⟩, fun z => ?_⟩
    · rw [hsource]
      rfl
    · show Function.update w.files (.stock i y) (w.files (.active x)) (.active z) = _
      rw [Function.update_of_ne (by simp)]
      exact hactive z
  · cases h

/-- A first run fails behind its copies; the next one completes. -/
theorem later_run_completes_failed : ∃ w,
    Prog.Steps (careful sampleSha sampleImage) (install sampleSha "/root/CmpUnlocker" .tensor, emptyWorld)
      (.throw 1, w) ∧
      Earlier sampleSha (careful sampleSha sampleImage) Whole emptyWorld w ∧
      (w.files (.stock .tensor .fecs)).isSome = true ∧
      Completes sampleSha sampleImage "/root/CmpUnlocker" .tensor w := by
  have hs :=
    Prog.steps_run_of_keeps failingAnswer_careful (install sampleSha "/root/CmpUnlocker" .tensor) emptyWorld_active
  obtain ⟨w, hw⟩ : ∃ w, (install sampleSha "/root/CmpUnlocker" .tensor).run failingAnswer emptyWorld = (.throw 1, w) :=
    ⟨_, rfl⟩
  have hfiles : ((install sampleSha "/root/CmpUnlocker" .tensor).run failingAnswer emptyWorld).2.files = w.files := by
    rw [hw]
  have hsaved : ∀ x, (w.files (.stock .tensor x)).isSome = true := by
    intro x
    rw [← hfiles]
    cases x <;> rfl
  have hother : w.files (.stock .pcieGuest .fecs) = none := by
    rw [← hfiles]
    rfl
  have hactive : Active sampleImage w := by
    intro x
    rw [← hfiles]
    cases x <;> rfl
  have hwhole : Whole w := by
    intro i hsome x
    cases i with
    | tensor => exact hsaved x
    | pcieGuest =>
      rw [hother] at hsome
      cases hsome
  rw [hw] at hs
  have hearlier : Earlier sampleSha (careful sampleSha sampleImage) Whole emptyWorld w :=
    .single (.inr ⟨⟨"/root/CmpUnlocker", .tensor, _, hs⟩, hwhole⟩)
  have hcompletes := (later_run_completes sample_pinned).2 "/root/CmpUnlocker" .tensor emptyWorld w emptyWorld_fresh
    hearlier hactive
  exact ⟨w, hs, hearlier, hsaved .fecs, hcompletes⟩

/-- All commands succeed up to the copy of `bl.bin`; the script is killed there. -/
def killedAnswer (w : World) : (o : Op) → Option (o.Answer × World)
  | .exec _ => some (⟨0, ""⟩, w)
  | .isFile p => some ((w.files p).isSome, w)
  | .makeTemp => some (some "/tmp/tmp.0", w)
  | .install _ source (.stock i .fecs) =>
    match w.files source with
    | some bytes => some (0, { w with files := Function.update w.files (.stock i .fecs) (some bytes) })
    | none => none
  | _ => none

private theorem killedAnswer_env (w : World) (o : Op) (r : o.Answer) (w' : World)
    (h : killedAnswer w o = some (r, w')) :
    env sampleSha w o r w' := by
  unfold killedAnswer at h
  split at h
  · cases h
    exact ⟨w.files, rfl, fun _ _ => rfl⟩
  · cases h
    exact ⟨rfl, rfl⟩
  · cases h
    rfl
  · split at h
    · rename_i source i bytes hbytes
      cases h
      refine ⟨some bytes, rfl, fun _ => ⟨rfl, ?_⟩⟩
      intro bytes' hbytes'
      rw [← hbytes', hbytes]
    · cases h
  · cases h

/-- A run killed after the first copy leaves a state from which no later run completes. -/
theorem killed_capture : ¬∀ (sha256 : Content → String) (image : Firmware → Content), Pinned sha256 image →
    ∀ w₀ w, Fresh w₀ → Earlier sha256 (env sha256) (fun _ => True) w₀ w → Active image w →
      ∀ root i, Completes sha256 image root i w := by
  intro h
  have hs := Prog.steps_run killedAnswer_env (install sampleSha "/root/CmpUnlocker" .tensor) emptyWorld
  generalize hrun : (install sampleSha "/root/CmpUnlocker" .tensor).run killedAnswer emptyWorld = stopped at hs
  have hfecs : stopped.2.files (.stock .tensor .fecs) = some (sampleImage .fecs) := by
    rw [← hrun]
    rfl
  have hbl : stopped.2.files (.stock .tensor .bl) = none := by
    rw [← hrun]
    rfl
  have hactive : Active sampleImage stopped.2 := by
    intro x
    rw [← hrun]
    cases x <;> rfl
  have hearlier : Earlier sampleSha (env sampleSha) (fun _ => True) emptyWorld stopped.2 :=
    .single (.inr ⟨⟨"/root/CmpUnlocker", .tensor, stopped.1, hs⟩, trivial⟩)
  have hcompletes := h sampleSha sampleImage sample_pinned emptyWorld stopped.2 emptyWorld_fresh hearlier hactive
    "/root/CmpUnlocker" .tensor
  rcases (completes_iff sample_pinned hactive).1 hcompletes with hnone | hheld
  · rw [hfecs] at hnone
    cases hnone
  · have himage := hheld .bl
    rw [hbl] at himage
    cases himage

end CmpUnlocker.Install
