import CmpUnlocker.Install.Script

/-!
# What the installers do to files

The environment of the installers, in which commands fail or succeed (`env`) or all succeed (`succeeding`), and the
effect of each step of the scripts: with all commands succeeding it comes to its end (`Goes`), and in any case it
spares the saved copies but for the copies of the active files (`install_uses`).
-/

namespace CmpUnlocker.Install

open Interaction Guest Payloads
open Shell (Content)

/-! ### The environment -/

structure World where
  files : Place → Option Content
  manifest : Installer → Option Manifest

/-- A place no installer may touch but by a copy of the stock firmware. -/
def Place.Guarded : Place → Prop
  | .active _ => True
  | .stock _ _ => True
  | _ => False

/-- What commands do whether they succeed or fail: a failed copy or write leaves anything in its target, `make` works
below the repository, and the other commands leave the files alone. -/
def env (sha256 : Content → String) : Env Op Op.Answer World
  | w, .exec _, _, w' =>
    ∃ files, w' = { w with files := files } ∧ ∀ p, (∀ dir name, p ≠ .root dir name) → files p = w.files p
  | w, .isFile p, r, w' => w' = w ∧ r = (w.files p).isSome
  | w, .removeTemp dir, _, w' =>
    ∃ files, w' = { w with files := files } ∧ ∀ p, (∀ name, p ≠ .temp dir name) → files p = w.files p
  | w, .install _ source target, status, w' =>
    ∃ content, w' = { w with files := Function.update w.files target content } ∧
      (status = 0 → content.isSome ∧ ∀ bytes, w.files source = some bytes → content = some bytes)
  | w, .digest p, sum, w' => w' = w ∧ ∀ bytes, w.files p = some bytes → sum = sha256 bytes ∨ sum = ""
  | w, .writeManifest i lines, status, w' =>
    ∃ content, w' = { w with manifest := Function.update w.manifest i content } ∧ (status = 0 → content = some lines)
  | w, .readBytes p, r, w' => w' = w ∧ (r = none ∨ r = w.files p)
  | w, .writeBytes p blob, ok, w' =>
    ∃ content, w' = { w with files := Function.update w.files p content } ∧ (ok = true → content = some blob)
  | w, .pipe _, _, w' => w' = w
  | w, .isPresent _, _, w' => w' = w
  | w, .makeTemp, _, w' => w' = w
  | w, .writeText _ _, _, w' => w' = w
  | w, .mkdir _, _, w' => w' = w
  | w, .print _, _, w' => w' = w

/-- The answer of a command that succeeds. -/
def Op.Succeeds (sha256 : Content → String) (w : World) : (o : Op) → o.Answer → Prop
  | .exec _, r => r.status = 0
  | .pipe _, status => status = 0
  | .isFile _, _ => True
  | .isPresent _, _ => True
  | .makeTemp, dir => dir.isSome
  | .removeTemp _, status => status = 0
  | .install _ _ _, status => status = 0
  | .digest p, sum => ∀ bytes, w.files p = some bytes → sum = sha256 bytes
  | .writeManifest _ _, status => status = 0
  | .writeText _ _, status => status = 0
  | .readBytes p, r => r = w.files p
  | .mkdir _, ok => ok = true
  | .writeBytes _ _, ok => ok = true
  | .print _, ok => ok = true

/-- All commands succeed; the checks of the Python program are its own. -/
def succeeding (sha256 : Content → String) : Env Op Op.Answer World := fun w o r w' =>
  env sha256 w o r w' ∧ o.Succeeds sha256 w r

/-- Every request can be answered, so that no run gets stuck. -/
theorem succeeding_total (sha256 : Content → String) (w : World) (o : Op) : ∃ r w', succeeding sha256 w o r w' := by
  cases o with
  | exec argv => exact ⟨⟨0, ""⟩, w, ⟨w.files, rfl, fun _ _ => rfl⟩, rfl⟩
  | pipe argvs => exact ⟨0, w, rfl, rfl⟩
  | isFile p => exact ⟨_, w, ⟨rfl, rfl⟩, trivial⟩
  | isPresent path => exact ⟨true, w, rfl, trivial⟩
  | makeTemp => exact ⟨some "", w, rfl, rfl⟩
  | removeTemp dir => exact ⟨0, w, ⟨w.files, rfl, fun _ _ => rfl⟩, rfl⟩
  | install options source target =>
    refine ⟨0, _, ⟨some ((w.files source).getD []), rfl, fun _ => ⟨rfl, ?_⟩⟩, rfl⟩
    intro bytes h
    rw [h]
    rfl
  | digest p =>
    refine ⟨((w.files p).map sha256).getD "", w, ⟨rfl, ?_⟩, ?_⟩
    · intro bytes h
      rw [h]
      exact .inl rfl
    · intro bytes h
      rw [h]
      rfl
  | writeManifest i lines => exact ⟨0, _, ⟨some lines, rfl, fun _ => rfl⟩, rfl⟩
  | writeText path text => exact ⟨0, w, rfl, rfl⟩
  | readBytes p => exact ⟨_, w, ⟨rfl, .inr rfl⟩, rfl⟩
  | mkdir path => exact ⟨true, w, rfl, rfl⟩
  | writeBytes p blob => exact ⟨true, _, ⟨some blob, rfl, fun _ => rfl⟩, rfl⟩
  | print text => exact ⟨true, w, rfl, rfl⟩

/-! ### Requests that leave the firmware alone -/

/-- The active firmware, the saved copies and the manifests are the same. -/
structure Same (w w' : World) : Prop where
  active : ∀ x, w'.files (.active x) = w.files (.active x)
  stock : ∀ i x, w'.files (.stock i x) = w.files (.stock i x)
  manifest : w'.manifest = w.manifest

theorem Same.refl (w : World) : Same w w := ⟨fun _ => rfl, fun _ _ => rfl, rfl⟩

theorem Same.trans {w₁ w₂ w₃ : World} (h : Same w₁ w₂) (h' : Same w₂ w₃) : Same w₁ w₃ where
  active x := (h'.active x).trans (h.active x)
  stock i x := (h'.stock i x).trans (h.stock i x)
  manifest := h'.manifest.trans h.manifest

private theorem same_of_files {w : World} {files : Place → Option Content}
    (h : ∀ p : Place, p.Guarded → files p = w.files p) :
    Same w { w with files := files } where
  active x := h (.active x) trivial
  stock i x := h (.stock i x) trivial
  manifest := rfl

/-- The request copies and writes to other places only. -/
def Op.Quiet : Op → Prop
  | .install _ _ target => ¬target.Guarded
  | .writeBytes p _ => ¬p.Guarded
  | .writeManifest _ _ => False
  | _ => True

variable {sha256 : Content → String} {w w' : World}

private theorem same_update {p : Place} (h : ¬p.Guarded) (content : Option Content) :
    Same w { w with files := Function.update w.files p content } := by
  apply same_of_files
  intro q hq
  have hne : q ≠ p := fun heq => h (heq ▸ hq)
  exact Function.update_of_ne hne ..

private theorem env_same {o : Op} {r : o.Answer} (h : env sha256 w o r w') (ho : o.Quiet) : Same w w' := by
  cases o with
  | exec argv =>
    obtain ⟨files, rfl, hfiles⟩ := h
    apply same_of_files
    intro p hp
    exact hfiles p fun dir name heq => by rw [heq] at hp; exact hp
  | removeTemp dir =>
    obtain ⟨files, rfl, hfiles⟩ := h
    apply same_of_files
    intro p hp
    exact hfiles p fun name heq => by rw [heq] at hp; exact hp
  | install options source target =>
    obtain ⟨content, rfl, -⟩ := h
    exact same_update ho content
  | writeBytes p blob =>
    obtain ⟨content, rfl, -⟩ := h
    exact same_update ho content
  | writeManifest i lines => exact absurd ho id
  | isFile p => obtain ⟨rfl, -⟩ := h; exact .refl _
  | digest p => obtain ⟨rfl, -⟩ := h; exact .refl _
  | readBytes p => obtain ⟨rfl, -⟩ := h; exact .refl _
  | pipe argvs => cases h; exact .refl _
  | isPresent path => cases h; exact .refl _
  | makeTemp => cases h; exact .refl _
  | writeText path text => cases h; exact .refl _
  | mkdir path => cases h; exact .refl _
  | print text => cases h; exact .refl _

/-! ### Parts of a script that succeed -/

/-- From a world with `I` the program goes on to its end when all commands succeed, keeps `I`, and returns a value with
`Q`. -/
def Goes {ε α : Type} (sha256 : Content → String) (I : World → Prop) (Q : α → Prop) (p : Prog Op Op.Answer ε α) :
    Prop :=
  ∀ w, I w → p.Meets (succeeding sha256) (fun _ _ _ _ => True) (fun a w' => I w' ∧ Q a) (fun _ _ => False) w

/-- Nothing but the active firmware, the saved copies and the manifests matters. -/
def Stable (I : World → Prop) : Prop := ∀ w w', Same w w' → I w → I w'

section

variable {ε α β : Type} {I : World → Prop} {Q : α → Prop} {Q' : β → Prop}

theorem Goes.ret {a : α} (h : Q a) : Goes sha256 I Q (Prog.ret a : Prog Op Op.Answer ε α) := fun _ hI => ⟨hI, h⟩

theorem Goes.bind {p : Prog Op Op.Answer ε α} {f : α → Prog Op Op.Answer ε β} (hp : Goes sha256 I Q p)
    (hf : ∀ a, Q a → Goes sha256 I Q' (f a)) : Goes sha256 I Q' (p.bind f) := by
  intro w hI
  apply Prog.meets_bind.2
  exact (hp w hI).imp (fun a w' ha => hf a ha.2 w' ha.1) fun _ _ hX => hX

/-- The rest of a program is run from a world with `I`. -/
theorem Goes.seq {p : Prog Op Op.Answer ε α} {f : α → Prog Op Op.Answer ε β} {R : β → World → Prop} {w : World}
    (hp : Goes sha256 I Q p) (hw : I w) (hf : ∀ a w', I w' → Q a →
      (f a).Meets (succeeding sha256) (fun _ _ _ _ => True) R (fun _ _ => False) w') :
    (p >>= f).Meets (succeeding sha256) (fun _ _ _ _ => True) R (fun _ _ => False) w := by
  apply Prog.meets_seq.2
  exact (hp w hw).imp (fun a w' ha => hf a w' ha.1 ha.2) fun _ _ hX => hX

theorem Goes.forEach {body : β → Prog Op Op.Answer ε Unit} {xs : List β}
    (hbody : ∀ x ∈ xs, Goes sha256 I (fun _ => True) (body x)) :
    Goes sha256 I (fun _ => True) (Prog.forEach body xs) := by
  induction xs with
  | nil => exact .ret trivial
  | cons x xs ih =>
    apply (hbody x List.mem_cons_self).bind
    intro _ _
    exact ih fun y hy => hbody y (List.mem_cons_of_mem x hy)

theorem Goes.when {c : Prop} [Decidable c] {p : Prog Op Op.Answer ε Unit} (hp : Goes sha256 I (fun _ => True) p) :
    Goes sha256 I (fun _ => True) (Prog.when c p) := by
  unfold Prog.when
  split
  · exact hp
  · exact .ret trivial

theorem ensure_goes {status : Nat} (h : status = 0) : Goes sha256 I (fun _ => True) (ensure status) := by
  rw [ensure, if_pos h]
  exact .ret trivial

private theorem orExit_goes {ok : Bool} (h : ok = true) (text : String) :
    Goes sha256 I (fun _ => True) (orExit ok text) := by
  subst h
  exact .ret trivial

private theorem accessed_goes {ok : Bool} (h : ok = true) : Goes sha256 I (fun _ => True) (accessed ok) := by
  subst h
  exact .ret trivial

private theorem isFile_goes {p : Place} {b : Bool} (h : ∀ w, I w → (w.files p).isSome = b) :
    Goes sha256 I (· = b) (Prog.request (Op.isFile p) : Script _) := by
  intro w hw r w' hr
  obtain ⟨rfl, hb⟩ := hr.1
  exact ⟨trivial, hw, hb.trans (h w' hw)⟩

variable (hI : Stable I)

include hI

/-- A quiet request: its answer is that of a command that succeeds. -/
theorem request_goes {o : Op} (ho : o.Quiet) {Q : o.Answer → Prop} (hQ : ∀ w r, I w → o.Succeeds sha256 w r → Q r) :
    Goes sha256 I Q (Prog.request o : Prog Op Op.Answer ε o.Answer) := by
  intro w hw r w' hr
  exact ⟨trivial, hI w w' (env_same hr.1 ho) hw, hQ w r hw hr.2⟩

theorem must_goes (argv : List String) : Goes sha256 I (fun _ => True) (must argv) := by
  have hrun : Goes sha256 I (fun r => r.status = 0) (Prog.request (Op.exec argv) : Script _) :=
    request_goes hI (o := .exec argv) trivial fun _ _ _ h => h
  exact hrun.bind fun r hr => ensure_goes hr

private theorem test_goes (argv : List String) : Goes sha256 I (· = true) (test argv) := by
  have hrun : Goes sha256 I (fun r => r.status = 0) (Prog.request (Op.exec argv) : Script _) :=
    request_goes hI (o := .exec argv) trivial fun _ _ _ h => h
  apply hrun.bind
  intro r hr
  apply Goes.ret
  rw [hr]
  rfl

private theorem installFile_goes {options : List String} {source target : Place} (h : ¬target.Guarded) :
    Goes sha256 I (fun _ => True) (installFile options source target) := by
  have hrun : Goes sha256 I (fun status => status = 0) (Prog.request (Op.install options source target) : Script _) :=
    request_goes hI (o := .install options source target) h fun _ _ _ h => h
  exact hrun.bind fun status hstatus => ensure_goes hstatus

/-! ### The steps of the scripts -/

theorem preflight_goes (hactive : ∀ w, I w → ∀ x, (w.files (.active x)).isSome = true) (i : Installer) :
    Goes sha256 I (fun _ => True) (preflight i) := by
  unfold preflight
  apply Goes.bind (test_goes hI _); intro ok hok
  apply Goes.bind (orExit_goes hok _); intro _ _
  apply Goes.bind
  · apply Goes.forEach
    intro command _
    exact (test_goes hI _).bind fun ok hok => orExit_goes hok _
  intro _ _
  apply Goes.bind (request_goes hI (o := .exec ["uname", "-r"]) (Q := fun _ => True) trivial fun _ _ _ _ => trivial)
  intro kernel _
  apply Goes.bind (test_goes hI _); intro ok hok
  apply Goes.bind (orExit_goes hok _); intro _ _
  apply Goes.bind
  · apply Goes.forEach
    intro firmware _
    exact (isFile_goes fun w hw => hactive w hw firmware).bind fun ok hok => orExit_goes hok _
  intro _ _
  exact must_goes hI _

theorem buildHook_goes (root : String) (i : Installer) : Goes sha256 I (fun _ => True) (buildHook root i) := by
  cases i with
  | tensor => exact (must_goes hI _).bind fun _ _ => must_goes hI _
  | pcieGuest =>
    apply Goes.bind (must_goes hI _); intro _ _
    apply Goes.bind (request_goes hI (o := .exec ["uname", "-r"]) (Q := fun _ => True) trivial fun _ _ _ _ => trivial)
    intro kernel _
    have hpipe : ∀ argvs, Goes sha256 I (fun status => status = 0) (Prog.request (Op.pipe argvs) : Script _) :=
      fun argvs =>
      request_goes hI (o := .pipe argvs) trivial fun _ _ _ h => h
    apply Goes.bind (hpipe _)
    intro status hstatus
    exact orExit_goes (by rw [hstatus]; rfl) _

theorem installFiles_goes (root tmp : String) (i : Installer) :
    Goes sha256 I (fun _ => True) (installFiles root tmp i) := by
  unfold installFiles
  apply Goes.bind
  · apply Goes.forEach
    intro a _
    exact installFile_goes hI id
  intro _ _
  apply Goes.bind (installFile_goes hI id); intro _ _
  apply Goes.bind (installFile_goes hI id); intro _ _
  exact installFile_goes hI id

theorem writeDefaults_goes (i : Installer) : Goes sha256 I (fun _ => True) (writeDefaults i) := by
  unfold writeDefaults
  apply Goes.bind (request_goes hI (o := .isPresent (defaultsPath i)) (Q := fun _ => True) trivial
    fun _ _ _ _ => trivial)
  intro present _
  apply Goes.when
  have hwrite :
      ∀ path text, Goes sha256 I (fun status => status = 0) (Prog.request (Op.writeText path text) : Script _) :=
    fun path text => request_goes hI (o := .writeText path text) trivial fun _ _ _ h => h
  apply Goes.bind (hwrite _ _); intro status hstatus
  apply Goes.bind (ensure_goes hstatus); intro _ _
  apply Goes.when
  exact (must_goes hI _).bind fun _ _ => must_goes hI _

theorem finish_goes (i : Installer) : Goes sha256 I (fun _ => True) (finish i) := by
  apply Goes.bind (must_goes hI _)
  intro _ _
  apply Goes.forEach
  intro text _
  exact must_goes hI _

theorem cleanup_goes (tmp : String) : Goes sha256 I (fun _ => True) (cleanup tmp) := by
  have hremove : Goes sha256 I (fun status => status = 0) (Prog.request (Op.removeTemp tmp) : Script _) :=
    request_goes hI (o := .removeTemp tmp) trivial fun _ _ _ h => h
  exact hremove.bind fun status hstatus => ensure_goes hstatus

/-! ### The Python program on the stock images -/

variable {image : Firmware → Content} {i : Installer}

private theorem checkedRead_goes (hpinned : Pinned sha256 image) (x : Firmware)
    (hstock : ∀ w, I w → w.files (.stock i x) = some (image x)) :
    Goes sha256 I (· = image x) (checkedRead sha256 (.stock i x) (stockSha x) (stockSize x)) := by
  unfold checkedRead
  have hread : Goes sha256 I (fun r => r = some (image x)) (Prog.request (Op.readBytes (.stock i x)) : Python _) :=
    request_goes hI (o := .readBytes (.stock i x)) trivial fun w r hw hr => hr.trans (hstock w hw)
  apply hread.bind
  rintro _ rfl
  simp only [hpinned.size x, hpinned.sha x, ne_eq, not_true_eq_false, if_false]
  exact .ret rfl

private theorem writeChecked_goes {path : Place} (hpath : ¬path.Guarded) {name expected : String} {blob : Content}
    (h : sha256 blob = expected) : Goes sha256 I (fun _ => True) (writeChecked sha256 path name blob expected) := by
  unfold writeChecked
  rw [if_neg (not_not_intro h)]
  have hwrite : Goes sha256 I (fun ok => ok = true) (Prog.request (Op.writeBytes path blob) : Python _) :=
    request_goes hI (o := .writeBytes path blob) hpath fun _ _ _ h => h
  have hprint : ∀ text, Goes sha256 I (fun ok => ok = true) (Prog.request (Op.print text) : Python _) := fun text =>
    request_goes hI (o := .print text) trivial fun _ _ _ h => h
  apply hwrite.bind; intro ok hok
  apply Goes.bind (accessed_goes hok); intro _ _
  apply (hprint _).bind; intro ok hok
  exact accessed_goes hok

private theorem writeArtifact_goes (hpinned : Pinned sha256 image) (tmp : String) {a : Artifact} (ha : a ∈ artifacts) :
    Goes sha256 I (fun _ => True) (writeArtifact sha256 tmp image a) := by
  obtain ⟨blob, hblob, hsha⟩ := hpinned.builds a ha
  unfold writeArtifact
  rw [hblob]
  exact writeChecked_goes hI id hsha

private theorem buildPayloads_goes (hpinned : Pinned sha256 image) (tmp : String)
    (hstock : ∀ w, I w → ∀ x, w.files (.stock i x) = some (image x)) :
    Goes sha256 I (fun _ => True) (buildPayloads sha256 i tmp) := by
  unfold buildPayloads
  apply Goes.bind (checkedRead_goes hI hpinned .fecs fun w hw => hstock w hw .fecs); rintro fecs rfl
  apply Goes.bind (checkedRead_goes hI hpinned .bl fun w hw => hstock w hw .bl); rintro bl rfl
  apply Goes.bind (checkedRead_goes hI hpinned .ucode fun w hw => hstock w hw .ucode); rintro ucode rfl
  have hmkdir : ∀ path, Goes sha256 I (fun ok => ok = true) (Prog.request (Op.mkdir path) : Python _) := fun path =>
    request_goes hI (o := .mkdir path) trivial fun _ _ _ h => h
  apply (hmkdir _).bind; intro ok hok
  apply Goes.bind (accessed_goes hok); intro _ _
  have himages : images (image .fecs) (image .bl) (image .ucode) = image := by
    funext x
    cases x <;> rfl
  rw [himages]
  apply Goes.forEach
  exact fun a ha => writeArtifact_goes hI hpinned tmp ha

theorem python_goes (hpinned : Pinned sha256 image) (root tmp : String)
    (hstock : ∀ w, I w → ∀ x, w.files (.stock i x) = some (image x)) :
    Goes sha256 I (fun _ => True) (python sha256 root tmp i) := by
  apply Goes.bind (must_goes hI _)
  intro _ _ w hw
  apply Prog.meets_handle.2
  exact (buildPayloads_goes hI hpinned tmp hstock w hw).imp (fun _ _ h => h) fun _ _ h => h.elim

end

/-! ### Requests that leave the saved copies alone -/

/-- The request does not write to a saved copy. -/
def Op.Spares (o : Op) : Prop := o.Quiet ∨ ∃ i lines, o = .writeManifest i lines

/-- The request writes to a saved copy only by copying the active file. -/
def Op.Saves (o : Op) : Prop := o.Spares ∨ ∃ options i x, o = .install options (.active x) (.stock i x)

theorem env_spares {o : Op} {r : o.Answer} (h : env sha256 w o r w') (ho : o.Spares) (i : Installer) (x : Firmware) :
    w'.files (.stock i x) = w.files (.stock i x) := by
  rcases ho with hquiet | ⟨j, lines, rfl⟩
  · exact (env_same h hquiet).stock i x
  · obtain ⟨content, rfl, -⟩ := h
    rfl

section

variable {ε α : Type}

private theorem request_uses {o : Op} (ho : o.Quiet) : (Prog.request o : Prog Op Op.Answer ε o.Answer).Uses Op.Spares :=
  Prog.uses_request.2 (.inl ho)

private theorem ensure_uses (status : Nat) : (ensure status).Uses Op.Spares := by
  unfold ensure
  split <;> trivial

private theorem must_uses (argv : List String) : (must argv).Uses Op.Spares :=
  (request_uses (o := .exec argv) trivial).bind fun _ => ensure_uses _

private theorem test_uses (argv : List String) : (test argv).Uses Op.Spares :=
  (request_uses (o := .exec argv) trivial).bind fun _ => trivial

private theorem orExit_uses (ok : Bool) (text : String) : (orExit ok text).Uses Op.Spares := by
  unfold orExit
  split
  · trivial
  · exact (must_uses _).bind fun _ => trivial

private theorem installFile_uses {options : List String} {source target : Place} (h : ¬target.Guarded) :
    (installFile options source target).Uses Op.Spares :=
  (request_uses (o := .install options source target) h).bind fun _ => ensure_uses _

theorem preflight_uses (i : Installer) : (preflight i).Uses Op.Spares := by
  apply Prog.Uses.bind (test_uses _); intro ok
  apply Prog.Uses.bind (orExit_uses _ _); intro _
  apply Prog.Uses.bind
  · exact .forEach (fun command => (test_uses _).bind fun ok => orExit_uses _ _) _
  intro _
  apply Prog.Uses.bind (request_uses (o := .exec _) trivial); intro kernel
  apply Prog.Uses.bind (test_uses _); intro ok
  apply Prog.Uses.bind (orExit_uses _ _); intro _
  apply Prog.Uses.bind
  · exact .forEach (fun firmware => (request_uses (o := .isFile _) trivial).bind fun ok => orExit_uses _ _) _
  intro _
  exact must_uses _

private theorem raise_uses (result : Except Exn α) : (raise result).Uses Op.Spares := by
  cases result <;> trivial

private theorem accessed_uses (ok : Bool) : (accessed ok).Uses Op.Spares := by
  unfold accessed
  split <;> trivial

private theorem checkedRead_uses (path : Place) (expectedHash : String) (expectedSize : Nat) :
    (checkedRead sha256 path expectedHash expectedSize).Uses Op.Spares := by
  apply Prog.Uses.bind (request_uses (o := .readBytes path) trivial)
  rintro (_ | blob)
  · trivial
  · show Prog.Uses _ (ite _ _ _)
    split
    · trivial
    · split <;> trivial

private theorem writeArtifact_uses (output : String) (stock : Firmware → Content) (a : Artifact) :
    (writeArtifact sha256 output stock a).Uses Op.Spares := by
  apply Prog.Uses.bind (raise_uses _); intro blob
  unfold writeChecked
  split
  · trivial
  · apply Prog.Uses.bind (request_uses (o := .writeBytes (.temp output a.name) blob) id); intro ok
    apply Prog.Uses.bind (accessed_uses ok); intro _
    apply Prog.Uses.bind (request_uses (o := .print _) trivial); intro ok
    exact accessed_uses ok

private theorem buildPayloads_uses (i : Installer) (output : String) :
    (buildPayloads sha256 i output).Uses Op.Spares := by
  apply Prog.Uses.bind (checkedRead_uses ..); intro fecs
  apply Prog.Uses.bind (checkedRead_uses ..); intro bl
  apply Prog.Uses.bind (checkedRead_uses ..); intro ucode
  apply Prog.Uses.bind (request_uses (o := .mkdir _) trivial); intro ok
  apply Prog.Uses.bind (accessed_uses ok); intro _
  exact .forEach (writeArtifact_uses _ _) _

private theorem python_uses (root tmp : String) (i : Installer) : (python sha256 root tmp i).Uses Op.Spares :=
  (must_uses _).bind fun _ => (buildPayloads_uses i tmp).handle fun _ => trivial

private theorem buildHook_uses (root : String) (i : Installer) : (buildHook root i).Uses Op.Spares := by
  cases i with
  | tensor => exact (must_uses _).bind fun _ => must_uses _
  | pcieGuest =>
    apply Prog.Uses.bind (must_uses _); intro _
    apply Prog.Uses.bind (request_uses (o := .exec _) trivial); intro kernel
    apply Prog.Uses.bind (request_uses (o := .pipe _) trivial); intro status
    exact orExit_uses _ _

private theorem installFiles_uses (root tmp : String) (i : Installer) : (installFiles root tmp i).Uses Op.Spares := by
  apply Prog.Uses.bind
  · exact .forEach (fun a => installFile_uses id) _
  intro _
  apply Prog.Uses.bind (installFile_uses id); intro _
  apply Prog.Uses.bind (installFile_uses id); intro _
  exact installFile_uses id

private theorem manifestLines_uses (entries : List (String × Place)) : (manifestLines entries).Uses Op.Spares := by
  induction entries with
  | nil => trivial
  | cons entry entries ih =>
    apply Prog.Uses.bind (request_uses (o := .digest _) trivial); intro sum
    exact ih.bind fun _ => trivial

private theorem writeManifest_uses (i : Installer) : (writeManifest i).Uses Op.Spares := by
  apply Prog.Uses.bind (manifestLines_uses _); intro lines
  apply Prog.Uses.bind (Prog.uses_request.2 (.inr ⟨i, lines, rfl⟩)); intro status
  apply Prog.Uses.bind (ensure_uses _); intro _
  apply Prog.Uses.bind (.when fun _ => must_uses _); intro _
  exact must_uses _

private theorem writeDefaults_uses (i : Installer) : (writeDefaults i).Uses Op.Spares := by
  apply Prog.Uses.bind (request_uses (o := .isPresent _) trivial); intro present
  apply Prog.Uses.when; intro _
  apply Prog.Uses.bind (request_uses (o := .writeText _ _) trivial); intro status
  apply Prog.Uses.bind (ensure_uses _); intro _
  apply Prog.Uses.when; intro _
  exact (must_uses _).bind fun _ => must_uses _

private theorem finish_uses (i : Installer) : (finish i).Uses Op.Spares :=
  (must_uses _).bind fun _ => .forEach (fun _ => must_uses _) _

theorem cleanup_uses (tmp : String) : (cleanup tmp).Uses Op.Spares :=
  (request_uses (o := .removeTemp tmp) trivial).bind fun _ => ensure_uses _

private theorem saveStock_uses (i : Installer) (x : Firmware) : (saveStock i x).Uses Op.Saves :=
  Prog.Uses.bind (Prog.uses_request.2 (.inr ⟨_, i, x, rfl⟩)) fun _ => (ensure_uses _).mono fun _ => .inl

private theorem captureStock_uses (i : Installer) : (captureStock i).Uses Op.Saves := by
  apply Prog.Uses.bind ((request_uses (o := .isFile _) trivial).mono fun _ => .inl); intro saved
  apply Prog.Uses.when; intro _
  apply Prog.Uses.bind (saveStock_uses i .fecs); intro _
  exact (saveStock_uses i .bl).bind fun _ => saveStock_uses i .ucode

/-- What a script does after it has taken the copies. -/
def afterCapture (sha256 : Content → String) (root tmp : String) (i : Installer) : Script Unit := do
  python sha256 root tmp i
  buildHook root i
  installFiles root tmp i
  writeManifest i
  writeDefaults i
  finish i

theorem body_eq (root tmp : String) (i : Installer) :
    body sha256 root tmp i = (do
      preflight i
      captureStock i
      afterCapture sha256 root tmp i) := rfl

theorem afterCapture_uses (root tmp : String) (i : Installer) : (afterCapture sha256 root tmp i).Uses Op.Spares := by
  apply Prog.Uses.bind (python_uses ..); intro _
  apply Prog.Uses.bind (buildHook_uses ..); intro _
  apply Prog.Uses.bind (installFiles_uses ..); intro _
  apply Prog.Uses.bind (writeManifest_uses i); intro _
  exact (writeDefaults_uses i).bind fun _ => finish_uses i

/-- A script writes to the saved copies only by copying the active files. -/
theorem install_uses (root : String) (i : Installer) : (install sha256 root i).Uses Op.Saves := by
  have hbody : ∀ tmp, (body sha256 root tmp i).Uses Op.Saves := by
    intro tmp
    rw [body_eq]
    apply Prog.Uses.bind ((preflight_uses i).mono fun _ => .inl); intro _
    apply Prog.Uses.bind (captureStock_uses i); intro _
    exact (afterCapture_uses root tmp i).mono fun _ => .inl
  apply Prog.Uses.bind ((request_uses (o := .makeTemp) trivial).mono fun _ => .inl)
  rintro (_ | tmp)
  · trivial
  apply Prog.Uses.bind (hbody tmp).attempt; intro outcome
  apply Prog.Uses.bind ((cleanup_uses tmp).mono fun _ => .inl); intro _
  cases outcome <;> trivial

end

end CmpUnlocker.Install
