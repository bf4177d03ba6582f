import Mathlib.Logic.Relation

/-!
# Programs that talk to an environment

A program returns a value, fails with an exception, or issues a request `o : Op` and goes on with the answer
`r : Res o`.  An environment on a world `W` is the relation `E w o r w'`: in the world `w` the request `o` may be
answered by `r`, leaving the world `w'`.  The program of a caller is stepped one request at a time, so that a run
can be cut at every request (a kill) or interleaved with other programs.

`Meets E G Q X p w` says: whatever the environment answers from `w` on, every request taken by `p` is a `G`-step,
a normal end satisfies `Q` and an exception satisfies `X`.  It is computed along the program, so the rules for
sequencing (`meets_bind`), for handlers (`meets_handle`) and for loops (`meets_forEach`) are equivalences or follow
the recursion; `Meets.steps` carries it along a run.
-/

namespace Interaction

inductive Prog (Op : Type) (Res : Op → Type) (ε α : Type) : Type
  | ret (a : α) : Prog Op Res ε α
  | throw (e : ε) : Prog Op Res ε α
  | call (o : Op) (k : Res o → Prog Op Res ε α) : Prog Op Res ε α

/-- What an environment may answer, and the world it leaves. -/
abbrev Env (Op : Type) (Res : Op → Type) (W : Type) : Type := W → (o : Op) → Res o → W → Prop

namespace Prog

variable {Op : Type} {Res : Op → Type} {ε ε' α β : Type} {W : Type}

/-! ### Composing programs -/

protected def bind : Prog Op Res ε α → (α → Prog Op Res ε β) → Prog Op Res ε β
  | ret a, f => f a
  | throw e, _ => throw e
  | call o k, f => call o fun r => (k r).bind f

/-- Run `h` on the exception of `p`; a normal end of `p` is kept. -/
def handle : Prog Op Res ε α → (ε → Prog Op Res ε' α) → Prog Op Res ε' α
  | ret a, _ => ret a
  | throw e, h => h e
  | call o k, h => call o fun r => (k r).handle h

/-- The outcome of `p` as a value. -/
def attempt : Prog Op Res ε α → Prog Op Res ε' (Except ε α)
  | ret a => ret (.ok a)
  | throw e => ret (.error e)
  | call o k => call o fun r => (k r).attempt

def request (o : Op) : Prog Op Res ε (Res o) := call o ret

instance : Monad (Prog Op Res ε) where
  pure := ret
  bind := Prog.bind

instance : MonadExceptOf ε (Prog Op Res ε) where
  throw := throw
  tryCatch := handle

/-- Run `p` if `c` holds. -/
def when (c : Prop) [Decidable c] (p : Prog Op Res ε Unit) : Prog Op Res ε Unit := if c then p else ret ()

/-- Run `body` on every element of a list, in order. -/
def forEach (body : β → Prog Op Res ε Unit) : List β → Prog Op Res ε Unit
  | [] => ret ()
  | x :: xs => (body x).bind fun _ => forEach body xs

@[simp] theorem pure_eq (a : α) : (pure a : Prog Op Res ε α) = ret a := rfl

@[simp] theorem bind_eq (p : Prog Op Res ε α) (f : α → Prog Op Res ε β) : p >>= f = p.bind f := rfl

@[simp] theorem throw_eq (e : ε) : (MonadExcept.throw e : Prog Op Res ε α) = throw e := rfl

@[simp] theorem tryCatch_eq (p : Prog Op Res ε α) (h : ε → Prog Op Res ε α) :
    MonadExcept.tryCatch p h = p.handle h := rfl

@[simp] theorem ret_bind (a : α) (f : α → Prog Op Res ε β) : (ret a).bind f = f a := rfl

@[simp] theorem throw_bind (e : ε) (f : α → Prog Op Res ε β) : (throw e : Prog Op Res ε α).bind f = throw e := rfl

@[simp] theorem call_bind (o : Op) (k : Res o → Prog Op Res ε α) (f : α → Prog Op Res ε β) :
    (call o k).bind f = call o fun r => (k r).bind f := rfl

@[simp] theorem request_bind (o : Op) (f : Res o → Prog Op Res ε β) : (request o).bind f = call o f := rfl

@[simp] theorem ret_handle (a : α) (h : ε → Prog Op Res ε' α) : (ret a : Prog Op Res ε α).handle h = ret a := rfl

@[simp] theorem throw_handle (e : ε) (h : ε → Prog Op Res ε' α) : (throw e : Prog Op Res ε α).handle h = h e := rfl

@[simp] theorem call_handle (o : Op) (k : Res o → Prog Op Res ε α) (h : ε → Prog Op Res ε' α) :
    (call o k).handle h = call o fun r => (k r).handle h := rfl

@[simp] theorem ret_attempt (a : α) : (ret a : Prog Op Res ε α).attempt = (ret (.ok a) : Prog Op Res ε' _) := rfl

@[simp] theorem throw_attempt (e : ε) : (throw e : Prog Op Res ε α).attempt = (ret (.error e) : Prog Op Res ε' _) := rfl

@[simp] theorem call_attempt (o : Op) (k : Res o → Prog Op Res ε α) :
    (call o k).attempt = (call o fun r => (k r).attempt : Prog Op Res ε' _) := rfl

theorem bind_assoc {γ : Type} (p : Prog Op Res ε α) (f : α → Prog Op Res ε β) (g : β → Prog Op Res ε γ) :
    (p.bind f).bind g = p.bind fun a => (f a).bind g := by
  induction p with
  | ret a => rfl
  | throw e => rfl
  | call o k ih => simp only [call_bind, ih]

/-! ### Runs -/

/-- One request of the program is answered. -/
inductive Step (E : Env Op Res W) : Prog Op Res ε α × W → Prog Op Res ε α × W → Prop
  | answer {o : Op} {k : Res o → Prog Op Res ε α} {w w' : W} {r : Res o} (h : E w o r w') :
      Step E (call o k, w) (k r, w')

/-- A run of any number of answered requests.  It need not be maximal: a program may be stopped anywhere. -/
def Steps (E : Env Op Res W) : Prog Op Res ε α × W → Prog Op Res ε α × W → Prop :=
  Relation.ReflTransGen (Step E)

theorem Steps.refl {E : Env Op Res W} (c : Prog Op Res ε α × W) : Steps E c c := Relation.ReflTransGen.refl

theorem Steps.trans {E : Env Op Res W} {c₁ c₂ c₃ : Prog Op Res ε α × W} (h₁ : Steps E c₁ c₂)
    (h₂ : Steps E c₂ c₃) : Steps E c₁ c₃ :=
  Relation.ReflTransGen.trans h₁ h₂

theorem Steps.call {E : Env Op Res W} {o : Op} {k : Res o → Prog Op Res ε α} {w w' : W} {r : Res o}
    {c : Prog Op Res ε α × W} (h : E w o r w') (hs : Steps E (k r, w') c) : Steps E (Prog.call o k, w) c :=
  Relation.ReflTransGen.head (Step.answer h) hs

/-- The same run in an environment that allows more. -/
theorem Steps.mono {E F : Env Op Res W} (hE : ∀ w o r w', E w o r w' → F w o r w')
    {c c' : Prog Op Res ε α × W} (h : Steps E c c') : Steps F c c' := by
  refine Relation.ReflTransGen.mono ?_ _ _ h
  rintro _ _ ⟨hr⟩
  exact Step.answer (hE _ _ _ _ hr)

/-! ### Running against a fixed environment -/

/-- Run the program against an environment that answers its requests, up to the first one left unanswered. -/
def run (answer : W → (o : Op) → Option (Res o × W)) : Prog Op Res ε α → W → Prog Op Res ε α × W
  | ret a, w => (ret a, w)
  | throw e, w => (throw e, w)
  | call o k, w =>
    match answer w o with
    | some (r, w') => (k r).run answer w'
    | none => (call o k, w)

/-- How a program has ended, so that the end of a run on fixed answers can be decided. -/
def ended : Prog Op Res ε α → Option (ε ⊕ α)
  | ret a => some (.inr a)
  | throw e => some (.inl e)
  | call _ _ => none

theorem ended_eq_ret {p : Prog Op Res ε α} {a : α} : p.ended = some (.inr a) ↔ p = ret a := by
  cases p <;> simp [ended]

theorem ended_eq_throw {p : Prog Op Res ε α} {e : ε} : p.ended = some (.inl e) ↔ p = throw e := by
  cases p <;> simp [ended]

/-- Such a run is a run of an environment that allows the answers on the part `π` of the states, where an assertion kept
by them holds. -/
theorem steps_run_through {S : Type} {E : Env Op Res W} {answer : S → (o : Op) → Option (Res o × S)} {I : S → Prop}
    (π : S → W) (h : ∀ s o r s', I s → answer s o = some (r, s') → E (π s) o r (π s') ∧ I s') {p q : Prog Op Res ε α}
    {s s' : S} (hI : I s) (hrun : p.run answer s = (q, s')) : Steps E (p, π s) (q, π s') := by
  induction p generalizing s with
  | ret a =>
    cases hrun
    exact Steps.refl _
  | throw e =>
    cases hrun
    exact Steps.refl _
  | call o k ih =>
    unfold run at hrun
    split at hrun
    · next r s₁ hr =>
      obtain ⟨hE, hI'⟩ := h s o r s₁ hI hr
      exact Steps.call hE (ih r hI' hrun)
    · cases hrun
      exact Steps.refl _

theorem steps_run_of_keeps {E : Env Op Res W} {answer : W → (o : Op) → Option (Res o × W)} {I : W → Prop}
    (h : ∀ w o r w', I w → answer w o = some (r, w') → E w o r w' ∧ I w') (p : Prog Op Res ε α) {w : W} (hI : I w) :
    Steps E (p, w) (p.run answer w) :=
  steps_run_through id h hI rfl

theorem steps_run {E : Env Op Res W} {answer : W → (o : Op) → Option (Res o × W)}
    (h : ∀ w o r w', answer w o = some (r, w') → E w o r w') (p : Prog Op Res ε α) (w : W) :
    Steps E (p, w) (p.run answer w) :=
  steps_run_of_keeps (I := fun _ => True) (fun w o r w' _ hr => ⟨h w o r w' hr, trivial⟩) p trivial

/-- A run that ends is continued by the rest of the program. -/
theorem run_bind_of_ret {answer : W → (o : Op) → Option (Res o × W)} {p : Prog Op Res ε α} {a : α} {w w' : W}
    (h : p.run answer w = (ret a, w')) (f : α → Prog Op Res ε β) : (p.bind f).run answer w = (f a).run answer w' := by
  induction p generalizing w with
  | ret b =>
    cases h
    rfl
  | throw e => cases h
  | call o k ih =>
    simp only [call_bind, run] at h ⊢
    cases hr : answer w o with
    | none =>
      rw [hr] at h
      cases h
    | some next =>
      rw [hr] at h
      exact ih next.1 h

theorem run_attempt_of_ret {answer : W → (o : Op) → Option (Res o × W)} {p : Prog Op Res ε α} {a : α} {w w' : W}
    (h : p.run answer w = (ret a, w')) : (p.attempt : Prog Op Res ε' _).run answer w = (ret (.ok a), w') := by
  induction p generalizing w with
  | ret b =>
    cases h
    rfl
  | throw e => cases h
  | call o k ih =>
    simp only [call_attempt, run] at h ⊢
    cases hr : answer w o with
    | none =>
      rw [hr] at h
      cases h
    | some next =>
      rw [hr] at h
      exact ih next.1 h

/-! ### What every run satisfies -/

def Meets (E G : Env Op Res W) (Q : α → W → Prop) (X : ε → W → Prop) : Prog Op Res ε α → W → Prop
  | ret a, w => Q a w
  | throw e, w => X e w
  | call o k, w => ∀ r w', E w o r w' → G w o r w' ∧ Meets E G Q X (k r) w'

variable {E G : Env Op Res W} {Q : α → W → Prop} {X : ε → W → Prop}

@[simp] theorem meets_ret {a : α} {w : W} : Meets E G Q X (ret a) w ↔ Q a w := Iff.rfl

@[simp] theorem meets_throw {e : ε} {w : W} : Meets E G Q X (throw e) w ↔ X e w := Iff.rfl

theorem meets_call {o : Op} {k : Res o → Prog Op Res ε α} {w : W} :
    Meets E G Q X (call o k) w ↔ ∀ r w', E w o r w' → G w o r w' ∧ Meets E G Q X (k r) w' := Iff.rfl

theorem meets_ite {c : Prop} [Decidable c] {p q : Prog Op Res ε α} {w : W} :
    Meets E G Q X (if c then p else q) w ↔ (c → Meets E G Q X p w) ∧ (¬c → Meets E G Q X q w) := by
  split <;> simp [*]

theorem meets_when {c : Prop} [Decidable c] {Q : Unit → W → Prop} {p : Prog Op Res ε Unit} {w : W} :
    Meets E G Q X (Prog.when c p) w ↔ (c → Meets E G Q X p w) ∧ (¬c → Q () w) :=
  meets_ite

/-- Sequencing: the first program must end where the second one is fine. -/
theorem meets_bind {Q : β → W → Prop} {p : Prog Op Res ε α} {f : α → Prog Op Res ε β} {w : W} :
    Meets E G Q X (p.bind f) w ↔ Meets E G (fun a w' => Meets E G Q X (f a) w') X p w := by
  induction p generalizing w with
  | ret a => rfl
  | throw e => rfl
  | call o k ih => simp only [call_bind, meets_call, ih]

theorem meets_seq {Q : β → W → Prop} {p : Prog Op Res ε α} {f : α → Prog Op Res ε β} {w : W} :
    Meets E G Q X (p >>= f) w ↔ Meets E G (fun a w' => Meets E G Q X (f a) w') X p w :=
  meets_bind

/-- Handlers: an exception must be raised where the handler is fine. -/
theorem meets_handle {X : ε' → W → Prop} {p : Prog Op Res ε α} {h : ε → Prog Op Res ε' α} {w : W} :
    Meets E G Q X (p.handle h) w ↔ Meets E G Q (fun e w' => Meets E G Q X (h e) w') p w := by
  induction p generalizing w with
  | ret a => rfl
  | throw e => rfl
  | call o k ih => simp only [call_handle, meets_call, ih]

theorem meets_attempt {Q : Except ε α → W → Prop} {X : ε' → W → Prop} {p : Prog Op Res ε α} {w : W} :
    Meets E G Q X p.attempt w ↔ Meets E G (fun a w' => Q (.ok a) w') (fun e w' => Q (.error e) w') p w := by
  induction p generalizing w with
  | ret a => rfl
  | throw e => rfl
  | call o k ih => simp only [call_attempt, meets_call, ih]

theorem Meets.mono {Q' : α → W → Prop} {X' : ε → W → Prop} {G' : Env Op Res W} {p : Prog Op Res ε α} {w : W}
    (h : Meets E G Q X p w) (hG : ∀ w o r w', E w o r w' → G w o r w' → G' w o r w')
    (hQ : ∀ a w', Q a w' → Q' a w') (hX : ∀ e w', X e w' → X' e w') : Meets E G' Q' X' p w := by
  induction p generalizing w with
  | ret a => exact hQ a w h
  | throw e => exact hX e w h
  | call o k ih =>
    intro r w' hr
    obtain ⟨hg, hk⟩ := h r w' hr
    exact ⟨hG _ _ _ _ hr hg, ih r hk⟩

theorem Meets.imp {Q' : α → W → Prop} {X' : ε → W → Prop} {p : Prog Op Res ε α} {w : W}
    (h : Meets E G Q X p w) (hQ : ∀ a w', Q a w' → Q' a w') (hX : ∀ e w', X e w' → X' e w') :
    Meets E G Q' X' p w :=
  h.mono (fun _ _ _ _ _ hg => hg) hQ hX

theorem Meets.both {G' : Env Op Res W} {Q' : α → W → Prop} {X' : ε → W → Prop} {p : Prog Op Res ε α} {w : W}
    (h : Meets E G Q X p w) (h' : Meets E G' Q' X' p w) :
    Meets E (fun w o r w' => G w o r w' ∧ G' w o r w') (fun a w' => Q a w' ∧ Q' a w')
      (fun e w' => X e w' ∧ X' e w') p w := by
  induction p generalizing w with
  | ret a => exact ⟨h, h'⟩
  | throw e => exact ⟨h, h'⟩
  | call o k ih =>
    intro r w' hr
    obtain ⟨hg, hk⟩ := h r w' hr
    obtain ⟨hg', hk'⟩ := h' r w' hr
    exact ⟨⟨hg, hg'⟩, ih r hk hk'⟩

/-- What has been proved of a part `π` of the states. -/
theorem Meets.comap {S : Type} {F H : Env Op Res S} (π : S → W)
    (hE : ∀ s o r s', F s o r s' → E (π s) o r (π s'))
    (hG : ∀ s o r s', F s o r s' → G (π s) o r (π s') → H s o r s') {p : Prog Op Res ε α} {s : S}
    (h : Meets E G Q X p (π s)) : Meets F H (fun a s' => Q a (π s')) (fun e s' => X e (π s')) p s := by
  induction p generalizing s with
  | ret a => exact h
  | throw e => exact h
  | call o k ih =>
    intro r s' hr
    obtain ⟨hg, hk⟩ := h r (π s') (hE s o r s' hr)
    exact ⟨hG s o r s' hr hg, ih r hk⟩

/-- A loop keeps an assertion `I` about the elements still to come. -/
theorem meets_forEach {f : β → Prog Op Res ε Unit} {I : List β → W → Prop}
    (hbody : ∀ x xs w, I (x :: xs) w → Meets E G (fun _ w' => I xs w') X (f x) w) {xs : List β} {w : W}
    (h : I xs w) : Meets E G (fun _ w' => I [] w') X (forEach f xs) w := by
  induction xs generalizing w with
  | nil => exact h
  | cons x xs ih =>
    refine meets_bind.2 ((hbody x xs w h).imp (fun _ w' hw' => ih hw') fun _ _ hx => hx)

/-- A run ends where `Meets` is still true of what is left of the program. -/
theorem Meets.steps {c c' : Prog Op Res ε α × W} (h : Meets E G Q X c.1 c.2) (hs : Steps E c c') :
    Meets E G Q X c'.1 c'.2 := by
  induction hs with
  | refl => exact h
  | tail _ hstep ih =>
    obtain ⟨hr⟩ := hstep
    exact (ih _ _ hr).2

/-- The same program in an environment that allows less. -/
theorem Meets.restrict {F : Env Op Res W} {p : Prog Op Res ε α} {w : W} (h : Meets E G Q X p w)
    (hE : ∀ w o r w', F w o r w' → E w o r w') : Meets F G Q X p w := by
  induction p generalizing w with
  | ret a => exact h
  | throw e => exact h
  | call o k ih =>
    intro r w' hr
    obtain ⟨hg, hk⟩ := h r w' (hE w o r w' hr)
    exact ⟨hg, ih r hk⟩

/-- In an environment that answers every request, a program can be run to its end. -/
theorem exists_end (hE : ∀ w o, ∃ r w', E w o r w') (p : Prog Op Res ε α) (w : W) :
    (∃ a w', Steps E (p, w) (ret a, w')) ∨ ∃ e w', Steps E (p, w) (throw e, w') := by
  induction p generalizing w with
  | ret a => exact .inl ⟨a, w, Steps.refl _⟩
  | throw e => exact .inr ⟨e, w, Steps.refl _⟩
  | call o k ih =>
    obtain ⟨r, w₁, hr⟩ := hE w o
    rcases ih r w₁ with ⟨a, w', hs⟩ | ⟨e, w', hs⟩
    · exact .inl ⟨a, w', Steps.call hr hs⟩
    · exact .inr ⟨e, w', Steps.call hr hs⟩

/-- An assertion that every guaranteed step keeps holds after every run. -/
theorem Meets.invariant {I : W → Prop} {c c' : Prog Op Res ε α × W} (h : Meets E G Q X c.1 c.2) (hs : Steps E c c')
    (hstep : ∀ w o r w', E w o r w' → G w o r w' → I w → I w') (hI : I c.2) : I c'.2 := by
  induction hs with
  | refl => exact hI
  | tail hrun hlast ih =>
    have hmeets := h.steps hrun
    obtain ⟨hr⟩ := hlast
    exact hstep _ _ _ _ hr (hmeets _ _ hr).1 ih

theorem Meets.of_ret {p : Prog Op Res ε α} {w w' : W} {a : α} (h : Meets E G Q X p w)
    (hs : Steps E (p, w) (ret a, w')) : Q a w' :=
  h.steps hs

theorem Meets.of_throw {p : Prog Op Res ε α} {w w' : W} {e : ε} (h : Meets E G Q X p w)
    (hs : Steps E (p, w) (throw e, w')) : X e w' :=
  h.steps hs

/-! ### Which requests a program can make -/

/-- Every request of the program, whatever was answered before it, is allowed by `A`. -/
def Uses (A : Op → Prop) : Prog Op Res ε α → Prop
  | ret _ => True
  | throw _ => True
  | call o k => A o ∧ ∀ r, Uses A (k r)

variable {A : Op → Prop}

@[simp] theorem uses_ret {a : α} : Uses A (ret a : Prog Op Res ε α) := trivial

@[simp] theorem uses_throw {e : ε} : Uses A (throw e : Prog Op Res ε α) := trivial

@[simp] theorem uses_call {o : Op} {k : Res o → Prog Op Res ε α} :
    Uses A (call o k) ↔ A o ∧ ∀ r, Uses A (k r) := Iff.rfl

@[simp] theorem uses_request {o : Op} : Uses A (request o : Prog Op Res ε (Res o)) ↔ A o := by
  simp [request]

theorem Uses.bind {p : Prog Op Res ε α} {f : α → Prog Op Res ε β} (hp : Uses A p) (hf : ∀ a, Uses A (f a)) :
    Uses A (p.bind f) := by
  induction p with
  | ret a => exact hf a
  | throw e => trivial
  | call o k ih => exact ⟨hp.1, fun r => ih r (hp.2 r)⟩

theorem Uses.handle {p : Prog Op Res ε α} {h : ε → Prog Op Res ε' α} (hp : Uses A p) (hh : ∀ e, Uses A (h e)) :
    Uses A (p.handle h) := by
  induction p with
  | ret a => trivial
  | throw e => exact hh e
  | call o k ih => exact ⟨hp.1, fun r => ih r (hp.2 r)⟩

theorem Uses.attempt {p : Prog Op Res ε α} (hp : Uses A p) : Uses A (p.attempt : Prog Op Res ε' _) := by
  induction p with
  | ret a => trivial
  | throw e => trivial
  | call o k ih => exact ⟨hp.1, fun r => ih r (hp.2 r)⟩

theorem Uses.forEach {body : β → Prog Op Res ε Unit} (hbody : ∀ x, Uses A (body x)) (xs : List β) :
    Uses A (Prog.forEach body xs) := by
  induction xs with
  | nil => trivial
  | cons x xs ih => exact (hbody x).bind fun _ => ih

@[simp] theorem uses_ite {c : Prop} [Decidable c] {p q : Prog Op Res ε α} :
    Uses A (if c then p else q) ↔ (c → Uses A p) ∧ (¬c → Uses A q) := by
  split <;> simp [*]

theorem Uses.when {c : Prop} [Decidable c] {p : Prog Op Res ε Unit} (hp : c → Uses A p) : Uses A (Prog.when c p) :=
  uses_ite.2 ⟨hp, fun _ => trivial⟩

theorem Uses.mono {A' : Op → Prop} {p : Prog Op Res ε α} (hp : Uses A p) (h : ∀ o, A o → A' o) : Uses A' p := by
  induction p with
  | ret a => trivial
  | throw e => trivial
  | call o k ih => exact ⟨h o hp.1, fun r => ih r (hp.2 r)⟩

/-- An assertion that every allowed request keeps holds at every end of the program. -/
theorem Uses.meets {I : W → Prop} (hstep : ∀ w o r w', A o → I w → E w o r w' → G w o r w' ∧ I w')
    {p : Prog Op Res ε α} (hp : Uses A p) {w : W} (h : I w) :
    Meets E G (fun _ w' => I w') (fun _ w' => I w') p w := by
  induction p generalizing w with
  | ret a => exact h
  | throw e => exact h
  | call o k ih =>
    intro r w' hr
    obtain ⟨hg, hI⟩ := hstep w o r w' hp.1 h hr
    exact ⟨hg, ih r (hp.2 r) hI⟩

/-! ### What a program can return -/

section

/-- Every value that the program can return satisfies `R`. -/
def Gives (R : α → Prop) : Prog Op Res ε α → Prop
  | ret a => R a
  | throw _ => True
  | call _ k => ∀ r, Gives R (k r)

variable {R : α → Prop}

theorem Gives.bind {R : β → Prop} (p : Prog Op Res ε α) {f : α → Prog Op Res ε β} (hf : ∀ a, Gives R (f a)) :
    Gives R (p.bind f) := by
  induction p with
  | ret a => exact hf a
  | throw e => trivial
  | call o k ih => exact ih

theorem Gives.ite {c : Prop} [Decidable c] {p q : Prog Op Res ε α} (hp : c → Gives R p) (hq : ¬c → Gives R q) :
    Gives R (if c then p else q) := by
  by_cases h : c
  · rw [if_pos h]
    exact hp h
  · rw [if_neg h]
    exact hq h

/-- What follows an attempt need only be looked at for the values that it can give. -/
theorem Uses.bind_attempt {p : Prog Op Res ε α} {f : Except ε α → Prog Op Res ε' β} (hp : Uses A p) (hR : Gives R p)
    (hok : ∀ a, R a → Uses A (f (.ok a))) (herror : ∀ e, Uses A (f (.error e))) : Uses A (p.attempt.bind f) := by
  induction p with
  | ret a => exact hok a hR
  | throw e => exact herror e
  | call o k ih => exact ⟨hp.1, fun r => ih r (hp.2 r) (hR r)⟩

end

/-! ### Programs of a smaller language -/

section

variable {Op' : Type} {Res' : Op' → Type}

/-- Answer every request of a program by running a program of another language. -/
def interp (f : (o : Op) → Prog Op' Res' ε (Res o)) : Prog Op Res ε α → Prog Op' Res' ε α
  | ret a => ret a
  | throw e => throw e
  | call o k => (f o).bind fun r => (k r).interp f

variable {f : (o : Op) → Prog Op' Res' ε (Res o)} {E' G' : Env Op' Res' W}

@[simp] theorem interp_ret (a : α) : (ret a : Prog Op Res ε α).interp f = ret a := rfl

@[simp] theorem interp_throw (e : ε) : (throw e : Prog Op Res ε α).interp f = throw e := rfl

theorem interp_bind (p : Prog Op Res ε α) (g : α → Prog Op Res ε β) :
    (p.bind g).interp f = (p.interp f).bind fun a => (g a).interp f := by
  induction p with
  | ret a => rfl
  | throw e => rfl
  | call o k ih =>
    simp only [call_bind, interp, ih]
    exact (bind_assoc _ _ _).symm

/-- If the programs that answer the requests keep an assertion, so does the whole. -/
theorem interp_meets {I : W → Prop}
    (hf : ∀ o w, I w → Meets E' G' (fun _ w' => I w') (fun _ w' => I w') (f o) w) (p : Prog Op Res ε α) {w : W}
    (h : I w) : Meets E' G' (fun _ w' => I w') (fun _ w' => I w') (p.interp f) w := by
  induction p generalizing w with
  | ret a => exact h
  | throw e => exact h
  | call o k ih =>
    refine meets_bind.2 ((hf o w h).imp (fun r w' hw' => ih r hw') fun _ _ hx => hx)

end

end Prog

end Interaction
