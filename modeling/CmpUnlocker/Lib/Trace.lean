import CmpUnlocker.Lib.Prog

/-!
# Traces

What a program has asked, and what it was answered.  `Plays p t q` says that `p` is left as `q` when its requests are
answered as in the trace `t`; a whole run plays its trace, and so does every part of it (`plays_bind_ret`).  The
environment `logged E` is `E` with the trace as a part of the world, so that assertions can speak about the past.

`Within A B p` says that all requests of `p` are in `A` and its exceptions in `B`, whatever it is answered.
-/

namespace Interaction

section

variable {Op : Type} {Res : Op → Type} {W : Type}

/-- An answered request. -/
abbrev Event {Op : Type} (Res : Op → Type) : Type := Sigma Res

/-- The environment with a record of its answers. -/
def logged (E : Env Op Res W) : Env Op Res (W × List (Event Res)) := fun w o r w' =>
  E w.1 o r w'.1 ∧ w'.2 = w.2 ++ [⟨o, r⟩]

/-- Nothing is guaranteed of the requests. -/
def unguarded : Env Op Res W := fun _ _ _ _ => True

end

namespace Prog

variable {Op : Type} {Res : Op → Type} {ε ε' α β : Type} {W : Type}

/-! ### Playing a trace -/

inductive Plays : Prog Op Res ε α → List (Event Res) → Prog Op Res ε α → Prop
  | done (p : Prog Op Res ε α) : Plays p [] p
  | answer {o : Op} {k : Res o → Prog Op Res ε α} {r : Res o} {t : List (Event Res)} {q : Prog Op Res ε α}
      (h : Plays (k r) t q) : Plays (call o k) (⟨o, r⟩ :: t) q

/-- Some part of the trace is a run of `p` that ends as `q`. -/
def Occurs (p q : Prog Op Res ε α) (t : List (Event Res)) : Prop :=
  ∃ t₁ s t₂, t = t₁ ++ s ++ t₂ ∧ Plays p s q

theorem Plays.occurs {p q : Prog Op Res ε α} {t : List (Event Res)} (h : Plays p t q) : Occurs p q t :=
  ⟨[], t, [], by simp, h⟩

theorem Occurs.append {p q : Prog Op Res ε α} {t : List (Event Res)} (h : Occurs p q t) (t₁ t₂ : List (Event Res)) :
    Occurs p q (t₁ ++ t ++ t₂) := by
  obtain ⟨s₁, s, s₂, rfl, hs⟩ := h
  exact ⟨t₁ ++ s₁, s, s₂ ++ t₂, by simp, hs⟩

theorem Occurs.append_right {p q : Prog Op Res ε α} {t : List (Event Res)} (h : Occurs p q t) (t' : List (Event Res)) :
    Occurs p q (t ++ t') :=
  h.append [] t'

theorem Occurs.append_left {p q : Prog Op Res ε α} {t : List (Event Res)} (h : Occurs p q t) (t' : List (Event Res)) :
    Occurs p q (t' ++ t) := by
  have hboth := h.append t' []
  rwa [List.append_nil] at hboth

@[simp] theorem plays_ret {a : α} {t : List (Event Res)} {q : Prog Op Res ε α} :
    Plays (ret a) t q ↔ t = [] ∧ q = ret a := by
  constructor
  · rintro ⟨⟩
    exact ⟨rfl, rfl⟩
  · rintro ⟨rfl, rfl⟩
    exact .done _

@[simp] theorem plays_throw {e : ε} {t : List (Event Res)} {q : Prog Op Res ε α} :
    Plays (throw e) t q ↔ t = [] ∧ q = throw e := by
  constructor
  · rintro ⟨⟩
    exact ⟨rfl, rfl⟩
  · rintro ⟨rfl, rfl⟩
    exact .done _

theorem plays_call_ret {o : Op} {k : Res o → Prog Op Res ε α} {t : List (Event Res)} {a : α} :
    Plays (call o k) t (ret a) ↔ ∃ r t', t = ⟨o, r⟩ :: t' ∧ Plays (k r) t' (ret a) := by
  constructor
  · rintro ⟨⟩
    exact ⟨_, _, rfl, by assumption⟩
  · rintro ⟨r, t', rfl, h⟩
    exact .answer h

/-- The parts of a run: both programs play their part of the trace. -/
theorem plays_bind_ret {p : Prog Op Res ε α} {f : α → Prog Op Res ε β} {t : List (Event Res)} {b : β} :
    Plays (p.bind f) t (ret b) ↔ ∃ t₁ t₂ a, t = t₁ ++ t₂ ∧ Plays p t₁ (ret a) ∧ Plays (f a) t₂ (ret b) := by
  induction p generalizing t with
  | ret a =>
    simp only [ret_bind, plays_ret]
    constructor
    · intro h
      exact ⟨[], t, a, rfl, ⟨rfl, rfl⟩, h⟩
    · rintro ⟨_, t₂, _, rfl, ⟨rfl, ha⟩, h⟩
      cases ha
      exact h
  | throw e => simp
  | call o k ih =>
    rw [call_bind, plays_call_ret]
    constructor
    · rintro ⟨r, t', rfl, h⟩
      obtain ⟨t₁, t₂, a, rfl, hp, hf⟩ := (ih r).1 h
      exact ⟨⟨o, r⟩ :: t₁, t₂, a, rfl, .answer hp, hf⟩
    · rintro ⟨t₁, t₂, a, rfl, hp, hf⟩
      obtain ⟨r, t', rfl, hk⟩ := plays_call_ret.1 hp
      exact ⟨r, t' ++ t₂, rfl, (ih r).2 ⟨t', t₂, a, rfl, hk, hf⟩⟩

theorem plays_forEach {body : β → Prog Op Res ε Unit} {xs : List β} {t : List (Event Res)}
    (h : Plays (forEach body xs) t (ret ())) : ∀ x ∈ xs, Occurs (body x) (ret ()) t := by
  induction xs generalizing t with
  | nil => simp
  | cons y ys ih =>
    obtain ⟨t₁, t₂, _, rfl, hbody, hrest⟩ := plays_bind_ret.1 h
    intro x hx
    rcases List.mem_cons.1 hx with rfl | hx
    · exact hbody.occurs.append_right t₂
    · exact (ih hrest x hx).append_left t₁

/-! ### Assertions about the past -/

section

variable {E G : Env Op Res W} {Q : α → W → Prop} {X : ε → W → Prop}

/-- What a program does to the world it does to the world with a trace, and the trace grows by what it plays. -/
theorem Meets.logged {p : Prog Op Res ε α} {w : W} (h : Meets E G Q X p w) (t : List (Event Res)) :
    Meets (Interaction.logged E) unguarded (fun a v => Q a v.1 ∧ ∃ s, v.2 = t ++ s ∧ Plays p s (ret a))
      (fun e v => X e v.1 ∧ ∃ s, v.2 = t ++ s ∧ Plays p s (throw e)) p (w, t) := by
  induction p generalizing w t with
  | ret a => exact ⟨h, [], by simp, .done _⟩
  | throw e => exact ⟨h, [], by simp, .done _⟩
  | call o k ih =>
    rintro r ⟨w', t'⟩ ⟨hr, ht⟩
    obtain rfl : t' = t ++ [⟨o, r⟩] := ht
    refine ⟨trivial, (ih r (h r w' hr).2 _).imp ?_ ?_⟩
    · rintro a v ⟨hQ, s, hv, hs⟩
      exact ⟨hQ, ⟨o, r⟩ :: s, by rw [hv]; simp, .answer hs⟩
    · rintro e v ⟨hX, s, hv, hs⟩
      exact ⟨hX, ⟨o, r⟩ :: s, by rw [hv]; simp, .answer hs⟩

/-- The trace grows by what a program plays. -/
theorem played (p : Prog Op Res ε α) (v : W × List (Event Res)) :
    Meets (Interaction.logged E) unguarded (fun a v' => ∃ s, v'.2 = v.2 ++ s ∧ Plays p s (ret a))
      (fun e v' => ∃ s, v'.2 = v.2 ++ s ∧ Plays p s (throw e)) p v := by
  have hfree : ∀ w, Meets E unguarded (fun _ _ => True) (fun _ _ => True) p w := by
    intro w
    induction p generalizing w with
    | ret a => trivial
    | throw e => trivial
    | call o k ih => exact fun r w' _ => ⟨trivial, ih r w'⟩
  exact ((hfree v.1).logged v.2).imp (fun _ _ h => h.2) fun _ _ h => h.2

/-- Every run has a trace. -/
theorem Steps.logged {c c' : Prog Op Res ε α × W} (h : Steps E c c') (t : List (Event Res)) :
    ∃ t', Steps (Interaction.logged E) (c.1, (c.2, t)) (c'.1, (c'.2, t')) := by
  induction h with
  | refl => exact ⟨t, Steps.refl _⟩
  | tail _ hstep ih =>
    obtain ⟨t', hrun⟩ := ih
    obtain ⟨hr⟩ := hstep
    exact ⟨t' ++ [_], hrun.trans (Steps.call ⟨hr, rfl⟩ (Steps.refl _))⟩

theorem Meets.and {Q' : α → W → Prop} {X' : ε → W → Prop} {G' : Env Op Res W} {p : Prog Op Res ε α} {w : W}
    (h : Meets E G Q X p w) (h' : Meets E G' Q' X' p w) :
    Meets E G (fun a w' => Q a w' ∧ Q' a w') (fun e w' => X e w' ∧ X' e w') p w :=
  (h.both h').mono (fun _ _ _ _ _ hG => hG.1) (fun _ _ hQ => hQ) fun _ _ hX => hX

end

/-! ### Requests and exceptions -/

/-- All requests of the program are in `A` and all its exceptions in `B`. -/
def Within (A : Op → Prop) (B : ε → Prop) : Prog Op Res ε α → Prop
  | ret _ => True
  | throw e => B e
  | call o k => A o ∧ ∀ r, Within A B (k r)

section

variable {A A' : Op → Prop} {B : ε → Prop}

theorem within_ret (a : α) : Within A B (ret a : Prog Op Res ε α) := trivial

theorem Within.bind {p : Prog Op Res ε α} {f : α → Prog Op Res ε β} (hp : Within A B p) (hf : ∀ a, Within A B (f a)) :
    Within A B (p.bind f) := by
  induction p with
  | ret a => exact hf a
  | throw e => exact hp
  | call o k ih => exact ⟨hp.1, fun r => ih r (hp.2 r)⟩

theorem Within.ite {c : Prop} [Decidable c] {p q : Prog Op Res ε α} (hp : c → Within A B p) (hq : ¬c → Within A B q) :
    Within A B (if c then p else q) := by
  split
  · next h => exact hp h
  · next h => exact hq h

theorem Within.when {c : Prop} [Decidable c] {p : Prog Op Res ε Unit} (hp : c → Within A B p) :
    Within A B (Prog.when c p) :=
  .ite hp fun _ => trivial

theorem Within.forEach {body : β → Prog Op Res ε Unit} {xs : List β} (hbody : ∀ x ∈ xs, Within A B (body x)) :
    Within A B (Prog.forEach body xs) := by
  induction xs with
  | nil => trivial
  | cons x xs ih => exact (hbody x (by simp)).bind fun _ => ih fun y hy => hbody y (by simp [hy])

theorem Within.mono {p : Prog Op Res ε α} (hp : Within A B p) (h : ∀ o, A o → A' o) : Within A' B p := by
  induction p with
  | ret a => trivial
  | throw e => exact hp
  | call o k ih => exact ⟨h o hp.1, fun r => ih r (hp.2 r)⟩

/-- A program of a smaller language, with every request answered by a program within the bounds. -/
theorem Within.interp {Op' : Type} {Res' : Op' → Type} {A' : Op' → Prop} {f : (o : Op) → Prog Op' Res' ε (Res o)}
    {p : Prog Op Res ε α} (hp : Within A B p) (hf : ∀ o, A o → Within A' B (f o)) : Within A' B (p.interp f) := by
  induction p with
  | ret a => trivial
  | throw e => exact hp
  | call o k ih => exact (hf o hp.1).bind fun r => ih r (hp.2 r)

/-- Every event of a run is one of the requests. -/
theorem Within.plays {p q : Prog Op Res ε α} {t : List (Event Res)} (hp : Within A B p) (h : Plays p t q) :
    (∀ e ∈ t, A e.1) ∧ Within A B q := by
  induction h with
  | done p => exact ⟨by simp, hp⟩
  | answer h ih =>
    obtain ⟨htail, hq⟩ := ih (hp.2 _)
    refine ⟨fun e he => ?_, hq⟩
    rcases List.mem_cons.1 he with rfl | he
    · exact hp.1
    · exact htail e he

/-- An assertion that every allowed request keeps holds at every end, and the exceptions are the allowed ones. -/
theorem Within.meets {E : Env Op Res W} {I : W → Prop} {p : Prog Op Res ε α} (hp : Within A B p)
    (hstep : ∀ w o r w', A o → I w → E w o r w' → I w') {w : W} (h : I w) :
    Meets E unguarded (fun _ w' => I w') (fun e w' => B e ∧ I w') p w := by
  induction p generalizing w with
  | ret a => exact h
  | throw e => exact ⟨hp, h⟩
  | call o k ih =>
    intro r w' hr
    exact ⟨trivial, ih r (hp.2 r) (hstep w o r w' hp.1 h hr)⟩

end

end Prog

end Interaction
