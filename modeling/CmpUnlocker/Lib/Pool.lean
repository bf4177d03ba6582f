import CmpUnlocker.Lib.Prog
import Mathlib.Logic.Function.Basic

/-!
# Pools of programs

Any number of programs run side by side on one world.  At a turn the request of one program is answered, or somebody
outside the pool acts on the world; nothing is said about the order of the turns.  A run keeps what every turn of it
keeps (`Run.invariant`), and a schedule that can be played is a run (`play_run`).
-/

namespace Interaction

/-- Programs named by `ι` and the world they share. -/
structure Pool (ι Op : Type) (Res : Op → Type) (ε α W : Type) where
  programs : ι → Prog Op Res ε α
  world : W

/-- Whose turn it is: a program of the pool, or an outsider with the action `a`. -/
inductive Turn (ι A : Type)
  | program (i : ι)
  | outside (a : A)

namespace Pool

variable {ι A Op : Type} {Res : Op → Type} {ε α W : Type} [DecidableEq ι]
  {E : Env Op Res W} {F : A → W → W → Prop} {C : Pool ι Op Res ε α W → Turn ι A → Prop}
  {c c' : Pool ι Op Res ε α W}

inductive Step (E : Env Op Res W) (F : A → W → W → Prop) :
    Pool ι Op Res ε α W → Turn ι A → Pool ι Op Res ε α W → Prop
  | program {c : Pool ι Op Res ε α W} {i : ι} {o : Op} {k : Res o → Prog Op Res ε α} {r : Res o} {w : W}
      (hi : c.programs i = Prog.call o k) (h : E c.world o r w) :
      Step E F c (.program i) ⟨Function.update c.programs i (k r), w⟩
  | outside {c : Pool ι Op Res ε α W} {a : A} {w : W} (h : F a c.world w) : Step E F c (.outside a) ⟨c.programs, w⟩

/-- A run in which every turn satisfies `C` in the pool it is taken in. -/
def Run (E : Env Op Res W) (F : A → W → W → Prop) (C : Pool ι Op Res ε α W → Turn ι A → Prop) :
    Pool ι Op Res ε α W → Pool ι Op Res ε α W → Prop :=
  Relation.ReflTransGen fun c c' => ∃ t, C c t ∧ Step E F c t c'

theorem Run.invariant {I : Pool ι Op Res ε α W → Prop} (h : Run E F C c c') (h₀ : I c)
    (hstep : ∀ c t c', C c t → I c → Step E F c t c' → I c') : I c' := by
  induction h with
  | refl => exact h₀
  | tail _ hlast ih =>
    obtain ⟨t, hC, hs⟩ := hlast
    exact hstep _ t _ hC ih hs

/-! ### Playing a schedule -/

/-- The pool after one turn, if the request is answered. -/
def turn (answer : W → (o : Op) → Option (Res o × W)) (act : A → W → W) (c : Pool ι Op Res ε α W) :
    Turn ι A → Option (Pool ι Op Res ε α W)
  | .program i =>
    match c.programs i with
    | .call o k => (answer c.world o).map fun rw => ⟨Function.update c.programs i (k rw.1), rw.2⟩
    | _ => none
  | .outside a => some ⟨c.programs, act a c.world⟩

/-- The pool after the turns of a schedule, if each of them passes `ok` and is answered. -/
def play (ok : Pool ι Op Res ε α W → Turn ι A → Bool) (answer : W → (o : Op) → Option (Res o × W)) (act : A → W → W) :
    List (Turn ι A) → Pool ι Op Res ε α W → Option (Pool ι Op Res ε α W)
  | [], c => some c
  | t :: ts, c => if ok c t then (turn answer act c t).bind (play ok answer act ts) else none

theorem turn_step {answer : W → (o : Op) → Option (Res o × W)} {act : A → W → W} {t : Turn ι A}
    (hE : ∀ w o r w', answer w o = some (r, w') → E w o r w') (hF : ∀ a w, F a w (act a w))
    (h : turn answer act c t = some c') : Step E F c t c' := by
  cases t with
  | outside a =>
    simp only [turn, Option.some.injEq] at h
    subst h
    exact .outside (hF a c.world)
  | program i =>
    simp only [turn] at h
    split at h
    · rename_i o k hi
      obtain ⟨⟨r, w⟩, ha, hc⟩ := Option.map_eq_some_iff.1 h
      subst hc
      exact .program hi (hE _ _ _ _ ha)
    · cases h

/-- A schedule that can be played is a run. -/
theorem play_run {ok : Pool ι Op Res ε α W → Turn ι A → Bool} {answer : W → (o : Op) → Option (Res o × W)}
    {act : A → W → W} (hok : ∀ c t, ok c t = true → C c t) (hE : ∀ w o r w', answer w o = some (r, w') → E w o r w')
    (hF : ∀ a w, F a w (act a w)) {ts : List (Turn ι A)} (h : play ok answer act ts c = some c') : Run E F C c c' := by
  induction ts generalizing c with
  | nil =>
    simp only [play, Option.some.injEq] at h
    subst h
    exact .refl
  | cons t ts ih =>
    simp only [play] at h
    split at h
    · rename_i hc
      obtain ⟨c₁, h₁, h₂⟩ := Option.bind_eq_some_iff.1 h
      exact .head ⟨t, hok c t hc, turn_step hE hF h₁⟩ (ih h₂)
    · cases h

end Pool

end Interaction
