import CmpUnlocker.Lib.Pool
import Mathlib.Order.Defs.Unbundled

/-!
# Programs under interference

Between two requests of a program of a pool the others may change the world.  A preorder `R` on worlds bounds what any
of them does: each relies on the others to stay within `R` and guarantees to stay within it itself.
`Bears E R Q X p w` says that `p`, started in `w`, keeps the guarantee as long as the others do, and that its end
satisfies `Q`, or its exception `X`, whatever the others do after it.  If every program of a pool bears the others, so
does what is left of each of them after any run (`Pool.Run.bears`).
-/

namespace Interaction

namespace Prog

variable {Op : Type} {Res : Op → Type} {ε α β : Type} {W : Type}

def Bears (E : Env Op Res W) (R : W → W → Prop) (Q : α → W → Prop) (X : ε → W → Prop) : Prog Op Res ε α → W → Prop
  | ret a, w => ∀ w', R w w' → Q a w'
  | throw e, w => ∀ w', R w w' → X e w'
  | call o k, w => ∀ w₁, R w w₁ → ∀ r w₂, E w₁ o r w₂ → R w₁ w₂ ∧ Bears E R Q X (k r) w₂

variable {E : Env Op Res W} {R : W → W → Prop} {Q : α → W → Prop} {X : ε → W → Prop} {w w' : W}

theorem bears_call {o : Op} {k : Res o → Prog Op Res ε α} :
    Bears E R Q X (call o k) w ↔ ∀ w₁, R w w₁ → ∀ r w₂, E w₁ o r w₂ → R w₁ w₂ ∧ Bears E R Q X (k r) w₂ := Iff.rfl

/-- Something the others do before the program goes on. -/
theorem Bears.after [IsTrans W R] {p : Prog Op Res ε α} (h : Bears E R Q X p w) (hw : R w w') : Bears E R Q X p w' := by
  cases p with
  | ret a => exact fun w₁ hw₁ => h w₁ (trans_of R hw hw₁)
  | throw e => exact fun w₁ hw₁ => h w₁ (trans_of R hw hw₁)
  | call o k => exact fun w₁ hw₁ => h w₁ (trans_of R hw hw₁)

/-- Sequencing: the first program must end where the second one bears the others. -/
theorem bears_bind [IsPreorder W R] {Q : β → W → Prop} {p : Prog Op Res ε α} {f : α → Prog Op Res ε β} :
    Bears E R Q X (p.bind f) w ↔ Bears E R (fun a w' => Bears E R Q X (f a) w') X p w := by
  induction p generalizing w with
  | ret a => exact ⟨fun h w' hw' => h.after hw', fun h => h w (refl_of R w)⟩
  | throw e => rfl
  | call o k ih => simp only [call_bind, bears_call, ih]

theorem Bears.imp {Q' : α → W → Prop} {p : Prog Op Res ε α} (h : Bears E R Q X p w) (hQ : ∀ a w, Q a w → Q' a w) :
    Bears E R Q' X p w := by
  induction p generalizing w with
  | ret a => exact fun w' hw' => hQ a w' (h w' hw')
  | throw e => exact h
  | call o k ih =>
    intro w₁ hw₁ r w₂ hr
    obtain ⟨hR, hk⟩ := h w₁ hw₁ r w₂ hr
    exact ⟨hR, ih r hk⟩

/-- An end is reached where its assertion holds. -/
theorem Bears.of_ret [IsPreorder W R] {a : α} (h : Bears E R Q X (ret a) w) : Q a w := h w (refl_of R w)

end Prog

namespace Pool

variable {ι A Op : Type} {Res : Op → Type} {ε α W : Type} [DecidableEq ι]
  {E : Env Op Res W} {F : A → W → W → Prop} {C : Pool ι Op Res ε α W → Turn ι A → Prop} {R : W → W → Prop}
  {Q : ι → α → W → Prop} {X : ι → ε → W → Prop} {c c' : Pool ι Op Res ε α W}

/-- A turn is within the bound, and leaves every program bearing the others. -/
theorem Step.bears [IsPreorder W R] {t : Turn ι A} (hF : ∀ a w, t = .outside a → F a c.world w → R c.world w)
    (h : ∀ i, (c.programs i).Bears E R (Q i) (X i) c.world) (hs : Step E F c t c') :
    R c.world c'.world ∧ ∀ i, (c'.programs i).Bears E R (Q i) (X i) c'.world := by
  cases hs with
  | outside ha =>
    have hR : R c.world _ := hF _ _ rfl ha
    exact ⟨hR, fun i => (h i).after hR⟩
  | @program j o k r w hj hr =>
    have hcall : (Prog.call o k).Bears E R (Q j) (X j) c.world := hj ▸ h j
    obtain ⟨hR, hrest⟩ := hcall c.world (refl_of R c.world) r w hr
    refine ⟨hR, fun i => ?_⟩
    show (Function.update c.programs j (k r) i).Bears E R (Q i) (X i) w
    by_cases hij : i = j
    · subst hij
      rw [Function.update_self]
      exact hrest
    · rw [Function.update_of_ne hij]
      exact (h i).after hR

/-- After any run the world is within the bound, and the programs bear the rest of it. -/
theorem Run.bears [IsPreorder W R] (hrun : Run E F C c c')
    (hF : ∀ c a w, C c (.outside a) → F a c.world w → R c.world w)
    (h : ∀ i, (c.programs i).Bears E R (Q i) (X i) c.world) :
    R c.world c'.world ∧ ∀ i, (c'.programs i).Bears E R (Q i) (X i) c'.world := by
  induction hrun with
  | refl => exact ⟨refl_of R c.world, h⟩
  | tail _ hlast ih =>
    obtain ⟨hR, hbears⟩ := ih
    obtain ⟨t, ht, hs⟩ := hlast
    obtain ⟨hstep, hbears'⟩ := Step.bears (fun a w hout => hF _ a w (hout ▸ ht)) hbears hs
    exact ⟨trans_of R hR hstep, hbears'⟩

end Pool

end Interaction
