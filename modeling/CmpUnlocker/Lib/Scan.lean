import Mathlib.Data.List.Basic

/-!
# Analyses in one pass

A listing is executed from instruction to instruction.  An analysis goes through it once, in order, whatever the order
of execution is: it keeps something that is known about the state, forgets some of it before an instruction that control
can enter from elsewhere, and takes the effect of the instruction into account.  It is sound if nothing is known where
control enters from elsewhere (`known_sound`).
-/

namespace Scan

variable {I S A : Type}

/-- `i` is reached with the state `s`, from the first instruction and any state. -/
inductive Reaches (effect : I → S → S → Prop) (goes : ℕ → ℕ → Prop) (prog : List I) : ℕ → S → Prop
  | start (s : S) : Reaches effect goes prog 0 s
  | step {i j : ℕ} {s s' : S} {ins : I} (h : Reaches effect goes prog i s) (hi : prog[i]? = some ins)
      (he : effect ins s s') (hg : goes i j) : Reaches effect goes prog j s'

/-- What is known behind the first `i` instructions. -/
def known (transfer : I → A → A) (start : A) (prog : List I) (i : ℕ) : A :=
  (prog.take i).foldl (fun a ins => transfer ins a) start

theorem known_succ {transfer : I → A → A} {start : A} {prog : List I} {i : ℕ} {ins : I} (h : prog[i]? = some ins) :
    known transfer start prog (i + 1) = transfer ins (known transfer start prog i) := by
  obtain ⟨hlt, hins⟩ := List.getElem?_eq_some_iff.1 h
  rw [known, List.take_succ_eq_append_getElem hlt, List.foldl_append, hins]
  rfl

variable {effect : I → S → S → Prop} {goes : ℕ → ℕ → Prop} {prog : List I} {enter transfer : I → A → A} {start : A}
  {Holds : A → S → Prop}

/-- What is known at an instruction holds of every state that reaches it. -/
theorem known_sound (hstart : ∀ s, Holds start s) (henter : ∀ ins a s, Holds a s → Holds (enter ins a) s)
    (htransfer : ∀ ins ∈ prog, ∀ a s s', Holds (enter ins a) s → effect ins s s' → Holds (transfer ins a) s')
    (hgoes : ∀ i j, goes i j → j = i + 1 ∨
      ∀ ins, prog[j]? = some ins → ∀ s, Holds (enter ins (known transfer start prog j)) s)
    {i : ℕ} {s : S} (h : Reaches effect goes prog i s) {ins : I} (hi : prog[i]? = some ins) :
    Holds (enter ins (known transfer start prog i)) s := by
  induction h generalizing ins with
  | start s => exact henter ins _ s (hstart s)
  | @step i j s s' before hreach hbefore heffect hgo ih =>
    have hmem : before ∈ prog := List.mem_of_getElem? hbefore
    have hbehind : Holds (known transfer start prog (i + 1)) s' := by
      rw [known_succ hbefore]
      exact htransfer before hmem _ s s' (ih hbefore) heffect
    rcases hgoes i j hgo with rfl | hunknown
    · exact henter ins _ s' hbehind
    · exact hunknown ins hi s'

/-- What a pass notes on its way. -/
def collect {R : Type} (transfer : I → A → A) (emit : A → I → Option R) (a : A) : List I → List R
  | [] => []
  | ins :: prog => (emit a ins).toList ++ collect transfer emit (transfer ins a) prog

/-- It is noted at each instruction with what is known there. -/
theorem collect_eq {R : Type} (transfer : I → A → A) (emit : A → I → Option R) (start : A) (prog : List I) :
    collect transfer emit start prog =
      (List.range prog.length).filterMap fun i => prog[i]?.bind (emit (known transfer start prog i)) := by
  induction prog generalizing start with
  | nil => rfl
  | cons ins prog ih =>
    rw [collect, ih, List.length_cons, List.range_succ_eq_map, List.filterMap_cons, List.filterMap_map]
    have hfirst : (ins :: prog)[0]?.bind (emit (known transfer start (ins :: prog) 0)) = emit start ins := rfl
    have hrest : (fun i => (ins :: prog)[i]?.bind (emit (known transfer start (ins :: prog) i))) ∘ Nat.succ =
        fun i => prog[i]?.bind (emit (known transfer (transfer ins start) prog i)) := rfl
    rw [hfirst, hrest]
    cases emit start ins <;> rfl

end Scan
