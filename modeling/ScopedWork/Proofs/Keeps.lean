import ScopedWork.Proofs.Act

/-!
# Invariants of operations

An operation keeps a property of the world when every run of it, from a world that has the
property, ends in one that has it again, whether it ends with a value or with a failure.
The rules below build that along the shape of an operation: binding, reading, changing the
world in a way that keeps the property, branching, and looping over a list. Operations
that cannot fail (`Run`) have the same notion.

The host program takes part through its hooks. Where a property must survive them, the
hooks are assumed to keep it (`Hooks.Keep`): the library cannot know what they do.
-/

namespace ScopedWork

variable {σ : Type}

namespace Act

variable {α β γ : Type} {I : World → Prop}

/-- From a world with `I`, every run of `x` ends in a world with `I`. -/
def Keeps (I : World → Prop) (x : Act σ α) : Prop :=
  ∀ ⦃s s' : Sys σ⦄ ⦃r : Except Fault α⦄, I s.world → exec x s = (r, s') → I s'.world

namespace Keeps

theorem pure (a : α) : Keeps (σ := σ) I (Pure.pure a) := by
  intro s s' r hi hx
  obtain ⟨-, rfl⟩ := Prod.mk.inj hx
  exact hi

/-- Binding, where the continuation needs to keep `I` only for the values that `x` gives
from a world with `I`. -/
theorem bind_of_ok {x : Act σ α} {f : α → Act σ β} (hx : Keeps I x)
    (hf : ∀ ⦃s s' a⦄, I s.world → exec x s = (.ok a, s') → Keeps I (f a)) : Keeps I (x >>= f) := by
  intro s s' r hi hy
  rw [exec_bind] at hy
  rcases h₁ : exec x s with ⟨q, s₁⟩
  have hi₁ := hx hi h₁
  rw [h₁] at hy
  cases q with
  | ok a => exact hf hi h₁ hi₁ hy
  | error e =>
    obtain ⟨-, rfl⟩ := Prod.mk.inj hy
    exact hi₁

theorem bind {x : Act σ α} {f : α → Act σ β} (hx : Keeps I x) (hf : ∀ a, Keeps I (f a)) :
    Keeps I (x >>= f) :=
  bind_of_ok hx fun _ _ a _ _ => hf a

/-- An operation that leaves the world as it was keeps everything. -/
theorem of_world_eq {x : Act σ α} (h : ∀ ⦃s s' r⦄, exec x s = (r, s') → s'.world = s.world) :
    Keeps I x := by
  intro s s' r hi hx
  rw [h hx]
  exact hi

theorem world : Keeps (σ := σ) I Act.world :=
  of_world_eq fun _ _ _ hx => by cases hx; rfl

theorem host : Keeps (σ := σ) I Act.host :=
  of_world_eq fun _ _ _ hx => by cases hx; rfl

theorem modifyHost (f : σ → σ) : Keeps I (Act.modifyHost f) :=
  of_world_eq fun _ _ _ hx => by cases hx; rfl

theorem throw (e : Fault) : Keeps (σ := σ) (α := α) I (MonadExcept.throw e) :=
  of_world_eq fun _ _ _ hx => by cases hx; rfl

theorem ofExcept (r : Except Fault α) : Keeps (σ := σ) I (Act.ofExcept r) :=
  of_world_eq fun _ _ _ hx => by rw [exec_ofExcept] at hx; cases hx; rfl

theorem outcome {x : Act σ α} (hx : Keeps I x) : Keeps I (Act.outcome x) := by
  intro s s' r hi hy
  rw [exec_outcome] at hy
  rcases h₁ : exec x s with ⟨q, s₁⟩
  rw [h₁] at hy
  cases q <;>
  · obtain ⟨-, rfl⟩ := Prod.mk.inj hy
    exact hx hi h₁

theorem modifyWorld {f : World → World} (hf : ∀ w, I w → I (f w)) :
    Keeps (σ := σ) I (Act.modifyWorld f) := by
  intro s s' r hi hx
  obtain ⟨-, rfl⟩ := Prod.mk.inj hx
  exact hf _ hi

/-- A database step changes the database only. -/
theorem database (hdb : ∀ w db, I w → I { w with db }) (x : Database.Step α) :
    Keeps (σ := σ) I (Act.database x) := by
  intro s s' r hi hx
  rw [exec_database] at hx
  obtain ⟨-, rfl⟩ := Prod.mk.inj hx
  exact hdb _ _ hi

theorem ite {c : Prop} [Decidable c] {x y : Act σ α} (hx : Keeps I x) (hy : Keeps I y) :
    Keeps I (if c then x else y) := by
  split
  · exact hx
  · exact hy

theorem forM {l : List γ} {f : γ → Act σ PUnit} (hf : ∀ a ∈ l, Keeps I (f a)) :
    Keeps I (l.forM f) := by
  induction l with
  | nil => exact pure _
  | cons a l ih =>
    show Keeps I (f a >>= fun _ => l.forM f)
    exact bind (hf a (.head _)) fun _ => ih fun b hb => hf b (.tail _ hb)

end Keeps

end Act

namespace Run

variable {α γ : Type} {I : World → Prop}

/-- From a world with `I`, the run ends in a world with `I`. -/
def Keeps (I : World → Prop) (x : Run σ α) : Prop := ∀ s, I s.world → I (x.run s).2.world

namespace Keeps

theorem pure (a : α) : Keeps (σ := σ) I (Pure.pure a) := fun _ hi => hi

theorem bind {β : Type} {x : Run σ α} {f : α → Run σ β} (hx : Keeps I x)
    (hf : ∀ a, Keeps I (f a)) : Keeps I (x >>= f) :=
  fun s hi => hf _ _ (hx s hi)

theorem world : Keeps (σ := σ) I Run.world := fun _ hi => hi

theorem foldlM {l : List γ} {f : α → γ → Run σ α} (hf : ∀ a b, Keeps I (f a b)) :
    ∀ init, Keeps I (l.foldlM f init) := by
  induction l with
  | nil => exact pure
  | cons b l ih => exact fun init => bind (hf init b) ih

end Keeps

end Run

theorem Act.Keeps.ofRun {α : Type} {I : World → Prop} {x : Run σ α} (hx : Run.Keeps I x) :
    Act.Keeps I (Act.ofRun x) := by
  intro s s' r hi hy
  rw [exec_ofRun] at hy
  obtain ⟨-, rfl⟩ := Prod.mk.inj hy
  exact hx s hi

section Relations

variable {α : Type} {P : World → World → Prop} {Q : World → Prop}

/-- An operation that relates every start to its end by `P` keeps any `Q` that `P` carries
along. -/
theorem Act.Keeps.of_rel {x : Act σ α} (hrefl : ∀ w, Q w → P w w)
    (hstep : ∀ w w', Q w → P w w' → Q w') (hx : ∀ w₁, Act.Keeps (P w₁) x) : Act.Keeps Q x :=
  fun s _ _ hq hy => hstep _ _ hq (hx s.world (hrefl _ hq) hy)

theorem Run.Keeps.of_rel {x : Run σ α} (hrefl : ∀ w, Q w → P w w)
    (hstep : ∀ w w', Q w → P w w' → Q w') (hx : ∀ w₁, Run.Keeps (P w₁) x) : Run.Keeps Q x :=
  fun s hq => hstep _ _ hq (hx s.world s (hrefl _ hq))

end Relations

/-- The host program's hooks keep `I`. -/
structure Hooks.Keep (I : World → Prop) (h : Hooks σ) : Prop where
  guard : ∀ k g, Act.Keeps I (h.guard k g)
  enlist : ∀ k p, Act.Keeps I (h.enlist k p)
  failed : ∀ k a e, Run.Keeps I (h.failed k a e)
  notice : ∀ k n, Run.Keeps I (h.notice k n)
  listen : ∀ k, Act.Keeps I (h.listen k)

/-- Hooks that relate every start to its end by `P` keep any `Q` that `P` carries along. -/
theorem Hooks.Keep.of_rel {h : Hooks σ} {P : World → World → Prop} {Q : World → Prop}
    (hrefl : ∀ w, Q w → P w w) (hstep : ∀ w w', Q w → P w w' → Q w')
    (hh : ∀ w₁, Hooks.Keep (P w₁) h) : Hooks.Keep Q h where
  guard k g := .of_rel hrefl hstep fun w₁ => (hh w₁).guard k g
  enlist k p := .of_rel hrefl hstep fun w₁ => (hh w₁).enlist k p
  failed k a e := .of_rel hrefl hstep fun w₁ => (hh w₁).failed k a e
  notice k n := .of_rel hrefl hstep fun w₁ => (hh w₁).notice k n
  listen k := .of_rel hrefl hstep fun w₁ => (hh w₁).listen k

/-- Hooks that do nothing: no guard, no enlistment, every failure reported as it is. -/
def Hooks.quiet : Hooks σ where
  guard _ _ := pure ()
  enlist _ _ := pure .unchanged
  failed _ _ e := pure e
  notice _ _ := pure ()
  listen _ := pure ()

theorem Hooks.quiet_keep (I : World → Prop) : Hooks.Keep I (Hooks.quiet (σ := σ)) where
  guard _ _ := .pure _
  enlist _ _ := .pure _
  failed _ _ _ := .pure _
  notice _ _ := .pure _
  listen _ := .pure _

end ScopedWork
