import ScopedWork.Proofs.Attempt.Fresh
import ScopedWork.Proofs.Root.Operations

/-!
# Preparing the unit of a root execution

A root execution first prepares its unit of work: it promotes the unit to scoped execution,
gives it a new context and attaches a new observer to that context. Whether this succeeds or
fails, it leaves the host program's state alone, and of the world it changes only units,
contexts, observers and factories: the database, the ambient chain and the providers stay as
they were (`Act.Leaves` with `World.outside`).

A preparation that succeeds, from a fresh unit that avoids commit retries and stands at the
head of the ambient chain, leaves the unit live and steady, with no transaction open and not
invalidated: ready for its first attempt.
-/

namespace ScopedWork

variable {σ : Type}

namespace Act

variable {α γ β : Type} {view : World → β}

/-- Every run of `x` leaves the host's state and `view` of the world as they were, whether it
succeeds or fails. -/
def Leaves (view : World → β) (x : Act σ α) : Prop :=
  ∀ ⦃s s' : Sys σ⦄ ⦃r : Except Fault α⦄, exec x s = (r, s') →
    s'.host = s.host ∧ view s'.world = view s.world

namespace Leaves

/-- An operation that leaves the state as it was. -/
theorem of_eq {x : Act σ α} (h : ∀ ⦃s s' r⦄, exec x s = (r, s') → s' = s) : Leaves view x := by
  intro s s' r hx
  rw [h hx]
  exact ⟨rfl, rfl⟩

theorem pure (a : α) : Leaves (σ := σ) view (Pure.pure a) :=
  of_eq fun _ _ _ hx => (Prod.mk.inj hx).2.symm

theorem world : Leaves (σ := σ) view Act.world :=
  of_eq fun _ _ _ hx => (Prod.mk.inj hx).2.symm

theorem throw (e : Fault) : Leaves (σ := σ) (α := α) view (MonadExcept.throw e) :=
  of_eq fun _ _ _ hx => (Prod.mk.inj hx).2.symm

theorem ofExcept (r : Except Fault α) : Leaves (σ := σ) view (Act.ofExcept r) :=
  of_eq fun _ _ _ hx => by rw [exec_ofExcept] at hx; exact (Prod.mk.inj hx).2.symm

theorem modifyWorld {f : World → World} (hf : ∀ w, view (f w) = view w) :
    Leaves (σ := σ) view (Act.modifyWorld f) := by
  intro s s' r hx
  rw [exec_modifyWorld] at hx
  obtain ⟨-, rfl⟩ := Prod.mk.inj hx
  exact ⟨rfl, hf _⟩

theorem bind {x : Act σ α} {f : α → Act σ γ} (hx : Leaves view x) (hf : ∀ a, Leaves view (f a)) :
    Leaves view (x >>= f) := by
  intro s s' r hy
  rw [exec_bind] at hy
  rcases h₁ : exec x s with ⟨q, s₁⟩
  obtain ⟨hh₁, hv₁⟩ := hx h₁
  rw [h₁] at hy
  cases q with
  | ok a =>
    obtain ⟨hh, hv⟩ := hf a hy
    exact ⟨hh.trans hh₁, hv.trans hv₁⟩
  | error e =>
    obtain ⟨-, rfl⟩ := Prod.mk.inj hy
    exact ⟨hh₁, hv₁⟩

theorem outcome {x : Act σ α} (hx : Leaves view x) : Leaves view (Act.outcome x) := by
  intro s s' r hy
  rw [exec_outcome] at hy
  rcases h₁ : exec x s with ⟨q, s₁⟩
  rw [h₁] at hy
  obtain ⟨-, rfl⟩ := Prod.mk.inj hy
  exact hx h₁

end Leaves

end Act

/-- What preparing a unit of work leaves alone: the database, the ambient chain and the
providers. -/
def World.outside (w : World) : Database × Array Node × Chain × Option Chain × Array Provider :=
  (w.db, w.nodes, w.thread, w.flow, w.providers)

/-! ### Preparing leaves the outside alone -/

section Outside

open Act

theorem UnitOfWork.get_leaves (u : Nat) : Leaves (σ := σ) World.outside (UnitOfWork.get u) :=
  .bind .world fun _ => .pure _

theorem UnitOfWork.modify_leaves (u : Nat) (f : UnitState → UnitState) :
    Leaves (σ := σ) World.outside (UnitOfWork.modify u f) :=
  .modifyWorld fun _ => rfl

theorem UnitOfWork.locked_leaves {α : Type} (u : Nat) {body : Act σ α}
    (hb : Leaves World.outside body) : Leaves World.outside (UnitOfWork.locked u body) := by
  refine .bind ?_ fun _ => .bind (.outcome hb) fun _ =>
    .bind (UnitOfWork.modify_leaves u _) fun _ => .ofExcept _
  refine .bind (UnitOfWork.get_leaves u) fun x => ?_
  split
  · exact UnitOfWork.modify_leaves u _
  · exact .throw _
  · exact .throw _

theorem Context.create_leaves : Leaves (σ := σ) World.outside Context.create :=
  .bind .world fun _ => .bind (.modifyWorld fun _ => rfl) fun _ => .pure _

theorem Factory.create_leaves (f : Nat) : Leaves (σ := σ) World.outside (Factory.create f) := by
  refine .bind .world fun _ => ?_
  dsimp only
  split
  · exact .bind (.modifyWorld fun _ => rfl) fun _ => .throw _
  · exact .bind (.modifyWorld fun _ => rfl) fun _ => Context.create_leaves

theorem UnitOfWork.context_leaves (u : Nat) : Leaves (σ := σ) World.outside (UnitOfWork.context u) := by
  refine .bind (UnitOfWork.get_leaves u) fun x => ?_
  split
  · exact .pure _
  · refine UnitOfWork.locked_leaves u (.bind (UnitOfWork.get_leaves u) fun _ => ?_)
    split
    · exact .pure _
    · exact .bind (UnitOfWork.get_leaves u) fun _ => .bind (Factory.create_leaves _) fun _ =>
        .bind (UnitOfWork.modify_leaves u _) fun _ => .pure _

theorem Context.addInterceptor_leaves (c : Nat) (i : Interceptor) :
    Leaves (σ := σ) World.outside (Context.addInterceptor c i) := by
  refine .bind .world fun _ => ?_
  dsimp only
  split
  · exact .bind (.throw _) fun _ => .modifyWorld fun _ => rfl
  · exact .modifyWorld fun _ => rfl

theorem UnitOfWork.observer_leaves (u : Nat) : Leaves (σ := σ) World.outside (UnitOfWork.observer u) := by
  refine .bind (UnitOfWork.get_leaves u) fun _ => ?_
  split
  · exact .pure _
  · refine .bind (UnitOfWork.context_leaves u) fun c =>
      UnitOfWork.locked_leaves u (.bind (UnitOfWork.get_leaves u) fun _ => ?_)
    split
    · exact .pure _
    · refine .bind (UnitOfWork.get_leaves u) fun _ => .bind .world fun _ => ?_
      refine .bind (.outcome (Context.addInterceptor_leaves c _)) fun
        | .error _ => .throw _
        | .ok () => ?_
      exact .bind (.modifyWorld fun _ => rfl) fun _ =>
        .bind (UnitOfWork.modify_leaves u _) fun _ => .pure _

theorem UnitOfWork.promote_leaves (u : Nat) (target : UnitMode) :
    Leaves (σ := σ) World.outside (UnitOfWork.promote u target) := by
  have change : Leaves (σ := σ) World.outside (do
      let m ← Act.ofExcept ((← UnitOfWork.get u).mode.transition target)
      UnitOfWork.modify u fun x => { x with mode := m }) :=
    .bind (UnitOfWork.get_leaves u) fun _ => .bind (.ofExcept _) fun _ => UnitOfWork.modify_leaves u _
  refine .bind (.bind (UnitOfWork.get_leaves u) fun _ => .pure _) fun disposed => ?_
  cases disposed with
  | false => exact change
  | true => exact .bind (.throw _) fun _ => change

/-- Preparing a unit, whether it succeeds or fails, leaves the host's state, the database,
the ambient chain and the providers alone. -/
theorem UnitOfWork.prepareRoot_leaves (u : Nat) :
    Leaves (σ := σ) World.outside (UnitOfWork.prepareRoot u) :=
  .bind (UnitOfWork.promote_leaves u _) fun _ => .bind (UnitOfWork.observer_leaves u) fun _ =>
    .bind (.bind (UnitOfWork.observer_leaves u) fun _ => .modifyWorld fun _ => rfl) fun _ =>
      UnitOfWork.context_leaves u

end Outside

/-! ### A prepared unit is live -/

open Act Execution in
/-- Preparing a fresh unit that avoids commit retries, ambient at the head of the current chain
with no external transaction, over a database that keeps its invariant: when it succeeds, the
unit is live and steady, with no transaction open and not invalidated. -/
theorem UnitOfWork.prepareRoot_live {s s' : Sys σ} {u c : Nat} (hc : (s.world.unit u).context = none)
    (ho : (s.world.unit u).observer = none) (hfree : (s.world.unit u).lock = .free)
    (hu : u < s.world.units.size) (havoid : (s.world.unit u).options.avoidCommitRetries = true)
    (hext : (s.world.flow.getD s.world.thread).external = 0)
    (hamb : ∃ r, (s.world.flow.getD s.world.thread).head = some r ∧ r < s.world.nodes.size ∧
      ((s.world.nodes[r]?.getD default).kind, (s.world.nodes[r]?.getD default).value) =
        (UnitState.typeName, u) ∧ (s.world.nodes[r]?.getD default).disposed = false)
    (hs : Database.Serial s.world.db) (hx : exec (UnitOfWork.prepareRoot u) s = (.ok c, s')) :
    ∃ o, Live u c o s'.world ∧ Steady u o s'.world ∧ (s'.world.contexts[c]?.getD default).txn = none ∧
      (s'.world.observers[o]?.getD default).aborted = false := by
  obtain ⟨o, hr, hshape, hint, hclt, hlock⟩ := UnitOfWork.prepareRoot_clean hc ho hfree hu hx
  obtain ⟨-, hout⟩ := UnitOfWork.prepareRoot_leaves u hx
  simp only [World.outside, Prod.mk.injEq] at hout
  obtain ⟨hdb, hnodes, hthread, hflow, -⟩ := hout
  refine ⟨o, ⟨hr.unit, by rw [hshape, havoid], hint, hr.unit_lt, hclt, hr.observer_lt, ?_, ?_, ?_, ?_⟩,
    ⟨hlock, hr.not_saving⟩, hr.no_txn, hr.not_invalidated⟩
  · rw [hflow, hthread]
    exact hext
  · rw [hflow, hthread, hnodes]
    exact hamb
  · rw [hdb]
    exact hs
  · intro t ht
    rw [hr.no_txn] at ht
    cases ht

end ScopedWork
