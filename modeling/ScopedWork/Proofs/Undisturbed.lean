import ScopedWork.Proofs.Attempt.Commit
import ScopedWork.Proofs.Root.Nesting
import ScopedWork.Proofs.Disposal

/-!
# What scoped execution leaves alone around its work

Between opening its scope and disposing it, a scoped execution works on its unit of work, on
contexts, observers, execution scopes, tokens, providers and the database. It takes locks and
frees them, but it opens no scope and makes no unit of work. `Undisturbed w₀ w` says so of a world
`w` reached from `w₀`: the ambient chains and the number of units are as they were, and every
lock that was free is free. A lock is taken only to be freed again, whatever ran meanwhile
(`UnitOfWork.locked_undisturbed`), so no operation of the library there disturbs the world, as
long as the host program's hooks do not.

An invariant that undisturbed changes keep (`Undisturbed.Stable`) is then kept by the root or
nested execution that runs in an open scope, if the work keeps it too, and by the whole
execution when opening and disposing its scope keep it (`Execution.inScope_keeps`).
-/

namespace ScopedWork

open Act

variable {σ : Type}

/-- From `w₀` to `w` the ambient chains and the number of units of work stay as they were,
and every unit whose lock was free has it free. -/
structure Undisturbed (w₀ w : World) : Prop where
  chains : w.chains = w₀.chains
  size : w.units.size = w₀.units.size
  free : ∀ v : Nat, (w₀.units[v]?.getD default).lock = .free → (w.units[v]?.getD default).lock = .free

namespace Undisturbed

variable {w₀ w w' : World}

theorem refl (w : World) : Undisturbed w w := ⟨rfl, rfl, fun _ h => h⟩

theorem trans (h₁ : Undisturbed w₀ w) (h₂ : Undisturbed w w') : Undisturbed w₀ w' :=
  ⟨h₂.chains.trans h₁.chains, h₂.size.trans h₁.size, fun v hv => h₂.free v (h₁.free v hv)⟩

/-- A change that leaves the units and the chains alone. -/
theorem of_units (h : Undisturbed w₀ w) (hu : w'.units = w.units) (hc : w'.chains = w.chains) :
    Undisturbed w₀ w' :=
  h.trans ⟨hc, by rw [hu], fun v hv => by rw [hu]; exact hv⟩

/-- A change of one unit that keeps its lock. -/
theorem setUnit (h : Undisturbed w₀ w) (u : Nat) (x : UnitState)
    (hx : x.lock = (w.units[u]?.getD default).lock) : Undisturbed w₀ (w.setUnit u x) := by
  refine h.trans ⟨rfl, by simp [World.setUnit], fun v hv => ?_⟩
  rw [World.getD_setUnit]
  split
  · rename_i hc
    rw [hx, hc.1]
    exact hv
  · exact hv

/-- An invariant that every undisturbed change keeps. -/
def Stable (I : World → Prop) : Prop := ∀ ⦃w w'⦄, I w → Undisturbed w w' → I w'

/-- An operation that leaves every start undisturbed keeps every stable invariant. -/
theorem Stable.keeps {α : Type} {I : World → Prop} (hI : Stable I) {x : Act σ α}
    (hx : ∀ w₀, Keeps (Undisturbed w₀) x) : Keeps I x :=
  .of_rel (fun w _ => refl w) (fun _ _ hi hc => hI hi hc) hx

end Undisturbed

section Library

variable {w₀ : World}

theorem undisturbed_modifyWorld {f : World → World} (hf : ∀ w, (f w).units = w.units ∧ (f w).chains = w.chains) :
    Keeps (σ := σ) (Undisturbed w₀) (Act.modifyWorld f) :=
  .modifyWorld fun w hc => hc.of_units (hf w).1 (hf w).2

theorem Cancellation.isCancelled_undisturbed (t : Nat) : Keeps (σ := σ) (Undisturbed w₀) (Cancellation.isCancelled t) :=
  .bind .world fun _ => .pure _

theorem Cancellation.suspend_undisturbed : Keeps (σ := σ) (Undisturbed w₀) Cancellation.suspend :=
  undisturbed_modifyWorld fun w => by simp [World.foldl_cancel, World.chains]

theorem Wait.roundTrip_undisturbed (wait : Wait) : Keeps (σ := σ) (Undisturbed w₀) wait.roundTrip := by
  cases wait with
  | blocking => exact .pure _
  | async t =>
    have check : Keeps (σ := σ) (Undisturbed w₀) (Cancellation.check t) :=
      .bind (Cancellation.isCancelled_undisturbed t) fun _ => .ite (.throw _) (.pure _)
    exact .bind check fun _ => .bind Cancellation.suspend_undisturbed fun _ => check

theorem Wait.pause_undisturbed (wait : Wait) : Keeps (σ := σ) (Undisturbed w₀) wait.pause := by
  cases wait with
  | blocking => exact .pure _
  | async t => exact Cancellation.suspend_undisturbed

theorem Wait.scopeToken_undisturbed (wait : Wait) : Keeps (σ := σ) (Undisturbed w₀) wait.scopeToken := by
  cases wait with
  | blocking => exact .bind .world fun _ => .bind (undisturbed_modifyWorld fun _ => ⟨rfl, rfl⟩) fun _ => .pure _
  | async t => exact .pure _

theorem Exec.modify_undisturbed (e : Nat) (f : ExecState → ExecState) : Keeps (σ := σ) (Undisturbed w₀) (Exec.modify e f) :=
  undisturbed_modifyWorld fun _ => ⟨rfl, rfl⟩

theorem Exec.create_undisturbed (u c : Nat) (nested : Bool) (t : Nat) :
    Keeps (σ := σ) (Undisturbed w₀) (Exec.create u c nested t) :=
  .bind .world fun _ => .bind (undisturbed_modifyWorld fun _ => ⟨rfl, rfl⟩) fun _ => .pure _

theorem Context.modify_undisturbed (c : Nat) (f : ContextState → ContextState) :
    Keeps (σ := σ) (Undisturbed w₀) (Context.modify c f) :=
  undisturbed_modifyWorld fun _ => ⟨rfl, rfl⟩

theorem Context.create_undisturbed : Keeps (σ := σ) (Undisturbed w₀) Context.create :=
  .bind .world fun _ => .bind (undisturbed_modifyWorld fun _ => ⟨rfl, rfl⟩) fun _ => .pure _

theorem Context.close_undisturbed (c : Nat) : Keeps (σ := σ) (Undisturbed w₀) (Context.close c) := by
  refine .bind .world fun w => .bind (Context.modify_undisturbed c _) fun _ => ?_
  cases (w.context c).txn with
  | some t => exact .database (fun _ _ hc => hc.of_units rfl rfl) _
  | none => exact .pure _

theorem Context.addInterceptor_undisturbed (c : Nat) (i : Interceptor) :
    Keeps (σ := σ) (Undisturbed w₀) (Context.addInterceptor c i) := by
  refine .bind .world fun _ => ?_
  dsimp only
  exact .ite (.bind (.throw _) fun _ => Context.modify_undisturbed c _) (Context.modify_undisturbed c _)

theorem UnitOfWork.modifyObserver_undisturbed (o : Nat) (f : ObserverState → ObserverState) :
    Keeps (σ := σ) (Undisturbed w₀) (UnitOfWork.modifyObserver o f) :=
  undisturbed_modifyWorld fun _ => ⟨rfl, rfl⟩

theorem Factory.create_undisturbed (f : Nat) :
    Keeps (σ := σ) (Undisturbed w₀) (Factory.create f) :=
  Factory.create_keeps_of (fun _ => undisturbed_modifyWorld fun _ => ⟨rfl, rfl⟩)
    Context.create_undisturbed

theorem Provider.shouldFail_undisturbed (p u : Nat) : Keeps (σ := σ) (Undisturbed w₀) (Provider.shouldFail p u) := by
  refine .bind .world fun _ => ?_
  dsimp only
  split
  · exact .pure _
  · exact .ite (.pure _) (.bind (undisturbed_modifyWorld fun _ => ⟨rfl, rfl⟩) fun _ => .pure _)

section Hooks

variable {h : Hooks σ} (hh : ∀ w₁, Hooks.Keep (Undisturbed w₁) h)
include hh

/-- Committing or rolling back the context's transaction. -/
theorem Context.finish_undisturbed {wait' : Act σ Unit} (hw : Keeps (Undisturbed w₀) wait') (act : TxnAction)
    (step : Nat → Database.Step Unit) (c : Nat) :
    Keeps (Undisturbed w₀) (do
      wait'
      let t ← Context.takeTxn c
      match ← Act.outcome (Act.database (step t)) with
      | .ok () => pure ()
      | .error e => throw (← Context.failedThrough h c act e)) := by
  refine .bind hw fun _ => .bind ?_ fun _ => .bind (.outcome (.database (fun _ _ hc => hc.of_units rfl rfl) _)) fun
    | .ok () => .pure _
    | .error e => .bind (Context.failedThrough_keeps (hh w₀) c act e) fun _ => .throw _
  exact .bind (.bind .world fun _ => .pure _) fun
    | some _ => .bind (Context.modify_undisturbed c _) fun _ => .pure _
    | none => .throw _

theorem Context.commit_undisturbed (c : Nat) (wait : Wait) : Keeps (Undisturbed w₀) (Context.commit h c wait) :=
  Context.finish_undisturbed hh (Wait.roundTrip_undisturbed wait) .commit Database.commit c

theorem Context.rollback_undisturbed (c : Nat) (wait : Wait) : Keeps (Undisturbed w₀) (Context.rollback h c wait) :=
  Context.finish_undisturbed hh (Wait.pause_undisturbed wait) .rollback Database.rollback c

end Hooks

/-! ### Units of work -/

theorem Sys.withLock_eq (s : Sys σ) (u : Nat) (l : LockState) :
    (s.withLock u l).world = s.world.setUnit u { s.world.unit u with lock := l } := by
  simp [Sys.withLock]

/-- Taking a free lock, running undisturbing work under it and freeing it disturbs nothing: the
lock is free again, and every other lock was left as the work found it. -/
theorem UnitOfWork.locked_undisturbed {α : Type} (u : Nat) {body : Act σ α}
    (hb : ∀ w₁, Keeps (Undisturbed w₁) body) : Keeps (Undisturbed w₀) (UnitOfWork.locked u body) := by
  intro s s' r hc hx
  cases hl : (s.world.units[u]?.getD default).lock with
  | free =>
    rw [UnitOfWork.locked_exec_free body hl] at hx
    obtain ⟨-, rfl⟩ := Prod.mk.inj hx
    have h₁ := hb _ (Undisturbed.refl _) (Prod.eta (exec body (s.withLock u .held))).symm
    generalize (exec body (s.withLock u .held)).2 = s₂ at h₁ ⊢
    rw [Sys.withLock_eq] at h₁ ⊢
    have hsize := h₁.size
    simp only [World.setUnit_eq, Array.size_modify] at hsize
    refine ⟨h₁.chains.trans hc.chains, by simp [World.setUnit, hsize, hc.size], fun v hv => ?_⟩
    rw [World.getD_setUnit]
    split
    · rfl
    · rename_i hne
      refine h₁.free v ?_
      rw [World.getD_setUnit, if_neg (by rwa [← hsize])]
      exact hc.free v hv
  | held =>
    simp [UnitOfWork.locked, UnitOfWork.acquire, hl] at hx
    rw [← hx.2]
    exact hc
  | disposed =>
    simp [UnitOfWork.locked, UnitOfWork.acquire, hl] at hx
    rw [← hx.2]
    exact hc

/-- A change of a unit that keeps its lock. -/
theorem UnitOfWork.modify_undisturbed (u : Nat) {f : UnitState → UnitState} (hf : ∀ x, (f x).lock = x.lock) :
    Keeps (σ := σ) (Undisturbed w₀) (UnitOfWork.modify u f) :=
  .modifyWorld fun w hc => hc.setUnit u _ (by rw [hf]; simp)

theorem UnitOfWork.context_undisturbed (u : Nat) : Keeps (σ := σ) (Undisturbed w₀) (UnitOfWork.context u) := by
  refine .bind (UnitOfWork.get_keeps u) fun _ => ?_
  split
  · exact .pure _
  refine UnitOfWork.locked_undisturbed u fun _ => .bind (UnitOfWork.get_keeps u) fun _ => ?_
  split
  · exact .pure _
  refine .bind (UnitOfWork.get_keeps u) fun _ => .bind (Factory.create_undisturbed _) fun _ => ?_
  exact .bind (UnitOfWork.modify_undisturbed u fun _ => rfl) fun _ => .pure _

theorem UnitOfWork.observer_undisturbed (u : Nat) : Keeps (σ := σ) (Undisturbed w₀) (UnitOfWork.observer u) := by
  refine .bind (UnitOfWork.get_keeps u) fun _ => ?_
  split
  · exact .pure _
  refine .bind (UnitOfWork.context_undisturbed u) fun c => UnitOfWork.locked_undisturbed u fun _ => ?_
  refine .bind (UnitOfWork.get_keeps u) fun _ => ?_
  split
  · exact .pure _
  refine .bind (UnitOfWork.get_keeps u) fun _ => .bind .world fun _ => ?_
  refine .bind (.outcome (Context.addInterceptor_undisturbed c _)) fun q => ?_
  cases q with
  | error e => exact .throw _
  | ok _ =>
    exact .bind (undisturbed_modifyWorld fun _ => ⟨rfl, rfl⟩) fun _ =>
      .bind (UnitOfWork.modify_undisturbed u fun _ => rfl) fun _ => .pure _

theorem UnitOfWork.promote_undisturbed (u : Nat) (target : UnitMode) :
    Keeps (σ := σ) (Undisturbed w₀) (UnitOfWork.promote u target) := by
  refine .bind (.bind (UnitOfWork.get_keeps u) fun _ => .pure _) fun _ => ?_
  dsimp only
  have rest : Keeps (σ := σ) (Undisturbed w₀) (do
      let m ← Act.ofExcept ((← UnitOfWork.get u).mode.transition target)
      UnitOfWork.modify u fun x => { x with mode := m }) :=
    .bind (UnitOfWork.get_keeps u) fun _ => .bind (.ofExcept _) fun _ =>
      UnitOfWork.modify_undisturbed u fun _ => rfl
  exact .ite (.bind (.throw _) fun _ => rest) rest

theorem UnitOfWork.invalidate_undisturbed (u : Nat) : Keeps (σ := σ) (Undisturbed w₀) (UnitOfWork.invalidate u) :=
  .bind (UnitOfWork.observer_undisturbed u) fun o => UnitOfWork.modifyObserver_undisturbed o _

theorem UnitOfWork.undoInvalidation_undisturbed (u : Nat) :
    Keeps (σ := σ) (Undisturbed w₀) (UnitOfWork.undoInvalidation u) :=
  .bind (UnitOfWork.observer_undisturbed u) fun o => UnitOfWork.modifyObserver_undisturbed o _

theorem UnitOfWork.prepareRoot_undisturbed (u : Nat) : Keeps (σ := σ) (Undisturbed w₀) (UnitOfWork.prepareRoot u) :=
  .bind (UnitOfWork.promote_undisturbed u _) fun _ => .bind (UnitOfWork.observer_undisturbed u) fun _ =>
    .bind (.bind (UnitOfWork.observer_undisturbed u) fun o => UnitOfWork.modifyObserver_undisturbed o _) fun _ =>
      UnitOfWork.context_undisturbed u

theorem UnitOfWork.resetAfterFailure_undisturbed (u c : Nat) :
    Keeps (σ := σ) (Undisturbed w₀) (UnitOfWork.resetAfterFailure u c) :=
  .bind (Context.modify_undisturbed c _) fun _ =>
    .bind (.outcome (.bind (UnitOfWork.observer_undisturbed u) fun o => UnitOfWork.modifyObserver_undisturbed o _)) fun _ =>
    .bind (.outcome (Context.close_undisturbed c)) fun _ =>
    .bind (.outcome (UnitOfWork.undoInvalidation_undisturbed u)) fun _ => .pure _

theorem UnitOfWork.tryFinish_undisturbed (u : Nat) {finish : Nat → Act σ Unit}
    (hf : ∀ c w₁, Keeps (Undisturbed w₁) (finish c)) : Keeps (Undisturbed w₀) (UnitOfWork.tryFinish u finish) := by
  refine .bind (UnitOfWork.context_undisturbed u) fun c => .bind (Context.hasTxn_keeps c) fun _ => ?_
  refine .ite (.pure _) (UnitOfWork.locked_undisturbed u fun _ => .bind (Context.hasTxn_keeps c) fun _ => ?_)
  exact .ite (.pure _) (.bind (hf c _) fun _ => .pure _)

section Hooks

variable {h : Hooks σ} (hh : ∀ w₁, Hooks.Keep (Undisturbed w₁) h)
include hh

theorem UnitOfWork.tryCommit_undisturbed (u : Nat) (wait : Wait) :
    Keeps (Undisturbed w₀) (UnitOfWork.tryCommit h u wait) :=
  UnitOfWork.tryFinish_undisturbed u fun c _ => Context.commit_undisturbed hh c wait

theorem UnitOfWork.tryRollbackInvalidate_undisturbed (u : Nat) (wait : Wait) :
    Keeps (Undisturbed w₀) (UnitOfWork.tryRollbackInvalidate h u wait) :=
  .bind (UnitOfWork.invalidate_undisturbed u) fun _ =>
    UnitOfWork.tryFinish_undisturbed u fun c _ => Context.rollback_undisturbed hh c wait

theorem Exec.dispose_undisturbed (e : Nat) (wait : Wait) : Keeps (Undisturbed w₀) (Exec.dispose h e wait) := by
  refine .bind (Exec.get_keeps e) fun x => .ite (.pure _) (.bind (Exec.modify_undisturbed e _) fun _ => ?_)
  exact .ite (.bind (UnitOfWork.tryRollbackInvalidate_undisturbed hh x.unit wait) fun _ => .pure _) (.pure _)

end Hooks

end Library

/-! ## Root and nested executions in an open scope -/

namespace Execution

section Stable

variable {I : World → Prop} (hI : Undisturbed.Stable I)
include hI

/-- Looking at the token and pausing keep a stable invariant, and never fail. -/
theorem waits_stable (wait : Wait) : Strategy.Waits (fun s : Sys σ => I s.world) wait.waiting := by
  intro w hw
  cases wait with
  | blocking => cases hw
  | async t =>
    cases hw
    refine ⟨fun s s' r hr hx => ⟨?_, hI.keeps (fun _ => Cancellation.isCancelled_undisturbed t) hr hx⟩,
      fun s s' r hr hx => ⟨?_, hI.keeps (fun _ => Cancellation.suspend_undisturbed) hr hx⟩⟩
    · simp only [Cancellation.isCancelled, exec_bind, exec_world, exec_pure, Prod.mk.injEq] at hx
      exact ⟨_, hx.1.symm⟩
    · rw [Cancellation.suspend_exec, Prod.mk.injEq] at hx
      exact hx.1.symm

variable {h : Hooks σ} (hh : ∀ w₁, Hooks.Keep (Undisturbed w₁) h)
include hh

theorem invokeAndRun_stable {α : Type} (e : Nat) {work : Work σ α} (hw : Work.Keeps I work)
    (wait : Wait) : Keeps I (Exec.invokeAndRun h e work wait) :=
  Exec.invokeAndRun_keeps_of (fun hb => Exec.runWork_keeps_of
    (fun _ => hI.keeps fun _ => Exec.modify_undisturbed e _)
    (fun _ => hI.keeps fun _ => Cancellation.isCancelled_undisturbed _)
    (hI.keeps fun _ => Exec.dispose_undisturbed hh e wait) hb) hw

theorem attempt_stable {α : Type} (u c : Nat) (options : Options) {work : Work σ α}
    (hw : Work.Keeps I work) (wait : Wait) : Keeps I (attempt h u c options work wait) :=
  attempt_keeps_of (hI.keeps fun _ => Wait.scopeToken_undisturbed wait)
    (fun _ => hI.keeps fun _ => Exec.create_undisturbed _ _ _ _) (fun e => invokeAndRun_stable hI hh e hw wait)
    (hI.keeps fun _ => UnitOfWork.tryCommit_undisturbed hh u wait)

/-- An attempt as the strategy runs it never fails, and keeps a stable invariant. -/
theorem once_stable {α : Type} (u c : Nat) (options : Options) {work : Work σ α}
    (hw : Work.Keeps I work) (wait : Wait) :
    Strategy.Tries (fun s : Sys σ => I s.world) (fun _ s => I s.world)
      (once h u c options work wait) id := by
  intro s s' r hi hx
  unfold once at hx
  rw [exec_bind, exec_outcome] at hx
  rcases h₁ : exec (attempt h u c options work wait) s with ⟨q, s₁⟩
  have hi₁ := attempt_stable hI hh u c options hw wait hi h₁
  rw [h₁] at hx
  cases q with
  | ok v =>
    simp only [exec_pure, Prod.mk.injEq] at hx
    obtain ⟨rfl, rfl⟩ := hx
    exact ⟨_, rfl, hi₁, fun _ he => by cases he⟩
  | error e =>
    rcases h₂ : exec (UnitOfWork.resetAfterFailure u c) s₁ with ⟨q₂, s₂⟩
    have hi₂ := hI.keeps (fun _ => UnitOfWork.resetAfterFailure_undisturbed u c) hi₁ h₂
    have hok := resetAfterFailure_ok u c s₁
    rw [h₂] at hok
    subst hok
    simp only [exec_bind, h₂, exec_pure, Prod.mk.injEq] at hx
    obtain ⟨rfl, rfl⟩ := hx
    exact ⟨_, rfl, hi₂, fun _ _ _ => hi₂⟩

/-- A root execution keeps a stable invariant that its work keeps, whatever the strategy
does. -/
theorem root_stable {α : Type} (u : Nat) (options : Options) {work : Work σ α}
    (hw : Work.Keeps I work) (wait : Wait) : Keeps I (root h u options work wait) := by
  rw [root_eq]
  refine .bind (hI.keeps fun _ => UnitOfWork.prepareRoot_undisturbed u) fun c => .bind ?_ fun _ => .ofExcept _
  intro s s' r hi hx
  obtain ⟨_, -, hend, -⟩ := Strategy.run_tries (waits_stable hI wait) (once_stable hI hh u c options hw wait)
    (fun _ _ hi => hi) _ _ hi hx
  exact hend

theorem nested_stable {α : Type} (u : Nat) {work : Work σ α} (hw : Work.Keeps I work) (wait : Wait) :
    Keeps I (nested h u work wait) := by
  refine .bind (.bind (UnitOfWork.get_keeps u) fun _ => .pure _) fun _ => ?_
  dsimp only
  split
  · exact .bind_of_ok (.throw _) fun _ _ _ _ hx => by simp at hx
  refine .bind (hI.keeps fun _ => UnitOfWork.context_undisturbed u) fun c =>
    .bind (hI.keeps fun _ => Wait.scopeToken_undisturbed wait) fun t =>
    .bind (hI.keeps fun _ => Exec.create_undisturbed u c true t) fun e =>
    .bind (invokeAndRun_stable hI hh e hw wait) fun p => ?_
  obtain ⟨v, b⟩ := p
  exact .pure v

/-- Work run through a provider that simulates conflicts keeps what the work keeps: the
provider only remembers the unit, and the commit and the conflict after the work disturb nothing. -/
theorem conflicting_stable {α : Type} (p : Nat) (afterCommit : Bool) {work : Work σ α}
    (hw : Work.Keeps I work) (wait : Wait) : Work.Keeps I (conflicting h p afterCommit work wait) := by
  intro e
  refine ⟨?_, fun s s' body hi hx => ?_⟩
  · unfold conflicting
    exact .bind (Exec.get_keeps e) fun x => .bind (hI.keeps fun _ => Provider.shouldFail_undisturbed p x.unit)
      fun _ => .bind (hw e).1 fun _ => .pure _
  unfold conflicting at hx
  obtain ⟨x, s₁, h₁, hx⟩ := exec_bind_eq_ok hx
  obtain ⟨fail, s₂, h₂, hx⟩ := exec_bind_eq_ok hx
  obtain ⟨pending, s₃, h₃, hx⟩ := exec_bind_eq_ok hx
  obtain ⟨hb, rfl⟩ := Prod.mk.inj hx
  obtain rfl := Except.ok.inj hb
  have hi₁ : I s₁.world := Exec.get_keeps e hi h₁
  have hi₂ := hI.keeps (fun _ => Provider.shouldFail_undisturbed p x.unit) hi₁ h₂
  refine .bind ((hw e).2 hi₂ h₃) fun v => ?_
  dsimp only
  split
  · split
    · exact .bind (hI.keeps fun _ => UnitOfWork.tryCommit_undisturbed hh x.unit wait) fun _ =>
        .bind (.throw _) fun _ => .pure _
    · exact .bind (.throw _) fun _ => .pure _
  · exact .pure _

/-- Root or nested, the execution in an open scope keeps a stable invariant that its work
keeps. -/
theorem scoped_stable {α : Type} (sc : Scope) (options : Options) {work : Work σ α}
    (hw : Work.Keeps I work) (wait : Wait) :
    Keeps I (if sc.root then root h sc.value options work wait else nested h sc.value work wait) :=
  .ite (root_stable hI hh _ _ hw wait) (nested_stable hI hh _ hw wait)

end Stable

/-- An execution in the scope it opens: from `I`, opening the scope leads to `J` of the scope
(or, refused, back to `I`), the work keeps `J`, and disposing the scope leads back to `I`. -/
theorem inScope_keeps {α : Type} {I : World → Prop} {J : Scope → World → Prop}
    (hJ : ∀ sc, Undisturbed.Stable (J sc)) {h : Hooks σ} (hh : ∀ w₁, Hooks.Keep (Undisturbed w₁) h)
    {p : Nat} {option : ScopeOption} {work : Work σ α} {wait : Wait}
    (hopen : ∀ ⦃factory options⦄ ⦃s s' : Sys σ⦄ ⦃sc⦄, I s.world →
      exec (Scope.activate option factory options) s = (.ok sc, s') → J sc s'.world)
    (hrefuse : ∀ ⦃factory options⦄ ⦃s s' : Sys σ⦄ ⦃e⦄, I s.world →
      exec (Scope.activate option factory options) s = (.error e, s') → I s'.world)
    (hclose : ∀ ⦃sc⦄ ⦃s s' : Sys σ⦄ ⦃r⦄, J sc s.world → exec (Scope.dispose h sc wait) s = (r, s') → I s'.world)
    (hw : ∀ sc, Work.Keeps (J sc) work) : Keeps I (inScope h p option work wait) := by
  have hext : Keeps (σ := σ) I UnitOfWork.ensureNoExternal := .bind .world fun _ => .ite (.throw _) (.pure _)
  intro s s' r hi hx
  unfold inScope at hx
  rw [exec_bind] at hx
  rcases h₁ : exec UnitOfWork.ensureNoExternal s with ⟨_ | _, s₁⟩ <;> rw [h₁] at hx
  · obtain ⟨-, rfl⟩ := Prod.mk.inj hx
    exact hext hi h₁
  have hi₁ : I s₁.world := hext hi h₁
  dsimp only at hx
  rw [exec_bind, exec_world] at hx
  dsimp only at hx
  rw [exec_bind] at hx
  rcases h₂ : exec (Scope.activate option (s₁.world.provider p).factory (s₁.world.provider p).options) s₁
    with ⟨_ | sc, s₂⟩ <;> rw [h₂] at hx
  · obtain ⟨-, rfl⟩ := Prod.mk.inj hx
    exact hrefuse hi₁ h₂
  have hj₂ := hopen hi₁ h₂
  dsimp only at hx
  obtain ⟨q, s₃, h₃, hx⟩ := exec_outcome_bind_eq hx
  have hj₃ : J sc s₃.world := by
    refine (?_ : Keeps (J sc) _) hj₂ h₃
    refine scoped_stable (hJ sc) hh sc _ ?_ wait
    split
    · exact conflicting_stable (hJ sc) hh _ _ (hw sc) wait
    · exact hw sc
  obtain ⟨d, s₄, h₄, hx⟩ := exec_outcome_bind_eq hx
  rw [exec_ofExcept, Prod.mk.injEq] at hx
  rw [← hx.2]
  exact hclose hj₃ h₄

end Execution

end ScopedWork
