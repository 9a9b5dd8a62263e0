import ScopedWork.Proofs.Waiting.Blind
import ScopedWork.Proofs.Root.Nesting

/-!
# Blocking and waiting under a token that is never cancelled

A blocking run and a run that waits under a cancellation token `t` are at the same point
(`Wait.Agree`) when they observe the same world, the token is not cancelled, and no task is
spawned that could cancel it: every round trip and every pause of the waiting run then
returns at once and changes nothing. The chain's head is none or a live entry, so that the
scopes entered later can be left again.

`Wait.Sim t x y` says that `x`, run blocking, and `y`, run waiting under `t`, do the same
from any two states at the same point: they return the same and end at the same point again,
and each leaves the chains alone. The rules below build this along the shape of the two
operations, which differ only in how they wait; what does not wait is blind (`Act.Blind`)
and so alike on both sides. Every operation on a context, a unit of work and an execution
scope that waits comes out alike blocking and waiting under `t`.
-/

namespace ScopedWork

open Act Execution

variable {σ : Type}

namespace World

/-- The chain's head is no entry, or a live one. -/
def HeadLive (w : World) : Prop :=
  ∀ r, w.chain.head = some r → r < w.nodes.size ∧ (w.nodes[r]?.getD default).disposed = false

namespace HeadLive

variable {w w' : World}

theorem of_stays (h : w.HeadLive) (hs : Stays w w') : w'.HeadLive := by
  intro r hr
  have hr' : w.chain.head = some r := by
    rw [← hr]
    exact congrArg Chain.head hs.chain.symm
  obtain ⟨hlt, hlive⟩ := h r hr'
  exact ⟨Nat.lt_of_lt_of_le hlt hs.nodes_size, by rw [hs.node hlt]; exact hlive⟩

/-- The chain and the entries are observed as they are. -/
theorem of_observed (h : w.HeadLive) (ho : w.observed = w'.observed) : w'.HeadLive := by
  have hc : w'.chain = w.chain := (congrArg World.thread ho).symm
  have hn : w'.nodes = w.nodes := (congrArg World.nodes ho).symm
  intro r hr
  rw [hc] at hr
  rw [hn]
  exact h r hr

end HeadLive

end World

theorem Act.Quiet.stays {w w' : World} (h : Act.Quiet w w') : Stays w w' :=
  Stays.of_eq h.thread h.flow h.nodes

namespace Wait

variable {α β γ : Type} {t : Nat}

/-- A blocking run at `s₁` and a run waiting under token `t` at `s₂` are at the same point. -/
structure Agree (t : Nat) (s₁ s₂ : Sys σ) : Prop where
  observed : s₁.observed = s₂.observed
  uncancelled : s₂.world.cancelled t = false
  idle : s₂.world.spawned = []
  head : s₁.world.HeadLive

/-- `x` run blocking from `s₁` and `y` run waiting under `t` from `s₂` return the same, end at
the same point, and leave the chains alone. -/
def Alike (t : Nat) (x y : Act σ α) (s₁ s₂ : Sys σ) : Prop :=
  (exec x s₁).1 = (exec y s₂).1 ∧ Agree t (exec x s₁).2 (exec y s₂).2 ∧
    Stays s₁.world (exec x s₁).2.world ∧ Stays s₂.world (exec y s₂).2.world

/-- `x` run blocking and `y` run waiting under `t` are alike from any two states at the same
point. -/
def Sim (t : Nat) (x y : Act σ α) : Prop :=
  ∀ ⦃s₁ s₂ : Sys σ⦄, Agree t s₁ s₂ → Alike t x y s₁ s₂

namespace Agree

variable {s₁ s₂ : Sys σ}

theorem world (h : Agree t s₁ s₂) : s₁.world.observed = s₂.world.observed :=
  (Sys.observed_eq_iff.mp h.observed).2

theorem host (h : Agree t s₁ s₂) : s₁.host = s₂.host :=
  (Sys.observed_eq_iff.mp h.observed).1

theorem db (h : Agree t s₁ s₂) : s₁.world.db = s₂.world.db := by
  have hdb := congrArg World.db h.world
  exact hdb

theorem head₂ (h : Agree t s₁ s₂) : s₂.world.HeadLive :=
  h.head.of_observed h.world

end Agree

namespace Alike

variable {s₁ s₂ s₁' s₂' : Sys σ}

/-- Alike runs followed by alike operations are alike. -/
theorem bind {x y : Act σ α} {f g : α → Act σ β} (hxy : Alike t x y s₁ s₂)
    (hf : ∀ a, Sim t (f a) (g a)) : Alike t (x >>= f) (y >>= g) s₁ s₂ := by
  unfold Alike at hxy ⊢
  rw [exec_bind, exec_bind]
  rcases hx₁ : exec x s₁ with ⟨q, s₁'⟩
  rcases hy₂ : exec y s₂ with ⟨q', s₂'⟩
  rw [hx₁, hy₂] at hxy
  obtain ⟨hr, h₁, hs₁, hs₂⟩ := hxy
  obtain rfl : q = q' := hr
  cases q with
  | ok a =>
    obtain ⟨hr', h', hs₁', hs₂'⟩ := hf a h₁
    exact ⟨hr', h', hs₁.trans hs₁', hs₂.trans hs₂'⟩
  | error e => exact ⟨rfl, h₁, hs₁, hs₂⟩

/-- Running `x` from `s₁` is running `x'` from `s₁'`, after a step that keeps the chains, and
likewise on the waiting side. -/
theorem of_exec {x x' y y' : Act σ α} (hx : exec x s₁ = exec x' s₁') (hy : exec y s₂ = exec y' s₂')
    (hs₁ : Stays s₁.world s₁'.world) (hs₂ : Stays s₂.world s₂'.world) (h : Alike t x' y' s₁' s₂') :
    Alike t x y s₁ s₂ := by
  unfold Alike at h ⊢
  rw [hx, hy]
  exact ⟨h.1, h.2.1, hs₁.trans h.2.2.1, hs₂.trans h.2.2.2⟩

end Alike

namespace Sim

theorem pure (a : α) : Sim (σ := σ) t (Pure.pure a) (Pure.pure a) :=
  fun _ _ h => ⟨rfl, h, .refl _, .refl _⟩

theorem throw (e : Fault) : Sim (σ := σ) (α := α) t (MonadExcept.throw e) (MonadExcept.throw e) :=
  fun _ _ h => ⟨rfl, h, .refl _, .refl _⟩

/-- A failure ends both runs, whatever would follow it. -/
theorem throw_bind (e : Fault) (f g : α → Act σ β) :
    Sim t (MonadExcept.throw e >>= f) (MonadExcept.throw e >>= g) :=
  fun _ _ h => ⟨rfl, h, .refl _, .refl _⟩

theorem ofExcept (r : Except Fault α) : Sim (σ := σ) t (Act.ofExcept r) (Act.ofExcept r) := by
  intro s₁ s₂ h
  unfold Alike
  rw [exec_ofExcept, exec_ofExcept]
  exact ⟨rfl, h, .refl _, .refl _⟩

/-- What does not wait is alike blocking and waiting. -/
theorem of_blind {x : Act σ α} (hx : Blind x) : Sim t x x := by
  intro s₁ s₂ h
  obtain ⟨hr, ho⟩ := hx.observed h.observed
  have q₁ := hx.quiet s₁
  have q₂ := hx.quiet s₂
  refine ⟨hr, ⟨ho, ?_, ?_, h.head.of_stays q₁.stays⟩, q₁.stays, q₂.stays⟩
  · rw [World.cancelled, q₂.tokens]
    exact h.uncancelled
  · rw [q₂.spawned]
    exact h.idle

/-- A waiting operation that returns `a` at once and changes nothing, from a state where `t` is
not cancelled and no task is spawned. -/
theorem pure_left {y : Act σ α} (a : α)
    (hy : ∀ s : Sys σ, s.world.cancelled t = false → s.world.spawned = [] → exec y s = (.ok a, s)) :
    Sim t (Pure.pure a) y := by
  intro s₁ s₂ h
  unfold Alike
  rw [exec_pure, hy s₂ h.uncancelled h.idle]
  exact ⟨rfl, h, .refl _, .refl _⟩

theorem bind {x y : Act σ α} {f g : α → Act σ β} (hx : Sim t x y) (hf : ∀ a, Sim t (f a) (g a)) :
    Sim t (x >>= f) (y >>= g) :=
  fun _ _ h => (hx h).bind hf

theorem outcome {x y : Act σ α} (hx : Sim t x y) : Sim t (Act.outcome x) (Act.outcome y) := by
  intro s₁ s₂ h
  obtain ⟨hr, h', hs₁, hs₂⟩ := hx h
  unfold Alike
  rw [exec_outcome, exec_outcome, hr]
  exact ⟨rfl, h', hs₁, hs₂⟩

/-- Reading the world, where the blocking side reads only what is observed. -/
theorem read {f g : World → Act σ α} (hf : ∀ w, f w.observed = f w) (hs : ∀ w, Sim t (f w) (g w)) :
    Sim t (Act.world >>= f) (Act.world >>= g) := by
  intro s₁ s₂ h
  have hw : f s₁.world = f s₂.world := by rw [← hf s₁.world, ← hf s₂.world, h.world]
  unfold Alike
  rw [exec_bind, exec_bind, exec_world, exec_world]
  dsimp only
  rw [hw]
  exact hs _ h

/-- Reading an execution scope, where the blocking side does not look at its token. -/
theorem exec {e : Nat} {k₁ k₂ : ExecState → Act σ α} (hk : ∀ x, k₁ x.untokened = k₁ x)
    (hs : ∀ x, Sim t (k₁ x) (k₂ x)) : Sim t (Exec.get e >>= k₁) (Exec.get e >>= k₂) :=
  read (f := fun w => k₁ (w.exec e)) (fun w => by rw [World.observed_exec, hk]) fun _ => hs _

theorem ite {c : Prop} [Decidable c] {x₁ x₂ y₁ y₂ : Act σ α} (h₁ : Sim t x₁ y₁) (h₂ : Sim t x₂ y₂) :
    Sim t (if c then x₁ else x₂) (if c then y₁ else y₂) := by
  by_cases hc : c
  · rw [if_pos hc, if_pos hc]
    exact h₁
  · rw [if_neg hc, if_neg hc]
    exact h₂

theorem forM {l : List γ} {f g : γ → Act σ PUnit} (hf : ∀ a, Sim t (f a) (g a)) :
    Sim t (l.forM f) (l.forM g) := by
  induction l with
  | nil => exact pure _
  | cons a l ih => exact bind (hf a) fun _ => ih

end Sim

end Wait

/-! ### Waiting under a token that is never cancelled -/

namespace Cancellation

variable {t : Nat} {s : Sys σ}

/-- With no task spawned, suspending lets nothing run. -/
theorem suspend_exec_idle (h : s.world.spawned = []) : exec Cancellation.suspend s = (.ok (), s) := by
  rw [Cancellation.suspend_exec, h, List.foldl_nil, ← h]

theorem isCancelled_exec (t : Nat) (s : Sys σ) :
    exec (Cancellation.isCancelled t) s = (.ok (s.world.cancelled t), s) := rfl

theorem check_exec_uncancelled (h : s.world.cancelled t = false) : exec (Cancellation.check t) s = (.ok (), s) := by
  simp only [Cancellation.check, exec_bind, isCancelled_exec, h, Bool.false_eq_true, if_false, exec_pure]

end Cancellation

namespace Wait

variable {t : Nat}

/-- A round trip under a token that is not cancelled, with no task spawned, returns at once. -/
theorem roundTrip_sim : Sim (σ := σ) t (Wait.roundTrip .blocking) (Wait.roundTrip (.async t)) :=
  .pure_left () fun _ hc hi => by
    simp only [Wait.roundTrip, Cancellation.roundTrip, exec_bind, Cancellation.check_exec_uncancelled hc,
      Cancellation.suspend_exec_idle hi]

theorem pause_sim : Sim (σ := σ) t (Wait.pause .blocking) (Wait.pause (.async t)) :=
  .pure_left () fun _ _ hi => Cancellation.suspend_exec_idle hi

theorem isCancelled_sim : Sim (σ := σ) t (Pure.pure false) (Cancellation.isCancelled t) :=
  .pure_left false fun _ hc _ => by rw [Cancellation.isCancelled_exec, hc]

end Wait

/-! ### Operations that wait -/

section Waiting

open Wait

variable {α : Type} {t : Nat}

theorem UnitOfWork.locked_sim (u : Nat) {x y : Act σ α} (hs : Sim t x y) :
    Sim t (UnitOfWork.locked u x) (UnitOfWork.locked u y) :=
  .bind (.of_blind (UnitOfWork.acquire_blind u)) fun _ => .bind (.outcome hs) fun _ =>
    .bind (.of_blind (UnitOfWork.modify_blind u _)) fun _ => .ofExcept _

theorem UnitOfWork.tryFinish_sim (u : Nat) {f₁ f₂ : Nat → Act σ Unit} (hf : ∀ c, Sim t (f₁ c) (f₂ c)) :
    Sim t (UnitOfWork.tryFinish u f₁) (UnitOfWork.tryFinish u f₂) :=
  .bind (.of_blind (UnitOfWork.context_blind u)) fun c => .bind (.of_blind (Context.hasTxn_blind c)) fun _ =>
    .ite (.pure _) (UnitOfWork.locked_sim u (.bind (.of_blind (Context.hasTxn_blind c)) fun _ =>
      .ite (.pure _) (.bind (hf c) fun _ => .pure _)))

theorem UnitOfWork.collect_sim {x y : Act σ Unit} (hs : Sim t x y) (errors : List Fault) :
    Sim t (UnitOfWork.collect errors x) (UnitOfWork.collect errors y) :=
  .bind (.outcome hs) fun
    | .ok () => .pure _
    | .error _ => .pure _

end Waiting

section Operations

open Wait

variable {α : Type} {t : Nat} {h : Hooks σ} (hh : Hooks.Blind h)
include hh

/-- Committing or rolling back the context's transaction, after waiting. -/
theorem Context.finish_sim {w₁ w₂ : Act σ Unit} (hw : Sim t w₁ w₂) (act : TxnAction)
    (step : Nat → Database.Step Unit) (c : Nat) :
    Sim t (do
      w₁
      let n ← Context.takeTxn c
      match ← Act.outcome (Act.database (step n)) with
      | .ok () => pure ()
      | .error e => throw (← Context.failedThrough h c act e)) (do
      w₂
      let n ← Context.takeTxn c
      match ← Act.outcome (Act.database (step n)) with
      | .ok () => pure ()
      | .error e => throw (← Context.failedThrough h c act e)) :=
  .bind hw fun _ => .of_blind (.bind (Context.takeTxn_blind c) fun _ =>
    .bind (.outcome (.database _)) fun
      | .ok () => .pure _
      | .error e => .bind (Context.failedThrough_blind hh c act e) fun _ => .throw _)

theorem Context.commit_sim (c : Nat) : Sim t (Context.commit h c .blocking) (Context.commit h c (.async t)) :=
  Context.finish_sim hh roundTrip_sim .commit Database.commit c

theorem Context.rollback_sim (c : Nat) :
    Sim t (Context.rollback h c .blocking) (Context.rollback h c (.async t)) :=
  Context.finish_sim hh pause_sim .rollback Database.rollback c

theorem Context.begin_sim (c : Nat) (iso : Option Isolation) :
    Sim t (Context.begin h c iso .blocking) (Context.begin h c iso (.async t)) := by
  refine .bind roundTrip_sim fun _ => .of_blind ?_
  refine .bind (Context.guardEach_blind hh c _ fun o => Observer.guard_blind hh o _) fun _ =>
    .bind (Context.hasTxn_blind c) fun _ => ?_
  split
  · exact .throw_bind _ _
  · -- the transaction starts, or its failure goes through every interceptor first
    refine .bind (.outcome (.database _)) fun r => ?_
    cases r with
    | ok _ => exact .bind (Context.modify_blind _ _) fun _ => .pure _
    | error e => exact .bind (Context.failedThrough_blind hh c _ e) fun _ => .throw _

theorem UnitOfWork.tryStart_sim (u : Nat) :
    Sim t (UnitOfWork.tryStart h u .blocking) (UnitOfWork.tryStart h u (.async t)) := by
  refine .bind (.of_blind (UnitOfWork.context_blind u)) fun c => .bind (.of_blind (Context.hasTxn_blind c)) fun _ =>
    .ite (.pure _) (UnitOfWork.locked_sim u (.bind (.of_blind (Context.hasTxn_blind c)) fun _ => .ite (.pure _) ?_))
  exact .bind (.of_blind UnitOfWork.ensureNoExternal_blind) fun _ => .bind (.of_blind (UnitOfWork.isolation_blind u))
    fun iso => .bind (Context.begin_sim hh c iso) fun _ => .pure _

theorem UnitOfWork.tryCommit_sim (u : Nat) :
    Sim t (UnitOfWork.tryCommit h u .blocking) (UnitOfWork.tryCommit h u (.async t)) :=
  UnitOfWork.tryFinish_sim u fun c => Context.commit_sim hh c

theorem UnitOfWork.tryRollbackInvalidate_sim (u : Nat) :
    Sim t (UnitOfWork.tryRollbackInvalidate h u .blocking) (UnitOfWork.tryRollbackInvalidate h u (.async t)) :=
  .bind (.of_blind (UnitOfWork.invalidate_blind u)) fun _ =>
    UnitOfWork.tryFinish_sim u fun c => Context.rollback_sim hh c

/-- Disposing an execution scope reads its unit and its completion, never its token. -/
theorem Exec.dispose_sim (e : Nat) : Sim t (Exec.dispose h e .blocking) (Exec.dispose h e (.async t)) :=
  .exec (fun _ => rfl) fun x => .ite (.pure _) (.bind (.of_blind (Exec.modify_blind e fun _ => rfl)) fun _ =>
    .ite (.bind (UnitOfWork.tryRollbackInvalidate_sim hh x.unit) fun _ => .pure _) (.pure _))

theorem UnitOfWork.dispose_sim (u : Nat) :
    Sim t (UnitOfWork.dispose h u .blocking) (UnitOfWork.dispose h u (.async t)) := by
  refine .bind (.of_blind (UnitOfWork.get_blind u)) fun x => ?_
  cases x.lock with
  | held => exact .throw _
  | disposed => exact .pure _
  | free =>
    refine .bind (.of_blind (UnitOfWork.modify_blind u _)) fun _ => ?_
    cases x.context with
    | none => exact .pure _
    | some c =>
      refine .bind (UnitOfWork.collect_sim (.of_blind ?detach) _) fun _ =>
        .bind (UnitOfWork.collect_sim (.bind (.of_blind (Context.hasTxn_blind c)) fun _ =>
          .ite (Context.rollback_sim hh c) (.pure _)) _) fun _ =>
        .bind (UnitOfWork.collect_sim (.of_blind (Context.close_blind c)) _) fun closed => ?_
      case detach =>
        cases x.observer with
        | some o => exact .bind (UnitOfWork.modifyObserver_blind o _) fun _ => Context.removeInterceptor_blind c _
        | none => exact .pure _
      cases Fault.aggregate closed with
      | some e => exact .throw e
      | none => exact .pure _

theorem Observer.beforeSave_sim (o : Nat) :
    Sim t (Observer.beforeSave h o .blocking) (Observer.beforeSave h o (.async t)) :=
  .bind (.of_blind (UnitOfWork.modifyObserver_blind o _)) fun _ =>
    .read (fun _ => rfl) fun _ => .bind (UnitOfWork.tryStart_sim hh _) fun _ => .pure _

/-- Saving: the interceptors are asked, the round trip is made, the changes are written, and
everyone is told, alike. -/
theorem Context.save_sim (c : Nat) : Sim t (Context.save h c .blocking) (Context.save h c (.async t)) := by
  refine .bind (.of_blind (Context.interceptorsNow_blind c)) fun _ =>
    .bind (.outcome (.forM fun i => ?_)) fun _ => ?_
  · cases i with
    | observer o => exact Observer.beforeSave_sim hh o
    | host k => exact .of_blind (hh.guard k _)
  · refine .bind (.outcome (.bind (.ofExcept _) fun _ => .bind roundTrip_sim fun _ =>
      .of_blind (Context.flush_blind c))) fun result => ?_
    cases result with
    | ok n => exact .bind (.of_blind (Context.notifyEach_blind hh c _)) fun _ => .ofExcept _
    | error e => exact .bind (.of_blind (Context.notifyEach_blind hh c _)) fun _ => .ofExcept _

theorem Observer.beforeReader_sim (o c : Nat) :
    Sim t (Observer.beforeReader h o c .blocking) (Observer.beforeReader h o c (.async t)) :=
  .read (fun _ => rfl) fun _ => .bind (.of_blind (Context.hasPending_blind c)) fun _ =>
    .ite (.bind (.of_blind (UnitOfWork.context_blind _)) fun own => .bind (Context.save_sim hh own) fun _ => .pure _)
      (.pure _)

theorem Observer.beforeCommand_sim (o c : Nat) :
    Sim t (Observer.beforeCommand h o c .blocking) (Observer.beforeCommand h o c (.async t)) :=
  .read (fun _ => rfl) fun _ => .ite (.pure _) (.bind (.of_blind (Context.currentTxn_blind c)) fun _ =>
    .bind (UnitOfWork.tryStart_sim hh _) fun _ => .bind (.of_blind (Context.currentTxn_blind c)) fun _ => .pure _)

theorem Context.beforeReader_sim (c : Nat) :
    Sim t (Context.beforeReader h c .blocking) (Context.beforeReader h c (.async t)) :=
  .bind (.of_blind (Context.interceptorsNow_blind c)) fun _ => .forM fun
    | .observer o => Observer.beforeReader_sim hh o c
    | .host k => .of_blind (.bind (Context.probe_blind c) fun _ => hh.guard k _)

theorem Context.find_sim (c : Nat) (k : Key) :
    Sim t (Context.find h c k .blocking) (Context.find h c k (.async t)) :=
  .bind (.of_blind (Context.beforeCommand_blind hh c)) fun _ => .bind (Context.beforeReader_sim hh c) fun _ =>
    .bind roundTrip_sim fun _ => .of_blind (Context.readEntity_blind hh c k)

theorem Context.count_sim (c : Nat) (table : String) :
    Sim t (Context.count h c table .blocking) (Context.count h c table (.async t)) :=
  .bind (.of_blind (Context.beforeCommand_blind hh c)) fun _ => .bind (Context.beforeReader_sim hh c) fun _ =>
    .bind roundTrip_sim fun _ => .of_blind (.bind (Context.view_blind c) fun _ => .pure _)

theorem Context.executeRaw_sim (c : Nat) (change : Change) :
    Sim t (Context.executeRaw h c change .blocking) (Context.executeRaw h c change (.async t)) :=
  .bind (.of_blind (Context.beforeCommand_blind hh c)) fun _ => .bind (.of_blind (Context.interceptorsNow_blind c))
    fun _ => .bind (.forM fun
      | .observer o => .bind (Observer.beforeCommand_sim hh o c) fun _ => .pure _
      | .host k => .of_blind (.bind (Context.probe_blind c) fun p => .bind (hh.enlist k p) fun _ => .pure _))
    fun _ => .bind roundTrip_sim fun _ => .of_blind (Context.writeChanges_blind c _)

/-- Every operation of work on a context is alike blocking and waiting under `t`. -/
theorem Op.run_sim (c : Nat) (o : Op) : Sim t (o.run h c .blocking) (o.run h c (.async t)) := by
  cases o with
  | add k v => exact .of_blind (.bind (Context.add_blind hh c k v) fun _ => .pure _)
  | update k v => exact .of_blind (.bind (Context.update_blind hh c k v) fun _ => .pure _)
  | remove k => exact .of_blind (.bind (Context.remove_blind hh c k) fun _ => .pure _)
  | modifyUntracked k v => exact .of_blind (.bind (Context.modifyUntracked_blind c k v) fun _ => .pure _)
  | find k => exact .bind (Context.find_sim hh c k) fun _ => .pure _
  | count table => exact .bind (Context.count_sim hh c table) fun _ => .pure _
  | raw change => exact .bind (Context.executeRaw_sim hh c change) fun _ => .pure _
  | save => exact .bind (Context.save_sim hh c) fun _ => .pure _

/-- Every command of work on a context, transaction control included, is alike blocking and
waiting under `t`. -/
theorem Cmd.run_sim (c : Nat) (x : Cmd) : Sim t (x.run h c .blocking) (x.run h c (.async t)) := by
  cases x with
  | op o => exact Op.run_sim hh c o
  | begin iso => exact .bind (Context.begin_sim hh c iso) fun _ => .pure _
  | commit => exact .bind (Context.commit_sim hh c) fun _ => .pure _
  | rollback => exact .bind (Context.rollback_sim hh c) fun _ => .pure _

end Operations

end ScopedWork
