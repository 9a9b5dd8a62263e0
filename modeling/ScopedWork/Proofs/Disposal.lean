import ScopedWork.Proofs.Attempt.Kept
import ScopedWork.Proofs.Ambient
import ScopedWork.Proofs.Root.Scopes

/-!
# Disposing a unit of work happens once and for good

The part of a unit of work that its disposal is about is its lock, its context and its
observer (`UnitState.life`). Its life moves on in one direction only (`UnitOfWork.Onward`):
a disposed unit stays disposed, with neither context nor observer; a context, once the unit
has one, stays until the unit is disposed; and while somebody holds the lock nobody else
frees or disposes it.

Every operation on a unit of work moves its life on so, whatever unit it is about, as long as
the host program's hooks do too: most operations never touch a unit's life (`OnLife`), taking
and freeing the lock brackets work that leaves it held (`UnitOfWork.Under`), a context is made
only while the unit has none and holds its lock, and disposal takes a free lock for good. So
does every run of calls on units and on the scopes that hold them (`UnitOfWork.Call.runAll`).

Once disposed, a unit refuses every call that would need its context, before the factory is
asked; a disposal while the lock is held fails without a change. The first disposal that finds
the lock free releases the context: the observer leaves it, its transaction is rolled back and
the connection is closed once (`UnitOfWork.dispose_releases`).
-/

namespace ScopedWork

open Act

variable {σ : Type}

/-- What of a unit of work its disposal is about: its lock, its context and its observer. -/
def UnitState.life (x : UnitState) : LockState × Option Nat × Option Nat :=
  (x.lock, x.context, x.observer)

namespace UnitOfWork

/-- Unit `u` is disposed for good: its lock refuses everybody, and it holds neither context
nor observer. -/
def Disposed (u : Nat) (w : World) : Prop :=
  (w.units[u]?.getD default).life = (.disposed, none, none)

/-- How the life of unit `u` may move on from `w` to `w'`: a disposed unit stays disposed, a
context stays until disposal, and a held lock stays held. -/
structure Onward (u : Nat) (w w' : World) : Prop where
  disposed : Disposed u w → Disposed u w'
  context : ∀ c, (w.units[u]?.getD default).context = some c →
    (w'.units[u]?.getD default).context = some c ∨ Disposed u w'
  held : (w.units[u]?.getD default).lock = .held → (w'.units[u]?.getD default).lock = .held

namespace Onward

variable {u : Nat} {w₀ w w' w'' : World}

theorem refl (w : World) : Onward u w w :=
  ⟨id, fun _ hc => .inl hc, id⟩

theorem trans (h₁ : Onward u w w') (h₂ : Onward u w' w'') : Onward u w w'' where
  disposed hd := h₂.disposed (h₁.disposed hd)
  context c hc := by
    rcases h₁.context c hc with hc' | hd
    · exact h₂.context c hc'
    · exact .inr (h₂.disposed hd)
  held hl := h₂.held (h₁.held hl)

/-- `Onward` reads nothing of a world but the life of unit `u`. -/
theorem of_life (h : Onward u w₀ w) (hl : (w'.units[u]?.getD default).life = (w.units[u]?.getD default).life) :
    Onward u w₀ w' := by
  have hd : Disposed u w' ↔ Disposed u w := by rw [Disposed, Disposed, hl]
  simp only [UnitState.life, Prod.mk.injEq] at hl
  obtain ⟨hlock, hctx, -⟩ := hl
  exact ⟨fun h₀ => hd.mpr (h.disposed h₀), fun c hc => by
    rw [hctx, hd]; exact h.context c hc, fun h₀ => hlock ▸ h.held h₀⟩

/-- From a unit that is not disposed, has no context and whose lock nobody holds, the life
may move on to anything. -/
theorem of_blank (hd : ¬ Disposed u w₀) (hc : (w₀.units[u]?.getD default).context = none)
    (hl : (w₀.units[u]?.getD default).lock ≠ .held) : Onward u w₀ w :=
  ⟨fun h => absurd h hd, fun _ h => (nomatch hc ▸ h), fun h => absurd h hl⟩

/-- A unit that does not exist yet has a blank life. -/
theorem of_absent (hr : w₀.units.size ≤ u) : Onward u w₀ w := by
  have hu : w₀.units[u]?.getD default = default := by
    rw [Array.getElem?_eq_none hr]
    rfl
  refine of_blank ?_ (by rw [hu]; rfl) (by rw [hu]; decide)
  intro hd
  rw [Disposed, hu] at hd
  nomatch hd

end Onward

theorem Disposed.lock_eq {u : Nat} {w : World} (hd : Disposed u w) :
    (w.units[u]?.getD default).lock = .disposed :=
  congrArg Prod.fst hd

theorem not_disposed_of_held {u : Nat} {w : World}
    (hl : (w.units[u]?.getD default).lock = .held) : ¬ Disposed u w := fun hd =>
  nomatch hl.symm.trans hd.lock_eq

/-- Onward from `w₀`, with the lock of `u` held if `u` is the unit `u'` whose lock was taken:
what holds inside work done under the lock of `u'`. -/
def Under (u u' : Nat) (w₀ w : World) : Prop :=
  Onward u w₀ w ∧ (u' = u → (w.units[u]?.getD default).lock = .held)

end UnitOfWork

/-- Reading a unit after unit `u'` was set to `x`. -/
theorem World.getD_setUnit (w : World) (u' u : Nat) (x : UnitState) :
    (w.setUnit u' x).units[u]?.getD default =
      if u' = u ∧ u < w.units.size then x else w.units[u]?.getD default := by
  rw [World.setUnit]
  dsimp only
  rw [Array.getElem?_modify]
  by_cases h : u' = u
  · subst h
    by_cases hr : u' < w.units.size
    · simp [hr]
    · simp [hr]
  · simp [h]

/-! ## Operations that leave a unit's life alone -/

/-- What the library leaves alone where it works on contexts, observers, factories, the
database or units other than `u`: the life of `u`, how many units there are, and the ambient
chains. -/
structure Beside (u : Nat) (w w' : World) : Prop where
  life : (w'.units[u]?.getD default).life = (w.units[u]?.getD default).life
  size : w'.units.size = w.units.size
  chains : w'.chains = w.chains

/-- An invariant that reads nothing but the life of unit `u`, how many units there are and
the ambient chains. -/
class OnLife (u : outParam Nat) (I : World → Prop) : Prop where
  frame : ∀ ⦃w w' : World⦄, Beside u w w' → I w → I w'

namespace UnitOfWork

/-- The life of unit `u` is `l`. -/
def LifeIs (u : Nat) (l : LockState × Option Nat × Option Nat) (w : World) : Prop :=
  (w.units[u]?.getD default).life = l

instance (u : Nat) (l : LockState × Option Nat × Option Nat) : OnLife u (LifeIs u l) where
  frame _ _ hb h := hb.life.trans h

instance (u : Nat) (w₀ : World) : OnLife u (Onward u w₀) where
  frame _ _ hb h := h.of_life hb.life

instance (u u' : Nat) (w₀ : World) : OnLife u (Under u u' w₀) where
  frame _ _ hb h := ⟨h.1.of_life hb.life, fun he => (congrArg Prod.fst hb.life).trans (h.2 he)⟩

end UnitOfWork

section Frame

variable {u : Nat} {I : World → Prop} [hI : OnLife u I]
include hI

theorem OnLife.of_units {w w' : World} (hi : I w) (hu : w'.units = w.units)
    (hc : w'.chains = w.chains) : I w' :=
  OnLife.frame ⟨by rw [hu], by rw [hu], hc⟩ hi

theorem OnLife.modifyWorld {f : World → World} (hf : ∀ w, Beside u w (f w)) :
    Keeps (σ := σ) I (Act.modifyWorld f) :=
  .modifyWorld fun w hi => OnLife.frame (hf w) hi

/-- A change that leaves every unit of work and the ambient chains alone. -/
theorem OnLife.modifyWorld_units {f : World → World}
    (hf : ∀ w, (f w).units = w.units ∧ (f w).chains = w.chains) :
    Keeps (σ := σ) I (Act.modifyWorld f) :=
  .modifyWorld fun w hi => OnLife.of_units hi (hf w).1 (hf w).2

theorem OnLife.database {α : Type} (x : Database.Step α) : Keeps (σ := σ) I (Act.database x) :=
  Keeps.database (fun _ _ hi => OnLife.of_units hi rfl rfl) x

theorem Wait.roundTrip_onLife (wait : Wait) : Keeps (σ := σ) I wait.roundTrip := by
  intro s s' r hi hx
  obtain ⟨-, hs⟩ := Wait.roundTrip_spec hx
  rw [hs]
  exact OnLife.of_units hi rfl rfl

theorem Wait.pause_onLife (wait : Wait) : Keeps (σ := σ) I wait.pause := by
  intro s s' r hi hx
  obtain ⟨-, hs⟩ := Wait.pause_spec hx
  rw [hs]
  exact OnLife.of_units hi rfl rfl

theorem Context.modify_onLife (c : Nat) (f : ContextState → ContextState) :
    Keeps (σ := σ) I (Context.modify c f) :=
  OnLife.modifyWorld_units fun _ => ⟨rfl, rfl⟩

theorem Context.create_onLife : Keeps (σ := σ) I Context.create :=
  .bind .world fun _ => .bind (OnLife.modifyWorld_units fun _ => ⟨rfl, rfl⟩) fun _ => .pure _

theorem Context.takeTxn_onLife (c : Nat) : Keeps (σ := σ) I (Context.takeTxn c) :=
  .bind (.bind .world fun _ => .pure _) fun
    | some _ => .bind (Context.modify_onLife c _) fun _ => .pure _
    | none => .throw _

theorem Context.close_onLife (c : Nat) : Keeps (σ := σ) I (Context.close c) := by
  refine .bind .world fun w => .bind (Context.modify_onLife c _) fun _ => ?_
  cases (w.context c).txn with
  | some t => exact OnLife.database _
  | none => exact .pure _

theorem Context.addInterceptor_onLife (c : Nat) (i : Interceptor) :
    Keeps (σ := σ) I (Context.addInterceptor c i) := by
  refine .bind .world fun _ => ?_
  dsimp only
  exact .ite (.bind (.throw _) fun _ => Context.modify_onLife c _) (Context.modify_onLife c _)

theorem UnitOfWork.modifyObserver_onLife (o : Nat) (f : ObserverState → ObserverState) :
    Keeps (σ := σ) I (UnitOfWork.modifyObserver o f) :=
  OnLife.modifyWorld_units fun _ => ⟨rfl, rfl⟩

theorem Factory.create_onLife (f : Nat) : Keeps (σ := σ) I (Factory.create f) :=
  Factory.create_keeps_of (fun _ => OnLife.modifyWorld_units fun _ => ⟨rfl, rfl⟩)
    Context.create_onLife

theorem Exec.modify_onLife (e : Nat) (f : ExecState → ExecState) :
    Keeps (σ := σ) I (Exec.modify e f) :=
  OnLife.modifyWorld_units fun _ => ⟨rfl, rfl⟩

/-- A change of a unit of work that leaves the life of `u` as it is: a change of another
unit, or of `u`'s mode or isolation level. -/
theorem UnitOfWork.modify_onLife (u' : Nat) {f : UnitState → UnitState}
    (hf : u' = u → ∀ x, (f x).life = x.life) : Keeps (σ := σ) I (UnitOfWork.modify u' f) := by
  refine OnLife.modifyWorld fun w => ⟨?_, by simp [World.setUnit], rfl⟩
  simp only [World.setUnit_eq, World.unit_eq]
  by_cases hu : u' = u
  · subst hu
    exact World.getD_modify_view _ _ _ _ _ UnitState.life (hf rfl _)
  · rw [Array.getElem?_modify, if_neg hu]

/-- Taking and freeing the lock of another unit. -/
theorem UnitOfWork.locked_onLife {α : Type} {u' : Nat} (hne : u' ≠ u) {body : Act σ α}
    (hb : Keeps I body) : Keeps I (UnitOfWork.locked u' body) := by
  have hlock : ∀ l, Keeps (σ := σ) I (UnitOfWork.modify u' fun x => { x with lock := l }) :=
    fun _ => UnitOfWork.modify_onLife u' fun h => absurd h hne
  refine .bind ?_ fun _ => .bind (.outcome hb) fun _ => .bind (hlock _) fun _ => .ofExcept _
  refine .bind (UnitOfWork.get_keeps u') fun x => ?_
  split
  · exact hlock _
  · exact .throw _
  · exact .throw _

omit hI in
theorem UnitOfWork.collect_onLife (errors : List Fault) {step : Act σ Unit} (hs : Keeps I step) :
    Keeps I (UnitOfWork.collect errors step) :=
  .bind (.outcome hs) fun r => by
    cases r with
    | ok _ => exact .pure _
    | error _ => exact .pure _

section Hooks

variable {h : Hooks σ} (hh : Hooks.Keep I h)
include hh

theorem Context.begin_onLife (c : Nat) (iso : Option Isolation) (wait : Wait) :
    Keeps I (Context.begin h c iso wait) := by
  have guard : ∀ o, Keeps I (Observer.guard h o (·.startListeners)) := fun o => by
    refine .bind .world fun _ => ?_
    dsimp only
    exact .ite (.bind (.throw _) fun _ => Keeps.forM fun k _ => hh.listen k)
      (Keeps.forM fun k _ => hh.listen k)
  refine .bind (Wait.roundTrip_onLife wait) fun _ => .bind ?_ fun _ => ?_
  · refine .bind (.bind .world fun _ => .pure _) fun is => .forM fun i _ => ?_
    cases i with
    | observer o => exact guard o
    | host k => exact hh.guard k _
  refine .bind (Context.hasTxn_keeps c) fun _ => ?_
  split
  · exact Keeps.of_world_eq fun _ _ _ hx => by
      simp only [exec_bind, exec_throw, Prod.mk.injEq] at hx
      rw [← hx.2]
  refine .bind (.bind (.pure _) fun _ => .outcome (OnLife.database _)) fun q => ?_
  cases q with
  | ok t => exact .bind (Context.modify_onLife c _) fun _ => .pure _
  | error e => exact .bind (Context.failedThrough_keeps hh c .begin e) fun _ => .throw _

/-- Committing or rolling back the connection's transaction. -/
theorem Context.finish_onLife {wait' : Act σ Unit} (hw : Keeps I wait') (act : TxnAction)
    (step : Nat → Database.Step Unit) (c : Nat) :
    Keeps I (do
      wait'
      let t ← Context.takeTxn c
      match ← Act.outcome (Act.database (step t)) with
      | .ok () => pure ()
      | .error e => throw (← Context.failedThrough h c act e)) :=
  .bind hw fun _ => .bind (Context.takeTxn_onLife c) fun _ =>
    .bind (.outcome (OnLife.database _)) fun
      | .ok () => .pure _
      | .error e => .bind (Context.failedThrough_keeps hh c act e) fun _ => .throw _

theorem Context.commit_onLife (c : Nat) (wait : Wait) : Keeps I (Context.commit h c wait) :=
  Context.finish_onLife hh (Wait.roundTrip_onLife wait) .commit Database.commit c

theorem Context.rollback_onLife (c : Nat) (wait : Wait) : Keeps I (Context.rollback h c wait) :=
  Context.finish_onLife hh (Wait.pause_onLife wait) .rollback Database.rollback c

end Hooks

end Frame

/-! ## Moving a unit's life on -/

namespace UnitOfWork

@[simp] theorem get_exec (u : Nat) (s : Sys σ) :
    exec (get u) s = (.ok (s.world.units[u]?.getD default), s) := by
  simp [get]

section Steps

variable {u u' : Nat} {w₀ w : World} {x : UnitState}

/-- Disposing a unit whose lock is free. -/
theorem Onward.setUnit_disposed (h : Onward u w₀ w)
    (hfree : u' = u → (w.units[u]?.getD default).lock = .free)
    (hx : x.life = (.disposed, none, none)) : Onward u w₀ (w.setUnit u' x) := by
  by_cases hc : u' = u ∧ u < w.units.size
  · have hd : Disposed u (w.setUnit u' x) := by
      rw [Disposed, World.getD_setUnit, if_pos hc, hx]
    refine ⟨fun _ => hd, fun _ _ => .inr hd, fun hl => ?_⟩
    -- a lock held at the start would still be held, but it was found free
    exact nomatch (h.held hl).symm.trans (hfree hc.1)
  · exact h.of_life (by rw [World.getD_setUnit, if_neg hc])

/-- Under the lock, the unit may get a context where it has none, and any observer. -/
theorem Under.setUnit (h : Under u u' w₀ w)
    (hlock : x.lock = (w.units[u']?.getD default).lock)
    (hctx : (w.units[u']?.getD default).context = none ∨
      x.context = (w.units[u']?.getD default).context) :
    Under u u' w₀ (w.setUnit u' x) := by
  by_cases hc : u' = u ∧ u < w.units.size
  · obtain ⟨rfl, hr⟩ := hc
    have hw : (w.setUnit u' x).units[u']?.getD default = x := by
      rw [World.getD_setUnit, if_pos ⟨rfl, hr⟩]
    have hheld := h.2 rfl
    have hnd := not_disposed_of_held hheld
    have hlock' : x.lock = .held := hlock.trans hheld
    refine ⟨⟨fun hd => absurd (h.1.disposed hd) hnd, fun c hc => .inl ?_, fun _ => by rw [hw, hlock']⟩,
      fun _ => by rw [hw, hlock']⟩
    -- the unit is not disposed, so the context it had from the start is still there
    rcases h.1.context c hc with hc' | hd
    · rcases hctx with hn | he
      · exact nomatch hn.symm.trans hc'
      · rw [hw, he, hc']
    · exact absurd hd hnd
  · have hw : (w.setUnit u' x).units[u]?.getD default = w.units[u]?.getD default := by
      rw [World.getD_setUnit, if_neg hc]
    exact ⟨h.1.of_life (by rw [hw]), fun he => hw ▸ h.2 he⟩

theorem Sys.withLock_context (s : Sys σ) (l : LockState) :
    ((s.withLock u l).world.units[u]?.getD default).context = (s.world.units[u]?.getD default).context :=
  World.getD_modify_view _ _ _ _ _ UnitState.context rfl

/-- Work done between taking a free lock and freeing it again, which kept the lock held. -/
theorem Onward.around_lock {s s₂ : Sys σ} (hfree : (s.world.units[u]?.getD default).lock = .free)
    (h : Under u u (s.withLock u .held).world s₂.world) :
    Onward u s.world (s₂.withLock u .free).world where
  disposed hd := nomatch hfree.symm.trans hd.lock_eq
  context c hc := by
    rcases h.1.context c ((Sys.withLock_context s .held).trans hc) with hc₂ | hd
    · exact .inl ((Sys.withLock_context s₂ .free).trans hc₂)
    · exact absurd hd (not_disposed_of_held (h.2 rfl))
  held hl := nomatch hfree.symm.trans hl

/-- Taking the lock of `u'`, doing work that keeps it held if `u'` is `u`, and freeing it. -/
theorem locked_onward {α : Type} {body : Act σ α} (hb : ∀ w₁, Keeps (Under u u' w₁) body) :
    Keeps (Onward u w₀) (locked u' body) := by
  by_cases hne : u' = u
  · subst hne
    intro s s' r hi hx
    by_cases hr : u' < s.world.units.size
    · cases hl : (s.world.units[u']?.getD default).lock with
      | free =>
        rw [locked_exec_free body hl] at hx
        obtain ⟨-, rfl⟩ := Prod.mk.inj hx
        have h₁ : Under u' u' (s.withLock u' .held).world (s.withLock u' .held).world :=
          ⟨.refl _, fun _ => Sys.withLock_lock s u' .held hr⟩
        exact hi.trans (Onward.around_lock hl (hb _ h₁ (Prod.eta _).symm))
      | held =>
        simp [locked, acquire, hl] at hx
        rw [← hx.2]
        exact hi
      | disposed =>
        simp [locked, acquire, hl] at hx
        rw [← hx.2]
        exact hi
    · exact hi.trans (Onward.of_absent (Nat.le_of_not_lt hr))
  · exact locked_onLife hne fun s s' r hi hx => (hb _ ⟨hi, fun he => absurd he hne⟩ hx).1

theorem modify_exec (f : UnitState → UnitState) (s : Sys σ) :
    exec (modify u' f) s = (.ok (), { s with world := s.world.setUnit u' (f (s.world.unit u')) }) :=
  rfl

theorem dispose_exec_held {h : Hooks σ} {s : Sys σ} {wait : Wait}
    (hl : (s.world.units[u']?.getD default).lock = .held) :
    exec (dispose h u' wait) s = (.error contendedFault, s) := by
  simp [dispose, hl]

theorem dispose_exec_disposed {h : Hooks σ} {s : Sys σ} {wait : Wait}
    (hl : (s.world.units[u']?.getD default).lock = .disposed) :
    exec (dispose h u' wait) s = (.ok (), s) := by
  simp [dispose, hl]

/-- Disposing a unit that exists leaves its life disposed, with no context and no observer. -/
theorem lifeIs_disposing {w : World} (hu : u' < w.units.size) :
    LifeIs u' (.disposed, none, none)
      (w.setUnit u' { w.unit u' with lock := .disposed, observer := none, context := none }) := by
  rw [LifeIs, World.getD_setUnit, if_pos ⟨rfl, hu⟩]
  rfl

section Dispose

variable {I : World → Prop} [hI : OnLife u I] {h : Hooks σ}
include hI

/-- From a free lock, disposal takes it for good and then works on the context only: whatever
holds once the lock is taken holds at the end. -/
theorem dispose_free_keeps (hh : Hooks.Keep I h) {s s' : Sys σ} {wait : Wait}
    {r : Except Fault Unit} (hfree : (s.world.units[u']?.getD default).lock = .free)
    (hI : I (s.world.setUnit u' { s.world.unit u' with lock := .disposed, observer := none, context := none }))
    (hx : exec (dispose h u' wait) s = (r, s')) : I s'.world := by
  rw [dispose, exec_bind, get_exec] at hx
  simp only [hfree] at hx
  rw [exec_bind, modify_exec] at hx
  refine (?_ : Keeps I _) hI hx
  split
  · exact .pure _
  rename_i c _
  refine .bind (collect_onLife [] ?_) fun d => .bind (collect_onLife d ?_) fun d => ?_
  · split
    · exact .bind (modifyObserver_onLife _ _) fun _ => Context.modify_onLife c _
    · exact .pure _
  · exact .bind (Context.hasTxn_keeps c) fun _ => .ite (Context.rollback_onLife hh c wait) (.pure _)
  refine .bind (collect_onLife d (Context.close_onLife c)) fun d => ?_
  split
  · exact .throw _
  · exact .pure _

/-- Disposal keeps an invariant of `u`'s life that taking the free lock of `u'` for good keeps. -/
theorem dispose_keeps_of (hh : Hooks.Keep I h)
    (hstart : ∀ w, I w → (w.units[u']?.getD default).lock = .free →
      I (w.setUnit u' { w.unit u' with lock := .disposed, observer := none, context := none }))
    (wait : Wait) : Keeps I (dispose h u' wait) := by
  intro s s' r hi hx
  cases hl : (s.world.units[u']?.getD default).lock with
  | free => exact dispose_free_keeps hh hl (hstart _ hi hl) hx
  | held =>
    rw [dispose_exec_held hl] at hx
    obtain ⟨-, rfl⟩ := Prod.mk.inj hx
    exact hi
  | disposed =>
    rw [dispose_exec_disposed hl] at hx
    obtain ⟨-, rfl⟩ := Prod.mk.inj hx
    exact hi

/-- Disposing another unit leaves `u`'s life alone. -/
theorem dispose_onLife_of_ne (hne : u' ≠ u) (hh : Hooks.Keep I h) (wait : Wait) :
    Keeps I (dispose h u' wait) :=
  dispose_keeps_of hh (fun w hi _ => OnLife.frame (w := w)
    ⟨by rw [World.getD_setUnit, if_neg fun hc => hne hc.1], by simp [World.setUnit], rfl⟩ hi) wait

end Dispose

/-! ### Every operation on units of work moves `u`'s life on

The host program's hooks are assumed to move it on too; work they do under the lock of `u`
then keeps the lock held, since a held lock stays held. -/

theorem Hooks.Keep.under {h : Hooks σ} (hh : ∀ w₁, Hooks.Keep (Onward u w₁) h) :
    Hooks.Keep (Under u u' w₀) h :=
  .of_rel (fun w _ => .refl w) (fun _ _ hq hp => ⟨hq.1.trans hp, fun he => hp.held (hq.2 he)⟩) hh

/-- A context is made only while the unit has none, under its lock. -/
theorem context_onward (u' : Nat) : Keeps (σ := σ) (Onward u w₀) (context u') := by
  refine .bind (get_keeps u') fun _ => ?_
  split
  · exact .pure _
  refine locked_onward fun _ => ?_
  intro s s' r hi hx
  rw [exec_bind, get_exec] at hx
  dsimp only at hx
  split at hx
  · obtain ⟨-, rfl⟩ := Prod.mk.inj hx
    exact hi
  rename_i hnone
  rw [exec_bind, get_exec] at hx
  dsimp only at hx
  rw [exec_bind] at hx
  rcases hc : exec (Factory.create (s.world.units[u']?.getD default).factory) s with ⟨q, s₁⟩
  rw [hc] at hx
  have hi₁ := Factory.create_onLife _ hi hc
  have hl₁ : LifeIs u' (s.world.units[u']?.getD default).life s₁.world :=
    Factory.create_onLife _ (rfl : LifeIs u' _ s.world) hc
  cases q with
  | error e =>
    obtain ⟨-, rfl⟩ := Prod.mk.inj hx
    exact hi₁
  | ok c =>
    dsimp only at hx
    rw [exec_bind, modify_exec] at hx
    obtain ⟨-, rfl⟩ := Prod.mk.inj hx
    refine hi₁.setUnit (by simp) (.inl ?_)
    exact (congrArg (fun l => l.2.1) hl₁).trans hnone

/-- An observer is attached under the lock; the context stays. -/
theorem observer_onward (u' : Nat) : Keeps (σ := σ) (Onward u w₀) (observer u') := by
  refine .bind (get_keeps u') fun _ => ?_
  split
  · exact .pure _
  refine .bind (context_onward u') fun c => locked_onward fun _ => ?_
  refine .bind (get_keeps u') fun _ => ?_
  split
  · exact .pure _
  refine .bind (get_keeps u') fun _ => .bind .world fun _ => ?_
  refine .bind (.outcome (Context.addInterceptor_onLife c _)) fun q => ?_
  cases q with
  | error e => exact .throw _
  | ok _ =>
    refine .bind (OnLife.modifyWorld_units fun _ => ⟨rfl, rfl⟩) fun _ => .bind ?_ fun _ => .pure _
    exact .modifyWorld fun w hi => hi.setUnit (by simp) (.inr (by simp))

theorem invalidate_onward (u' : Nat) : Keeps (σ := σ) (Onward u w₀) (invalidate u') :=
  .bind (observer_onward u') fun o => modifyObserver_onLife o _

theorem undoInvalidation_onward (u' : Nat) : Keeps (σ := σ) (Onward u w₀) (undoInvalidation u') :=
  .bind (observer_onward u') fun o => modifyObserver_onLife o _

theorem enableAutoFlush_onward (u' : Nat) : Keeps (σ := σ) (Onward u w₀) (enableAutoFlush u') :=
  .bind (observer_onward u') fun o => modifyObserver_onLife o _

theorem promote_onward (u' : Nat) (target : UnitMode) :
    Keeps (σ := σ) (Onward u w₀) (promote u' target) := by
  refine .bind (.bind (get_keeps u') fun _ => .pure _) fun _ => ?_
  dsimp only
  have rest : Keeps (σ := σ) (Onward u w₀) (do
      let m ← Act.ofExcept ((← get u').mode.transition target)
      modify u' fun x => { x with mode := m }) :=
    .bind (get_keeps u') fun _ => .bind (.ofExcept _) fun _ => modify_onLife u' fun _ _ => rfl
  exact .ite (.bind (.throw _) fun _ => rest) rest

theorem setIsolation_onward (u' : Nat) (level : Option Isolation) :
    Keeps (σ := σ) (Onward u w₀) (setIsolation u' level) := by
  have set : Keeps (σ := σ) (Onward u w₀) (modify u' fun x => { x with isolation := level }) :=
    modify_onLife u' fun _ _ => rfl
  refine .bind (get_keeps u') fun x => ?_
  dsimp only
  split
  · exact .ite (.bind (.throw _) fun _ => set) set
  · exact set

section Hooks

variable {h : Hooks σ} (hh : ∀ w₁, Hooks.Keep (Onward u w₁) h)
include hh

theorem tryStart_onward (u' : Nat) (wait : Wait) :
    Keeps (σ := σ) (Onward u w₀) (tryStart h u' wait) := by
  refine .bind (context_onward u') fun c => .bind (Context.hasTxn_keeps c) fun _ => ?_
  refine .ite (.pure _) (locked_onward fun _ => .bind (Context.hasTxn_keeps c) fun _ => ?_)
  refine .ite (.pure _) (.bind (.bind .world fun _ => .ite (.throw _) (.pure _)) fun _ => ?_)
  exact .bind (.bind (get_keeps u') fun _ => .pure _) fun iso =>
    .bind (Context.begin_onLife (Hooks.Keep.under hh) c iso wait) fun _ => .pure _

omit hh in
/-- Finishing the transaction under the lock, with work that keeps the lock held. -/
theorem tryFinish_onward (u' : Nat) {finish : Nat → Act σ Unit}
    (hf : ∀ c w₁, Keeps (Under u u' w₁) (finish c)) :
    Keeps (σ := σ) (Onward u w₀) (tryFinish u' finish) := by
  refine .bind (context_onward u') fun c => .bind (Context.hasTxn_keeps c) fun _ => ?_
  refine .ite (.pure _) (locked_onward fun _ => .bind (Context.hasTxn_keeps c) fun _ => ?_)
  exact .ite (.pure _) (.bind (hf c _) fun _ => .pure _)

theorem tryCommit_onward (u' : Nat) (wait : Wait) :
    Keeps (σ := σ) (Onward u w₀) (tryCommit h u' wait) :=
  tryFinish_onward u' fun c _ => Context.commit_onLife (Hooks.Keep.under hh) c wait

theorem tryRollback_onward (u' : Nat) (wait : Wait) :
    Keeps (σ := σ) (Onward u w₀) (tryRollback h u' wait) :=
  tryFinish_onward u' fun c _ => Context.rollback_onLife (Hooks.Keep.under hh) c wait

theorem tryRollbackInvalidate_onward (u' : Nat) (wait : Wait) :
    Keeps (σ := σ) (Onward u w₀) (tryRollbackInvalidate h u' wait) :=
  .bind (invalidate_onward u') fun _ => tryRollback_onward hh u' wait

/-- Disposal takes a free lock for good. -/
theorem dispose_onward (u' : Nat) (wait : Wait) :
    Keeps (σ := σ) (Onward u w₀) (dispose h u' wait) :=
  dispose_keeps_of (hh w₀) (fun _ hi hfree => hi.setUnit_disposed (fun e => e ▸ hfree) rfl) wait

end Hooks

end Steps

end UnitOfWork

section Scopes

open UnitOfWork

variable {u : Nat} {w₀ : World} {h : Hooks σ} (hh : ∀ w₁, Hooks.Keep (Onward u w₁) h)
include hh

theorem Scope.dispose_onward (sc : Scope) (wait : Wait) :
    Keeps (σ := σ) (Onward u w₀) (Scope.dispose h sc wait) :=
  .bind (.bind .world fun _ => .ite (.pure _) (.bind (.modifyWorld fun _ hi => hi.of_life (by simp))
    fun _ => .pure _)) fun _ => .ite (UnitOfWork.dispose_onward hh sc.value wait) (.pure _)

theorem Exec.dispose_onward (e : Nat) (wait : Wait) :
    Keeps (σ := σ) (Onward u w₀) (Exec.dispose h e wait) := by
  refine .bind (Exec.get_keeps e) fun x => .ite (.pure _) (.bind (Exec.modify_onLife e _) fun _ => ?_)
  exact .ite (.bind (UnitOfWork.tryRollbackInvalidate_onward hh x.unit wait) fun _ => .pure _) (.pure _)

end Scopes

/-! ## What each operation does around disposal -/

namespace UnitOfWork

section Specs

variable {u : Nat} {s s' : Sys σ} {h : Hooks σ} {wait : Wait}

theorem Disposed.context_eq (hd : Disposed u s.world) :
    (s.world.units[u]?.getD default).context = none :=
  congrArg (fun l => l.2.1) hd

theorem Disposed.observer_eq (hd : Disposed u s.world) :
    (s.world.units[u]?.getD default).observer = none :=
  congrArg (fun l => l.2.2) hd

/-- A disposed unit makes no context: the lock refuses before the factory is asked. -/
theorem context_exec_disposed (hd : Disposed u s.world) :
    exec (context u) s = (.error disposedFault, s) := by
  simp [context, locked, acquire, hd.context_eq, hd.lock_eq]

theorem observer_exec_disposed (hd : Disposed u s.world) :
    exec (observer u) s = (.error disposedFault, s) := by
  simp [observer, hd.observer_eq, context_exec_disposed hd]

theorem promote_exec_disposed (hd : Disposed u s.world) (target : UnitMode) :
    exec (promote u target) s = (.error disposedFault, s) := by
  simp [promote, isDisposed, hd.lock_eq]

theorem tryStart_exec_disposed (hd : Disposed u s.world) :
    exec (tryStart h u wait) s = (.error disposedFault, s) := by
  simp [tryStart, context_exec_disposed hd]

theorem tryFinish_exec_disposed (hd : Disposed u s.world) (finish : Nat → Act σ Unit) :
    exec (tryFinish u finish) s = (.error disposedFault, s) := by
  simp [tryFinish, context_exec_disposed hd]

/-- A unit that never made its context is disposed by taking its lock for good, and nothing
else. -/
theorem dispose_exec_unused (hl : (s.world.units[u]?.getD default).lock = .free)
    (hc : (s.world.units[u]?.getD default).context = none) :
    exec (dispose h u wait) s = (.ok (), { s with
      world := s.world.setUnit u { s.world.unit u with lock := .disposed, observer := none, context := none } }) := by
  rw [dispose, exec_bind, get_exec]
  simp only [hl, hc]
  rw [exec_bind, modify_exec]
  rfl

end Specs

/-! ### Releasing the context

The first disposal that finds the lock free detaches the observer, rolls back the open
transaction and closes the connection. The host program's hooks, which it calls where the
rollback fails, are assumed to leave the contexts and the observers alone. -/

/-- Every context and every observer are as in `w₁`. -/
def Aside (w₁ w : World) : Prop :=
  w.contexts = w₁.contexts ∧ w.observers = w₁.observers

/-- Context `c` exists and was closed `n` times, and observer `obs`, if any, is detached from it
and no longer lets queries flush. -/
structure Detached (c : Nat) (obs : Option Nat) (n : Nat) (w : World) : Prop where
  lt : c < w.contexts.size
  closes : (w.contexts[c]?.getD default).closes = n
  observer : ∀ o, obs = some o → Interceptor.observer o ∉ (w.contexts[c]?.getD default).interceptors ∧
    (w.observers[o]?.getD default).flushEnabled = false

section Release

variable {c n : Nat} {obs : Option Nat} {h : Hooks σ}

theorem Detached.of_aside {w w' : World} (hd : Detached c obs n w) (ha : Aside w w') :
    Detached c obs n w' := by
  obtain ⟨hc, ho⟩ := ha
  refine ⟨by rw [hc]; exact hd.lt, by rw [hc]; exact hd.closes, fun o h => ?_⟩
  rw [hc, ho]
  exact hd.observer o h

theorem Detached.database {α : Type} (x : Database.Step α) :
    Keeps (σ := σ) (Detached c obs n) (Act.database x) :=
  Keeps.database (fun _ _ hd => hd.of_aside ⟨rfl, rfl⟩) x

/-- Taking the transaction out of its slot leaves the close count and the interceptors. -/
theorem Detached.takeTxn : Keeps (σ := σ) (Detached c obs n) (Context.takeTxn c) := by
  refine .bind (.bind .world fun _ => .pure _) fun t => ?_
  cases t with
  | none => exact .throw _
  | some t =>
    refine .bind (.modifyWorld fun w hd => ?_) fun _ => .pure _
    refine ⟨by simpa using hd.lt, by simpa [World.getD_modify_of_lt _ _ _ hd.lt] using hd.closes,
      fun o ho => ?_⟩
    simpa [World.getD_modify_of_lt _ _ _ hd.lt] using hd.observer o ho

theorem Detached.rollback (hq : ∀ w₁, Hooks.Keep (Aside w₁) h) (wait : Wait) :
    Keeps (σ := σ) (Detached c obs n) (Context.rollback h c wait) := by
  have hh : Hooks.Keep (Detached c obs n) h :=
    .of_rel (fun _ _ => ⟨rfl, rfl⟩) (fun _ _ hd ha => hd.of_aside ha) hq
  refine .bind (fun s s' r hd hx => ?_) fun _ => .bind Detached.takeTxn fun _ => ?_
  · obtain ⟨-, hs⟩ := Wait.pause_spec hx
    rw [hs]
    exact hd.of_aside ⟨rfl, rfl⟩
  refine .bind (.outcome (Detached.database _)) fun q => ?_
  cases q with
  | ok _ => exact .pure _
  | error e => exact .bind (Context.failedThrough_keeps hh c .rollback e) fun _ => .throw _

/-- Closing the connection counts one more close and empties its slot. -/
theorem Context.close_exec_context {s : Sys σ} (hr : c < s.world.contexts.size) :
    (exec (Context.close c) s).2.world.contexts[c]?.getD default =
      { s.world.contexts[c]?.getD default with
        closes := (s.world.contexts[c]?.getD default).closes + 1, txn := none } ∧
    (exec (Context.close c) s).2.world.contexts.size = s.world.contexts.size ∧
    (exec (Context.close c) s).2.world.units = s.world.units ∧
    (exec (Context.close c) s).2.world.observers = s.world.observers := by
  cases ht : (s.world.contexts[c]?.getD default).txn <;>
    simp [Context.close, Context.modify, ht, World.getD_modify_of_lt _ _ _ hr]

theorem collect_exec (errors : List Fault) (step : Act σ Unit) (s : Sys σ) :
    ∃ errors', exec (collect errors step) s = (.ok errors', (exec step s).2) := by
  rw [collect, exec_bind, exec_outcome]
  cases (exec step s).1 with
  | ok _ => exact ⟨_, rfl⟩
  | error _ => exact ⟨_, rfl⟩

/-- A step of a disposal whose end has `P`, followed by the rest. -/
theorem collect_bind_exec {β : Type} {P : Sys σ → Prop} {errors : List Fault} {step : Act σ Unit}
    {f : List Fault → Act σ β} {s s' : Sys σ} {r : Except Fault β} (hstep : P (exec step s).2)
    (hx : exec (collect errors step >>= f) s = (r, s')) :
    ∃ errors' s₁, P s₁ ∧ exec (f errors') s₁ = (r, s') := by
  obtain ⟨errors', he⟩ := collect_exec errors step s
  rw [exec_bind, he] at hx
  exact ⟨errors', _, hstep, hx⟩

/-- Detaching the observer: it stops flushing and leaves the context's interceptors. -/
theorem detach_detached (o : Nat) {s : Sys σ} (hr : c < s.world.contexts.size)
    (hn : (s.world.contexts[c]?.getD default).closes = n) :
    Detached c (some o) n
      (exec (do
        modifyObserver o fun ob => { ob with flushEnabled := false }
        Context.removeInterceptor c (.observer o)) s).2.world := by
  refine ⟨by simp [modifyObserver, Context.removeInterceptor, Context.modify, hr],
    by simp [modifyObserver, Context.removeInterceptor, Context.modify, Array.getElem_modify, hr, ← hn],
    fun o' ho => ?_⟩
  obtain rfl := Option.some.inj ho
  by_cases ho : o < s.world.observers.size
  · simp [modifyObserver, Context.removeInterceptor, Context.modify, Array.getElem_modify, hr, ho]
  · -- an observer that is not there reads as the default, which does not flush
    simp [modifyObserver, Context.removeInterceptor, Context.modify, Array.getElem_modify, hr, ho]
    rfl

end Release

section Released

variable {u c : Nat} {s s' : Sys σ} {h : Hooks σ} {wait : Wait} {r : Except Fault Unit}

/-- The first disposal that finds the lock free, of a unit with context `c`, leaves the unit
disposed and the context released: its observer detached, its slot empty and its connection
closed once more. -/
theorem dispose_releases (hh : ∀ w₁, Hooks.Keep (Onward u w₁) h)
    (hq : ∀ w₁, Hooks.Keep (Aside w₁) h) (hl : (s.world.units[u]?.getD default).lock = .free)
    (hc : (s.world.units[u]?.getD default).context = some c) (hr : c < s.world.contexts.size)
    (hx : exec (dispose h u wait) s = (r, s')) :
    Disposed u s'.world ∧ (s'.world.contexts[c]?.getD default).txn = none ∧
      Detached c (s.world.units[u]?.getD default).observer
        ((s.world.contexts[c]?.getD default).closes + 1) s'.world := by
  have hu : u < s.world.units.size := by
    refine Nat.lt_of_not_le fun hn => ?_
    rw [Array.getElem?_eq_none hn] at hc
    exact nomatch (hc : (none : Option Nat) = some c)
  have hdl : Hooks.Keep (LifeIs u (.disposed, none, none)) h :=
    .of_rel (fun w _ => .refl w) (fun _ _ hd hp => hp.disposed hd) hh
  rw [dispose, exec_bind, get_exec] at hx
  simp only [hl, hc] at hx
  rw [exec_bind, modify_exec] at hx
  have hd₁ := lifeIs_disposing hu
  obtain ⟨e₁, s₂, ⟨hd₂, hdet₂⟩, hx⟩ := collect_bind_exec
    (P := fun s₂ => LifeIs u (.disposed, none, none) s₂.world ∧
      Detached c (s.world.units[u]?.getD default).observer (s.world.contexts[c]?.getD default).closes
        s₂.world)
    (by
      split
      · rename_i o ho
        refine ⟨(Keeps.bind (modifyObserver_onLife o _) fun _ => Context.modify_onLife c _ :
          Keeps _ _) hd₁ (Prod.eta _).symm, ?_⟩
        rw [ho]
        exact detach_detached o hr rfl
      · rename_i ho
        rw [ho]
        exact ⟨hd₁, hr, rfl, fun _ h => nomatch h⟩) hx
  -- rolling back the open transaction: the hooks it may call leave the unit disposed
  obtain ⟨e₂, s₃, ⟨hd₃, hdet₃⟩, hx⟩ := collect_bind_exec
    (P := fun s₃ => LifeIs u (.disposed, none, none) s₃.world ∧
      Detached c (s.world.units[u]?.getD default).observer (s.world.contexts[c]?.getD default).closes
        s₃.world)
    (by
      exact ⟨(Keeps.bind (Context.hasTxn_keeps c) fun _ =>
          .ite (Context.rollback_onLife hdl c wait) (.pure _) : Keeps _ _) hd₂ (Prod.eta _).symm,
        (Keeps.bind (Context.hasTxn_keeps c) fun _ =>
          .ite (Detached.rollback hq wait) (.pure _) : Keeps _ _) hdet₂ (Prod.eta _).symm⟩) hx
  obtain ⟨e₃, s₄, ⟨hd₄, htxn₄, hdet₄⟩, hx⟩ := collect_bind_exec
    (P := fun s₄ => LifeIs u (.disposed, none, none) s₄.world ∧
      (s₄.world.contexts[c]?.getD default).txn = none ∧
      Detached c (s.world.units[u]?.getD default).observer
        ((s.world.contexts[c]?.getD default).closes + 1) s₄.world)
    (by
      obtain ⟨hctx, hsize, hunits, hobs⟩ := Context.close_exec_context hdet₃.lt
      refine ⟨by rw [LifeIs, hunits]; exact hd₃, by rw [hctx],
        ⟨by rw [hsize]; exact hdet₃.lt, by rw [hctx, hdet₃.closes], fun o ho => ?_⟩⟩
      rw [hctx, hobs]
      exact hdet₃.observer o ho) hx
  split at hx <;>
  · simp only [exec_throw, exec_pure, Prod.mk.injEq] at hx
    obtain ⟨-, rfl⟩ := hx
    exact ⟨hd₄, htxn₄, hdet₄⟩

/-- Rolling back the connection's transaction `t`, which the database keeps, ends it there: the
database drops it and records the rollback, and the slot is emptied. -/
theorem Context.rollback_exec_kept {t : Nat} {tx : Transaction} (hr : c < s.world.contexts.size)
    (hslot : (s.world.contexts[c]?.getD default).txn = some t) (hwf : s.world.db.txns.Wf)
    (htx : s.world.db.txns.find? t = some tx) (hx : exec (Context.rollback h c wait) s = (r, s')) :
    s'.world.db = { s.world.db with txns := s.world.db.txns.drop t,
                                    history := s.world.db.history ++ [.rolledBack t] } ∧
      (s'.world.contexts[c]?.getD default).txn = none ∧ c < s'.world.contexts.size := by
  simp only [Context.rollback, exec_bind] at hx
  rcases hp : exec wait.pause s with ⟨q, s₁⟩
  obtain ⟨rfl, hs₁⟩ := Wait.pause_spec hp
  have hslot₁ : (s₁.world.contexts[c]?.getD default).txn = some t := by rw [hs₁]; exact hslot
  have hdb₁ : s₁.world.db = s.world.db := by rw [hs₁]
  have hc₁ : s₁.world.contexts = s.world.contexts := by rw [hs₁]
  simp only [hp, Context.takeTxn_exec hslot₁, exec_outcome, exec_database, hdb₁,
    Database.rollback_run hwf htx, exec_pure] at hx
  obtain ⟨-, rfl⟩ := Prod.mk.inj hx
  refine ⟨rfl, ?_, by simp [hc₁, hr]⟩
  simp [hc₁, World.getD_modify_of_lt _ _ _ hr]

/-- The first disposal that finds the lock free rolls back in the database the transaction its
context has open: the database drops it, records the rollback, and changes nothing else. -/
theorem dispose_rolls_back {t : Nat} {tx : Transaction}
    (hl : (s.world.units[u]?.getD default).lock = .free)
    (hc : (s.world.units[u]?.getD default).context = some c) (hr : c < s.world.contexts.size)
    (ht : (s.world.contexts[c]?.getD default).txn = some t) (hwf : s.world.db.txns.Wf)
    (htx : s.world.db.txns.find? t = some tx) (hx : exec (dispose h u wait) s = (r, s')) :
    s'.world.db = { s.world.db with txns := s.world.db.txns.drop t,
                                    history := s.world.db.history ++ [.rolledBack t] } := by
  rw [dispose, exec_bind, get_exec] at hx
  simp only [hl, hc] at hx
  rw [exec_bind, modify_exec] at hx
  obtain ⟨e₁, s₂, ⟨hdb₂, ht₂, hr₂⟩, hx⟩ := collect_bind_exec
    (P := fun s₂ => s₂.world.db = s.world.db ∧ (s₂.world.contexts[c]?.getD default).txn = some t ∧
      c < s₂.world.contexts.size)
    (by
      split
      · have ht' : s.world.contexts[c].txn = some t := by simpa [hr] using ht
        simp [modifyObserver, Context.removeInterceptor, Context.modify, Array.getElem_modify, hr, ht']
      · exact ⟨rfl, ht, hr⟩) hx
  obtain ⟨e₂, s₃, ⟨hdb₃, ht₃, hr₃⟩, hx⟩ := collect_bind_exec
    (P := fun s₃ => s₃.world.db = { s.world.db with txns := s.world.db.txns.drop t,
                                                    history := s.world.db.history ++ [.rolledBack t] } ∧
      (s₃.world.contexts[c]?.getD default).txn = none ∧ c < s₃.world.contexts.size)
    (by
      rw [exec_bind, Context.hasTxn, exec_bind, exec_world]
      simp only [World.context_eq, ht₂, Option.isSome_some, if_true, exec_pure]
      rcases hrb : exec (Context.rollback h c wait) s₂ with ⟨q, s₃⟩
      rw [← hdb₂]
      exact Context.rollback_exec_kept hr₂ ht₂ (hdb₂ ▸ hwf) (hdb₂ ▸ htx) hrb) hx
  obtain ⟨e₃, s₄, hdb₄, hx⟩ := collect_bind_exec
    (P := fun s₄ => s₄.world.db = { s.world.db with txns := s.world.db.txns.drop t,
                                                    history := s.world.db.history ++ [.rolledBack t] })
    (by simp [Context.close, Context.modify, ht₃, hdb₃]) hx
  split at hx <;>
  · simp only [exec_throw, exec_pure, Prod.mk.injEq] at hx
    obtain ⟨-, rfl⟩ := hx
    exact hdb₄

end Released

/-! ## Any sequence of operations -/

/-- What a program may ask of units of work: of a unit directly, or through a scope that holds
one. Disposing a root scope disposes its unit; disposing an execution scope that was not
completed invalidates its unit and rolls it back. -/
inductive Call where
  | context (u : Nat)
  | observer (u : Nat)
  | invalidate (u : Nat)
  | undoInvalidation (u : Nat)
  | enableAutoFlush (u : Nat)
  | promote (u : Nat) (target : UnitMode)
  | setIsolation (u : Nat) (level : Option Isolation)
  | tryStart (u : Nat) (wait : Wait)
  | tryCommit (u : Nat) (wait : Wait)
  | tryRollback (u : Nat) (wait : Wait)
  | tryRollbackInvalidate (u : Nat) (wait : Wait)
  | dispose (u : Nat) (wait : Wait)
  | disposeScope (sc : Scope) (wait : Wait)
  | disposeExec (e : Nat) (wait : Wait)
  deriving Repr, DecidableEq

namespace Call

/-- Run a call, dropping its answer. -/
def run (h : Hooks σ) : Call → Act σ Unit
  | .context u => do let _ ← UnitOfWork.context u
  | .observer u => do let _ ← UnitOfWork.observer u
  | .invalidate u => UnitOfWork.invalidate u
  | .undoInvalidation u => UnitOfWork.undoInvalidation u
  | .enableAutoFlush u => UnitOfWork.enableAutoFlush u
  | .promote u target => UnitOfWork.promote u target
  | .setIsolation u level => UnitOfWork.setIsolation u level
  | .tryStart u wait => do let _ ← UnitOfWork.tryStart h u wait
  | .tryCommit u wait => do let _ ← UnitOfWork.tryCommit h u wait
  | .tryRollback u wait => do let _ ← UnitOfWork.tryRollback h u wait
  | .tryRollbackInvalidate u wait => do let _ ← UnitOfWork.tryRollbackInvalidate h u wait
  | .dispose u wait => UnitOfWork.dispose h u wait
  | .disposeScope sc wait => Scope.dispose h sc wait
  | .disposeExec e wait => Exec.dispose h e wait

/-- Run calls one after the other; a call that fails does not stop the next. -/
def runAll (h : Hooks σ) : List Call → Act σ Unit
  | [] => pure ()
  | c :: cs => do
    let _ ← Act.outcome (c.run h)
    runAll h cs

/-- The calls that a disposed unit `u` refuses. -/
def refusedOnceDisposed (u : Nat) (wait : Wait) (target : UnitMode) : List Call :=
  [.context u, .observer u, .invalidate u, .undoInvalidation u, .enableAutoFlush u,
    .promote u target, .tryStart u wait, .tryCommit u wait, .tryRollback u wait,
    .tryRollbackInvalidate u wait]

section Run

variable {u : Nat} {w₀ : World} {h : Hooks σ} (hh : ∀ w₁, Hooks.Keep (Onward u w₁) h)
include hh

theorem run_onward (c : Call) : Keeps (σ := σ) (Onward u w₀) (c.run h) := by
  cases c with
  | context u' => exact .bind (context_onward u') fun _ => .pure _
  | observer u' => exact .bind (observer_onward u') fun _ => .pure _
  | invalidate u' => exact invalidate_onward u'
  | undoInvalidation u' => exact undoInvalidation_onward u'
  | enableAutoFlush u' => exact enableAutoFlush_onward u'
  | promote u' target => exact promote_onward u' target
  | setIsolation u' level => exact setIsolation_onward u' level
  | tryStart u' wait => exact .bind (tryStart_onward hh u' wait) fun _ => .pure _
  | tryCommit u' wait => exact .bind (tryCommit_onward hh u' wait) fun _ => .pure _
  | tryRollback u' wait => exact .bind (tryRollback_onward hh u' wait) fun _ => .pure _
  | tryRollbackInvalidate u' wait =>
    exact .bind (tryRollbackInvalidate_onward hh u' wait) fun _ => .pure _
  | dispose u' wait => exact dispose_onward hh u' wait
  | disposeScope sc wait => exact Scope.dispose_onward hh sc wait
  | disposeExec e wait => exact Exec.dispose_onward hh e wait

/-- Every run of calls moves `u`'s life on, one call at a time. -/
theorem runAll_onward : ∀ calls : List Call, Keeps (σ := σ) (Onward u w₀) (runAll h calls)
  | [] => .pure _
  | c :: cs => .bind (.outcome (run_onward hh c)) fun _ => runAll_onward cs

end Run

theorem run_disposed {u : Nat} {s : Sys σ} {h : Hooks σ} {wait : Wait} {target : UnitMode}
    (hd : Disposed u s.world) :
    ∀ c ∈ refusedOnceDisposed u wait target, exec (c.run h) s = (.error disposedFault, s) := by
  simp only [refusedOnceDisposed, List.mem_cons, List.not_mem_nil, or_false]
  rintro c (rfl | rfl | rfl | rfl | rfl | rfl | rfl | rfl | rfl | rfl) <;>
    simp [run, UnitOfWork.invalidate, UnitOfWork.undoInvalidation, UnitOfWork.enableAutoFlush,
      UnitOfWork.tryCommit, UnitOfWork.tryRollback, UnitOfWork.tryRollbackInvalidate, context_exec_disposed hd, observer_exec_disposed hd,
      promote_exec_disposed hd, tryStart_exec_disposed hd, tryFinish_exec_disposed hd]

end Call

/-- Disposing a unit of work happens once and for good. Along any run of calls, whatever unit
each is about and whatever it answers, a disposed unit stays disposed and a context, once made,
stays the unit's until it is disposed; every caller gets that context. A disposal while the lock
is held fails and changes nothing; once disposed, a disposal does nothing and every other call
is refused without a change, so no context is made again. A unit that never made its context is
disposed without making one; otherwise the first disposal that finds the lock free detaches
the observer, empties the connection's slot and closes it once, and the transaction the slot
held, if the database keeps it, is rolled back there and nothing else in the database changes.
The host program's hooks are assumed to move the unit's life on like every call does, and, for
the release, to leave the contexts and observers alone. -/
theorem disposal_is_once_and_final (h : Hooks σ) (u : Nat)
    (hh : ∀ w₁, Hooks.Keep (Onward u w₁) h) :
    (∀ (calls : List Call) (s : Sys σ), Onward u s.world (exec (Call.runAll h calls) s).2.world) ∧
    (∀ (s : Sys σ) c, (s.world.units[u]?.getD default).context = some c →
      exec (context u) s = (.ok c, s)) ∧
    (∀ (s : Sys σ) wait, (s.world.units[u]?.getD default).lock = .held →
      exec (dispose h u wait) s = (.error contendedFault, s)) ∧
    (∀ (s : Sys σ) wait target, Disposed u s.world →
      exec (dispose h u wait) s = (.ok (), s) ∧
      ∀ c ∈ Call.refusedOnceDisposed u wait target, exec (c.run h) s = (.error disposedFault, s)) ∧
    (∀ (s : Sys σ) wait, (s.world.units[u]?.getD default).lock = .free →
      (s.world.units[u]?.getD default).context = none →
      exec (dispose h u wait) s = (.ok (), { s with
        world := s.world.setUnit u { s.world.unit u with lock := .disposed, observer := none, context := none } })) ∧
    (∀ (s s' : Sys σ) wait r c, (∀ w₁, Hooks.Keep (Aside w₁) h) →
      (s.world.units[u]?.getD default).lock = .free →
      (s.world.units[u]?.getD default).context = some c → c < s.world.contexts.size →
      exec (dispose h u wait) s = (r, s') →
      Disposed u s'.world ∧ (s'.world.contexts[c]?.getD default).txn = none ∧
        Detached c (s.world.units[u]?.getD default).observer
          ((s.world.contexts[c]?.getD default).closes + 1) s'.world) ∧
    (∀ (s s' : Sys σ) wait r c t (tx : Transaction), (s.world.units[u]?.getD default).lock = .free →
      (s.world.units[u]?.getD default).context = some c → c < s.world.contexts.size →
      (s.world.contexts[c]?.getD default).txn = some t → s.world.db.txns.Wf →
      s.world.db.txns.find? t = some tx → exec (dispose h u wait) s = (r, s') →
      s'.world.db = { s.world.db with txns := s.world.db.txns.drop t,
                                      history := s.world.db.history ++ [.rolledBack t] }) :=
  ⟨fun calls s => Call.runAll_onward hh calls (.refl s.world) (Prod.eta _).symm,
    fun _ _ hc => context_exec hc,
    fun _ _ hl => dispose_exec_held hl,
    fun _ _ _ hd => ⟨dispose_exec_disposed hd.lock_eq, Call.run_disposed hd⟩,
    fun _ _ hl hc => dispose_exec_unused hl hc,
    fun _ _ _ _ _ hq hl hc hr hx => dispose_releases hh hq hl hc hr hx,
    fun _ _ _ _ _ _ _ hl hc hr ht hwf htx hx => dispose_rolls_back hl hc hr ht hwf htx hx⟩

/-- With hooks that do nothing, every run of calls moves each unit's life on. -/
theorem quiet_runs_dispose_once_and_for_good :
    (∀ w₁, Hooks.Keep (Onward 0 w₁) (Hooks.quiet (σ := Unit))) ∧
      ∀ (calls : List Call) (s : Sys Unit),
        Onward 0 s.world (exec (Call.runAll Hooks.quiet calls) s).2.world :=
  ⟨fun _ => Hooks.quiet_keep _,
    (disposal_is_once_and_final Hooks.quiet 0 fun _ => Hooks.quiet_keep _).1⟩

end UnitOfWork

end ScopedWork
