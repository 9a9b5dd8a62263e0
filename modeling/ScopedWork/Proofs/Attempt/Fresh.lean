import ScopedWork.Proofs.Attempt.Kept
import ScopedWork.Proofs.Root.Attempts

/-!
# Every attempt starts clean

An attempt of a root execution starts from a unit of work that is `Clean`: its context
tracks nothing and holds no transaction, its observer is not invalidated, not saving and has
seen no explicit change, and the unit is in scoped execution with flushing enabled as its
flush mode asks. Preparing a fresh unit makes it so, and the reset after a failed attempt
makes it so again from anything the attempt left behind, as long as the unit kept what
`Prepared` names (which the library's own operations do, and which the work and the hooks are
assumed to do: disposing the unit of work inside its own execution is the way to break it).

The strategy starts every attempt from `Clean`, and the attempt invokes the work with the
unit still `Clean`. So a work that checks, at each invocation, that the unit is ready for an
attempt (`Work.checked`), and fails otherwise, runs exactly like the work itself.
-/

namespace ScopedWork

open Act

variable {σ : Type}

namespace Execution

/-- The unit of work as an attempt finds it: `Prepared`, and clean of everything an earlier
attempt could leave behind. -/
structure Clean (u c o : Nat) (a : AutoFlush) (w : World) : Prop extends Prepared u c o a w where
  untracked : (w.contexts[c]?.getD default).tracker.size = 0
  no_txn : (w.contexts[c]?.getD default).txn = none
  not_invalidated : (w.observers[o]?.getD default).aborted = false
  not_saving : (w.observers[o]?.getD default).saving = false
  no_explicit : (w.observers[o]?.getD default).explicitChanges = false

/-- Whether unit `u` is ready for an attempt, read off the world: its context tracks nothing
and holds no transaction, its observer is neither invalidated nor saving and has seen no
explicit change, and the unit is in scoped execution with flushing enabled unless its flush
mode is off. -/
def freshAttempt (u : Nat) (w : World) : Bool :=
  match (w.unit u).context, (w.unit u).observer with
  | some c, some o =>
    (w.unit u).mode == .scopedExecution && (w.context c).tracker.size == 0 &&
      (w.context c).txn.isNone && !(w.observer o).aborted && !(w.observer o).saving &&
      !(w.observer o).explicitChanges &&
      (w.observer o).flushEnabled == ((w.observer o).autoFlush != .off)
  | _, _ => false

end Execution

/-- The work, invoked only while its unit is ready for an attempt; otherwise it fails with
`fault`. -/
def Work.checked {α : Type} (u : Nat) (fault : Fault) (work : Work σ α) : Work σ α := fun e => do
  if Execution.freshAttempt u (← Act.world) then work e else throw fault

namespace Execution

variable {u c o : Nat} {a : AutoFlush}

namespace Clean

variable {w : World}

theorem fresh (hr : Clean u c o a w) : freshAttempt u w = true := by
  have hu := hr.unit
  have hf := hr.flushing
  simp only [UnitState.shape, Prod.mk.injEq] at hu hf
  simp [freshAttempt, hu.1, hu.2.1, hu.2.2, hf.1, hf.2, hr.untracked, hr.no_txn,
    hr.not_invalidated, hr.not_saving, hr.no_explicit]

/-- A world with the same units, observers and contexts is as ready. -/
theorem of_eq {w' : World} (hr : Clean u c o a w) (hu : w'.units = w.units)
    (ho : w'.observers = w.observers) (hc : w'.contexts = w.contexts) : Clean u c o a w' :=
  { hr.toPrepared.of_eq hu ho with
    untracked := hc ▸ hr.untracked
    no_txn := hc ▸ hr.no_txn
    not_invalidated := ho ▸ hr.not_invalidated
    not_saving := ho ▸ hr.not_saving
    no_explicit := ho ▸ hr.no_explicit }

end Clean

theorem checked_exec {α : Type} {fault : Fault} {work : Work σ α} (e : Nat) {s : Sys σ}
    (hr : Clean u c o a s.world) : exec (Work.checked u fault work e) s = exec (work e) s := by
  simp [Work.checked, hr.fresh]

end Execution

/-! ## Preparing a fresh unit

A root execution gets a unit of work that has never been used: no context, no observer, its
lock free. Preparing it moves it to scoped execution, creates its context and attaches its
observer, and enables flushing. Each step is specified by what it leaves when it succeeds;
a failure there ends the execution before any attempt. -/

theorem UnitMode.transition_ok {m t m' : UnitMode} (h : m.transition t = .ok m') : m' = t := by
  unfold UnitMode.transition at h
  split at h
  · cases h
    rfl
  · split at h <;> first | (cases h; rfl) | cases h

theorem UnitOfWork.promote_ok {t : UnitMode} {s s' : Sys σ} {u : Nat}
    (hx : exec (UnitOfWork.promote u t) s = (.ok (), s')) :
    s' = { s with world := s.world.setUnit u { s.world.unit u with mode := t } } := by
  simp only [UnitOfWork.promote, UnitOfWork.isDisposed, UnitOfWork.get, UnitOfWork.modify, exec_bind,
    exec_world, exec_pure] at hx
  split at hx
  · simp at hx
  · simp only [exec_bind, exec_world, exec_pure, exec_ofExcept, World.unit_eq] at hx
    cases hm : (s.world.units[u]?.getD default).mode.transition t with
    | error e => simp [hm] at hx
    | ok m =>
      obtain rfl := UnitMode.transition_ok hm
      simp only [hm, exec_modifyWorld, Prod.mk.injEq] at hx
      rw [← hx.2]
      simp only [World.unit_eq]

/-- A factory's new context is the next id and starts empty; units and observers are left
alone. -/
theorem Factory.create_ok {f c : Nat} {s s' : Sys σ} (hx : exec (Factory.create f) s = (.ok c, s')) :
    c = s.world.contexts.size ∧ s'.world.contexts = s.world.contexts.push {} ∧
      s'.world.units = s.world.units ∧ s'.world.observers = s.world.observers := by
  simp only [Factory.create, Context.create, exec_bind, exec_world] at hx
  split at hx
  · simp at hx
  · simp at hx
    obtain ⟨rfl, rfl⟩ := hx
    simp

theorem Sys.withLock_unit {s : Sys σ} {u : Nat} {l : LockState} (hu : u < s.world.units.size) :
    (s.withLock u l).world.unit u = { s.world.unit u with lock := l } := by
  simp [Sys.withLock, Array.getElem_modify, hu]

/-- What succeeds under a free lock succeeded with the lock held, and frees it after. -/
theorem UnitOfWork.locked_ok {α : Type} {body : Act σ α} {s s' : Sys σ} {u : Nat} {a : α}
    (hl : (s.world.unit u).lock = .free) (hx : exec (UnitOfWork.locked u body) s = (.ok a, s')) :
    ∃ s₁, exec body (s.withLock u .held) = (.ok a, s₁) ∧ s' = s₁.withLock u .free := by
  rw [World.unit_eq] at hl
  rw [UnitOfWork.locked_exec_free _ hl, Prod.mk.injEq] at hx
  exact ⟨_, Prod.ext hx.1 rfl, hx.2.symm⟩

/-- The first use of a unit's context creates it, empty, under the unit's lock. -/
theorem UnitOfWork.context_create_ok {s s' : Sys σ} {u c : Nat} (hc : (s.world.unit u).context = none)
    (hl : (s.world.unit u).lock = .free) (hu : u < s.world.units.size)
    (hx : exec (UnitOfWork.context u) s = (.ok c, s')) :
    s'.world.unit u = { s.world.unit u with context := some c } ∧
      s'.world.units.size = s.world.units.size ∧ s'.world.context c = {} ∧
      c < s'.world.contexts.size ∧ s'.world.observers = s.world.observers := by
  have hc' := hc
  simp only [World.unit_eq] at hc'
  simp only [UnitOfWork.context, UnitOfWork.get, exec_bind, exec_world, exec_pure, World.unit_eq, hc'] at hx
  obtain ⟨s₁, hb, rfl⟩ := UnitOfWork.locked_ok hl hx
  have hc₁ : ((s.withLock u .held).world.units[u]?.getD default).context = none := by
    rw [← World.unit_eq, Sys.withLock_unit hu]
    exact hc
  simp only [exec_bind, exec_world, exec_pure, hc₁] at hb
  rcases hf : exec (Factory.create _) (s.withLock u .held) with ⟨_ | c', s₂⟩ <;> rw [hf] at hb
  · cases hb
  obtain ⟨rfl, hcs, hus, hos⟩ := Factory.create_ok hf
  simp only [UnitOfWork.modify, exec_modifyWorld, Prod.mk.injEq, Except.ok.injEq] at hb
  obtain ⟨rfl, rfl⟩ := hb
  have hl' : s.world.units[u].lock = .free := by simpa [hu] using hl
  refine ⟨?_, ?_, ?_, ?_, ?_⟩ <;> simp [Sys.withLock, hus, hcs, hos, hu, Array.getElem_modify, hl']

theorem Context.addInterceptor_ok {s s' : Sys σ} {c : Nat} {i : Interceptor}
    (hx : exec (Context.addInterceptor c i) s = (.ok (), s')) :
    s' = { s with world := s.world.setContext c ({ s.world.context c with
      interceptors := (s.world.context c).interceptors ++ [i] }) } := by
  simp only [Context.addInterceptor, Context.modify, exec_bind, exec_world] at hx
  split at hx
  · simp at hx
  · simp only [exec_modifyWorld, Prod.mk.injEq] at hx
    exact hx.2.symm

/-- The first use of a unit's observer creates the unit's context and attaches a new observer
to it, which has seen nothing yet and flushes nothing yet. -/
theorem UnitOfWork.observer_create_ok {s s' : Sys σ} {u o : Nat}
    (ho : (s.world.unit u).observer = none) (hc : (s.world.unit u).context = none)
    (hl : (s.world.unit u).lock = .free) (hu : u < s.world.units.size)
    (hx : exec (UnitOfWork.observer u) s = (.ok o, s')) :
    ∃ c, s'.world.unit u = { s.world.unit u with context := some c, observer := some o } ∧
      s'.world.units.size = s.world.units.size ∧ (s'.world.context c).tracker = {} ∧
      (s'.world.context c).txn = none ∧ o < s'.world.observers.size ∧
      s'.world.observer o = ({ unit := u, autoFlush := (s.world.unit u).options.autoFlush,
                                avoidCommitRetries := (s.world.unit u).options.avoidCommitRetries } :
        ObserverState) ∧
      (s'.world.context c).interceptors = [.observer o] ∧ c < s'.world.contexts.size := by
  have ho' := ho
  simp only [World.unit_eq] at ho'
  simp only [UnitOfWork.observer, UnitOfWork.get, exec_bind, exec_world, exec_pure, World.unit_eq, ho'] at hx
  rcases hcx : exec (UnitOfWork.context u) s with ⟨_ | c, s₁⟩ <;> rw [hcx] at hx
  · cases hx
  obtain ⟨hu₁, hsz₁, hc₁, hlt₁, hos₁⟩ := UnitOfWork.context_create_ok hc hl hu hcx
  have hl₁ : (s₁.world.unit u).lock = .free := by
    rw [hu₁]
    exact hl
  obtain ⟨s₂, hb, rfl⟩ := UnitOfWork.locked_ok hl₁ hx
  clear hx
  have hlt : u < s₁.world.units.size := hsz₁ ▸ hu
  have ho₂ : ((s₁.withLock u .held).world.units[u]?.getD default).observer = none := by
    rw [← World.unit_eq, Sys.withLock_unit hlt, hu₁]
    exact ho
  simp only [exec_bind, exec_world, exec_pure, exec_outcome, ho₂] at hb
  rcases hi : exec (Context.addInterceptor c _) (s₁.withLock u .held) with ⟨_ | ⟨⟩, s₃⟩ <;> rw [hi] at hb
  · simp at hb
  obtain rfl := Context.addInterceptor_ok hi
  simp only [UnitOfWork.modify] at hb
  obtain ⟨rfl, rfl⟩ := hb
  rw [World.unit_eq] at hu₁ hl
  rw [World.context_eq] at hc₁
  refine ⟨c, ?_, ?_, ?_, ?_, ?_, ?_, ?_, ?_⟩ <;>
    simp only [Sys.withLock, World.unit_eq, World.setUnit_eq, World.setContext_eq, World.context_eq,
      World.observer_eq, World.getD_modify_self, Array.size_modify, Array.size_push, hlt₁, hu₁, hc₁,
      ↓reduceIte, World.getD_push, hos₁, hsz₁, hu, hl, Nat.lt_add_one, List.nil_append]

theorem UnitOfWork.enableAutoFlush_exec {s : Sys σ} {u o : Nat} (ho : (s.world.unit u).observer = some o) :
    exec (UnitOfWork.enableAutoFlush u) s = (.ok (), { s with
      world := s.world.setObserver o
        (if (s.world.observer o).autoFlush == .off then s.world.observer o
         else { s.world.observer o with flushEnabled := true }) }) := by
  rw [World.unit_eq] at ho
  simp only [UnitOfWork.enableAutoFlush, UnitOfWork.modifyObserver, exec_bind, UnitOfWork.observer_exec ho,
    exec_modifyWorld]

/-- Preparing a fresh unit, when it succeeds, leaves it ready for its first attempt, flushing
as its options ask, with its lock free. Its new observer is the only interceptor of its new
context, serves it, avoids commit retries as its options say, and has no listeners. -/
theorem UnitOfWork.prepareRoot_clean {s s' : Sys σ} {u c : Nat} (hc : (s.world.unit u).context = none)
    (ho : (s.world.unit u).observer = none) (hl : (s.world.unit u).lock = .free)
    (hu : u < s.world.units.size) (hx : exec (UnitOfWork.prepareRoot u) s = (.ok c, s')) :
    ∃ o, Execution.Clean u c o (s.world.unit u).options.autoFlush s'.world ∧
      (s'.world.observers[o]?.getD default).shape =
        (u, (s.world.unit u).options.avoidCommitRetries, [], []) ∧
      (s'.world.contexts[c]?.getD default).interceptors = [.observer o] ∧ c < s'.world.contexts.size ∧
      (s'.world.units[u]?.getD default).lock = .free := by
  unfold UnitOfWork.prepareRoot at hx
  obtain ⟨_, s₁, hp, hx⟩ := exec_bind_eq_ok hx
  obtain rfl := UnitOfWork.promote_ok hp
  obtain ⟨o, s₂, ho₂, hx⟩ := exec_bind_eq_ok hx
  have hu₁ : ({ s with world := s.world.setUnit u { s.world.unit u with mode := .scopedExecution } } :
      Sys σ).world.unit u = { s.world.unit u with mode := .scopedExecution } := by
    simp [hu, Array.getElem_modify]
  obtain ⟨c', hu₂, hsz₂, htr, htxn, hlt, hob, hint, hclt⟩ := UnitOfWork.observer_create_ok
    (by rw [hu₁]; exact ho) (by rw [hu₁]; exact hc) (by rw [hu₁]; exact hl) (by simp [hu]) ho₂
  rw [hu₁] at hu₂ hob
  obtain ⟨_, s₃, hf, hx⟩ := exec_bind_eq_ok hx
  rw [UnitOfWork.enableAutoFlush_exec (by rw [hu₂]), Prod.mk.injEq] at hf
  obtain ⟨-, rfl⟩ := hf
  rw [UnitOfWork.context_exec (c := c') (by simp [← World.unit_eq, hu₂]), Prod.mk.injEq,
    Except.ok.injEq] at hx
  obtain ⟨rfl, rfl⟩ := hx
  rw [World.unit_eq] at hu₂
  rw [World.observer_eq] at hob
  rw [World.context_eq] at htr htxn hint
  have hl' : s.world.units[u].lock = .free := by simpa [hu] using hl
  refine ⟨o, ⟨⟨?_, ?_, ?_, ?_⟩, ?_, ?_, ?_, ?_, ?_⟩, ?_, ?_, ?_, ?_⟩ <;>
    simp only [World.setObserver_eq, World.observer_eq, World.getD_modify_self, Array.size_modify, hlt,
      ↓reduceIte, hu₂, hob, htr, htxn, hint, hclt, hsz₂, UnitState.shape, ObserverState.shape] <;>
    cases (s.world.unit u).options.autoFlush <;> simp [Tracker.size, hu, hl']

/-! ## The reset after a failed attempt

The reset forgets what the context tracks, clears the observer's change detection, closes
the connection (rolling back what it holds) and lifts the invalidation. From any state in
which the unit kept its context and observer, it ends with the unit ready again. -/

theorem Context.clearTracked_exec (c : Nat) (s : Sys σ) :
    exec (Context.clearTracked c) s =
      (.ok (), { s with world := s.world.setContext c { s.world.context c with tracker := {} } }) := by
  simp [Context.clearTracked, Context.modify, Tracker.clear]

/-- Closing the connection empties its slot; rolling back may change the database. -/
theorem Context.close_exec (c : Nat) (s : Sys σ) : ∃ db,
    (exec (Context.close c) s).2 = { s with world := { s.world.setContext c
      { s.world.context c with closes := (s.world.context c).closes + 1, txn := none } with db } } := by
  simp only [Context.close, Context.modify, exec_bind, exec_world, exec_modifyWorld]
  split
  · simp only [exec_database]
    exact ⟨_, rfl⟩
  · exact ⟨_, rfl⟩

theorem UnitOfWork.undoInvalidation_exec {s : Sys σ} {u o : Nat}
    (h : (s.world.units[u]?.getD default).observer = some o) :
    exec (UnitOfWork.undoInvalidation u) s =
      (.ok (), { s with world := s.world.setObserver o { s.world.observer o with aborted := false } }) := by
  simp [UnitOfWork.undoInvalidation, UnitOfWork.observer_exec h, UnitOfWork.modifyObserver]

namespace Execution

variable {u c o : Nat} {a : AutoFlush}

/-- The reset never fails, and from a unit that kept its context and observer it leaves the
unit ready for the next attempt. -/
theorem resetAfterFailure_clean {s : Sys σ} (hk : Prepared u c o a s.world) :
    ∃ s', exec (UnitOfWork.resetAfterFailure u c) s = (.ok (), s') ∧ Clean u c o a s'.world := by
  let s₁ : Sys σ := { s with world := s.world.setContext c { s.world.context c with tracker := {} } }
  have hk₁ : Prepared u c o a s₁.world := hk.of_eq rfl rfl
  let ob : ObserverState := { s₁.world.observer o with explicitChanges := false, saving := false }
  let s₂ : Sys σ := { s₁ with world := s₁.world.setObserver o ob }
  have hk₂ : Prepared u c o a s₂.world :=
    hk₁.setObserver o (fun x => { x with explicitChanges := false, saving := false }) rfl
  obtain ⟨db, hclose⟩ := Context.close_exec c s₂
  have hk₃ : Prepared u c o a (exec (Context.close c) s₂).2.world := by
    rw [hclose]
    exact hk₂.of_eq rfl rfl
  have e₁ : exec (Context.clearTracked c) s = (.ok (), s₁) := Context.clearTracked_exec c s
  have e₂ : exec (do
      let o ← UnitOfWork.observer u
      UnitOfWork.modifyObserver o fun ob => { ob with explicitChanges := false, saving := false }) s₁ =
      (.ok (), s₂) := by
    rw [exec_bind, UnitOfWork.observer_exec hk₁.observer]
    rfl
  have e₄ := UnitOfWork.undoInvalidation_exec hk₃.observer
  unfold UnitOfWork.resetAfterFailure
  rw [exec_bind, e₁]
  dsimp only
  rw [exec_bind, exec_outcome, e₂]
  dsimp only
  rw [exec_bind, exec_outcome]
  dsimp only
  rw [exec_bind, exec_outcome, e₄]
  dsimp only
  have hk₄ := hk₃.setObserver o (fun x => { x with aborted := false }) rfl
  -- each field as its last step left it; a context past the end reads as the default
  refine ⟨_, rfl, Clean.mk hk₄ ?_ ?_ ?_ ?_ ?_⟩ <;> rw [hclose] <;>
    by_cases hc : c < s.world.contexts.size <;>
    simp [s₂, s₁, ob, Array.getElem_modify, hc, hk.observer_lt, Tracker.size] <;> rfl

/-! ## Attempts from a ready unit

The strategy runs `once`: the attempt, and the reset after it when it failed. From a ready
unit an attempt invokes the work with the unit still ready, so it runs alike with the work
checked or not; it never fails itself, and after a failure the reset makes the unit ready
again. -/

/-- One attempt of a root execution as its strategy runs it: the attempt's outcome, the unit
reset after a failure. -/
def once {α : Type} (h : Hooks σ) (u c : Nat) (options : Options) (work : Work σ α) (wait : Wait) :
    Act σ (Except Fault α) := do
  let r ← Act.outcome (attempt h u c options work wait)
  if let .error _ := r then UnitOfWork.resetAfterFailure u c
  return r

theorem root_eq {α : Type} (h : Hooks σ) (u : Nat) (options : Options) (work : Work σ α) (wait : Wait) :
    root h u options work wait = (do
      let c ← UnitOfWork.prepareRoot u
      let (r, _) ← (Strategy.forExecution options).run wait.waiting (once h u c options work wait)
        (Strategy.forExecution options).initial
      Act.ofExcept r) := rfl

/-- The scope's body runs from the state the scope was entered in: a body that runs alike
there gives a scope that runs alike. -/
theorem runWork_congr {β : Type} (h : Hooks σ) (e : Nat) {body body' : Act σ β} (wait : Wait)
    {s : Sys σ} (hb : exec body s = exec body' s) :
    exec (Exec.runWork h e body wait) s = exec (Exec.runWork h e body' wait) s := by
  unfold Exec.runWork
  cases wait with
  | blocking => simp only [exec_bind, Exec.get, exec_world, exec_pure, exec_outcome, hb]
  | async t =>
    simp only [exec_bind, Exec.get, exec_world, exec_pure, Cancellation.isCancelled]
    split
    · rfl
    · simp only [exec_bind, exec_outcome, hb]

theorem invokeAndRun_checked {α : Type} (h : Hooks σ) (e : Nat) (fault : Fault) (work : Work σ α)
    (wait : Wait) {s : Sys σ} (hr : Clean u c o a s.world) :
    exec (Exec.invokeAndRun h e (Work.checked u fault work) wait) s =
      exec (Exec.invokeAndRun h e work wait) s := by
  unfold Exec.invokeAndRun
  cases wait with
  | blocking => exact runWork_congr h e _ (exec_bind_congr (checked_exec e hr) fun _ _ _ => rfl)
  | async t => exact exec_bind_congr (checked_exec e hr) fun _ _ _ => rfl

theorem scopeToken_clean (wait : Wait) :
    Keeps (σ := σ) (fun w => Clean u c o a w) wait.scopeToken := by
  cases wait with
  | blocking =>
    exact .bind .world fun _ => .bind (.modifyWorld fun _ hr => hr.of_eq rfl rfl rfl) fun _ => .pure _
  | async t => exact .pure _

theorem create_clean (u' c' : Nat) (nested : Bool) (t : Nat) :
    Keeps (σ := σ) (fun w => Clean u c o a w) (Exec.create u' c' nested t) :=
  .bind .world fun _ => .bind (.modifyWorld fun _ hr => hr.of_eq rfl rfl rfl) fun _ => .pure _

/-- Creating the scope and its token leaves the unit ready, so the work is invoked on a
ready unit. -/
theorem attempt_checked {α : Type} (h : Hooks σ) (c' : Nat) (options : Options) (fault : Fault)
    (work : Work σ α) (wait : Wait) {s : Sys σ} (hr : Clean u c o a s.world) :
    exec (attempt h u c' options (Work.checked u fault work) wait) s =
      exec (attempt h u c' options work wait) s := by
  unfold attempt
  refine exec_bind_congr rfl fun t s₁ h₁ => ?_
  have hr₁ := scopeToken_clean wait hr h₁
  refine exec_bind_congr rfl fun e s₂ h₂ => ?_
  have hr₂ := create_clean u c' false t hr₁ h₂
  exact exec_bind_congr (invokeAndRun_checked h e fault work wait hr₂) fun _ _ _ => rfl

theorem once_checked {α : Type} (h : Hooks σ) (c' : Nat) (options : Options) (fault : Fault)
    (work : Work σ α) (wait : Wait) {s : Sys σ} (hr : Clean u c o a s.world) :
    exec (once h u c' options (Work.checked u fault work) wait) s =
      exec (once h u c' options work wait) s := by
  unfold once
  rw [exec_bind, exec_bind, exec_outcome, exec_outcome, attempt_checked h c' options fault work wait hr]

/-- Between attempts the strategy looks at the token and lets other tasks run; neither fails
nor touches the unit. -/
theorem waiting_clean (wait : Wait) :
    Strategy.Waits (fun s : Sys σ => Clean u c o a s.world) wait.waiting := by
  intro w hw
  cases wait with
  | blocking => cases hw
  | async t =>
    cases hw
    refine ⟨fun s s' r hr hx => ?_, fun s s' r hr hx => ?_⟩
    · simp only [Cancellation.isCancelled, exec_bind, exec_world, exec_pure, Prod.mk.injEq] at hx
      obtain ⟨rfl, rfl⟩ := hx
      exact ⟨⟨_, rfl⟩, hr⟩
    · rw [Cancellation.suspend_exec, Prod.mk.injEq] at hx
      obtain ⟨rfl, rfl⟩ := hx
      exact ⟨rfl, hr.of_eq rfl rfl rfl⟩

/-- From a ready unit, an attempt as the strategy runs it never fails itself, and after a
failed attempt the unit is ready again, whatever the failure. -/
theorem once_tries {α : Type} {h : Hooks σ} {work : Work σ α} (hh : Hooks.Keep (Prepared u c o a) h)
    (hw : Work.Keeps (Prepared u c o a) work) (options : Options) (wait : Wait) :
    Strategy.Tries (fun s : Sys σ => Clean u c o a s.world) (fun _ _ => True)
      (once h u c options work wait) id := by
  intro s s' r hr hx
  unfold once at hx
  rw [exec_bind, exec_outcome] at hx
  rcases h₁ : exec (attempt h u c options work wait) s with ⟨q, s₁⟩
  have hk₁ : Prepared u c o a s₁.world := attempt_keeps hh u c options hw wait hr.toPrepared h₁
  rw [h₁] at hx
  cases q with
  | ok v =>
    simp only [exec_pure, Prod.mk.injEq] at hx
    obtain ⟨rfl, rfl⟩ := hx
    exact ⟨_, rfl, trivial, fun _ he => by cases he⟩
  | error e =>
    obtain ⟨s₂, hreset, hready⟩ := resetAfterFailure_clean hk₁
    simp only [exec_bind, hreset, exec_pure, Prod.mk.injEq] at hx
    obtain ⟨rfl, rfl⟩ := hx
    exact ⟨_, rfl, trivial, fun _ _ _ => hready⟩

/-! ## Every attempt starts clean -/

/-- Every attempt of a root execution, the first and every retry, under any strategy and
either way of waiting, invokes its work on a unit ready for it: a work that checks this at
each invocation, and fails otherwise, runs exactly like the work itself. The unit is fresh,
as the root execution of a scope gets it, and the work and the hooks leave its context, its
observer, its mode and its flushing as the preparation set them. -/
theorem every_attempt_starts_clean {α : Type} (h : Hooks σ) (u : Nat) (options : Options)
    (fault : Fault) (work : Work σ α) (wait : Wait) {s : Sys σ}
    (hc : (s.world.unit u).context = none) (ho : (s.world.unit u).observer = none)
    (hl : (s.world.unit u).lock = .free) (hu : u < s.world.units.size)
    (hh : ∀ c o a, Hooks.Keep (Prepared u c o a) h) (hw : ∀ c o a, Work.Keeps (Prepared u c o a) work) :
    exec (root h u options (Work.checked u fault work) wait) s = exec (root h u options work wait) s := by
  rw [root_eq, root_eq]
  refine exec_bind_congr rfl fun c s₁ hp => ?_
  obtain ⟨o, hr, -⟩ := UnitOfWork.prepareRoot_clean hc ho hl hu hp
  -- the strategy's loop, run from a ready unit, with the same attempt either way
  refine exec_bind_congr ?_ fun _ _ _ => rfl
  exact (Strategy.run_congr (waiting_clean wait) (once_tries (hh _ _ _) (hw _ _ _) options wait)
    (fun _ hr' => (once_checked h c options fault work wait hr').symm) _ _ _ hr).symm

/-- A work that counts its invocations and fails transiently at the first. -/
def failFirst : Work Nat Unit := fun _ => do
  let n ← Act.host
  Act.modifyHost (· + 1)
  if n = 0 then throw (.transient "retry") else return pure ()

theorem failFirst_keeps (I : World → Prop) : Work.Keeps I failFirst := fun _ =>
  ⟨.bind .host fun _ => .bind (.modifyHost _) fun _ => .ite (.throw _) (.pure _),
    fun _ _ _ _ hx => by
      simp only [failFirst, exec_bind, exec_host, exec_modifyHost] at hx
      split at hx
      · simp at hx
      · simp only [exec_pure, Prod.mk.injEq, Except.ok.injEq] at hx
        obtain ⟨rfl, rfl⟩ := hx
        exact .pure _⟩

/-- A work that fails transiently at its first invocation is retried once, and both attempts
start clean: checking it at each invocation changes nothing. -/
theorem retried_work_attempts_start_clean :
    exec (root Hooks.quiet 0 { transientRetry := some { maxRetries := 1 } }
        (Work.checked 0 .cancelled failFirst) .blocking)
        { world := { units := #[{ factory := 0, options := {} }] }, host := 0 } =
      exec (root Hooks.quiet 0 { transientRetry := some { maxRetries := 1 } } failFirst .blocking)
        { world := { units := #[{ factory := 0, options := {} }] }, host := 0 } ∧
    (exec (root Hooks.quiet 0 { transientRetry := some { maxRetries := 1 } } failFirst .blocking)
        { world := { units := #[{ factory := 0, options := {} }] }, host := 0 }).2.host = 2 :=
  ⟨every_attempt_starts_clean Hooks.quiet 0 _ .cancelled failFirst .blocking rfl rfl rfl (by decide)
    (fun _ _ _ => Hooks.quiet_keep _) (fun _ _ _ => failFirst_keeps _), by decide +kernel⟩

/-- A work that notes, at each invocation, whether unit `0` is ready for an attempt, and on
its first invocation disposes the unit and fails transiently. -/
def disposeThenFail : Work (List Bool) Unit := fun _ => do
  let seen ← Act.host
  let w ← Act.world
  Act.modifyHost (· ++ [freshAttempt 0 w])
  if seen.isEmpty then
    UnitOfWork.dispose Hooks.quiet 0 .blocking
    throw (.transient "retry")
  return pure ()

/-- Disposing the unit inside its own execution takes away what the reset restores: the
retry finds the unit without its context and observer. -/
theorem disposed_unit_retried_unprepared :
    (exec (root Hooks.quiet 0 { transientRetry := some { maxRetries := 1 } } disposeThenFail .blocking)
      { world := { units := #[{ factory := 0, options := {} }] }, host := [] }).2.host = [true, false] := by
  decide +kernel

end Execution

end ScopedWork
