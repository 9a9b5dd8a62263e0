import ScopedWork.Proofs.Held

/-!
# Simulated conflicts

A provider that simulates conflicts remembers one unit of work: the one it saw last. An
execution through it runs the work as it is when its unit of work is that one. Otherwise the
provider first remembers the new unit, and then turns the success of the work's body into
the simulated concurrency conflict, committing first if it is set to.

So in the root execution of a unit of work whose work runs executions through the same
provider only for that unit (it joins them to it), every attempt, the first included, leaves
the provider remembering the unit, and from then on every attempt runs exactly as it does
without the simulation, and so does the rest of the strategy's run. An execution through
the provider for another unit of work, such as a nested one that forces a new unit, makes
the provider forget the outer unit, which looks new again at its next attempt.
-/

namespace ScopedWork

open Act

variable {σ : Type}

namespace ConflictSim

/-- The simulation after it saw unit `u`. -/
def saw (sim : ConflictSim) (u : Nat) : ConflictSim := { sim with lastSeen := some u }

theorem saw_of_lastSeen {sim : ConflictSim} {u : Nat} (h : sim.lastSeen = some u) : sim.saw u = sim := by
  cases sim
  cases h
  rfl

@[simp] theorem saw_afterCommit (sim : ConflictSim) (u : Nat) : (sim.saw u).afterCommit = sim.afterCommit :=
  rfl

@[simp] theorem saw_saw (sim : ConflictSim) (u : Nat) : (sim.saw u).saw u = sim.saw u := rfl

end ConflictSim

namespace World

/-- The world after provider `p`'s simulation became `sim`. -/
def remember (w : World) (p : Nat) (sim : ConflictSim) : World :=
  w.setProvider p { w.provider p with conflict := some sim }

end World

namespace Provider

/-- Provider `p` simulates conflicts as `sim` says, and `sim.lastSeen` is the unit of work
it saw last. -/
def Remembers (p : Nat) (sim : ConflictSim) (w : World) : Prop :=
  (w.provider p).conflict = some sim

variable {p : Nat} {sim : ConflictSim}

/-- A provider that simulates conflicts exists. -/
theorem Remembers.lt {w : World} (hr : Remembers p sim w) : p < w.providers.size := by
  refine Nat.lt_of_not_le fun hp => ?_
  unfold Remembers at hr
  rw [World.provider_eq, Array.getElem?_eq_none hp] at hr
  cases hr

/-- What the provider does when an execution for unit `u` starts: it answers whether the
unit is new to it, and remembers the unit from then on. -/
theorem shouldFail_exec {u : Nat} {s : Sys σ} (hr : Remembers p sim s.world) :
    exec (shouldFail p u) s = if sim.lastSeen = some u then (.ok false, s) else
      (.ok true, { s with world := s.world.remember p (sim.saw u) }) := by
  unfold Remembers at hr
  unfold shouldFail
  simp only [exec_bind, exec_world, hr]
  by_cases hs : sim.lastSeen = some u
  · simp [hs]
  · simp only [hs, if_false, beq_iff_eq]
    rfl

theorem Remembers.remember {w : World} (hr : Remembers p sim w) (sim' : ConflictSim) :
    Remembers p sim' (w.remember p sim') := by
  unfold Remembers World.remember
  rw [World.provider_eq, World.setProvider_eq, World.getD_modify_self, if_pos hr.lt]

/-- The provider remembers only the last unit of work it saw: an execution for unit `u`
fails exactly when `u` is not that unit, and `u` is the last one seen afterwards. -/
theorem shouldFail_remembers_last (u : Nat) {s : Sys σ} (hr : Remembers p sim s.world) :
    (exec (shouldFail p u) s).1 = .ok (decide (sim.lastSeen ≠ some u)) ∧
      Remembers p (sim.saw u) (exec (shouldFail p u) s).2.world := by
  rw [shouldFail_exec hr]
  by_cases hs : sim.lastSeen = some u
  · rw [if_pos hs, ConflictSim.saw_of_lastSeen hs]
    exact ⟨by simp [hs], hr⟩
  · rw [if_neg hs]
    exact ⟨by simp [hs], hr.remember _⟩

/-! ### The library leaves the provider alone -/

instance : AroundWork (Remembers p sim) where
  frame w w' _ _ hp h := by
    unfold Remembers at h ⊢
    rw [World.provider_eq, hp, ← World.provider_eq]
    exact h
  lock _ _ _ h := h
  flush _ _ _ _ h := h

theorem context_remembers (u : Nat) : Keeps (σ := σ) (Remembers p sim) (UnitOfWork.context u) := by
  refine .bind (UnitOfWork.get_keeps u) fun _ => ?_
  split
  · exact .pure _
  · refine UnitOfWork.locked_keeps u (.bind (UnitOfWork.get_keeps u) fun _ => ?_)
    split
    · exact .pure _
    · exact .bind (UnitOfWork.get_keeps u) fun _ => .bind (Factory.create_keeps _) fun _ =>
        .bind (.modifyWorld fun _ h => h) fun _ => .pure _

theorem observer_remembers (u : Nat) : Keeps (σ := σ) (Remembers p sim) (UnitOfWork.observer u) := by
  refine .bind (UnitOfWork.get_keeps u) fun _ => ?_
  split
  · exact .pure _
  · refine .bind (context_remembers u) fun c => UnitOfWork.locked_keeps u
      (.bind (UnitOfWork.get_keeps u) fun _ => ?_)
    split
    · exact .pure _
    · refine .bind (UnitOfWork.get_keeps u) fun _ => .bind .world fun _ => ?_
      refine .bind (.outcome (Context.addInterceptor_keeps c _)) fun
        | .error _ => .throw _
        | .ok () => ?_
      exact .bind (.modifyWorld fun _ h => h) fun _ => .bind (.modifyWorld fun _ h => h) fun _ => .pure _

instance : AroundAttempt (Remembers p sim) where
  context := context_remembers
  observer := observer_remembers

end Provider

open Provider

namespace Strategy

/-- An attempt that keeps `J` as well keeps the loop rule's contract with `J` added. -/
theorem Tries.keeping {α β : Type} {P : Sys σ → Prop} {J : World → Prop} {x : Act σ β}
    {outcome : β → Except Fault α} (ht : Tries P (fun _ _ => True) x outcome) (hj : Keeps J x) :
    Tries (fun s => P s ∧ J s.world) (fun _ _ => True) x outcome := by
  intro s s' r hp hx
  obtain ⟨b, rfl, hq, hback⟩ := ht hp.1 hx
  exact ⟨b, rfl, hq, fun e he hr => ⟨hback e he hr, hj hp.2 hx⟩⟩

end Strategy

namespace Execution

variable {α : Type} {h : Hooks σ} {p u : Nat} {sim : ConflictSim} {work : Work σ α} {wait : Wait}

/-- The body an execution through the provider hands back for a unit of work new to the
provider: the work's body, then the simulated conflict, after a commit if `afterCommit`. -/
def conflictAfter (h : Hooks σ) (u : Nat) (afterCommit : Bool) (wait : Wait) (body : Act σ α) :
    Act σ α := do
  let _ ← body
  if afterCommit then
    let _ ← UnitOfWork.tryCommit h u wait
  throw simulatedConflict

/-! ### One invocation of the work -/

theorem exec_get (e : Nat) (s : Sys σ) : exec (Exec.get e) s = (.ok (s.world.exec e), s) := rfl

theorem map_throw {β γ : Type} (f : β → γ) (e : Fault) : (f <$> (throw e : Act σ β)) = throw e := rfl

/-- For the unit the provider saw last, invoking the work through the provider is invoking
the work. -/
theorem conflicting_seen (ac : Bool) {e : Nat} {s : Sys σ} (he : (s.world.exec e).unit = u)
    (hr : Remembers p sim s.world) (hs : sim.lastSeen = some u) :
    exec (conflicting h p ac work wait e) s = exec (work e) s := by
  subst he
  unfold conflicting
  rw [exec_bind, exec_get]
  dsimp only
  rw [exec_bind, shouldFail_exec hr, if_pos hs]
  dsimp only
  rw [exec_bind]
  rcases exec (work e) s with ⟨_ | pending, s'⟩
  · rfl
  · simp

/-- For a unit new to the provider, invoking the work through the provider is remembering
the unit and invoking the work, whose body then ends in the simulated conflict. -/
theorem conflicting_unseen (ac : Bool) {e : Nat} {s : Sys σ} (he : (s.world.exec e).unit = u)
    (hr : Remembers p sim s.world) (hs : sim.lastSeen ≠ some u) :
    exec (conflicting h p ac work wait e) s =
      exec (conflictAfter h u ac wait <$> work e) { s with world := s.world.remember p (sim.saw u) } := by
  subst he
  unfold conflicting
  rw [exec_bind, exec_get]
  dsimp only
  rw [exec_bind, shouldFail_exec hr, if_neg hs]
  dsimp only
  rw [exec_bind, exec_map]
  rcases exec (work e) _ with ⟨_ | pending, s'⟩
  · rfl
  · unfold conflictAfter
    cases ac <;> simp [map_throw]

/-- Finishing a scope: aborting it after a failure, disposing it and reporting. -/
theorem Exec.finish_keeps {β : Type} {I : World → Prop} [AroundAttempt I] (hh : Hooks.Keep I h)
    (e : Nat) (result : Except Fault β) (wait : Wait) : Keeps I (Exec.finish h e result wait) := by
  have rest : ∀ r : Except Fault β, Keeps I (do
      let completed ← Exec.isCompleted e
      let disposed ← Act.outcome (Exec.dispose h e wait)
      Act.ofExcept ((settle r disposed).map (·, completed))) := fun _ =>
    .bind (.bind (Exec.get_keeps e) fun _ => .pure _) fun _ =>
      .bind (.outcome (Exec.dispose_keeps hh e wait)) fun _ => .ofExcept _
  unfold Exec.finish
  cases result with
  | ok _ => exact rest _
  | error _ => exact .bind (Exec.modify_keeps e _) fun _ => rest _

/-! ### The provider remembers the unit after every attempt -/

theorem conflictAfter_keeps (ac : Bool) (hhm : Hooks.Keep (Remembers p (sim.saw u)) h) {body : Act σ α}
    (hb : Keeps (Remembers p (sim.saw u)) body) :
    Keeps (Remembers p (sim.saw u)) (conflictAfter h u ac wait body) := by
  refine .bind hb fun _ => ?_
  exact .ite (.bind (UnitOfWork.tryCommit_keeps hhm u wait) fun _ => .throw _) (.throw _)

section Remembering

variable (ac : Bool) (hhm : Hooks.Keep (Remembers p (sim.saw u)) h)
  (hwm : Work.Keeps (Remembers p (sim.saw u)) work)
include hhm hwm

/-- Invoking the work through the provider in a scope of unit `u` leaves the provider
remembering `u`, whatever it saw before, and the body handed back keeps that. -/
theorem conflicting_endsIn {e : Nat} {s : Sys σ} (he : (s.world.exec e).unit = u)
    (hm : Remembers p sim s.world) :
    EndsIn (Remembers p (sim.saw u)) (conflicting h p ac work wait e) s ∧
      ∀ body s', exec (conflicting h p ac work wait e) s = (.ok body, s') →
        Keeps (Remembers p (sim.saw u)) body := by
  by_cases hs : sim.lastSeen = some u
  · -- seen last already: the work itself, from a provider that remembers `u`
    have hm' : Remembers p (sim.saw u) s.world := by rw [ConflictSim.saw_of_lastSeen hs]; exact hm
    refine ⟨fun r s' hx => ?_, fun body s' hx => ?_⟩ <;> rw [conflicting_seen ac he hm hs] at hx
    · exact (hwm e).1 hm' hx
    · exact (hwm e).2 hm' hx
  · -- new to the provider: it remembers `u` before the work is invoked
    have hm' := hm.remember (sim.saw u)
    refine ⟨fun r s' hx => ?_, fun body s' hx => ?_⟩ <;>
      rw [conflicting_unseen ac he hm hs, exec_map] at hx <;>
      rcases hw : exec (work e) { s with world := s.world.remember p (sim.saw u) } with ⟨_ | body₀, s₁⟩ <;>
      rw [hw] at hx <;> simp only [Prod.mk.injEq, Except.ok.injEq, reduceCtorEq, false_and] at hx
    · rw [← hx.2]
      exact (hwm e).1 hm' hw
    · rw [← hx.2]
      exact (hwm e).1 hm' hw
    · obtain ⟨rfl, -⟩ := hx
      exact conflictAfter_keeps ac hhm ((hwm e).2 hm' hw)

/-- Running the work through the provider in a scope of unit `u`, disposing the scope
included, leaves the provider remembering `u`. -/
theorem invokeAndRun_endsIn {e : Nat} {s : Sys σ} (he : (s.world.exec e).unit = u)
    (hm : Remembers p sim s.world) :
    EndsIn (Remembers p (sim.saw u)) (Exec.invokeAndRun h e (conflicting h p ac work wait) wait) s := by
  unfold Exec.invokeAndRun
  cases wait with
  | blocking =>
    obtain ⟨hend, hbody⟩ := conflicting_endsIn ac hhm hwm he hm
    have hrun : EndsIn (Remembers p (sim.saw u)) (do (← conflicting h p ac work .blocking e)) s :=
      hend.bind fun body s₁ h₁ => (hbody body s₁ h₁).endsIn (hend h₁)
    intro r s' hx
    rw [Exec.runWork_eq, exec_bind, exec_get] at hx
    dsimp only [Exec.outcomeOf] at hx
    exact (hrun.outcome.bind_keeps fun result => Exec.finish_keeps hhm e result _) hx
  | async t =>
    obtain ⟨hend, hbody⟩ := conflicting_endsIn ac hhm hwm he hm
    exact hend.bind fun body s₁ h₁ => (Exec.runWork_keeps hhm e (hbody body s₁ h₁) _).endsIn (hend h₁)

/-- Every attempt of the root execution of unit `u` through the provider, the first
included, leaves the provider remembering `u`. -/
theorem once_remembers (c : Nat) (options : Options) {s : Sys σ} (hm : Remembers p sim s.world) :
    EndsIn (Remembers p (sim.saw u)) (once h u c options (conflicting h p ac work wait) wait) s := by
  have hattempt : EndsIn (Remembers p (sim.saw u)) (attempt h u c options (conflicting h p ac work wait) wait) s := by
    intro r s' hx
    unfold attempt at hx
    rw [exec_bind] at hx
    rcases ht : exec wait.scopeToken s with ⟨q, s₁⟩
    obtain ⟨⟨t, rfl⟩, -⟩ := Wait.scopeToken_spec ht
    have hm₁ := Wait.scopeToken_keeps wait hm ht
    rw [ht] at hx
    dsimp only at hx
    rw [exec_bind, Exec.create_exec] at hx
    dsimp only at hx
    have he : ((({ s₁ with world := { s₁.world with
        execs := s₁.world.execs.push { unit := u, context := c, nested := false, token := t } } } : Sys σ)).world.exec
          s₁.world.execs.size).unit = u := by simp
    have hm₂ : Remembers p sim ({ s₁ with world := { s₁.world with
        execs := s₁.world.execs.push { unit := u, context := c, nested := false, token := t } } } : Sys σ).world :=
      AroundWork.frame rfl rfl rfl hm₁
    refine ((invokeAndRun_endsIn ac hhm hwm he hm₂).bind_keeps fun r => ?_) hx
    exact .ite (.bind (.outcome (UnitOfWork.tryCommit_keeps hhm u wait)) fun
      | .ok _ => .pure _
      | .error _ => .bind (.throw _) fun _ => .pure _) (.pure _)
  refine hattempt.outcome.bind_keeps fun r => ?_
  cases r with
  | ok _ => exact .pure _
  | error _ => exact .bind (UnitOfWork.resetAfterFailure_keeps u c) fun _ => .pure _

end Remembering

/-! ### Attempts after the provider saw the unit -/

/-- Every attempt of a root execution keeps what the library keeps, if its work and the hooks
do. -/
theorem once_keeps {I : World → Prop} [AroundAttempt I] (hh : Hooks.Keep I h) (hw : Work.Keeps I work)
    (c : Nat) (options : Options) : Keeps I (once h u c options work wait) := by
  refine .bind (.outcome (attempt_keeps hh u c options hw wait)) fun r => ?_
  cases r with
  | ok _ => exact .pure _
  | error _ => exact .bind (UnitOfWork.resetAfterFailure_keeps u c) fun _ => .pure _

theorem invokeAndRun_seen (ac : Bool) {e : Nat} {s : Sys σ} (he : (s.world.exec e).unit = u)
    (hm : Remembers p (sim.saw u) s.world) :
    exec (Exec.invokeAndRun h e (conflicting h p ac work wait) wait) s =
      exec (Exec.invokeAndRun h e work wait) s := by
  unfold Exec.invokeAndRun
  cases wait with
  | blocking => exact runWork_congr h e _ (exec_bind_congr (conflicting_seen ac he hm rfl) fun _ _ _ => rfl)
  | async t => exact exec_bind_congr (conflicting_seen ac he hm rfl) fun _ _ _ => rfl

/-- From a provider that remembers `u`, an attempt through it is the attempt of the work. -/
theorem attempt_seen (ac : Bool) (c : Nat) (options : Options) {s : Sys σ}
    (hm : Remembers p (sim.saw u) s.world) :
    exec (attempt h u c options (conflicting h p ac work wait) wait) s =
      exec (attempt h u c options work wait) s := by
  unfold attempt
  refine exec_bind_congr rfl fun t s₁ h₁ => ?_
  have hm₁ := Wait.scopeToken_keeps wait hm h₁
  refine exec_bind_congr rfl fun e s₂ h₂ => ?_
  rw [Exec.create_exec, Prod.mk.injEq, Except.ok.injEq] at h₂
  obtain ⟨rfl, rfl⟩ := h₂
  exact exec_bind_congr (invokeAndRun_seen ac (by simp) (AroundWork.frame rfl rfl rfl hm₁))
    fun _ _ _ => rfl

theorem once_seen (ac : Bool) (c : Nat) (options : Options) {s : Sys σ}
    (hm : Remembers p (sim.saw u) s.world) :
    exec (once h u c options (conflicting h p ac work wait) wait) s = exec (once h u c options work wait) s := by
  unfold once
  rw [exec_bind, exec_bind, exec_outcome, exec_outcome, attempt_seen ac c options hm]

/-- Between attempts the strategy looks at the token and lets other tasks run: the unit stays
ready and the provider keeps what it remembers. -/
theorem waiting_seen {c o : Nat} {a : AutoFlush} {sim' : ConflictSim} (wait : Wait) :
    Strategy.Waits (fun s : Sys σ => Clean u c o a s.world ∧ Remembers p sim' s.world) wait.waiting := by
  intro w hw
  have hclean := waiting_clean (u := u) (c := c) (o := o) (a := a) wait w hw
  cases wait with
  | blocking => cases hw
  | async t =>
    cases hw
    refine ⟨fun s s' r hr hx => ?_, fun s s' r hr hx => ?_⟩
    · obtain ⟨hok, hr'⟩ := hclean.1 hr.1 hx
      exact ⟨hok, hr', Cancellation.isCancelled_keeps t hr.2 hx⟩
    · obtain ⟨hok, hr'⟩ := hclean.2 hr.1 hx
      exact ⟨hok, hr', Cancellation.suspend_keeps hr.2 hx⟩

/-- From a ready unit and a provider that remembers it, every run of the strategy through the
provider is the run of the work itself. -/
theorem run_seen {c o : Nat} {a : AutoFlush} (ac : Bool) (options : Options)
    (hh : Hooks.Keep (Prepared u c o a) h) (hhm : Hooks.Keep (Remembers p (sim.saw u)) h)
    (hw : Work.Keeps (Prepared u c o a) work) (hwm : Work.Keeps (Remembers p (sim.saw u)) work) :
    ∀ (strategy : Strategy) (counts : List Nat) (s : Sys σ), Clean u c o a s.world →
      Remembers p (sim.saw u) s.world →
      exec (strategy.run wait.waiting (once h u c options (conflicting h p ac work wait) wait) counts) s =
        exec (strategy.run wait.waiting (once h u c options work wait) counts) s := by
  intro strategy counts s hr hm
  have htries := Strategy.Tries.keeping (once_tries hh hw options wait) (once_keeps hhm hwm c options)
  exact (Strategy.run_congr (waiting_seen wait) htries
    (fun s' hp => (once_seen ac c options hp.2).symm) strategy counts s ⟨hr, hm⟩).symm

/-! ### The law of the provider -/

/-- The conflict-simulating provider remembers only the unit of work it saw last, and fails
only executions for another one. When an execution for unit `u` starts, the provider answers
whether `u` is new to it and remembers `u` from then on. An invocation of work for the unit it
saw last is the work's own invocation; for a new unit it is the work's, after the provider
remembered the unit, with the work's body ending in the simulated conflict. In the root
execution of `u`, whose work and hooks keep the provider remembering `u` (executions through
it inside the work only join `u`), every attempt, the first included, leaves the provider
remembering `u`; and from a ready unit that the provider remembers, the strategy's run is
exactly the run of the work without the simulation. -/
theorem simulated_conflict_only_for_unseen_units (h : Hooks σ) (p u c o : Nat) (a : AutoFlush)
    (sim : ConflictSim) (options : Options) (work : Work σ α) (wait : Wait)
    (hh : Hooks.Keep (Prepared u c o a) h) (hhm : Hooks.Keep (Remembers p (sim.saw u)) h)
    (hw : Work.Keeps (Prepared u c o a) work) (hwm : Work.Keeps (Remembers p (sim.saw u)) work) :
    (∀ s : Sys σ, Remembers p sim s.world →
      (exec (Provider.shouldFail p u) s).1 = .ok (decide (sim.lastSeen ≠ some u)) ∧
        Remembers p (sim.saw u) (exec (Provider.shouldFail p u) s).2.world) ∧
    (∀ (e : Nat) (s : Sys σ), (s.world.exec e).unit = u → Remembers p sim s.world →
      exec (conflicting h p sim.afterCommit work wait e) s =
        if sim.lastSeen = some u then exec (work e) s
        else exec (conflictAfter h u sim.afterCommit wait <$> work e)
          { s with world := s.world.remember p (sim.saw u) }) ∧
    (∀ s : Sys σ, Remembers p sim s.world →
      EndsIn (Remembers p (sim.saw u)) (once h u c options (conflicting h p sim.afterCommit work wait) wait) s) ∧
    (∀ (strategy : Strategy) (counts : List Nat) (s : Sys σ), Clean u c o a s.world →
      Remembers p (sim.saw u) s.world →
      exec (strategy.run wait.waiting (once h u c options (conflicting h p sim.afterCommit work wait) wait)
          counts) s =
        exec (strategy.run wait.waiting (once h u c options work wait) counts) s) := by
  refine ⟨fun s hm => shouldFail_remembers_last u hm, fun e s he hm => ?_,
    fun s hm => once_remembers sim.afterCommit hhm hwm c options hm,
    run_seen sim.afterCommit options hh hhm hw hwm⟩
  by_cases hs : sim.lastSeen = some u
  · rw [if_pos hs, conflicting_seen _ he hm hs]
  · rw [if_neg hs, conflicting_unseen _ he hm hs]

/-- Work that does nothing keeps every invariant. -/
theorem idle_keeps (I : World → Prop) : Work.Keeps (σ := σ) I (fun _ => pure (pure ())) :=
  fun _ => ⟨.pure _, fun _ _ _ _ hx => by
    simp only [exec_pure, Prod.mk.injEq, Except.ok.injEq] at hx
    obtain ⟨rfl, rfl⟩ := hx
    exact .pure _⟩

/-- A provider that simulates conflicts and whose executions retry on conflict. -/
def conflictProvider : Provider where
  factory := 0
  options := { retryOnConflict := true }
  conflict := some { afterCommit := false }

/-- A world with `conflictProvider` as provider `0`, and a host that counts invocations. -/
def conflictProviderWorld : Sys Nat where
  world := { providers := #[conflictProvider], factories := #[{}] }
  host := 0

theorem idle_work_provider_law :
    Hooks.Keep (Prepared 0 0 0 .off) (Hooks.quiet (σ := Unit)) ∧
      Hooks.Keep (Remembers 0 (ConflictSim.saw { afterCommit := false } 0)) (Hooks.quiet (σ := Unit)) ∧
      (exec (Provider.shouldFail 0 0) (⟨conflictProviderWorld.world, ()⟩ : Sys Unit)).1 = .ok true :=
  have law := simulated_conflict_only_for_unseen_units (σ := Unit) Hooks.quiet 0 0 0 0 .off
    { afterCommit := false } {} (fun _ => pure (pure ())) .blocking (Hooks.quiet_keep _) (Hooks.quiet_keep _)
    (idle_keeps _) (idle_keeps _)
  ⟨Hooks.quiet_keep _, Hooks.quiet_keep _, (law.1 ⟨conflictProviderWorld.world, ()⟩ rfl).1⟩

/-! ### A nested execution for another unit -/

/-- The text a caller reads of an outcome: the failure's message, or nothing for a success. -/
def outcomeText {β : Type} : Except Fault β → Option String
  | .error e => some e.message
  | .ok _ => none

/-- Work that counts its invocations and runs a nested execution through provider `0` that
forces a unit of work of its own. -/
def nestedNewUnit : Work Nat Unit := fun _ => do
  Act.modifyHost (· + 1)
  return execute Hooks.quiet 0 .forceCreateNew (fun _ => pure (pure ())) .blocking

/-- The nested execution makes the provider remember its own unit, so the outer unit is new
to it at every attempt: the outer execution fails with the retry limit after three
invocations, not succeeding after two. -/
theorem forced_new_unit_keeps_outer_unit_unseen :
    (exec (execute Hooks.quiet 0 .joinExisting nestedNewUnit .blocking) conflictProviderWorld).2.host = 3 ∧
      outcomeText (exec (execute Hooks.quiet 0 .joinExisting nestedNewUnit .blocking) conflictProviderWorld).1 =
        some (Fault.retryLimit 3 simulatedConflict).message := by
  decide +kernel

end Execution

end ScopedWork
