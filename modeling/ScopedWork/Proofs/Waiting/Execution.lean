import ScopedWork.Proofs.Waiting.Agree

/-!
# Scoped execution, blocking and waiting under a token that is never cancelled

A scoped execution that blocks and one that waits under a cancellation token differ in more
than their round trips: the waiting one runs in a flow of its own, starts its work before the
work's scope finishes it, looks at the token before and after the work and between retries,
and gives each execution scope the execution's token instead of a fresh one. Under a token
that is never cancelled none of this shows: from states at the same point, the two
executions return the same, invoke the work as often, call the same hooks in the same order,
leave the same database behind, and leave the chain they started from as they found it.

The proof follows the execution from the inside out: the scope of an attempt, the strategy
that repeats attempts, a root and a nested execution, the ambient scope entered and left
around them, and the flow. Work is a program of context operations, aborts and nested
executions (`Prog`); `Prog.waitingOn` makes every one of its operations wait one way.
-/

namespace ScopedWork

open Act Execution Wait

variable {σ : Type}

/-! ### The chain, observed -/

namespace World

theorem observed_pushEntry (w : World) (kind : String) (value : Nat) :
    (w.pushEntry kind value).observed = w.observed.pushEntry kind value := by
  cases hf : w.flow <;> simp [observed, pushEntry, setChain, chain, hf]

theorem observed_deactivated (w : World) (n : Nat) :
    (w.deactivated n).observed = w.observed.deactivated n := by
  cases hf : w.flow <;> simp [observed, deactivated, setChain, chain, hf]

/-- The entry just pushed heads the chain, and it is live. -/
theorem HeadLive.pushEntry (w : World) (kind : String) (value : Nat) : (w.pushEntry kind value).HeadLive := by
  intro r hr
  have hc : (w.pushEntry kind value).chain = { w.chain with head := some w.nodes.size } := chain_setChain _ _
  rw [hc] at hr
  obtain rfl : w.nodes.size = r := Option.some.inj hr
  simp

/-- Leaving a scope entered on a chain whose head is none or live puts the chain and the
entries back as they were, whatever happened in between that kept the chain. -/
theorem HeadLive.enter_leave {w w₂ : World} {u : Nat} (h : w.HeadLive)
    (hs : Stays (w.pushEntry UnitState.typeName u) w₂) : Stays w (w₂.deactivated w.nodes.size) := by
  cases hh : w.chain.head with
  | none => exact Stays.enter_leave_empty hh hs
  | some r =>
    obtain ⟨hr, hlive⟩ := h r hh
    exact Stays.enter_leave hh hr hlive hs

/-- The entry pushed onto the chain stays live as long as the chain stays. -/
theorem HeadLive.live_of_pushEntry {w w₂ : World} {kind : String} {value : Nat}
    (hs : Stays (w.pushEntry kind value) w₂) : (w₂.nodes[w.nodes.size]?.getD default).disposed = false := by
  have hc : w₂.chain = { w.chain with head := some w.nodes.size } := hs.chain.trans (chain_setChain _ _)
  exact ((HeadLive.pushEntry w kind value).of_stays hs w.nodes.size (by rw [hc])).2

/-- A flow started from the thread's chain is observed as the thread. -/
theorem observed_enterFlow {w : World} (hf : w.flow = none) :
    ({ w with flow := some w.thread } : World).observed = w.observed := by
  simp [observed, chain, hf]

/-- A flow whose chain is the thread's is observed alike when dropped. -/
theorem observed_leaveFlow {w : World} (hf : w.flow = some w.thread) :
    ({ w with flow := none } : World).observed = w.observed := by
  simp [observed, chain, hf]

end World

namespace Wait

variable {α β : Type} {t : Nat}

namespace Agree

variable {s₁ s₂ : Sys σ}

/-- Both sides push the same entry onto their chains. -/
theorem pushEntry (ha : Agree t s₁ s₂) (kind : String) (value : Nat) :
    Agree t { s₁ with world := s₁.world.pushEntry kind value } { s₂ with world := s₂.world.pushEntry kind value } :=
  ⟨Sys.observed_eq_iff.mpr ⟨ha.host, by simp only [World.observed_pushEntry, ha.world]⟩,
    by simpa [World.cancelled, World.pushEntry] using ha.uncancelled, by simpa [World.pushEntry] using ha.idle,
    World.HeadLive.pushEntry _ _ _⟩

/-- Both sides deactivate the same entry. -/
theorem deactivated (ha : Agree t s₁ s₂) (n : Nat) (hhead : (s₁.world.deactivated n).HeadLive) :
    Agree t { s₁ with world := s₁.world.deactivated n } { s₂ with world := s₂.world.deactivated n } :=
  ⟨Sys.observed_eq_iff.mpr ⟨ha.host, by simp only [World.observed_deactivated, ha.world]⟩,
    by simpa [World.cancelled, World.deactivated] using ha.uncancelled,
    by simpa [World.deactivated] using ha.idle, hhead⟩

end Agree

/-- The waiting side runs in a flow: outside any flow, a copy of the thread's chain, which is
observed as the chain it copies, and dropped at the end. -/
theorem Sim.inFlow {x y : Act σ α} (hs : Sim t x y) : Sim t x (Ambient.inFlow y) := by
  intro s₁ s₂ ha
  cases hf : s₂.world.flow with
  | some f =>
    have hin : Act.exec (Ambient.inFlow y) s₂ = Act.exec y s₂ := Ambient.inFlow_exec_some (by rw [hf]; rfl)
    exact Alike.of_exec rfl hin (.refl _) (.refl _) (hs ha)
  | none =>
    have ha' : Agree t s₁ { s₂ with world := { s₂.world with flow := some s₂.world.thread } } :=
      ⟨Sys.observed_eq_iff.mpr ⟨ha.host, ha.world.trans (World.observed_enterFlow hf).symm⟩, ha.uncancelled,
        ha.idle, ha.head⟩
    obtain ⟨hr, hq, hs₁, hs₂⟩ := hs ha'
    -- the flow ends on the chain it started from, which is the thread's
    have hend : (Act.exec y { s₂ with world := { s₂.world with flow := some s₂.world.thread } }).2.world.flow =
        some (Act.exec y { s₂ with world := { s₂.world with flow := some s₂.world.thread } }).2.world.thread :=
      hs₂.flow.trans (congrArg some hs₂.thread.symm)
    unfold Alike
    rw [Ambient.inFlow_exec_none hf]
    exact ⟨hr, ⟨Sys.observed_eq_iff.mpr ⟨hq.host, hq.world.trans (World.observed_leaveFlow hend).symm⟩,
      hq.uncancelled, hq.idle, hq.head⟩, hs₁, Stays.drop_flow hf hs₂⟩

/-- Work started blocking and work started waiting under `t`, from states at the same point:
both starts succeed, keep the chains, end at the same point, and hand back bodies that are
alike; the waiting start leaves the execution scopes alone. -/
def WorkSim (t : Nat) (work₁ work₂ : Work σ α) : Prop :=
  ∀ e ⦃s₁ s₂ : Sys σ⦄, Agree t s₁ s₂ →
    ∃ x₁ x₂ s₁' s₂', exec (work₁ e) s₁ = (.ok x₁, s₁') ∧ exec (work₂ e) s₂ = (.ok x₂, s₂') ∧
      Sim t x₁ x₂ ∧ Agree t s₁' s₂' ∧ Stays s₁.world s₁'.world ∧ Stays s₂.world s₂'.world ∧
      s₂'.world.execs = s₂.world.execs

end Wait

/-! ### The scope of an attempt -/

section Token

variable {α β : Type} {t : Nat}

/-- Under a token that is not cancelled, the waiting outcome of a body is its outcome. -/
theorem Exec.outcomeOf_sim (n : Nat) {body₁ body₂ : Act σ α} (hb : Sim t body₁ body₂) :
    Sim t (Exec.outcomeOf body₁ n .blocking) (Exec.outcomeOf body₂ t (.async t)) := by
  intro s₁ s₂ h
  obtain ⟨hr, h', hs₁, hs₂⟩ := hb h
  have hrun : exec (Exec.outcomeOf body₂ t (.async t)) s₂ = (.ok (exec body₂ s₂).1, (exec body₂ s₂).2) := by
    simp only [Exec.outcomeOf, exec_bind, Cancellation.isCancelled_exec, h.uncancelled, Bool.false_eq_true,
      if_false, exec_outcome]
    rcases hq : exec body₂ s₂ with ⟨_ | a, s₂'⟩
    · rfl
    · rw [hq] at h'
      simp only [exec_bind, Cancellation.isCancelled_exec, h'.uncancelled, Bool.false_eq_true, if_false,
        exec_pure]
  have hsync : exec (Exec.outcomeOf body₁ n .blocking) s₁ = (.ok (exec body₁ s₁).1, (exec body₁ s₁).2) :=
    exec_outcome body₁ s₁
  unfold Alike
  rw [hrun, hsync, hr]
  exact ⟨rfl, h', hs₁, hs₂⟩

/-- A new execution scope: blocking, with a token of its own; waiting, with the execution's
token `t`. Both are observed alike, and what runs in it finds `t` on the waiting side. -/
theorem Exec.scope_sim (u c : Nat) (n : Bool) {K₁ K₂ : Nat → Act σ β}
    (hK : ∀ e ⦃s₁ s₂ : Sys σ⦄, Agree t s₁ s₂ → (s₂.world.exec e).token = t → Alike t (K₁ e) (K₂ e) s₁ s₂) :
    Sim t (do let e ← Exec.create u c n (← Wait.scopeToken .blocking); K₁ e)
      (do let e ← Exec.create u c n (← Wait.scopeToken (.async t)); K₂ e) := by
  intro s₁ s₂ ha
  have hx₁ : exec (do let e ← Exec.create u c n (← Wait.scopeToken .blocking); K₁ e) s₁ =
      exec (K₁ s₁.world.execs.size) { s₁ with world := { s₁.world with tokens := s₁.world.tokens.push false, execs := s₁.world.execs.push { unit := u, context := c, nested := n, token := s₁.world.tokens.size } } } := by
    simp [Wait.scopeToken, Cancellation.freshToken, Exec.create]
  have hx₂ : exec (do let e ← Exec.create u c n (← Wait.scopeToken (.async t)); K₂ e) s₂ =
      exec (K₂ s₂.world.execs.size) { s₂ with world := { s₂.world with execs := s₂.world.execs.push { unit := u, context := c, nested := n, token := t } } } := by
    simp [Wait.scopeToken, Exec.create]
  have hsize : s₁.world.execs.size = s₂.world.execs.size := by
    have hm := congrArg (fun w => w.execs.size) ha.world
    simpa [World.observed] using hm
  refine Alike.of_exec hx₁ hx₂ (.of_eq rfl rfl rfl) (.of_eq rfl rfl rfl) ?_
  rw [hsize]
  refine hK _ ⟨Sys.observed_eq_iff.mpr ⟨ha.host, ?_⟩, ha.uncancelled, ha.idle, ha.head.of_stays (.of_eq rfl rfl rfl)⟩ ?_
  · -- the scope is observed without its token
    have hobs : ∀ (w : World) (ts : Array Bool) (tok : Nat),
        ({ w with tokens := ts, execs := w.execs.push { unit := u, context := c, nested := n, token := tok } } : World).observed =
          { w.observed with execs := w.observed.execs.push { unit := u, context := c, nested := n, token := 0 } } := by
      intro w ts tok
      simp [World.observed, Array.map_push, ExecState.untokened]
    calc _ = { s₁.world.observed with execs := s₁.world.observed.execs.push { unit := u, context := c, nested := n, token := 0 } } :=
          hobs _ _ _
      _ = { s₂.world.observed with execs := s₂.world.observed.execs.push { unit := u, context := c, nested := n, token := 0 } } := by
          rw [ha.world]
      _ = _ := (hobs s₂.world s₂.world.tokens t).symm
  · simp [World.exec]

end Token

section Scope

variable {α β : Type} {t : Nat} {h : Hooks σ} (hh : Hooks.Blind h)
include hh

theorem Exec.finish_sim (e : Nat) (result : Except Fault α) :
    Sim t (Exec.finish h e result .blocking) (Exec.finish h e result (.async t)) := by
  have rest : Sim t (do
      let completed ← Exec.isCompleted e
      let disposed ← Act.outcome (Exec.dispose h e .blocking)
      Act.ofExcept ((settle result disposed).map (·, completed))) (do
      let completed ← Exec.isCompleted e
      let disposed ← Act.outcome (Exec.dispose h e (.async t))
      Act.ofExcept ((settle result disposed).map (·, completed))) :=
    .bind (.of_blind (Exec.isCompleted_blind e)) fun _ => .bind (.outcome (Exec.dispose_sim hh e)) fun _ =>
      .ofExcept _
  cases result with
  | ok a => exact rest
  | error err => exact .bind (.of_blind (Exec.abort_blind e)) fun _ => rest

/-- Running a body in its scope reads the scope's token: the waiting side's is `t`. -/
theorem Exec.runWork_alike (e : Nat) {body₁ body₂ : Act σ α} (hb : Sim t body₁ body₂) {s₁ s₂ : Sys σ}
    (ha : Agree t s₁ s₂) (htok : (s₂.world.exec e).token = t) :
    Alike t (Exec.runWork h e body₁ .blocking) (Exec.runWork h e body₂ (.async t)) s₁ s₂ := by
  have hrun : ∀ (wait : Wait) (body : Act σ α) (s : Sys σ), exec (Exec.runWork h e body wait) s =
      exec (Exec.outcomeOf body (s.world.exec e).token wait >>= fun r => Exec.finish h e r wait) s := by
    intro wait body s
    simp only [Exec.runWork_eq, Exec.get, exec_bind, exec_world, exec_pure]
  refine Alike.of_exec (hrun .blocking body₁ s₁) (hrun (.async t) body₂ s₂) (.refl _) (.refl _) ?_
  rw [htok]
  exact (Sim.bind (Exec.outcomeOf_sim _ hb) fun r => Exec.finish_sim hh e r) ha

/-- Blocking, the work starts inside its scope's outcome; waiting, before it: either way the
start succeeds, and the body runs in the scope. -/
theorem Exec.invokeAndRun_alike (e : Nat) {work₁ work₂ : Work σ α} (hw : WorkSim t work₁ work₂)
    {s₁ s₂ : Sys σ} (ha : Agree t s₁ s₂) (htok : (s₂.world.exec e).token = t) :
    Alike t (Exec.invokeAndRun h e work₁ .blocking) (Exec.invokeAndRun h e work₂ (.async t)) s₁ s₂ := by
  obtain ⟨x₁, x₂, s₁', s₂', hw₁, hw₂, hsim, h', hs₁, hs₂, hexecs⟩ := hw e ha
  have htok' : (s₂'.world.exec e).token = t := by
    rw [World.exec, hexecs]
    exact htok
  have hx₁ : exec (Exec.invokeAndRun h e work₁ .blocking) s₁ = exec (Exec.runWork h e x₁ .blocking) s₁' := by
    simp only [Exec.invokeAndRun, Exec.runWork_eq, Exec.outcomeOf, Exec.get, exec_bind, exec_world,
      exec_pure, exec_outcome, hw₁]
  have hx₂ : exec (Exec.invokeAndRun h e work₂ (.async t)) s₂ = exec (Exec.runWork h e x₂ (.async t)) s₂' := by
    simp only [Exec.invokeAndRun, exec_bind, hw₂]
  exact Alike.of_exec hx₁ hx₂ hs₁ hs₂ (Exec.runWork_alike hh e hsim h' htok')

/-- An attempt: a new scope, the work run in it, and the commit if it completed. -/
theorem Execution.attempt_sim (u c : Nat) (options : Options) {work₁ work₂ : Work σ α}
    (hw : WorkSim t work₁ work₂) :
    Sim t (attempt h u c options work₁ .blocking) (attempt h u c options work₂ (.async t)) := by
  refine Exec.scope_sim u c false fun e _ _ ha htok => (Exec.invokeAndRun_alike hh e hw ha htok).bind fun p => ?_
  obtain ⟨v, completed⟩ := p
  refine .ite (.bind (.outcome (UnitOfWork.tryCommit_sim hh u)) fun r => ?_) (.pure v)
  cases r with
  | ok _ => exact Sim.pure (t := t) (σ := σ) v
  | error _ => exact .bind (.throw _) fun _ => .pure v

/-- A nested execution: a new scope on the unit's context, the work run in it once. -/
theorem Execution.nested_sim (u : Nat) {work₁ work₂ : Work σ α} (hw : WorkSim t work₁ work₂) :
    Sim t (nested h u work₁ .blocking) (nested h u work₂ (.async t)) := by
  refine .bind (.of_blind (UnitOfWork.mode_blind u)) fun _ => .ite (.throw_bind _ _ _) ?_
  exact .bind (.of_blind (UnitOfWork.context_blind u)) fun c => Exec.scope_sim u c true fun e _ _ ha htok =>
    (Exec.invokeAndRun_alike hh e hw ha htok).bind fun p => by
      obtain ⟨v, _⟩ := p
      exact .pure v

end Scope

/-! ### The strategy -/

section Strategy

variable {α : Type} {t : Nat}

/-- Retrying transient failures: the waiting run looks at `t` and pauses, to no effect. -/
theorem Strategy.retryTransient_sim {a₁ a₂ : Act σ (Except Fault α)} (ha : Sim t a₁ a₂) :
    ∀ budget, Sim t (Strategy.retryTransient (Wait.waiting .blocking) a₁ budget)
      (Strategy.retryTransient (Wait.waiting (.async t)) a₂ budget)
  | 0 => .bind isCancelled_sim fun _ => .ite (.pure _) ha
  | budget + 1 => .bind isCancelled_sim fun _ => .ite (.pure _) (.bind ha fun
    | .ok _ => .pure _
    | .error _ => .ite (.pure _) (.bind isCancelled_sim fun _ =>
      .ite (.pure _) (.bind pause_sim fun _ => retryTransient_sim ha budget)))

theorem Strategy.retryConflicts_sim {r₁ r₂ : List Nat → Act σ (Except Fault α × List Nat)}
    (hr : ∀ inner, Sim t (r₁ inner) (r₂ inner)) :
    ∀ budget retries inner, Sim t (Strategy.retryConflicts r₁ budget retries inner)
      (Strategy.retryConflicts r₂ budget retries inner)
  | 0, _, inner => .bind (hr inner) fun
    | (.error _, _) => .ite (.pure _) (.pure _)
    | (.ok _, _) => .pure _
  | budget + 1, _, inner => .bind (hr inner) fun
    | (.error _, _) => .ite (retryConflicts_sim hr budget _ _) (.pure _)
    | (.ok _, _) => .pure _

/-- Any strategy runs alike blocking and waiting under a token that is never cancelled. -/
theorem Strategy.run_sim {a₁ a₂ : Act σ (Except Fault α)} (ha : Sim t a₁ a₂) :
    ∀ (strategy : Strategy) (counts : List Nat), Sim t (Strategy.run (Wait.waiting .blocking) a₁ strategy counts)
      (Strategy.run (Wait.waiting (.async t)) a₂ strategy counts)
  | .once, _ => .bind isCancelled_sim fun _ => .ite (.pure _) (.bind ha fun _ => .pure _)
  | .transient _, _ => .bind (retryTransient_sim ha _) fun _ => .pure _
  | .onConflict inner, _ => retryConflicts_sim (fun counts => run_sim ha inner counts) _ _ _

end Strategy

section Root

variable {α : Type} {t : Nat} {h : Hooks σ} (hh : Hooks.Blind h)
include hh

/-- A root execution: the unit prepared, then its attempts under the strategy of its options. -/
theorem Execution.root_sim (u : Nat) (options : Options) {work₁ work₂ : Work σ α}
    (hw : WorkSim t work₁ work₂) :
    Sim t (root h u options work₁ .blocking) (root h u options work₂ (.async t)) := by
  refine .bind (.of_blind (UnitOfWork.prepareRoot_blind u)) fun c => .bind (Strategy.run_sim ?_ _ _) fun p => ?_
  · -- one attempt, and the reset after a failed one
    refine .bind (.outcome (Execution.attempt_sim hh u c options hw)) fun r => ?_
    cases r with
    | ok a => exact .pure _
    | error e => exact .bind (.of_blind (UnitOfWork.resetAfterFailure_blind u c)) fun _ => .pure _
  · obtain ⟨r, _⟩ := p
    exact .ofExcept r

end Root

/-! ### The ambient scope and the flow -/

section Ambient

variable {α : Type} {t : Nat} {h : Hooks σ} (hh : Hooks.Blind h)
include hh

/-- A scope for unit `v` entered on the chain, a body run in it, and the scope disposed. The
entry stays live through the body, so the dispose deactivates it, and the chain is as it was
before the scope. -/
theorem Scope.entered_sim (v : Nat) (root : Bool) {X₁ X₂ : Scope → Act σ α}
    (hX : ∀ sc, Sim t (X₁ sc) (X₂ sc)) :
    Sim t (do
        let n ← Ambient.push UnitState.typeName v
        let r ← Act.outcome (X₁ ⟨n, v, root⟩)
        let d ← Act.outcome (Scope.dispose h ⟨n, v, root⟩ .blocking)
        Act.ofExcept (settle r d))
      (do
        let n ← Ambient.push UnitState.typeName v
        let r ← Act.outcome (X₂ ⟨n, v, root⟩)
        let d ← Act.outcome (Scope.dispose h ⟨n, v, root⟩ (.async t))
        Act.ofExcept (settle r d)) := by
  intro s₁ s₂ ha
  have hsize : s₂.world.nodes.size = s₁.world.nodes.size := congrArg (fun w => w.nodes.size) ha.world.symm
  obtain ⟨hr, hq, hs₁, hs₂⟩ := hX ⟨s₁.world.nodes.size, v, root⟩ (ha.pushEntry UnitState.typeName v)
  rcases hx₁ : exec (X₁ ⟨s₁.world.nodes.size, v, root⟩) { s₁ with world := s₁.world.pushEntry UnitState.typeName v }
    with ⟨r, q₁⟩
  rcases hx₂ : exec (X₂ ⟨s₁.world.nodes.size, v, root⟩) { s₂ with world := s₂.world.pushEntry UnitState.typeName v }
    with ⟨r₂, q₂⟩
  rw [hx₁, hx₂] at hr hq
  rw [hx₁] at hs₁
  rw [hx₂] at hs₂
  obtain rfl : r = r₂ := hr
  -- the entry is live after the body on both sides, so disposing deactivates it
  have hlive₁ := World.HeadLive.live_of_pushEntry hs₁
  have hlive₂ := World.HeadLive.live_of_pushEntry hs₂
  rw [hsize] at hlive₂
  have hst₁ : Stays s₁.world (q₁.world.deactivated s₁.world.nodes.size) := World.HeadLive.enter_leave ha.head hs₁
  have hst₂ : Stays s₂.world (q₂.world.deactivated s₁.world.nodes.size) := by
    rw [← hsize]
    exact World.HeadLive.enter_leave ha.head₂ hs₂
  have he₁ : exec (do
        let n ← Ambient.push UnitState.typeName v
        let r ← Act.outcome (X₁ ⟨n, v, root⟩)
        let d ← Act.outcome (Scope.dispose h ⟨n, v, root⟩ .blocking)
        Act.ofExcept (settle r d)) s₁ =
      exec (do
        let d ← Act.outcome (if root then UnitOfWork.dispose h v .blocking else pure ())
        Act.ofExcept (settle r d)) { q₁ with world := q₁.world.deactivated s₁.world.nodes.size } := by
    simp [Ambient.push_exec, exec_outcome, hx₁, Scope.dispose, Scope.deactivate_exec, hlive₁]
  have he₂ : exec (do
        let n ← Ambient.push UnitState.typeName v
        let r ← Act.outcome (X₂ ⟨n, v, root⟩)
        let d ← Act.outcome (Scope.dispose h ⟨n, v, root⟩ (.async t))
        Act.ofExcept (settle r d)) s₂ =
      exec (do
        let d ← Act.outcome (if root then UnitOfWork.dispose h v (.async t) else pure ())
        Act.ofExcept (settle r d)) { q₂ with world := q₂.world.deactivated s₁.world.nodes.size } := by
    simp [Ambient.push_exec, exec_outcome, hsize, hx₂, Scope.dispose, Scope.deactivate_exec, hlive₂]
  exact Alike.of_exec he₁ he₂ hst₁ hst₂
    ((Sim.bind (.outcome (.ite (UnitOfWork.dispose_sim hh v) (.pure ()))) fun d => .ofExcept _)
      (hq.deactivated _ (ha.head.of_stays hst₁)))

/-- Opening a database scope with any nesting option, running a body in it and disposing it:
joining, creating or refusing reads only what is observed. -/
theorem Scope.activate_sim (option : ScopeOption) (f : Nat) (options : Options) {X₁ X₂ : Scope → Act σ α}
    (hX : ∀ sc, Sim t (X₁ sc) (X₂ sc)) :
    Sim t (do
        let sc ← Scope.activate option f options
        let r ← Act.outcome (X₁ sc)
        let d ← Act.outcome (Scope.dispose h sc .blocking)
        Act.ofExcept (settle r d))
      (do
        let sc ← Scope.activate option f options
        let r ← Act.outcome (X₂ sc)
        let d ← Act.outcome (Scope.dispose h sc (.async t))
        Act.ofExcept (settle r d)) := by
  unfold Scope.activate Ambient.activate
  simp only [bind_assoc]
  refine .bind (.of_blind (Ambient.current_blind _)) fun c => ?_
  split <;>
  · simp only [bind_assoc]
    refine .bind (.of_blind ?_) fun p => ?_
    · first
        | exact .throw _
        | exact .pure _
        | exact UnitOfWork.new_blind f options
    · simp only [pure_bind]
      exact Scope.entered_sim hh _ _ hX

end Ambient

/-- The provider always answers, and leaves the execution scopes alone. -/
theorem Provider.shouldFail_ok (p u : Nat) (s : Sys σ) :
    ∃ b s', exec (Provider.shouldFail p u) s = (.ok b, s') ∧ s'.world.execs = s.world.execs := by
  simp only [Provider.shouldFail, exec_bind, exec_world]
  split
  · exact ⟨_, _, rfl, rfl⟩
  · split
    · exact ⟨_, _, rfl, rfl⟩
    · simp [World.setProvider]

section Execute

variable {α : Type} {t : Nat} {h : Hooks σ} (hh : Hooks.Blind h)
include hh

/-- Work that fails once with the provider's simulated conflict starts alike blocking and
waiting, and the commit it makes before failing is alike too. -/
theorem Execution.conflicting_sim (p : Nat) (afterCommit : Bool) {work₁ work₂ : Work σ α}
    (hw : WorkSim t work₁ work₂) :
    WorkSim t (conflicting h p afterCommit work₁ .blocking) (conflicting h p afterCommit work₂ (.async t)) := by
  intro e s₁ s₂ ha
  have hu : (s₁.world.exec e).unit = (s₂.world.exec e).unit := by
    have hx := congrArg (fun w => (w.exec e).unit) ha.world
    simpa only [World.observed_exec, ExecState.untokened] using hx
  obtain ⟨b₁, q₁, hf₁, -⟩ := Provider.shouldFail_ok p (s₂.world.exec e).unit s₁
  obtain ⟨b₂, q₂, hf₂, hq₂⟩ := Provider.shouldFail_ok p (s₂.world.exec e).unit s₂
  have hfail := Sim.of_blind (t := t) (Provider.shouldFail_blind p (s₂.world.exec e).unit) ha
  unfold Alike at hfail
  rw [hf₁, hf₂] at hfail
  obtain ⟨hb, hq, hs₁, hs₂⟩ := hfail
  obtain rfl : b₁ = b₂ := Except.ok.inj hb
  obtain ⟨x₁, x₂, r₁, r₂, hw₁, hw₂, hsim, hr, hr₁, hr₂, hexecs⟩ := hw e hq
  refine ⟨_, _, r₁, r₂, by simp only [conflicting, Exec.get, exec_bind, exec_world, exec_pure, hu, hf₁, hw₁]; rfl,
    by simp only [conflicting, Exec.get, exec_bind, exec_world, exec_pure, hf₂, hw₂]; rfl, ?_, hr,
    hs₁.trans hr₁, hs₂.trans hr₂, hexecs.trans hq₂⟩
  exact .bind hsim fun v => .ite (.ite (.bind (UnitOfWork.tryCommit_sim hh _) fun _ => .bind (.throw _) fun _ =>
    .pure v) (.bind (.throw _) fun _ => .pure v)) (.pure v)

/-- A scoped execution through provider `p`: the waiting side in its flow, both with the same
scope opened, the same work run in it (failing once where the provider says), and the scope
disposed. -/
theorem Execution.execute_sim (p : Nat) (option : ScopeOption) {work₁ work₂ : Work σ α}
    (hw : WorkSim t work₁ work₂) :
    Sim t (execute h p option work₁ .blocking) (execute h p option work₂ (.async t)) := by
  unfold execute
  dsimp only
  refine Sim.inFlow (.bind (.of_blind UnitOfWork.ensureNoExternal_blind) fun _ => .read (fun _ => rfl) fun w => ?_)
  cases (w.provider p).conflict with
  | none =>
    refine Scope.activate_sim hh option _ _ fun sc => ?_
    exact .ite (Execution.root_sim hh _ _ hw) (Execution.nested_sim hh _ hw)
  | some sim =>
    have hc := Execution.conflicting_sim hh p sim.afterCommit hw
    refine Scope.activate_sim hh option _ _ fun sc => ?_
    exact .ite (Execution.root_sim hh _ _ hc) (Execution.nested_sim hh _ hc)

end Execute

end ScopedWork
