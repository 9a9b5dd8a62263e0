import ScopedWork.Proofs.Root.Scopes
import ScopedWork.Proofs.Ambient

/-!
# Nested executions and the work of an attempt

An execution nested in a root joins the ambient unit of work: it enters a scope on the
ambient chain, runs its work in an execution scope of its own, and leaves the scope again.
Leaving puts the chain back exactly as it was, so a nested execution, whatever its work
does, is a stretch of the attempt like any operation (`Runs`). An asynchronous execution
does this in a flow, which it drops at the end.

From there, by induction on the work: everything work of the root does, through any depth
of nesting, keeps the attempt in its phase and records each operation as run inside the
context's transaction.
-/

namespace ScopedWork

open Act Execution

variable {σ : Type} {u c o : Nat}

/-! ### The chain -/

namespace Chain

theorem liveFrom_succ_some (nodes : Array Node) (k i : Nat) :
    liveFrom nodes (k + 1) (some i) =
      if (nodes[i]?.getD default).disposed then liveFrom nodes k (nodes[i]?.getD default).parent
      else some i := by
  simp [liveFrom, Array.getD_eq_getD_getElem?]

theorem findFrom_succ_some (nodes : Array Node) (kind : String) (k i : Nat) :
    findFrom nodes kind (k + 1) (some i) =
      if !(nodes[i]?.getD default).disposed && (nodes[i]?.getD default).kind == kind then some i
      else findFrom nodes kind k (nodes[i]?.getD default).parent := by
  simp [findFrom, Array.getD_eq_getD_getElem?]

end Chain

namespace World

/-- The world with a scope of unit `u` entered on the current chain. -/
def enter (w : World) (u : Nat) : World :=
  let n : Node := { kind := UnitState.typeName, value := u, parent := (w.flow.getD w.thread).head }
  ({ w with nodes := w.nodes.push n }).setChain { (w.flow.getD w.thread) with head := some w.nodes.size }

/-- The world with entry `n` deactivated and the dead entries popped off the current chain. -/
def leave (w : World) (n : Nat) : World :=
  let w' := { w with nodes := w.nodes.modify n fun x => { x with disposed := true } }
  w'.setChain ((w'.flow.getD w'.thread).popDead w'.nodes)

section Tables

variable (w : World) (u n : Nat)

@[simp] theorem enter_db : (w.enter u).db = w.db := by simp [enter]
@[simp] theorem enter_contexts : (w.enter u).contexts = w.contexts := by simp [enter]
@[simp] theorem enter_units : (w.enter u).units = w.units := by simp [enter]
@[simp] theorem enter_observers : (w.enter u).observers = w.observers := by simp [enter]
@[simp] theorem enter_execs : (w.enter u).execs = w.execs := by simp [enter]
@[simp] theorem enter_providers : (w.enter u).providers = w.providers := by simp [enter]
@[simp] theorem leave_db : (w.leave n).db = w.db := by simp [leave]
@[simp] theorem leave_contexts : (w.leave n).contexts = w.contexts := by simp [leave]
@[simp] theorem leave_units : (w.leave n).units = w.units := by simp [leave]
@[simp] theorem leave_observers : (w.leave n).observers = w.observers := by simp [leave]
@[simp] theorem leave_execs : (w.leave n).execs = w.execs := by simp [leave]
@[simp] theorem leave_providers : (w.leave n).providers = w.providers := by simp [leave]

end Tables

/-- The chain's head is a live entry of unit `u`: `u` is ambient. -/
theorem ambient_eq {w : World} {r : Nat} (hhead : (w.flow.getD w.thread).head = some r)
    (hr : r < w.nodes.size)
    (hv : ((w.nodes[r]?.getD default).kind, (w.nodes[r]?.getD default).value) = (UnitState.typeName, u))
    (hd : (w.nodes[r]?.getD default).disposed = false) : w.ambient = some u := by
  obtain ⟨k, hk⟩ : ∃ k, w.nodes.size = k + 1 := ⟨w.nodes.size - 1, by omega⟩
  obtain ⟨hkind, hval⟩ := Prod.mk.inj hv
  simp [ambient, Chain.current, hhead, hk, Chain.findFrom_succ_some, hd, hkind,
    Array.getD_eq_getD_getElem?, hval]

end World

namespace Execution

section Entered

variable {w w₂ : World}

/-- An entry that was there before a scope was entered is as it was. -/
theorem Stays.enter_old (hs : Stays (w.enter u) w₂) {i : Nat} (hi : i < w.nodes.size) :
    w₂.nodes[i]? = w.nodes[i]? := by
  rw [hs.nodes i (by simp [World.enter]; omega)]
  simp [World.enter, Array.getElem?_push, Nat.ne_of_lt hi]

/-- The entered scope sits at the old number of entries, on the chain's old head. -/
theorem Stays.enter_new (hs : Stays (w.enter u) w₂) :
    w₂.nodes[w.nodes.size]? = some { kind := UnitState.typeName, value := u, parent := (w.flow.getD w.thread).head } := by
  rw [hs.nodes _ (by simp [World.enter])]
  simp [World.enter]

theorem Stays.enter_chain (hs : Stays (w.enter u) w₂) :
    w₂.flow.getD w₂.thread = { (w.flow.getD w.thread) with head := some w.nodes.size } := by
  rw [hs.chain]
  simp [World.enter]

theorem Stays.enter_lt (hs : Stays (w.enter u) w₂) : w.nodes.size < w₂.nodes.size := by
  have hsize : (w.enter u).nodes.size = w.nodes.size + 1 := by simp [World.enter]
  have := hs.nodes_size
  omega

/-- Leaving a scope entered on a chain puts the chain and the entries back as they were, when
popping the dead entries off the chain stops where the chain stood. -/
theorem Stays.leave_of_popDead (hs : Stays (w.enter u) w₂)
    (hpop : (w₂.flow.getD w₂.thread).popDead
      (w₂.nodes.modify w.nodes.size fun x => { x with disposed := true }) = w.flow.getD w.thread) :
    Stays w (w₂.leave w.nodes.size) := by
  have hlt := hs.enter_lt
  refine ⟨?_, ?_, by simp [World.leave]; omega, fun i hi => ?_⟩
  · cases hf : w.flow with
    | none =>
      have hf₂ : w₂.flow = none := by rw [hs.flow]; simp [World.enter, World.setChain, hf]
      simp only [World.leave, World.setChain, hf₂]
      simpa [hf₂, hf] using hpop
    | some f =>
      have hf₂ : w₂.flow.isSome := by rw [hs.flow]; simp [World.enter, hf]
      obtain ⟨f₂, hf₂'⟩ := Option.isSome_iff_exists.mp hf₂
      simp only [World.leave, World.setChain, hf₂', hs.thread]
      simp [World.enter, World.setChain, hf]
  · cases hf : w.flow with
    | none =>
      have hf₂ : w₂.flow = none := by rw [hs.flow]; simp [World.enter, World.setChain, hf]
      simp [World.leave, World.setChain, hf₂]
    | some f =>
      have hf₂ : w₂.flow.isSome := by rw [hs.flow]; simp [World.enter, hf]
      obtain ⟨f₂, hf₂'⟩ := Option.isSome_iff_exists.mp hf₂
      simp only [World.leave, World.setChain, hf₂']
      rw [hf₂'] at hpop
      rw [hpop, hf]
      rfl
  · simp only [World.leave, World.setChain_nodes]
    rw [Array.getElem?_modify, if_neg (Nat.ne_of_gt hi), hs.enter_old hi]

/-- Leaving a scope entered on a chain whose head is a live entry puts the chain and the
entries back as they were, whatever happened in between that kept the chain. -/
theorem Stays.enter_leave {r : Nat} (hhead : (w.flow.getD w.thread).head = some r)
    (hr : r < w.nodes.size) (hlive : (w.nodes[r]?.getD default).disposed = false)
    (hs : Stays (w.enter u) w₂) : Stays w (w₂.leave w.nodes.size) := by
  have hnew := hs.enter_new
  rw [hhead] at hnew
  have hlt := hs.enter_lt
  -- popping the dead entries off the chain stops at the live head it had
  obtain ⟨k, hk⟩ : ∃ k, w₂.nodes.size = k + 2 := ⟨w₂.nodes.size - 2, by omega⟩
  refine hs.leave_of_popDead ?_
  have hr' : (w₂.nodes[r]?.getD default).disposed = false := by rw [hs.enter_old hr]; exact hlive
  simp only [Chain.popDead, Chain.live, Array.size_modify, hk, hs.enter_chain, Chain.liveFrom_succ_some,
    World.getD_modify_of_lt _ _ _ hlt, if_true, hnew,
    Option.getD_some, if_neg (Nat.ne_of_gt hr), hr', Bool.false_eq_true, if_false]
  rw [← hhead]

/-- Leaving a scope entered on an empty chain empties it again. -/
theorem Stays.enter_leave_empty (hhead : (w.flow.getD w.thread).head = none)
    (hs : Stays (w.enter u) w₂) : Stays w (w₂.leave w.nodes.size) := by
  have hnew := hs.enter_new
  rw [hhead] at hnew
  have hlt := hs.enter_lt
  obtain ⟨k, hk⟩ : ∃ k, w₂.nodes.size = k + 1 := ⟨w₂.nodes.size - 1, by omega⟩
  refine hs.leave_of_popDead ?_
  -- the entered scope is the only one popped, and nothing is below it
  have hnone : Chain.liveFrom (w₂.nodes.modify w.nodes.size fun x => { x with disposed := true }) k none = none := by
    cases k <;> rfl
  simp only [Chain.popDead, Chain.live, Array.size_modify, hk, hs.enter_chain, Chain.liveFrom_succ_some,
    World.getD_modify_of_lt _ _ _ hlt, if_true, hnew, Option.getD_some, hnone]
  rw [← hhead]

end Entered

/-- A step that touches none of the tables `Frame` looks at. -/
theorem Frame.of_same {w w' : World} (hu : w'.units = w.units) (ho : w'.observers = w.observers)
    (hc : w'.contexts = w.contexts) (hp : w'.providers = w.providers) (he : w'.execs = w.execs) :
    Frame u c o w w' :=
  ⟨by rw [hu], by rw [ho], by rw [hc], by rw [hu], by rw [hc], by rw [ho], hp, he ▸ Nat.le_refl _,
    fun _ _ => by rw [he]⟩

/-- What is live stays live across a step that changes only the chain, as long as the chain's
head is a live entry of the unit and no external transaction is counted on it. -/
theorem Live.of_chain {w w' : World} (hl : Live u c o w) (hf : Frame u c o w w')
    (hdb : w'.db = w.db) (hc : w'.contexts = w.contexts)
    (hext : (w'.flow.getD w'.thread).external = (w.flow.getD w.thread).external)
    (hamb : ∃ r, (w'.flow.getD w'.thread).head = some r ∧ r < w'.nodes.size ∧
      ((w'.nodes[r]?.getD default).kind, (w'.nodes[r]?.getD default).value) = (UnitState.typeName, u) ∧
      (w'.nodes[r]?.getD default).disposed = false) :
    Live u c o w' where
  unit := hf.unit.trans hl.unit
  observer := hf.observer.trans hl.observer
  interceptors := hf.interceptors.trans hl.interceptors
  unit_lt := hf.units_size ▸ hl.unit_lt
  context_lt := hf.contexts_size ▸ hl.context_lt
  observer_lt := hf.observers_size ▸ hl.observer_lt
  no_external := hext ▸ hl.no_external
  ambient := hamb
  serial := hdb ▸ hl.serial
  slot_live t ht := by
    rw [hc] at ht
    rw [hdb]
    exact hl.slot_live t ht

theorem Live.ambient_eq {w : World} (hl : Live u c o w) : w.ambient = some u := by
  obtain ⟨r, hhead, hr, hv, hd⟩ := hl.ambient
  exact World.ambient_eq hhead hr hv hd

/-- Entering a scope of the unit keeps it live: the new entry heads the chain. -/
theorem Live.enter {w : World} (hl : Live u c o w) : Live u c o (w.enter u) :=
  hl.of_chain (Frame.of_same (by simp) (by simp) (by simp) (by simp) (by simp)) (by simp) (by simp)
    (by simp [World.enter]) ⟨w.nodes.size, by simp [World.enter], by simp [World.enter],
      by simp [World.enter], by simp [World.enter]⟩

/-- A flow started from the thread sees the thread's chain. -/
theorem Live.flow {w : World} (hl : Live u c o w) (hf : w.flow = none) :
    Live u c o { w with flow := some w.thread } :=
  hl.of_chain (Frame.of_same rfl rfl rfl rfl rfl) rfl rfl (by simp [hf])
    (by simpa [hf] using hl.ambient)

/-- Dropping a flow started from the thread puts the thread's chain back. -/
theorem Stays.drop_flow {w w' : World} (hf : w.flow = none) (hs : Stays { w with flow := some w.thread } w') :
    Stays w { w' with flow := none } :=
  ⟨hs.thread, hf.symm, hs.nodes_size, hs.nodes⟩

end Execution

/-! ### Entering and leaving a scope -/

theorem Scope.activate_join_exec {f : Nat} {opts : Options} {s : Sys σ} (h : s.world.ambient = some u) :
    exec (Scope.activate .joinExisting f opts) s =
      (.ok ⟨s.world.nodes.size, u, false⟩, { s with world := s.world.enter u }) := by
  have h' : (s.world.flow.getD s.world.thread).current s.world.nodes UnitState.typeName = some u := h
  simp [Scope.activate, Ambient.activate, Ambient.current, Ambient.push, h', World.enter]

theorem Scope.dispose_join_exec {hk : Hooks σ} {wait : Wait} {n u' : Nat} {s : Sys σ}
    (h : (s.world.nodes[n]?.getD default).disposed = false) :
    exec (Scope.dispose hk ⟨n, u', false⟩ wait) s = (.ok (), { s with world := s.world.leave n }) := by
  simp [Scope.dispose, Scope.deactivate, h, World.leave, Array.getD_eq_getD_getElem?]

/-! ### A nested execution -/

namespace Execution

/-- What work needs to run as part of an attempt: the unit live and steady, the attempt in
its phase, and provider `p` opening plain scopes. -/
structure Ready (u c o p : Nat) (A : List TxnEvent) (s : Sys σ) : Prop where
  live : Live u c o s.world
  steady : Steady u o s.world
  attempt : InAttempt c o A s.world
  provider : (s.world.providers[p]?.getD default).conflict = none

theorem Ready.of_within {p : Nat} {A : List TxnEvent} {s s' : Sys σ} (hr : Ready u c o p A s)
    (hw : Within u c o A s s') : Ready u c o p A s' :=
  ⟨hw.live, hw.steady, hw.attempt, hw.frame.providers ▸ hr.provider⟩

/-- Execution scope `e` exists and belongs to unit `u` and its context `c`. -/
def ScopeOf (u c e : Nat) (w : World) : Prop :=
  e < w.execs.size ∧ (w.execs[e]?.getD default).shape = (u, c)

theorem ScopeOf.of_frame {e : Nat} {w w' : World} (h : ScopeOf u c e w) (hf : Frame u c o w w') :
    ScopeOf u c e w' :=
  ⟨Nat.lt_of_lt_of_le h.1 hf.execs_size, (hf.execs e h.1).trans h.2⟩

theorem ScopeOf.context {e : Nat} {w : World} (h : ScopeOf u c e w) :
    (w.execs[e]?.getD default).context = c :=
  (Prod.mk.inj h.2).2

/-- A new execution scope of the unit, pushed at the end of the table: the attempt goes on in
its phase, and the new scope belongs to the unit and its context and is not disposed. -/
theorem Within.push_scope {A : List TxnEvent} {s s' : Sys σ} {nested : Bool} {token : Nat}
    (hl : Live u c o s.world) (hst : Steady u o s.world) (hin : InAttempt c o A s.world)
    (hs' : s' = { s with world := { s.world with
      execs := s.world.execs.push { unit := u, context := c, nested, token } } }) :
    Within u c o A s s' ∧ ScopeOf u c s.world.execs.size s'.world ∧
      (s'.world.execs[s.world.execs.size]?.getD default).disposed = false := by
  subst hs'
  refine ⟨Within.of_execs hl hst hin _ (by simp) fun i hi => ?_, by simp [ScopeOf, ExecState.shape], by simp⟩
  simp [Nat.ne_of_lt hi]

/-- What an execution does in the scope it opens through provider `p`, before any flow. -/
def inScope {α : Type} (h : Hooks σ) (p : Nat) (option : ScopeOption) (work : Work σ α)
    (wait : Wait) : Act σ α := do
  UnitOfWork.ensureNoExternal
  let pr := (← Act.world).provider p
  let work := match pr.conflict with
    | some sim => conflicting h p sim.afterCommit work wait
    | none => work
  let scope ← Scope.activate option pr.factory pr.options
  let outcome ← Act.outcome (if scope.root then root h scope.value pr.options work wait
    else nested h scope.value work wait)
  let disposed ← Act.outcome (Scope.dispose h scope wait)
  Act.ofExcept (settle outcome disposed)

theorem execute_eq {α : Type} (h : Hooks σ) (p : Nat) (option : ScopeOption) (work : Work σ α)
    (wait : Wait) :
    execute h p option work wait = match wait with
      | .blocking => inScope h p option work wait
      | .async _ => Ambient.inFlow (inScope h p option work wait) := by
  cases wait <;> rfl

end Execution

/-- An execution nested in the root runs its work in an execution scope of its own, on the
unit's context; whatever the work does, the attempt goes on in its phase. -/
theorem Execution.nested_spec {α : Type} {prog : Nat → Act Journal α} {h : Hooks Journal}
    {p : Nat} {wait : Wait} {A : List TxnEvent} {s s' : Sys Journal} {r : Except Fault α}
    (hr : Ready u c o p A s)
    (hprog : ∀ e s₁ q s₂, Ready u c o p A s₁ → ScopeOf u c e s₁.world → exec (prog e) s₁ = (q, s₂) →
      Runs u c o A s₁ s₂)
    (hx : exec (Execution.nested h u (fun e => pure (prog e)) wait) s = (r, s')) :
    Within u c o A s s' ∧ (∃ J, s'.host = s.host ++ J ∧ Sound J) ∧
      ∀ i < s.world.execs.size,
        (s'.world.execs[i]?.getD default).disposed = (s.world.execs[i]?.getD default).disposed := by
  simp only [Execution.nested, UnitOfWork.mode, UnitOfWork.get, exec_bind, exec_world, exec_pure,
    World.unit_eq, hr.live.unit_mode, bne_self_eq_false, Bool.false_eq_true, if_false,
    UnitOfWork.context_exec hr.live.unit_context] at hx
  rcases ht : exec wait.scopeToken s with ⟨q, s₁⟩
  obtain ⟨⟨tok, rfl⟩, hs₁⟩ := Wait.scopeToken_spec ht
  have hw₁ : Within u c o A s s₁ :=
    hs₁ ▸ .of_moves (Moves.of_tokens hr.live _ _) ⟨hr.steady.lock_free, hr.steady.not_saving⟩ hr.attempt
  have hexecs₁ : s₁.world.execs = s.world.execs := by rw [hs₁]
  simp only [ht, Exec.create_exec] at hx
  obtain ⟨s₂, hs₂⟩ : ∃ s₂ : Sys Journal, s₂ = { s₁ with world := { s₁.world with
      execs := (s₁.world.execs.push { unit := u, context := c, nested := true, token := tok }) } } :=
    ⟨_, rfl⟩
  rw [← hs₂] at hx
  obtain ⟨hw₂, hscope, hfresh⟩ := Within.push_scope hw₁.live hw₁.steady hw₁.attempt hs₂
  have hready₂ := (hr.of_within hw₁).of_within hw₂
  have hrun : ∀ (body : Act Journal α) q s₄, (∀ q' s₃, exec body s₂ = (q', s₃) → Runs u c o A s₂ s₃) →
      exec (Exec.runWork h s₁.world.execs.size body wait) s₂ = (q, s₄) →
      Within u c o A s s₄ ∧ (∃ J, s₄.host = s.host ++ J ∧ Sound J) ∧
        ∀ i < s.world.execs.size,
          (s₄.world.execs[i]?.getD default).disposed = (s.world.execs[i]?.getD default).disposed := by
    intro body q s₄ hbody hy
    obtain ⟨hw₃, ⟨J, hJ, hsound⟩, hd₃, -⟩ := Exec.runWork_spec hw₂.live hw₂.steady hw₂.attempt
      hscope.1 hscope.2 hfresh hbody hy
    refine ⟨(hw₁.trans hw₂).trans hw₃, ⟨J, by rw [hJ, hs₂, hs₁], hsound⟩, fun i hi => ?_⟩
    have hi₁ : i < s₁.world.execs.size := by rw [hexecs₁]; exact hi
    rw [hd₃ i (by simp [hs₂]; omega) (Nat.ne_of_lt hi₁), hs₂]
    simp [hexecs₁, Nat.ne_of_lt hi]
  cases wait with
  | blocking =>
    simp only [Exec.invokeAndRun] at hx
    split at hx
    · next v b s₄ hy =>
      obtain ⟨rfl, rfl⟩ := Prod.mk.inj hx
      refine hrun _ _ _ (fun q' s₃ hq => ?_) hy
      simp only [exec_bind, exec_pure] at hq
      exact hprog _ _ _ _ hready₂ hscope hq
    · next e s₄ hy =>
      obtain ⟨rfl, rfl⟩ := Prod.mk.inj hx
      refine hrun _ _ _ (fun q' s₃ hq => ?_) hy
      simp only [exec_bind, exec_pure] at hq
      exact hprog _ _ _ _ hready₂ hscope hq
  | async token =>
    simp only [Exec.invokeAndRun, exec_bind, exec_pure] at hx
    split at hx
    · next v b s₄ hy =>
      obtain ⟨rfl, rfl⟩ := Prod.mk.inj hx
      exact hrun _ _ _ (fun q' s₃ hq => hprog _ _ _ _ hready₂ hscope hq) hy
    · next e s₄ hy =>
      obtain ⟨rfl, rfl⟩ := Prod.mk.inj hx
      exact hrun _ _ _ (fun q' s₃ hq => hprog _ _ _ _ hready₂ hscope hq) hy

theorem Execution.InAttempt.of_eq {A : List TxnEvent} {w w' : World} (h : InAttempt c o A w)
    (hdb : w'.db = w.db) (ho : w'.observers = w.observers) (hc : w'.contexts = w.contexts) :
    InAttempt c o A w' := by
  rw [InAttempt, hdb, ho, hc]
  exact h

/-- A nested execution, from entering its scope on the chain to leaving it: a stretch of the
attempt like any operation, whatever its work does. -/
theorem Execution.inScope_join_spec {α : Type} {prog : Nat → Act Journal α} {h : Hooks Journal}
    {p : Nat} {wait : Wait} {A : List TxnEvent} {s s' : Sys Journal} {r : Except Fault α}
    (hr : Ready u c o p A s)
    (hprog : ∀ e s₁ q s₂, Ready u c o p A s₁ → ScopeOf u c e s₁.world → exec (prog e) s₁ = (q, s₂) →
      Runs u c o A s₁ s₂)
    (hx : exec (Execution.inScope h p .joinExisting (fun e => pure (prog e)) wait) s = (r, s')) :
    Runs u c o A s s' := by
  simp only [Execution.inScope, exec_bind, UnitOfWork.ensureNoExternal_exec hr.live.no_external,
    exec_world, World.provider_eq, hr.provider, Scope.activate_join_exec hr.live.ambient_eq,
    exec_outcome] at hx
  obtain ⟨r₀, hhead, hr₀, -, hd₀⟩ := hr.live.ambient
  have hready₁ : Ready u c o p A { s with world := s.world.enter u } :=
    ⟨hr.live.enter, hr.steady.of_eq (by simp) (by simp), hr.attempt.of_eq (by simp) (by simp) (by simp),
      by simpa using hr.provider⟩
  rcases hn : exec (Execution.nested h u (fun e => pure (prog e)) wait) { s with world := s.world.enter u }
    with ⟨q, s₅⟩
  obtain ⟨hw, ⟨J, hJ, hsound⟩, hd⟩ := Execution.nested_spec hready₁ hprog hn
  have hnode : (s₅.world.nodes[s.world.nodes.size]?.getD default).disposed = false := by
    rw [hw.stays.node (by simp [World.enter])]
    simp [World.enter]
  simp only [Bool.false_eq_true, if_false, hn, Scope.dispose_join_exec hnode, exec_ofExcept,
    settle] at hx
  have hf : Frame u c o s.world (s₅.world.leave s.world.nodes.size) :=
    ((Frame.of_same (by simp) (by simp) (by simp) (by simp) (by simp)).trans hw.frame).trans
      (Frame.of_same (by simp) (by simp) (by simp) (by simp) (by simp))
  have hc := Stays.enter_leave hhead hr₀ hd₀ hw.stays
  cases q <;> obtain ⟨rfl, rfl⟩ := Prod.mk.inj hx <;>
  exact ⟨⟨hr.live.of_frame hf hc (by simpa using hw.live.serial) (by simpa using hw.live.slot_live),
      hw.steady.of_eq (by simp) (by simp), hf, hc, by simpa using hw.tables,
      hw.attempt.of_eq (by simp) (by simp) (by simp)⟩,
    ⟨J, by simpa using hJ, hsound⟩, fun i hi => by simpa using hd i (by simpa using hi)⟩

/-- Dropping a flow started from the thread's chain keeps what the work in it did. -/
theorem Execution.Runs.drop_flow {A : List TxnEvent} {s s' : Sys Journal} (hl : Live u c o s.world)
    (hf : s.world.flow = none)
    (h : Runs u c o A { s with world := { s.world with flow := some s.world.thread } } s') :
    Runs u c o A s { s' with world := { s'.world with flow := none } } := by
  have hframe : Frame u c o s.world { s'.world with flow := none } :=
    ((Frame.of_same rfl rfl rfl rfl rfl :
      Frame u c o s.world { s.world with flow := some s.world.thread }).trans h.frame).trans
      (Frame.of_same rfl rfl rfl rfl rfl)
  have hc := Stays.drop_flow hf h.stays
  obtain ⟨J, hJ, hsound⟩ := h.journal
  exact ⟨⟨hl.of_frame hframe hc h.live.serial h.live.slot_live, ⟨h.steady.lock_free, h.steady.not_saving⟩,
    hframe, hc, h.tables, h.attempt⟩, ⟨J, hJ, hsound⟩, h.disposed⟩

/-- A nested execution, blocking or asynchronous, is a stretch of the attempt. An
asynchronous one runs in a flow of its own unless it started inside one. -/
theorem Execution.execute_join_spec {α : Type} {prog : Nat → Act Journal α} {h : Hooks Journal}
    {p : Nat} {wait : Wait} {A : List TxnEvent} {s s' : Sys Journal} {r : Except Fault α}
    (hr : Ready u c o p A s)
    (hprog : ∀ e s₁ q s₂, Ready u c o p A s₁ → ScopeOf u c e s₁.world → exec (prog e) s₁ = (q, s₂) →
      Runs u c o A s₁ s₂)
    (hx : exec (Execution.execute h p .joinExisting (fun e => pure (prog e)) wait) s = (r, s')) :
    Runs u c o A s s' := by
  rw [Execution.execute_eq] at hx
  cases wait with
  | blocking => exact Execution.inScope_join_spec hr hprog hx
  | async t =>
    cases hf : s.world.flow with
    | some f =>
      rw [Ambient.inFlow_exec_some (by simp [hf])] at hx
      exact Execution.inScope_join_spec hr hprog hx
    | none =>
      rw [Ambient.inFlow_exec_none hf] at hx
      obtain ⟨rfl, rfl⟩ := Prod.mk.inj hx
      have hready₀ : Ready u c o p A { s with world := { s.world with flow := some s.world.thread } } :=
        ⟨hr.live.flow hf, ⟨hr.steady.lock_free, hr.steady.not_saving⟩, hr.attempt, hr.provider⟩
      exact (Execution.inScope_join_spec hready₀ hprog rfl).drop_flow hr.live hf

/-- An operation's mark, added to the journal after it ran. -/
theorem Execution.Runs.record {A : List TxnEvent} {s s' : Sys Journal} (h : Runs u c o A s s')
    (m : Mark) (hm : m.InTxn) (hsnap : m.snapshot = none) :
    Runs u c o A s { s' with host := s'.host ++ [m] } := by
  obtain ⟨J, hJ, hsound⟩ := h.journal
  refine ⟨⟨h.live, h.steady, h.frame, h.stays, h.tables, h.attempt⟩,
    ⟨J ++ [m], by rw [hJ, List.append_assoc], hsound.append ?_⟩, h.disposed⟩
  intro m' hm'
  rw [List.mem_singleton.mp hm']
  exact ⟨hm, hsnap⟩

/-! ### The work of an attempt -/

/-- Whatever work of the root does, through operations, aborts and nested executions at any
depth, is a stretch of the attempt: the unit stays live and steady, nothing is committed, the
history stays in the attempt's phase, and every operation is recorded as run inside the
context's transaction. -/
theorem Prog.run_spec (h : Hooks Journal) (p : Nat) (prog : Prog) :
    ∀ {e : Nat} {A : List TxnEvent} {s s' : Sys Journal} {r : Except Fault Reply},
      Ready u c o p A s → ScopeOf u c e s.world → exec (prog.run h p e) s = (r, s') →
        Runs u c o A s s' := by
  induction prog with
  | done v =>
    intro e A s s' r hr _ hx
    obtain ⟨rfl, rfl⟩ := Prod.mk.inj hx
    exact Runs.refl hr.live hr.steady hr.attempt
  | fail f =>
    intro e A s s' r hr _ hx
    obtain ⟨rfl, rfl⟩ := Prod.mk.inj hx
    exact Runs.refl hr.live hr.steady hr.attempt
  | op o wait next ih =>
    intro e A s s' r hr he hx
    simp only [Prog.run, exec_bind, exec_world, exec_outcome, World.exec_eq, he.context] at hx
    rcases hop : exec (o.run h c wait) s with ⟨q, s₁⟩
    obtain ⟨hm₁, hst₁⟩ := Op.run_keeps h wait o hr.live hr.steady hop
    simp only [hop, exec_modifyHost, World.context_eq] at hx
    obtain ⟨d, hd, hg⟩ := hm₁.advance.grows
    have hmark := Mark.inTxn_of_grows hg
    rw [← hd] at hmark
    have hrec := (Runs.of_moves hm₁ hst₁ hr.attempt).record _ hmark rfl
    exact hrec.trans (ih _ (hr.of_within hrec.toWithin) (he.of_frame hrec.frame) hx)
  | abort next ih =>
    intro e A s s' r hr he hx
    simp only [Prog.run, exec_bind, Exec.abort_exec] at hx
    have hw := Within.of_execs (A := A) hr.live hr.steady hr.attempt (s.world.execs.modify e fun _ =>
        { s.world.execs[e]?.getD default with completed := false }) (by simp)
      (fun i _ => World.getD_modify_view _ _ _ _ _ _ rfl)
    have hrun : Runs u c o A s _ :=
      Runs.of_within hw rfl fun i _ => World.getD_modify_view _ _ _ _ _ _ rfl
    exact hrun.trans (ih (hr.of_within hw) (he.of_frame hw.frame) hx)
  | nest body wait next ihb ihn =>
    intro e A s s' r hr he hx
    simp only [Prog.run, exec_bind, exec_outcome] at hx
    rcases hn : exec (Execution.execute h p .joinExisting (fun e' => pure (body.run h p e')) wait) s
      with ⟨q, s₁⟩
    have hrun := Execution.execute_join_spec hr (fun _ _ _ _ hr' he' hx' => ihb hr' he' hx') hn
    simp only [hn] at hx
    exact hrun.trans (ihn _ (hr.of_within hrun.toWithin) (he.of_frame hrun.frame) hx)

end ScopedWork
