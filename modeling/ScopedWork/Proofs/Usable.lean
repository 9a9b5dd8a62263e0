import ScopedWork.Proofs.Undisturbed

/-!
# An ambient unit of work is usable while scopes are disposed in order

Database scopes are meant to be disposed in the reverse order of their creation: the scope
disposed is always the most recently created one that is still open, and a scoped execution,
which opens a scope of its own around its work and disposes it at the end, expects its work to
dispose the scopes it opened. A flow that opens scopes with any nesting option, disposes them in
that order and runs such executions keeps the ambient chain a stack of exactly its open scopes
(`Scope.Stacked`), each for a unit of work whose lock is free. A scope that joined sits above a
root for the same unit, and the unit of a root is the value of no scope below it: disposing the
root disposes a unit that no open scope holds any more. Whenever a unit of work is ambient it is
therefore not disposed, and asking for its context either gives it or makes it, unless the
factory refuses.

Out of order this fails: disposing a root below a scope that joined it, or ending an execution
whose work left open a scope joined to the execution's unit, leaves a unit of work disposed and
ambient.

A root scope leaves the chain before it disposes its unit, and leaves it once: its first
disposal releases the unit exactly when the unit's lock is free, and a disposal refused because
the lock is held is never tried again.
-/

namespace ScopedWork

open Act

variable {σ : Type}

namespace Chain

variable {nodes : Array Node}

theorem mem_liveEntries {j : Nat} :
    j ∈ liveEntries nodes ↔ j < nodes.size ∧ (nodes[j]?.getD default).disposed = false := by
  simp [liveEntries]

theorem nodup_liveEntries : (liveEntries nodes).Nodup := by
  unfold liveEntries List.Nodup
  rw [List.pairwise_reverse]
  exact (List.nodup_range.filter _).imp fun h e => h e.symm

/-- Well-formedness reads only the chain's head. -/
theorem Wf.of_head {c c' : Chain} (hw : c.Wf nodes) (hh : c'.head = c.head) : c'.Wf nodes :=
  ⟨hw.older, hh ▸ hw.head_below, hh ▸ hw.head_live, hh ▸ hw.stack⟩

end Chain

namespace Scope

/-- A step of one flow with database scopes: open a scope with a nesting option, its unit of
work, if it makes one, from `factory` and `options`; dispose the most recently opened scope
that is still open; or run, through provider `p` and with a nesting option, a scoped execution
whose work takes the steps of `body`. -/
inductive Step where
  | enter (option : ScopeOption) (factory : Nat) (options : Options)
  | leave (wait : Wait)
  | execute (p : Nat) (option : ScopeOption) (body : List Step) (wait : Wait)

namespace Step

mutual

/-- Take a step with the open scopes, the most recent first; the flow goes on whatever the
scope or the execution answers. The work of an execution starts with none of the flow's scopes
in hand, so it disposes only scopes it opened itself. -/
def run (h : Hooks σ) : Step → List Scope → Act σ (List Scope)
  | .enter option factory options, stack => do
    match ← Act.outcome (Scope.activate option factory options) with
    | .ok sc => pure (sc :: stack)
    | .error _ => pure stack
  | .leave wait, sc :: stack => do
    let _ ← Act.outcome (Scope.dispose h sc wait)
    pure stack
  | .leave _, [] => pure []
  | .execute p option body wait, stack => do
    let _ ← Act.outcome (Execution.execute h p option
      (fun _ => pure (do let _ ← runAll h body []; pure ())) wait)
    pure stack

/-- Take steps one after the other. -/
def runAll (h : Hooks σ) : List Step → List Scope → Act σ (List Scope)
  | [], stack => pure stack
  | st :: steps, stack => do runAll h steps (← st.run h stack)

end

/-- The work of an execution whose every attempt takes the steps of `body`. -/
def work (h : Hooks σ) (body : List Step) : Work σ Unit :=
  fun _ => pure (do let _ ← runAll h body []; pure ())

theorem run_execute (h : Hooks σ) (p : Nat) (option : ScopeOption) (body : List Step)
    (wait : Wait) (stack : List Scope) :
    (execute p option body wait).run h stack = (do
      let _ ← Act.outcome (Execution.execute h p option (work h body) wait)
      pure stack) := by
  rw [run]
  rfl

/-- How many scopes of its own a flow may have open after a step, with `n` open before:
opening adds one, disposing takes one away, and an execution leaves the count as it was. -/
def bound : Step → Nat → Nat
  | .enter .., n => n + 1
  | .leave _, n => n - 1
  | .execute .., n => n

/-- The same after steps one after the other. -/
def boundAll : List Step → Nat → Nat
  | [], n => n
  | st :: steps, n => boundAll steps (st.bound n)

mutual

/-- Whether the work of every execution in the step, at any depth, disposes every scope it
opens before it ends. With disposal always of the most recent open scope, this is disposal in
the reverse order of creation, an execution's own scope counted as created before its work's. -/
def closes : Step → Bool
  | .execute _ _ body _ => boundAll body 0 == 0 && closesAll body
  | _ => true

/-- Whether every step closes. -/
def closesAll : List Step → Bool
  | [] => true
  | st :: steps => st.closes && closesAll steps

end

theorem bound_mono (st : Step) {m n : Nat} (h : m ≤ n) : st.bound m ≤ st.bound n := by
  cases st <;> simp only [bound] <;> omega

theorem boundAll_mono : ∀ (steps : List Step) {m n : Nat}, m ≤ n → boundAll steps m ≤ boundAll steps n
  | [], _, _, h => h
  | st :: steps, _, _, h => boundAll_mono steps (st.bound_mono h)

end Step

/-- Each scope that joined sits above a root for its unit, and the unit of a root is the value
of no scope below it. -/
def Rooted : List Scope → Prop
  | [] => True
  | sc :: rest => (if sc.root then ∀ sc' ∈ rest, sc'.value ≠ sc.value
      else ∃ sc' ∈ rest, sc'.value = sc.value) ∧ Rooted rest

/-- The ambient chain is a stack of exactly the open scopes, each an entry for its unit of
work, whose lock is free. -/
structure Stacked (stack : List Scope) (w : World) : Prop where
  wf : w.ChainWf
  live : Chain.liveEntries w.nodes = stack.map Scope.node
  entry : ∀ sc ∈ stack, (w.nodes[sc.node]?.getD default).kind = UnitState.typeName ∧
    (w.nodes[sc.node]?.getD default).value = sc.value
  free : ∀ sc ∈ stack, sc.value < w.units.size ∧ (w.units[sc.value]?.getD default).lock = .free
  rooted : Rooted stack

/-- The host program's hooks change no unit of work and no ambient chain. -/
def Still (w₁ w : World) : Prop :=
  w.units = w₁.units ∧ w.chains = w₁.chains

/-- Such hooks keep whatever the units and the chains alone decide. -/
theorem Still.keep {h : Hooks σ} {I : World → Prop} (hh : ∀ w₁, Hooks.Keep (Still w₁) h)
    (hstep : ∀ w w', I w → Still w w' → I w') : Hooks.Keep I h :=
  .of_rel (fun _ _ => ⟨rfl, rfl⟩) hstep hh

/-- Such hooks leave every world undisturbed. -/
theorem Still.undisturbed {h : Hooks σ} (hh : ∀ w₁, Hooks.Keep (Still w₁) h) (w₁ : World) :
    Hooks.Keep (Undisturbed w₁) h :=
  Still.keep hh fun _ _ hc hs => hc.of_units hs.1 hs.2

namespace Stacked

variable {stack : List Scope} {w w' : World}

/-- The ambient unit of work is that of the most recently opened scope. -/
theorem ambient_eq (hs : Stacked stack w) : w.ambient = stack.head?.map Scope.value := by
  rw [World.ambient, hs.wf.current_eq, Chain.latest, hs.live]
  cases stack with
  | nil => rfl
  | cons sc rest =>
    obtain ⟨hk, hv⟩ := hs.entry sc (.head _)
    simp [hk, hv]

/-- An open scope's entry is live and below the number of entries. -/
theorem node_lt (hs : Stacked stack w) {sc : Scope} (h : sc ∈ stack) : sc.node < w.nodes.size :=
  (Chain.mem_liveEntries.mp (hs.live ▸ List.mem_map_of_mem h)).1

/-- Pushing an entry for the unit of the most recent scope: a join. -/
theorem push_join (hs : Stacked (sc :: stack) w) :
    Stacked (⟨w.nodes.size, sc.value, false⟩ :: sc :: stack)
      (w.pushEntry UnitState.typeName sc.value) := by
  refine ⟨hs.wf.pushEntry _ _, ?_, ?_, ?_, ?_⟩
  · rw [World.pushEntry_nodes, Chain.liveEntries_push _ rfl, hs.live]
    rfl
  · intro sc' h
    rcases List.mem_cons.mp h with rfl | h
    · simp
    · have := hs.node_lt h
      simpa [Nat.ne_of_lt this] using hs.entry sc' h
  · intro sc' h
    rcases List.mem_cons.mp h with rfl | h
    · simpa [World.pushEntry] using hs.free sc (.head _)
    · simpa [World.pushEntry] using hs.free sc' h
  · exact ⟨⟨sc, .head _, rfl⟩, hs.rooted⟩

/-- Pushing a root for a unit of work made just now, after every other. -/
theorem push_root (hs : Stacked stack w) (factory : Nat) (options : Options) :
    Stacked (⟨w.nodes.size, w.units.size, true⟩ :: stack)
      ({ w with units := w.units.push { factory, options } }.pushEntry UnitState.typeName
        w.units.size) := by
  have hs₁ : Stacked stack { w with units := w.units.push { factory, options } } := by
    refine ⟨hs.wf, hs.live, hs.entry, fun sc h => ?_, hs.rooted⟩
    obtain ⟨hlt, hl⟩ := hs.free sc h
    refine ⟨by simp only [Array.size_push]; omega, ?_⟩
    simp only [World.getD_push, if_neg (Nat.ne_of_lt hlt)]
    exact hl
  refine ⟨hs₁.wf.pushEntry _ _, ?_, ?_, ?_, ?_⟩
  · rw [World.pushEntry_nodes, Chain.liveEntries_push _ rfl, hs.live]
    rfl
  · intro sc' h
    rcases List.mem_cons.mp h with rfl | h
    · simp
    · have := hs.node_lt h
      simpa [Nat.ne_of_lt this] using hs.entry sc' h
  · intro sc' h
    rcases List.mem_cons.mp h with rfl | h
    · simp [World.pushEntry]
    · simpa [World.pushEntry] using hs₁.free sc' h
  · exact ⟨by simpa using fun sc' h => Nat.ne_of_lt (hs.free sc' h).1, hs.rooted⟩

/-- Deactivating the most recent scope's entry. -/
theorem pop (hs : Stacked (sc :: stack) w) : Stacked stack (w.deactivated sc.node) := by
  have hnd : sc.node ∉ stack.map Scope.node := by
    have hnodup : (Chain.liveEntries w.nodes).Nodup := Chain.nodup_liveEntries
    rw [hs.live, List.map_cons] at hnodup
    exact (List.nodup_cons.mp hnodup).1
  have hlt := hs.node_lt (.head _)
  refine ⟨hs.wf.deactivated _, ?_, fun sc' h => ?_, fun sc' h => ?_, hs.rooted.2⟩
  · rw [World.deactivated_nodes, Chain.liveEntries_dispose hlt, hs.live, List.map_cons,
      List.filter_cons_of_neg (by simp)]
    exact List.filter_eq_self.mpr fun j hj => by
      simpa using fun (he : j = sc.node) => hnd (he ▸ hj)
  · rw [World.deactivated_nodes]
    have hk := World.getD_modify_view w.nodes sc.node sc'.node
      (fun x => { x with disposed := true }) default (fun n => (n.kind, n.value)) rfl
    simp only [Prod.mk.injEq] at hk
    rw [hk.1, hk.2]
    exact hs.entry sc' (.tail _ h)
  · simpa [World.deactivated] using hs.free sc' (.tail _ h)

/-- An undisturbed change keeps the chain a stack of the open scopes. -/
theorem stable (stack : List Scope) : Undisturbed.Stable (Stacked stack) := by
  intro w w' hs hc
  have hn : w'.nodes = w.nodes := congrArg Prod.fst hc.chains
  refine ⟨World.chainWf_of_chains hc.chains hs.wf, hn ▸ hs.live, hn ▸ hs.entry, fun sc h => ?_,
    hs.rooted⟩
  obtain ⟨hlt, hl⟩ := hs.free sc h
  exact ⟨hc.size ▸ hlt, hc.free _ hl⟩

/-- A flow started outside any flow begins on the thread's chain: the same stack. -/
theorem enter_flow (hs : Stacked stack w) (hf : w.flow = none) :
    Stacked stack { w with flow := some w.thread } :=
  ⟨by simpa [World.ChainWf, hf] using hs.wf, hs.live, hs.entry, hs.free, hs.rooted⟩

/-- When such a flow ends with the scopes open that it started with, and the thread's chain as
it found it, that chain is again the stack: its head is their most recent entry. -/
theorem leave_flow (hs : Stacked stack w) (hf : w.flow = none) (hs' : Stacked stack w')
    (ht : w'.thread = w.thread) : Stacked stack { w' with flow := none } := by
  have hhead : w.thread.head = w'.chain.head := by
    have h₁ := hs.wf.head_eq
    simp only [World.chain_eq, hf, Option.getD_none] at h₁
    rw [h₁, hs.live, ← hs'.live, ← hs'.wf.head_eq]
  refine ⟨?_, hs'.live, hs'.entry, hs'.free, hs'.rooted⟩
  simp only [World.ChainWf, World.chain_eq, Option.getD_none]
  rw [ht]
  exact hs'.wf.of_head hhead

end Stacked

/-! ## Taking steps -/

theorem new_exec (factory : Nat) (options : Options) (s : Sys σ) :
    exec (UnitOfWork.new factory options) s =
      (.ok s.world.units.size,
        { s with world := { s.world with units := s.world.units.push { factory, options } } }) := by
  simp [UnitOfWork.new]

/-- Opening a scope pushes it onto the open scopes, or fails and changes nothing. -/
theorem activate_stacked {stack : List Scope} {s s' : Sys σ} {r : Except Fault Scope}
    {option : ScopeOption} {factory : Nat} {options : Options} (hs : Stacked stack s.world)
    (hx : exec (Scope.activate option factory options) s = (r, s')) :
    Stacked (match r with | .ok sc => sc :: stack | .error _ => stack) s'.world := by
  have hamb := hs.ambient_eq
  rw [World.ambient] at hamb
  have root : option = .forceCreateNew ∨ stack = [] →
      Stacked (match r with | .ok sc => sc :: stack | .error _ => stack) s'.world := by
    intro ho
    have hcur : option = .forceCreateNew ∨
        s.world.chain.current s.world.nodes UnitState.typeName = none := by
      rcases ho with ho | rfl
      · exact .inl ho
      · exact .inr hamb
    rw [Scope.activate, Ambient.activate_create_exec hcur, new_exec] at hx
    obtain ⟨rfl, rfl⟩ := Prod.mk.inj hx
    exact hs.push_root factory options
  cases stack with
  | nil => exact root (.inr rfl)
  | cons sc rest =>
    cases option with
    | noNesting =>
      rw [Scope.activate, Ambient.activate_noNesting_exec hamb] at hx
      obtain ⟨rfl, rfl⟩ := Prod.mk.inj hx
      exact hs
    | joinExisting =>
      rw [Scope.activate, Ambient.activate_join_exec hamb] at hx
      obtain ⟨rfl, rfl⟩ := Prod.mk.inj hx
      exact hs.push_join
    | forceCreateNew => exact root (.inl rfl)

/-- The ambient chains are `C` and there are `n` units, whatever becomes of the unit it is
indexed by. -/
def Apart (_u : Nat) (C : Array Node × Chain × Option Chain) (n : Nat) (w : World) : Prop :=
  w.chains = C ∧ w.units.size = n

/-- The ambient chains are `C`, there are `n` units, and unit `v`'s life is `l`. -/
def Frozen (v : Nat) (C : Array Node × Chain × Option Chain) (n : Nat)
    (l : LockState × Option Nat × Option Nat) (w : World) : Prop :=
  w.chains = C ∧ w.units.size = n ∧ (w.units[v]?.getD default).life = l

instance (u : Nat) (C : Array Node × Chain × Option Chain) (n : Nat) : OnLife u (Apart u C n) where
  frame _ _ hb h := ⟨hb.chains.trans h.1, hb.size.trans h.2⟩

instance (v : Nat) (C : Array Node × Chain × Option Chain) (n : Nat)
    (l : LockState × Option Nat × Option Nat) : OnLife v (Frozen v C n l) where
  frame _ _ hb h := ⟨hb.chains.trans h.1, hb.size.trans h.2.1, hb.life.trans h.2.2⟩

section Dispose

variable {h : Hooks σ} {sc : Scope} {s s' : Sys σ} {wait : Wait} {r : Except Fault Unit}

/-- Disposing a unit of work, with such hooks, moves no chain and adds no unit. -/
theorem dispose_apart (hh : ∀ w₁, Hooks.Keep (Still w₁) h) {u : Nat}
    (hx : exec (UnitOfWork.dispose h u wait) s = (r, s')) :
    Apart u s.world.chains s.world.units.size s'.world :=
  UnitOfWork.dispose_keeps_of (Still.keep hh fun _ _ hi hs => ⟨hs.2.trans hi.1, by rw [hs.1]; exact hi.2⟩)
    (fun _ hi _ => ⟨hi.1, by simpa [World.setUnit] using hi.2⟩) wait ⟨rfl, rfl⟩ hx

theorem dispose_exec_live (hlive : (s.world.nodes[sc.node]?.getD default).disposed = false) :
    exec (Scope.dispose h sc wait) s =
      if sc.root then exec (UnitOfWork.dispose h sc.value wait) { s with world := s.world.deactivated sc.node }
      else (.ok (), { s with world := s.world.deactivated sc.node }) := by
  rw [Scope.dispose, exec_bind, Scope.deactivate_exec, if_neg (by simp [hlive])]
  cases sc.root <;> rfl

/-- A scope already left is disposed of without a word. -/
theorem dispose_exec_left (hd : (s.world.nodes[sc.node]?.getD default).disposed = true) :
    exec (Scope.dispose h sc wait) s = (.ok (), s) := by
  rw [Scope.dispose, exec_bind, Scope.deactivate_exec, if_pos hd]
  rfl

/-- Disposing the most recent scope: its entry leaves the chain and, for a root, its unit is
disposed, which no other open scope holds. -/
theorem dispose_stacked (hh : ∀ w₁, Hooks.Keep (Still w₁) h) {stack : List Scope}
    (hs : Stacked (sc :: stack) s.world) (hx : exec (Scope.dispose h sc wait) s = (r, s')) :
    Stacked stack s'.world := by
  have hlive : (s.world.nodes[sc.node]?.getD default).disposed = false :=
    (Chain.mem_liveEntries.mp (hs.live ▸ List.mem_cons_self)).2
  rw [dispose_exec_live hlive] at hx
  have h₁ := hs.pop
  cases hroot : sc.root
  · simp only [hroot, Bool.false_eq_true, if_false] at hx
    obtain ⟨-, rfl⟩ := Prod.mk.inj hx
    exact h₁
  simp only [hroot, if_true] at hx
  generalize s.world.deactivated sc.node = w₁ at hx h₁
  have hC : Apart sc.value w₁.chains w₁.units.size s'.world := dispose_apart hh hx
  have hn : s'.world.nodes = w₁.nodes := congrArg Prod.fst hC.1
  refine ⟨World.chainWf_of_chains hC.1 h₁.wf, hn ▸ h₁.live, hn ▸ h₁.entry, fun sc' h' => ?_,
    h₁.rooted⟩
  -- the disposed unit is held by no other open scope
  have hne : sc.value ≠ sc'.value := by
    have := hs.rooted.1
    rw [if_pos hroot] at this
    exact fun he => this sc' h' he.symm
  have hF : Frozen sc'.value w₁.chains w₁.units.size (w₁.units[sc'.value]?.getD default).life
      s'.world :=
    UnitOfWork.dispose_onLife_of_ne hne
      (Still.keep hh fun _ _ hi hs' => ⟨hs'.2.trans hi.1, by rw [hs'.1]; exact hi.2.1, by rw [hs'.1]; exact hi.2.2⟩)
      wait ⟨rfl, rfl, rfl⟩ hx
  obtain ⟨hlt, hl⟩ := h₁.free sc' h'
  exact ⟨hF.2.1 ▸ hlt, (congrArg Prod.fst hF.2.2).trans hl⟩

end Dispose

/-! ## Scoped executions

An execution opens a scope of its own around its work and disposes it at the end, whatever the
work did, and whatever else it does to its unit of work leaves the chains, the number of units and
every free lock as they were (`Undisturbed`). Started from outside any flow, an asynchronous execution
runs as a flow of its own on a copy of the thread's chain, which it leaves alone. -/

/-- A flow is running, over a thread whose chain is `T`. -/
def Flowing (T : Chain) (w : World) : Prop := w.flow.isSome ∧ w.thread = T

namespace Flowing

variable {T : Chain} {w w' : World}

theorem of_chains (hf : Flowing T w) (h : w'.chains = w.chains) : Flowing T w' := by
  simp only [World.chains, Prod.mk.injEq] at h
  exact ⟨by rw [h.2.2]; exact hf.1, by rw [h.2.1]; exact hf.2⟩

theorem stable (T : Chain) : Undisturbed.Stable (Flowing T) := fun _ _ hf hc => hf.of_chains hc.chains

/-- Opening a scope inside a flow pushes onto the flow's chain, not the thread's. -/
theorem activate {s s' : Sys σ} {r : Except Fault Scope} {option : ScopeOption} {factory : Nat}
    {options : Options} (hf : Flowing T s.world)
    (hx : exec (Scope.activate option factory options) s = (r, s')) : Flowing T s'.world := by
  have hc : Ambient.KeepsChains (σ := σ) (UnitOfWork.new factory options) := fun _ _ _ h => by
    rw [new_exec, Prod.mk.injEq] at h
    rw [← h.2]
    rfl
  have hrun := (Ambient.Call.run_activate UnitState.typeName option hc s).2
  have hs' : (exec (Ambient.Call.activate UnitState.typeName option
      (UnitOfWork.new factory options)).run s).2 = s' := by
    simp only [Ambient.Call.run, exec_bind, exec_outcome]
    rw [show Ambient.activate UnitState.typeName option (UnitOfWork.new factory options) =
      Scope.activate option factory options from rfl, hx]
    rfl
  rw [hs'] at hrun
  rcases hrun with h | ⟨v, h⟩
  · exact hf.of_chains h
  · exact Flowing.of_chains ⟨by simpa using hf.1,
      by rw [World.pushEntry_thread_of_flow hf.1]; exact hf.2⟩ h

/-- Disposing a scope inside a flow pops from the flow's chain, not the thread's. -/
theorem dispose {h : Hooks σ} (hh : ∀ w₁, Hooks.Keep (Still w₁) h) {sc : Scope} {s s' : Sys σ}
    {wait : Wait} {r : Except Fault Unit} (hf : Flowing T s.world)
    (hx : exec (Scope.dispose h sc wait) s = (r, s')) : Flowing T s'.world := by
  by_cases hd : (s.world.nodes[sc.node]?.getD default).disposed = true
  · rw [dispose_exec_left hd] at hx
    obtain ⟨-, rfl⟩ := Prod.mk.inj hx
    exact hf
  rw [dispose_exec_live (by simpa using hd)] at hx
  have hf₁ : Flowing T (s.world.deactivated sc.node) :=
    ⟨by simpa using hf.1, by rw [World.deactivated_thread_of_flow hf.1]; exact hf.2⟩
  split at hx
  · exact hf₁.of_chains (dispose_apart hh hx).1
  · obtain ⟨-, rfl⟩ := Prod.mk.inj hx
    exact hf₁

end Flowing

section Execute

variable {h : Hooks σ} (hh : ∀ w₁, Hooks.Keep (Still w₁) h) {α : Type} {p : Nat}
  {option : ScopeOption} {work : Work σ α} {wait : Wait}
include hh

theorem inScope_flowing {T : Chain} (hw : Work.Keeps (Flowing T) work) :
    Keeps (Flowing T) (Execution.inScope h p option work wait) :=
  Execution.inScope_keeps (fun _ => Flowing.stable T) (Still.undisturbed hh)
    (fun _ _ _ _ _ hf hx => hf.activate hx) (fun _ _ _ _ _ hf hx => hf.activate hx)
    (fun _ _ _ _ hf hx => hf.dispose hh hx) fun _ => hw

/-- Inside a flow, an execution leaves the thread's chain alone, if its work does. -/
theorem execute_flowing {T : Chain} (hw : Work.Keeps (Flowing T) work) :
    Keeps (Flowing T) (Execution.execute h p option work wait) := by
  intro s s' r hf hx
  rw [Execution.execute_eq] at hx
  cases wait with
  | blocking => exact inScope_flowing hh hw hf hx
  | async t =>
    dsimp only at hx
    rw [Ambient.inFlow_exec_some hf.1] at hx
    exact inScope_flowing hh hw hf hx

/-- An execution keeps the chain a stack of the open scopes, if its work keeps it with the
execution's own scope on top, and leaves the thread's chain alone inside a flow. -/
theorem execute_stacked {stack : List Scope} (hw : ∀ sc, Work.Keeps (Stacked (sc :: stack)) work)
    (hwf : ∀ T, Work.Keeps (Flowing T) work) :
    Keeps (Stacked stack) (Execution.execute h p option work wait) := by
  have hin : Keeps (Stacked stack) (Execution.inScope h p option work wait) :=
    Execution.inScope_keeps (fun sc => Stacked.stable (sc :: stack)) (Still.undisturbed hh)
      (fun _ _ _ _ _ hs hx => activate_stacked hs hx) (fun _ _ _ _ _ hs hx => activate_stacked hs hx)
      (fun _ _ _ _ hs hx => dispose_stacked hh hs hx) hw
  intro s s' r hs hx
  rw [Execution.execute_eq] at hx
  cases wait with
  | blocking => exact hin hs hx
  | async t =>
    dsimp only at hx
    cases hf : s.world.flow with
    | some f =>
      rw [Ambient.inFlow_exec_some (by simp [hf])] at hx
      exact hin hs hx
    | none =>
      rw [Ambient.inFlow_exec_none hf, Prod.mk.injEq] at hx
      obtain ⟨-, rfl⟩ := hx
      -- a flow of its own, on a copy of the thread's chain that it leaves alone
      exact hs.leave_flow hf (hin (hs.enter_flow hf) (Prod.eta _).symm)
        (inScope_flowing hh (hwf _) ⟨rfl, rfl⟩ (Prod.eta _).symm).2

end Execute

namespace Step

/-- The work keeps what its steps keep from no open scope of its own. -/
theorem work_keeps {h : Hooks σ} {I : World → Prop} {body : List Step}
    (hb : Keeps I (runAll h body [])) : Work.Keeps I (work h body) := fun _ =>
  ⟨.pure _, fun _ _ _ _ hx => by
    simp only [work, exec_pure, Prod.mk.injEq, Except.ok.injEq] at hx
    obtain ⟨rfl, -⟩ := hx
    exact .bind hb fun _ => .pure _⟩

variable {h : Hooks σ}

mutual

/-- Inside a flow, a step leaves the thread's chain alone. -/
theorem run_flowing (hh : ∀ w₁, Hooks.Keep (Still w₁) h) : ∀ (st : Step) (stack : List Scope) {T : Chain},
    Keeps (σ := σ) (Flowing T) (st.run h stack)
  | .enter option factory options, stack, _ => by
    rw [run]
    exact .bind (.outcome fun _ _ _ hf hx => hf.activate hx) fun q => by
      cases q <;> exact .pure _
  | .leave _, [], _ => by
    rw [run]
    exact .pure _
  | .leave wait, sc :: stack, _ => by
    rw [run]
    exact .bind (.outcome fun _ _ _ hf hx => hf.dispose hh hx) fun _ => .pure _
  | .execute p option body wait, stack, _ => by
    rw [run_execute]
    exact .bind (.outcome (execute_flowing hh (work_keeps (runAll_flowing hh body [])))) fun _ =>
      .pure _

/-- Inside a flow, steps leave the thread's chain alone. -/
theorem runAll_flowing (hh : ∀ w₁, Hooks.Keep (Still w₁) h) : ∀ (steps : List Step) (stack : List Scope) {T : Chain},
    Keeps (σ := σ) (Flowing T) (runAll h steps stack)
  | [], stack, _ => by
    rw [runAll]
    exact .pure _
  | st :: steps, stack, _ => by
    rw [runAll]
    exact .bind (run_flowing hh st stack) fun _ => runAll_flowing hh steps _

end

mutual

/-- A step goes on whatever happens and keeps the chain a stack of the open scopes, the flow's
own above those `below` it, with no more of its own open than the bound. -/
theorem run_stacked (hh : ∀ w₁, Hooks.Keep (Still w₁) h) : ∀ (st : Step), st.closes = true → ∀ (own below : List Scope) {s : Sys σ},
    Stacked (own ++ below) s.world →
    ∃ own', (exec (st.run h own) s).1 = .ok own' ∧
      Stacked (own' ++ below) (exec (st.run h own) s).2.world ∧ own'.length ≤ st.bound own.length
  | .enter option factory options, _, own, below, s, hs => by
    rcases hx : exec (Scope.activate option factory options) s with ⟨r, s'⟩
    have hs' := activate_stacked hs hx
    cases r with
    | ok sc =>
      exact ⟨sc :: own, by simp only [run, exec_bind, exec_outcome, hx, exec_pure],
        by simpa only [run, exec_bind, exec_outcome, hx, exec_pure, List.cons_append] using hs',
        by simp [bound]⟩
    | error e =>
      exact ⟨own, by simp only [run, exec_bind, exec_outcome, hx, exec_pure],
        by simpa only [run, exec_bind, exec_outcome, hx, exec_pure] using hs', by simp [bound]⟩
  | .leave _, _, [], below, s, hs =>
    ⟨[], by simp only [run, exec_pure], by simpa only [run, exec_pure] using hs, Nat.zero_le _⟩
  | .leave wait, _, sc :: own, below, s, hs => by
    have hs₁ : Stacked (sc :: (own ++ below)) s.world := hs
    rw [run, Act.exec_outcome_then_pure]
    exact ⟨own, rfl, dispose_stacked hh hs₁ (Prod.eta _).symm, by simp [bound]⟩
  | .execute p option body wait, hc, own, below, s, hs => by
    simp only [closes, Bool.and_eq_true, beq_iff_eq] at hc
    obtain ⟨hb, hcb⟩ := hc
    -- each attempt's steps start above the execution's scope and, by their bound, leave
    -- none of their own open
    have hw : ∀ sc, Work.Keeps (Stacked (sc :: (own ++ below))) (work h body) := fun sc =>
      work_keeps fun s₁ s₂ _ hs₁ hx => by
        obtain ⟨own', -, hs', hlen⟩ := runAll_stacked hh body hcb [] (sc :: (own ++ below)) hs₁
        obtain rfl : own' = [] := List.eq_nil_of_length_eq_zero (by simpa [hb] using hlen)
        rw [hx] at hs'
        exact hs'
    rw [run_execute, Act.exec_outcome_then_pure]
    exact ⟨own, rfl, execute_stacked hh hw (fun _ => work_keeps (runAll_flowing hh body [])) hs
      (Prod.eta _).symm, Nat.le_refl _⟩

/-- Steps go on whatever happens and keep the chain a stack of the open scopes. -/
theorem runAll_stacked (hh : ∀ w₁, Hooks.Keep (Still w₁) h) : ∀ (steps : List Step), closesAll steps = true →
    ∀ (own below : List Scope) {s : Sys σ}, Stacked (own ++ below) s.world →
    ∃ own', (exec (runAll h steps own) s).1 = .ok own' ∧
      Stacked (own' ++ below) (exec (runAll h steps own) s).2.world ∧
      own'.length ≤ boundAll steps own.length
  | [], _, own, below, s, hs =>
    ⟨own, by simp only [runAll, exec_pure], by simpa only [runAll, exec_pure] using hs,
      Nat.le_refl _⟩
  | st :: steps, hc, own, below, s, hs => by
    simp only [closesAll, Bool.and_eq_true] at hc
    obtain ⟨own₁, h₁, hs₁, hl₁⟩ := run_stacked hh st hc.1 own below hs
    have he : exec (st.run h own) s = (.ok own₁, (exec (st.run h own) s).2) := Prod.ext h₁ rfl
    obtain ⟨own₂, h₂, hs₂, hl₂⟩ := runAll_stacked hh steps hc.2 own₁ below hs₁
    refine ⟨own₂, ?_, ?_, Nat.le_trans hl₂ (boundAll_mono steps hl₁)⟩
    · rw [runAll, exec_bind, he]
      exact h₂
    · rw [runAll, exec_bind, he]
      exact hs₂

end

end Step

end Scope

/-- A factory fails only by refusing, with its answer to the call. -/
theorem Factory.create_error {f : Nat} {s s' : Sys σ} {e : Fault}
    (hx : exec (Factory.create f) s = (.error e, s')) : (s.world.factory f).next = some e := by
  simp only [Factory.create, exec_bind, exec_world] at hx
  split at hx
  · rename_i e' he'
    simp only [exec_bind, exec_modifyWorld, exec_throw, Prod.mk.injEq, Except.error.injEq] at hx
    rw [he', hx.1]
  · simp [Context.create] at hx

namespace UnitOfWork

/-- With its lock free, a unit of work gives its context or makes one; making it fails only
where the factory refuses its next call. -/
theorem context_error_of_free {u : Nat} {s s' : Sys σ} {e : Fault}
    (hl : (s.world.units[u]?.getD default).lock = .free)
    (hx : exec (context u) s = (.error e, s')) :
    (s.world.factory (s.world.units[u]?.getD default).factory).next = some e := by
  rw [context, exec_bind, get_exec] at hx
  dsimp only at hx
  split at hx
  · simp at hx
  rw [locked_exec_free _ hl, Prod.mk.injEq] at hx
  have he := hx.1
  rw [exec_bind, get_exec] at he
  dsimp only at he
  split at he
  · simp at he
  rw [exec_bind, get_exec] at he
  dsimp only at he
  rw [exec_bind] at he
  have hf : ((s.withLock u .held).world.units[u]?.getD default).factory =
      (s.world.units[u]?.getD default).factory :=
    World.getD_modify_view _ _ _ _ _ UnitState.factory rfl
  rw [hf] at he
  rcases hc : exec (Factory.create (s.world.units[u]?.getD default).factory) (s.withLock u .held)
    with ⟨_ | c, s₂⟩
  · rw [hc] at he
    obtain rfl := Except.error.inj he
    exact Factory.create_error (s := s.withLock u .held) hc
  · rw [hc] at he
    simp [modify_exec] at he

end UnitOfWork

namespace Scope

/-- No scope is open in a world with providers and nothing else yet. -/
theorem stacked_empty (providers : Array Provider) : Stacked [] ({ providers } : World) :=
  ⟨Chain.wf_empty _ rfl, rfl, nofun, nofun, trivial⟩

/-- An ambient unit of work that is reported present is usable, as long as scopes are disposed
in the reverse order of their creation. From any open scopes stacked on the chain, after any
steps of one flow that open scopes with any nesting option, dispose the most recently opened one
still open, and run scoped executions whose work disposes, before it ends, every scope it opened,
with hooks that change no unit of work and no chain: whenever a unit of work is reported ambient,
asking for it gives it, it is not disposed, and asking for its context fails only with the
fault its factory answers the next call with. -/
theorem ambient_unit_is_usable (h : Hooks σ) (hh : ∀ w₁, Hooks.Keep (Still w₁) h)
    (steps : List Step) (hc : Step.closesAll steps = true) (stack : List Scope) (s : Sys σ)
    (hs : Stacked stack s.world) :
    let t := (exec (Step.runAll h steps stack) s).2
    (exec Ambient.hasUnit t).1 = .ok true →
      ∃ u, exec Ambient.unit t = (.ok u, t) ∧ exec (UnitOfWork.isDisposed u) t = (.ok false, t) ∧
        ∀ e t', exec Ambient.context t = (.error e, t') →
          (t.world.factory (t.world.units[u]?.getD default).factory).next = some e := by
  intro t ht
  obtain ⟨own, -, hst, -⟩ := Step.runAll_stacked hh steps hc stack [] (by simpa using hs)
  rw [List.append_nil] at hst
  have hamb := hst.ambient_eq
  cases own with
  | nil => simp [Ambient.hasUnit, t, hamb] at ht
  | cons sc rest =>
    have hl := (hst.free sc (.head _)).2
    have hu : exec Ambient.unit t = (.ok sc.value, t) := by simp [Ambient.unit, t, hamb]
    refine ⟨sc.value, hu, by simp [UnitOfWork.isDisposed, t, hl], fun e t' hx => ?_⟩
    rw [Ambient.context, exec_bind, hu] at hx
    exact UnitOfWork.context_error_of_free hl hx

/-- A root outlives a scoped execution run beneath it, asynchronously, with a unit of its own
and a scope of its work joined to that unit, and then a scope joined to the root: the root's
unit is ambient and usable. -/
theorem root_outlives_an_execution_beneath_it :
    let t := (exec (Step.runAll Hooks.quiet
      [.enter .joinExisting 0 {},
        .execute 0 .forceCreateNew [.enter .joinExisting 0 {}, .leave .blocking] (.async 0),
        .enter .joinExisting 0 {}, .leave .blocking] [])
      (⟨{ providers := #[{ factory := 0, options := {} }] }, ()⟩ : Sys Unit)).2
    (exec Ambient.hasUnit t).1 = .ok true ∧
      ∃ u, exec Ambient.unit t = (.ok u, t) ∧ exec (UnitOfWork.isDisposed u) t = (.ok false, t) ∧
        ∀ e t', exec Ambient.context t = (.error e, t') →
          (t.world.factory (t.world.units[u]?.getD default).factory).next = some e := by
  intro t
  -- the kernel runs the steps; unfolding them in the elaborator takes far longer
  have hu : (exec Ambient.hasUnit t).1 = .ok true := by
    have hb : (exec Ambient.hasUnit t).1.toOption = some true := by decide +kernel
    revert hb
    cases (exec Ambient.hasUnit t).1 <;> simp [Except.toOption]
  simp only [t] at hu ⊢
  exact ⟨hu, ambient_unit_is_usable Hooks.quiet (fun _ => Hooks.quiet_keep _) _ (by decide) [] _
    (stacked_empty _) hu⟩

/-- Out of order, a disposed unit of work stays ambient. A root disposed below the scope that
joined it leaves its unit disposed, yet reported present; so does a scoped execution whose work
leaves open a scope joined to the execution's unit, which the execution disposes at its end. -/
theorem disposed_unit_stays_ambient_out_of_order :
    (exec (do
      let r ← Scope.activate .joinExisting 0 {}
      let _ ← Scope.activate .joinExisting 0 {}
      Scope.dispose Hooks.quiet r .blocking
      let u ← Ambient.unit
      return (← Ambient.hasUnit, ← UnitOfWork.isDisposed u))
      (⟨{}, ()⟩ : Sys Unit)).1 matches .ok (true, true) ∧
    Step.closesAll [.execute 0 .joinExisting [.enter .joinExisting 0 {}] .blocking] = false ∧
    (exec (do
      let _ ← Step.runAll Hooks.quiet
        [.execute 0 .joinExisting [.enter .joinExisting 0 {}] .blocking] []
      let u ← Ambient.unit
      return (← Ambient.hasUnit, ← UnitOfWork.isDisposed u))
      (⟨{ providers := #[{ factory := 0, options := {} }] }, ()⟩ : Sys Unit)).1
      matches .ok (true, true) :=
  ⟨by decide +kernel, rfl, by decide +kernel⟩

end Scope

/-! ## A root's disposal is tried once

A scope leaves the ambient chain before it disposes its unit of work, and it leaves only once.
If the unit's lock is held then, as when the scope is disposed from work done under that lock,
the unit's disposal refuses with contention and nothing tries it again: every later disposal of
the scope finds it left and returns without a word, and its unit stays undisposed. -/

theorem World.deactivated_units (w : World) (n : Nat) : (w.deactivated n).units = w.units := by
  simp only [World.deactivated, World.setChain]
  split <;> rfl

theorem World.deactivated_left {w : World} {n : Nat} (hn : n < w.nodes.size) :
    ((w.deactivated n).nodes[n]?.getD default).disposed = true := by
  rw [World.deactivated_nodes, World.getD_modify_of_lt _ _ _ hn, if_pos rfl]

namespace Scope

/-- A root scope's first disposal releases its unit of work exactly when the unit's lock is
free then. A held lock refuses with contention and stays held, and from then on every disposal of
the scope succeeds at once and changes nothing, so the unit is never released through it. -/
theorem dispose_releases_only_if_unlocked (h : Hooks σ) (hh : ∀ w₁, Hooks.Keep (Still w₁) h)
    {sc : Scope} (hroot : sc.root = true) {s s' : Sys σ} (hn : sc.node < s.world.nodes.size)
    (hlive : (s.world.nodes[sc.node]?.getD default).disposed = false)
    (hu : sc.value < s.world.units.size) (wait : Wait) {r : Except Fault Unit}
    (hx : exec (Scope.dispose h sc wait) s = (r, s')) :
    ((s.world.units[sc.value]?.getD default).lock = .free → UnitOfWork.Disposed sc.value s'.world) ∧
      ((s.world.units[sc.value]?.getD default).lock = .held →
        r = .error contendedFault ∧ (s'.world.units[sc.value]?.getD default).lock = .held) ∧
      ∀ wait', exec (Scope.dispose h sc wait') s' = (.ok (), s') := by
  rw [dispose_exec_live hlive, if_pos hroot] at hx
  have hu₁ := World.deactivated_units s.world sc.node
  have hleft := World.deactivated_left (n := sc.node) hn
  generalize s.world.deactivated sc.node = w₁ at hx hu₁ hleft
  refine ⟨fun hfree => ?_, fun hheld => ?_, fun _ => dispose_exec_left ?_⟩
  · -- the lock is taken for good before anything else, and what follows leaves the unit alone
    have hfree₁ : (w₁.units[sc.value]?.getD default).lock = .free := by
      rw [hu₁]
      exact hfree
    exact UnitOfWork.dispose_free_keeps (I := UnitOfWork.LifeIs sc.value (.disposed, none, none))
      (Still.keep hh fun _ _ hi hs => by rw [UnitOfWork.LifeIs, hs.1]; exact hi) hfree₁
      (UnitOfWork.lifeIs_disposing (hu₁ ▸ hu)) hx
  · have hheld₁ : (w₁.units[sc.value]?.getD default).lock = .held := by
      rw [hu₁]
      exact hheld
    rw [UnitOfWork.dispose_exec_held hheld₁] at hx
    obtain ⟨rfl, rfl⟩ := Prod.mk.inj hx
    exact ⟨rfl, hheld₁⟩
  · -- the scope's entry was deactivated, and disposing the unit moves no chain
    have hC := dispose_apart hh hx
    rw [show s'.world.nodes = w₁.nodes from congrArg Prod.fst hC.1]
    exact hleft

/-- A root just opened in an empty world is released by its first disposal. -/
theorem first_dispose_of_fresh_root_releases :
    let s := (exec (Scope.activate .joinExisting 0 {}) (⟨{}, ()⟩ : Sys Unit)).2
    let sc : Scope := ⟨0, 0, true⟩
    let x := exec (Scope.dispose Hooks.quiet sc .blocking) s
    sc.root = true ∧ sc.node < s.world.nodes.size ∧
      (s.world.nodes[sc.node]?.getD default).disposed = false ∧ sc.value < s.world.units.size ∧
      ((s.world.units[sc.value]?.getD default).lock = .free → UnitOfWork.Disposed sc.value x.2.world) ∧
        ((s.world.units[sc.value]?.getD default).lock = .held →
          x.1 = .error contendedFault ∧ (x.2.world.units[sc.value]?.getD default).lock = .held) ∧
        ∀ wait', exec (Scope.dispose Hooks.quiet sc wait') x.2 = (.ok (), x.2) :=
  ⟨rfl, by decide, rfl, by decide, dispose_releases_only_if_unlocked Hooks.quiet
    (fun _ => Hooks.quiet_keep _) rfl (by decide) rfl (by decide) .blocking rfl⟩

/-- Disposed from work under its unit's lock, a root scope fails with contention; disposed again
once the lock is free, it succeeds and leaves its unit undisposed. -/
theorem reentrant_dispose_leaves_unit_undisposed :
    (exec (do
      let r ← Scope.activate .joinExisting 0 {}
      let first ← UnitOfWork.locked r.value (Act.outcome (Scope.dispose Hooks.quiet r .blocking))
      let second ← Act.outcome (Scope.dispose Hooks.quiet r .blocking)
      return (first, second, ← UnitOfWork.isDisposed r.value))
      (⟨{}, ()⟩ : Sys Unit)).1 matches .ok (.error _, .ok (), false) := by
  decide +kernel

end Scope

end ScopedWork
