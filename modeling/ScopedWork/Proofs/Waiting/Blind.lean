import ScopedWork.Execution
import ScopedWork.Proofs.Act
import ScopedWork.Proofs.World
import ScopedWork.Proofs.Keeps

/-!
# Operations blind to waiting

A blocking execution and one that waits under a cancellation token run the same operations
on contexts, units of work and execution scopes. They differ in what they do while waiting,
in the token each execution scope keeps, and in where the current chain lives: a blocking
execution keeps it as the thread's, an asynchronous one in its flow. `World.observed` forgets
exactly that: the cancellation tokens, the token of each execution scope, and whether the
current chain is the thread's or a flow's.

An operation is blind to waiting (`Act.Blind`) when its run from the observed world is its run
from the world, observed afterwards, and it leaves the tokens, the spawned tasks, the chains
and their entries alone (`Act.Quiet`). The rules below build blindness along the shape of an
operation, and every operation that takes no way of waiting is blind, given hooks that are
(`Hooks.Blind`).
-/

namespace ScopedWork

variable {σ : Type}

namespace ExecState

/-- The execution scope without its cancellation token. -/
def untokened (x : ExecState) : ExecState := { x with token := 0 }

@[simp] theorem untokened_untokened (x : ExecState) : x.untokened.untokened = x.untokened := rfl

@[simp] theorem untokened_default : (default : ExecState).untokened = default := rfl

end ExecState

namespace World

/-- Mapping a table commutes with setting one of its entries. -/
theorem map_modify_const {α β : Type} (g : α → β) (a : Array α) (j : Nat) (x : α) :
    (a.modify j fun _ => x).map g = (a.map g).modify j fun _ => g x := by
  apply Array.ext_getElem?
  intro i
  simp only [Array.getElem?_map, Array.getElem?_modify]
  split
  · cases a[i]? <;> rfl
  · rfl

/-- What an execution observes of the world, however it waits: everything but the
cancellation tokens and the tokens of execution scopes, with the current chain as the
thread's. -/
def observed (w : World) : World :=
  { w with tokens := #[], execs := w.execs.map ExecState.untokened, thread := w.chain, flow := none }

variable (w : World)

@[simp] theorem observed_observed : w.observed.observed = w.observed := by
  simp [observed, Array.map_map, Function.comp_def]

/-- A change of the world that commutes with observing it, commutes with it up to what is not
observed. -/
theorem observed_of_commutes {g : World → World} (hg : ∀ w, g w.observed = (g w).observed) (w : World) :
    (g w.observed).observed = (g w).observed := by
  rw [hg, observed_observed]

/-- Setting an execution scope, as observed: setting it without its token. -/
theorem observed_setExec (e : Nat) (x : ExecState) :
    (w.setExec e x).observed = w.observed.setExec e x.untokened := by
  simp only [observed, setExec, map_modify_const]
  rfl

/-- An execution scope as observed: without its token. -/
theorem observed_exec (e : Nat) : w.observed.exec e = (w.exec e).untokened := by
  simp only [observed, exec, Array.getD_eq_getD_getElem?, Array.getElem?_map]
  cases w.execs[e]? <;> rfl

end World

/-- The host's state and the world as an execution observes it. -/
def Sys.observed (s : Sys σ) : Sys σ := { s with world := s.world.observed }

namespace Sys

variable {s s' : Sys σ}

theorem observed_eq_iff : s.observed = s'.observed ↔ s.host = s'.host ∧ s.world.observed = s'.world.observed := by
  constructor
  · intro h
    have hh := congrArg Sys.host h
    have hw := congrArg Sys.world h
    exact ⟨hh, hw⟩
  · rintro ⟨hh, hw⟩
    simp only [observed, hh, hw]

/-- Two states observed alike stay so under a change of the world that commutes with observing
it, up to what is not observed. -/
theorem observed_modifyWorld {g : World → World} (hg : ∀ w, (g w.observed).observed = (g w).observed)
    (h : s.observed = s'.observed) :
    ({ s with world := g s.world } : Sys σ).observed = ({ s' with world := g s'.world } : Sys σ).observed := by
  obtain ⟨hh, hw⟩ := observed_eq_iff.mp h
  refine observed_eq_iff.mpr ⟨hh, ?_⟩
  show (g s.world).observed = (g s'.world).observed
  rw [← hg s.world, ← hg s'.world, hw]

end Sys

namespace Act

variable {α β γ : Type}

/-- What an operation blind to waiting leaves alone: the cancellation tokens, the spawned
tasks, the chains and their entries. -/
structure Quiet (w w' : World) : Prop where
  tokens : w'.tokens = w.tokens
  spawned : w'.spawned = w.spawned
  thread : w'.thread = w.thread
  flow : w'.flow = w.flow
  nodes : w'.nodes = w.nodes

namespace Quiet

variable {w w₁ w₂ : World}

theorem refl (w : World) : Quiet w w := ⟨rfl, rfl, rfl, rfl, rfl⟩

theorem trans (h₁ : Quiet w w₁) (h₂ : Quiet w₁ w₂) : Quiet w w₂ :=
  ⟨h₂.tokens.trans h₁.tokens, h₂.spawned.trans h₁.spawned, h₂.thread.trans h₁.thread,
    h₂.flow.trans h₁.flow, h₂.nodes.trans h₁.nodes⟩

end Quiet

/-- `x` is blind to waiting: from two states observed alike it returns the same and leaves
states observed alike, and it is quiet. -/
structure Blind (x : Act σ α) : Prop where
  observed : ∀ ⦃s s' : Sys σ⦄, s.observed = s'.observed →
    (exec x s).1 = (exec x s').1 ∧ (exec x s).2.observed = (exec x s').2.observed
  quiet : ∀ s : Sys σ, Quiet s.world (exec x s).2.world

end Act

namespace Run

variable {α β γ : Type}

/-- An operation that cannot fail, blind to waiting. -/
structure Blind (x : Run σ α) : Prop where
  observed : ∀ ⦃s s' : Sys σ⦄, s.observed = s'.observed →
    (x.run s).1 = (x.run s').1 ∧ (x.run s).2.observed = (x.run s').2.observed
  quiet : ∀ s : Sys σ, Act.Quiet s.world (x.run s).2.world

namespace Blind

theorem pure (a : α) : Blind (σ := σ) (Pure.pure a) :=
  ⟨fun _ _ h => ⟨rfl, h⟩, fun s => .refl s.world⟩

theorem bind {x : Run σ α} {f : α → Run σ β} (hx : Blind x) (hf : ∀ a, Blind (f a)) :
    Blind (x >>= f) := by
  refine ⟨fun s s' h => ?_, fun s => (hx.quiet s).trans ((hf _).quiet _)⟩
  obtain ⟨ha, hs⟩ := hx.observed h
  show ((f (x.run s).1).run (x.run s).2).1 = ((f (x.run s').1).run (x.run s').2).1 ∧
    ((f (x.run s).1).run (x.run s).2).2.observed = ((f (x.run s').1).run (x.run s').2).2.observed
  rw [ha]
  exact (hf _).observed hs

/-- Reading the world, where what follows reads only what is observed. -/
theorem read {f : World → Run σ α} (hf : ∀ w, f w.observed = f w) (hb : ∀ w, Blind (f w)) :
    Blind (Run.world >>= f) := by
  refine ⟨fun s s' h => ?_, fun s => (hb s.world).quiet s⟩
  have hw : f s.world = f s'.world := by
    rw [← hf s.world, ← hf s'.world]
    exact congrArg (fun s => f (Sys.world s)) h
  show ((f s.world).run s).1 = ((f s'.world).run s').1 ∧
    ((f s.world).run s).2.observed = ((f s'.world).run s').2.observed
  rw [hw]
  exact (hb _).observed h

theorem modifyWorld {g : World → World} (hg : ∀ w, (g w.observed).observed = (g w).observed)
    (hq : ∀ w, Act.Quiet w (g w)) : Blind (σ := σ) (Run.modifyWorld g) := by
  exact ⟨fun s s' h => ⟨rfl, Sys.observed_modifyWorld hg h⟩, fun s => hq s.world⟩

/-- Changing the world in a way that commutes with observing it. -/
theorem change {g : World → World} (hg : ∀ w, g w.observed = (g w).observed)
    (hq : ∀ w, Act.Quiet w (g w)) : Blind (σ := σ) (Run.modifyWorld g) :=
  modifyWorld (World.observed_of_commutes hg) hq

theorem forM {l : List γ} {f : γ → Run σ PUnit} (hf : ∀ a, Blind (f a)) : Blind (l.forM f) := by
  induction l with
  | nil => exact pure _
  | cons a l ih => exact bind (hf a) fun _ => ih

theorem foldlM {l : List γ} {f : α → γ → Run σ α} (hf : ∀ a b, Blind (f a b)) :
    ∀ init, Blind (l.foldlM f init) := by
  induction l with
  | nil => exact pure
  | cons b l ih => exact fun init => bind (hf init b) ih

end Blind

end Run

namespace Act

variable {α β γ : Type}

namespace Blind

theorem pure (a : α) : Blind (σ := σ) (Pure.pure a) :=
  ⟨fun _ _ h => ⟨rfl, h⟩, fun s => .refl s.world⟩

theorem throw (e : Fault) : Blind (σ := σ) (α := α) (MonadExcept.throw e) :=
  ⟨fun _ _ h => ⟨rfl, h⟩, fun s => .refl s.world⟩

/-- A failure ends the run: what would follow it is never reached. -/
theorem throw_bind (e : Fault) (f : α → Act σ β) : Blind (MonadExcept.throw e >>= f) :=
  ⟨fun _ _ h => ⟨rfl, h⟩, fun s => .refl s.world⟩

theorem ofExcept (r : Except Fault α) : Blind (σ := σ) (Act.ofExcept r) := by
  cases r with
  | ok a => exact pure a
  | error e => exact throw e

theorem bind {x : Act σ α} {f : α → Act σ β} (hx : Blind x) (hf : ∀ a, Blind (f a)) :
    Blind (x >>= f) := by
  refine ⟨fun s s' h => ?_, fun s => ?_⟩
  · obtain ⟨hr, hs⟩ := hx.observed h
    rw [exec_bind, exec_bind]
    rcases h₁ : exec x s with ⟨q, s₁⟩
    rcases h₂ : exec x s' with ⟨q', s₂⟩
    rw [h₁, h₂] at hr hs
    cases hr
    cases q with
    | ok a => exact (hf a).observed hs
    | error e => exact ⟨rfl, hs⟩
  · rw [exec_bind]
    have hq := hx.quiet s
    rcases h : exec x s with ⟨_ | a, s₁⟩ <;> rw [h] at hq
    · exact hq
    · exact hq.trans ((hf a).quiet s₁)

theorem outcome {x : Act σ α} (hx : Blind x) : Blind (Act.outcome x) := by
  refine ⟨fun s s' h => ?_, fun s => by rw [exec_outcome]; exact hx.quiet s⟩
  obtain ⟨hr, hs⟩ := hx.observed h
  rw [exec_outcome, exec_outcome, hr]
  exact ⟨rfl, hs⟩

/-- Reading the world, where what follows reads only what is observed. -/
theorem read {f : World → Act σ α} (hf : ∀ w, f w.observed = f w) (hb : ∀ w, Blind (f w)) :
    Blind (Act.world >>= f) := by
  refine ⟨fun s s' h => ?_, fun s => ?_⟩
  · have hw : f s.world = f s'.world := by
      rw [← hf s.world, ← hf s'.world]
      exact congrArg (fun s => f (Sys.world s)) h
    rw [exec_bind, exec_bind, exec_world, exec_world]
    dsimp only
    rw [hw]
    exact (hb _).observed h
  · rw [exec_bind, exec_world]
    exact (hb _).quiet s

/-- Changing the world in a way that commutes with observing it, up to what is not observed. -/
theorem modifyWorld {g : World → World} (hg : ∀ w, (g w.observed).observed = (g w).observed)
    (hq : ∀ w, Quiet w (g w)) : Blind (σ := σ) (Act.modifyWorld g) := by
  refine ⟨fun s s' h => ?_, fun s => hq s.world⟩
  rw [exec_modifyWorld, exec_modifyWorld]
  exact ⟨rfl, Sys.observed_modifyWorld hg h⟩

theorem modifyHost (f : σ → σ) : Blind (Act.modifyHost f) := by
  refine ⟨fun s s' h => ⟨rfl, ?_⟩, fun s => .refl s.world⟩
  obtain ⟨hh, hw⟩ := Sys.observed_eq_iff.mp h
  rw [exec_modifyHost, exec_modifyHost]
  exact Sys.observed_eq_iff.mpr ⟨by rw [hh], hw⟩

theorem database (x : Database.Step α) : Blind (σ := σ) (Act.database x) := by
  refine ⟨fun s s' h => ?_, fun s => by rw [exec_database]; exact ⟨rfl, rfl, rfl, rfl, rfl⟩⟩
  have hdb : s.world.db = s'.world.db := by
    have hw := congrArg (fun s => (Sys.world s).db) h
    exact hw
  rw [exec_database, exec_database, hdb]
  generalize ((x.run).run s'.world.db).2 = d
  have hg := World.observed_of_commutes (g := fun w => { w with db := d }) fun _ => rfl
  exact ⟨rfl, Sys.observed_modifyWorld (g := fun w => { w with db := d }) hg h⟩

theorem ofRun {x : Run σ α} (hx : Run.Blind x) : Blind (Act.ofRun x) := by
  refine ⟨fun s s' h => ?_, fun s => hx.quiet s⟩
  obtain ⟨hr, hs⟩ := hx.observed h
  rw [exec_ofRun, exec_ofRun, hr]
  exact ⟨rfl, hs⟩

theorem ite {c : Prop} [Decidable c] {x y : Act σ α} (hx : Blind x) (hy : Blind y) :
    Blind (if c then x else y) := by
  split
  · exact hx
  · exact hy

theorem forM {l : List γ} {f : γ → Act σ PUnit} (hf : ∀ a, Blind (f a)) : Blind (l.forM f) := by
  induction l with
  | nil => exact pure _
  | cons a l ih => exact bind (hf a) fun _ => ih

/-- Changing the world in a way that commutes with observing it. -/
theorem change {g : World → World} (hg : ∀ w, g w.observed = (g w).observed) (hq : ∀ w, Quiet w (g w)) :
    Blind (σ := σ) (Act.modifyWorld g) :=
  modifyWorld (World.observed_of_commutes hg) hq

/-- Reading an execution scope, where what follows does not look at its token. -/
theorem exec {e : Nat} {k : ExecState → Act σ α} (hk : ∀ x, k x.untokened = k x) (hb : ∀ x, Blind (k x)) :
    Blind (Exec.get e >>= k) := by
  have hrun : ∀ s : Sys σ, Act.exec (Exec.get e >>= k) s = Act.exec (k (s.world.exec e).untokened) s := by
    intro s
    simp only [Exec.get, exec_bind, exec_world, exec_pure, hk]
  refine ⟨fun s s' h => ?_, fun s => ?_⟩
  · have hx : (s.world.exec e).untokened = (s'.world.exec e).untokened := by
      rw [← World.observed_exec, ← World.observed_exec]
      exact congrArg (fun s => (Sys.world s).exec e) h
    rw [hrun, hrun, hx]
    exact (hb _).observed h
  · rw [hrun]
    exact (hb _).quiet s

end Blind

end Act

/-! ### The host program's hooks -/

/-- Hooks blind to waiting: the host program's interceptors and listeners do not look at the
cancellation tokens or at the thread of an execution, and leave both alone. -/
structure Hooks.Blind (h : Hooks σ) : Prop where
  guard : ∀ k g, Act.Blind (h.guard k g)
  enlist : ∀ k p, Act.Blind (h.enlist k p)
  failed : ∀ k a e, Run.Blind (h.failed k a e)
  notice : ∀ k n, Run.Blind (h.notice k n)
  listen : ∀ k, Act.Blind (h.listen k)

theorem Hooks.quiet_blind : Hooks.Blind (Hooks.quiet (σ := σ)) where
  guard _ _ := .pure _
  enlist _ _ := .pure _
  failed _ _ e := .pure e
  notice _ _ := .pure _
  listen _ := .pure _

/-! ### Operations that do not wait -/

section Operations

open Act

variable {α : Type} {h : Hooks σ}

/-- Changes to contexts, units of work, observers, factories and providers commute with
observing the world and are quiet. -/
theorem Quiet.of_tables {w w' : World} (ht : w'.tokens = w.tokens) (hs : w'.spawned = w.spawned)
    (hth : w'.thread = w.thread) (hf : w'.flow = w.flow) (hn : w'.nodes = w.nodes) : Quiet w w' :=
  ⟨ht, hs, hth, hf, hn⟩

theorem Context.interceptorsNow_blind (c : Nat) : Blind (σ := σ) (Context.interceptorsNow c) :=
  .read (fun _ => rfl) fun _ => .pure _

theorem Context.modify_blind (c : Nat) (f : ContextState → ContextState) :
    Blind (σ := σ) (Context.modify c f) :=
  .change (fun _ => rfl) fun _ => ⟨rfl, rfl, rfl, rfl, rfl⟩

theorem Context.probe_blind (c : Nat) : Blind (σ := σ) (Context.probe c) :=
  .read (fun _ => rfl) fun _ => .pure _

theorem Context.currentTxn_blind (c : Nat) : Blind (σ := σ) (Context.currentTxn c) :=
  .read (fun _ => rfl) fun _ => .pure _

theorem Context.hasTxn_blind (c : Nat) : Blind (σ := σ) (Context.hasTxn c) :=
  .read (fun _ => rfl) fun _ => .pure _

theorem Context.hasPending_blind (c : Nat) : Blind (σ := σ) (Context.hasPending c) :=
  .read (fun _ => rfl) fun _ => .pure _

theorem Context.onTracker_blind (c : Nat) (f : Tracker → Except Fault (Tracker × α)) :
    Blind (σ := σ) (Context.onTracker c f) :=
  .read (fun _ => rfl) fun _ => .bind (.ofExcept _) fun _ => .bind (Context.modify_blind _ _) fun _ => .pure _

theorem Context.modifyUntracked_blind (c : Nat) (k : Key) (v : Value) :
    Blind (σ := σ) (Context.modifyUntracked c k v) :=
  Context.onTracker_blind c _

theorem Context.clearTracked_blind (c : Nat) : Blind (σ := σ) (Context.clearTracked c) :=
  Context.modify_blind c _

/-- Closing the connection rolls back its transaction in the database. -/
theorem Context.close_blind (c : Nat) : Blind (σ := σ) (Context.close c) := by
  refine .read (fun _ => rfl) fun w => .bind (Context.modify_blind _ _) fun _ => ?_
  split
  · exact .database _
  · exact .pure _

theorem Context.addInterceptor_blind (c : Nat) (i : Interceptor) :
    Blind (σ := σ) (Context.addInterceptor c i) := by
  refine .read (fun _ => rfl) fun _ => ?_
  dsimp only
  exact .ite (.bind (.throw _) fun _ => Context.modify_blind _ _) (Context.modify_blind _ _)

theorem Context.removeInterceptor_blind (c : Nat) (i : Interceptor) :
    Blind (σ := σ) (Context.removeInterceptor c i) :=
  Context.modify_blind c _

theorem Context.create_blind : Blind (σ := σ) Context.create :=
  .read (fun _ => rfl) fun _ => .bind (.change (fun _ => rfl) fun _ => ⟨rfl, rfl, rfl, rfl, rfl⟩) fun _ => .pure _

theorem Context.takeTxn_blind (c : Nat) : Blind (σ := σ) (Context.takeTxn c) :=
  .bind (Context.currentTxn_blind c) fun
    | some _ => .bind (Context.modify_blind _ _) fun _ => .pure _
    | none => .throw _

theorem Context.writeChanges_blind (c : Nat) (cs : List Change) :
    Blind (σ := σ) (Context.writeChanges c cs) :=
  .bind (Context.currentTxn_blind c) fun
    | some _ => .database _
    | none => .bind (.database _) fun _ => .bind (.outcome (.database _)) fun
      | .ok _ => .bind (.database _) fun _ => .pure _
      | .error _ => .bind (.database _) fun _ => .throw _

theorem Context.flush_blind (c : Nat) : Blind (σ := σ) (Context.flush c) := by
  refine .read (fun _ => rfl) fun _ => ?_
  dsimp only
  exact .ite (.pure _) (.bind (Context.writeChanges_blind c _) fun _ =>
    .bind (Context.modify_blind _ _) fun _ => .pure _)

theorem Context.view_blind (c : Nat) : Blind (σ := σ) (Context.view c) :=
  .bind (Context.currentTxn_blind c) fun _ => .database _

theorem Factory.create_blind (f : Nat) : Blind (σ := σ) (Factory.create f) := by
  have count : ∀ fa, Blind (σ := σ) (Act.modifyWorld fun w => w.setFactory f fa) :=
    fun _ => .change (fun _ => rfl) fun _ => ⟨rfl, rfl, rfl, rfl, rfl⟩
  refine .read (fun _ => rfl) fun _ => ?_
  dsimp only
  split
  · exact .bind (count _) fun _ => .throw _
  · exact .bind (count _) fun _ => Context.create_blind

theorem UnitOfWork.get_blind (u : Nat) : Blind (σ := σ) (UnitOfWork.get u) :=
  .read (fun _ => rfl) fun _ => .pure _

theorem UnitOfWork.modify_blind (u : Nat) (f : UnitState → UnitState) :
    Blind (σ := σ) (UnitOfWork.modify u f) :=
  .change (fun _ => rfl) fun _ => ⟨rfl, rfl, rfl, rfl, rfl⟩

theorem UnitOfWork.new_blind (f : Nat) (options : Options) : Blind (σ := σ) (UnitOfWork.new f options) :=
  .read (fun _ => rfl) fun _ => .bind (.change (fun _ => rfl) fun _ => ⟨rfl, rfl, rfl, rfl, rfl⟩) fun _ => .pure _

theorem UnitOfWork.acquire_blind (u : Nat) : Blind (σ := σ) (UnitOfWork.acquire u) := by
  refine .bind (UnitOfWork.get_blind u) fun _ => ?_
  split
  · exact UnitOfWork.modify_blind u _
  · exact .throw _
  · exact .throw _

theorem UnitOfWork.locked_blind (u : Nat) {body : Act σ α} (hb : Blind body) :
    Blind (UnitOfWork.locked u body) :=
  .bind (UnitOfWork.acquire_blind u) fun _ => .bind (.outcome hb) fun _ =>
    .bind (UnitOfWork.modify_blind u _) fun _ => .ofExcept _

theorem UnitOfWork.context_blind (u : Nat) : Blind (σ := σ) (UnitOfWork.context u) := by
  refine .bind (UnitOfWork.get_blind u) fun _ => ?_
  split
  · exact .pure _
  · refine UnitOfWork.locked_blind u (.bind (UnitOfWork.get_blind u) fun _ => ?_)
    split
    · exact .pure _
    · exact .bind (UnitOfWork.get_blind u) fun _ => .bind (Factory.create_blind _) fun _ =>
        .bind (UnitOfWork.modify_blind u _) fun _ => .pure _

theorem UnitOfWork.modifyObserver_blind (o : Nat) (f : ObserverState → ObserverState) :
    Blind (σ := σ) (UnitOfWork.modifyObserver o f) :=
  .change (fun _ => rfl) fun _ => ⟨rfl, rfl, rfl, rfl, rfl⟩

theorem UnitOfWork.observer_blind (u : Nat) : Blind (σ := σ) (UnitOfWork.observer u) := by
  refine .bind (UnitOfWork.get_blind u) fun _ => ?_
  split
  · exact .pure _
  · refine .bind (UnitOfWork.context_blind u) fun c =>
      UnitOfWork.locked_blind u (.bind (UnitOfWork.get_blind u) fun _ => ?_)
    split
    · exact .pure _
    · refine .bind (UnitOfWork.get_blind u) fun _ => .read (fun _ => rfl) fun _ => ?_
      refine .bind (.outcome (Context.addInterceptor_blind c _)) fun
        | .error _ => .throw _
        | .ok () => ?_
      exact .bind (.change (fun _ => rfl) fun _ => ⟨rfl, rfl, rfl, rfl, rfl⟩) fun _ =>
        .bind (UnitOfWork.modify_blind u _) fun _ => .pure _

theorem UnitOfWork.promote_blind (u : Nat) (target : UnitMode) :
    Blind (σ := σ) (UnitOfWork.promote u target) := by
  have change : Blind (σ := σ) (do
      let m ← Act.ofExcept ((← UnitOfWork.get u).mode.transition target)
      UnitOfWork.modify u fun x => { x with mode := m }) :=
    .bind (UnitOfWork.get_blind u) fun _ => .bind (.ofExcept _) fun _ => UnitOfWork.modify_blind u _
  refine .bind (.bind (UnitOfWork.get_blind u) fun _ => .pure _) fun disposed => ?_
  cases disposed with
  | false => exact change
  | true => exact .bind (.throw _) fun _ => change

theorem UnitOfWork.mode_blind (u : Nat) : Blind (σ := σ) (UnitOfWork.mode u) :=
  .bind (UnitOfWork.get_blind u) fun _ => .pure _

theorem UnitOfWork.isolation_blind (u : Nat) : Blind (σ := σ) (UnitOfWork.isolation u) :=
  .bind (UnitOfWork.get_blind u) fun _ => .pure _

theorem UnitOfWork.enableAutoFlush_blind (u : Nat) : Blind (σ := σ) (UnitOfWork.enableAutoFlush u) :=
  .bind (UnitOfWork.observer_blind u) fun o => UnitOfWork.modifyObserver_blind o _

theorem UnitOfWork.invalidate_blind (u : Nat) : Blind (σ := σ) (UnitOfWork.invalidate u) :=
  .bind (UnitOfWork.observer_blind u) fun o => UnitOfWork.modifyObserver_blind o _

theorem UnitOfWork.undoInvalidation_blind (u : Nat) : Blind (σ := σ) (UnitOfWork.undoInvalidation u) :=
  .bind (UnitOfWork.observer_blind u) fun o => UnitOfWork.modifyObserver_blind o _

/-- The count of external transactions is that of the current chain, whichever it is. -/
theorem UnitOfWork.ensureNoExternal_blind : Blind (σ := σ) UnitOfWork.ensureNoExternal :=
  .read (fun _ => rfl) fun _ => .ite (.throw _) (.pure _)

theorem UnitOfWork.prepareRoot_blind (u : Nat) : Blind (σ := σ) (UnitOfWork.prepareRoot u) :=
  .bind (UnitOfWork.promote_blind u _) fun _ => .bind (UnitOfWork.observer_blind u) fun _ =>
    .bind (UnitOfWork.enableAutoFlush_blind u) fun _ => UnitOfWork.context_blind u

theorem UnitOfWork.resetAfterFailure_blind (u c : Nat) :
    Blind (σ := σ) (UnitOfWork.resetAfterFailure u c) :=
  .bind (Context.clearTracked_blind c) fun _ =>
    .bind (.outcome (.bind (UnitOfWork.observer_blind u) fun o => UnitOfWork.modifyObserver_blind o _)) fun _ =>
    .bind (.outcome (Context.close_blind c)) fun _ =>
    .bind (.outcome (UnitOfWork.undoInvalidation_blind u)) fun _ => .pure _

theorem Provider.shouldFail_blind (p u : Nat) : Blind (σ := σ) (Provider.shouldFail p u) := by
  refine .read (fun _ => rfl) fun _ => ?_
  dsimp only
  split
  · exact .pure _
  · exact .ite (.pure _) (.bind (.change (fun _ => rfl) fun _ => ⟨rfl, rfl, rfl, rfl, rfl⟩) fun _ => .pure _)

theorem Ambient.current_blind (kind : String) : Blind (σ := σ) (Ambient.current kind) :=
  .read (fun _ => rfl) fun _ => .pure _

/-! Execution scopes are observed without their tokens. -/

theorem Exec.modify_blind (e : Nat) {f : ExecState → ExecState}
    (hf : ∀ x, (f x.untokened).untokened = (f x).untokened) : Blind (σ := σ) (Exec.modify e f) := by
  refine .modifyWorld (fun w => ?_) fun _ => ⟨rfl, rfl, rfl, rfl, rfl⟩
  rw [World.observed_setExec, World.observed_setExec, World.observed_observed, World.observed_exec, hf]

theorem Exec.abort_blind (e : Nat) : Blind (σ := σ) (Exec.abort e) :=
  Exec.modify_blind e fun _ => rfl

theorem Exec.isCompleted_blind (e : Nat) : Blind (σ := σ) (Exec.isCompleted e) :=
  .exec (fun _ => rfl) fun _ => .pure _

theorem Exec.create_blind (u c : Nat) (nested : Bool) (token : Nat) :
    Blind (σ := σ) (Exec.create u c nested token) := by
  refine .read (fun w => by simp [World.observed]) fun _ => .bind (.modifyWorld (fun w => ?_)
    fun _ => ⟨rfl, rfl, rfl, rfl, rfl⟩) fun _ => .pure _
  simp [World.observed, Array.map_map, Function.comp_def]

section Hooked

variable (hh : Hooks.Blind h)
include hh

theorem Context.notifyOne_blind (n : Notice) (i : Interceptor) : Run.Blind (Context.notifyOne h n i) := by
  cases i with
  | observer o =>
    exact Run.Blind.change (g := fun w => w.setObserver o ((w.observer o).noticed n)) (fun _ => rfl)
      fun _ => ⟨rfl, rfl, rfl, rfl, rfl⟩
  | host k => exact hh.notice k n

theorem Context.notifyEach_blind (c : Nat) (ns : List Notice) : Blind (Context.notifyEach h c ns) :=
  .bind (Context.interceptorsNow_blind c) fun _ =>
    .ofRun (Run.Blind.forM fun i => Run.Blind.forM fun n => Context.notifyOne_blind hh n i)

theorem Context.add_blind (c : Nat) (k : Key) (v : Value) : Blind (Context.add h c k v) :=
  .bind (Context.onTracker_blind c _) fun _ => Context.notifyEach_blind hh c _

theorem Context.update_blind (c : Nat) (k : Key) (v : Value) : Blind (Context.update h c k v) :=
  .bind (Context.onTracker_blind c _) fun _ => Context.notifyEach_blind hh c _

theorem Context.remove_blind (c : Nat) (k : Key) : Blind (Context.remove h c k) :=
  .bind (Context.onTracker_blind c _) fun _ => Context.notifyEach_blind hh c _

theorem Observer.guard_blind (o : Nat) (listeners : ObserverState → List Nat) :
    Blind (Observer.guard h o listeners) := by
  refine .read (fun _ => rfl) fun _ => ?_
  dsimp only
  exact .ite (.bind (.throw _) fun _ => .forM hh.listen) (.forM hh.listen)

theorem Context.guardEach_blind (c : Nat) (g : Guard) {onObserver : Nat → Act σ Unit}
    (ho : ∀ o, Blind (onObserver o)) : Blind (Context.guardEach h c g onObserver) :=
  .bind (Context.interceptorsNow_blind c) fun _ => .forM fun
    | .observer o => ho o
    | .host k => hh.guard k g

/-- The fault reported for a failed transaction operation, once every interceptor had its say. -/
theorem Context.failedThrough_blind (c : Nat) (a : TxnAction) (e : Fault) :
    Blind (Context.failedThrough h c a e) :=
  .bind (Context.interceptorsNow_blind c) fun _ => .ofRun (Run.Blind.foldlM (fun e i => by
    cases i with
    | observer o => exact Run.Blind.read (fun _ => rfl) fun _ => .pure _
    | host k => exact hh.failed k a e) e)

theorem Context.beforeCommand_blind (c : Nat) : Blind (Context.beforeCommand h c) :=
  Context.guardEach_blind hh c _ fun o => Observer.guard_blind hh o _

theorem Context.readEntity_blind (c : Nat) (k : Key) : Blind (Context.readEntity h c k) := by
  refine .bind (Context.view_blind c) fun _ => .read (fun _ => rfl) fun _ => ?_
  split
  · exact .pure _
  · split
    · exact .pure _
    · exact .bind (Context.onTracker_blind c _) fun _ => .bind (Context.notifyEach_blind hh c _) fun _ => .pure _

end Hooked

end Operations

end ScopedWork
