import ScopedWork.Proofs.Root.AllOrNothing

/-!
# A rejected execution changes nothing

Scoped execution rejects a run before its work starts when an external transaction is open,
when it refuses nesting while a unit of work is ambient, when it would join a unit of work
driven by hand, and, for a root, when the factory refuses to create the new unit's context,
when the database refuses the unit's observer, or, asynchronously, when the token is
cancelled already (`Rejects`).

Each rejection happens at its own stage: before the scope exists, while opening it, after it
joined a unit, or after a new unit was made and partly prepared. The cleanup that follows
differs with the stage, and none of it reaches what was there before. Three facts carry the
proof:

* an entry pushed onto the ambient chain and deactivated again changes no ambient value
  (`World.Popped`);
* with its token cancelled, every strategy stops before its first attempt
  (`Strategy.run_cancelled`);
* preparing and disposing a unit of work made during the execution touches only what was
  made during it, and begins no transaction (`Spared`).

Main statement: whatever the work, a rejected execution fails without running it, and leaves
the host program's state, the database, every unit of work, context and observer that
existed, and the ambient value of every type as they were (`Unmoved`); the contexts it made
hold no transaction.
-/

namespace ScopedWork

open Act

variable {σ : Type}

/-! ### The chain -/

namespace Chain

variable {nodes : Array Node}

theorem Older.push (ho : Older nodes) {n : Node} (hn : Below n.parent nodes.size) :
    Older (nodes.push n) := by
  intro i p hp
  rw [World.getD_push] at hp
  split at hp
  · subst i
    exact hn p hp
  · exact ho i p hp

theorem Older.dispose (ho : Older nodes) (i : Nat) :
    Older (nodes.modify i fun x => { x with disposed := true }) := by
  intro j p hp
  rw [World.getD_modify_view _ _ _ _ _ Node.parent rfl] at hp
  exact ho j p hp

/-- Popping the dead entries off a chain changes no ambient value. -/
theorem current_popDead (ho : Older nodes) {c : Chain} (hb : Below c.head nodes.size)
    (kind : String) : (c.popDead nodes).current nodes kind = c.current nodes kind := by
  simp only [current, popDead, live, findFrom_eq_find?, liveList_liveFrom ho _ _ hb]

/-- A lookup passes a deactivated entry by, on to its parent. -/
theorem current_disposed_head (ho : Older nodes) {c : Chain} {i : Nat} (hi : i < nodes.size)
    (hd : (nodes[i]?.getD default).disposed = true) (kind : String) :
    { c with head := some i }.current nodes kind =
      { c with head := (nodes[i]?.getD default).parent }.current nodes kind := by
  obtain ⟨k, hk⟩ : ∃ k, nodes.size = k + 1 := ⟨nodes.size - 1, by omega⟩
  have hp : Below (nodes[i]?.getD default).parent k := Below.parent ho (hk ▸ hi)
  simp only [current, hk, findFrom_succ_some, hd, Bool.not_true, Bool.false_and, Bool.false_eq_true,
    if_false]
  rw [findFrom_fuel ho kind hp fun j hj => Nat.lt_succ_of_lt (hp j hj)]

end Chain

namespace World

/-- What a rejected execution leaves of the ambient chains: the chains as they were, or with
one more entry, pushed on the current chain and deactivated again. -/
def Popped (w w' : World) : Prop :=
  w'.chains = w.chains ∨ ∃ kind v, w'.chains = ((w.pushEntry kind v).deactivated w.nodes.size).chains

theorem chains_deactivated {w w' : World} (h : w'.chains = w.chains) (n : Nat) :
    (w'.deactivated n).chains = (w.deactivated n).chains := by
  simp only [chains, Prod.mk.injEq] at h
  obtain ⟨hn, ht, hf⟩ := h
  simp only [chains, deactivated, setChain, chain, hn, ht, hf]
  split <;> rfl

theorem current_of_chains {w w' : World} (h : w'.chains = w.chains) (kind : String) :
    w'.chain.current w'.nodes kind = w.chain.current w.nodes kind := by
  simp only [chains, Prod.mk.injEq] at h
  obtain ⟨hn, ht, hf⟩ := h
  simp only [chain_eq, hn, ht, hf]

/-- Parents stay older when an entry is pushed on the current chain and deactivated again. -/
theorem older_pushEntry_deactivated {w : World} (ho : Chain.Older w.nodes)
    (hb : Chain.Below w.chain.head w.nodes.size) (kind : String) (v : Nat) :
    Chain.Older ((w.pushEntry kind v).deactivated w.nodes.size).nodes := by
  rw [deactivated_nodes, pushEntry_nodes]
  exact (ho.push hb).dispose _

/-- The entries there were stay as they were when one is pushed and deactivated again. -/
theorem getElem?_pushEntry_deactivated (w : World) (kind : String) (v : Nat) {i : Nat}
    (hi : i < w.nodes.size) :
    ((w.pushEntry kind v).deactivated w.nodes.size).nodes[i]? = w.nodes[i]? := by
  rw [deactivated_nodes, Array.getElem?_modify, if_neg (Nat.ne_of_gt hi)]
  simp [Array.getElem?_push, Nat.ne_of_lt hi]

/-- An entry pushed and deactivated again changes no ambient value: the lookup passes it by
and walks on over the entries that were there. -/
theorem current_pushEntry_deactivated {w : World} (ho : Chain.Older w.nodes)
    (hb : Chain.Below w.chain.head w.nodes.size) (kind : String) (v : Nat) (k : String) :
    ((w.pushEntry kind v).deactivated w.nodes.size).chain.current
      ((w.pushEntry kind v).deactivated w.nodes.size).nodes k = w.chain.current w.nodes k := by
  have hnodes' := older_pushEntry_deactivated ho hb kind v
  rw [deactivated_nodes] at hnodes'
  have hlt : w.nodes.size < (w.pushEntry kind v).nodes.size := by simp
  have hnew : ((w.pushEntry kind v).nodes.modify w.nodes.size
      fun x => { x with disposed := true })[w.nodes.size]?.getD default =
        { kind, value := v, parent := w.chain.head, disposed := true } := by
    rw [getD_modify_of_lt _ _ _ hlt, if_pos rfl, pushEntry_nodes, getD_push, if_pos rfl]
  simp only [deactivated, chain_eq, chain_setChain, setChain_nodes]
  rw [Chain.current_popDead hnodes' (by simp [pushEntry, Chain.Below]),
    show (w.pushEntry kind v).flow.getD (w.pushEntry kind v).thread =
      { w.chain with head := some w.nodes.size } by simp [pushEntry],
    Chain.current_disposed_head hnodes' (by simp) (by rw [hnew]) k, hnew]
  exact Chain.current_extend ho hnodes' (fun i hi => by
    simpa using getElem?_pushEntry_deactivated w kind v hi) (by simp) hb k

/-- So a rejected execution leaves the ambient value of every type as it was. -/
theorem Popped.current {w w' : World} (h : Popped w w') (ho : Chain.Older w.nodes)
    (hb : Chain.Below w.chain.head w.nodes.size) (k : String) :
    w'.chain.current w'.nodes k = w.chain.current w.nodes k := by
  rcases h with h | ⟨kind, v, h⟩
  · exact current_of_chains h k
  · rw [current_of_chains h k]
    exact current_pushEntry_deactivated ho hb kind v k

/-- A rejected execution run in a flow of its own, started from the thread, leaves the
thread's chain with the ambient value of every type as it was, once the flow is dropped: what
the flow pushed went on its copy of the chain. -/
theorem Popped.current_dropFlow {w w' : World} (hf : w.flow = none)
    (h : Popped { w with flow := some w.thread } w') (ho : Chain.Older w.nodes)
    (hb : Chain.Below w.chain.head w.nodes.size) (k : String) :
    ({ w' with flow := none } : World).chain.current w'.nodes k = w.chain.current w.nodes k := by
  have hchain : w.chain = w.thread := by simp [hf]
  rw [hchain] at hb ⊢
  rcases h with h | ⟨kind, v, h⟩
  · simp only [chains, Prod.mk.injEq] at h
    obtain ⟨hn, ht, -⟩ := h
    simp [hn, ht]
  · simp only [chains, Prod.mk.injEq] at h
    obtain ⟨hn, ht, -⟩ := h
    have hb₁ : Chain.Below ({ w with flow := some w.thread } : World).chain.head w.nodes.size := by
      simpa using hb
    have hthread : w'.thread = w.thread := by
      rw [ht, deactivated_thread_of_flow (by simp), pushEntry_thread_of_flow (by simp)]
    simp only [chain_eq, Option.getD_none, hthread, hn]
    exact Chain.current_extend ho
      (older_pushEntry_deactivated (w := { w with flow := some w.thread }) ho hb₁ kind v)
      (fun i hi => getElem?_pushEntry_deactivated _ kind v hi) (by simp) hb k

end World

/-! ### Strategies under a cancelled token -/

namespace Strategy

variable {α : Type} {s : Sys σ}

/-- With its token cancelled already, a strategy stops before its first attempt: it reports
the cancellation and leaves the state as it was. The conflict decorator passes the
cancellation on, since a cancellation is no conflict. -/
theorem run_cancelled (waiting : Waiting (Act σ)) (attempt : Act σ (Except Fault α))
    (hc : exec waiting.cancelled s = (.ok true, s)) :
    ∀ (strategy : Strategy) (counts : List Nat), ∃ counts',
      exec (run (some waiting) attempt strategy counts) s = (.ok (.error .cancelled, counts'), s)
  | once, counts => ⟨counts, by simp [run, cancelledNow, hc]⟩
  | transient p, counts => ⟨counts, by
    simp only [run]
    cases p.maxRetries <;> simp [retryTransient, cancelledNow, hc]⟩
  | onConflict inner, counts => by
    obtain ⟨inner', h⟩ := run_cancelled waiting attempt hc inner counts.tail
    have hconf : Fault.isConflict .cancelled = false := rfl
    simp only [run]
    cases conflictRetries - counts.headD 0 <;>
      exact ⟨counts.headD 0 :: inner', by simp [retryConflicts, h, hconf]⟩

end Strategy

/-! ### What a unit of work made during the execution touches -/

namespace UnitState

/-- The unit's context and observer, if it has them, have ids from `cs` and `os` on. -/
def Beyond (cs os : Nat) (x : UnitState) : Prop :=
  (∀ c, x.context = some c → cs ≤ c) ∧ ∀ o, x.observer = some o → os ≤ o

theorem beyond_default (cs os : Nat) : (default : UnitState).Beyond cs os :=
  ⟨fun _ h => (nomatch h), fun _ h => (nomatch h)⟩

/-- A new unit has neither context nor observer. -/
theorem beyond_new (cs os f : Nat) (o : Options) :
    ({ factory := f, options := o } : UnitState).Beyond cs os :=
  ⟨fun _ h => (nomatch h), fun _ h => (nomatch h)⟩

end UnitState

/-- Everything of the world but its units, contexts, observers and factories. -/
def World.rest (w : World) : World :=
  { w with units := #[], contexts := #[], observers := #[], factories := #[] }

theorem World.chains_of_rest {w w' : World} (h : w'.rest = w.rest) : w'.chains = w.chains :=
  congrArg (fun w => w.chains) h

/-- What preparing and disposing units of work made after `w₀` leave of `w₀`: the database,
and every unit, context and observer of `w₀` as they were. The contexts made since hold no
transaction, and the units made since use only contexts and observers made since. -/
structure Spared (w₀ w : World) : Prop where
  db : w.db = w₀.db
  units_size : w₀.units.size ≤ w.units.size
  units : ∀ u < w₀.units.size, w.units[u]? = w₀.units[u]?
  contexts_size : w₀.contexts.size ≤ w.contexts.size
  contexts : ∀ c < w₀.contexts.size, w.contexts[c]? = w₀.contexts[c]?
  observers_size : w₀.observers.size ≤ w.observers.size
  observers : ∀ o < w₀.observers.size, w.observers[o]? = w₀.observers[o]?
  idle : ∀ c, w₀.contexts.size ≤ c → (w.contexts[c]?.getD default).txn = none
  beyond : ∀ u, w₀.units.size ≤ u →
    (w.units[u]?.getD default).Beyond w₀.contexts.size w₀.observers.size

namespace Spared

variable {w₀ w : World}

theorem refl (w : World) : Spared w w where
  db := rfl
  units_size := Nat.le_refl _
  units _ _ := rfl
  contexts_size := Nat.le_refl _
  contexts _ _ := rfl
  observers_size := Nat.le_refl _
  observers _ _ := rfl
  idle c hc := by rw [Array.getElem?_eq_none hc]; rfl
  beyond u hu := by
    rw [Array.getElem?_eq_none hu]
    exact UnitState.beyond_default _ _

/-- A step that changes none of the tables `Spared` looks at. -/
theorem of_tables {w' : World} (hs : Spared w₀ w) (hdb : w'.db = w.db) (hu : w'.units = w.units)
    (hc : w'.contexts = w.contexts) (ho : w'.observers = w.observers) : Spared w₀ w' := by
  rcases hs with ⟨h₁, h₂, h₃, h₄, h₅, h₆, h₇, h₈, h₉⟩
  exact ⟨hdb.trans h₁, hu ▸ h₂, hu ▸ h₃, hc ▸ h₄, hc ▸ h₅, ho ▸ h₆, ho ▸ h₇, hc ▸ h₈, hu ▸ h₉⟩

/-- A unit made since may change, as long as it keeps to what was made since. -/
theorem modifyUnit (hs : Spared w₀ w) {u : Nat} (hu : w₀.units.size ≤ u) {x : UnitState}
    (hx : x.Beyond w₀.contexts.size w₀.observers.size) :
    Spared w₀ { w with units := w.units.modify u fun _ => x } := by
  refine ⟨hs.db, by simpa using hs.units_size, fun v hv => ?_, hs.contexts_size, hs.contexts,
    hs.observers_size, hs.observers, hs.idle, fun v hv => ?_⟩
  · rw [Array.getElem?_modify, if_neg (by omega)]
    exact hs.units v hv
  · rw [Array.getElem?_modify]
    split
    · cases w.units[v]? with
      | none => exact UnitState.beyond_default _ _
      | some _ => exact hx
    · exact hs.beyond v hv

theorem pushUnit (hs : Spared w₀ w) {x : UnitState}
    (hx : x.Beyond w₀.contexts.size w₀.observers.size) :
    Spared w₀ { w with units := w.units.push x } := by
  refine ⟨hs.db, by simpa using Nat.le_succ_of_le hs.units_size, fun v hv => ?_, hs.contexts_size,
    hs.contexts, hs.observers_size, hs.observers, hs.idle, fun v hv => ?_⟩
  · rw [Array.getElem?_push, if_neg (by have := hs.units_size; omega)]
    exact hs.units v hv
  · dsimp only
    rw [World.getD_push]
    split
    · exact hx
    · exact hs.beyond v hv

/-- A context made since may change, as long as it holds no transaction. -/
theorem modifyContext (hs : Spared w₀ w) {c : Nat} (hc : w₀.contexts.size ≤ c) {x : ContextState}
    (hx : x.txn = none) : Spared w₀ { w with contexts := w.contexts.modify c fun _ => x } := by
  refine ⟨hs.db, hs.units_size, hs.units, by simpa using hs.contexts_size, fun v hv => ?_,
    hs.observers_size, hs.observers, fun v hv => ?_, hs.beyond⟩
  · rw [Array.getElem?_modify, if_neg (by omega)]
    exact hs.contexts v hv
  · rw [Array.getElem?_modify]
    split
    · cases w.contexts[v]? with
      | none => rfl
      | some _ => exact hx
    · exact hs.idle v hv

theorem pushContext (hs : Spared w₀ w) {x : ContextState} (hx : x.txn = none) :
    Spared w₀ { w with contexts := w.contexts.push x } := by
  refine ⟨hs.db, hs.units_size, hs.units, by simpa using Nat.le_succ_of_le hs.contexts_size,
    fun v hv => ?_, hs.observers_size, hs.observers, fun v hv => ?_, hs.beyond⟩
  · rw [Array.getElem?_push, if_neg (by have := hs.contexts_size; omega)]
    exact hs.contexts v hv
  · dsimp only
    rw [World.getD_push]
    split
    · exact hx
    · exact hs.idle v hv

theorem modifyObserver (hs : Spared w₀ w) {o : Nat} (ho : w₀.observers.size ≤ o) (x : ObserverState) :
    Spared w₀ { w with observers := w.observers.modify o fun _ => x } := by
  refine ⟨hs.db, hs.units_size, hs.units, hs.contexts_size, hs.contexts, by simpa using hs.observers_size,
    fun v hv => ?_, hs.idle, hs.beyond⟩
  rw [Array.getElem?_modify, if_neg (by omega)]
  exact hs.observers v hv

theorem pushObserver (hs : Spared w₀ w) (x : ObserverState) :
    Spared w₀ { w with observers := w.observers.push x } := by
  refine ⟨hs.db, hs.units_size, hs.units, hs.contexts_size, hs.contexts,
    by simpa using Nat.le_succ_of_le hs.observers_size, fun v hv => ?_, hs.idle, hs.beyond⟩
  rw [Array.getElem?_push, if_neg (by have := hs.observers_size; omega)]
  exact hs.observers v hv

end Spared

/-- `Spared w₀ w`, with all of `w` but its units, contexts, observers and factories as in `r`:
what holds along the preparation and the disposal of a unit made after `w₀`. -/
def Confined (w₀ r w : World) : Prop := Spared w₀ w ∧ w.rest = r.rest

/-! ### Preparing and disposing a unit made during the execution -/

/-- What runs under a unit's lock and ends with a value took the lock first. -/
theorem UnitOfWork.locked_ok_of {α : Type} {u : Nat} {body : Act σ α} {s s' : Sys σ} {a : α}
    (hx : exec (UnitOfWork.locked u body) s = (.ok a, s')) :
    ∃ s₁ s₂, exec (UnitOfWork.acquire u) s = (.ok (), s₁) ∧ exec body s₁ = (.ok a, s₂) := by
  obtain ⟨_, s₁, hacq, hx⟩ := exec_bind_eq_ok hx
  obtain ⟨q, s₂, hbody, hx⟩ := exec_outcome_bind_eq hx
  obtain ⟨_, s₃, -, hx⟩ := exec_bind_eq_ok hx
  rw [exec_ofExcept] at hx
  obtain ⟨rfl, -⟩ := Prod.mk.inj hx
  exact ⟨s₁, s₂, hacq, hbody⟩

section Confined

variable {w₀ r : World} {u : Nat}

/-- A change of a unit made after `w₀` that keeps it to contexts and observers made after
`w₀`. -/
theorem UnitOfWork.modify_confined (hu : w₀.units.size ≤ u) {f : UnitState → UnitState}
    (hf : ∀ x, x.Beyond w₀.contexts.size w₀.observers.size →
      (f x).Beyond w₀.contexts.size w₀.observers.size) :
    Keeps (σ := σ) (Confined w₀ r) (UnitOfWork.modify u f) :=
  .modifyWorld fun w h => ⟨by
    rw [World.setUnit_eq, World.unit_eq]
    exact h.1.modifyUnit hu (hf _ (h.1.beyond u hu)), h.2⟩

theorem UnitOfWork.acquire_confined (hu : w₀.units.size ≤ u) :
    Keeps (σ := σ) (Confined w₀ r) (UnitOfWork.acquire u) := by
  refine .bind (UnitOfWork.get_keeps u) fun x => ?_
  split
  · exact UnitOfWork.modify_confined hu fun _ h => h
  · exact .throw _
  · exact .throw _

theorem UnitOfWork.locked_confined (hu : w₀.units.size ≤ u) {α : Type} {body : Act σ α}
    (hb : Keeps (Confined w₀ r) body) : Keeps (Confined w₀ r) (UnitOfWork.locked u body) :=
  .bind (UnitOfWork.acquire_confined hu) fun _ => .bind (.outcome hb) fun _ =>
    .bind (UnitOfWork.modify_confined hu fun _ h => h) fun _ => .ofExcept _

theorem Factory.create_confined (f : Nat) : Keeps (σ := σ) (Confined w₀ r) (Factory.create f) :=
  Factory.create_keeps_of (fun _ => .modifyWorld fun _ h => ⟨h.1.of_tables rfl rfl rfl rfl, h.2⟩)
    (.bind .world fun _ => .bind (.modifyWorld fun _ h => ⟨h.1.pushContext rfl, h.2⟩) fun _ => .pure _)

/-- A unit made after `w₀` gets a context made after `w₀`, if any. -/
theorem UnitOfWork.context_confined (hu : w₀.units.size ≤ u) :
    Keeps (σ := σ) (Confined w₀ r) (UnitOfWork.context u) := by
  refine .bind (UnitOfWork.get_keeps u) fun _ => ?_
  split
  · exact .pure _
  · refine UnitOfWork.locked_confined hu (.bind (UnitOfWork.get_keeps u) fun _ => ?_)
    split
    · exact .pure _
    · refine .bind (UnitOfWork.get_keeps u) fun _ =>
        .bind_of_ok (Factory.create_confined _) fun s _ c h hx => ?_
      have hc : w₀.contexts.size ≤ c := by
        rw [(Factory.create_ok hx).1]
        exact h.1.contexts_size
      exact .bind (UnitOfWork.modify_confined hu fun _ hb => ⟨fun _ h' => by cases h'; exact hc, hb.2⟩)
        fun _ => .pure _

/-- The context a unit made after `w₀` hands back was made after `w₀`. -/
theorem UnitOfWork.context_beyond (hu : w₀.units.size ≤ u) {s s' : Sys σ} {c : Nat}
    (hs : Spared w₀ s.world) (hx : exec (UnitOfWork.context u) s = (.ok c, s')) :
    w₀.contexts.size ≤ c := by
  simp only [UnitOfWork.context, UnitOfWork.get, exec_bind, exec_world, exec_pure] at hx
  split at hx
  · -- the unit's own context
    rename_i hc
    simp only [exec_pure, Prod.mk.injEq, Except.ok.injEq] at hx
    obtain ⟨rfl, -⟩ := hx
    exact (hs.beyond u hu).1 _ (by rwa [World.unit_eq] at hc)
  · -- one created under the lock
    obtain ⟨s₁, s₂, hacq, hbody⟩ := UnitOfWork.locked_ok_of hx
    have hs₁ : Spared w₀ s₁.world := (UnitOfWork.acquire_confined (r := s.world) hu ⟨hs, rfl⟩ hacq).1
    simp only [exec_bind, exec_world, exec_pure] at hbody
    split at hbody
    · rename_i hc
      simp only [exec_pure, Prod.mk.injEq, Except.ok.injEq] at hbody
      obtain ⟨rfl, -⟩ := hbody
      exact (hs₁.beyond u hu).1 _ (by rwa [World.unit_eq] at hc)
    · obtain ⟨_, s₃, hget, hbody⟩ := exec_bind_eq_ok hbody
      obtain ⟨c', s₄, hf, hbody⟩ := exec_bind_eq_ok hbody
      obtain ⟨_, s₅, -, hbody⟩ := exec_bind_eq_ok hbody
      simp only [exec_pure, Prod.mk.injEq, Except.ok.injEq] at hbody
      obtain ⟨rfl, -⟩ := hbody
      simp only [exec_bind, exec_world, exec_pure, Prod.mk.injEq] at hget
      rw [(Factory.create_ok hf).1, ← hget.2]
      exact hs₁.contexts_size

theorem Context.modify_confined {c : Nat} (hc : w₀.contexts.size ≤ c) {f : ContextState → ContextState}
    (hf : ∀ x : ContextState, x.txn = none → (f x).txn = none) :
    Keeps (σ := σ) (Confined w₀ r) (Context.modify c f) :=
  .modifyWorld fun w h => ⟨by
    rw [World.setContext_eq, World.context_eq]
    exact h.1.modifyContext hc (hf _ (h.1.idle c hc)), h.2⟩

theorem UnitOfWork.modifyObserver_confined {o : Nat} (ho : w₀.observers.size ≤ o)
    (f : ObserverState → ObserverState) :
    Keeps (σ := σ) (Confined w₀ r) (UnitOfWork.modifyObserver o f) :=
  .modifyWorld fun _ h => ⟨h.1.modifyObserver ho _, h.2⟩

theorem Context.addInterceptor_confined {c : Nat} (hc : w₀.contexts.size ≤ c) (i : Interceptor) :
    Keeps (σ := σ) (Confined w₀ r) (Context.addInterceptor c i) := by
  have add := Context.modify_confined (r := r) (σ := σ) hc
    (f := fun ctx => { ctx with interceptors := ctx.interceptors ++ [i] }) fun _ h => h
  refine .bind .world fun _ => ?_
  dsimp only
  exact .ite (.bind (.throw _) fun _ => add) add

/-- A unit made after `w₀` gets an observer made after `w₀`, attached to its new context. -/
theorem UnitOfWork.observer_confined (hu : w₀.units.size ≤ u) :
    Keeps (σ := σ) (Confined w₀ r) (UnitOfWork.observer u) := by
  refine .bind (UnitOfWork.get_keeps u) fun _ => ?_
  split
  · exact .pure _
  · refine .bind_of_ok (UnitOfWork.context_confined hu) fun s _ c h hx => ?_
    have hc := UnitOfWork.context_beyond hu h.1 hx
    refine UnitOfWork.locked_confined hu (.bind (UnitOfWork.get_keeps u) fun _ => ?_)
    split
    · exact .pure _
    · refine .bind (UnitOfWork.get_keeps u) fun _ => .bind_of_ok .world fun s₁ _ w₁ h₁ hw => ?_
      have ho : w₀.observers.size ≤ w₁.observers.size := by
        rw [exec_world, Prod.mk.injEq, Except.ok.injEq] at hw
        rw [← hw.1]
        exact h₁.1.observers_size
      refine .bind (.outcome (Context.addInterceptor_confined hc _)) fun q => ?_
      cases q with
      | error e => exact .throw _
      | ok _ =>
        exact .bind (.modifyWorld fun _ h => ⟨h.1.pushObserver _, h.2⟩) fun _ =>
          .bind (UnitOfWork.modify_confined hu fun _ hb => ⟨hb.1, fun _ h' => by cases h'; exact ho⟩)
            fun _ => .pure _

/-- The observer a unit made after `w₀` hands back was made after `w₀`. -/
theorem UnitOfWork.observer_beyond (hu : w₀.units.size ≤ u) {s s' : Sys σ} {o : Nat}
    (hs : Spared w₀ s.world) (hx : exec (UnitOfWork.observer u) s = (.ok o, s')) :
    w₀.observers.size ≤ o := by
  simp only [UnitOfWork.observer, UnitOfWork.get, exec_bind, exec_world, exec_pure] at hx
  split at hx
  · -- the unit's own observer
    rename_i ho
    simp only [exec_pure, Prod.mk.injEq, Except.ok.injEq] at hx
    obtain ⟨rfl, -⟩ := hx
    exact (hs.beyond u hu).2 _ (by rwa [World.unit_eq] at ho)
  · obtain ⟨c, s₁, hctx, hx⟩ := exec_bind_eq_ok hx
    have h₁ := UnitOfWork.context_confined (r := s.world) hu ⟨hs, rfl⟩ hctx
    obtain ⟨s₂, s₃, hacq, hbody⟩ := UnitOfWork.locked_ok_of hx
    have h₂ := UnitOfWork.acquire_confined hu h₁ hacq
    simp only [exec_bind, exec_world, exec_pure] at hbody
    split at hbody
    · rename_i ho
      simp only [exec_pure, Prod.mk.injEq, Except.ok.injEq] at hbody
      obtain ⟨rfl, -⟩ := hbody
      exact (h₂.1.beyond u hu).2 _ (by rwa [World.unit_eq] at ho)
    · -- a new observer: its id is the number of observers there were
      obtain ⟨_, s₄, hget, hbody⟩ := exec_bind_eq_ok hbody
      obtain ⟨w₅, s₅, hw, hbody⟩ := exec_bind_eq_ok hbody
      obtain ⟨q, s₆, -, hbody⟩ := exec_outcome_bind_eq hbody
      simp only [exec_bind, exec_world, exec_pure, Prod.mk.injEq] at hget hw
      cases q with
      | error e => simp at hbody
      | ok v =>
        obtain ⟨_, s₇, -, hbody⟩ := exec_bind_eq_ok hbody
        obtain ⟨_, s₈, -, hbody⟩ := exec_bind_eq_ok hbody
        simp only [exec_pure, Prod.mk.injEq, Except.ok.injEq] at hbody
        obtain ⟨rfl, -⟩ := hbody
        rw [← Except.ok.inj hw.1, ← hget.2]
        exact h₂.1.observers_size

theorem UnitOfWork.promote_confined (hu : w₀.units.size ≤ u) (target : UnitMode) :
    Keeps (σ := σ) (Confined w₀ r) (UnitOfWork.promote u target) := by
  have change : Keeps (σ := σ) (Confined w₀ r) (do
      let m ← Act.ofExcept ((← UnitOfWork.get u).mode.transition target)
      UnitOfWork.modify u fun x => { x with mode := m }) :=
    .bind (UnitOfWork.get_keeps u) fun _ => .bind (.ofExcept _) fun _ =>
      UnitOfWork.modify_confined hu fun _ h => h
  refine .bind (.bind (UnitOfWork.get_keeps u) fun _ => .pure _) fun disposed => ?_
  cases disposed with
  | false => exact change
  | true => exact .bind (.throw _) fun _ => change

/-- Preparing a unit made after `w₀` for a root execution, whether it succeeds or fails,
touches only what was made after `w₀`, and the units, contexts, observers and factories. -/
theorem UnitOfWork.prepareRoot_confined (hu : w₀.units.size ≤ u) :
    Keeps (σ := σ) (Confined w₀ r) (UnitOfWork.prepareRoot u) := by
  have flush : Keeps (σ := σ) (Confined w₀ r) (UnitOfWork.enableAutoFlush u) :=
    .bind_of_ok (UnitOfWork.observer_confined hu) fun _ _ _ h hx =>
      UnitOfWork.modifyObserver_confined (UnitOfWork.observer_beyond hu h.1 hx) _
  exact .bind (UnitOfWork.promote_confined hu _) fun _ => .bind (UnitOfWork.observer_confined hu) fun _ =>
    .bind flush fun _ => UnitOfWork.context_confined hu

/-- Disposing a unit made after `w₀` touches only what was made after `w₀`: its context holds
no transaction, so nothing is rolled back. -/
theorem UnitOfWork.dispose_confined (hu : w₀.units.size ≤ u) (h : Hooks σ) (wait : Wait) :
    Keeps (Confined w₀ r) (UnitOfWork.dispose h u wait) := by
  refine .bind_of_ok (UnitOfWork.get_keeps u) fun s _ x hs hx => ?_
  simp only [UnitOfWork.get, exec_bind, exec_world, exec_pure, Prod.mk.injEq, Except.ok.injEq] at hx
  obtain ⟨rfl, -⟩ := hx
  have hx : (s.world.unit u).Beyond w₀.contexts.size w₀.observers.size := by
    rw [World.unit_eq]
    exact hs.1.beyond u hu
  split
  · exact .throw _
  · exact .pure _
  · refine .bind (UnitOfWork.modify_confined hu fun _ _ =>
      ⟨fun _ h => (by cases h), fun _ h => (by cases h)⟩) fun _ => ?_
    split
    · exact .pure _
    · rename_i c hctx
      have hc : w₀.contexts.size ≤ c := hx.1 c hctx
      have rollback : Keeps (σ := σ) (Confined w₀ r) (do
          if (← Context.hasTxn c) then Context.rollback h c wait) := by
        refine .bind_of_ok (Context.hasTxn_keeps c) fun s₁ _ b h₁ hb => ?_
        simp only [Context.hasTxn, exec_bind, exec_world, exec_pure, Prod.mk.injEq, Except.ok.injEq] at hb
        obtain ⟨rfl, -⟩ := hb
        rw [World.context_eq, h₁.1.idle c hc]
        exact .pure _
      have close : Keeps (σ := σ) (Confined w₀ r) (Context.close c) := by
        refine .bind_of_ok .world fun s₁ _ w₁ h₁ hw => ?_
        rw [exec_world, Prod.mk.injEq, Except.ok.injEq] at hw
        obtain ⟨rfl, -⟩ := hw
        refine .bind (Context.modify_confined hc fun _ _ => rfl) fun _ => ?_
        rw [World.context_eq, h₁.1.idle c hc]
        exact .pure _
      refine .bind (.bind (.outcome ?detach) fun q => ?_) fun _ =>
        .bind (.bind (.outcome rollback) fun q => ?_) fun _ =>
        .bind (.bind (.outcome close) fun q => ?_) fun _ => ?_
      case detach =>
        split
        · rename_i o ho
          exact .bind (UnitOfWork.modifyObserver_confined (hx.2 o ho) _) fun _ =>
            Context.modify_confined hc fun _ h => h
        · exact .pure _
      · cases q <;> exact .pure _
      · cases q <;> exact .pure _
      · cases q <;> exact .pure _
      · split
        · exact .throw _
        · exact .pure _

end Confined

/-! ### How preparing a new unit fails -/

/-- Taking or freeing a unit's lock is invisible through a view of units that ignores locks. -/
theorem Sys.withLock_view {β : Type} (s : Sys σ) (u : Nat) (l : LockState) (p : UnitState → β)
    (hp : ∀ x : UnitState, p { x with lock := l } = p x) (v : Nat) :
    p ((s.withLock u l).world.units[v]?.getD default) = p (s.world.units[v]?.getD default) :=
  World.getD_modify_view _ _ _ _ _ p (hp _)

/-- A factory that refuses its next call fails with its answer, and counts the refusal. -/
theorem Factory.create_refused {f : Nat} {e : Fault} {s : Sys σ}
    (hr : (s.world.factory f).next = some e) :
    exec (Factory.create f) s = (.error e, { s with
      world := s.world.setFactory f
        { s.world.factory f with refusals := (s.world.factory f).refusals + 1 } }) := by
  rw [World.factory_eq] at hr ⊢
  simp [Factory.create, hr]

/-- A unit whose factory refuses gets no context. -/
theorem UnitOfWork.context_refused {u : Nat} {s : Sys σ} (hc : (s.world.unit u).context = none)
    (hl : (s.world.unit u).lock = .free)
    (hr : (s.world.factory (s.world.unit u).factory).next.isSome) :
    ∃ e s', exec (UnitOfWork.context u) s = (.error e, s') := by
  rw [World.unit_eq] at hc hl hr
  obtain ⟨e, he⟩ := Option.isSome_iff_exists.mp hr
  have hc' : ((s.withLock u .held).world.units[u]?.getD default).context = none := by
    rw [Sys.withLock_view s u .held UnitState.context fun _ => rfl]
    exact hc
  have hf' : ((s.withLock u .held).world.units[u]?.getD default).factory =
      (s.world.units[u]?.getD default).factory :=
    Sys.withLock_view s u .held UnitState.factory (fun _ => rfl) u
  simp only [UnitOfWork.context, UnitOfWork.get, exec_bind, exec_world, exec_pure, World.unit_eq, hc,
    UnitOfWork.locked_exec_free _ hl, hc', hf', Factory.create_refused (s := s.withLock u .held) he]
  exact ⟨_, _, rfl⟩

/-- A unit whose context cannot be made gets no observer either. -/
theorem UnitOfWork.observer_of_context_fails {u : Nat} {s s' : Sys σ} {e : Fault}
    (ho : (s.world.unit u).observer = none) (hc : exec (UnitOfWork.context u) s = (.error e, s')) :
    exec (UnitOfWork.observer u) s = (.error e, s') := by
  rw [World.unit_eq] at ho
  simp [UnitOfWork.observer, UnitOfWork.get, ho, hc]

theorem Context.addInterceptor_refused {c : Nat} {i : Interceptor} {s : Sys σ}
    (h : s.world.db.interceptable = false) :
    exec (Context.addInterceptor c i) s =
      (.error (.unsupported "This context does not accept interceptors"), s) := by
  simp [Context.addInterceptor, h]

/-- Over a database that refuses interceptors, a fresh unit gets no observer: it fails before
or after its context is made. -/
theorem UnitOfWork.observer_incompatible {u : Nat} {s : Sys σ} (ho : (s.world.unit u).observer = none)
    (hc : (s.world.unit u).context = none) (hl : (s.world.unit u).lock = .free)
    (hu : u < s.world.units.size) (hdb : s.world.db.interceptable = false) :
    ∃ e s', exec (UnitOfWork.observer u) s = (.error e, s') := by
  rcases hctx : exec (UnitOfWork.context u) s with ⟨_ | c, s₁⟩
  · exact ⟨_, _, UnitOfWork.observer_of_context_fails ho hctx⟩
  obtain ⟨hu₁, -, -, -, -⟩ := UnitOfWork.context_create_ok hc hl hu hctx
  have hdb₁ : s₁.world.db = s.world.db := congrArg Prod.fst (UnitOfWork.context_leaves u hctx).2
  simp only [World.unit_eq] at hu₁ ho hl
  have hl₁ : (s₁.world.units[u]?.getD default).lock = .free := by rw [hu₁]; exact hl
  have ho₂ : ((s₁.withLock u .held).world.units[u]?.getD default).observer = none := by
    rw [Sys.withLock_view s₁ u .held UnitState.observer fun _ => rfl, hu₁]
    exact ho
  have hdb₂ : (s₁.withLock u .held).world.db.interceptable = false := by
    rw [Sys.withLock_db, hdb₁]
    exact hdb
  simp only [UnitOfWork.observer, UnitOfWork.get, exec_bind, exec_world, exec_pure, World.unit_eq, ho, hctx,
    UnitOfWork.locked_exec_free _ hl₁, ho₂, exec_outcome, Context.addInterceptor_refused hdb₂]
  exact ⟨_, _, rfl⟩

/-- A unit that is not disposed moves to scoped execution from either mode. -/
theorem UnitOfWork.promote_scoped_exec {u : Nat} {s : Sys σ} (hl : (s.world.unit u).lock = .free) :
    exec (UnitOfWork.promote u .scopedExecution) s =
      (.ok (), { s with world := s.world.setUnit u { s.world.unit u with mode := .scopedExecution } }) := by
  rw [World.unit_eq] at hl
  cases hm : (s.world.units[u]?.getD default).mode <;>
    simp [UnitOfWork.promote, UnitOfWork.isDisposed, UnitOfWork.get, UnitOfWork.modify, UnitMode.transition,
      hl, hm]

/-- Preparing a fresh unit fails when its factory refuses its next call or the database refuses
interceptors. -/
theorem UnitOfWork.prepareRoot_refused {u : Nat} {s : Sys σ} (hc : (s.world.unit u).context = none)
    (ho : (s.world.unit u).observer = none) (hl : (s.world.unit u).lock = .free)
    (hu : u < s.world.units.size)
    (h : (s.world.factory (s.world.unit u).factory).next.isSome ∨ s.world.db.interceptable = false) :
    ∃ e s', exec (UnitOfWork.prepareRoot u) s = (.error e, s') := by
  have hp := UnitOfWork.promote_scoped_exec hl
  generalize hs₁ : ({ s with world := s.world.setUnit u { s.world.unit u with mode := .scopedExecution } } :
    Sys σ) = s₁ at hp
  have hunit : s₁.world.unit u = { s.world.unit u with mode := .scopedExecution } := by
    rw [← hs₁]
    simp [World.getD_modify_of_lt _ _ _ hu]
  have hfactory : ∀ f, s₁.world.factory f = s.world.factory f := by
    rw [← hs₁]
    exact fun _ => rfl
  have hdb₁ : s₁.world.db = s.world.db := by
    rw [← hs₁]
    rfl
  obtain ⟨e, s₂, hobs⟩ : ∃ e s₂, exec (UnitOfWork.observer u) s₁ = (.error e, s₂) := by
    rcases h with hr | hdb
    · obtain ⟨e, s₂, hctx⟩ := UnitOfWork.context_refused (s := s₁) (by rw [hunit]; exact hc)
        (by rw [hunit]; exact hl) (by rw [hunit, hfactory]; exact hr)
      exact ⟨e, s₂, UnitOfWork.observer_of_context_fails (by rw [hunit]; exact ho) hctx⟩
    · exact UnitOfWork.observer_incompatible (by rw [hunit]; exact ho) (by rw [hunit]; exact hc)
        (by rw [hunit]; exact hl) (by rw [← hs₁]; simpa using hu) (by rw [hdb₁]; exact hdb)
  refine ⟨e, s₂, ?_⟩
  rw [UnitOfWork.prepareRoot, exec_bind, hp]
  dsimp only
  rw [exec_bind, hobs]

/-! ### The stages of a rejection -/

/-- Whether opening a scope with this option creates a unit of work: the option asks for a
new one, or no unit is ambient. -/
def ScopeOption.Creates (option : ScopeOption) (w : World) : Prop :=
  option = .forceCreateNew ∨ w.ambient = none

/-- The reasons scoped execution through provider `p` rejects a run before its work starts,
in the order they are met. -/
inductive Rejects (p : Nat) (option : ScopeOption) (wait : Wait) (w : World) : Prop where
  /-- An external transaction is open. -/
  | external : 0 < w.chain.external → Rejects p option wait w
  /-- The execution refuses nesting while a unit of work is ambient. -/
  | nested {u : Nat} : option = .noNesting → w.ambient = some u → Rejects p option wait w
  /-- It would join the ambient unit of work, which is driven by hand. -/
  | manual {u : Nat} : option = .joinExisting → w.ambient = some u → (w.unit u).mode = .manual →
      Rejects p option wait w
  /-- It creates a unit of work, and the provider's factory refuses its next call. -/
  | refused : option.Creates w → (w.factory (w.provider p).factory).next.isSome →
      Rejects p option wait w
  /-- It creates a unit of work, and the database refuses interceptors. -/
  | incompatible : option.Creates w → w.db.interceptable = false → Rejects p option wait w
  /-- It creates a unit of work asynchronously, under a token cancelled already. -/
  | cancelled {t : Nat} : option.Creates w → wait = .async t → w.cancelled t = true →
      Rejects p option wait w

/-- A flow started from the thread sees the thread's chain, so it rejects what the thread
would. -/
theorem Rejects.inFlow {p : Nat} {option : ScopeOption} {wait : Wait} {w : World} (hf : w.flow = none)
    (h : Rejects p option wait w) : Rejects p option wait { w with flow := some w.thread } := by
  have hamb : ({ w with flow := some w.thread } : World).ambient = w.ambient := by
    simp [World.ambient, hf]
  have hext : ({ w with flow := some w.thread } : World).chain.external = w.chain.external := by
    simp [hf]
  have hcr : option.Creates w → option.Creates { w with flow := some w.thread } := by
    unfold ScopeOption.Creates
    rw [hamb]
    exact id
  cases h with
  | external hpos => exact .external (hext ▸ hpos)
  | nested hopt ha => exact .nested hopt (hamb ▸ ha)
  | manual hopt ha hm => exact .manual hopt (hamb ▸ ha) hm
  | refused hc hr => exact .refused (hcr hc) hr
  | incompatible hc hdb => exact .incompatible (hcr hc) hdb
  | cancelled hc hw ht => exact .cancelled (hcr hc) hw ht

/-- Opening a scope that creates a unit of work: a new unit from the factory and options, with
its entry at the head of the current chain. -/
theorem Scope.activate_creates_exec {option : ScopeOption} (f : Nat) (opts : Options) {s : Sys σ}
    (h : option.Creates s.world) :
    exec (Scope.activate option f opts) s =
      (.ok ⟨s.world.nodes.size, s.world.units.size, true⟩, { s with
        world := ({ s.world with units := s.world.units.push { factory := f, options := opts } } :
          World).pushEntry UnitState.typeName s.world.units.size }) := by
  rw [Scope.activate, Ambient.activate_create_exec h]
  simp [UnitOfWork.new]

/-- Disposing the scope of a root made after `w₀`: it touches only what was made after `w₀`,
leaves the host's state alone, and deactivates the scope's entry. -/
theorem Scope.dispose_root_spared {h : Hooks σ} {wait : Wait} {w₀ : World} {n u : Nat} {s s' : Sys σ}
    {d : Except Fault Unit} (hs : Spared w₀ s.world) (hu : w₀.units.size ≤ u)
    (hn : (s.world.nodes[n]?.getD default).disposed = false)
    (hx : exec (Scope.dispose h ⟨n, u, true⟩ wait) s = (d, s')) :
    s'.host = s.host ∧ Spared w₀ s'.world ∧ s'.world.chains = (s.world.deactivated n).chains := by
  rw [Scope.dispose, exec_bind, Scope.deactivate_exec, if_neg (by simp [hn])] at hx
  simp only [Bool.and_self, if_true] at hx
  have hs₁ : Spared w₀ (s.world.deactivated n) := hs.of_tables (by simp [World.deactivated])
    (by simp [World.deactivated]) (by simp [World.deactivated]) (by simp [World.deactivated])
  obtain ⟨hs', hrest⟩ := UnitOfWork.dispose_confined (r := s.world.deactivated n) hu h wait ⟨hs₁, rfl⟩ hx
  -- the unit's context, made after `w₀`, holds no transaction: the host's hooks never run
  have hsettled : Execution.Settled u (s.world.deactivated n) :=
    fun c hc => hs₁.idle c ((hs₁.beyond u hu).1 c hc)
  exact ⟨(UnitOfWork.dispose_settled hsettled hx).1, hs', World.chains_of_rest hrest⟩

namespace Execution

variable {α : Type}

/-- A root execution whose fresh unit cannot be prepared, or whose token is cancelled already,
fails the same way whatever its work: the work never runs. Its cleanup so far touched only what
was made after `w₀`. -/
theorem root_rejected (h : Hooks σ) {w₀ : World} {u : Nat} (options : Options) (wait : Wait)
    {s : Sys σ} (hs : Spared w₀ s.world) (hu₀ : w₀.units.size ≤ u)
    (hc : (s.world.unit u).context = none) (ho : (s.world.unit u).observer = none)
    (hl : (s.world.unit u).lock = .free) (hu : u < s.world.units.size)
    (hrej : (s.world.factory (s.world.unit u).factory).next.isSome ∨ s.world.db.interceptable = false ∨
      ∃ t, wait = .async t ∧ s.world.cancelled t = true) :
    ∃ e s', (∀ work : Work σ α, exec (root h u options work wait) s = (.error e, s')) ∧
      s'.host = s.host ∧ Confined w₀ s.world s'.world := by
  rcases hp : exec (UnitOfWork.prepareRoot u) s with ⟨q, s₁⟩
  have hkeep : Confined w₀ s.world s₁.world := UnitOfWork.prepareRoot_confined hu₀ ⟨hs, rfl⟩ hp
  have hhost : s₁.host = s.host := (UnitOfWork.prepareRoot_leaves u hp).1
  cases q with
  | error e => exact ⟨e, s₁, fun work => by rw [root_eq, exec_bind, hp], hhost, hkeep⟩
  | ok c =>
    -- the preparation went through, so it is the token that is cancelled
    have hcancel : ∃ t, wait = .async t ∧ s.world.cancelled t = true := by
      rcases hrej with hspent | hdb | hcan
      · obtain ⟨e, s', he⟩ := UnitOfWork.prepareRoot_refused hc ho hl hu (.inl hspent)
        rw [he] at hp
        cases hp
      · obtain ⟨e, s', he⟩ := UnitOfWork.prepareRoot_refused hc ho hl hu (.inr hdb)
        rw [he] at hp
        cases hp
      · exact hcan
    obtain ⟨t, rfl, ht⟩ := hcancel
    have ht₁ : exec (Cancellation.isCancelled t) s₁ = (.ok true, s₁) := by
      have htokens : s₁.world.tokens = s.world.tokens := congrArg (fun w => w.tokens) hkeep.2
      simp only [World.cancelled_eq] at ht
      simp [Cancellation.isCancelled, htokens, ht]
    refine ⟨.cancelled, s₁, fun work => ?_, hhost, hkeep⟩
    obtain ⟨counts, hrun⟩ := Strategy.run_cancelled
      ⟨Cancellation.isCancelled t, Cancellation.suspend⟩ (once h u c options work (.async t)) ht₁
      (Strategy.forExecution options) (Strategy.forExecution options).initial
    rw [root_eq, exec_bind, hp]
    dsimp only
    rw [exec_bind]
    -- the run waits on `(Wait.async t).waiting`, which is the token's pair only up to unfolding
    erw [hrun]
    rfl

/-- An execution that joins a unit driven by hand is refused at once. -/
theorem nested_manual (h : Hooks σ) {u : Nat} (work : Work σ α) (wait : Wait) {s : Sys σ}
    (hm : (s.world.unit u).mode = .manual) :
    exec (nested h u work wait) s = (.error manualParentFault, s) := by
  rw [World.unit_eq] at hm
  simp [nested, UnitOfWork.mode, UnitOfWork.get, hm]

/-- A root whose preparation is refused, or whose token is cancelled already: its new unit and
context are disposed of again, and its entry deactivated. -/
theorem inScope_root_rejected (h : Hooks σ) (p : Nat) (option : ScopeOption) (wait : Wait)
    {s : Sys σ} (hext : s.world.chain.external = 0) (hcr : option.Creates s.world)
    (hrej : (s.world.factory (s.world.provider p).factory).next.isSome ∨ s.world.db.interceptable = false ∨
      ∃ t, wait = .async t ∧ s.world.cancelled t = true) :
    ∃ e s', (∀ work : Work σ α, exec (inScope h p option work wait) s = (.error e, s')) ∧
      s'.host = s.host ∧ Spared s.world s'.world ∧ World.Popped s.world s'.world := by
  have hact := Scope.activate_creates_exec (s.world.provider p).factory (s.world.provider p).options hcr
  generalize hs₁ : ({ s with world := (({ s.world with units := (s.world.units.push
    { factory := (s.world.provider p).factory, options := (s.world.provider p).options }) } : World).pushEntry
      UnitState.typeName s.world.units.size) } : Sys σ) = s₁ at hact
  have hunit : s₁.world.unit s.world.units.size =
      { factory := (s.world.provider p).factory, options := (s.world.provider p).options } := by
    rw [← hs₁]
    simp [World.pushEntry]
  have hsp₁ : Spared s.world s₁.world := by
    rw [← hs₁]
    exact ((Spared.refl _).pushUnit
      (UnitState.beyond_new _ _ (s.world.provider p).factory (s.world.provider p).options)).of_tables
      (by simp [World.pushEntry]) (by simp [World.pushEntry]) (by simp [World.pushEntry])
      (by simp [World.pushEntry])
  have hsame : s₁.world.factories = s.world.factories ∧ s₁.world.db = s.world.db ∧
      s₁.world.tokens = s.world.tokens ∧ s₁.world.units.size = s.world.units.size + 1 := by
    rw [← hs₁]
    simp [World.pushEntry]
  obtain ⟨hfac, hdb, htok, hsize⟩ := hsame
  have hrej₁ : (s₁.world.factory (s₁.world.unit s.world.units.size).factory).next.isSome ∨
      s₁.world.db.interceptable = false ∨ ∃ t, wait = .async t ∧ s₁.world.cancelled t = true := by
    simp only [hunit, World.factory_eq, World.cancelled_eq, hfac, hdb, htok]
    simpa only [World.factory_eq, World.cancelled_eq] using hrej
  obtain ⟨e, s₂, hroot, hh₂, hk₂⟩ := root_rejected (α := α) h (s.world.provider p).options wait hsp₁
    (Nat.le_refl _) (by rw [hunit]) (by rw [hunit]) (by rw [hunit]) (by omega) hrej₁
  have hnodes : s₂.world.nodes = s₁.world.nodes := congrArg (fun w => w.nodes) hk₂.2
  have hlive : (s₂.world.nodes[s.world.nodes.size]?.getD default).disposed = false := by
    rw [hnodes, ← hs₁]
    simp [World.pushEntry]
  rcases hd : exec (Scope.dispose h ⟨s.world.nodes.size, s.world.units.size, true⟩ wait) s₂ with ⟨d, s₃⟩
  obtain ⟨hh₃, hsp₃, hch₃⟩ := Scope.dispose_root_spared hk₂.1 (Nat.le_refl _) hlive hd
  refine ⟨e, s₃, fun work => ?_, hh₃.trans (hh₂.trans (by rw [← hs₁])), hsp₃,
    .inr ⟨UnitState.typeName, s.world.units.size, ?_⟩⟩
  · rw [inScope, exec_bind, UnitOfWork.ensureNoExternal_exec hext]
    dsimp only
    rw [exec_bind, exec_world]
    dsimp only
    rw [exec_bind, hact]
    dsimp only
    rw [exec_bind, exec_outcome, if_pos rfl, hroot]
    dsimp only
    rw [exec_bind, exec_outcome, hd]
    dsimp only
    rw [exec_ofExcept]
    cases d <;> rfl
  · rw [hch₃, World.chains_deactivated (World.chains_of_rest hk₂.2), ← hs₁]
    exact World.chains_deactivated (World.chains_pushEntry (by rfl) _ _) _

/-- What a rejected execution does in its scope, before any flow: it fails the same way
whatever its work, leaves the host's state alone, spares all there was, and at most pushes an
entry on the chain and deactivates it again. -/
theorem inScope_rejected (h : Hooks σ) (p : Nat) (option : ScopeOption) (wait : Wait) {s : Sys σ}
    (hrej : Rejects p option wait s.world) :
    ∃ e s', (∀ work : Work σ α, exec (inScope h p option work wait) s = (.error e, s')) ∧
      s'.host = s.host ∧ Spared s.world s'.world ∧ World.Popped s.world s'.world := by
  by_cases hext : s.world.chain.external = 0
  case neg =>
    obtain ⟨e, he⟩ : ∃ e, exec UnitOfWork.ensureNoExternal s = (.error e, s) := by
      simp only [UnitOfWork.ensureNoExternal, exec_bind, exec_world,
        if_pos (Nat.pos_of_ne_zero hext), exec_throw]
      exact ⟨_, rfl⟩
    exact ⟨e, s, fun work => by rw [inScope, exec_bind, he], rfl, .refl _, .inl rfl⟩
  have hE := UnitOfWork.ensureNoExternal_exec (s := s) hext
  cases hrej with
  | external hpos => omega
  | nested hopt hamb =>
    subst hopt
    refine ⟨nestingFault UnitState.typeName, s, fun work => ?_, rfl, .refl _, .inl rfl⟩
    rw [inScope, exec_bind, hE]
    dsimp only
    rw [exec_bind, exec_world]
    dsimp only
    rw [exec_bind, Scope.activate, Ambient.activate_noNesting_exec hamb]
  | @manual u hopt hamb hmode =>
    subst hopt
    refine ⟨manualParentFault, { s with world := ((s.world.pushEntry UnitState.typeName u).deactivated
      s.world.nodes.size) }, fun work => ?_, rfl, (Spared.refl _).of_tables ?_ ?_ ?_ ?_,
      .inr ⟨UnitState.typeName, u, rfl⟩⟩
    · rw [inScope, exec_bind, hE]
      dsimp only
      rw [exec_bind, exec_world]
      dsimp only
      rw [exec_bind, Scope.activate, Ambient.activate_join_exec hamb]
      dsimp only
      rw [exec_bind, exec_outcome, if_neg Bool.false_ne_true,
        nested_manual h _ wait (s := { s with world := s.world.pushEntry UnitState.typeName u })
          (by simpa [World.pushEntry] using hmode)]
      dsimp only
      rw [exec_bind, exec_outcome, Scope.dispose, exec_bind, Scope.deactivate_exec, if_neg (by simp)]
      rfl
    all_goals simp [World.pushEntry, World.deactivated]
  | refused hcr hr => exact inScope_root_rejected h p option wait hext hcr (.inl hr)
  | incompatible hcr hdb => exact inScope_root_rejected h p option wait hext hcr (.inr (.inl hdb))
  | cancelled hcr hw ht => exact inScope_root_rejected h p option wait hext hcr (.inr (.inr ⟨_, hw, ht⟩))

end Execution

/-! ### The execution -/

/-- What a rejected execution leaves as it was: the database, and every unit of work, context
and observer there was, so that each unit keeps its mode, its open transaction, whether it is
invalidated and what it tracks; and the ambient value of every type. The contexts made since
hold no transaction. -/
structure Unmoved (w w' : World) : Prop where
  db : w'.db = w.db
  units : ∀ u < w.units.size, w'.units[u]? = w.units[u]?
  contexts : ∀ c < w.contexts.size, w'.contexts[c]? = w.contexts[c]?
  observers : ∀ o < w.observers.size, w'.observers[o]? = w.observers[o]?
  idle : ∀ c, w.contexts.size ≤ c → (w'.contexts[c]?.getD default).txn = none
  current : ∀ kind, w'.chain.current w'.nodes kind = w.chain.current w.nodes kind

theorem Spared.unmoved {w w' : World} (hs : Spared w w')
    (hc : ∀ kind, w'.chain.current w'.nodes kind = w.chain.current w.nodes kind) : Unmoved w w' :=
  ⟨hs.db, hs.units, hs.contexts, hs.observers, hs.idle, hc⟩

namespace Execution

variable {α : Type}

/-- A rejected scoped execution, blocking or asynchronous, changes nothing: whatever the work,
it fails the same way without running it, leaves the host program's state as it was, and
leaves everything `Unmoved` names as it was. The chain is assumed to be a chain: parents are
older entries, and its head is an entry. -/
theorem rejected_execution_changes_nothing (h : Hooks σ) (p : Nat) (option : ScopeOption)
    (wait : Wait) {s : Sys σ} (ho : Chain.Older s.world.nodes)
    (hb : Chain.Below s.world.chain.head s.world.nodes.size) (hrej : Rejects p option wait s.world) :
    ∃ e s', (∀ work : Work σ α, exec (execute h p option work wait) s = (.error e, s')) ∧
      s'.host = s.host ∧ Unmoved s.world s'.world := by
  have direct : ∃ e s', (∀ work : Work σ α, exec (inScope h p option work wait) s = (.error e, s')) ∧
      s'.host = s.host ∧ Unmoved s.world s'.world := by
    obtain ⟨e, s', hx, hh, hs, hp⟩ := inScope_rejected h p option wait hrej
    exact ⟨e, s', hx, hh, hs.unmoved (hp.current ho hb)⟩
  cases wait with
  | blocking =>
    obtain ⟨e, s', hx, hh, hu⟩ := direct
    exact ⟨e, s', fun work => by rw [execute_eq]; exact hx work, hh, hu⟩
  | async t =>
    cases hf : s.world.flow with
    | some f =>
      obtain ⟨e, s', hx, hh, hu⟩ := direct
      exact ⟨e, s', fun work => by
        rw [execute_eq]
        dsimp only
        rw [Ambient.inFlow_exec_some (by simp [hf]), hx], hh, hu⟩
    | none =>
      obtain ⟨e, s', hx, hh, hs, hp⟩ := inScope_rejected (s := { s with world := { s.world with
        flow := some s.world.thread } }) h p option (.async t) (hrej.inFlow hf)
      -- the flow shares the thread's tables: what it spares, it spares of the thread's world
      have hs' : Spared s.world { s'.world with flow := none } := ⟨hs.db, hs.units_size, hs.units,
        hs.contexts_size, hs.contexts, hs.observers_size, hs.observers, hs.idle, hs.beyond⟩
      refine ⟨e, { s' with world := { s'.world with flow := none } }, fun work => ?_, hh,
        hs'.unmoved (hp.current_dropFlow hf ho hb)⟩
      rw [execute_eq]
      dsimp only
      rw [Ambient.inFlow_exec_none hf, hx]

/-- A unit of work driven by hand, ambient at the head of the thread's chain. -/
def manualUnitWorld : World where
  units := #[{ factory := 0, options := {} }]
  nodes := #[{ kind := UnitState.typeName, value := 0, parent := none }]
  thread := { head := some 0 }

/-- Joining a unit driven by hand is rejected, and changes nothing. -/
theorem joining_manual_unit_changes_nothing :
    Chain.Older manualUnitWorld.nodes ∧
      Chain.Below manualUnitWorld.chain.head manualUnitWorld.nodes.size ∧
      Rejects 0 .joinExisting .blocking manualUnitWorld ∧
      ∃ e s', (∀ work : Work Unit Unit, exec (execute Hooks.quiet 0 .joinExisting work .blocking)
        ⟨manualUnitWorld, ()⟩ = (.error e, s')) ∧ s'.host = () ∧ Unmoved manualUnitWorld s'.world := by
  have ho : Chain.Older manualUnitWorld.nodes := by
    intro i p hp
    cases i with
    | zero => simp [manualUnitWorld] at hp
    | succ i =>
      simp [manualUnitWorld] at hp
      exact nomatch hp
  have hb : Chain.Below manualUnitWorld.chain.head manualUnitWorld.nodes.size := by
    intro i hi
    simp only [manualUnitWorld, World.chain_eq, Option.getD_none, Option.some.injEq] at hi
    simp [manualUnitWorld, ← hi]
  have hr : Rejects 0 .joinExisting .blocking manualUnitWorld := .manual (u := 0) rfl (by decide) rfl
  exact ⟨ho, hb, hr, rejected_execution_changes_nothing Hooks.quiet 0 .joinExisting .blocking ho hb hr⟩

end Execution

end ScopedWork
