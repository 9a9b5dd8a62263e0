import ScopedWork.Scope
import ScopedWork.Proofs.Act
import ScopedWork.Proofs.World

/-!
# The ambient chain is a stack of live entries

Entries are never removed from the table of ambient entries: deactivating one only marks it,
and a chain's head is popped past marked entries lazily. The chain stands for a plain stack,
the live entries with the most recent first (`Chain.liveEntries`), as long as walking it from
its head meets exactly those entries (`Chain.Wf`). Pushing an entry and deactivating any
entry, in any order, keep that so; a lookup of a type on a well-formed chain is then the
stack's lookup (`Chain.latest`).

One flow makes a sequence of calls (`Ambient.Call`): activations, whose values are created
without touching the chains, and deactivations of any scope it holds. The invariant is
stated for one call and carried along any sequence. A flow started outside any flow works on
a copy of the thread's chain; as long as it deactivates only entries of its own, it changes
no entry the thread's chain can reach, so the caller finds its chain as it was. A flow
started inside a flow shares that flow's chain instead.
-/

namespace ScopedWork

namespace Chain

variable {nodes : Array Node}

/-- The live entries on the chain from an entry down, following parents. -/
def liveList (nodes : Array Node) : Nat → Option Nat → List Nat
  | 0, _ => []
  | _, none => []
  | fuel + 1, some i =>
    let n := nodes.getD i default
    if n.disposed then liveList nodes fuel n.parent else i :: liveList nodes fuel n.parent

/-- Every live entry, the most recent first: the stack the chain stands for. -/
def liveEntries (nodes : Array Node) : List Nat :=
  ((List.range nodes.size).filter fun i => !(nodes[i]?.getD default).disposed).reverse

/-- Looking a type up on the stack: the value of its most recent live entry. -/
def latest (nodes : Array Node) (kind : String) : Option Nat :=
  ((liveEntries nodes).find? fun i => (nodes[i]?.getD default).kind == kind).map
    fun i => (nodes[i]?.getD default).value

/-- Every entry's parent was pushed before it. -/
def Older (nodes : Array Node) : Prop :=
  ∀ i p, (nodes[i]?.getD (default : Node)).parent = some p → p < i

/-- An entry pointer below a bound. -/
def Below (ptr : Option Nat) (k : Nat) : Prop := ∀ i, ptr = some i → i < k

/-! ## Walking a chain -/

theorem liveList_succ_some (k i : Nat) :
    liveList nodes (k + 1) (some i) =
      if (nodes[i]?.getD default).disposed then liveList nodes k (nodes[i]?.getD default).parent
      else i :: liveList nodes k (nodes[i]?.getD default).parent := by
  simp [liveList, Array.getD_eq_getD_getElem?]

@[simp] theorem liveList_none (k : Nat) : liveList nodes k none = [] := by
  cases k <;> rfl

theorem Below.parent (ho : Older nodes) {i k : Nat} (hi : i < k + 1) :
    Below (nodes[i]?.getD default).parent k := by
  intro p hp
  have := ho i p hp
  omega

/-- Enough fuel walks the whole path: the walk does not depend on how much more there is. -/
theorem liveList_fuel (ho : Older nodes) :
    ∀ k k' ptr, Below ptr k → Below ptr k' → liveList nodes k ptr = liveList nodes k' ptr
  | k, k', none, _, _ => by simp
  | 0, _, some i, h, _ => absurd (h i rfl) (Nat.not_lt_zero i)
  | _ + 1, 0, some i, _, h' => absurd (h' i rfl) (Nat.not_lt_zero i)
  | k + 1, k' + 1, some i, h, h' => by
    rw [liveList_succ_some, liveList_succ_some,
      liveList_fuel ho k k' _ (Below.parent ho (h i rfl)) (Below.parent ho (h' i rfl))]

theorem findFrom_eq_find? (kind : String) :
    ∀ k ptr, findFrom nodes kind k ptr =
      (liveList nodes k ptr).find? fun i => (nodes[i]?.getD default).kind == kind
  | 0, _ => rfl
  | k + 1, none => rfl
  | k + 1, some i => by
    rw [liveList_succ_some]
    simp only [findFrom, Array.getD_eq_getD_getElem?]
    cases hd : (nodes[i]?.getD default).disposed with
    | true => simpa using findFrom_eq_find? kind k _
    | false =>
      simp only [Bool.not_false, Bool.true_and, Bool.false_eq_true, if_false, List.find?_cons]
      cases (nodes[i]?.getD default).kind == kind
      · simpa using findFrom_eq_find? kind k _
      · rfl

theorem liveFrom_eq_head? : ∀ k ptr, liveFrom nodes k ptr = (liveList nodes k ptr).head?
  | 0, _ => rfl
  | k + 1, none => rfl
  | k + 1, some i => by
    rw [liveList_succ_some]
    simp only [liveFrom, Array.getD_eq_getD_getElem?]
    split
    · exact liveFrom_eq_head? k _
    · rfl

/-- The walk meets live entries only, none above where it starts. -/
theorem mem_liveList (ho : Older nodes) {j : Nat} :
    ∀ {k ptr}, j ∈ liveList nodes k ptr →
      (nodes[j]?.getD default).disposed = false ∧ ∃ i, ptr = some i ∧ j ≤ i
  | 0, _, h => by simp [liveList] at h
  | k + 1, none, h => by simp at h
  | k + 1, some i, h => by
    rw [liveList_succ_some] at h
    split at h
    · obtain ⟨hd, p, hp, hjp⟩ := mem_liveList ho h
      exact ⟨hd, i, rfl, Nat.le_of_lt (Nat.lt_of_le_of_lt hjp (ho i p hp))⟩
    · rename_i hlive
      rcases List.mem_cons.mp h with rfl | h
      · exact ⟨by simpa using hlive, j, rfl, Nat.le_refl j⟩
      · obtain ⟨hd, p, hp, hjp⟩ := mem_liveList ho h
        exact ⟨hd, i, rfl, Nat.le_of_lt (Nat.lt_of_le_of_lt hjp (ho i p hp))⟩

/-- A new entry leaves every walk over the old ones as it was. -/
theorem liveList_push (ho : Older nodes) (n : Node) :
    ∀ k ptr, Below ptr nodes.size → liveList (nodes.push n) k ptr = liveList nodes k ptr
  | 0, _, _ => rfl
  | k + 1, none, _ => rfl
  | k + 1, some i, h => by
    have hi := h i rfl
    have hnode : (nodes.push n)[i]?.getD default = nodes[i]?.getD default := by
      simp [Array.getElem?_push, Nat.ne_of_lt hi]
    rw [liveList_succ_some, liveList_succ_some, hnode,
      liveList_push ho n k _ fun p hp => Nat.lt_trans (ho i p hp) hi]

/-- Marking an entry deactivated drops it from every walk, and nothing else. -/
theorem liveList_dispose {i : Nat} (hi : i < nodes.size) :
    ∀ k ptr, liveList (nodes.modify i fun x => { x with disposed := true }) k ptr =
      (liveList nodes k ptr).filter (· != i)
  | 0, _ => rfl
  | k + 1, none => rfl
  | k + 1, some j => by
    rw [liveList_succ_some, liveList_succ_some, World.getD_modify_of_lt _ _ _ hi]
    by_cases hij : i = j
    · subst hij
      simp only [if_true, liveList_dispose hi k]
      split <;> simp
    · simp only [hij, if_false, liveList_dispose hi k]
      split <;> simp [Ne.symm hij]

/-- Popping the dead entries off a walk's start leaves the walk as it was. -/
theorem liveList_liveFrom (ho : Older nodes) :
    ∀ k ptr, Below ptr k → liveList nodes k (liveFrom nodes k ptr) = liveList nodes k ptr
  | 0, _, _ => rfl
  | k + 1, none, _ => rfl
  | k + 1, some i, h => by
    have hp : Below (nodes[i]?.getD default).parent k := Below.parent ho (h i rfl)
    rw [liveList_succ_some]
    simp only [liveFrom, Array.getD_eq_getD_getElem?]
    split
    · -- the popped start: the walk resumes at the parent, with fuel to spare
      have hbelow : Below (liveFrom nodes k (nodes[i]?.getD default).parent) k := by
        intro j hj
        rw [liveFrom_eq_head?] at hj
        obtain ⟨-, p, hpe, hjp⟩ := mem_liveList ho (List.mem_of_mem_head? hj)
        exact Nat.lt_of_le_of_lt hjp (hp p hpe)
      rw [liveList_fuel ho (k + 1) k _ (fun j hj => Nat.lt_succ_of_lt (hbelow j hj)) hbelow,
        liveList_liveFrom ho k _ hp]
    · rw [liveList_succ_some, if_neg ‹_›]

theorem liveEntries_push (n : Node) (hn : n.disposed = false) :
    liveEntries (nodes.push n) = nodes.size :: liveEntries nodes := by
  have hold : ∀ j ∈ List.range nodes.size,
      (!((nodes.push n)[j]?.getD default).disposed) = !(nodes[j]?.getD default).disposed := by
    intro j hj
    simp [Array.getElem?_push, Nat.ne_of_lt (List.mem_range.mp hj)]
  unfold liveEntries
  rw [Array.size_push, List.range_succ, List.filter_append, List.filter_congr hold]
  simp [hn]

theorem liveEntries_eq_nil (h : ∀ i < nodes.size, (nodes[i]?.getD default).disposed) :
    liveEntries nodes = [] := by
  simp only [liveEntries, List.reverse_eq_nil_iff, List.filter_eq_nil_iff, List.mem_range,
    Bool.not_eq_eq_eq_not, Bool.not_true]
  intro i hi
  simpa using h i hi

theorem liveEntries_dispose {i : Nat} (hi : i < nodes.size) :
    liveEntries (nodes.modify i fun x => { x with disposed := true }) =
      (liveEntries nodes).filter (· != i) := by
  have hpred : ∀ j ∈ List.range nodes.size,
      (!((nodes.modify i fun x => { x with disposed := true })[j]?.getD default).disposed) =
        (j != i && !(nodes[j]?.getD default).disposed) := by
    intro j _
    rw [World.getD_modify_of_lt _ _ _ hi]
    by_cases hij : i = j
    · subst hij; simp
    · simp [hij, Ne.symm hij]
  simp only [liveEntries, Array.size_modify, List.filter_congr hpred, List.filter_reverse,
    List.filter_filter]

/-- The entry a lookup finds lies on the walk, so below a bound the walk starts under. -/
theorem findFrom_below (ho : Older nodes) (kind : String) {m : Nat} :
    ∀ k ptr, Below ptr m → Below (findFrom nodes kind k ptr) m
  | 0, _, _ => fun _ h => nomatch h
  | k + 1, none, _ => fun _ h => nomatch h
  | k + 1, some i, h => by
    have hp : Below (nodes[i]?.getD default).parent m :=
      fun p hp => Nat.lt_trans (ho i p hp) (h i rfl)
    simp only [findFrom, Array.getD_eq_getD_getElem?]
    split
    · exact h
    · exact findFrom_below ho kind k _ hp

theorem findFrom_fuel (ho : Older nodes) (kind : String) {k k' : Nat} {ptr : Option Nat}
    (h : Below ptr k) (h' : Below ptr k') : findFrom nodes kind k ptr = findFrom nodes kind k' ptr := by
  rw [findFrom_eq_find?, findFrom_eq_find?, liveList_fuel ho k k' ptr h h']

/-- Entries added or changed at or above a bound change no lookup that starts below it. -/
theorem findFrom_extend {nodes' : Array Node} (ho : Older nodes)
    (hpre : ∀ i < nodes.size, nodes'[i]? = nodes[i]?) (kind : String) :
    ∀ k ptr, Below ptr nodes.size → findFrom nodes' kind k ptr = findFrom nodes kind k ptr
  | 0, _, _ => rfl
  | k + 1, none, _ => rfl
  | k + 1, some i, h => by
    have hi := h i rfl
    simp only [findFrom, Array.getD_eq_getD_getElem?, hpre i hi]
    rw [findFrom_extend ho hpre kind k _ fun p hp => Nat.lt_trans (ho i p hp) hi]

/-- So the ambient values seen from a chain below the bound stay as they were. -/
theorem current_extend {c : Chain} {nodes' : Array Node} (ho : Older nodes) (ho' : Older nodes')
    (hpre : ∀ i < nodes.size, nodes'[i]? = nodes[i]?) (hle : nodes.size ≤ nodes'.size)
    (hb : Below c.head nodes.size) (kind : String) :
    c.current nodes' kind = c.current nodes kind := by
  unfold current
  rw [findFrom_fuel ho' kind (fun i hi => Nat.lt_of_lt_of_le (hb i hi) hle) hb,
    findFrom_extend ho hpre kind _ _ hb]
  -- the entry found lies below the bound, where both arrays agree
  cases hf : findFrom nodes kind nodes.size c.head with
  | none => rfl
  | some i => simp [Array.getD_eq_getD_getElem?, hpre i (findFrom_below ho kind _ _ hb i hf)]

/-! ## Well-formed chains -/

/-- The chain stands for the stack of live entries: its head is the most recent live entry,
and walking from it meets every live entry, most recent first. -/
structure Wf (c : Chain) (nodes : Array Node) : Prop where
  older : Older nodes
  head_below : Below c.head nodes.size
  head_live : ∀ i, c.head = some i → (nodes[i]?.getD default).disposed = false
  stack : liveList nodes nodes.size c.head = liveEntries nodes

theorem wf_empty (c : Chain) (hc : c.head = none) : Wf c #[] where
  older _ _ h := nomatch h
  head_below i h := by simp [hc] at h
  head_live i h := by simp [hc] at h
  stack := by simp [hc, liveEntries]

namespace Wf

variable {c : Chain}

/-- The head is the most recent live entry, or none if no entry is live. -/
theorem head_eq (hw : Wf c nodes) : c.head = (liveEntries nodes).head? := by
  rw [← hw.stack]
  cases hh : c.head with
  | none => simp
  | some i =>
    obtain ⟨k, hk⟩ : ∃ k, nodes.size = k + 1 := ⟨nodes.size - 1, by have := hw.head_below i hh; omega⟩
    rw [hk, liveList_succ_some, if_neg (by simp [hw.head_live i hh])]
    rfl

/-- There is nothing dead to pop off a well-formed chain. -/
theorem popDead_eq (hw : Wf c nodes) : c.popDead nodes = c := by
  simp only [popDead, live, liveFrom_eq_head?, hw.stack, ← hw.head_eq]

/-- The ambient value of a type is that of the most recent live entry of that type. -/
theorem current_eq (hw : Wf c nodes) (kind : String) : c.current nodes kind = latest nodes kind := by
  simp only [current, latest, findFrom_eq_find?, hw.stack, Array.getD_eq_getD_getElem?]

/-- Pushing a live entry on top keeps the chain a stack. -/
theorem push (hw : Wf c nodes) (kind : String) (value : Nat) :
    Wf { c with head := some nodes.size } (nodes.push { kind, value, parent := c.head }) where
  older i p hp := by
    rw [World.getD_push] at hp
    split at hp
    · subst i; exact hw.head_below p hp
    · exact hw.older i p hp
  head_below i hi := by cases hi; simp
  head_live i hi := by cases hi; simp
  stack := by
    rw [Array.size_push, liveList_succ_some, World.getD_push, if_pos rfl, if_neg (by simp),
      liveEntries_push _ rfl, liveList_push hw.older _ _ _ hw.head_below, hw.stack]

/-- Deactivating a live entry and popping the dead entries keeps the chain a stack. -/
theorem dispose (hw : Wf c nodes) {i : Nat} (hi : i < nodes.size) :
    Wf (c.popDead (nodes.modify i fun x => { x with disposed := true }))
      (nodes.modify i fun x => { x with disposed := true }) := by
  have ho : Older (nodes.modify i fun x => { x with disposed := true }) := by
    intro j p hp
    rw [World.getD_modify_of_lt _ _ _ hi] at hp
    split at hp
    · subst j; exact hw.older i p hp
    · exact hw.older j p hp
  have hbelow : Below c.head (nodes.modify i fun x => { x with disposed := true }).size := by
    simpa using hw.head_below
  refine ⟨ho, ?_, ?_, ?_⟩
  · intro j hj
    simp only [popDead, live, liveFrom_eq_head?] at hj
    obtain ⟨-, h, hh, hjh⟩ := mem_liveList ho (List.mem_of_mem_head? hj)
    exact Nat.lt_of_le_of_lt hjh (hbelow h hh)
  · intro j hj
    simp only [popDead, live, liveFrom_eq_head?] at hj
    exact (mem_liveList ho (List.mem_of_mem_head? hj)).1
  · simp only [popDead, live]
    rw [liveList_liveFrom ho _ _ hbelow, Array.size_modify, liveList_dispose hi, hw.stack,
      liveEntries_dispose hi]

end Wf

end Chain

namespace World

/-- The world with an entry for a value of type `kind` pushed onto the current chain. -/
def pushEntry (w : World) (kind : String) (value : Nat) : World :=
  ({ w with nodes := w.nodes.push { kind, value, parent := w.chain.head } }).setChain
    { w.chain with head := some w.nodes.size }

/-- The world with entry `n` deactivated and the dead entries popped off the current chain. -/
def deactivated (w : World) (n : Nat) : World :=
  let w' := { w with nodes := w.nodes.modify n fun x => { x with disposed := true } }
  w'.setChain (w'.chain.popDead w'.nodes)

@[simp] theorem pushEntry_nodes (w : World) (kind : String) (value : Nat) :
    (w.pushEntry kind value).nodes = w.nodes.push { kind, value, parent := w.chain.head } := by
  simp [pushEntry]

@[simp] theorem deactivated_nodes (w : World) (n : Nat) :
    (w.deactivated n).nodes = w.nodes.modify n fun x => { x with disposed := true } := by
  simp [deactivated]

@[simp] theorem pushEntry_flow_isSome (w : World) (kind : String) (value : Nat) :
    (w.pushEntry kind value).flow.isSome = w.flow.isSome := by
  simp [pushEntry]

@[simp] theorem deactivated_flow_isSome (w : World) (n : Nat) :
    (w.deactivated n).flow.isSome = w.flow.isSome := by
  simp [deactivated]

theorem pushEntry_thread_of_flow {w : World} (h : w.flow.isSome) (kind : String) (value : Nat) :
    (w.pushEntry kind value).thread = w.thread :=
  setChain_thread_of_flow _ _ h

theorem deactivated_thread_of_flow {w : World} (h : w.flow.isSome) (n : Nat) :
    (w.deactivated n).thread = w.thread :=
  setChain_thread_of_flow _ _ h

/-- The current chain stands for the stack of every live entry. -/
def ChainWf (w : World) : Prop := w.chain.Wf w.nodes

theorem ChainWf.pushEntry {w : World} (hw : w.ChainWf) (kind : String) (value : Nat) :
    (w.pushEntry kind value).ChainWf := by
  have := hw.push kind value
  simpa [ChainWf, World.pushEntry] using this

theorem ChainWf.deactivated {w : World} (hw : w.ChainWf) (n : Nat) : (w.deactivated n).ChainWf := by
  by_cases hn : n < w.nodes.size
  · have := hw.dispose hn
    simpa [ChainWf, World.deactivated] using this
  · have hsame : (w.nodes.modify n fun x => { x with disposed := true }) = w.nodes :=
      World.modify_of_size_le _ (Nat.le_of_not_lt hn)
    have hpop : (w.flow.getD w.thread).popDead w.nodes = w.flow.getD w.thread := hw.popDead_eq
    simpa [ChainWf, World.deactivated, hsame, hpop] using hw

end World

/-! ## Activating and deactivating -/

open Act

variable {σ : Type}

namespace Ambient

theorem current_exec (kind : String) (s : Sys σ) :
    exec (current kind) s = (.ok (s.world.chain.current s.world.nodes kind), s) := by
  simp [current]

theorem push_exec (kind : String) (value : Nat) (s : Sys σ) :
    exec (push kind value) s =
      (.ok s.world.nodes.size, { s with world := s.world.pushEntry kind value }) := by
  simp [push, World.pushEntry]

/-- A scope that refuses nesting fails while a value of its type is ambient, and pushes
nothing. -/
theorem activate_noNesting_exec {kind : String} {create : Act σ Nat} {s : Sys σ} {v : Nat}
    (h : s.world.chain.current s.world.nodes kind = some v) :
    exec (activate kind .noNesting create) s = (.error (nestingFault kind), s) := by
  simp only [activate, exec_bind, current_exec, h]
  rfl

/-- Joining the ambient value of the type pushes an entry for that very value, not a root,
and never creates one. -/
theorem activate_join_exec {kind : String} {create : Act σ Nat} {s : Sys σ} {v : Nat}
    (h : s.world.chain.current s.world.nodes kind = some v) :
    exec (activate kind .joinExisting create) s =
      (.ok ⟨s.world.nodes.size, v, false⟩, { s with world := s.world.pushEntry kind v }) := by
  simp only [activate, exec_bind, current_exec, h]
  simp [push_exec]

/-- Otherwise the value is created, and the entry pushed for it is a root; a failure to
create pushes nothing. -/
theorem activate_create_exec {kind : String} {option : ScopeOption} {create : Act σ Nat}
    {s : Sys σ} (h : option = .forceCreateNew ∨ s.world.chain.current s.world.nodes kind = none) :
    exec (activate kind option create) s =
      match exec create s with
      | (.ok v, s₁) => (.ok ⟨s₁.world.nodes.size, v, true⟩, { s₁ with world := s₁.world.pushEntry kind v })
      | (.error e, s₁) => (.error e, s₁) := by
  simp only [activate, exec_bind, current_exec]
  rcases h with rfl | h
  · cases s.world.chain.current s.world.nodes kind <;>
    · simp only [exec_bind]
      rcases exec create s with ⟨_ | _, _⟩ <;> simp [push_exec]
  · rw [h]
    cases option <;>
    · simp only [exec_bind]
      rcases exec create s with ⟨_ | _, _⟩ <;> simp [push_exec]

end Ambient

namespace Scope

/-- Deactivating a scope answers whether its entry was live, and leaves it deactivated. -/
theorem deactivate_exec (sc : Scope) (s : Sys σ) :
    exec (deactivate sc) s =
      if (s.world.nodes[sc.node]?.getD default).disposed then (.ok false, s)
      else (.ok true, { s with world := s.world.deactivated sc.node }) := by
  simp only [deactivate, exec_bind, exec_world, Array.getD_eq_getD_getElem?]
  split <;> simp [World.deactivated]

end Scope

namespace World

/-- What of a world the ambient chains consist of: the entries, the thread's chain and the
flow's chain. -/
def chains (w : World) : Array Node × Chain × Option Chain := (w.nodes, w.thread, w.flow)

theorem chainWf_of_chains {w w' : World} (h : w'.chains = w.chains) (hw : w.ChainWf) :
    w'.ChainWf := by
  simp only [chains, Prod.mk.injEq] at h
  obtain ⟨hn, ht, hf⟩ := h
  simpa [ChainWf, hn, ht, hf] using hw

theorem chains_pushEntry {w w' : World} (h : w'.chains = w.chains) (kind : String) (value : Nat) :
    (w'.pushEntry kind value).chains = (w.pushEntry kind value).chains := by
  simp only [chains, Prod.mk.injEq] at h
  obtain ⟨hn, ht, hf⟩ := h
  simp only [chains, pushEntry, setChain, chain, hn, ht, hf]
  split <;> rfl

end World

/-! ## Sequences of calls of one flow -/

namespace Ambient

/-- Creating a value leaves the ambient chains and their entries alone. -/
def KeepsChains (create : Act σ Nat) : Prop :=
  ∀ ⦃s s' r⦄, exec create s = (r, s') → s'.world.chains = s.world.chains

/-- A call a single flow makes on the ambient chain: activate a scope for a value of type
`kind` (a root's value comes from `create`), or deactivate a scope it holds. -/
inductive Call (σ : Type) where
  | activate (kind : String) (option : ScopeOption) (create : Act σ Nat)
  | deactivate (scope : Scope)

namespace Call

/-- Make the call; the flow goes on whatever it answers. -/
def run : Call σ → Act σ Unit
  | activate kind option create => do let _ ← Act.outcome (Ambient.activate kind option create)
  | deactivate scope => do let _ ← Scope.deactivate scope

/-- Make calls one after the other. -/
def runAll : List (Call σ) → Act σ Unit
  | [] => pure ()
  | c :: calls => do c.run; runAll calls

/-- The call creates its values without touching the chains. -/
def Clean : Call σ → Prop
  | activate _ _ create => KeepsChains create
  | deactivate _ => True

/-- Whether the call deactivates entry `n`. -/
def deactivates (n : Nat) : Call σ → Bool
  | activate .. => false
  | deactivate scope => scope.node == n

theorem runAll_cons_of_ok {c : Call σ} (calls : List (Call σ)) {s s₁ : Sys σ}
    (h : exec c.run s = (.ok (), s₁)) : exec (runAll (c :: calls)) s = exec (runAll calls) s₁ := by
  simp only [runAll, exec_bind, h]

/-- An activation goes on whatever it answers, and either leaves the chains as they were or
pushes one entry of its type onto the current chain. -/
theorem run_activate (kind : String) (option : ScopeOption) {create : Act σ Nat}
    (hc : KeepsChains create) (s : Sys σ) :
    (exec (activate kind option create).run s).1 = .ok () ∧
      ((exec (activate kind option create).run s).2.world.chains = s.world.chains ∨
        ∃ v, (exec (activate kind option create).run s).2.world.chains =
          (s.world.pushEntry kind v).chains) := by
  rw [run, exec_outcome_then_pure]
  refine ⟨rfl, ?_⟩
  have created : ∀ v s₁, exec create s = (.ok v, s₁) →
      (s₁.world.pushEntry kind v).chains = (s.world.pushEntry kind v).chains :=
    fun v s₁ h => World.chains_pushEntry (hc h) kind v
  have failed : ∀ e s₁, exec create s = (.error e, s₁) → s₁.world.chains = s.world.chains :=
    fun _ _ h => hc h
  cases hcur : s.world.chain.current s.world.nodes kind with
  | some v =>
    cases option with
    | noNesting => exact .inl (by rw [activate_noNesting_exec hcur])
    | joinExisting => exact .inr ⟨v, by rw [activate_join_exec hcur]⟩
    | forceCreateNew =>
      rw [activate_create_exec (.inl rfl)]
      rcases hcr : exec create s with ⟨_ | v', s₁⟩
      · exact .inl (failed _ _ hcr)
      · exact .inr ⟨v', created v' s₁ hcr⟩
  | none =>
    rw [activate_create_exec (.inr hcur)]
    rcases hcr : exec create s with ⟨_ | v', s₁⟩
    · exact .inl (failed _ _ hcr)
    · exact .inr ⟨v', created v' s₁ hcr⟩

/-- A deactivation goes on whatever it answers; it deactivates a live entry. -/
theorem run_deactivate (sc : Scope) (s : Sys σ) :
    exec (deactivate sc).run s =
      if (s.world.nodes[sc.node]?.getD default).disposed then (.ok (), s)
      else (.ok (), { s with world := s.world.deactivated sc.node }) := by
  by_cases hd : (s.world.nodes[sc.node]?.getD default).disposed <;>
    simp [run, Scope.deactivate_exec, hd]

theorem run_ok {c : Call σ} (hc : c.Clean) (s : Sys σ) :
    exec c.run s = (.ok (), (exec c.run s).2) := by
  cases c with
  | activate kind option create => exact Prod.ext (run_activate kind option hc s).1 rfl
  | deactivate sc => rw [run_deactivate]; split <;> rfl

/-- One call keeps the current chain a stack of the live entries. -/
theorem run_chainWf {c : Call σ} (hc : c.Clean) {s : Sys σ} (hw : s.world.ChainWf) :
    (exec c.run s).2.world.ChainWf := by
  cases c with
  | activate kind option create =>
    rcases (run_activate kind option hc s).2 with h | ⟨v, h⟩
    · exact World.chainWf_of_chains h hw
    · exact World.chainWf_of_chains h (hw.pushEntry kind v)
  | deactivate sc =>
    rw [run_deactivate]
    split
    · exact hw
    · exact hw.deactivated sc.node

/-- One call adds entries only at the end, and deactivates an existing entry exactly when it
is the call's own. -/
theorem run_disposed {c : Call σ} (hc : c.Clean) (s : Sys σ) {n : Nat}
    (hn : n < s.world.nodes.size) :
    n < (exec c.run s).2.world.nodes.size ∧
      ((exec c.run s).2.world.nodes[n]?.getD default).disposed =
        ((s.world.nodes[n]?.getD default).disposed || c.deactivates n) := by
  cases c with
  | activate kind option create =>
    rcases (run_activate kind option hc s).2 with h | ⟨v, h⟩
    · simp only [World.chains, Prod.mk.injEq] at h
      simp [h.1, deactivates, hn]
    · simp only [World.chains, Prod.mk.injEq] at h
      rw [h.1, World.pushEntry_nodes, Array.size_push, World.getD_push, if_neg (Nat.ne_of_lt hn)]
      exact ⟨Nat.lt_succ_of_lt hn, by simp [deactivates]⟩
  | deactivate sc =>
    rw [run_deactivate]
    split
    · rename_i hd
      refine ⟨hn, ?_⟩
      by_cases hsc : sc.node = n
      · subst hsc; simp [hd, deactivates]
      · simp [deactivates, hsc]
    · refine ⟨by simpa using hn, ?_⟩
      show ((s.world.deactivated sc.node).nodes[n]?.getD default).disposed = _
      rw [World.deactivated_nodes]
      by_cases hlt : sc.node < s.world.nodes.size
      · rw [World.getD_modify_of_lt _ _ _ hlt]
        by_cases hsc : sc.node = n
        · subst hsc; simp [deactivates]
        · simp [deactivates, hsc]
      · have hsc : sc.node ≠ n := by omega
        rw [World.modify_of_size_le _ (Nat.le_of_not_lt hlt)]
        simp [deactivates, hsc]

/-- Inside a flow a call leaves the thread's chain alone, stays in the flow, and changes no
entry below a bound that it does not deactivate. -/
theorem run_frame {c : Call σ} (hc : c.Clean) {s : Sys σ} (hflow : s.world.flow.isSome)
    {N : Nat} (hN : N ≤ s.world.nodes.size) (hd : ∀ n, c.deactivates n → N ≤ n) :
    (exec c.run s).2.world.thread = s.world.thread ∧ (exec c.run s).2.world.flow.isSome ∧
      N ≤ (exec c.run s).2.world.nodes.size ∧
      ∀ i < N, (exec c.run s).2.world.nodes[i]? = s.world.nodes[i]? := by
  cases c with
  | activate kind option create =>
    rcases (run_activate kind option hc s).2 with h | ⟨v, h⟩
    · simp only [World.chains, Prod.mk.injEq] at h
      simp [h.1, h.2.1, h.2.2, hflow, hN]
    · simp only [World.chains, Prod.mk.injEq] at h
      rw [h.1, h.2.1, h.2.2, World.pushEntry_thread_of_flow hflow, World.pushEntry_flow_isSome,
        World.pushEntry_nodes, Array.size_push]
      refine ⟨rfl, hflow, by omega, fun i hi => ?_⟩
      rw [Array.getElem?_push, if_neg (by omega)]
  | deactivate sc =>
    have hsc : N ≤ sc.node := hd sc.node (by simp [deactivates])
    rw [run_deactivate]
    split
    · exact ⟨rfl, hflow, hN, fun _ _ => rfl⟩
    · show (s.world.deactivated sc.node).thread = _ ∧ (s.world.deactivated sc.node).flow.isSome ∧
        N ≤ (s.world.deactivated sc.node).nodes.size ∧ _
      rw [World.deactivated_thread_of_flow hflow, World.deactivated_flow_isSome,
        World.deactivated_nodes, Array.size_modify]
      refine ⟨rfl, hflow, hN, fun i hi => ?_⟩
      rw [Array.getElem?_modify, if_neg (by omega)]

/-- Every sequence of calls keeps the current chain a stack of the live entries. -/
theorem runAll_chainWf {calls : List (Call σ)} (hc : ∀ c ∈ calls, c.Clean) {s : Sys σ}
    (hw : s.world.ChainWf) : (exec (runAll calls) s).2.world.ChainWf := by
  induction calls generalizing s with
  | nil => exact hw
  | cons c calls ih =>
    rw [runAll_cons_of_ok calls (run_ok (hc c (.head _)) s)]
    exact ih (fun c' h => hc c' (.tail _ h)) (run_chainWf (hc c (.head _)) hw)

/-- An entry is deactivated after a sequence of calls exactly when it was before, or one of
the calls deactivated it. -/
theorem runAll_disposed {calls : List (Call σ)} (hc : ∀ c ∈ calls, c.Clean) {s : Sys σ} {n : Nat}
    (hn : n < s.world.nodes.size) :
    ((exec (runAll calls) s).2.world.nodes[n]?.getD default).disposed =
      ((s.world.nodes[n]?.getD default).disposed || calls.any (·.deactivates n)) := by
  induction calls generalizing s with
  | nil => simp [runAll]
  | cons c calls ih =>
    rw [runAll_cons_of_ok calls (run_ok (hc c (.head _)) s)]
    obtain ⟨hn', hstep⟩ := run_disposed (hc c (.head _)) s hn
    rw [ih (fun c' h => hc c' (.tail _ h)) hn', hstep, List.any_cons, Bool.or_assoc]

/-- Inside a flow, calls that deactivate nothing below a bound leave the thread's chain and
every entry below the bound as they were. -/
theorem runAll_frame {calls : List (Call σ)} (hc : ∀ c ∈ calls, c.Clean) {s : Sys σ}
    (hflow : s.world.flow.isSome) {N : Nat} (hN : N ≤ s.world.nodes.size)
    (hd : ∀ c ∈ calls, ∀ n, c.deactivates n → N ≤ n) :
    (exec (runAll calls) s).2.world.thread = s.world.thread ∧
      (exec (runAll calls) s).2.world.flow.isSome ∧ N ≤ (exec (runAll calls) s).2.world.nodes.size ∧
      ∀ i < N, (exec (runAll calls) s).2.world.nodes[i]? = s.world.nodes[i]? := by
  induction calls generalizing s with
  | nil => exact ⟨rfl, hflow, hN, fun _ _ => rfl⟩
  | cons c calls ih =>
    rw [runAll_cons_of_ok calls (run_ok (hc c (.head _)) s)]
    obtain ⟨ht, hf, hle, hpre⟩ := run_frame (hc c (.head _)) hflow hN (hd c (.head _))
    obtain ⟨ht', hf', hle', hpre'⟩ :=
      ih (fun c' h => hc c' (.tail _ h)) hf hle (fun c' h => hd c' (.tail _ h))
    exact ⟨ht'.trans ht, hf', hle', fun i hi => (hpre' i hi).trans (hpre i hi)⟩

end Call

theorem keepsChains_pure (v : Nat) : KeepsChains (pure v : Act σ Nat) := by
  intro s s' r h
  simp only [exec_pure, Prod.mk.injEq] at h
  rw [← h.2]

/-! ## Flows -/

theorem inFlow_exec_some {α : Type} {body : Act σ α} {s : Sys σ} (h : s.world.flow.isSome) :
    exec (inFlow body) s = exec body s := by
  obtain ⟨f, hf⟩ := Option.isSome_iff_exists.mp h
  simp [inFlow, hf]

theorem inFlow_exec_none {α : Type} {body : Act σ α} {s : Sys σ} (h : s.world.flow = none) :
    exec (inFlow body) s =
      ((exec body { s with world := { s.world with flow := some s.world.thread } }).1,
        { (exec body { s with world := { s.world with flow := some s.world.thread } }).2 with
          world := { (exec body { s with world := { s.world with flow := some s.world.thread } }).2.world with
            flow := none } }) := by
  simp [inFlow, h]

/-- A flow started outside any flow, whose calls deactivate only entries it activated,
leaves the caller's chain as it was: the thread's chain, every entry there was, and so the
ambient value of every type. -/
theorem inFlow_keeps_caller_chain {calls : List (Call σ)} (hc : ∀ c ∈ calls, c.Clean)
    {s : Sys σ} (hw : s.world.ChainWf) (hflow : s.world.flow = none)
    (hd : ∀ c ∈ calls, ∀ n, c.deactivates n → s.world.nodes.size ≤ n) :
    (exec (inFlow (Call.runAll calls)) s).2.world.thread = s.world.thread ∧
      (exec (inFlow (Call.runAll calls)) s).2.world.flow = none ∧
      (∀ i < s.world.nodes.size, (exec (inFlow (Call.runAll calls)) s).2.world.nodes[i]? =
        s.world.nodes[i]?) ∧
      ∀ kind, (exec (inFlow (Call.runAll calls)) s).2.world.chain.current
        (exec (inFlow (Call.runAll calls)) s).2.world.nodes kind =
          s.world.chain.current s.world.nodes kind := by
  rw [inFlow_exec_none hflow]
  have hw₀ : World.ChainWf { s.world with flow := some s.world.thread } := by
    simpa [World.ChainWf, hflow] using hw
  obtain ⟨hthread, -, hle, hpre⟩ :=
    Call.runAll_frame hc (s := { s with world := { s.world with flow := some s.world.thread } })
      rfl (Nat.le_refl _) hd
  have hw₁ := Call.runAll_chainWf hc hw₀ (s := { s with world := { s.world with flow := some s.world.thread } })
  have hthr : s.world.chain = s.world.thread := by simp [hflow]
  refine ⟨hthread, rfl, hpre, fun kind => ?_⟩
  have hext := Chain.current_extend hw.older hw₁.older hpre hle hw.head_below kind
  rw [hthr] at hext ⊢
  simp only [World.chain_eq, Option.getD_none, hthread]
  exact hext

/-- The ambient chain is a stack of live entries. From a chain that is one (an empty chain,
say), after any sequence of calls made by one flow: looking a type up gives the value of its
most recent live entry; while there is one, refusing nesting fails and pushes nothing, and
joining pushes a non-root entry for that very value without creating one; forcing a new
scope, or any option while there is none, creates the value and pushes a root for it;
deactivating an entry answers true only if no call deactivated it before; the head is the
most recent live entry, so none once every entry is deactivated; a flow started from there
outside any flow, that deactivates only entries it activated, leaves the chain as it was; and
a flow started inside a flow runs on that flow's chain, just as its body would. -/
theorem chain_is_stack_of_live_entries (calls : List (Call σ)) (hc : ∀ c ∈ calls, c.Clean)
    (s : Sys σ) (hw : s.world.ChainWf) :
    let t := (exec (Call.runAll calls) s).2
    (∀ kind, t.world.chain.current t.world.nodes kind = Chain.latest t.world.nodes kind) ∧
    (∀ kind (create : Act σ Nat) v, Chain.latest t.world.nodes kind = some v →
      exec (activate kind .noNesting create) t = (.error (nestingFault kind), t) ∧
      exec (activate kind .joinExisting create) t =
        (.ok ⟨t.world.nodes.size, v, false⟩, { t with world := t.world.pushEntry kind v })) ∧
    (∀ kind option (create : Act σ Nat),
      option = .forceCreateNew ∨ Chain.latest t.world.nodes kind = none →
      exec (activate kind option create) t =
        match exec create t with
        | (.ok v, t₁) =>
          (.ok ⟨t₁.world.nodes.size, v, true⟩, { t₁ with world := t₁.world.pushEntry kind v })
        | (.error e, t₁) => (.error e, t₁)) ∧
    (∀ sc : Scope, sc.node < s.world.nodes.size →
      (exec (Scope.deactivate sc) t).1 =
        .ok (!(s.world.nodes[sc.node]?.getD default).disposed &&
          !calls.any (·.deactivates sc.node))) ∧
    t.world.chain.head = (Chain.liveEntries t.world.nodes).head? ∧
    ((∀ i < t.world.nodes.size, (t.world.nodes[i]?.getD default).disposed) →
      t.world.chain.head = none) ∧
    (t.world.flow = none → ∀ more : List (Call σ), (∀ c ∈ more, c.Clean) →
      (∀ c ∈ more, ∀ n, c.deactivates n → t.world.nodes.size ≤ n) →
      (exec (inFlow (Call.runAll more)) t).2.world.thread = t.world.thread ∧
      (exec (inFlow (Call.runAll more)) t).2.world.flow = none ∧
      (∀ i < t.world.nodes.size, (exec (inFlow (Call.runAll more)) t).2.world.nodes[i]? =
        t.world.nodes[i]?) ∧
      ∀ kind, (exec (inFlow (Call.runAll more)) t).2.world.chain.current
        (exec (inFlow (Call.runAll more)) t).2.world.nodes kind =
          t.world.chain.current t.world.nodes kind) ∧
    (t.world.flow.isSome → ∀ {α : Type} (body : Act σ α), exec (inFlow body) t = exec body t) := by
  intro t
  have ht : t.world.ChainWf := Call.runAll_chainWf hc hw
  have hlookup : ∀ kind, t.world.chain.current t.world.nodes kind = Chain.latest t.world.nodes kind :=
    ht.current_eq
  refine ⟨hlookup, fun kind create v hv => ?_, fun kind option create hopt => ?_,
    fun sc hsc => ?_, ht.head_eq, fun hall => ?_,
    fun hflow more hmore hd => inFlow_keeps_caller_chain hmore ht hflow hd,
    fun hflow _ _ => inFlow_exec_some hflow⟩
  · rw [← hlookup] at hv
    exact ⟨activate_noNesting_exec hv, activate_join_exec hv⟩
  · rw [← hlookup] at hopt
    exact activate_create_exec hopt
  · -- deactivating answers whether the entry is live, and it is live unless deactivated
    rw [Scope.deactivate_exec, Call.runAll_disposed hc hsc, ← Bool.not_or]
    split <;> rename_i hdead <;> simp [hdead]
  · rw [ht.head_eq, Chain.liveEntries_eq_nil hall]
    rfl

/-- From an empty chain, a root activated and then deactivated leaves the chain empty. -/
theorem root_activated_and_deactivated_empties_chain :
    World.ChainWf ({} : World) ∧
      (exec (Call.runAll [.activate "T" .forceCreateNew (pure 7), .deactivate ⟨0, 7, true⟩])
        (⟨{}, ()⟩ : Sys Unit)).2.world.chain.head = none :=
  ⟨Chain.wf_empty _ rfl,
    (chain_is_stack_of_live_entries [.activate "T" .forceCreateNew (pure 7), .deactivate ⟨0, 7, true⟩]
      (by simp [Call.Clean, keepsChains_pure]) ⟨{}, ()⟩ (Chain.wf_empty _ rfl)).2.2.2.2.2.1
      (by decide)⟩

/-- A flow started inside a flow shares that flow's chain: a scope it leaves open stays on
the caller's chain, and becomes the caller's ambient value. -/
theorem nested_flow_leaves_its_scope_ambient :
    (({ flow := some {} } : World).chain.current ({ flow := some {} } : World).nodes "T" = none) ∧
      (exec (inFlow (Call.runAll [.activate "T" .forceCreateNew (pure 7)]))
        (⟨{ flow := some {} }, ()⟩ : Sys Unit)).2.world.chain.current
        (exec (inFlow (Call.runAll [.activate "T" .forceCreateNew (pure 7)]))
          (⟨{ flow := some {} }, ()⟩ : Sys Unit)).2.world.nodes "T" = some 7 := by
  decide

end Ambient

end ScopedWork