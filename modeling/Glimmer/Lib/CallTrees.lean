import Mathlib.Logic.Function.Basic

namespace Glimmer.Lib

-- A call on a shared service, section by section: a node enters one atomic
-- operation, and the reply decides what follows.
inductive CallTree {ω : Type} (Reply : ω → Type) (α : Type) where
  | done (result : α)
  | enter (op : ω) (next : Reply op → CallTree Reply α)

namespace CallTree

variable {ω : Type} {Reply : ω → Type} {α β : Type}

def perform (op : ω) : CallTree Reply (Reply op) := .enter op .done

protected def bind : CallTree Reply α → (α → CallTree Reply β) → CallTree Reply β
  | .done result, rest => rest result
  | .enter op next, rest => .enter op fun reply => (next reply).bind rest

instance : Monad (CallTree Reply) where
  pure := .done
  bind := CallTree.bind

@[simp] theorem pure_eq {result : α} : (pure result : CallTree Reply α) = .done result := rfl

@[simp] theorem done_bind {result : α} {rest : α → CallTree Reply β} : (.done result >>= rest) = rest result := rfl

@[simp] theorem perform_bind {op : ω} {rest : Reply op → CallTree Reply β} : (perform op >>= rest) = .enter op rest := rfl

def Only (allowed : ω → Prop) : CallTree Reply α → Prop
  | .done _ => True
  | .enter op next => allowed op ∧ ∀ reply, Only allowed (next reply)

variable {allowed : ω → Prop} {tree : CallTree Reply α}

theorem only_perform {op : ω} (permitted : allowed op) : Only allowed (perform op : CallTree Reply (Reply op)) :=
  ⟨permitted, fun _ => trivial⟩

theorem only_bind {rest : α → CallTree Reply β} (first : Only allowed tree)
    (second : ∀ result, Only allowed (rest result)) : Only allowed (tree >>= rest) := by
  induction tree with
  | done result => exact second result
  | enter op next ih => exact ⟨first.1, fun reply => ih reply (first.2 reply)⟩

theorem only_call {op : ω} {rest : Reply op → CallTree Reply β} (permitted : allowed op)
    (second : ∀ reply, Only allowed (rest reply)) : Only allowed (perform op >>= rest) :=
  ⟨permitted, second⟩

inductive Returns {ω : Type} {Reply : ω → Type} {α : Type} : CallTree Reply α → α → Prop where
  | done (result : α) : Returns (.done result) result
  | enter {op : ω} {next : Reply op → CallTree Reply α} {result : α} (reply : Reply op)
      (rest : Returns (next reply) result) : Returns (.enter op next) result

theorem returns_done {result other : α} (returns : Returns (.done result : CallTree Reply α) other) : other = result := by
  cases returns
  rfl

theorem returns_bind {rest : α → CallTree Reply β} {result : β}
    (returns : Returns (tree >>= rest) result) : ∃ middle, Returns tree middle ∧ Returns (rest middle) result := by
  induction tree with
  | done middle => exact ⟨middle, .done middle, returns⟩
  | enter op next ih =>
    cases returns with
    | enter reply tail =>
      obtain ⟨middle, first, second⟩ := ih reply tail
      exact ⟨middle, .enter reply first, second⟩

end CallTree

def Lasting {σ : Type} (moves : σ → σ → Prop) (known : σ → Prop) : Prop :=
  ∀ before after, moves before after → known before → known after

section Judgement
variable {σ ι ω : Type} {Reply : ω → Type} {α β : Type}
  (serve : (op : ω) → ι → σ → Reply op × σ) (inv : σ → Prop) (moves : σ → σ → Prop)
  (allowed : ω → σ → Prop)

-- Each section is entered only where it is allowed; between sections the call may rely on what lasts.
def Upholds (post : α → (σ → Prop) → Prop) : (σ → Prop) → CallTree Reply α → Prop
  | known, .done result => post result known
  | known, .enter op next =>
    (∀ state, inv state → known state → allowed op state) ∧ ∀ input state, inv state → known state →
        ∃ learnt, Lasting moves learnt ∧ learnt (serve op input state).2 ∧
          Upholds post learnt (next (serve op input state).1)

variable {serve inv moves allowed}

theorem upholds_bind {post : β → (σ → Prop) → Prop} {middle : α → (σ → Prop) → Prop}
    {rest : α → CallTree Reply β}
    (after : ∀ result known, middle result known → Upholds serve inv moves allowed post known (rest result))
    (tree : CallTree Reply α) (known : σ → Prop) (before : Upholds serve inv moves allowed middle known tree) :
    Upholds serve inv moves allowed post known (tree >>= rest) := by
  induction tree generalizing known with
  | done result => exact after result known before
  | enter op next ih =>
    obtain ⟨permitted, onward⟩ := before
    refine ⟨permitted, fun input state holds here => ?_⟩
    obtain ⟨learnt, lasting, now, tail⟩ := onward input state holds here
    exact ⟨learnt, lasting, now, ih _ learnt tail⟩

theorem upholds_enter {post : α → (σ → Prop) → Prop} {op : ω} {next : Reply op → CallTree Reply α}
    {known : σ → Prop} (lasting : Lasting moves known) (permitted : ∀ state, inv state → known state → allowed op state)
    (moved : ∀ input state, inv state → allowed op state → moves state (serve op input state).2)
    (tail : ∀ reply, Upholds serve inv moves allowed post known (next reply)) :
    Upholds serve inv moves allowed post known (.enter op next) := by
  refine ⟨permitted, fun input state holds here => ⟨known, lasting, ?_, tail _⟩⟩
  exact lasting _ _ (moved input state holds (permitted state holds here)) here

theorem upholds_only {permitted : ω → Prop} (anywhere : ∀ op, permitted op → ∀ state, inv state → allowed op state)
    {tree : CallTree Reply α} (only : tree.Only permitted) :
    Upholds serve inv moves allowed (fun _ _ => True) (fun _ => True) tree := by
  induction tree with
  | done result => trivial
  | enter op next ih =>
    refine ⟨fun state holds _ => anywhere op only.1 state holds, fun input state _ _ => ?_⟩
    exact ⟨fun _ => True, fun _ _ _ _ => trivial, trivial, ih _ (only.2 _)⟩

end Judgement

-- Any number of threads, each in at most one call, over one shared state. The tag of a call is what it was made with.
structure Pool (σ θ τ : Type) {ω : Type} (Reply : ω → Type) (α : Type) where
  shared : σ
  calls : θ → Option (τ × CallTree Reply α)

-- A call may be abandoned between two sections, as by an exception.
inductive PoolEvent (θ τ ι ε : Type) where
  | start (thread : θ) (tag : τ)
  | advance (thread : θ) (input : ι)
  | abandon (thread : θ)
  | outside (event : ε)

namespace Pool

variable {σ θ τ ι ε ω : Type} {Reply : ω → Type} {α : Type}
  (serve : (op : ω) → ι → σ → Reply op × σ) (body : τ → CallTree Reply α) (outside : ε → σ → σ)

def step [DecidableEq θ] (pool : Pool σ θ τ Reply α) : PoolEvent θ τ ι ε → Pool σ θ τ Reply α
  | .start thread tag =>
    if (pool.calls thread).isSome then pool
    else { pool with calls := Function.update pool.calls thread (some (tag, body tag)) }
  | .advance thread input =>
    match pool.calls thread with
    | some (tag, .enter op next) =>
      { shared := (serve op input pool.shared).2
        calls := Function.update pool.calls thread (some (tag, next (serve op input pool.shared).1)) }
    | some (_, .done _) => { pool with calls := Function.update pool.calls thread none }
    | none => pool
  | .abandon thread => { pool with calls := Function.update pool.calls thread none }
  | .outside event => { pool with shared := outside event pool.shared }

def run [DecidableEq θ] (pool : Pool σ θ τ Reply α) (events : List (PoolEvent θ τ ι ε)) : Pool σ θ τ Reply α :=
  events.foldl (step serve body outside) pool

def entering (pool : Pool σ θ τ Reply α) (thread : θ) : Option (τ × ω) :=
  match pool.calls thread with
  | some (tag, .enter op _) => some (tag, op)
  | _ => none

variable {pool : Pool σ θ τ Reply α} {thread : θ} {tag : τ}

theorem entering_some {op : ω}
    (here : pool.entering thread = some (tag, op)) : ∃ next, pool.calls thread = some (tag, .enter op next) := by
  unfold entering at here
  split at here
  · next found =>
    cases here
    exact ⟨_, found⟩
  · cases here

theorem advance_shared [DecidableEq θ] {op : ω} (here : pool.entering thread = some (tag, op)) (input : ι) :
    (step serve body outside pool (.advance thread input)).shared = (serve op input pool.shared).2 := by
  obtain ⟨next, found⟩ := entering_some here
  simp [step, found]

def idle (shared : σ) : Pool σ θ τ Reply α := ⟨shared, fun _ => none⟩

variable (inv : σ → Prop) (moves : σ → σ → Prop) (allowed : τ → ω → σ → Prop)

structure Discipline : Prop where
  opened : ∀ tag, ∃ known, Lasting moves known ∧ (∀ state, inv state → known state) ∧
    Upholds serve inv moves (allowed tag) (fun _ _ => True) known (body tag)
  served : ∀ tag op input state, inv state → allowed tag op state →
    inv (serve op input state).2 ∧ moves state (serve op input state).2
  outer : ∀ event state, inv state → inv (outside event state) ∧ moves state (outside event state)

def Guarded (pool : Pool σ θ τ Reply α) : Prop :=
  inv pool.shared ∧ ∀ thread tag tree, pool.calls thread = some (tag, tree) →
    ∃ known, Lasting moves known ∧ known pool.shared ∧ Upholds serve inv moves (allowed tag) (fun _ _ => True) known tree

variable {serve body outside inv moves allowed} {pool : Pool σ θ τ Reply α}

theorem guarded_allowed (guarded : Guarded serve inv moves allowed pool)
    {op : ω} (here : pool.entering thread = some (tag, op)) : allowed tag op pool.shared := by
  obtain ⟨next, found⟩ := entering_some here
  obtain ⟨known, _, now, permitted, _⟩ := guarded.2 thread tag _ found
  exact permitted _ guarded.1 now

variable {calls : θ → Option (τ × CallTree Reply α)}

theorem guarded_move (guarded : Guarded serve inv moves allowed pool) {after : σ}
    (holds : inv after) (lasts : ∀ known, Lasting moves known → known pool.shared → known after)
    (fresh : ∀ thread tag tree, calls thread = some (tag, tree) → calls thread = pool.calls thread ∨
      ∃ known, Lasting moves known ∧ known after ∧ Upholds serve inv moves (allowed tag) (fun _ _ => True) known tree) :
    Guarded serve inv moves allowed ⟨after, calls⟩ := by
  refine ⟨holds, fun thread tag tree here => ?_⟩
  rcases fresh thread tag tree here with same | own
  · obtain ⟨known, lasting, now, rest⟩ := guarded.2 thread tag tree (same ▸ here)
    exact ⟨known, lasting, lasts known lasting now, rest⟩
  · exact own

theorem update_fresh [DecidableEq θ] (calls : θ → Option (τ × CallTree Reply α)) (thread : θ)
    (value : Option (τ × CallTree Reply α)) (claim : θ → τ → CallTree Reply α → Prop)
    (own : ∀ tag tree, value = some (tag, tree) → claim thread tag tree) (other : θ) (tag : τ) (tree : CallTree Reply α)
    (here : Function.update calls thread value other = some (tag, tree)) :
    Function.update calls thread value other = calls other ∨ claim other tag tree := by
  by_cases same : other = thread
  · subst same
    rw [Function.update_self] at here
    exact .inr (own tag tree here)
  · exact .inl (Function.update_of_ne same _ _)

theorem guarded_step [DecidableEq θ] (discipline : Discipline serve body outside inv moves allowed)
    (guarded : Guarded serve inv moves allowed pool) (event : PoolEvent θ τ ι ε) :
    Guarded serve inv moves allowed (step serve body outside pool event) := by
  have cleared : ∀ thread, Guarded serve inv moves allowed
      { pool with calls := Function.update pool.calls thread none } := by
    intro thread
    exact guarded_move guarded guarded.1 (fun _ _ now => now)
      (update_fresh pool.calls thread none _ nofun)
  cases event with
  | start thread tag =>
    simp only [step]
    split
    · exact guarded
    · refine guarded_move guarded guarded.1 (fun _ _ now => now)
        (update_fresh pool.calls thread _ _ (fun name tree shape => ?_))
      cases shape
      obtain ⟨known, lasting, always, rest⟩ := discipline.opened tag
      exact ⟨known, lasting, always _ guarded.1, rest⟩
  | advance thread input =>
    simp only [step]
    split
    · next tag op next here =>
      obtain ⟨known, _, now, permitted, onward⟩ := guarded.2 thread tag _ here
      obtain ⟨holds, moved⟩ := discipline.served tag op input pool.shared guarded.1 (permitted _ guarded.1 now)
      refine guarded_move guarded holds (fun _ lasting => lasting _ _ moved)
        (update_fresh pool.calls thread _ _ (fun name tree shape => ?_))
      cases shape
      exact onward input pool.shared guarded.1 now
    · exact cleared thread
    · exact guarded
  | abandon thread => exact cleared thread
  | outside event =>
    obtain ⟨holds, moved⟩ := discipline.outer event pool.shared guarded.1
    exact guarded_move guarded holds (fun _ lasting => lasting _ _ moved) (fun thread tag tree _ => .inl rfl)

theorem guarded_idle {shared : σ} (holds : inv shared) :
    Guarded serve inv moves allowed (idle shared : Pool σ θ τ Reply α) :=
  ⟨holds, nofun⟩

theorem guarded_run [DecidableEq θ] (discipline : Discipline serve body outside inv moves allowed)
    (events : List (PoolEvent θ τ ι ε)) (pool : Pool σ θ τ Reply α) (guarded : Guarded serve inv moves allowed pool) :
    Guarded serve inv moves allowed (run serve body outside pool events) := by
  induction events generalizing pool with
  | nil => exact guarded
  | cons event rest ih => exact ih _ (guarded_step discipline guarded event)

end Pool

end Glimmer.Lib
