import Glimmer.Lib.Lockstep
import Glimmer.Lib.MarkedPaths
import Glimmer.Lib.OptionFold
import Glimmer.Transform.ControlFlow

namespace Glimmer.Transform

open Lib Relation

variable {Value : Type}

-- What the threads of one CTA share: when a predicate value holds, and what a uniform statement computes for each
-- output from the values of its register operands. Its literals, parameters and CTA coordinates are fixed.
structure Cta (Value : Type) where
  truth : Value → Bool
  result : Nat → List Value → String → Value

-- A thread that has returned has no position.
structure PtxThread (Value : Type) where
  position : Option Nat
  registers : String → Value

def PtxThread.Returned (thread : PtxThread Value) : Prop := thread.position = none

namespace PtxBody

def negated (body : PtxBody) (stmt : BodyStatement) : Bool := body.tokens.textAt (stmt.opcode - 2) = "!"

def acts (body : PtxBody) (cta : Cta Value) (stmt : BodyStatement) (registers : String → Value) : Bool :=
  !stmt.isPredicated || cta.truth (registers stmt.predicate) != body.negated stmt

def nameOf (ids : List String) (id : Nat) : String := ids[id]?.getD ""

-- A statement changes only its outputs, and a uniform one computes them from
-- its inputs; a statement without facts may change anything.
def Effect (body : PtxBody) (cta : Cta Value) (index : Nat) (stmt : BodyStatement) (before after : String → Value) :
    Prop :=
  ∀ ids fact, body.registerIds = some ids → body.uniformStatement ids stmt = some fact →
    (∀ name, name ∉ fact.outputs.map (nameOf ids) → after name = before name) ∧
      (fact.isUniform = true → ∀ name ∈ fact.outputs.map (nameOf ids),
        after name = cta.result index (fact.inputs.map fun id => before (nameOf ids id)) name)

def events (stmt : BodyStatement) (index : Nat) : List Nat := if stmt.hasBarrier then [index] else []

inductive ThreadStep (body : PtxBody) (cta : Cta Value) : PtxThread Value → List Nat → PtxThread Value → Prop where
  | jump (index label : Nat) (stmt : BodyStatement) (registers : String → Value)
      (here : body.statements[index]? = some stmt) (active : body.acts cta stmt registers = true)
      (branch : isBranch (body.opcodeText stmt) = true)
      (target : body.labels.lookup (body.tokens.textAt (stmt.opcode + 1)) = some label) :
      ThreadStep body cta ⟨some index, registers⟩ (events stmt index) ⟨some label, registers⟩
  | leave (index : Nat) (stmt : BodyStatement) (registers : String → Value)
      (here : body.statements[index]? = some stmt) (active : body.acts cta stmt registers = true)
      (exits : isReturn (body.opcodeText stmt) = true) :
      ThreadStep body cta ⟨some index, registers⟩ (events stmt index) ⟨none, registers⟩
  | skip (index : Nat) (stmt : BodyStatement) (registers : String → Value)
      (here : body.statements[index]? = some stmt) (inactive : body.acts cta stmt registers = false) :
      ThreadStep body cta ⟨some index, registers⟩ [] ⟨some (index + 1), registers⟩
  | execute (index : Nat) (stmt : BodyStatement) (before after : String → Value)
      (here : body.statements[index]? = some stmt) (active : body.acts cta stmt before = true)
      (stays : isBranch (body.opcodeText stmt) = false) (goes : isReturn (body.opcodeText stmt) = false)
      (effect : body.Effect cta index stmt before after) :
      ThreadStep body cta ⟨some index, before⟩ (events stmt index) ⟨some (index + 1), after⟩

abbrev ThreadRun (body : PtxBody) (cta : Cta Value) : PtxThread Value → Nat → List Nat → PtxThread Value → Prop :=
  Run (ThreadStep body cta)

variable {body : PtxBody} {table : List (List Nat)} {thread last : PtxThread Value} {length : Nat} {emitted : List Nat}

theorem returned_run {body : PtxBody} {cta : Cta Value}
    (returned : thread.Returned) (run : ThreadRun body cta thread length emitted last) :
    emitted = [] ∧ last = thread := by
  cases run with
  | nil => exact ⟨rfl, rfl⟩
  | cons head tail => cases head <;> cases returned

structure WellFormed (body : PtxBody) : Prop where
  barriers : ∀ stmt ∈ body.statements, stmt.hasBarrier = true → stmt.isPredicated = false ∧
    isBranch (body.opcodeText stmt) = false ∧ isReturn (body.opcodeText stmt) = false
  predicates : ∀ stmt ∈ body.statements, stmt.isPredicated = true ↔ stmt.predicate ≠ ""

theorem unpredicated_acts (body : PtxBody) (cta : Cta Value) {stmt : BodyStatement} (registers : String → Value)
    (plain : stmt.isPredicated = false) : body.acts cta stmt registers = true := by
  simp [acts, plain]

section Graph
variable {cta : Cta Value}

def Edge (table : List (List Nat)) (source target : Nat) : Prop := target ∈ graphOf table source

variable {index : Nat} {stmt : BodyStatement}

section
variable (here : body.statements[index]? = some stmt)
include here

theorem statement_bound : index < body.count :=
  (List.getElem?_eq_some_iff.mp here).1

theorem opcode_at : body.opcodeAt index = body.opcodeText stmt := by
  simp [opcodeAt, here]

theorem barrier_at : body.barrierAt index = stmt.hasBarrier := by
  simp [barrierAt, here]

end

theorem barrier_bound (marked : body.barrierAt index = true) : index < body.count := by
  by_contra outside
  have absent : body.statements[index]? = none := List.getElem?_eq_none (Nat.le_of_not_lt outside)
  simp [barrierAt, absent] at marked

structure Follows (body : PtxBody) (index : Nat) (stmt : BodyStatement) (targets : List Nat) : Prop where
  jumps : ∀ label, isBranch (body.opcodeText stmt) = true →
    body.labels.lookup (body.tokens.textAt (stmt.opcode + 1)) = some label → label ∈ targets
  falls : (isBranch (body.opcodeText stmt) = false ∧ isReturn (body.opcodeText stmt) = false) ∨
    stmt.isPredicated = true → index + 1 ∈ targets
  bounded : ∀ target ∈ targets, target < body.count

theorem successors_follow {targets : List Nat} (bound : index < body.count)
    (computed : body.successorsOf index stmt = some targets) : body.Follows index stmt targets := by
  obtain ⟨jumped, target, rest⟩ := Option.bind_eq_some_iff.mp computed
  unfold branchTargets at target
  have inside : ∀ label ∈ jumped, label < body.count := by
    intro label mem
    split at target
    · split at target
      · cases target
      · split at target
        · cases target
        · next known =>
          cases target
          rw [List.mem_singleton] at mem
          omega
    · cases target
      cases mem
  have branches : ∀ label, isBranch (body.opcodeText stmt) = true →
      body.labels.lookup (body.tokens.textAt (stmt.opcode + 1)) = some label → label ∈ jumped := by
    intro label branch found
    rw [if_pos branch, found] at target
    dsimp only at target
    split at target
    · cases target
    · cases target
      exact List.mem_singleton.mpr rfl
  split at rest
  · split at rest
    · cases rest
    · next further =>
      cases rest
      refine ⟨fun label branch found => List.mem_append_left _ (branches label branch found), fun _ => by simp, ?_⟩
      intro label mem
      rcases List.mem_append.mp mem with jump | fall
      · exact inside label jump
      · rw [List.mem_singleton] at fall
        omega
  · next stops =>
    cases rest
    refine ⟨branches, fun falls => absurd ?_ stops, inside⟩
    rcases falls with ⟨stays, goes⟩ | predicated
    · simp [stays, goes]
    · simp [predicated]

section
variable (built : body.successorTable = some table)
include built

theorem statement_follows
    (here : body.statements[index]? = some stmt) : body.Follows index stmt (graphOf table index) := by
  have listed : (body.statements.zipIdx)[index]? = some (stmt, index) := by simp [here]
  obtain ⟨value, found, computed⟩ := mapM_some_entry built listed
  refine successors_follow (statement_bound here) ?_
  rw [computed, graphOf, found]
  rfl

theorem graph_bounded (inside : index < body.count) : ∀ target ∈ graphOf table index, target < body.count := by
  have here : body.statements[index]? = some body.statements[index] := List.getElem?_eq_getElem inside
  exact (statement_follows built here).bounded

-- A step follows an edge, emits its statement if that is a barrier, and can only leave from a return.
structure Traced (body : PtxBody) (table : List (List Nat)) (index : Nat) (emitted : List Nat) (next : Option Nat) :
    Prop where
  edge : ∀ target, next = some target → Edge table index target
  emits : emitted = [index].filter body.barrierAt
  exits : next = none → body.returnAt index = true

variable (formed : body.WellFormed) (position : thread.position = some index)
include formed position

theorem step_traced {next : PtxThread Value} (step : ThreadStep body cta thread emitted next) :
    Traced body table index emitted next.position := by
  have marked : ∀ stmt, body.statements[index]? = some stmt →
      events stmt index = [index].filter body.barrierAt := by
    intro stmt here
    simp [events, List.filter_cons, List.filter_nil, barrier_at here]
  cases step with
  | jump _ label stmt registers here active branch target =>
    cases position
    refine ⟨?_, marked stmt here, by simp⟩
    rintro _ ⟨rfl⟩
    exact (statement_follows built here).jumps label branch target
  | leave _ stmt registers here active exits =>
    cases position
    exact ⟨by simp, marked stmt here, fun _ => by rw [returnAt, opcode_at here]; exact exits⟩
  | skip _ stmt registers here inactive =>
    cases position
    have predicated : stmt.isPredicated = true := by
      by_contra plain
      rw [unpredicated_acts body cta registers (by simpa using plain)] at inactive
      cases inactive
    refine ⟨?_, ?_, by simp⟩
    · rintro _ ⟨rfl⟩
      exact (statement_follows built here).falls (.inr predicated)
    · rw [← marked stmt here, events, if_neg]
      intro barrier
      have plain := (formed.barriers stmt (List.mem_of_getElem? here) barrier).1
      rw [predicated] at plain
      cases plain
  | execute _ stmt before after here active stays goes effect =>
    cases position
    refine ⟨?_, marked stmt here, by simp⟩
    rintro _ ⟨rfl⟩
    exact (statement_follows built here).falls (.inl ⟨stays, goes⟩)

theorem run_walk (run : ThreadRun body cta thread length emitted last) :
    ∃ path, Walk (Edge table) index path ∧ emitted = path.filter body.barrierAt ∧
      (last.Returned → ∃ exit, path.getLast? = some exit ∧ body.returnAt exit = true) := by
  induction run generalizing index with
  | nil state => exact ⟨[], ⟨.nil, by simp⟩, rfl, fun returned => absurd (position.symm.trans returned) (by simp)⟩
  | @cons first second last emitted rest length head tail ih =>
    obtain ⟨edge, emits, exits⟩ := step_traced built formed position head
    cases goes : second.position with
    | none =>
      obtain ⟨silent, rfl⟩ := returned_run goes tail
      refine ⟨[index], ⟨.singleton _, by simp⟩, by rw [emits, silent, List.append_nil],
        fun _ => ⟨index, rfl, exits goes⟩⟩
    | some target =>
      obtain ⟨path, walk, events, returns⟩ := ih goes
      refine ⟨index :: path, ⟨?_, by simp⟩, ?_, fun returned => ?_⟩
      · refine List.isChain_cons.mpr ⟨fun next first => ?_, walk.chained⟩
        rw [walk.rooted next first]
        exact edge target goes
      · rw [emits, events, ← List.filter_append]
        rfl
      · obtain ⟨exit, ends, leaves⟩ := returns returned
        refine ⟨exit, ?_, leaves⟩
        cases path with
        | nil => cases ends
        | cons next rest => rw [List.getLast?_cons_cons]; exact ends

end

end Graph

variable {barrier : Nat}

section
variable (built : body.successorTable = some table)
include built

theorem range_inside : ∀ node ∈ List.range body.count, ∀ next ∈ graphOf table node, next ∈ List.range body.count := by
  intro node inside next edge
  exact List.mem_range.mpr (graph_bounded built (List.mem_range.mp inside) next edge)

omit built in
theorem is_hit_iff {outcome : Search Nat} : isHit outcome = true ↔ ∃ work, outcome = .hit work := by
  cases outcome <;> simp [isHit]

omit built in
theorem trans_reaches {target : Nat} (path : TransGen (Edge table) barrier target) :
    Reaches (graphOf table) (fun _ => false) (graphOf table barrier).reverse target := by
  induction path with
  | single edge => exact .source _ (List.mem_reverse.mpr edge) rfl
  | tail _ edge ih => exact .edge _ _ ih edge rfl

theorem on_cycle_of_path (inside : barrier < body.count)
    (cycle : TransGen (Edge table) barrier barrier) : body.onCycle (graphOf table) barrier = true := by
  refine (is_hit_iff).mpr ((search_hit_iff List.nodup_range (range_inside built) ?_).mpr ?_)
  · intro node mem
    exact range_inside built barrier (List.mem_range.mpr inside) node (List.mem_reverse.mp mem)
  · exact ⟨barrier, trans_reaches cycle, by simp⟩

omit built in
theorem walk_reaches {stop : Nat → Bool} {path : List Nat} (walk : Walk (Edge table) 0 path)
    (free : ∀ node ∈ path, stop node = false) : ∀ node ∈ path, Reaches (graphOf table) stop [0] node := by
  induction path using List.reverseRecOn with
  | nil => simp
  | append_singleton front last ih =>
    have before := ih (walk_take walk) fun node mem => free node (List.mem_append_left _ mem)
    intro node mem
    rcases List.mem_append.mp mem with early | here
    · exact before node early
    rw [List.mem_singleton] at here
    subst here
    have unstopped := free node (by simp)
    cases ends : front.getLast? with
    | none =>
      rw [List.getLast?_eq_none_iff] at ends
      subst ends
      rw [walk.rooted node rfl] at unstopped ⊢
      exact .source 0 (by simp) unstopped
    | some previous =>
      have edge := (List.isChain_append.mp walk.chained).2.2 previous ends node rfl
      exact .edge previous node (before previous (List.mem_of_getLast? ends)) edge unstopped

theorem unflagged_dominating
    (clear : (body.barriers.any fun barrier => body.onCycle (graphOf table) barrier ||
      body.bypassed (graphOf table) barrier) = false) :
    Dominating (Edge table) body.barrierAt (fun index => body.returnAt index = true) 0 := by
  have unflagged : ∀ barrier, body.barrierAt barrier = true →
      body.onCycle (graphOf table) barrier = false ∧ body.bypassed (graphOf table) barrier = false := by
    intro barrier marked
    have listed : barrier ∈ body.barriers := List.mem_filter.mpr ⟨List.mem_range.mpr (barrier_bound marked), marked⟩
    have flags := List.any_eq_false.mp clear barrier listed
    rwa [Bool.not_eq_true, Bool.or_eq_false_iff] at flags
  refine ⟨fun barrier marked cycle => ?_, fun barrier path exit marked walk ends leaves => ?_⟩
  · have flag := (unflagged barrier marked).1
    rw [on_cycle_of_path built (barrier_bound marked) cycle] at flag
    cases flag
  · by_contra missed
    have inside := barrier_bound marked
    refine absurd ?_ (Bool.eq_false_iff.mp (unflagged barrier marked).2)
    refine (is_hit_iff).mpr ((search_hit_iff List.nodup_range (range_inside built) ?_).mpr ?_)
    · simp only [List.mem_singleton, forall_eq, List.mem_range]
      omega
    · refine ⟨exit, walk_reaches walk (fun node mem => ?_) exit (List.mem_of_getLast? ends), leaves⟩
      exact decide_eq_false fun same => missed (same ▸ mem)

end

end PtxBody

end Glimmer.Transform
