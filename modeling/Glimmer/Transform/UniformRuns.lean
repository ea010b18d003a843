import Glimmer.Transform.Uniformity

namespace Glimmer.Transform

open Lib

namespace PtxBody

variable {Value : Type}
  {opcode : String} {body : PtxBody} {cta : Cta Value} {thread next : PtxThread Value} {emitted : List Nat} {index : Nat}

theorem branch_not_return (branch : isBranch opcode = true) : isReturn opcode = false := by
  simp only [isBranch, Bool.or_eq_true, decide_eq_true_eq] at branch
  rcases branch with rfl | rfl <;> decide

theorem branch_writes_nothing (moves : isBranch opcode = true ∨ isReturn opcode = true) :
    writesNothing opcode = true := by
  rcases moves with branch | exits
  · simp [writesNothing, branch]
  · simp [writesNothing, exits]

theorem step_statement (position : thread.position = some index) (step : ThreadStep body cta thread emitted next) :
    ∃ stmt, body.statements[index]? = some stmt := by
  cases step with
  | jump _ _ stmt _ here | leave _ stmt _ here | skip _ stmt _ here | execute _ stmt _ _ here =>
    exact Option.some.inj position ▸ ⟨stmt, here⟩

def moves (body : PtxBody) (stmt : BodyStatement) (index : Nat) (active : Bool) : Option Nat :=
  if active && isBranch (body.opcodeText stmt) then body.labels.lookup (body.tokens.textAt (stmt.opcode + 1))
  else if active && isReturn (body.opcodeText stmt) then none
  else some (index + 1)

theorem step_moves {stmt : BodyStatement} (position : thread.position = some index)
    (here : body.statements[index]? = some stmt) (step : ThreadStep body cta thread emitted next) :
    next.position = body.moves stmt index (body.acts cta stmt thread.registers) := by
  cases step with
  | jump _ label _ registers found active branch target =>
    cases position
    cases here.symm.trans found
    simp [moves, active, branch, target]
  | leave _ _ registers found active exits =>
    cases position
    cases here.symm.trans found
    have stays : isBranch (body.opcodeText stmt) = false := by
      by_contra branch
      rw [branch_not_return (by simpa using branch)] at exits
      cases exits
    simp [moves, active, exits, stays]
  | skip _ _ registers found inactive =>
    cases position
    cases here.symm.trans found
    simp [moves, inactive]
  | execute _ _ before after found active stays goes effect =>
    cases position
    cases here.symm.trans found
    simp [moves, stays, goes]

def Agrees {words : Nat} (ids : List String) (state : Bits words) (first second : String → Value) : Prop :=
  ∀ name id, registerId ids name = some id → state.contains id = true → first name = second name

variable {body : PtxBody} {table : List (List Nat)} {ids : List String} {facts : List UniformStatement}
  {reachable : List Nat}
  {regions : ReconvergentRegions} {words : Nat} {outputs : Nat → Bits words} {cta : Cta Value}
  (built : body.successorTable = some table) (formed : body.WellFormed)
  (uniform : body.Uniform (graphOf table) ids facts reachable regions outputs)

abbrev meet (table : List (List Nat)) (reachable : List Nat) {words : Nat} (outputs : Nat → Bits words)
    (index : Nat) : Bits words :=
  meetAt (graphOf table) reachable outputs index

include uniform
variable {id index : Nat} {stmt : BodyStatement} {left next right thread : PtxThread Value} {emitted : List Nat}
  {name : String} {first second : String → Value}

theorem fact_described (here : body.statements[index]? = some stmt) :
    body.Described ids stmt (factAt facts index) :=
  uniform_statement_described (uniform.stated index stmt here)

theorem step_unwritten (position : thread.position = some index) (step : ThreadStep body cta thread emitted next)
    (known : registerId ids name = some id) (unwritten : id ∉ (factAt facts index).outputs) :
    next.registers name = thread.registers name := by
  cases step with
  | jump => rfl
  | leave => rfl
  | skip => rfl
  | execute _ stmt before after here active stays goes effect =>
    cases position
    refine (effect ids _ uniform.named (uniform.stated index stmt here)).1 name fun mem => ?_
    obtain ⟨output, written, same⟩ := List.mem_map.mp mem
    have named := (fact_described uniform here).outputs output written
    rw [same, known] at named
    cases named
    exact unwritten written

theorem edge_facts {next : Nat} (here : body.statements[index]? = some stmt)
    (known : index ∈ reachable) (edge : Edge table index next)
    (held : (meet table reachable outputs next).contains id = true) :
    (uniformResult (factAt facts index) (index ∈ regions.interiors) (meet table reachable outputs index) = true ∧
        id ∈ (factAt facts index).outputs) ∨
      ((meet table reachable outputs index).contains id = true ∧ id ∉ (factAt facts index).outputs) := by
  have after := (meet_contains held).2 index ((mem_predecessors index next).mpr ⟨known, edge⟩)
  rw [uniform.solved index known (statement_bound here)] at after
  rcases transfer_contains after with computed | ⟨before, spoilt⟩
  · exact .inl computed
  by_cases written : id ∈ (factAt facts index).outputs
  · refine .inl ⟨?_, written⟩
    by_contra divergent
    exact spoilt (by simpa using divergent) written
  · exact .inr ⟨before, written⟩

variable {target branch join shorter more : Nat} {members events here there : List Nat} {after : PtxThread Value}

theorem tainted_step (here : body.statements[index]? = some stmt) (position : thread.position = some index)
    (known : index ∈ reachable) (tainted : index ∈ regions.interiors ∨ (factAt facts index).outputs = [])
    (step : ThreadStep body cta thread emitted next) (edge : Edge table index target)
    (named : registerId ids name = some id) (held : (meet table reachable outputs target).contains id = true) :
    (meet table reachable outputs index).contains id = true ∧ next.registers name = thread.registers name := by
  rcases edge_facts uniform here known edge held with ⟨computed, written⟩ | ⟨before, unwritten⟩
  · rcases tainted with inside | silent
    · simp [uniformResult, inside] at computed
    · rw [silent] at written
      cases written
  · exact ⟨before, step_unwritten uniform position step named unwritten⟩

include built formed

omit uniform in
theorem region_step (region : body.Region (graphOf table) branch join members)
    (branches : isBranch (body.opcodeAt branch) = true) (inside : index = branch ∨ index ∈ members)
    (position : thread.position = some index) (step : ThreadStep body cta thread emitted next) :
    emitted = [] ∧ ∃ target, next.position = some target ∧ Edge table index target ∧
    (target = join ∨ target ∈ members) := by
  have plain : body.barrierAt index = false ∧ body.returnAt index = false := by
    rcases inside with rfl | mem
    · refine ⟨?_, branch_not_return branches⟩
      by_contra marked
      have bound := barrier_bound (Bool.not_eq_false _ ▸ marked)
      have here : body.statements[index]? = some body.statements[index] := List.getElem?_eq_getElem bound
      rw [barrier_at here, Bool.not_eq_false] at marked
      rw [opcode_at here, (formed.barriers _ (List.getElem_mem bound) marked).2.1] at branches
      cases branches
    · exact region.plain index mem
  obtain ⟨edge, emits, exits⟩ := step_traced built formed position step
  refine ⟨by rw [emits]; simp [plain.1], ?_⟩
  cases goes : next.position with
  | none =>
    rw [exits goes] at plain
    cases plain.2
  | some target =>
    refine ⟨target, rfl, edge target goes, ?_⟩
    rcases inside with rfl | mem
    · exact region.enters target (edge target goes)
    · exact region.stays index mem target (edge target goes)

-- A run from the branch ends inside the region without a sound, or passes the
-- join with every fact of the join unchanged since the branch.
theorem region_run (region : body.Region (graphOf table) branch join members)
    (branches : isBranch (body.opcodeAt branch) = true) (kept : ∀ mem ∈ members, mem ∈ regions.interiors)
    {last : PtxThread Value} {length : Nat} (inside : index = branch ∨ index ∈ members)
    (position : thread.position = some index) (known : index ∈ reachable)
    (run : ThreadRun body cta thread length emitted last) :
    (emitted = [] ∧ ¬ last.Returned) ∨
      ∃ middle rest, middle.position = some join ∧ join ∈ reachable ∧ rest < length ∧
      ThreadRun body cta middle rest emitted last ∧
        ∀ name id, registerId ids name = some id → (meet table reachable outputs join).contains id = true →
          (meet table reachable outputs index).contains id = true ∧ middle.registers name = thread.registers name := by
  induction run generalizing index with
  | nil state => exact .inl ⟨rfl, fun returned => absurd (position.symm.trans returned) (by simp)⟩
  | @cons first second last emitted events length head tail ih =>
    obtain ⟨silent, target, goes, edge, lands⟩ := region_step built formed region branches inside position head
    subst silent
    obtain ⟨stmt, here⟩ := step_statement position head
    have tainted : index ∈ regions.interiors ∨ (factAt facts index).outputs = [] := by
      rcases inside with rfl | mem
      · refine .inr ((fact_described uniform here).silent (branch_writes_nothing (.inl ?_)))
        rw [← opcode_at here]
        exact branches
      · exact .inl (kept index mem)
    have next := uniform.closed index known target edge
    rcases lands with rfl | mem
    · refine .inr ⟨second, length, goes, next, Nat.lt_succ_self _, tail, fun name id named held => ?_⟩
      exact tainted_step uniform here position known tainted head edge named held
    rcases ih (.inr mem) goes next with silent | ⟨middle, rest, at_, joined, shorter, run, preserved⟩
    · exact .inl silent
    refine .inr ⟨middle, rest, at_, joined, Nat.lt_succ_of_lt shorter, run, fun name id named held => ?_⟩
    obtain ⟨later, same⟩ := preserved name id named held
    obtain ⟨before, unchanged⟩ := tainted_step uniform here position known tainted head edge named later
    exact ⟨before, same.trans unchanged⟩

omit built in
theorem acts_agree (here : body.statements[index]? = some stmt)
    (decided : (factAt facts index).predicate.all (meet table reachable outputs index).contains = true)
    (agree : Agrees ids (meet table reachable outputs index) first second) :
    body.acts cta stmt first = body.acts cta stmt second := by
  have named := (fact_described uniform here).predicate
  unfold predicateId at named
  split at named
  · next absent =>
    have plain : stmt.isPredicated = false := by
      by_contra predicated
      exact (formed.predicates stmt (List.mem_of_getElem? here)).mp (by simpa using predicated) absent
    simp [acts, plain]
  · obtain ⟨id, found, same⟩ := Option.map_eq_some_iff.mp named
    rw [← same] at decided
    simp [acts, agree stmt.predicate id found decided]

omit built in
theorem decision_agrees (here : body.statements[index]? = some stmt) (known : index ∈ reachable)
    (outside : index ∉ regions.branches)
    (control : isBranch (body.opcodeText stmt) = true ∨ isReturn (body.opcodeText stmt) = true)
    (agree : Agrees ids (meet table reachable outputs index) first second) :
    body.acts cta stmt first = body.acts cta stmt second := by
  refine acts_agree formed uniform here ?_ agree
  cases predicate : (factAt facts index).predicate with
  | none => rfl
  | some id =>
    have decided := List.all_eq_true.mp uniform.decided index (List.mem_range.mpr (statement_bound here))
    have decides : (isBranch (body.opcodeAt index) || body.returnAt index) = true := by
      rw [returnAt, opcode_at here, Bool.or_eq_true]
      exact control
    simp only [known, outside, predicate, decides, decide_true, not_false_eq_true, Bool.and_true, Bool.true_and,
      Option.any_some, Bool.not_not] at decided
    rw [uniform.solved index known (statement_bound here)] at decided
    rcases transfer_contains decided with ⟨_, written⟩ | ⟨before, _⟩
    · rw [(fact_described uniform here).silent (branch_writes_nothing control)] at written
      cases written
    · exact before

def Synced (table : List (List Nat)) (ids : List String) (reachable : List Nat) {words : Nat} (outputs : Nat → Bits words)
    (left right : PtxThread Value) : Prop :=
  ∃ index, left.position = some index ∧ right.position = some index ∧ index ∈ reachable ∧
    Agrees ids (meet table reachable outputs index) left.registers right.registers

omit built formed in
theorem step_written (here : body.statements[index]? = some stmt) (position : thread.position = some index)
    (step : ThreadStep body cta thread emitted next) (computes : (factAt facts index).isUniform = true)
    (known : registerId ids name = some id) (written : id ∈ (factAt facts index).outputs) :
    next.registers name = if body.acts cta stmt thread.registers then
      cta.result index ((factAt facts index).inputs.map fun input => thread.registers (nameOf ids input)) name
      else thread.registers name := by
  have silent := (fact_described uniform here).silent
  cases step with
  | jump _ _ _ _ found _ branch =>
    cases position
    cases here.symm.trans found
    rw [silent (branch_writes_nothing (.inl branch))] at written
    cases written
  | leave _ _ _ found _ exits =>
    cases position
    cases here.symm.trans found
    rw [silent (branch_writes_nothing (.inr exits))] at written
    cases written
  | skip _ _ _ found inactive =>
    cases position
    cases here.symm.trans found
    rw [if_neg (by simp [inactive])]
  | execute _ _ before after found active stays goes effect =>
    cases position
    cases here.symm.trans found
    rw [if_pos active]
    refine (effect ids _ uniform.named (uniform.stated index stmt here)).2 computes name ?_
    exact List.mem_map.mpr ⟨id, written, name_of_id known⟩

section
variable (position : left.position = some index) (other : right.position = some index) (known : index ∈ reachable)
  (agree : Agrees ids (meet table reachable outputs index) left.registers right.registers)
  (step : ThreadStep body cta left emitted next) (move : ThreadStep body cta right events after)
include position other known agree step move

omit built in
theorem outputs_agree (here : body.statements[index]? = some stmt) (edge : Edge table index target) :
    Agrees ids (meet table reachable outputs target) next.registers after.registers := by
  intro name id named held
  rcases edge_facts uniform here known edge held with ⟨computed, written⟩ | ⟨before, unwritten⟩
  · simp only [uniformResult, Bool.and_eq_true, Bool.or_eq_true] at computed
    obtain ⟨⟨⟨⟨computes, _⟩, inputs⟩, decided⟩, kept⟩ := computed
    rw [step_written uniform here position step computes named written,
      step_written uniform here other move computes named written,
      acts_agree formed uniform here decided agree]
    have arguments : ((factAt facts index).inputs.map fun input => left.registers (nameOf ids input)) =
        (factAt facts index).inputs.map fun input => right.registers (nameOf ids input) := by
      refine List.map_congr_left fun input mem => agree _ input ?_ (List.all_eq_true.mp inputs input mem)
      exact (fact_described uniform here).inputs input mem
    rw [arguments]
    split
    · rfl
    next inactive =>
    rcases kept with plain | held
    · have named := (fact_described uniform here).predicate
      have predicated : stmt.isPredicated = true := by
        by_contra unpredicated
        exact inactive (unpredicated_acts body cta _ (by simpa using unpredicated))
      have present := (formed.predicates stmt (List.mem_of_getElem? here)).mp predicated
      rw [Option.isNone_iff_eq_none.mp plain, predicateId, if_neg present, Option.map_eq_some_iff] at named
      obtain ⟨_, _, impossible⟩ := named
      cases impossible
    · exact agree name id named (List.all_eq_true.mp held id written)
  · rw [step_unwritten uniform position step named unwritten, step_unwritten uniform other move named unwritten]
    exact agree name id named before

theorem synced_step (outside : index ∉ regions.branches) :
    emitted = events ∧ (next.Returned ∧ after.Returned ∨ Synced table ids reachable outputs next after) := by
  obtain ⟨stmt, here⟩ := step_statement position step
  have traced := step_traced built formed position step
  have mirrored := step_traced built formed other move
  have together : next.position = after.position := by
    rw [step_moves position here step, step_moves other here move]
    by_cases control : isBranch (body.opcodeText stmt) = true ∨ isReturn (body.opcodeText stmt) = true
    · rw [decision_agrees formed uniform here known outside control agree]
    · simp only [not_or, Bool.not_eq_true] at control
      simp [moves, control.1, control.2]
  refine ⟨traced.emits.trans mirrored.emits.symm, ?_⟩
  cases goes : next.position with
  | none => exact .inl ⟨goes, together.symm.trans goes⟩
  | some target =>
    refine .inr ⟨target, goes, together.symm.trans goes, uniform.closed index known target (traced.edge target goes), ?_⟩
    exact outputs_agree formed uniform position other known agree step move here (traced.edge target goes)

end

theorem synced_meets {first second : PtxThread Value} (synced : Synced table ids reachable outputs left right)
    (run : ThreadRun body cta left shorter here first) (other : ThreadRun body cta right more there second) :
    Meets (ThreadStep body cta) PtxThread.Returned (Synced table ids reachable outputs) (shorter + more) here there first
      second := by
  obtain ⟨index, position, mirrored, known, agree⟩ := synced
  have running : ∀ {thread : PtxThread Value}, thread.position = some index → ¬ thread.Returned := by
    intro thread at_ returned
    cases at_.symm.trans returned
  by_cases inside : index ∈ regions.branches
  · obtain ⟨join, members, region, kept⟩ := uniform.reconvergent.regions index inside
    have branches := uniform.reconvergent.branches index inside
    rcases region_run built formed uniform region branches kept (.inl rfl) position known run with
      ⟨silent, open_⟩ | ⟨middle, rest, joins, joined, less, tail, preserved⟩
    · exact .left silent open_
    · rcases region_run built formed uniform region branches kept (.inl rfl) mirrored known other with
        ⟨silent, open_⟩ | ⟨mate, left_, meets, _, fewer, back, unchanged⟩
      · exact .right silent open_
      · refine .again [] here there middle mate rest left_
          ⟨join, joins, meets, joined, fun name id named held => ?_⟩ tail back (by omega) rfl rfl
        obtain ⟨before, same⟩ := preserved name id named held
        rw [same, (unchanged name id named held).2]
        exact agree name id named before
  · cases run with
    | nil => exact .left rfl (running position)
    | cons head tail =>
      cases other with
      | nil => exact .right rfl (running mirrored)
      | cons step rest =>
        obtain ⟨same, ⟨ends, done⟩ | again⟩ :=
          synced_step built formed uniform position mirrored known agree head step inside
        · rw [(returned_run ends tail).1, (returned_run done rest).1]
          exact .ended (by rw [same])
        · subst same
          exact .again _ _ _ _ _ _ _ again tail rest (by omega) rfl rfl

theorem uniform_runs_aligned (filled : 0 < body.count) (run : ThreadRun body cta ⟨some 0, first⟩ shorter here left)
    (other : ThreadRun body cta ⟨some 0, second⟩ more there right) :
    Aligned PtxThread.Returned here there left right := by
  refine lockstep_aligned (fun _ _ _ _ _ _ _ _ => synced_meets built formed uniform) ?_ run other
  refine ⟨0, rfl, rfl, uniform.entry filled, fun name id _ held => ?_⟩
  exact absurd rfl (meet_contains held).1

end PtxBody

end Glimmer.Transform
