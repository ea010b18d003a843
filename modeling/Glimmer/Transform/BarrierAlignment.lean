import Glimmer.Transform.PtxBody
import Glimmer.Transform.UniformRuns

namespace Glimmer.Transform

open Lib Relation

variable {index length : Nat} {emitted : List Nat}

section Scan
variable {tokens : Tokens} {kind : BodyKind}

structure StatementFormed (tokens : Tokens) (stmt : BodyStatement) : Prop where
  barrier : stmt.hasBarrier = true → stmt.isPredicated = false ∧
    isBranch (tokens.textAt stmt.opcode) = false ∧ isReturn (tokens.textAt stmt.opcode) = false
  predicate : stmt.isPredicated = true ↔ stmt.predicate ≠ ""

def ScanFormed (tokens : Tokens) (scan : BodyScan) : Prop := ∀ stmt ∈ scan.statements, StatementFormed tokens stmt

variable {next scan : BodyScan} {finish stmt : Nat}

theorem add_statement_formed {stmt : BodyStatement} (added : addStatement scan stmt = some next)
    (formed : ScanFormed tokens scan) (here : StatementFormed tokens stmt) : ScanFormed tokens next := by
  simp only [addStatement] at added
  split at added
  · cases added
  cases added
  intro other mem
  rcases List.mem_append.mp mem with old | new
  · exact formed other old
  · exact List.mem_singleton.mp new ▸ here

theorem directive_formed (stmt finish : Nat) : StatementFormed tokens { opcode := stmt, finish := finish } :=
  ⟨by simp, by simp⟩

variable {opcode : Nat} {isPredicated : Bool} {analysis : BodyAnalysis}

theorem predicate_named {predicate : String}
    (parsed : parsePredicate tokens stmt finish = some (opcode, isPredicated, predicate)) :
    isPredicated = true ↔ predicate ≠ "" := by
  simp only [parsePredicate] at parsed
  split at parsed
  · split at parsed
    · cases parsed
    · next named =>
      obtain ⟨_, rfl, rfl⟩ := parsed
      refine ⟨fun _ empty => named (.inr ?_), fun _ => rfl⟩
      rw [empty]
      decide
  · simp only [Option.some.injEq, Prod.mk.injEq] at parsed
    obtain ⟨_, rfl, rfl⟩ := parsed
    simp

theorem callee_barrier {next : BodyAnalysis}
    (analysed : instructionAnalysis tokens kind analysis opcode finish isPredicated = some (next, true)) :
    isCall (tokens.textAt opcode) = true ∧ isPredicated = false := by
  obtain ⟨⟨inner, barrier⟩, callee, analysed⟩ := Option.bind_eq_some_iff.mp analysed
  obtain ⟨_, rfl⟩ := analysed
  simp only [calleeAnalysis] at callee
  split at callee
  · next call =>
    refine ⟨call, ?_⟩
    obtain ⟨_, _, callee⟩ := Option.bind_eq_some_iff.mp callee
    obtain ⟨_, _, callee⟩ := Option.bind_eq_some_iff.mp callee
    obtain ⟨function, _, callee⟩ := Option.bind_eq_some_iff.mp callee
    split at callee
    · cases callee
    next allowed =>
    simp only [Option.some.injEq, Prod.mk.injEq] at callee
    by_contra predicated
    exact allowed (.inr (.inr ⟨callee.2, .inr (by simpa using predicated)⟩))
  · split at callee
    · simp at callee
    · cases callee

theorem barrier_opcode {opcode : String}
    (barrier : isCall opcode = true ∨ opcode = "bar.sync" ∨ isWarpCollective opcode = true) :
    isBranch opcode = false ∧ isReturn opcode = false := by
  simp only [isCall, isWarpCollective, Bool.or_eq_true, decide_eq_true_eq, List.mem_cons, List.not_mem_nil,
    or_false] at barrier
  rcases barrier with (rfl | rfl) | rfl | rfl | rfl | rfl | rfl | rfl | rfl | rfl | rfl | rfl | rfl | rfl | rfl | rfl
    <;> decide

section
variable (formed : ScanFormed tokens scan)
include formed

theorem scan_instruction_formed
    (scanned : scanInstruction tokens kind scan stmt finish = some next) : ScanFormed tokens next := by
  simp only [scanInstruction] at scanned
  obtain ⟨⟨opcode, isPredicated, predicate⟩, parsed, scanned⟩ := Option.bind_eq_some_iff.mp scanned
  have named := predicate_named parsed
  split at scanned
  · cases scanned
  obtain ⟨⟨analysis, hasBarrier⟩, analysed, scanned⟩ := Option.bind_eq_some_iff.mp scanned
  split at scanned
  · cases scanned
  next synchronises =>
  split at scanned
  · cases scanned
  next collective =>
  split at scanned
  · cases scanned
  split at scanned
  · cases scanned
  refine add_statement_formed scanned formed ⟨fun barrier => ?_, named⟩
  simp only [Bool.or_eq_true, decide_eq_true_eq] at barrier
  rcases barrier with (callee | sync) | warp
  · subst callee
    obtain ⟨call, plain⟩ := callee_barrier analysed
    exact ⟨plain, barrier_opcode (.inl call)⟩
  · refine ⟨?_, barrier_opcode (.inr (.inl sync))⟩
    by_contra predicated
    exact synchronises ⟨sync, .inl (by simpa using predicated)⟩
  · refine ⟨?_, barrier_opcode (.inr (.inr warp))⟩
    by_contra predicated
    exact collective ⟨warp, by simpa using predicated⟩

theorem scan_statement_formed
    (scanned : scanStatement tokens kind scan stmt finish = some next) : ScanFormed tokens next := by
  simp only [scanStatement] at scanned
  split at scanned
  · obtain ⟨registers, _, added⟩ := Option.bind_eq_some_iff.mp scanned
    exact add_statement_formed added formed (directive_formed _ _)
  split at scanned
  · split at scanned
    · exact add_statement_formed scanned formed (directive_formed _ _)
    · cases scanned
  · split at scanned
    · split at scanned
      · cases scanned
      · exact add_statement_formed scanned formed (directive_formed _ _)
    · exact scan_instruction_formed formed scanned

theorem scan_next_formed
    (scanned : scanNext tokens kind finish scan stmt = some (next, index)) : ScanFormed tokens next := by
  simp only [scanNext] at scanned
  split at scanned
  · split at scanned
    · cases scanned
    · cases scanned
      exact formed
  split at scanned
  · split at scanned
    · cases scanned
    · cases scanned
      exact formed
  split at scanned
  · obtain ⟨_, _, same⟩ := Option.map_eq_some_iff.mp scanned
    cases same
    exact formed
  split at scanned
  · split at scanned
    · cases scanned
    · cases scanned
      exact formed
  · split at scanned
    · cases scanned
    · obtain ⟨_, step, same⟩ := Option.map_eq_some_iff.mp scanned
      cases same
      exact scan_statement_formed formed step

theorem scan_body_formed {fuel : Nat} {last : BodyScan}
    (scanned : scanBody tokens kind finish fuel scan stmt = some last) : ScanFormed tokens last := by
  induction fuel generalizing scan stmt with
  | zero =>
    cases scanned
    exact formed
  | succ fuel ih =>
    simp only [scanBody] at scanned
    split at scanned
    · cases scanned
      exact formed
    · split at scanned
      · cases scanned
      · next next index step => exact ih (scan_next_formed formed step) scanned

end

end Scan

namespace PtxBody

variable {Value : Type}

def successors (body : PtxBody) : Graph := graphOf (body.successorTable.getD [])

def CanReturn (body : PtxBody) : Prop :=
  ∃ exit, ReflTransGen (fun source target => target ∈ body.successors source) 0 exit ∧ body.returnAt exit = true

variable {body : PtxBody} {table : List (List Nat)} {cta : Cta Value}

theorem can_return_walk (built : body.successorTable = some table) (returns : body.CanReturn) :
    ∃ path exit, Walk (Edge table) 0 path ∧ path.getLast? = some exit ∧ body.returnAt exit = true := by
  obtain ⟨exit, path, leaves⟩ := returns
  have reached : ReflTransGen (Edge table) 0 exit := by
    simp only [successors, built, Option.getD_some] at path
    exact path
  obtain ⟨rest, chained, ends⟩ := List.exists_isChain_cons_of_relationReflTransGen reached
  refine ⟨0 :: rest, exit, ⟨chained, by simp⟩, ?_, leaves⟩
  rw [List.getLast?_eq_some_getLast (by simp), ends]

variable {first second : String → Value} {left right : PtxThread Value} {shorter more : Nat} {here there : List Nat}

theorem empty_run (empty : body.count = 0) {registers : String → Value} {last : PtxThread Value}
    (run : ThreadRun body cta ⟨some 0, registers⟩ length emitted last) : emitted = [] := by
  cases run with
  | nil => rfl
  | cons head tail =>
    obtain ⟨stmt, here⟩ := step_statement rfl head
    exact absurd (statement_bound here) (by omega)

end PtxBody

-- The dominance check only looks at returns, so a body that cannot return must be uniform.
theorem accepted_barriers_align {Value : Type} (tokens : Tokens) (begin finish : Nat) (kind : BodyKind)
    (analysis accepted : BodyAnalysis) (registers : List RegisterRange) (parameters : List String) (scan : BodyScan)
    (cooperative : kind.isCooperative = true)
    (parsed : parseBody tokens begin finish kind analysis registers = some scan)
    (accepts : analyzeBody tokens begin finish kind analysis registers parameters = some accepted)
    (cta : Cta Value) (first second : String → Value) (left right : PtxThread Value) (shorter more : Nat)
    (here there : List Nat) (run : (scan.body tokens parameters).ThreadRun cta ⟨some 0, first⟩ shorter here left)
    (other : (scan.body tokens parameters).ThreadRun cta ⟨some 0, second⟩ more there right) :
    let body := scan.body tokens parameters
    ((body.CanReturn ∨ body.validateUniformControlFlow body.successors = true) → here <+: there ∨ there <+: here) ∧
      (left.Returned → right.Returned → here = there) := by
  intro body
  have scanned : ScanFormed tokens scan := scan_body_formed (by simp [ScanFormed]) parsed
  have formed : body.WellFormed :=
    ⟨fun stmt mem => (scanned stmt mem).barrier, fun stmt mem => (scanned stmt mem).predicate⟩
  simp only [analyzeBody, parsed, Option.bind_some, Option.bind_eq_bind] at accepts
  obtain ⟨_, _, accepts⟩ := Option.bind_eq_some_iff.mp accepts
  obtain ⟨_, _, accepts⟩ := Option.bind_eq_some_iff.mp accepts
  split at accepts
  · next conditions =>
    have valid : body.validateControlFlow (kind.isKernel && !scan.hasNestedScope) = true := by
      rcases conditions.2.2 with independent | valid
      · rw [cooperative] at independent
        cases independent.1
      · exact valid
    simp only [PtxBody.validateControlFlow] at valid
    split at valid
    · cases valid
    split at valid
    · cases valid
    next table built =>
    have graph : body.successors = PtxBody.graphOf table := by simp [PtxBody.successors, built, Option.getD_some]
    have uniformly : body.validateUniformControlFlow (PtxBody.graphOf table) = true →
        Aligned PtxThread.Returned here there left right := by
      intro fallback
      rcases Nat.eq_zero_or_pos body.count with empty | filled
      · rw [PtxBody.empty_run empty run, PtxBody.empty_run empty other]
        exact ⟨.inl List.nil_prefix, fun _ _ => rfl⟩
      · obtain ⟨ids, facts, reachable, regions, words, outputs, uniform⟩ :=
          PtxBody.validated_uniform built filled fallback
        exact PtxBody.uniform_runs_aligned built formed uniform filled run other
    rw [graph]
    split at valid
    · cases valid
    split at valid
    · have aligned := uniformly (Bool.and_eq_true_iff.mp valid).2
      exact ⟨fun _ => aligned.comparable, aligned.complete⟩
    next clear =>
    have dominating := PtxBody.unflagged_dominating built (by simpa using clear)
    obtain ⟨path, walk, rfl, ends⟩ := PtxBody.run_walk built formed rfl run
    obtain ⟨way, walked, rfl, stops⟩ := PtxBody.run_walk built formed rfl other
    refine ⟨fun either => either.elim (fun returns => ?_) fun fallback => (uniformly fallback).comparable,
      fun returned back => ?_⟩
    · obtain ⟨full, exit, goes, last, leaves⟩ := PtxBody.can_return_walk built returns
      exact walk_marks_comparable dominating walk walked goes last leaves
    · obtain ⟨exit, last, leaves⟩ := ends returned
      obtain ⟨other, final, exits⟩ := stops back
      exact final_marks_eq dominating walk walked last leaves final exits
  · cases accepts

def textTokens (texts : List String) : Tokens := texts.map fun text => { text := text }

def entryKind : BodyKind := ⟨true, true, none⟩

def predicateCta : Cta Bool := ⟨id, fun _ _ _ => false⟩

-- The steps of a thread whose results happen to leave its registers as they
-- are; a uniform statement has no such choice.
def steadyStep (body : PtxBody) (registers : String → Bool) (index : Nat) : Option (List Nat × Option Nat) := do
  let stmt ← body.statements[index]?
  let ids ← body.registerIds
  let fact ← body.uniformStatement ids stmt
  if !body.acts predicateCta stmt registers then some ([], some (index + 1))
  else if isBranch (body.opcodeText stmt) then
    (body.labels.lookup (body.tokens.textAt (stmt.opcode + 1))).map fun label => (PtxBody.events stmt index, some label)
  else if isReturn (body.opcodeText stmt) then some (PtxBody.events stmt index, none)
  else if fact.isUniform then none
  else some (PtxBody.events stmt index, some (index + 1))

variable {body : PtxBody} {registers : String → Bool}

theorem steady_step {next : Option Nat} (steps : steadyStep body registers index = some (emitted, next)) :
    body.ThreadStep predicateCta ⟨some index, registers⟩ emitted ⟨next, registers⟩ := by
  obtain ⟨stmt, here, steps⟩ := Option.bind_eq_some_iff.mp steps
  obtain ⟨ids, named, steps⟩ := Option.bind_eq_some_iff.mp steps
  obtain ⟨fact, stated, steps⟩ := Option.bind_eq_some_iff.mp steps
  split at steps
  · next inactive =>
    cases steps
    exact .skip index stmt registers here (by simpa using inactive)
  next active =>
  have acting : body.acts predicateCta stmt registers = true := by simpa using active
  split at steps
  · next branch =>
    obtain ⟨label, target, same⟩ := Option.map_eq_some_iff.mp steps
    cases same
    exact .jump index label stmt registers here acting branch target
  next stays =>
  split at steps
  · next exits =>
    cases steps
    exact .leave index stmt registers here acting exits
  next goes =>
  split at steps
  · cases steps
  next divergent =>
  cases steps
  refine .execute index stmt registers registers here acting (by simpa using stays) (by simpa using goes) ?_
  intro others other known said
  cases named.symm.trans known
  cases stated.symm.trans said
  exact ⟨fun _ _ => rfl, fun uniform => absurd uniform divergent⟩

def steadyRun (body : PtxBody) (registers : String → Bool) : Nat → Option Nat → Option (List Nat × Option Nat)
  | 0, position => some ([], position)
  | _ + 1, none => none
  | length + 1, some index => do
      let (emitted, next) ← steadyStep body registers index
      let (events, last) ← steadyRun body registers length next
      some (emitted ++ events, last)

theorem steady_run {position last : Option Nat}
    (runs : steadyRun body registers length position = some (emitted, last)) :
    body.ThreadRun predicateCta ⟨position, registers⟩ length emitted ⟨last, registers⟩ := by
  induction length generalizing position emitted with
  | zero =>
    cases runs
    exact .nil _
  | succ length ih =>
    cases position with
    | none => cases runs
    | some index =>
      obtain ⟨⟨first, next⟩, stepped, runs⟩ := Option.bind_eq_some_iff.mp runs
      obtain ⟨⟨events, final⟩, rest, runs⟩ := Option.bind_eq_some_iff.mp runs
      cases runs
      exact .cons (steady_step stepped) (ih rest)

def mergeTokens : Tokens := textTokens
  [".reg", ".pred", "%p", ";", "setp.eq.u32", "%p", ",", "%tid.x", ",", "0", ";", "@", "%p", "bra", "JOIN", ";",
    "membar.cta", ";", "JOIN", ":", "bar.sync", "0", ";", "ret", ";"]

def parsedOf (tokens : Tokens) : Option BodyScan := parseBody tokens 0 tokens.length entryKind {} []

def acceptedOf (tokens : Tokens) : Option BodyAnalysis := analyzeBody tokens 0 tokens.length entryKind {} [] []

def bodyOf (tokens : Tokens) : PtxBody := ((parsedOf tokens).getD { registers := [], analysis := {} }).body tokens []

def emittedBy (tokens : Tokens) (value : Bool) (length : Nat) : List Nat :=
  ((steadyRun (bodyOf tokens) (fun _ => value) length (some 0)).getD ([], none)).1

theorem accepted_merge_aligns : let here := emittedBy mergeTokens false 6
    let there := emittedBy mergeTokens true 5
    (bodyOf mergeTokens).ThreadRun predicateCta ⟨some 0, fun _ => false⟩ 6 here ⟨none, fun _ => false⟩ ∧
      (bodyOf mergeTokens).ThreadRun predicateCta ⟨some 0, fun _ => true⟩ 5 there ⟨none, fun _ => true⟩ ∧
      here = there := by
  intro here there
  have falls : (bodyOf mergeTokens).ThreadRun predicateCta ⟨some 0, fun _ => false⟩ 6 here ⟨none, fun _ => false⟩ :=
    steady_run (by decide +kernel)
  have jumps : (bodyOf mergeTokens).ThreadRun predicateCta ⟨some 0, fun _ => true⟩ 5 there ⟨none, fun _ => true⟩ :=
    steady_run (by decide +kernel)
  obtain ⟨scan, parsed⟩ := Option.isSome_iff_exists.mp (by decide +kernel : (parsedOf mergeTokens).isSome = true)
  obtain ⟨accepted, accepts⟩ := Option.isSome_iff_exists.mp (by decide +kernel : (acceptedOf mergeTokens).isSome = true)
  have same : bodyOf mergeTokens = scan.body mergeTokens [] := by simp [bodyOf, parsed, Option.getD_some]
  refine ⟨falls, jumps, ?_⟩
  rw [same] at falls jumps
  exact (accepted_barriers_align mergeTokens 0 mergeTokens.length entryKind {} accepted
    [] [] scan rfl parsed accepts predicateCta _ _ _ _ _ _ here there falls jumps).2 rfl rfl

-- A body that never returns: its barriers dominate every reachable return for
-- want of one, and the two arms synchronise differently.
def strandedTokens : Tokens := textTokens
  [".reg", ".pred", "%p", ";", "setp.eq.u32", "%p", ",", "%tid.x", ",", "0", ";", "@", "%p", "bra", "WARP", ";",
    "bar.sync", "0", ";", "SPIN", ":", "bra", "SPIN", ";", "WARP", ":", "bar.warp.sync", "0", ";", "LOOP", ":",
    "bra", "LOOP", ";", "ret", ";"]

theorem stranded_barriers_diverge :
    (parsedOf strandedTokens).isSome = true ∧ (acceptedOf strandedTokens).isSome = true ∧
      (bodyOf strandedTokens).ThreadRun predicateCta ⟨some 0, fun _ => false⟩ 4 [3] ⟨some 4, fun _ => false⟩ ∧
      (bodyOf strandedTokens).ThreadRun predicateCta ⟨some 0, fun _ => true⟩ 4 [5] ⟨some 6, fun _ => true⟩ ∧
      ¬ ([3] <+: [5] ∨ [5] <+: [3]) :=
  ⟨by decide +kernel, by decide +kernel, steady_run (by decide +kernel), steady_run (by decide +kernel), by decide⟩

end Glimmer.Transform
