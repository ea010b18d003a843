import Glimmer.Lib.Dataflow
import Glimmer.Lib.GraphSearch
import Glimmer.Lib.KeyedMap
import Glimmer.Transform.PtxText

namespace Glimmer.Transform

open Lib

-- A statement without a predicate has the empty one.
structure BodyStatement where
  opcode : Nat
  isPredicated : Bool := false
  hasBarrier : Bool := false
  finish : Nat
  predicate : String := ""

structure UniformStatement where
  outputs : List Nat := []
  inputs : List Nat := []
  predicate : Option Nat := none
  isUniform : Bool := false

-- The control-flow side of a parsed body; parameters are the names of the entry's own parameters.
structure PtxBody where
  tokens : Tokens
  statements : List BodyStatement
  labels : KeyedMap String Nat
  registers : List RegisterRange
  parameters : List String

abbrev Graph := Nat → List Nat

namespace PtxBody

variable (body : PtxBody) (index : Nat) (stmt : BodyStatement)

def count : Nat := body.statements.length

def opcodeText : String := body.tokens.textAt stmt.opcode

def operandTexts : List String :=
  (List.range' (stmt.opcode + 1) (stmt.finish - (stmt.opcode + 1))).map body.tokens.textAt

def opcodeAt : String := (body.statements[index]?.map body.opcodeText).getD ""

def barrierAt : Bool := (body.statements[index]?.map BodyStatement.hasBarrier).getD false

def returnAt : Bool := isReturn (body.opcodeAt index)

def branchTargets : Option (List Nat) :=
  if isBranch (body.opcodeText stmt) then
    match body.labels.lookup (body.tokens.textAt (stmt.opcode + 1)) with
    | none => none
    | some label => if label ≥ body.count then none else some [label]
  else some []

-- A branch goes to its label; what is not an unconditional branch or return
-- goes on to the next statement, which has to exist.
def successorsOf : Option (List Nat) := do
  let opcode := body.opcodeText stmt
  let target ← body.branchTargets stmt
  if (!isBranch opcode && !isReturn opcode) || stmt.isPredicated then
    if index + 1 = body.count then none else some (target ++ [index + 1])
  else some target

def successorTable : Option (List (List Nat)) :=
  body.statements.zipIdx.mapM fun entry => body.successorsOf entry.2 entry.1

def graphOf (table : List (List Nat)) : Graph := fun index => (table[index]?).getD []

end PtxBody

def isUniformSpecialRegister (name : String) : Bool :=
  name ∈ ["%ctaid.x", "%ctaid.y", "%ctaid.z", "%nctaid.x", "%nctaid.y", "%nctaid.z", "%ntid.x", "%ntid.y", "%ntid.z"]

def uniformScalarOperations : List String :=
  ["mov", "cvt", "add", "sub", "mul", "mad", "fma", "div", "rem", "set", "setp", "selp", "slct", "testp", "shl", "shr",
    "shf", "and", "or", "xor", "not", "cnot", "neg", "abs", "min", "max", "bfe", "bfi", "bfind", "brev", "clz", "popc",
    "prmt", "lop3", "sad", "copysign", "rcp", "sqrt", "rsqrt", "sin", "cos", "lg2", "ex2"]

def isUniformScalarOperation (opcode : String) : Bool :=
  match components opcode with
  | operation :: _ => operation ∈ uniformScalarOperations
  | [] => false

def isScalarLiteral (text : String) : Bool :=
  match text.toList with
  | first :: _ => first.isDigit
  | [] => false

def uniformParameterLoad (operands parameters : List String) : Bool :=
  match operands with
  | ["[", name, "]"] => name ∈ parameters
  | ["[", name, "+", offset, "]"] => name ∈ parameters && isScalarLiteral offset
  | _ => false

namespace PtxBody

variable (body : PtxBody) (ids : List String) (stmt : BodyStatement)

-- The first pass over the statements gives every register it meets a number.
def namedRegisters : List String :=
  (if stmt.predicate = "" then [] else [stmt.predicate]) ++ (body.operandTexts stmt).filter fun text =>
      hasRegister text body.registers false && !isUniformSpecialRegister text && text ≠ "%tid.x" && text ≠ "%globaltimer"

def addNames (ids names : List String) : List String :=
  names.foldl (fun known name => if name ∈ known then known else known ++ [name]) ids

def registerIds : Option (List String) := do
  let ids ← body.statements.foldlM (fun ids stmt =>
    let opcode := body.opcodeText stmt
    if isCall opcode || opcode.startsWith "st.param." then none
    else if opcode.startsWith "." then some ids
    else
      let named := addNames ids (body.namedRegisters stmt)
      if named.length > 2048 then none else some named) []
  if ids = [] then none else some ids

def registerId (name : String) : Option Nat := ids.idxOf? name

def writesNothing (opcode : String) : Bool :=
  opcode.startsWith "." || isBranch opcode || isReturn opcode ||
    startsWithAny opcode ["st.", "red.", "bar.", "membar.", "fence."]

def destinationIds (ids : List String) : List String → Option (List Nat)
  | [] => some []
  | text :: rest =>
    match registerId ids text with
    | some id => (destinationIds ids rest).map (id :: ·)
    | none => if text ∈ ["\x7b", "\x7d", "|", "_"] then destinationIds ids rest else none

def isUniformSource (text : String) : Bool :=
  isUniformSpecialRegister text || isScalarLiteral text || text ∈ [",", "\x7b", "\x7d", "-", "+", "!", "|"]

def predicateId : Option (Option Nat) :=
  if stmt.predicate = "" then some none else (registerId ids stmt.predicate).map some

-- The facts of one statement; none stands for a form the proof rejects.
def uniformStatement : Option UniformStatement := do
  let opcode := body.opcodeText stmt
  let predicate ← predicateId ids stmt
  if writesNothing opcode then some { predicate := predicate }
  else
    let operands := body.operandTexts stmt
    let destination := operands.takeWhile (· ≠ ",")
    match operands.drop destination.length with
    | [] => none
    | _ :: sources =>
      if operands.head? = some "\x7b" then none
      else
        let outputs ← destinationIds ids destination
        if opcode.startsWith "ld.param." then
          some { outputs := outputs, predicate := predicate, isUniform := uniformParameterLoad sources body.parameters }
        else
          some {
            outputs := outputs
            inputs := sources.filterMap (registerId ids)
            predicate := predicate
            isUniform := isUniformScalarOperation opcode &&
              sources.all fun text => (registerId ids text).isSome || isUniformSource text }

end PtxBody

structure ReconvergentRegions where
  branches : List Nat := []
  interiors : List Nat := []

def maximumGraphWork : Nat := 16 * 1024 * 1024

def charge (work amount : Nat) : Option Nat := if amount > maximumGraphWork - work then none else some (work + amount)

def wordsFor (bits : Nat) : Nat := (bits + 63) / 64

abbrev Bits (words : Nat) := BitVec (64 * words)

namespace Bits

variable {words : Nat} (bits : Bits words) (index : Nat)

def mask : Bits words := 1#(64 * words) <<< index

def contains : Bool := bits.getLsbD index

def insert : Bits words := bits ||| mask index

def remove : Bits words := bits &&& ~~~ mask index

def assign (value : Bool) : Bits words := if value then bits.insert index else bits.remove index

def popcount : Nat := (List.range (64 * words)).countP bits.contains

end Bits

namespace PtxBody

section Regions
variable (body : PtxBody) (graph : Graph) (reachable : List Nat)

-- Node count stands for the exit that every statement without successors has.
def allPredecessors (index : Nat) : List Nat :=
  (List.range body.count).flatMap fun source =>
    if index = body.count then (if graph source = [] then [source] else [])
    else ((graph source).filter (· = index)).map fun _ => source

def predecessorEdges : Nat :=
  ((List.range (body.count + 1)).map fun index => (body.allPredecessors graph index).length).sum

def chargeEdges (work : Nat) : Option Nat :=
  (List.range body.count).foldlM (fun work index => charge work ((graph index).length + 1)) work

def reachesExit (work : Nat) : Search Nat :=
  let back := body.allPredecessors graph
  explore back (fun _ => false) (fun _ => false) (fun index => (back index).length + 1) maximumGraphWork
    (body.predecessorEdges graph + 1) [body.count] [] work

abbrev PostdominatorTable (words : Nat) := Nat → Bits words

def reachableUniverse (words : Nat) : Bits words := (List.range body.count).foldl (fun bits index =>
  if index ∈ reachable then bits.insert index else bits) (Bits.insert 0 body.count)

def postdominatorVisit (words : Nat) (state : PostdominatorTable words × Bool × Nat) (index : Nat) :
    Option (PostdominatorTable words × Bool × Nat) :=
  let (table, changed, work) := state
  if index ∉ reachable then some state
  else do
    let work ← charge work (((graph index).length + 3) * words)
    let start := if graph index = [] then table body.count else body.reachableUniverse reachable words
    let next := ((graph index).foldl (fun bits successor => bits &&& table successor) start).insert index
    if next ≠ table index then some (Function.update table index next, true, work) else some (table, changed, work)

-- Statement 0 is always reachable and every sweep charges for it, so the budget runs out before the fuel does.
def postdominators (words : Nat) : Nat → PostdominatorTable words → Nat → Option (PostdominatorTable words × Nat)
  | 0, _, _ => none
  | fuel + 1, table, work => do
      let (table, changed, work) ←
        (List.range body.count).reverse.foldlM (body.postdominatorVisit graph reachable words) (table, false, work)
      if changed then postdominators words fuel table work else some (table, work)

def joinOf {words : Nat} (table : PostdominatorTable words) (branch : Nat) : Nat :=
  (List.range body.count).foldl (fun join index =>
    if index ≠ branch ∧ (table branch).contains index ∧ (table index).popcount > (table join).popcount then index
      else join) body.count

def endsRegion (branch index : Nat) : Bool :=
  index = branch || index = 0 || body.barrierAt index || isCall (body.opcodeAt index) || body.returnAt index ||
    graph index = []

def regionMembers (branch join work : Nat) : Search Nat :=
  explore graph (· = join) (body.endsRegion graph branch) (fun index => (graph index).length + 1) maximumGraphWork
    ((graph branch).length + ((List.range body.count).map fun index => (graph index).length).sum)
    (graph branch).reverse [] work

def regionIndegrees (members : List Nat) (work : Nat) : Option Nat :=
  members.foldlM (fun work index => charge work ((body.allPredecessors graph index).length + 1)) work

def indegree (members : List Nat) (index : Nat) : Nat := (body.allPredecessors graph index).countP (· ∈ members)

def singleEntry (branch : Nat) (members : List Nat) : Bool :=
  members.all fun index => (body.allPredecessors graph index).all fun source => source = branch || source ∈ members

def release (join : Nat) (state : List Nat × (Nat → Nat)) (successor : Nat) : List Nat × (Nat → Nat) :=
  if successor = join then state
  else
    let left := state.2 successor - 1
    (if left = 0 then successor :: state.1 else state.1, Function.update state.2 successor left)

-- Removes the members in topological order and counts them. Each is stacked
-- at most once, so their number bounds the pops.
def removeMembers (join : Nat) : Nat → List Nat → (Nat → Nat) → Nat → Nat → Option (Nat × Nat)
  | _, [], _, removed, work => some (removed, work)
  | 0, _ :: _, _, _, _ => none
  | fuel + 1, index :: pending, degrees, removed, work => do
      let work ← charge work ((graph index).length + 1)
      let (pending, degrees) := (graph index).foldl (release join) (pending, degrees)
      removeMembers join fuel pending degrees (removed + 1) work

-- One candidate branch; none is an exhausted budget, some none a branch that is not accepted.
def regionOf {words : Nat} (table : PostdominatorTable words) (branch work : Nat) : Option (Option (List Nat) × Nat) := do
  let work ← charge work (body.count + words)
  let join := body.joinOf table branch
  if join = body.count then some (none, work)
  else if (table branch).remove branch ≠ table join then some (none, work)
  else
    let work ← charge work (body.count * 2)
    match body.regionMembers graph branch join work with
    | .refused => none
    | .hit work => some (none, work)
    | .done members work =>
      let work ← body.regionIndegrees graph members work
      if !body.singleEntry graph branch members then some (none, work)
      else
        let degrees := body.indegree graph members
        let (removed, work) ←
          removeMembers graph join members.length ((members.filter fun index => degrees index = 0).reverse) degrees 0 work
        if removed ≠ members.length then some (none, work) else some (some members, work)

def regionCandidate (branch : Nat) : Bool :=
  branch ∈ reachable && isBranch (body.opcodeAt branch) &&
    (body.statements[branch]?.map BodyStatement.isPredicated).getD false

def addRegion {words : Nat} (table : PostdominatorTable words) (state : ReconvergentRegions × Nat) (branch : Nat) :
    Option (ReconvergentRegions × Nat) :=
  if !body.regionCandidate reachable branch then some state
  else do
    let (members, work) ← body.regionOf graph table branch state.2
    match members with
    | none => some (state.1, work)
    | some members => some (⟨state.1.branches ++ [branch], state.1.interiors ++ members⟩, work)

def reconvergentRegions : Option ReconvergentRegions := do
  let words := wordsFor (body.count + 1)
  let work ← body.chargeEdges graph 0
  match body.reachesExit graph work with
  | .done exiting work =>
    if !reachable.all fun index => index ∈ exiting then none
    else
      let work ← charge work ((body.count + 1) * words)
      let table : PostdominatorTable words := fun index =>
        if index = body.count then Bits.insert 0 body.count else body.reachableUniverse reachable words
      let (table, work) ← body.postdominators graph reachable words maximumGraphWork table work
      let work ← charge work ((body.count + 1) * words)
      let (regions, _) ← (List.range body.count).foldlM (body.addRegion graph reachable table) ({}, work)
      some regions
  | _ => none

end Regions

def maxStatements : Nat := 8192

def maxEvaluations : Nat := 131072

def maxWork : Nat := 16 * 1024 * 1024

variable (body : PtxBody) (graph : Graph)

def reachableFrom : List Nat :=
  match search graph (fun _ => false) (fun _ => false) (List.range body.count) [0] with
  | .done visited _ => visited
  | _ => []

def predecessorsOf (reachable : List Nat) (index : Nat) : List Nat :=
  reachable.flatMap fun source => ((graph source).filter (· = index)).map fun _ => source

section Uniform
variable (facts : List UniformStatement) (graph : Graph) (reachable interiors : List Nat) {words : Nat}

def factAt (index : Nat) : UniformStatement := facts[index]?.getD {}

def meetAt (outputs : Nat → Bits words) (index : Nat) : Bits words :=
  (predecessorsOf graph reachable index).foldl (fun state source => state &&& outputs source)
    (if index = 0 then 0 else BitVec.allOnes (64 * words))

-- A predicated write keeps the old value where it does not act, so that value must be uniform as well.
def uniformResult (fact : UniformStatement) (isInterior : Bool) (state : Bits words) : Bool :=
  fact.isUniform && !isInterior && fact.inputs.all state.contains && fact.predicate.all state.contains &&
    (fact.predicate.isNone || fact.outputs.all state.contains)

def transferAt (index : Nat) (outputs : Nat → Bits words) : Bits words :=
  let fact := factAt facts index
  let state := meetAt graph reachable outputs index
  let uniform := uniformResult fact (index ∈ interiors) state
  fact.outputs.foldl (fun bits output => bits.assign output uniform) state

def transferCost (words index : Nat) : Nat :=
  let fact := factAt facts index
  ((predecessorsOf graph reachable index).length + 3) * words + fact.inputs.length + fact.outputs.length * 2

def uniformFlow (words : Nat) : Dataflow Nat (Bits words) where
  successors := graph
  transfer := transferAt facts graph reachable interiors
  cost := transferCost facts graph reachable words

end Uniform

-- Every reachable predicated branch or return is decided alike by all threads,
-- but for the branches of reconvergent regions.
def decisionsUniform (facts : List UniformStatement) (reachable branches : List Nat) {words : Nat}
    (outputs : Nat → Bits words) : Bool :=
  (List.range body.count).all fun index =>
    !(index ∈ reachable && (isBranch (body.opcodeAt index) || body.returnAt index) &&
      (factAt facts index).predicate.any (fun predicate => !(outputs index).contains predicate) && index ∉ branches)

-- One pass: none is an exhausted budget.
def uniformPass (facts : List UniformStatement) (graph : Graph) (reachable : List Nat)
    (regions : ReconvergentRegions) (words evaluations work : Nat) : Option (Bool × Nat × Nat) := do
  let pending := (List.range body.count).filter (· ∈ reachable)
  let (outputs, evaluations, work) ←
    (uniformFlow facts graph reachable regions.interiors words).settle maxWork evaluations pending
      (fun _ => BitVec.allOnes (64 * words)) work
  some (body.decisionsUniform facts reachable regions.branches outputs, evaluations, work)

-- The proof without regions first; both passes share the budget.
def uniformVerdict : Option Bool := do
  let ids ← body.registerIds
  let facts ← body.statements.mapM (body.uniformStatement ids)
  let reachable := body.reachableFrom graph
  let words := wordsFor ids.length
  let (valid, evaluations, work) ← body.uniformPass facts graph reachable {} words maxEvaluations 0
  if valid then some true
  else
    let regions ← body.reconvergentRegions graph reachable
    let (valid, _, _) ← body.uniformPass facts graph reachable regions words evaluations work
    some valid

def validateUniformControlFlow : Bool :=
  body.count ≤ maxStatements && body.uniformVerdict graph = some true

def isHit : Search Nat → Bool
  | .hit _ => true
  | _ => false

def barriers : List Nat := (List.range body.count).filter body.barrierAt

def onCycle (barrier : Nat) : Bool :=
  isHit (search graph (fun _ => false) (· = barrier) (List.range body.count) (graph barrier).reverse)

def bypassed (barrier : Nat) : Bool :=
  isHit (search graph (· = barrier) body.returnAt (List.range body.count) [0])

def validateControlFlow (canProveUniformity : Bool) : Bool :=
  if body.count > 65536 then false
  else
    match body.successorTable with
    | none => false
    | some table =>
      let graph := graphOf table
      if body.barriers.length > 64 then false
      else if body.barriers.any fun barrier => body.onCycle graph barrier || body.bypassed graph barrier then
        canProveUniformity && body.validateUniformControlFlow graph
      else true

end PtxBody

end Glimmer.Transform
