import Glimmer.Transform.ControlFlow

namespace Glimmer.Transform

open Lib

structure Replacement where
  begin : Nat
  finish : Nat
  text : String

structure PreparedFunction where
  name : String
  parameters : Nat := 0
  returns : Nat := 0
  callDepth : Nat := 1
  hasBarrier : Bool := false

abbrev FunctionResolver := String → Option PreparedFunction

structure BodyAnalysis where
  replacements : List Replacement := []
  callees : List String := []
  hasBarrier : Bool := false
  callDepth : Nat := 1

def logicalRegisters : List String :=
  ["%__glimmer_ptb_index", "%__glimmer_ptb_y", "%__glimmer_ptb_z", "%__glimmer_ptb_grid", "%__glimmer_ptb_grid_y",
    "%__glimmer_ptb_grid_z"]

def maxPersistentPtxBytes : Nat := 4 * 1024 * 1024

def closesOperands (count : Nat) (hasOperand : Bool) : Option Nat :=
  if count ≠ 0 ∧ !hasOperand then none
  else
    let total := if hasOperand then count + 1 else count
    if total ≤ 256 then some total else none

-- The operands between two parentheses: their number and the index behind.
def callOperandList (tokens : Tokens) (finish : Nat) : Nat → Nat → Nat → Bool → Option (Nat × Nat)
  | 0, _, _, _ => none
  | fuel + 1, index, count, hasOperand =>
    if index ≥ finish then none
    else
      let text := tokens.textAt index
      if text = ")" then (closesOperands count hasOperand).map fun total => (total, index + 1)
      else if text = "," then
        if !hasOperand ∨ count + 1 ≥ 256 then none else callOperandList tokens finish fuel (index + 1) (count + 1) false
      else if text ∈ ["(", "\x7b", "\x7d", ";"] ∨ text.startsWith "\"" ∨ text.startsWith "." then none
      else callOperandList tokens finish fuel (index + 1) count true

variable (tokens : Tokens) (opcode finish : Nat)

def callOperands (index finish : Nat) : Option (Nat × Nat) :=
  if index = finish ∨ tokens.textAt index ≠ "(" then none
  else callOperandList tokens finish (finish - index) (index + 1) 0 false

def tokenSpan (index : Nat) : Nat × Nat := (tokens[index]?.map fun token => (token.begin, token.finish)).getD (0, 0)

def replaceToken (index : Nat) (text : String) : Replacement :=
  ⟨(tokenSpan tokens index).1, (tokenSpan tokens index).2, text⟩

-- An independent-thread entry has a one-dimensional logical grid.
def logicalArguments (isKernel isCooperative : Bool) : String :=
  ", ".intercalate (logicalRegisters.zipIdx.map fun (name, axis) =>
    if isKernel ∧ !isCooperative ∧ axis ≠ 0 ∧ axis ≠ 3 then (if axis < 3 then "0" else "1") else name)

structure CallSite where
  target : Nat
  returns : Nat
  parameters : Nat
  hasOperands : Bool

def parseReturns : Option (Nat × Nat) :=
  let index := opcode + 1
  if index < finish ∧ tokens.textAt index = "(" then
    match callOperands tokens index finish with
    | none => none
    | some (returns, index) => if index = finish ∨ tokens.textAt index ≠ "," then none else some (returns, index + 1)
  else some (0, index)

def parseCall : Option CallSite := do
  let (returns, target) ← parseReturns tokens opcode finish
  if target = finish ∨ !isIdentifier (tokens.textAt target) then none
  else if target + 1 < finish then
    if tokens.textAt (target + 1) ≠ "," then none
    else
      let (parameters, index) ← callOperands tokens (target + 2) finish
      if index ≠ finish then none else some ⟨target, returns, parameters, true⟩
  else some ⟨target, returns, 0, false⟩

-- The analysis with the call recorded, and whether the callee has a barrier.
def analyzeCall (resolve : Option FunctionResolver) (analysis : BodyAnalysis)
    (isKernel isCooperative isPredicated : Bool) : Option (BodyAnalysis × Bool) := do
  let site ← parseCall tokens opcode finish
  let resolver ← resolve
  let callee ← resolver (tokens.textAt site.target)
  if callee.returns ≠ site.returns ∨ callee.parameters ≠ site.parameters ∨
      (callee.hasBarrier ∧ (!isCooperative ∨ isPredicated)) then none
  else
    let arguments := logicalArguments isKernel isCooperative
    let extension : Replacement :=
      if site.hasOperands then
        let position := (tokenSpan tokens (finish - 1)).1
        ⟨position, position, if site.parameters ≠ 0 then ", " ++ arguments else arguments⟩
      else
        let position := (tokenSpan tokens site.target).2
        ⟨position, position, ", (" ++ arguments ++ ")"⟩
    some ({ analysis with
      callDepth := max analysis.callDepth (callee.callDepth + 1)
      callees := analysis.callees ++ [tokens.textAt site.target]
      replacements := analysis.replacements ++ [replaceToken tokens site.target callee.name, extension] },
        callee.hasBarrier)

structure BodyKind where
  isCooperative : Bool
  isKernel : Bool
  resolve : Option FunctionResolver

structure BodyScan where
  statements : List BodyStatement := []
  labels : KeyedMap String Nat := ∅
  registers : List RegisterRange
  hasReturn : Bool := false
  hasNestedScope : Bool := false
  depth : Nat := 0
  analysis : BodyAnalysis

section Scan
variable (kind : BodyKind)

def statementFinish (finish : Nat) : Nat → Nat → Nat
  | 0, index => index
  | fuel + 1, index => if index < finish ∧ tokens.textAt index ≠ ";" then statementFinish finish fuel (index + 1)
    else index

def predicateIndex (stmt finish : Nat) : Nat :=
  if stmt + 1 < finish ∧ tokens.textAt (stmt + 1) = "!" then stmt + 2 else stmt + 1

-- The opcode behind an optional predicate, and the predicate.
def parsePredicate (stmt finish : Nat) : Option (Nat × Bool × String) :=
  if tokens.textAt stmt = "@" then
    let name := predicateIndex tokens stmt finish
    if name ≥ finish ∨ !((tokens.textAt name).startsWith "%" || isIdentifier (tokens.textAt name)) then none
    else some (name + 1, true, tokens.textAt name)
  else some (stmt, false, "")

def addStatement (scan : BodyScan) (stmt : BodyStatement) : Option BodyScan :=
  let next := { scan with
    statements := scan.statements ++ [stmt]
    analysis := { scan.analysis with hasBarrier := scan.analysis.hasBarrier || stmt.hasBarrier } }
  if next.statements.length > 65536 then none else some next

def calleeAnalysis (analysis : BodyAnalysis) (opcode finish : Nat) (isPredicated : Bool) : Option (BodyAnalysis × Bool) :=
  if isCall (tokens.textAt opcode) then
    analyzeCall tokens opcode finish kind.resolve analysis kind.isKernel kind.isCooperative isPredicated
  else if isSupportedInstruction (tokens.textAt opcode) kind.isCooperative then some (analysis, false)
  else none

-- The analysis with the call or a lowered .uni recorded, and whether a callee has a barrier.
def instructionAnalysis (analysis : BodyAnalysis) (opcode finish : Nat) (isPredicated : Bool) :
    Option (BodyAnalysis × Bool) := do
  let text := tokens.textAt opcode
  let (analysis, hasBarrier) ← calleeAnalysis tokens kind analysis opcode finish isPredicated
  let lowered :=
    if !kind.isCooperative ∧ (text = "call.uni" ∨ text = "bra.uni") then
      [replaceToken tokens opcode (if text = "call.uni" then "call" else "bra")]
    else []
  some ({ analysis with replacements := analysis.replacements ++ lowered }, hasBarrier)

def returnReplacements (opcode : Nat) : List Replacement :=
  if kind.isKernel then [replaceToken tokens opcode "bra __glimmer_ptb_next"]
  else if !kind.isCooperative ∧ tokens.textAt opcode = "ret.uni" then [replaceToken tokens opcode "ret"]
  else []

def scanInstruction (scan : BodyScan) (stmt finish : Nat) : Option BodyScan := do
  let (opcode, isPredicated, predicate) ← parsePredicate tokens stmt finish
  if opcode ≥ finish then none
  else
    let text := tokens.textAt opcode
    let (analysis, hasBarrier) ← instructionAnalysis tokens kind scan.analysis opcode finish isPredicated
    if text = "bar.sync" ∧ (isPredicated ∨ opcode + 2 ≠ finish ∨ tokens.textAt (opcode + 1) ≠ "0") then none
    else if isWarpCollective text ∧ isPredicated then none
    else if isBranch text ∧ (opcode + 2 ≠ finish ∨ !isIdentifier (tokens.textAt (opcode + 1))) then none
    else if isReturn text ∧ opcode + 1 ≠ finish then none
    else
      let replaced := if isReturn text then returnReplacements tokens kind opcode else []
      addStatement { scan with
        analysis := { analysis with replacements := analysis.replacements ++ replaced }
        hasReturn := scan.hasReturn || isReturn text }
        ⟨opcode, isPredicated, hasBarrier || text = "bar.sync" || isWarpCollective text, finish, predicate⟩

def scanStatement (scan : BodyScan) (stmt finish : Nat) : Option BodyScan :=
  let text := tokens.textAt stmt
  let directive : BodyStatement := { opcode := stmt, finish := finish }
  if text = ".reg" then
    (parseRegisters tokens stmt finish scan.registers).bind fun registers =>
      addStatement { scan with registers := registers } directive
  else if text ∈ [".local", ".param"] ∨ (kind.isCooperative ∧ text = ".shared") then
    if parseStorage tokens stmt finish then addStatement scan directive else none
  else if text = ".pragma" then
    if stmt + 2 ≠ finish ∨ tokens.textAt (stmt + 1) ≠ "\"nounroll\"" then none else addStatement scan directive
  else scanInstruction tokens kind scan stmt finish

-- One turn of the loop: a brace, a location, a label or a whole statement.
def scanNext (finish : Nat) (scan : BodyScan) (stmt : Nat) : Option (BodyScan × Nat) :=
  let text := tokens.textAt stmt
  if text = "\x7b" then
    if scan.depth + 1 > 64 then none
    else some ({ scan with depth := scan.depth + 1, hasNestedScope := true }, stmt + 1)
  else if text = "\x7d" then
    if scan.depth = 0 then none else some ({ scan with depth := scan.depth - 1 }, stmt + 1)
  else if text = ".loc" then (skipLocation tokens stmt finish).map fun next => (scan, next)
  else if stmt + 1 < finish ∧ isIdentifier text ∧ tokens.textAt (stmt + 1) = ":" then
    if text ∈ scan.labels then none
    else some ({ scan with labels := scan.labels.insert text scan.statements.length }, stmt + 2)
  else
    let last := statementFinish tokens finish (finish - stmt) stmt
    if last = finish ∨ last = stmt then none
    else (scanStatement tokens kind scan stmt last).map fun next => (next, last + 1)

-- Every turn consumes a token, so the number of tokens covers the turns.
def scanBody (finish : Nat) : Nat → BodyScan → Nat → Option BodyScan
  | 0, scan, _ => some scan
  | fuel + 1, scan, stmt =>
    if stmt ≥ finish then some scan
    else
      match scanNext tokens kind finish scan stmt with
      | none => none
      | some (next, stmt) => scanBody finish fuel next stmt

end Scan

def logicalNames (everyAxis : Bool) : List (String × String) :=
  [("%ctaid.x", "%__glimmer_ptb_index"), ("%nctaid.x", "%__glimmer_ptb_grid")] ++
    if everyAxis then [("%ctaid.y", "%__glimmer_ptb_y"), ("%ctaid.z", "%__glimmer_ptb_z"),
      ("%nctaid.y", "%__glimmer_ptb_grid_y"), ("%nctaid.z", "%__glimmer_ptb_grid_z")]
    else []

-- An operand with a percent sign must be a register; CTA coordinates become logical ones.
def renameRegister (finish : Nat) (registers : List RegisterRange) (everyAxis : Bool)
    (replacements : List Replacement) (index : Nat) : Option (List Replacement) :=
  let name := tokens.textAt index
  if !name.startsWith "%" then some replacements
  else if index + 1 < finish ∧ tokens.textAt (index + 1) = "<" then some replacements
  else if !hasRegister name registers everyAxis then none
  else
    match (logicalNames everyAxis).lookup name with
    | some logical => some (replacements ++ [replaceToken tokens index logical])
    | none => some replacements

def replacementBytes (replacements : List Replacement) : Option Nat :=
  replacements.foldlM (fun bytes replacement =>
    if replacement.text.utf8ByteSize > maxPersistentPtxBytes - bytes then none
    else some (bytes + replacement.text.utf8ByteSize)) 0

def BodyScan.body (scan : BodyScan) (tokens : Tokens) (parameters : List String) : PtxBody where
  tokens := tokens
  statements := scan.statements
  labels := scan.labels
  registers := scan.registers
  parameters := parameters

def parseBody (begin finish : Nat) (kind : BodyKind) (analysis : BodyAnalysis)
    (registers : List RegisterRange) : Option BodyScan :=
  scanBody tokens kind finish (finish - begin) { registers := registers, analysis := analysis } begin

def analyzeBody (begin finish : Nat) (kind : BodyKind) (analysis : BodyAnalysis)
    (registers : List RegisterRange) (parameters : List String) : Option BodyAnalysis := do
  let scan ← parseBody tokens begin finish kind analysis registers
  let replacements ← (List.range' begin (finish - begin)).foldlM
    (renameRegister tokens finish scan.registers (kind.isCooperative || !kind.isKernel)) scan.analysis.replacements
  let _ ← replacementBytes replacements
  if scan.depth = 0 ∧ scan.hasReturn ∧ ((!kind.isCooperative ∧ kind.isKernel) ∨
      (scan.body tokens parameters).validateControlFlow (kind.isKernel && !scan.hasNestedScope)) then
    some { scan.analysis with replacements := replacements }
  else none

end Glimmer.Transform
