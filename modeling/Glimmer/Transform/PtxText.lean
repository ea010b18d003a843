import Mathlib.Algebra.Group.Nat.Defs
import Mathlib.Data.List.Sublists

namespace Glimmer.Transform

structure Token where
  text : String
  begin : Nat := 0
  finish : Nat := 0

abbrev Tokens := List Token

variable (tokens : Tokens)

-- Every access of the source is within bounds; outside there is only the empty text.
def Tokens.textAt (index : Nat) : String := (tokens[index]?.map Token.text).getD ""

def components (text : String) : List String := (text.toList.splitOn '.').map String.ofList

def dropChars (text : String) (count : Nat) : String := String.ofList (text.toList.drop count)

def occursIn (needle text : String) : Bool := text.toList.tails.any fun suffix => needle.toList.isPrefixOf suffix

def isIdentifier (name : String) : Bool :=
  match name.toList with
  | [] => false
  | first :: rest =>
    (first.isAlpha || first = '_' || first = '$') &&
      (first :: rest).all fun character => character.isAlphanum || character = '_' || character = '$'

def digitsValue (digits : List Char) : Nat := digits.foldl (fun value digit => value * 10 + (digit.toNat - '0'.toNat)) 0

def parseUnsigned (text : String) : Option Nat :=
  let digits := text.toList
  if digits ≠ [] ∧ digits.all Char.isDigit ∧ digitsValue digits < 2 ^ 32 then some (digitsValue digits) else none

def skipCoordinates (index finish : Nat) : Option Nat :=
  let number (field : Nat) : Option Nat :=
    if index + field ≥ finish then none else parseUnsigned (tokens.textAt (index + field))
  match number 0, number 1, number 2 with
  | some file, some _, some _ => if file = 0 then none else some (index + 3)
  | _, _, _ => none

def skipOffset (index finish : Nat) : Option Nat :=
  if index < finish ∧ tokens.textAt index = "+" then
    if index + 1 = finish ∨ (parseUnsigned (tokens.textAt (index + 1))).isNone then none else some (index + 2)
  else some index

def skipLocation (index finish : Nat) : Option Nat := do
  let index ← skipCoordinates tokens (index + 1) finish
  if index < finish ∧ tokens.textAt index = "," then
    if index + 2 ≥ finish ∨ tokens.textAt (index + 1) ≠ "function_name" ∨
      !isIdentifier (tokens.textAt (index + 2)) then none
    else
      let index ← skipOffset tokens (index + 3) finish
      if index + 1 ≥ finish ∨ tokens.textAt index ≠ "," ∨ tokens.textAt (index + 1) ≠ "inlined_at" then none
      else skipCoordinates tokens (index + 2) finish
  else some index

structure RegisterRange where
  name : String
  count : Nat

def registerTypes : List String :=
  [".pred", ".b16", ".b32", ".b64", ".u16", ".u32", ".u64", ".s16", ".s32", ".s64", ".f32", ".f64"]

def storageTypes : List String :=
  [".b8", ".b16", ".b32", ".b64", ".u8", ".u16", ".u32", ".u64", ".s8", ".s16", ".s32", ".s64", ".f32", ".f64"]

def registerCount (index finish : Nat) : Option (Nat × Nat) :=
  if index < finish ∧ tokens.textAt index = "<" then
    if index + 2 ≥ finish ∨ tokens.textAt (index + 2) ≠ ">" then none
    else
      match parseUnsigned (tokens.textAt (index + 1)) with
      | none => none
      | some count => if count = 0 ∨ count > 65536 then none else some (count, index + 3)
  else some (0, index)

-- Every round consumes a name, so the number of tokens covers the rounds.
def registerNames (tokens : Tokens) (finish : Nat) : Nat → Nat → List RegisterRange → Option (List RegisterRange)
  | 0, _, registers => some registers
  | fuel + 1, index, registers =>
    if index ≥ finish then some registers
    else
      let name := tokens.textAt index
      if !isIdentifier (if name.startsWith "%" then dropChars name 1 else name) then none
      else
        match registerCount tokens (index + 1) finish with
        | none => none
        | some (count, index) =>
          let registers := registers ++ [⟨name, count⟩]
          if index ≥ finish then some registers
          else if tokens.textAt index ≠ "," then none
          else registerNames tokens finish fuel (index + 1) registers

def parseRegisters (begin finish : Nat) (registers : List RegisterRange) : Option (List RegisterRange) :=
  if begin + 2 ≥ finish ∨ tokens.textAt (begin + 1) ∉ registerTypes then none
  else registerNames tokens finish (finish - begin) (begin + 2) registers

def plainSpecialRegisters : List String := ["%ctaid.x", "%nctaid.x", "%tid.x", "%ntid.x", "%globaltimer"]

def cooperativeSpecialRegisters : List String :=
  ["%ctaid.y", "%ctaid.z", "%nctaid.y", "%nctaid.z", "%tid.y", "%tid.z", "%ntid.y", "%ntid.z", "%laneid", "%lanemask_eq",
    "%lanemask_lt", "%lanemask_le", "%lanemask_gt", "%lanemask_ge"]

def RegisterRange.declares (range : RegisterRange) (name : String) : Bool :=
  if range.count = 0 then range.name = name
  else name.startsWith range.name && (parseUnsigned (dropChars name range.name.length)).any (· < range.count)

def hasRegister (name : String) (registers : List RegisterRange) (isCooperative : Bool) : Bool :=
  name ∈ plainSpecialRegisters || (isCooperative && name ∈ cooperativeSpecialRegisters) ||
    registers.any fun range => range.declares name

variable (opcode : String)

def isWarpCollective : Bool :=
  opcode ∈ ["shfl.sync.up.b32", "shfl.sync.down.b32", "shfl.sync.bfly.b32", "shfl.sync.idx.b32", "vote.sync.all.pred",
    "vote.sync.any.pred", "vote.sync.uni.pred", "vote.sync.ballot.b32", "match.any.sync.b32", "match.any.sync.b64",
    "match.all.sync.b32", "match.all.sync.b64", "bar.warp.sync"]

structure AtomicParts where
  operation : Option String := none
  type : Option String := none
  space : Option String := none
  semantics : Option String := none
  scope : Option String := none
  hasNoftz : Bool := false

def assignPart (slot : Option String) (value : String) : Option (Option String) :=
  if slot.isSome then none else some (some value)

def atomicOperations : List String := ["and", "or", "xor", "cas", "exch", "add", "inc", "dec", "min", "max"]

def atomicTypes : List String := ["b16", "b32", "b64", "u32", "u64", "s32", "s64", "f16", "f16x2", "f32", "f64"]

def atomicPart (isReduction : Bool) (parts : AtomicParts) (component : String) : Option AtomicParts :=
  if component ∈ ["global", "shared"] then (assignPart parts.space component).map fun slot => { parts with space := slot }
  else if component ∈ ["cta", "gpu", "sys"] then (assignPart parts.scope component).map fun slot =>
    { parts with scope := slot }
  else if component ∈ ["relaxed", "release"] ∨ (!isReduction ∧ component ∈ ["acquire", "acq_rel"]) then
    (assignPart parts.semantics component).map fun slot => { parts with semantics := slot }
  else if component ∈ atomicOperations then
    (assignPart parts.operation component).map fun slot => { parts with operation := slot }
  else if component ∈ atomicTypes then (assignPart parts.type component).map fun slot => { parts with type := slot }
  else if component = "noftz" ∧ !parts.hasNoftz then some { parts with hasNoftz := true }
  else none

def isAtomicInstruction (isCooperative : Bool) : Bool :=
  let isReduction := opcode.startsWith "red."
  if !isReduction && !opcode.startsWith "atom." then false
  else
    match (components (dropChars opcode (if isReduction then 4 else 5))).foldlM (atomicPart isReduction) {} with
    | none => false
    | some parts =>
      match parts.operation, parts.type with
      | some operation, some type =>
        if (!isCooperative ∧ parts.space ≠ some "global") ∨
          (isReduction ∧ (operation = "cas" ∨ operation = "exch")) then false
        else if parts.hasNoftz ∨ type = "f16" ∨ type = "f16x2" then
          parts.hasNoftz && operation = "add" && (type = "f16" || type = "f16x2")
        else type ≠ "b16" || (!isReduction && operation = "cas")
      | _, _ => false

-- Drops the leading component if it is one of the given and more follows.
def takePart (allowed : List String) : List String → Option (List String)
  | first :: second :: rest => if first ∈ allowed then some (second :: rest) else none
  | _ => none

def isOrderedMemoryInstruction (isCooperative : Bool) : Bool :=
  let isLoad := opcode.startsWith "ld."
  if !isLoad && !opcode.startsWith "st." then false
  else
    let parts := components (dropChars opcode 3)
    let ordered :=
      match takePart ["volatile"] parts with
      | some rest => some rest
      | none => (takePart ["relaxed", if isLoad then "acquire" else "release"] parts).bind
        (takePart ["cta", "gpu", "sys"])
    match ordered.bind (takePart (if isCooperative then ["global", "shared"] else ["global"])) with
    | none => false
    | some rest =>
      match (takePart ["v2", "v4"] rest).getD rest with
      | [type] => "." ++ type ∈ storageTypes
      | _ => false

def arithmeticOperations : List String :=
  ["mov", "cvt", "add", "addc", "sub", "subc", "mul", "mad", "madc", "fma", "div", "rem", "set", "setp", "selp", "slct",
    "testp", "shl", "shr", "shf", "and", "or", "xor", "not", "cnot", "neg", "abs", "min", "max", "bfe", "bfi", "bfind",
    "brev", "clz", "popc", "prmt", "lop3", "sad", "copysign", "rcp", "sqrt", "rsqrt", "sin", "cos", "lg2", "ex2"]

def startsWithAny (starts : List String) : Bool := starts.any fun start => opcode.startsWith start

def isBranch : Bool := opcode = "bra" || opcode = "bra.uni"

def isReturn : Bool := opcode = "ret" || opcode = "ret.uni"

def isCall : Bool := opcode = "call" || opcode = "call.uni"

def isCooperativeInstruction : Bool :=
  opcode = "bar.sync" || startsWithAny opcode ["ld.shared.", "st.shared.", "cvta.to.shared.", "cvta.shared."] ||
    opcode ∈ ["membar.cta", "membar.gl", "membar.sys", "fence.acq_rel.cta", "fence.acq_rel.gpu", "fence.acq_rel.sys",
      "fence.sc.cta", "fence.sc.gpu", "fence.sc.sys", "activemask.b32"] || isWarpCollective opcode

def isSupportedInstruction (isCooperative : Bool) : Bool :=
  if isAtomicInstruction opcode isCooperative || isOrderedMemoryInstruction opcode isCooperative then true
  else if isCooperative && isCooperativeInstruction opcode then true
  else if isBranch opcode || isReturn opcode then true
  else if startsWithAny opcode ["ld.param.", "st.param.", "ld.global.", "ld.const.", "st.global."] then
    !(occursIn ".volatile" opcode || occursIn ".acquire" opcode || occursIn ".release" opcode ||
      occursIn ".relaxed" opcode)
  else if startsWithAny opcode ["cvta.to.global.", "cvta.const.", "cvta.to.const.", "cvta.local.", "cvta.to.local.",
    "ld.local.", "st.local."] then true
  else
    match components opcode with
    | operation :: _ :: _ => operation ∈ arithmeticOperations
    | _ => false

def isPowerOfTwo (value : Nat) : Bool := value &&& (value - 1) = 0

def storageAlignment (index finish : Nat) : Option Nat :=
  if index < finish ∧ tokens.textAt index = ".align" then
    if index + 1 ≥ finish then none
    else
      match parseUnsigned (tokens.textAt (index + 1)) with
      | none => none
      | some alignment => if alignment = 0 ∨ alignment > 128 ∨ !isPowerOfTwo alignment then none else some (index + 2)
  else some index

def parseStorage (begin finish : Nat) : Bool :=
  match storageAlignment tokens (begin + 1) finish with
  | none => false
  | some index =>
    let index := if index < finish ∧ (tokens.textAt index = ".v2" ∨ tokens.textAt index = ".v4") then index + 1 else index
    if index + 1 ≥ finish ∨ tokens.textAt index ∉ storageTypes ∨ !isIdentifier (tokens.textAt (index + 1)) then false
    else
      let index := index + 2
      if index = finish then true
      else if index + 3 ≠ finish ∨ tokens.textAt index ≠ "[" ∨ tokens.textAt (index + 2) ≠ "]" then false
      else (parseUnsigned (tokens.textAt (index + 1))).any fun count => 0 < count ∧ count ≤ 65536

end Glimmer.Transform
