import StrategyHost.Wasm.Text.Reader

/-! # Reading instructions

`Reader.expression` reads a sequence of instructions, plain or folded. A folded instruction comes after what its
parentheses enclose; blocks close with their parenthesis, and a folded `if` has a condition, a `then` arm and
possibly an `else` arm. -/

namespace StrategyHost.Wasm.Reader

def indexOrZero : Reader Index := return (← index?).getD (.number 0 0)

def indexPair : Reader (Index × Index) := do
  match ← index? with
  | some a => return (a, ← index)
  | none => return (.number 0 0, .number 0 0)

/-- A segment, after the item that it initialises unless that is item `0`. Gives the segment first. -/
def segmentAndTarget : Reader (Index × Index) := do
  let a ← index
  match ← index? with
  | some b => return (b, a)
  | none => return (a, .number 0 0)

/-- The number after `key=` in a keyword. -/
def keyed? (key : String) : Reader (Option Nat) := do
  match ← peek with
  | .keyword w =>
    let start := (key ++ "=").toList
    if start.isPrefixOf w.toList then
      match (Literal.ofWord? (w.toList.drop start.length)).bind (·.toNat? 64) with
      | some n =>
        advance
        return some n
      | none => fail "constant out of range"
    else return none
  | _ => return none

def memArg (log : Nat) : Reader (MemArg Index) := do
  let memory ← indexOrZero
  let offset := (← keyed? "offset").getD 0
  match ← keyed? "align" with
  | none => return ⟨offset, log, memory⟩
  | some n => if n == 2 ^ n.log2 then return ⟨offset, n.log2, memory⟩ else fail "alignment must be a power of two"

def catchClause : Reader (Catch Index) :=
  parens do
    if ← keyword? "catch" then
      let tag ← index
      return ⟨some tag, false, ← index⟩
    if ← keyword? "catch_ref" then
      let tag ← index
      return ⟨some tag, true, ← index⟩
    if ← keyword? "catch_all" then return ⟨none, false, ← index⟩
    let _ ← keyword "catch_all_ref"
    return ⟨none, true, ← index⟩

def isCatch : Reader Bool := do
  return (← isKeyword2 "catch") || (← isKeyword2 "catch_ref") || (← isKeyword2 "catch_all") ||
    (← isKeyword2 "catch_all_ref")

def brTable : Reader (Instr Index) := do
  let first ← index
  let more ← manyWhile isIndex index
  let all := first :: more
  return .brTable all.dropLast (all.getLast?.getD first)

def selectTypes : Reader (Option (List (ValType Index))) := do
  if ← isKeyword2 "result" then
    let parts ← manyWhile (isKeyword2 "result") <| parens do
      let _ ← keyword "result"
      many valType
    return some parts.flatten
  else return none

/-- Lanes of `bits` bits, the first one lowest. -/
def joinLanes (bits : Nat) (lanes : List Nat) : Const :=
  let n := lanes.foldr (fun lane n => lane + 2 ^ bits * n) 0
  .v128 (n % 2 ^ 64).toUInt64 (n / 2 ^ 64).toUInt64

def repeated {α : Type} (r : Reader α) : Nat → Reader (List α)
  | 0 => return []
  | n + 1 => do
    let a ← r
    return a :: (← repeated r n)

def vectorConst : Reader Const := do
  match ← peek with
  | .keyword w =>
    let lanes? : Option (Nat × Nat × Reader Nat) := [("i8x16", 8, 16, word 8), ("i16x8", 16, 8, word 16),
      ("i32x4", 32, 4, word 32), ("i64x2", 64, 2, word 64), ("f32x4", 32, 4, float .single),
      ("f64x2", 64, 2, float .double)].lookup w
    match lanes? with
    | some (bits, count, lane) =>
      advance
      return joinLanes bits (← repeated lane count)
    | none => fail "expected a vector shape"
  | _ => fail "expected a vector shape"

/-- The instructions that have operands of their own in the text, or none. -/
def plainInstrs : List (String × Reader (Instr Index)) :=
  let alone (i : Instr Index) : Reader (Instr Index) := return i
  let one (make : Index → Instr Index) : Reader (Instr Index) := make <$> index
  let zero (make : Index → Instr Index) : Reader (Instr Index) := make <$> indexOrZero
  let heap (make : Index → HeapInstr Index) : Reader (Instr Index) := .heap <$> (make <$> index)
  let heap2 (make : Index → Index → HeapInstr Index) : Reader (Instr Index) := do
    let a ← index
    return .heap (make a (← index))
  let cast (onFail : Bool) : Reader (Instr Index) := do
    let label ← index
    let source ← refType
    return .heap (.brOnCast label source (← refType) onFail)
  [("unreachable", alone .unreachable), ("nop", alone .nop), ("throw", one .throw), ("throw_ref", alone .throwRef),
  ("br", one .br), ("br_if", one .brIf), ("br_table", brTable), ("return", alone .ret), ("call", one .call),
  ("call_ref", one .callRef), ("return_call", one .tailCall), ("return_call_ref", one .tailCallRef),
  ("drop", alone .drop), ("select", .select <$> selectTypes),
  ("local.get", one .localGet), ("local.set", one .localSet), ("local.tee", one .localTee),
  ("global.get", one .globalGet), ("global.set", one .globalSet),
  ("table.get", zero .tableGet), ("table.set", zero .tableSet),
  ("table.init", (fun (e, t) => .tableInit e t) <$> segmentAndTarget),
  ("table.copy", (fun (t, s) => .tableCopy t s) <$> indexPair),
  ("table.grow", zero .tableGrow), ("table.size", zero .tableSize), ("table.fill", zero .tableFill),
  ("elem.drop", one .elemDrop),
  ("memory.size", zero .memorySize), ("memory.grow", zero .memoryGrow),
  ("memory.init", (fun (d, m) => .memoryInit d m) <$> segmentAndTarget),
  ("memory.copy", (fun (t, s) => .memoryCopy t s) <$> indexPair),
  ("memory.fill", zero .memoryFill), ("data.drop", one .dataDrop),
  ("i32.const", (fun n => .const (.i32 n.toUInt32)) <$> word 32),
  ("i64.const", (fun n => .const (.i64 n.toUInt64)) <$> word 64),
  ("f32.const", (fun n => .const (.f32 n.toUInt32)) <$> float .single),
  ("f64.const", (fun n => .const (.f64 n.toUInt64)) <$> float .double),
  ("v128.const", .const <$> vectorConst),
  ("ref.null", .refNull <$> heapType), ("ref.is_null", alone .refIsNull), ("ref.func", one .refFunc),
  ("ref.eq", alone .refEq), ("ref.as_non_null", alone .refAsNonNull), ("br_on_null", one .brOnNull),
  ("br_on_non_null", one .brOnNonNull),
  ("struct.new", heap (.structNew · false)), ("struct.new_default", heap (.structNew · true)),
  ("struct.get", heap2 (.structGet · · .none)), ("struct.get_s", heap2 (.structGet · · .signed)),
  ("struct.get_u", heap2 (.structGet · · .unsigned)), ("struct.set", heap2 .structSet),
  ("array.new", heap (.arrayNew · false)), ("array.new_default", heap (.arrayNew · true)),
  ("array.new_fixed", do
    let t ← index
    return .heap (.arrayNewFixed t (← nat 32))),
  ("array.new_data", heap2 .arrayNewData), ("array.new_elem", heap2 .arrayNewElem),
  ("array.get", heap (.arrayGet · .none)), ("array.get_s", heap (.arrayGet · .signed)),
  ("array.get_u", heap (.arrayGet · .unsigned)), ("array.set", heap .arraySet),
  ("array.len", alone (.heap .arrayLen)), ("array.fill", heap .arrayFill), ("array.copy", heap2 .arrayCopy),
  ("array.init_data", heap2 .arrayInitData), ("array.init_elem", heap2 .arrayInitElem),
  ("ref.test", (fun r => .heap (.refTest r)) <$> refType), ("ref.cast", (fun r => .heap (.refCast r)) <$> refType),
  ("br_on_cast", cast false), ("br_on_cast_fail", cast true),
  ("any.convert_extern", alone (.heap .toAny)), ("extern.convert_any", alone (.heap .toExternal)),
  ("extern.internalize", alone (.heap .toAny)), ("extern.externalize", alone (.heap .toExternal)),
  ("ref.i31", alone (.heap .refI31)), ("i31.get_s", alone (.heap (.i31Get true))),
  ("i31.get_u", alone (.heap (.i31Get false))), ("atomic.fence", alone .fence),
  ("catch", (fun _ => .withdrawn) <$> index), ("catch_all", alone .withdrawn),
  ("delegate", (fun _ => .withdrawn) <$> index), ("rethrow", (fun _ => .withdrawn) <$> index)]

def vectorInstr (op : VectorOp) : Reader (Instr Index) := do
  let arg? ← match op.shape.accessLog? with
    | some log => some <$> memArg log
    | none => pure none
  let count := if op.shape == .shuffle then 16 else if op.shape.lanes?.isSome then 1 else 0
  return .vector op arg? (← repeated (nat 8) count)

def plainInstr? (w : String) : Option (Reader (Instr Index)) :=
  match plainInstrs.lookup w with
  | some r => some r
  | none =>
    match Numeric.table.lookup w, Numeric.saturating.lookup w, Load.table.lookup w, Store.table.lookup w with
    | some op, _, _, _ => some (return .numeric op)
    | none, some op, _, _ => some (return .numeric op)
    | none, none, some op, _ => some (.load op <$> memArg op.log)
    | none, none, none, some op => some (.store op <$> memArg op.log)
    | none, none, none, none =>
      match VectorOp.table.find? (·.name == w), AtomicOp.table.find? (·.name == w) with
      | some op, _ => some (vectorInstr op)
      | none, some op => some (.atomic op <$> memArg op.log)
      | none, none => none

def blockInstr (kind : BlockKind Index) : Reader TextInstr := do
  let label ← named?
  return .block kind label (← typeUse false)

def callIndirect (tail : Bool) : Reader TextInstr := do
  let table? ← index?
  let type ← typeUse false
  let table? ← match table? with
    | some t => pure (some t)
    | none => index?
  return .callIndirect tail (table?.getD (.number 0 0)) type

def instr : Reader TextInstr := do
  match ← peek with
  | .keyword w =>
    let special? : Option (Reader TextInstr) := [("block", blockInstr .plain), ("loop", blockInstr .loop),
      ("if", blockInstr .conditional), ("try", blockInstr .withdrawn),
      ("try_table", do
        match ← blockInstr .plain with
        | .block _ label type => return .block (.handler (← manyWhile isCatch catchClause)) label type
        | i => return i),
      ("else", .otherwise <$> id?), ("end", .close <$> id?), ("call_indirect", callIndirect false),
      ("return_call_indirect", callIndirect true)].lookup w
    match special? with
    | some r =>
      advance
      r
    | none =>
      match plainInstr? w with
      | some r =>
        advance
        .plain <$> r
      | none => fail "unknown operator or unexpected token"
  | _ => fail "expected an instruction"

/-- What a parenthesis that is still open will do when it closes. -/
inductive Level where
  /-- The instruction comes after what it encloses. -/
  | endWith (i : TextInstr)
  /-- A folded `if` whose condition is being read. -/
  | condition (i : TextInstr)
  | afterThen
  | afterElse
  | arm
  /-- A handler of the withdrawn form. -/
  | withdrawn
deriving Repr

namespace Level

def isConditional : Level → Bool
  | condition _ | afterThen | afterElse => true
  | _ => false

end Level

/-- The instructions so far, in reverse, and the open parentheses. -/
structure Folding where
  out : List TextInstr
  stack : List Level

namespace Folding

def push (s : Folding) (i : TextInstr) : Folding := { s with out := i :: s.out }

def nest (s : Folding) (l : Level) : Folding := { s with stack := l :: s.stack }

def enter (s : Folding) (i : TextInstr) : Folding :=
  match i with
  | .block .conditional _ _ => s.nest (.condition i)
  | .block .withdrawn _ _ => (s.push i).nest .withdrawn
  | .block _ _ _ => (s.push i).nest (.endWith (.close none))
  | i => s.nest (.endWith i)

def opened (s : Folding) : Reader Folding := do
  let plain : Reader Folding := do
    match ← peek with
    | .pragma "metadata.code.branch_hint" =>
      advance
      let _ ← bytes
      right
      return s
    | _ => return s.enter (← instr)
  match s.stack with
  | .condition i :: stack =>
    if ← keyword? "then" then return ⟨i :: s.out, .arm :: .afterThen :: stack⟩ else plain
  | .afterThen :: stack =>
    let _ ← keyword "else"
    return ⟨.otherwise none :: s.out, .arm :: .afterElse :: stack⟩
  | .afterElse :: _ => fail "too many payloads inside of an if"
  | .withdrawn :: _ =>
    if ← keyword? "do" then return s.nest .arm
    if (← isKeyword "catch") || (← isKeyword "catch_all") || (← isKeyword "delegate") then
      let i ← instr
      return (s.push i).nest .arm
    plain
  | _ => plain

def closed (s : Folding) : Reader Folding := do
  match s.stack with
  | .endWith i :: stack => return ⟨i :: s.out, stack⟩
  | .arm :: stack => return ⟨s.out, stack⟩
  | .condition _ :: _ => fail "an if has no then"
  | .afterThen :: stack | .afterElse :: stack | .withdrawn :: stack => return ⟨.close none :: s.out, stack⟩
  | [] => return s

def step (s : Folding) : Reader Folding := do
  let conditional := match s.stack with
    | l :: _ => l.isConditional
    | [] => false
  if conditional && !(← isDone) && !(← isLeft) then fail "expected an opening parenthesis"
  else if ← isLeft then
    advance
    s.opened
  else if !s.stack.isEmpty && (← peek) == .right then
    advance
    s.closed
  else return s.push (← instr)

def run : Nat → Folding → Reader TextBody
  | 0, s => return s.out.reverse
  | fuel + 1, s => do
    if s.stack.isEmpty && (← isDone) then return s.out.reverse
    else run fuel (← s.step)

/-- One folded instruction. Only parentheses and instructions right after them are read. -/
def runOne : Nat → Folding → Reader TextBody
  | 0, s => return s.out.reverse
  | fuel + 1, s => do
    if ← isLeft then
      advance
      runOne fuel (s.nest (.endWith (← instr)))
    else if !s.stack.isEmpty && (← peek) == .right then
      advance
      let s ← s.closed
      if s.stack.isEmpty then return s.out.reverse else runOne fuel s
    else fail "expected to continue a folded instruction"

end Folding

def expression : Reader TextBody := do Folding.run (← ahead) ⟨[], []⟩

def foldedInstr : Reader TextBody := do Folding.runOne (← ahead) ⟨[], []⟩

end StrategyHost.Wasm.Reader
