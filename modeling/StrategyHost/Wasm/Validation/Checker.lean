import StrategyHost.Wasm.Validation.Types

/-! # Checking instruction sequences

`Checker.body` types a flat instruction sequence with a stack of control frames, each with the operands pushed
since it was entered. After an unconditional branch a frame is unreachable, and its missing operands have any type
that is asked for. -/

namespace StrategyHost.Wasm

/-- What is known of an operand in unreachable code: perhaps nothing, or only that it is a reference. -/
inductive Operand where
  | unknown
  | unknownRef
  | known (t : ValType Nat)
deriving DecidableEq, Repr, Inhabited

inductive FrameKind where
  | func | block | loop | conditional | alternative
deriving DecidableEq, Repr, Inhabited

structure ControlFrame where
  kind : FrameKind
  starts : List (ValType Nat)
  ends : List (ValType Nat)
  operands : List Operand
  unreachable : Bool
  /-- The locals that were set when the frame was entered. -/
  setBefore : List Nat
deriving Repr, Inhabited

def ControlFrame.labelTypes (f : ControlFrame) : List (ValType Nat) :=
  if f.kind == .loop then f.starts else f.ends

/-- What the instructions of a module may refer to. -/
structure Context where
  features : Features
  types : TypeSpace
  funcs : Array Nat
  tables : Array (TableType Nat)
  memories : Array MemoryType
  globals : Array (GlobalType Nat)
  importedGlobals : Nat
  tags : Array Nat
  elems : Array (RefType Nat)
  dataCount : Nat
  /-- The functions that `ref.func` may name, or all of them. -/
  declared? : Option (List Nat)
  locals : Array (ValType Nat)
  /-- The results of the function. -/
  results : List (ValType Nat)
  /-- Whether only constant instructions are allowed. -/
  constant : Bool
deriving Repr

/-- The innermost frame, the frames around it, and the locals without a default that are set. -/
structure CheckerState where
  frames : List ControlFrame
  setLocals : List Nat
deriving Repr, Inhabited

abbrev Checker := ReaderT Context (StateT CheckerState Check)

namespace Checker

def refuse {α : Type} (reason : Invalid) : Checker α := fun _ _ => .error reason

def ensure (p : Bool) (reason : Invalid) : Checker Unit := if p then return () else refuse reason

def lift {α : Type} (c : Check α) : Checker α := fun _ s => c.map (·, s)

def frame : Checker ControlFrame := do
  match (← get).frames with
  | f :: _ => return f
  | [] => refuse .unbalanced

def setFrame (f : ControlFrame) : Checker Unit := modify fun s => { s with frames := f :: s.frames.tail }

def pushOperand (o : Operand) : Checker Unit := do
  let f ← frame
  setFrame { f with operands := o :: f.operands }

def push (t : ValType Nat) : Checker Unit := pushOperand (.known t)

def pushAll (ts : List (ValType Nat)) : Checker Unit := ts.forM push

def popAny : Checker Operand := do
  let f ← frame
  match f.operands with
  | o :: rest =>
    setFrame { f with operands := rest }
    return o
  | [] => if f.unreachable then return .unknown else refuse .typeMismatch

/-- Pops an operand of type `t`. -/
def pop (t : ValType Nat) : Checker Operand := do
  let o ← popAny
  match o with
  | .unknown => return o
  | .unknownRef =>
    match t with
    | .ref _ => return o
    | _ => refuse .typeMismatch
  | .known u =>
    ensure ((← read).types.valSub u t) .typeMismatch
    return o

/-- Pops operands of types `ts`, the last one first. -/
def popAll (ts : List (ValType Nat)) : Checker Unit := ts.reverse.forM fun t => do
  let _ ← pop t

/-- Pops a reference, whose type is given if it is known. -/
def popRef : Checker (Option (RefType Nat)) := do
  match ← popAny with
  | .unknown | .unknownRef => return none
  | .known (.ref r) => return some r
  | .known _ => refuse .typeMismatch

def setUnreachable : Checker Unit := do
  let f ← frame
  setFrame { f with operands := [], unreachable := true }

def enter (kind : FrameKind) (starts ends : List (ValType Nat)) : Checker Unit := do
  let s ← get
  set { s with frames := ⟨kind, starts, ends, [], false, s.setLocals⟩ :: s.frames }
  pushAll starts

/-- Leaves the innermost frame, whose results must be what is left on its stack. -/
def leave : Checker ControlFrame := do
  let f ← frame
  popAll f.ends
  ensure ((← frame).operands.isEmpty) .typeMismatch
  modify fun s => ⟨s.frames.tail, f.setBefore⟩
  return f

def labelFrame (l : Nat) : Checker ControlFrame := do
  match (← get).frames[l]? with
  | some f => return f
  | none => refuse (.unknown .label l)

def label (l : Nat) : Checker (List (ValType Nat)) := return (← labelFrame l).labelTypes

/-- Branches to `l` without leaving: the operands must fit, and take the types of the label. -/
def retype (ts : List (ValType Nat)) : Checker Unit := do
  popAll ts
  pushAll ts

/-- Checks that the operands fit `ts`, and keeps them. -/
def peekAll (ts : List (ValType Nat)) : Checker Unit := do
  let s ← get
  popAll ts
  set s

def item {α : Type} (space : Space) (items : Array α) (n : Nat) : Checker α :=
  match items[n]? with
  | some a => return a
  | none => refuse (.unknown space n)

def funcType (n : Nat) : Checker (FuncType Nat) := do
  let c ← read
  lift (c.types.func (← item .func c.funcs n))

def signature (type : Nat) : Checker (FuncType Nat) := do lift ((← read).types.func type)

def table (n : Nat) : Checker (TableType Nat) := do item .table (← read).tables n

def memory (n : Nat) : Checker MemoryType := do item .memory (← read).memories n

def global (n : Nat) : Checker (GlobalType Nat) := do item .global (← read).globals n

def tag (n : Nat) : Checker (FuncType Nat) := do
  let c ← read
  lift (c.types.func (← item .tag c.tags n))

def elem (n : Nat) : Checker (RefType Nat) := do item .elem (← read).elems n

def data (n : Nat) : Checker Unit := do ensure (n < (← read).dataCount) (.unknown .data n)

def local' (n : Nat) : Checker (ValType Nat) := do item .local (← read).locals n

def feature (has : Features → Bool) (name : String) : Checker Unit := do
  ensure (has (← read).features) (.notEnabled name)

def wellFormed (t : ValType Nat) : Checker Unit := do
  let c ← read
  lift (c.types.checkVal c.features t)

def subRef (a b : RefType Nat) : Checker Unit := do ensure ((← read).types.refSub a b) .typeMismatch

def blockSignature : BlockType Nat → Checker (FuncType Nat)
  | .empty => return ⟨[], []⟩
  | .value t => do
    wellFormed t
    return ⟨[], [t]⟩
  | .func n => signature n

def memArg (log : Nat) (a : MemArg Nat) : Checker Unit := do
  let _ ← memory a.memory
  ensure (a.align ≤ log) (.outOfRange "alignment")
  ensure (a.offset < 2 ^ 32) (.outOfRange "offset")

def apply (params results : List (ValType Nat)) : Checker Unit := do
  popAll params
  pushAll results

/-- A call that takes the place of the caller. -/
def tailApply (t : FuncType Nat) : Checker Unit := do
  let c ← read
  ensure (TypeSpace.all2 c.types.valSub t.results c.results) .typeMismatch
  popAll t.params
  setUnreachable

def indirect (n type : Nat) : Checker (FuncType Nat) := do
  let t ← table n
  subRef t.element .func
  let sig ← signature type
  let _ ← pop .i32
  return sig

def exnRef : ValType Nat := .ref ⟨false, .abstract .exn⟩

def catchClause (c : Catch Nat) : Checker Unit := do
  let params ← match c.tag? with
    | some t => (·.params) <$> tag t
    | none => pure []
  let given := params ++ (if c.withRef then [exnRef] else [])
  let wanted ← label c.label
  ensure (TypeSpace.all2 (← read).types.valSub given wanted) .typeMismatch

/-- The type of a field as an operand. -/
def unpacked : StorageType Nat → ValType Nat
  | .val t => t
  | _ => .i32

def isPacked : StorageType Nat → Bool
  | .val _ => false
  | _ => true

def isDefaultable : StorageType Nat → Bool
  | .val t => t.isDefaultable
  | _ => true

def concrete (nullable : Bool) (n : Nat) : ValType Nat := .ref ⟨nullable, .concrete n⟩

/-- Packed fields are read with an extension, and the others without. -/
def extension (e : Extension) (t : StorageType Nat) : Checker Unit :=
  ensure ((e != .none) == isPacked t) .typeMismatch

/-- The topmost type of the hierarchy of a heap type. -/
def top (h : HeapType Nat) : Checker AbstractHeap := do
  let types := (← read).types
  let a := match h with
    | .abstract a => a
    | .concrete n => types.kindOf n
  match a with
  | .func | .noFunc => return .func
  | .external | .noExternal => return .external
  | .exn | .noExn => return .exn
  | _ => return .any

def popCast (r : RefType Nat) : Checker Unit := do
  let c ← read
  lift (c.types.checkRef c.features r)
  let t ← top r.heap
  let _ ← pop (.ref ⟨true, .abstract t⟩)

def field (t x : Nat) : Checker (FieldType Nat) := do
  let fs ← lift ((← read).types.structFields t)
  match fs[x]? with
  | some f => return f
  | none => refuse (.unknown (.field t) x)

def element (t : Nat) : Checker (FieldType Nat) := do lift ((← read).types.arrayElement t)

def numericStorage (t : StorageType Nat) : Checker Unit :=
  ensure (match t with | .val (.ref _) => false | _ => true) .typeMismatch

def heapInstr : HeapInstr Nat → Checker Unit
  | .structNew t default => do
    let fs ← lift ((← read).types.structFields t)
    if default then ensure (fs.all fun f => isDefaultable f.storage) .typeMismatch
    else popAll (fs.map fun f => unpacked f.storage)
    push (concrete false t)
  | .structGet t x e => do
    let f ← field t x
    extension e f.storage
    apply [concrete true t] [unpacked f.storage]
  | .structSet t x => do
    let f ← field t x
    ensure f.mutable .immutable
    apply [concrete true t, unpacked f.storage] []
  | .arrayNew t default => do
    let f ← element t
    if default then
      ensure (isDefaultable f.storage) .typeMismatch
      apply [.i32] [concrete false t]
    else apply [unpacked f.storage, .i32] [concrete false t]
  | .arrayNewFixed t n => do
    let f ← element t
    ensure (n ≤ 10000) (.outOfRange "array.new_fixed operands")
    apply (List.replicate n (unpacked f.storage)) [concrete false t]
  | .arrayNewData t d => do
    let f ← element t
    numericStorage f.storage
    data d
    apply [.i32, .i32] [concrete false t]
  | .arrayNewElem t e => do
    let f ← element t
    let r ← elem e
    ensure ((← read).types.storageSub (.val (.ref r)) f.storage) .typeMismatch
    apply [.i32, .i32] [concrete false t]
  | .arrayGet t e => do
    let f ← element t
    extension e f.storage
    apply [concrete true t, .i32] [unpacked f.storage]
  | .arraySet t => do
    let f ← element t
    ensure f.mutable .immutable
    apply [concrete true t, .i32, unpacked f.storage] []
  | .arrayLen => apply [.ref (.toAbstract .array)] [.i32]
  | .arrayFill t => do
    let f ← element t
    ensure f.mutable .immutable
    apply [concrete true t, .i32, unpacked f.storage, .i32] []
  | .arrayCopy t s => do
    let f ← element t
    let g ← element s
    ensure f.mutable .immutable
    ensure ((← read).types.storageSub g.storage f.storage) .typeMismatch
    apply [concrete true t, .i32, concrete true s, .i32, .i32] []
  | .arrayInitData t d => do
    let f ← element t
    ensure f.mutable .immutable
    numericStorage f.storage
    data d
    apply [concrete true t, .i32, .i32, .i32] []
  | .arrayInitElem t e => do
    let f ← element t
    ensure f.mutable .immutable
    let r ← elem e
    ensure ((← read).types.storageSub (.val (.ref r)) f.storage) .typeMismatch
    apply [concrete true t, .i32, .i32, .i32] []
  | .refTest r => do
    popCast r
    push .i32
  | .refCast r => do
    popCast r
    push (.ref r)
  | .brOnCast l source target onFail => do
    let c ← read
    lift (c.types.checkRef c.features source)
    lift (c.types.checkRef c.features target)
    subRef target source
    let _ ← pop (.ref source)
    let rest : RefType Nat := ⟨source.nullable && !target.nullable, source.heap⟩
    let (taken, kept) := if onFail then (rest, target) else (target, rest)
    let ts ← label l
    push (.ref taken)
    retype ts
    ensure (!ts.isEmpty) .typeMismatch
    let _ ← popAny
    push (.ref kept)
  | .toAny => do
    match ← popRef with
    | some r => do
      subRef r .external
      push (.ref ⟨r.nullable, .abstract .any⟩)
    | none => push (.ref ⟨false, .abstract .any⟩)
  | .toExternal => do
    match ← popRef with
    | some r => do
      subRef r (.toAbstract .any)
      push (.ref ⟨r.nullable, .abstract .external⟩)
    | none => push (.ref ⟨false, .abstract .external⟩)
  | .refI31 => apply [.i32] [.ref ⟨false, .abstract .i31⟩]
  | .i31Get _ => apply [.ref (.toAbstract .i31)] [.i32]

/-- The heap instructions that constant expressions may contain. -/
def isConstantHeap : HeapInstr Nat → Bool
  | .structNew _ _ | .arrayNew _ _ | .arrayNewFixed _ _ | .toAny | .toExternal | .refI31 => true
  | _ => false

/-- The instructions that constant expressions may contain. -/
def isConstant : Instr Nat → Bool
  | .const _ | .refNull _ | .refFunc _ | .globalGet _ | .close => true
  | .numeric (.intBinary _ op) => op == .add || op == .sub || op == .mul
  | .heap op => isConstantHeap op
  | _ => false

def vectorInstr (op : VectorOp) (arg? : Option (MemArg Nat)) (lanes : List Nat) : Checker Unit := do
  let (params, results) := op.shape.signature
  match op.shape.lanes? with
  | some n => ensure (lanes.all (· < n)) (.outOfRange "lane index")
  | none => ensure (lanes.all (· < 32)) (.outOfRange "lane index")
  match op.shape.accessLog?, arg? with
  | some log, some a =>
    memArg log a
    apply (.i32 :: params) results
  | none, none => apply params results
  | _, _ => refuse .malformed

def instr (i : Instr Nat) : Checker Unit := do
  let c ← read
  if c.constant then ensure (isConstant i) .notConstant
  match i with
  | .unreachable => setUnreachable
  | .nop => return ()
  | .block kind type =>
    match kind with
    | .withdrawn => refuse (.notEnabled "legacy exceptions")
    | .handler _ => feature (·.exceptions) "exceptions"
    | _ => pure ()
    let sig ← blockSignature type
    match kind with
    | .conditional =>
      let _ ← pop .i32
    | .handler catches => catches.forM catchClause
    | _ => pure ()
    popAll sig.params
    enter (match kind with | .loop => .loop | .conditional => .conditional | _ => .block) sig.params sig.results
  | .otherwise =>
    let f ← leave
    ensure (f.kind == .conditional) .unbalanced
    enter .alternative f.starts f.ends
  | .close =>
    let f ← leave
    if f.kind == .conditional then
      enter .alternative f.starts f.ends
      let _ ← leave
    match (← get).frames with
    | [] => return ()
    | _ :: _ => pushAll f.ends
  | .throw t =>
    feature (·.exceptions) "exceptions"
    popAll (← tag t).params
    setUnreachable
  | .throwRef =>
    feature (·.exceptions) "exceptions"
    let _ ← pop (.ref (.toAbstract .exn))
    setUnreachable
  | .br l =>
    popAll (← label l)
    setUnreachable
  | .brIf l =>
    let _ ← pop .i32
    retype (← label l)
  | .brTable ls d =>
    let _ ← pop .i32
    let default ← label d
    ls.forM fun l => do
      let ts ← label l
      ensure (ts.length == default.length) .typeMismatch
      peekAll ts
    popAll default
    setUnreachable
  | .ret =>
    popAll c.results
    setUnreachable
  | .call f =>
    let t ← funcType f
    apply t.params t.results
  | .callIndirect t u =>
    let sig ← indirect t u
    apply sig.params sig.results
  | .callRef u =>
    feature (·.functionReferences) "function references"
    let sig ← signature u
    let _ ← pop (concrete true u)
    apply sig.params sig.results
  | .tailCall f => tailApply (← funcType f)
  | .tailCallIndirect t u => tailApply (← indirect t u)
  | .tailCallRef u =>
    feature (·.functionReferences) "function references"
    let sig ← signature u
    let _ ← pop (concrete true u)
    tailApply sig
  | .drop =>
    let _ ← popAny
  | .select none =>
    let _ ← pop .i32
    let a ← popAny
    let b ← popAny
    let plain (o : Operand) : Bool := match o with
      | .known (.ref _) | .unknownRef => false
      | _ => true
    ensure (plain a && plain b) .typeMismatch
    match a, b with
    | .known t, .known u =>
      ensure (t == u) .typeMismatch
      push t
    | .known t, _ => push t
    | _, o => pushOperand o
  | .select (some ts) =>
    match ts with
    | [t] =>
      wellFormed t
      apply [t, t, .i32] [t]
    | _ => refuse (.outOfRange "result arity")
  | .localGet x =>
    let t ← local' x
    ensure (t.isDefaultable || (← get).setLocals.contains x) (.uninitialized x)
    push t
  | .localSet x =>
    let t ← local' x
    let _ ← pop t
    modify fun s => if t.isDefaultable then s else { s with setLocals := x :: s.setLocals }
  | .localTee x =>
    let t ← local' x
    let _ ← pop t
    modify fun s => if t.isDefaultable then s else { s with setLocals := x :: s.setLocals }
    push t
  | .globalGet x =>
    let g ← global x
    if c.constant then ensure (!g.mutable && (x < c.importedGlobals || c.features.gc)) .notConstant
    push g.value
  | .globalSet x =>
    let g ← global x
    ensure g.mutable .immutable
    let _ ← pop g.value
  | .tableGet x => apply [.i32] [.ref (← table x).element]
  | .tableSet x => apply [.i32, .ref (← table x).element] []
  | .tableInit e x =>
    let t ← table x
    subRef (← elem e) t.element
    apply [.i32, .i32, .i32] []
  | .tableCopy x y =>
    let t ← table x
    subRef (← table y).element t.element
    apply [.i32, .i32, .i32] []
  | .tableGrow x => apply [.ref (← table x).element, .i32] [.i32]
  | .tableSize x =>
    let _ ← table x
    push .i32
  | .tableFill x => apply [.i32, .ref (← table x).element, .i32] []
  | .elemDrop e =>
    let _ ← elem e
  | .load op a =>
    memArg op.log a
    apply [.i32] [op.scalar.type]
  | .store op a =>
    memArg op.log a
    apply [.i32, op.scalar.type] []
  | .memorySize m =>
    let _ ← memory m
    push .i32
  | .memoryGrow m =>
    let _ ← memory m
    apply [.i32] [.i32]
  | .memoryInit d m =>
    let _ ← memory m
    data d
    apply [.i32, .i32, .i32] []
  | .memoryCopy a b =>
    let _ ← memory a
    let _ ← memory b
    apply [.i32, .i32, .i32] []
  | .memoryFill m =>
    let _ ← memory m
    apply [.i32, .i32, .i32] []
  | .dataDrop d => data d
  | .const k => push k.type
  | .numeric op => apply op.params [op.result]
  | .refNull h =>
    lift (c.types.checkHeap c.features true h)
    push (.ref ⟨true, h⟩)
  | .refIsNull =>
    let _ ← popRef
    push .i32
  | .refFunc f =>
    let t ← item .func c.funcs f
    match c.declared? with
    | some fs => ensure (fs.contains f) (.undeclared f)
    | none => pure ()
    push (if c.features.functionReferences then concrete false t else .ref ⟨false, .abstract .func⟩)
  | .refEq =>
    feature (·.gc) "gc"
    apply [.ref (.toAbstract .eq), .ref (.toAbstract .eq)] [.i32]
  | .refAsNonNull =>
    feature (·.functionReferences) "function references"
    match ← popRef with
    | some r => push (.ref ⟨false, r.heap⟩)
    | none => pushOperand .unknownRef
  | .brOnNull l =>
    feature (·.functionReferences) "function references"
    let r? ← popRef
    retype (← label l)
    match r? with
    | some r => push (.ref ⟨false, r.heap⟩)
    | none => pushOperand .unknownRef
  | .brOnNonNull l =>
    feature (·.functionReferences) "function references"
    match ← popRef with
    | some r => push (.ref ⟨false, r.heap⟩)
    | none => pushOperand .unknownRef
    let ts ← label l
    match ts.getLast? with
    | some (.ref _) => do
      retype ts
      let _ ← popAny
    | _ => refuse .typeMismatch
  | .heap op =>
    feature (·.gc) "gc"
    heapInstr op
  | .vector op a? lanes => vectorInstr op a? lanes
  | .atomic op a =>
    feature (·.threads) "threads"
    memArg op.log a
    ensure (a.align == op.log) (.outOfRange "alignment")
    apply (.i32 :: op.operands.map (·.type)) (op.result?.toList.map (·.type))
  | .fence => feature (·.threads) "threads"
  | .withdrawn => refuse (.notEnabled "legacy exceptions")

/-- A whole sequence: every frame closes, and nothing follows the last `close`. -/
def sequence : List (Instr Nat) → Checker Unit
  | [] => do ensure (← get).frames.isEmpty .unbalanced
  | i :: rest => do
    ensure (!(← get).frames.isEmpty) .unbalanced
    instr i
    sequence rest

end Checker

/-- Checks a sequence that leaves `results` and begins with the locals below `params` set. -/
def Context.checkBody (c : Context) (results : List (ValType Nat)) (params : Nat) (b : Body) : Check Unit := do
  let start : ControlFrame := ⟨.func, [], results, [], false, []⟩
  let (_, _) ← (Checker.sequence b).run { c with results } ⟨[start], List.range params⟩
  return ()

end StrategyHost.Wasm
