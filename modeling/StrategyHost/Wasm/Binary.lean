import StrategyHost.Wasm.Validation.Types

/-! # The binary form

`Module.decode` reads a module from its bytes: sections in their order, each read to its end. -/

namespace StrategyHost.Wasm

abbrev Decode := StateT (List UInt8) Check

namespace Decode

def refuse {α : Type} : Decode α := fun _ => .error .malformed

def ensure (p : Bool) : Decode Unit := if p then return () else refuse

def byte : Decode Nat := fun bs =>
  match bs with
  | b :: rest => .ok (b.toNat, rest)
  | [] => .error .malformed

def isDone : Decode Bool := fun bs => .ok (bs.isEmpty, bs)

def ahead : Decode Nat := fun bs => .ok (bs.length + 1, bs)

def takeBytes (n : Nat) : Decode (List UInt8) := fun bs =>
  let taken := bs.take n
  if taken.length == n then .ok (taken, bs.drop n) else .error .malformed

/-- An unsigned number of at most `bits` bits in groups of seven, lowest first. -/
def unsigned : Nat → Decode Nat
  | bits => go (bits / 7 + 1) bits
where
  go : Nat → Nat → Decode Nat
    | 0, _ => refuse
    | fuel + 1, bits => do
      let b ← byte
      if b < 128 then
        ensure (bits ≥ 7 || b < 2 ^ bits)
        return b
      else
        ensure (7 ≤ bits)
        return (b - 128) + 128 * (← go fuel (bits - 7))

/-- A signed number of at most `bits` bits in two's complement, in groups of seven. -/
def signed : Nat → Decode Int
  | bits => go (bits / 7 + 1) bits
where
  go : Nat → Nat → Decode Int
    | 0, _ => refuse
    | fuel + 1, bits => do
      let b ← byte
      if b < 128 then
        let n : Int := if b < 64 then b else (b : Int) - 128
        ensure (bits ≥ 7 || (-(2 ^ (bits - 1) : Nat) ≤ n && n < (2 ^ (bits - 1) : Nat)))
        return n
      else
        ensure (7 ≤ bits)
        return (b - 128 : Nat) + 128 * (← go fuel (bits - 7))

def u32 : Decode Nat := unsigned 32

/-- `n` bytes as a number, lowest first. -/
def little (n : Nat) : Decode Nat := return (← takeBytes n).foldr (fun b n => b.toNat + 256 * n) 0

def name : Decode String := do
  let bs ← takeBytes (← u32)
  match String.fromUTF8? ⟨bs.toArray⟩ with
  | some s => return s
  | none => refuse

def times {α : Type} (r : Decode α) : Nat → Decode (List α)
  | 0 => return []
  | n + 1 => do
    let a ← r
    return a :: (← times r n)

/-- A vector: a count and that many items, each of which takes a byte at least. -/
def vec {α : Type} (r : Decode α) : Decode (List α) := do
  let n ← u32
  ensure (n < (← ahead))
  times r n

def all {α : Type} (r : Decode α) : Nat → Decode (List α)
  | 0 => return []
  | fuel + 1 => do
    if ← isDone then return []
    let a ← r
    return a :: (← all r fuel)

/-- Reads the next `n` bytes to their end. -/
def within {α : Type} (n : Nat) (r : Decode α) : Decode α := do
  let bs ← takeBytes n
  match r bs with
  | .ok (a, []) => return a
  | _ => refuse

/-! ## Types -/

def abstractHeaps : List (Nat × AbstractHeap) := [
  (0x70, .func), (0x6f, .external), (0x6e, .any), (0x6d, .eq), (0x6c, .i31), (0x6b, .struct), (0x6a, .array),
  (0x69, .exn), (0x71, .none), (0x72, .noExternal), (0x73, .noFunc), (0x74, .noExn)]

def peek : Decode Nat := fun bs =>
  match bs with
  | b :: _ => .ok (b.toNat, bs)
  | [] => .error .malformed

def heapType : Decode (HeapType Nat) := do
  match abstractHeaps.lookup (← peek) with
  | some h =>
    let _ ← byte
    return .abstract h
  | none =>
    let n ← signed 33
    if n < 0 then refuse else return .concrete n.toNat

def valType : Decode (ValType Nat) := do
  let b ← byte
  match abstractHeaps.lookup b with
  | some h => return .ref (.toAbstract h)
  | none =>
    match b with
    | 0x7f => return .i32
    | 0x7e => return .i64
    | 0x7d => return .f32
    | 0x7c => return .f64
    | 0x7b => return .v128
    | 0x64 => return .ref ⟨false, ← heapType⟩
    | 0x63 => return .ref ⟨true, ← heapType⟩
    | _ => refuse

def refType : Decode (RefType Nat) := do
  match ← valType with
  | .ref r => return r
  | _ => refuse

def flag : Decode Bool := do
  match ← byte with
  | 0 => return false
  | 1 => return true
  | _ => refuse

def storageType : Decode (StorageType Nat) := do
  match ← peek with
  | 0x78 =>
    let _ ← byte
    return .i8
  | 0x77 =>
    let _ ← byte
    return .i16
  | _ => return .val (← valType)

def fieldType : Decode (FieldType Nat) := do
  let storage ← storageType
  return ⟨← flag, storage⟩

def composite : Decode (CompositeType Nat) := do
  match ← byte with
  | 0x60 =>
    let params ← vec valType
    return .func ⟨params, ← vec valType⟩
  | 0x5f => return .struct (← vec fieldType)
  | 0x5e => return .array (← fieldType)
  | _ => refuse

def subType : Decode (SubType Nat) := do
  let open' (final : Bool) : Decode (SubType Nat) := do
    let _ ← byte
    let supers ← vec u32
    ensure (supers.length ≤ 1)
    return ⟨final, supers.head?, ← composite⟩
  match ← peek with
  | 0x50 => open' false
  | 0x4f => open' true
  | _ => return ⟨true, none, ← composite⟩

def typeGroup : Decode TypeGroup := do
  match ← peek with
  | 0x4e =>
    let _ ← byte
    return ⟨true, ← vec subType⟩
  | _ => return ⟨false, [← subType]⟩

/-- Limits after their flags: whether there is a maximum, and the width of the numbers. -/
def limits (bounded wide : Bool) : Decode Limits := do
  let number := unsigned (if wide then 64 else 32)
  let min ← number
  let max? ← if bounded then some <$> number else pure none
  return ⟨min, max?, wide⟩

def tableType : Decode (TableType Nat) := do
  let element ← refType
  let flags ← byte
  ensure (flags == 0 || flags == 1 || flags == 4 || flags == 5)
  return ⟨← limits (flags % 2 == 1) (4 ≤ flags), element⟩

def memoryType : Decode MemoryType := do
  let flags ← byte
  ensure (flags < 16)
  let l ← limits (flags % 2 == 1) (flags / 4 % 2 == 1)
  let log? ← if 8 ≤ flags then some <$> u32 else pure none
  return ⟨l, flags / 2 % 2 == 1, log?⟩

def globalType : Decode (GlobalType Nat) := do
  let t ← valType
  return ⟨t, ← flag⟩

def tagType : Decode Nat := do
  ensure ((← byte) == 0)
  u32

/-! ## Instructions -/

def blockType : Decode (BlockType Nat) := do
  let b ← peek
  if b == 0x40 then
    let _ ← byte
    return .empty
  else if 0x40 < b && b < 0x80 then return .value (← valType)
  else
    let n ← signed 33
    if n < 0 then refuse else return .func n.toNat

def memArg : Decode (MemArg Nat) := do
  let flags ← u32
  ensure (flags < 128)
  let memory ← if 64 ≤ flags then u32 else pure 0
  return ⟨← unsigned 32, flags % 64, memory⟩

def catchClause : Decode (Catch Nat) := do
  match ← byte with
  | 0 =>
    let t ← u32
    return ⟨some t, false, ← u32⟩
  | 1 =>
    let t ← u32
    return ⟨some t, true, ← u32⟩
  | 2 => return ⟨none, false, ← u32⟩
  | 3 => return ⟨none, true, ← u32⟩
  | _ => refuse

def pair {α : Type} (make : Nat → Nat → α) : Decode α := do
  let a ← u32
  return make a (← u32)

def word (bits : Nat) : Decode Nat := return ((← signed bits) % (2 ^ bits : Nat)).toNat

def castType (nullable : Bool) : Decode (RefType Nat) := return ⟨nullable, ← heapType⟩

def castBranch (onFail : Bool) : Decode (HeapInstr Nat) := do
  let flags ← byte
  ensure (flags < 4)
  let l ← u32
  let source ← castType (flags % 2 == 1)
  return .brOnCast l source (← castType (2 ≤ flags)) onFail

def heapInstr : Decode (HeapInstr Nat) := do
  match ← u32 with
  | 0 => (.structNew · false) <$> u32
  | 1 => (.structNew · true) <$> u32
  | 2 => pair (.structGet · · .none)
  | 3 => pair (.structGet · · .signed)
  | 4 => pair (.structGet · · .unsigned)
  | 5 => pair .structSet
  | 6 => (.arrayNew · false) <$> u32
  | 7 => (.arrayNew · true) <$> u32
  | 8 => pair .arrayNewFixed
  | 9 => pair .arrayNewData
  | 10 => pair .arrayNewElem
  | 11 => (.arrayGet · .none) <$> u32
  | 12 => (.arrayGet · .signed) <$> u32
  | 13 => (.arrayGet · .unsigned) <$> u32
  | 14 => .arraySet <$> u32
  | 15 => return .arrayLen
  | 16 => .arrayFill <$> u32
  | 17 => pair .arrayCopy
  | 18 => pair .arrayInitData
  | 19 => pair .arrayInitElem
  | 20 => .refTest <$> castType false
  | 21 => .refTest <$> castType true
  | 22 => .refCast <$> castType false
  | 23 => .refCast <$> castType true
  | 24 => castBranch false
  | 25 => castBranch true
  | 26 => return .toAny
  | 27 => return .toExternal
  | 28 => return .refI31
  | 29 => return .i31Get true
  | 30 => return .i31Get false
  | _ => refuse

/-- The instructions after the byte `0xfc`. -/
def extendedInstr : Decode (Instr Nat) := do
  let code ← u32
  match Numeric.saturating[code]? with
  | some (_, op) => return .numeric op
  | none =>
    match code with
    | 8 => pair .memoryInit
    | 9 => .dataDrop <$> u32
    | 10 => pair .memoryCopy
    | 11 => .memoryFill <$> u32
    | 12 => pair .tableInit
    | 13 => .elemDrop <$> u32
    | 14 => pair .tableCopy
    | 15 => .tableGrow <$> u32
    | 16 => .tableSize <$> u32
    | 17 => .tableFill <$> u32
    | _ => refuse

/-- The instructions after the byte `0xfd`. -/
def vectorInstr : Decode (Instr Nat) := do
  let code ← u32
  if code == 12 then
    let low ← little 8
    return .const (.v128 low.toUInt64 (← little 8).toUInt64)
  else
    match VectorOp.table.find? (·.code == code) with
    | none => refuse
    | some op =>
      let arg? ← if op.shape.accessLog?.isSome then some <$> memArg else pure none
      let count := if op.shape == .shuffle then 16 else if op.shape.lanes?.isSome then 1 else 0
      return .vector op arg? (← times byte count)

/-- The instructions after the byte `0xfe`. -/
def atomicInstr : Decode (Instr Nat) := do
  let code ← u32
  if code == 3 then
    ensure ((← byte) == 0)
    return .fence
  else
    match AtomicOp.table.find? (·.code == code) with
    | none => refuse
    | some op => return .atomic op (← memArg)

def instr : Decode (Instr Nat) := do
  let code ← byte
  match code with
  | 0x00 => return .unreachable
  | 0x01 => return .nop
  | 0x02 => .block .plain <$> blockType
  | 0x03 => .block .loop <$> blockType
  | 0x04 => .block .conditional <$> blockType
  | 0x05 => return .otherwise
  | 0x08 => .throw <$> u32
  | 0x0a => return .throwRef
  | 0x0b => return .close
  | 0x0c => .br <$> u32
  | 0x0d => .brIf <$> u32
  | 0x0e => do
    let ls ← vec u32
    return .brTable ls (← u32)
  | 0x0f => return .ret
  | 0x10 => .call <$> u32
  | 0x11 => pair fun type table => .callIndirect table type
  | 0x12 => .tailCall <$> u32
  | 0x13 => pair fun type table => .tailCallIndirect table type
  | 0x14 => .callRef <$> u32
  | 0x15 => .tailCallRef <$> u32
  | 0x1a => return .drop
  | 0x1b => return .select none
  | 0x1c => (.select ∘ some) <$> vec valType
  | 0x1f => do
    let type ← blockType
    return .block (.handler (← vec catchClause)) type
  | 0x20 => .localGet <$> u32
  | 0x21 => .localSet <$> u32
  | 0x22 => .localTee <$> u32
  | 0x23 => .globalGet <$> u32
  | 0x24 => .globalSet <$> u32
  | 0x25 => .tableGet <$> u32
  | 0x26 => .tableSet <$> u32
  | 0x3f => .memorySize <$> u32
  | 0x40 => .memoryGrow <$> u32
  | 0x41 => (fun n => .const (.i32 n.toUInt32)) <$> word 32
  | 0x42 => (fun n => .const (.i64 n.toUInt64)) <$> word 64
  | 0x43 => (fun n => .const (.f32 n.toUInt32)) <$> little 4
  | 0x44 => (fun n => .const (.f64 n.toUInt64)) <$> little 8
  | 0xd0 => .refNull <$> heapType
  | 0xd1 => return .refIsNull
  | 0xd2 => .refFunc <$> u32
  | 0xd3 => return .refEq
  | 0xd4 => return .refAsNonNull
  | 0xd5 => .brOnNull <$> u32
  | 0xd6 => .brOnNonNull <$> u32
  | 0xfb => .heap <$> heapInstr
  | 0xfc => extendedInstr
  | 0xfd => vectorInstr
  | 0xfe => atomicInstr
  | code =>
    if code < Load.firstCode then refuse
    else
      match Load.table[code - Load.firstCode]? with
      | some (_, op) => return .load op (← memArg)
      | none =>
        match Store.table[code - Store.firstCode]? with
        | some (_, op) => return .store op (← memArg)
        | none =>
          if code < Numeric.firstCode then refuse
          else
            match Numeric.table[code - Numeric.firstCode]? with
            | some (_, op) => return .numeric op
            | none => refuse

/-- Instructions up to the first `close`. -/
def constantFuel : Nat → Decode Body
  | 0 => refuse
  | fuel + 1 => do
    let i ← instr
    if i == .close then return [i] else return i :: (← constantFuel fuel)

def constant : Decode Body := do constantFuel (← ahead)

/-! ## Sections -/

def importEntry : Decode Import := do
  let m ← name
  let n ← name
  match ← byte with
  | 0 => return ⟨m, n, .func (← u32)⟩
  | 1 => return ⟨m, n, .table (← tableType)⟩
  | 2 => return ⟨m, n, .memory (← memoryType)⟩
  | 3 => return ⟨m, n, .global (← globalType)⟩
  | 4 => return ⟨m, n, .tag (← tagType)⟩
  | _ => refuse

def tableEntry : Decode Table := do
  match ← peek with
  | 0x40 =>
    let _ ← byte
    ensure ((← byte) == 0)
    let t ← tableType
    return ⟨t, some (← constant)⟩
  | _ => return ⟨← tableType, none⟩

def globalEntry : Decode Global := do
  let t ← globalType
  return ⟨t, ← constant⟩

def exportEntry : Decode Export := do
  let n ← name
  let kind ← match ← byte with
    | 0 => pure ExternalKind.func
    | 1 => pure .table
    | 2 => pure .memory
    | 3 => pure .global
    | 4 => pure .tag
    | _ => refuse
  return ⟨n, kind, ← u32⟩

def elemEntry : Decode Elem := do
  let flags ← u32
  ensure (flags < 8)
  let mode ←
    if flags % 2 == 1 then pure (if flags / 2 % 2 == 1 then SegmentMode.declared else .passive)
    else
      let target ← if flags / 2 % 2 == 1 then u32 else pure 0
      SegmentMode.active target <$> constant
  let typed := flags % 4 != 0
  if 4 ≤ flags then
    let t ← if typed then refType else pure .func
    return ⟨mode, some t, ← vec constant⟩
  else
    if typed then ensure ((← byte) == 0)
    let items ← vec u32
    return ⟨mode, none, items.map fun f => [.refFunc f, .close]⟩

def dataEntry : Decode Data := do
  let mode ← match ← u32 with
    | 0 => SegmentMode.active 0 <$> constant
    | 1 => pure .passive
    | 2 => do
      let target ← u32
      SegmentMode.active target <$> constant
    | _ => refuse
  return ⟨mode, ← takeBytes (← u32)⟩

/-- Locals come in runs of one type; there are at most so many. -/
def maxLocals : Nat := 50000

def localRun : Decode (Nat × ValType Nat) := do
  let n ← u32
  ensure (n ≤ maxLocals)
  return (n, ← valType)

def codeEntry : Decode (List (ValType Nat) × Body) := do
  within (← u32) do
    let runs ← vec localRun
    ensure ((runs.map (·.1)).foldr (· + ·) 0 ≤ maxLocals)
    return (runs.flatMap fun (n, t) => List.replicate n t, ← all instr (← ahead))

/-- What the sections read so far contain. -/
structure Sections where
  module : Module
  /-- The types of the functions whose bodies are to come. -/
  funcTypes : List Nat
  dataCount? : Option Nat
  /-- The rank of the last section. -/
  rank : Nat

/-- The places of the sections in their order, by code. -/
def ranks : List (Nat × Nat) := [(1, 1), (2, 2), (3, 3), (4, 4), (5, 5), (13, 6), (6, 7), (7, 8), (8, 9), (9, 10),
  (12, 11), (10, 12), (11, 13)]

def sectionBody (s : Sections) (code : Nat) : Decode Sections := do
  let m := s.module
  match code with
  | 1 => return { s with module := { m with types := ← vec typeGroup } }
  | 2 => return { s with module := { m with imports := ← vec importEntry } }
  | 3 => return { s with funcTypes := ← vec u32 }
  | 4 => return { s with module := { m with tables := ← vec tableEntry } }
  | 5 => return { s with module := { m with memories := ← vec memoryType } }
  | 13 => return { s with module := { m with tags := ← vec tagType } }
  | 6 => return { s with module := { m with globals := ← vec globalEntry } }
  | 7 => return { s with module := { m with exports := ← vec exportEntry } }
  | 8 => return { s with module := { m with start? := some (← u32) } }
  | 9 => return { s with module := { m with elems := ← vec elemEntry } }
  | 12 => return { s with dataCount? := some (← u32) }
  | 10 =>
    let codes ← vec codeEntry
    ensure (codes.length == s.funcTypes.length)
    let funcs := List.zipWith (fun t (ls, b) => (⟨t, ls, b⟩ : Func)) s.funcTypes codes
    return { s with module := { m with funcs } }
  | 11 => return { s with module := { m with datas := ← vec dataEntry } }
  | _ => refuse

def sections : Nat → Sections → Decode Sections
  | 0, s => return s
  | fuel + 1, s => do
    if ← isDone then return s
    let code ← byte
    let size ← u32
    if code == 0 then
      let bs ← takeBytes size
      match name bs with
      | .ok _ => sections fuel s
      | .error e => throw e
    else
      match ranks.lookup code with
      | none => refuse
      | some rank =>
        ensure (s.rank < rank)
        let s ← within size (sectionBody s code)
        sections fuel { s with rank }

/-- Whether a body needs the number of data segments in advance. -/
def usesData (b : Body) : Bool := b.any fun i => match i with
  | .memoryInit _ _ | .dataDrop _ | .heap (.arrayNewData _ _) | .heap (.arrayInitData _ _) => true
  | _ => false

def wholeModule : Decode Module := do
  let magic ← takeBytes 8
  ensure (magic == [0x00, 0x61, 0x73, 0x6d, 0x01, 0x00, 0x00, 0x00])
  let s ← sections (← ahead) ⟨.empty, [], none, 0⟩
  let m := s.module
  ensure (m.funcs.length == s.funcTypes.length)
  match s.dataCount? with
  | some n => ensure (n == m.datas.length)
  | none => ensure (!m.funcs.any fun f => usesData f.body)
  return m

end Decode

def Module.decode (bytes : List UInt8) : Check Module := (Decode.wholeModule bytes).map (·.1)

end StrategyHost.Wasm
