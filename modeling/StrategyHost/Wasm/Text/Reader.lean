import StrategyHost.Wasm.Text.Field
import StrategyHost.Wasm.Text.Token

/-! # Reading tokens

A `Reader` takes tokens from the front of a list. A fault names the byte offset of the token that stopped it; a
lexical fault wins as soon as a reader looks at it. -/

namespace StrategyHost.Wasm

structure TextFault where
  place : Nat
  reason : String
deriving DecidableEq, Repr

abbrev Reader := StateT (List Token) (Except TextFault)

namespace Reader

def failAt {α : Type} (place : Nat) (reason : String) : Reader α := fun _ => .error ⟨place, reason⟩

/-- The kind of the next token but `n`, unless a lexical fault comes first. -/
def peekAt (n : Nat) : Reader TokenKind := fun ts =>
  let seen := ts.take (n + 1)
  match seen.findSome? (fun t => match t.kind with | .fault reason => some (t.place, reason) | _ => none) with
  | some (place, reason) => .error ⟨place, reason⟩
  | none => .ok (((ts[n]?).map (·.kind)).getD .finish, ts)

def peek : Reader TokenKind := peekAt 0

/-- The place of the next token. -/
def here : Reader Nat := fun ts => .ok ((ts.head?.map (·.place)).getD 0, ts)

/-- Fails at the next token. -/
def fail {α : Type} (reason : String) : Reader α := do
  let _ ← peek
  failAt (← here) reason

/-- Drops the next token, which must not be the last one. -/
def advance : Reader Unit := fun ts =>
  match ts with
  | [] => .ok ((), [])
  | _ :: rest => .ok ((), rest)

/-- The place of the next token, which is dropped. -/
def take : Reader Nat := do
  let place ← here
  advance
  return place

/-- Whether the enclosing parenthesis closes here. -/
def isDone : Reader Bool := fun ts =>
  match ts.head?.map Token.kind with
  | some .right | some .finish | none => .ok (true, ts)
  | _ => .ok (false, ts)

def isLeft : Reader Bool := return (← peek) == .left

def isKeyword (w : String) : Reader Bool := return (← peek) == .keyword w

/-- Whether a parenthesis or another token is followed by the keyword `w`. -/
def isKeyword2 (w : String) : Reader Bool := do
  if (← peek) == .finish then return false
  return (← peekAt 1) == .keyword w

/-- The keyword `w`, whose place is given back. -/
def keyword (w : String) : Reader Nat := do
  if ← isKeyword w then take else fail ("expected keyword " ++ w)

/-- The keyword `w` if it comes next. -/
def keyword? (w : String) : Reader Bool := do
  if ← isKeyword w then
    advance
    return true
  else return false

def left : Reader Unit := do
  if ← isLeft then advance else fail "expected an opening parenthesis"

def right : Reader Unit := do
  if (← peek) == .right then advance else fail "expected a closing parenthesis"

/-- What `r` reads, in parentheses. -/
def parens {α : Type} (r : Reader α) : Reader α := do
  left
  let a ← r
  right
  return a

/-- As many as there are before the enclosing parenthesis closes. -/
def manyFuel {α : Type} (r : Reader α) : Nat → Reader (List α)
  | 0 => fail "too many items"
  | fuel + 1 => do
    if ← isDone then return []
    let a ← r
    return a :: (← manyFuel r fuel)

/-- The number of tokens ahead, which bounds every repetition. -/
def ahead : Reader Nat := fun ts => .ok (ts.length + 1, ts)

@[inherit_doc manyFuel]
def many {α : Type} (r : Reader α) : Reader (List α) := do manyFuel r (← ahead)

/-- As many as there are while `more` holds. -/
def whileFuel {α : Type} (more : Reader Bool) (r : Reader α) : Nat → Reader (List α)
  | 0 => fail "too many items"
  | fuel + 1 => do
    if ← more then
      let a ← r
      return a :: (← whileFuel more r fuel)
    else return []

@[inherit_doc whileFuel]
def manyWhile {α : Type} (more : Reader Bool) (r : Reader α) : Reader (List α) := do
  whileFuel more r (← ahead)

/-! ## Atoms -/

/-- Skips the annotation that gives an item another name. -/
def skipName : Reader Unit := do
  if (← peek) == .left && (← peekAt 1) == .pragma "name" then
    parens do
      advance
      match ← peek with
      | .string _ => advance
      | _ => fail "expected a string"

def id? : Reader (Option Id) := do
  match ← peek with
  | .id name => return some ⟨name, ← take⟩
  | _ => return none

/-- An optional name, with its annotation. -/
def named? : Reader (Option Id) := do
  let id ← id?
  skipName
  return id

def isIndex : Reader Bool := do
  match ← peek with
  | .id _ => return true
  | .number l => return l.isInteger
  | _ => return false

/-- A natural number below `2 ^ bits`. -/
def nat (bits : Nat) : Reader Nat := do
  match ← peek with
  | .number l =>
    if !l.isInteger then fail "expected an integer"
    else
      match l.toNat? bits with
      | some n =>
        advance
        return n
      | none => fail "constant out of range"
  | _ => fail "expected an integer"

def isInteger : Reader Bool := do
  match ← peek with
  | .number l => return l.isInteger
  | _ => return false

def index : Reader Index := do
  match ← peek with
  | .id name => return .id ⟨name, ← take⟩
  | .number l =>
    if l.isInteger then
      let place ← here
      return .number (← nat 32) place
    else fail "expected an index"
  | _ => fail "expected an index"

def index? : Reader (Option Index) := do
  if ← isIndex then return some (← index) else return none

/-- An integer of `bits` bits, as its pattern of bits. -/
def word (bits : Nat) : Reader Nat := do
  match ← peek with
  | .number l =>
    if !l.isInteger then fail "expected an integer"
    else
      match l.toWord? bits with
      | some n =>
        advance
        return n
      | none => fail "constant out of range"
  | _ => fail "expected an integer"

/-- A float of the format `f`, as its pattern of bits. -/
def float (f : BinaryFormat) : Reader Nat := do
  match ← peek with
  | .number l =>
    match l.toFloat? f with
    | some n =>
      advance
      return n
    | none => fail "constant out of range"
  | _ => fail "expected a float"

def isString : Reader Bool := do
  match ← peek with
  | .string _ => return true
  | _ => return false

def bytes : Reader (List UInt8) := do
  match ← peek with
  | .string bs =>
    advance
    return bs
  | _ => fail "expected a string"

/-- A string that must be text. -/
def name : Reader String := do
  let place ← here
  let bs ← bytes
  match String.fromUTF8? ⟨bs.toArray⟩ with
  | some s => return s
  | none => failAt place "malformed UTF-8 encoding"

/-! ## Types -/

/-- The abstract heap types, with the shorthands of their nullable references. -/
def abstractHeaps : List (String × String × AbstractHeap) := [
  ("func", "funcref", .func), ("extern", "externref", .external), ("exn", "exnref", .exn),
  ("any", "anyref", .any), ("eq", "eqref", .eq), ("struct", "structref", .struct), ("array", "arrayref", .array),
  ("i31", "i31ref", .i31), ("nofunc", "nullfuncref", .noFunc), ("noextern", "nullexternref", .noExternal),
  ("noexn", "nullexnref", .noExn), ("none", "nullref", .none)]

def heapType : Reader (HeapType Index) := do
  match ← peek with
  | .keyword w =>
    match abstractHeaps.lookup w with
    | some (_, h) =>
      advance
      return .abstract h
    | none => fail "expected a heap type"
  | _ => return .concrete (← index)

/-- The reference type that a keyword stands for. -/
def refShorthand? (w : String) : Option (RefType Index) :=
  if w == "anyfunc" then some .func
  else (abstractHeaps.find? (·.2.1 == w)).map fun (_, _, h) => .toAbstract h

def isRefType : Reader Bool := do
  match ← peek with
  | .keyword w => return (refShorthand? w).isSome
  | .left => isKeyword2 "ref"
  | _ => return false

def refType : Reader (RefType Index) := do
  match ← peek with
  | .keyword w =>
    match refShorthand? w with
    | some r =>
      advance
      return r
    | none => fail "expected a reference type"
  | .left =>
    parens do
      let _ ← keyword "ref"
      let nullable ← keyword? "null"
      return ⟨nullable, ← heapType⟩
  | _ => fail "expected a reference type"

def numberTypes : List (String × ValType Index) :=
  [("i32", .i32), ("i64", .i64), ("f32", .f32), ("f64", .f64), ("v128", .v128)]

def valType : Reader (ValType Index) := do
  match ← peek with
  | .keyword w =>
    match numberTypes.lookup w with
    | some t =>
      advance
      return t
    | none =>
      if ← isRefType then return .ref (← refType) else fail "expected a value type"
  | _ => if ← isRefType then return .ref (← refType) else fail "expected a value type"

/-- The contents of `(param ...)`, `(local ...)` and the like: one named item, or any number without names. -/
def nameOrMany {α : Type} (r : Reader α) : Reader (List (Option Id × α)) := do
  if ← isDone then return []
  let id ← id?
  let annotated := (← peek) == .left && (← peekAt 1) == .pragma "name"
  skipName
  let first ← r
  if id.isSome || annotated then return [(id, first)]
  let more ← many r
  return (id, first) :: more.map (none, ·)

/-- One parenthesis of a function type: parameters, or results, after which no parameters may come. -/
def signaturePart (names : Bool) (s : Signature) : Reader Signature :=
  parens do
    if ← isKeyword "param" then
      if !s.results.isEmpty then fail "parameter after a result"
      else
        advance
        let new ← if names then nameOrMany valType else (·.map (none, ·)) <$> many valType
        return { s with params := s.params ++ new }
    else
      let _ ← keyword "result"
      let new ← many valType
      return { s with results := s.results ++ new }

def signatureFuel (names : Bool) : Nat → Signature → Reader Signature
  | 0, s => return s
  | fuel + 1, s => do
    if (← isKeyword2 "param") || (← isKeyword2 "result") then
      signatureFuel names fuel (← signaturePart names s)
    else return s

/-- A function type written in place, possibly empty. -/
def signature (names : Bool) : Reader Signature := do signatureFuel names (← ahead) ⟨[], []⟩

def typeUse (names : Bool) : Reader TypeUse := do
  let index? ←
    if ← isKeyword2 "type" then
      parens do
        let _ ← keyword "type"
        some <$> index
    else pure none
  let inline? ←
    if (← isLeft) && ((← isKeyword2 "param") || (← isKeyword2 "result")) then some <$> signature names
    else pure none
  return ⟨index?, inline?⟩

def storageType : Reader (StorageType Index) := do
  if ← keyword? "i8" then return .i8
  if ← keyword? "i16" then return .i16
  return .val (← valType)

def fieldType : Reader (FieldType Index) := do
  if ← isKeyword2 "mut" then
    parens do
      let _ ← keyword "mut"
      return ⟨true, ← storageType⟩
  else return ⟨false, ← storageType⟩

/-- The prefix that sets the width of indices. -/
def isWide : Reader Bool := do
  if ← keyword? "i32" then return false
  keyword? "i64"

def limits : Reader Limits := do
  let wide ← isWide
  let min ← nat 64
  let max? ← if ← isInteger then some <$> nat 64 else pure none
  return ⟨min, max?, wide⟩

def tableType : Reader (TableType Index) := do
  let l ← limits
  return ⟨l, ← refType⟩

/-- A page size, which must be a power of two. -/
def pageLog? : Reader (Option Nat) := do
  if ← isKeyword2 "pagesize" then
    parens do
      let _ ← keyword "pagesize"
      let place ← here
      let n ← nat 32
      if n == 2 ^ n.log2 then return some n.log2 else failAt place "invalid custom page size"
  else return none

def memoryType : Reader MemoryType := do
  let l ← limits
  let shared ← keyword? "shared"
  return ⟨l, shared, ← pageLog?⟩

def globalType : Reader (GlobalType Index) := do
  if ← isKeyword2 "mut" then
    parens do
      let _ ← keyword "mut"
      return ⟨← valType, true⟩
  else return ⟨← valType, false⟩

end Reader

end StrategyHost.Wasm
