import StrategyHost.Wasm.Text.Expression

/-! # Reading a source

`Source.read` reads a text: a module with its fields, a module given by its bytes, or a component, of which only
the outline is read. The word `module` and its parentheses may be left out. -/

namespace StrategyHost.Wasm

namespace Reader

/-- What may follow the keyword of a type definition. -/
def composite : Reader TextComposite := do
  if ← keyword? "func" then return .func (← signature true)
  if ← keyword? "struct" then
    let fields ← many do
      if ← isKeyword2 "field" then
        parens do
          let _ ← keyword "field"
          nameOrMany fieldType
      else return [(none, ← fieldType)]
    return .struct fields.flatten
  if ← keyword? "array" then return .array (← fieldType)
  fail "expected a type"

def typeDef : Reader TypeDef := do
  let _ ← keyword "type"
  let id ← named?
  if ← isKeyword2 "sub" then
    parens do
      let _ ← keyword "sub"
      let final ← keyword? "final"
      let super? ← index?
      return ⟨id, final, super?, ← parens composite⟩
  else return ⟨id, true, none, ← parens composite⟩

/-- `(export "name")` in front of a definition. -/
def isInlineExport : Reader Bool := do
  if !(← isLeft) then return false
  match ← peekAt 1 with
  | .keyword "export" =>
    match ← peekAt 2 with
    | .string _ => return (← peekAt 3) == .right
    | _ => return false
  | _ => return false

def inlineExports : Reader (List String) :=
  manyWhile isInlineExport <| parens do
    advance
    name

/-- `(import "module" "name")` in place of a definition. -/
def inlineImport? : Reader (Option (String × String)) := do
  if !(← isLeft) then return none
  match ← peekAt 1 with
  | .keyword "import" =>
    match ← peekAt 2 with
    | .string _ =>
      match ← peekAt 3 with
      | .string _ =>
        if (← peekAt 4) == .right then
          parens do
            advance
            let m ← name
            return some (m, ← name)
        else return none
      | _ => return none
    | _ => return none
  | _ => return none

def head (w : String) : Reader Head := do
  let place ← keyword w
  let id ← named?
  return ⟨place, id, ← inlineExports⟩

def locals : Reader (List (Option Id × ValType Index)) := do
  let parts ← manyWhile (isKeyword2 "local") <| parens do
    advance
    nameOrMany valType
  return parts.flatten

def funcField : Reader Field := do
  let h ← head "func"
  match ← inlineImport? with
  | some (m, n) => return .func h (← typeUse true) (.imported m n)
  | none =>
    let type ← typeUse true
    let ls ← locals
    return .func h type (.defined (ls, ← expression))

/-- An item of a segment: a folded instruction, or any instructions after the word `item`. -/
def elemItem : Reader TextBody := do
  if ← isKeyword2 "item" then
    parens do
      advance
      expression
  else foldedInstr

def offset : Reader TextBody := do
  if ← isKeyword2 "offset" then
    parens do
      advance
      expression
  else foldedInstr

def elemItems : Reader ElemItems := do
  if ← isRefType then
    let r ← refType
    return .bodies r (← many elemItem)
  else
    let _ ← keyword? "func"
    return .funcs (← many index)

def tableField : Reader Field := do
  let h ← head "table"
  match ← inlineImport? with
  | some (m, n) => return .table h (← tableType) (.imported m n)
  | none =>
    let widthFirst := (← isKeyword "i32") || (← isKeyword "i64")
    let next ← if widthFirst then peekAt 1 else peek
    match next with
    | .number _ =>
      let type ← tableType
      if ← isDone then return .table h type (.defined .none)
      else return .table h type (.defined (.value (← expression)))
    | _ =>
      let wide ← isWide
      if !(← isRefType) then fail "expected a table type"
      else
        let element ← refType
        let items ← parens do
          let _ ← keyword "elem"
          if ← isLeft then return ElemItems.bodies element (← many elemItem) else elemItems
        let count := match items with
          | .funcs xs => xs.length
          | .bodies _ xs => xs.length
        return .table h ⟨⟨count, some count, wide⟩, element⟩ (.defined (.items items))

def pageSize : Nat := 65536

def memoryField : Reader Field := do
  let h ← head "memory"
  match ← inlineImport? with
  | some (m, n) => return .memory h (← memoryType) (.imported m n)
  | none =>
    let second ← if (← peek) == .finish then pure .finish else peekAt 1
    if (← isLeft) || second == .left then
      let wide ← isWide
      let log? ← pageLog?
      let bytes := (← parens do
        let _ ← keyword "data"
        many bytes).flatten
      let pages := (bytes.length + (pageSize - 1)) / pageSize
      return .memory h ⟨⟨pages, some pages, wide⟩, false, log?⟩ (.defined (some bytes))
    else if (← isInteger) || (← isKeyword "i32") || (← isKeyword "i64") then
      return .memory h (← memoryType) (.defined none)
    else fail "expected a memory type"

def globalField : Reader Field := do
  let h ← head "global"
  match ← inlineImport? with
  | some (m, n) => return .global h (← globalType) (.imported m n)
  | none =>
    let type ← globalType
    return .global h type (.defined (← expression))

def tagField : Reader Field := do
  let h ← head "tag"
  match ← inlineImport? with
  | some (m, n) => return .tag h (← typeUse true) (.imported m n)
  | none => return .tag h (← typeUse true) (.defined ())

def externalKind : Reader ExternalKind := do
  if ← keyword? "func" then return .func
  if ← keyword? "table" then return .table
  if ← keyword? "memory" then return .memory
  if ← keyword? "global" then return .global
  if ← keyword? "tag" then return .tag
  fail "expected an export kind"

def importField : Reader Field := do
  let place ← keyword "import"
  let m ← name
  let n ← name
  parens do
    let kind ← externalKind
    let id ← named?
    match kind with
    | .func => return .imported place m n id (.func (← typeUse true))
    | .table => return .imported place m n id (.table (← tableType))
    | .memory => return .imported place m n id (.memory (← memoryType))
    | .global => return .imported place m n id (.global (← globalType))
    | .tag => return .imported place m n id (.tag (← typeUse true))

def exportField : Reader Field := do
  let place ← keyword "export"
  let n ← name
  parens do
    let kind ← externalKind
    return .export place n kind (← index)

def elemField : Reader Field := do
  let place ← keyword "elem"
  let id ← named?
  if ← keyword? "declare" then return .elem id .declared (← elemItems)
  let isActive := (← isInteger) || ((← isLeft) && !(← isRefType))
  if isActive then
    let target ←
      if ← isInteger then index
      else if ← isKeyword2 "table" then
        parens do
          advance
          index
      else pure (.number 0 place)
    let at' ← offset
    return .elem id (.active target at') (← elemItems)
  else return .elem id .passive (← elemItems)

/-- The lists of numbers that may stand between the strings of a segment. -/
def dataNumbers : Reader (List UInt8) := do
  let lanes (bits : Nat) (r : Reader Nat) : Reader (List UInt8) := do
    let ns ← many r
    return ns.flatMap fun n => (List.range (bits / 8)).map fun i => (n / 256 ^ i % 256).toUInt8
  parens do
    if ← keyword? "i8" then return ← lanes 8 (word 8)
    if ← keyword? "i16" then return ← lanes 16 (word 16)
    if ← keyword? "i32" then return ← lanes 32 (word 32)
    if ← keyword? "i64" then return ← lanes 64 (word 64)
    if ← keyword? "f32" then return ← lanes 32 (float .single)
    if ← keyword? "f64" then return ← lanes 64 (float .double)
    let _ ← keyword "v128"
    let consts ← many vectorConst
    return consts.flatMap fun c => match c with
      | .v128 low high => (List.range 16).map fun i =>
        if i < 8 then (low.toNat / 256 ^ i % 256).toUInt8 else (high.toNat / 256 ^ (i - 8) % 256).toUInt8
      | _ => []

def dataBytes : Reader (List UInt8) := do
  let parts ← many do if ← isLeft then dataNumbers else bytes
  return parts.flatten

def dataField : Reader Field := do
  let place ← keyword "data"
  let id ← named?
  let passive ← keyword? "passive"
  if passive || (← isString) then return .data id .passive (← dataBytes)
  let target ←
    if ← isInteger then index
    else if ← isKeyword2 "memory" then
      parens do
        advance
        index
    else pure (.number 0 place)
  let at' ← offset
  return .data id (.active target at') (← dataBytes)

/-- Skips tokens up to the parenthesis that closes the present one. -/
def skipFuel : Nat → Nat → Reader Unit
  | 0, _ => return ()
  | fuel + 1, depth => do
    match ← peek with
    | .finish => return ()
    | .left =>
      advance
      skipFuel fuel (depth + 1)
    | .right =>
      if depth == 0 then return ()
      else
        advance
        skipFuel fuel (depth - 1)
    | _ =>
      advance
      skipFuel fuel depth

def skipRest : Reader Unit := do skipFuel (← ahead) 0

def field : Reader Field := do
  match ← peek with
  | .pragma "custom" | .pragma "producers" | .pragma "dylink.0" =>
    skipRest
    return .custom
  | .keyword "type" => .type <$> typeDef
  | .keyword "rec" =>
    advance
    .group <$> manyWhile (isKeyword2 "type") (parens typeDef)
  | .keyword "import" => importField
  | .keyword "func" => funcField
  | .keyword "table" => tableField
  | .keyword "memory" => memoryField
  | .keyword "global" => globalField
  | .keyword "export" => exportField
  | .keyword "start" =>
    advance
    .start <$> index
  | .keyword "elem" => elemField
  | .keyword "data" => dataField
  | .keyword "tag" => tagField
  | _ => fail "expected a module field"

def fields : Reader (List Field) := many (parens field)

def moduleSource : Reader Source := do
  let _ ← keyword "module"
  let _ ← named?
  if ← keyword? "binary" then return .binary (← many bytes).flatten
  return .text (← fields)

/-- What the fields of a component begin with. -/
def componentWords : List String :=
  ["core", "component", "instance", "alias", "type", "import", "func", "export", "start", "canon"]

def componentSource : Reader Source := do
  let place ← keyword "component"
  let _ ← named?
  if ← keyword? "binary" then
    let _ ← many bytes
    return .component place
  let _ ← many <| parens do
    match ← peek with
    | .keyword w => if componentWords.contains w then skipRest else fail "expected a component field"
    | .pragma _ => skipRest
    | _ => fail "expected a component field"
  return .component place

def source : Reader Source := do
  let s ←
    if ← isKeyword2 "module" then parens moduleSource
    else if ← isKeyword2 "component" then parens componentSource
    else .text <$> fields
  let starts := match s with
    | .text fs => (fs.filter fun f => match f with | .start _ => true | _ => false).length
    | _ => 0
  if 1 < starts then fail "multiple start sections found"
  if (← peek) == .finish then return s else fail "extra tokens remaining"

end Reader

def Source.read (text : String) : Except TextFault Source :=
  match Token.scanAll text with
  | [⟨.finish, place⟩] => .error ⟨place, "a module field is expected"⟩
  | _ =>
    match Reader.source (Token.scan text) with
    | .ok (s, _) => .ok s
    | .error fault => .error fault

end StrategyHost.Wasm
