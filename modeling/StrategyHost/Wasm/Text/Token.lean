import StrategyHost.Wasm.Text.Literal

/-! # Tokens of the text form

`Token.scan` cuts a text into tokens with their byte offsets. It never fails: a lexical fault is the last token,
so that a reader meets it where it stands. -/

namespace StrategyHost.Wasm

inductive TokenKind where
  | left
  | right
  | string (bytes : List UInt8)
  | id (name : String)
  | keyword (word : String)
  | number (n : Literal)
  /-- `@name` right after a parenthesis. -/
  | pragma (name : String)
  /-- Any other run of characters, which no rule uses. -/
  | reserved
  | fault (reason : String)
  | finish
deriving DecidableEq, Repr, Inhabited

structure Token where
  kind : TokenKind
  place : Nat
deriving DecidableEq, Repr, Inhabited

namespace Token

def isIdChar (c : Char) : Bool :=
  c.isAlphanum || "!#$%&'*+-./:<=>?@\\^_\x60|~".toList.contains c

/-- Characters that change the direction of a text, or hide. -/
def isConfusing (c : Char) : Bool :=
  let n := c.toNat
  (0x202a ≤ n && n ≤ 0x202e) || (0x2066 ≤ n && n ≤ 0x2069) || n == 0x206c

/-- Where a scan of a string literal stands. -/
inductive StringState where
  | plain
  | escape
  | secondDigit (first : Nat)
  | openBrace
  | firstPoint
  | point (value : Nat) (underscore : Bool)

/-- A fault at the present character, or at the one before it. -/
inductive StringFault where
  | here | before

namespace StringState

/-- The escapes of one letter. -/
def escapes : List (Char × UInt8) :=
  [('"', 34), ('\'', 39), ('\\', 92), ('t', 9), ('n', 10), ('r', 13)]

def utf8 (c : Char) : List UInt8 := (String.singleton c).toUTF8.toList

/-- The bytes that a character adds, and the state after it. -/
def step : StringState → Char → Except StringFault (List UInt8 × StringState)
  | plain, c =>
    if c == '\\' then .ok ([], escape)
    else if c.toNat < 0x20 || c.toNat == 0x7f || isConfusing c then .error .here
    else .ok (utf8 c, plain)
  | escape, c =>
    match escapes.lookup c with
    | some b => .ok ([b], plain)
    | none =>
      if c == 'u' then .ok ([], openBrace)
      else if Literal.isHexDigit c then .ok ([], secondDigit (Literal.digitValue c))
      else .error .here
  | secondDigit d, c =>
    if Literal.isHexDigit c then .ok ([(16 * d + Literal.digitValue c).toUInt8], plain) else .error .here
  | openBrace, c => if c == '\x7b' then .ok ([], firstPoint) else .error .here
  | firstPoint, c =>
    if Literal.isHexDigit c then .ok ([], point (Literal.digitValue c) false) else .error .here
  | point n underscore, c =>
    if c == '_' then .ok ([], point n true)
    else if Literal.isHexDigit c then
      let n := 16 * n + Literal.digitValue c
      if n < 2 ^ 32 then .ok ([], point n false) else .error .here
    else if underscore || !(n < 0xd800 || (0xdfff < n && n < 0x110000)) then .error .before
    else if c == '\x7d' then .ok (utf8 (Char.ofNat n), plain)
    else .error .here

end StringState

/-- The result of scanning the inside of a string literal. -/
inductive StringScan where
  | done (bytes : List UInt8) (rest : List Char) (place : Nat)
  | fault (place : Nat)

/-- Scans to the closing quote. The bytes so far are in reverse. -/
def scanString (bytes : List UInt8) (state : StringState) (place : Nat) : List Char → StringScan
  | [] =>
    match state with
    | .point n underscore =>
      if underscore || !(n < 0xd800 || (0xdfff < n && n < 0x110000)) then .fault (place - 1) else .fault place
    | _ => .fault place
  | c :: cs =>
    match state, c with
    | .plain, '"' => .done bytes.reverse cs (place + 1)
    | _, _ =>
      match state.step c with
      | .ok (new, state) => scanString (new.reverse ++ bytes) state (place + c.utf8Size) cs
      | .error .here => .fault place
      | .error .before => .fault (place - 1)

/-- The first confusing character among `cs`. -/
def confusing? (place : Nat) : List Char → Option Nat
  | [] => none
  | c :: cs => if isConfusing c then some place else confusing? (place + c.utf8Size) cs

/-- Scans to the end of a block comment that has been opened `depth` times. Gives the inside and the rest. -/
def scanComment (depth : Nat) (inside : List Char) : List Char → Option (List Char × List Char)
  | '(' :: ';' :: cs => scanComment (depth + 1) (';' :: '(' :: inside) cs
  | ';' :: ')' :: cs =>
    if depth ≤ 1 then some ((')' :: ';' :: inside).reverse, cs)
    else scanComment (depth - 1) (')' :: ';' :: inside) cs
  | c :: cs => scanComment depth (c :: inside) cs
  | [] => none

def byteLength (cs : List Char) : Nat := cs.foldl (fun n c => n + c.utf8Size) 0

/-- A maximal run of words and strings: the words joined, and the strings. -/
structure Run where
  word : List Char
  strings : List (List UInt8)

inductive RunScan where
  | done (run : Run) (rest : List Char) (place : Nat)
  | fault (place : Nat)

def scanRun : Nat → Run → Nat → List Char → RunScan
  | fuel + 1, run, place, '"' :: cs =>
    match scanString [] .plain (place + 1) cs with
    | .done bytes rest place => scanRun fuel { run with strings := run.strings ++ [bytes] } place rest
    | .fault place => .fault place
  | fuel + 1, run, place, c :: cs =>
    if isIdChar c then
      let word := (c :: cs).takeWhile isIdChar
      scanRun fuel { run with word := run.word ++ word } (place + word.length) ((c :: cs).drop word.length)
    else .done run (c :: cs) place
  | _, run, place, cs => .done run cs place

/-- What a run is: a lone string, a number, an identifier, a keyword, or nothing of use. -/
def Run.kind (r : Run) : TokenKind :=
  match r.word, r.strings with
  | [], [bytes] => .string bytes
  | ['$'], [bytes] =>
    match String.fromUTF8? ⟨bytes.toArray⟩ with
    | some "" | none => .reserved
    | some name => .id name
  | word, [] =>
    match Literal.ofWord? word with
    | some n => .number n
    | none =>
      match word with
      | '$' :: c :: cs => .id (String.ofList (c :: cs))
      | c :: cs => if 'a' ≤ c && c ≤ 'z' then .keyword (String.ofList (c :: cs)) else .reserved
      | [] => .reserved
  | _, _ => .reserved

/-- The name of an annotation, if the run is one. -/
def Run.pragma? (r : Run) : Option String :=
  match r.word, r.strings with
  | '@' :: c :: cs, [] => some (String.ofList (c :: cs))
  | ['@'], [bytes] => String.fromUTF8? ⟨bytes.toArray⟩
  | _, _ => none

def scanFrom : Nat → Nat → List Char → List Token
  | 0, place, _ => [⟨.finish, place⟩]
  | fuel + 1, place, cs =>
    match cs with
    | [] => [⟨.finish, place⟩]
    | '(' :: ';' :: rest =>
      match scanComment 1 [] rest with
      | none => [⟨.fault "unterminated block comment", place⟩]
      | some (inside, rest) =>
        match confusing? (place + 2) inside with
        | some at' => [⟨.fault "confusing character", at'⟩]
        | none => scanFrom fuel (place + 2 + byteLength inside) rest
    | ';' :: ';' :: rest =>
      let inside := rest.takeWhile fun c => c != '\n' && c != '\r'
      match confusing? (place + 2) inside with
      | some at' => [⟨.fault "confusing character", at'⟩]
      | none => scanFrom fuel (place + 2 + byteLength inside) (rest.drop inside.length)
    | '(' :: '@' :: rest =>
      match scanRun (rest.length + 1) ⟨[], []⟩ (place + 1) ('@' :: rest) with
      | .fault at' => [⟨.left, place⟩, ⟨.fault "malformed string", at'⟩]
      | .done run rest end' =>
        match run.pragma? with
        | some name => ⟨.left, place⟩ :: ⟨.pragma name, place + 1⟩ :: scanFrom fuel end' rest
        | none => ⟨.left, place⟩ :: ⟨run.kind, place + 1⟩ :: scanFrom fuel end' rest
    | '(' :: rest => ⟨.left, place⟩ :: scanFrom fuel (place + 1) rest
    | ')' :: rest => ⟨.right, place⟩ :: scanFrom fuel (place + 1) rest
    | c :: rest =>
      if c == ' ' || c == '\n' || c == '\r' || c == '\t' then scanFrom fuel (place + 1) rest
      else if isIdChar c || c == '"' then
        match scanRun (rest.length + 2) ⟨[], []⟩ place (c :: rest) with
        | .fault at' => [⟨.fault "malformed string", at'⟩]
        | .done run rest end' => ⟨run.kind, place⟩ :: scanFrom fuel end' rest
      else if ";,[]\x7b\x7d".toList.contains c then ⟨.reserved, place⟩ :: scanFrom fuel (place + 1) rest
      else [⟨.fault "unexpected character", place⟩]

/-- The annotations that mean something in a module. -/
def knownAnnotations : List String := ["custom", "producers", "name", "dylink.0", "metadata.code.branch_hint"]

/-- Leaves out the unknown annotations, of which `depth` parentheses are open since `opened`. -/
def dropAnnotations (depth : Nat) (opened : Nat) : List Token → List Token
  | [] => []
  | t :: ts =>
    match depth, t.kind with
    | 0, .left =>
      match ts with
      | ⟨.pragma name, place⟩ :: _ =>
        if knownAnnotations.contains name then t :: dropAnnotations 0 opened ts else dropAnnotations 1 place ts
      | _ => t :: dropAnnotations 0 opened ts
    | 0, _ => t :: dropAnnotations 0 opened ts
    | _, .finish => [⟨.fault "unclosed annotation", opened⟩]
    | _, .fault _ => [t]
    | d, .left => dropAnnotations (d + 1) opened ts
    | d + 1, .right => dropAnnotations d opened ts
    | d, _ => dropAnnotations d opened ts

/-- All tokens of a text, annotations included. The last one is `finish` or a fault. -/
def scanAll (text : String) : List Token :=
  let cs := text.toList
  scanFrom (cs.length + 1) 0 cs

/-- The tokens of a text. -/
def scan (text : String) : List Token := dropAnnotations 0 0 (scanAll text)

end Token

end StrategyHost.Wasm
