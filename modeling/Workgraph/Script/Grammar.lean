import Workgraph.Script.Token
import Workgraph.Script.Tree

/-!
# The grammar of scripts

A reader takes tokens off the front of a script and gives a part of it, or nothing when the tokens
do not have that form. Every reader of a part that can hold itself counts down a bound on its depth;
`Program.ofText?` starts with one that no script of that length reaches.

* Operators bind by `operator?`; `??` must not be mixed with `&&` and `||` without parentheses.
* A statement ends at a semicolon, or without one before a closing brace, at the end of the script
  and where a line has ended (`endStatement`). No line may end between `return`, `break`,
  `continue` or `throw` and what belongs to it, nor before `++`, `--` and `=>`.
* Names declared for a block may occur once in it and not as variables or functions too; a function
  in a block is declared for the block. At the top of a function they only differ from its
  parameters.
* `in` is no operator in the first part of the head of a `for`, outside brackets.
-/

namespace Workgraph.Script

/-- What is left to read, and what was found about the function that is being read. -/
structure Cursor where
  rest : List Lexeme
  /-- The text behind the last token that was taken. -/
  behind : List Char := []
  /-- Names declared with `var`, the latest first. -/
  declared : List String := []
  usesArguments : Bool := false
  /-- Whether `in` is an operator here. -/
  allowsIn : Bool := true

/-- A reader of part of a script. -/
abbrev Reader := StateT Cursor Option

namespace Reader

/-! ## 1. Single tokens -/

def refuse : Reader α := fun _ => none

def peek : Reader (Option Lexeme) := fun c => some (c.rest.head?, c)

/-- The token after the next one. -/
def peekSecond : Reader (Option Lexeme) := fun c => some (c.rest.tail.head?, c)

/-- Takes the next token. -/
def skip : Reader Unit := fun c =>
  match c.rest with
  | [] => some ((), c)
  | lexeme :: rest => some ((), { c with rest, behind := lexeme.after })

/-- The next token alone. -/
def token? : Reader (Option Token) := fun c => some (c.rest.head?.map (·.token), c)

/-- The text from the next token on. -/
def here : Reader (List Char) := fun c => some ((c.rest.head?.map (·.before)).getD [], c)

/-- The text from a place to the last token that was taken. -/
def textFrom (start : List Char) : Reader Units := fun c =>
  some (Units.ofChars (textBetween start c.behind), c)

def isMark (symbol : String) : Option Lexeme → Bool
  | some { token := .mark m, .. } => m == symbol
  | _ => false

/-- Whether a token is a word of the language. -/
def isWord (name : String) : Option Lexeme → Bool
  | some { token := .word w false, .. } => w == name
  | _ => false

/-- Reads with `in` as an operator or not. -/
def withIn (allowed : Bool) (read : Reader α) : Reader α := do
  let before := (← get).allowsIn
  modify fun c => { c with allowsIn := allowed }
  let a ← read
  modify fun c => { c with allowsIn := before }
  return a

/-- Takes a mark if it is next. -/
def accept (symbol : String) : Reader Bool := do
  if isMark symbol (← peek) then skip; return true else return false

/-- Takes a mark that must be next. -/
def expect (symbol : String) : Reader Unit := do
  if isMark symbol (← peek) then skip else refuse

/-- Takes a word if it is next. -/
def acceptWord (name : String) : Reader Bool := do
  if isWord name (← peek) then skip; return true else return false

def expectWord (name : String) : Reader Unit := do
  if isWord name (← peek) then skip else refuse

/-- Words that are no names. -/
def reserved : List String :=
  ["break", "case", "catch", "class", "const", "continue", "debugger", "default", "delete", "do",
    "else", "enum", "export", "extends", "false", "finally", "for", "function", "if", "import",
    "in", "instanceof", "new", "null", "return", "super", "switch", "this", "throw", "true", "try",
    "typeof", "var", "void", "while", "with"]

/-- Whether a token may be a name. -/
def isPlainWord : Option Lexeme → Bool
  | some { token := .word w _, .. } => w ∉ reserved
  | _ => false

/-- Whether `let` before a token begins a declaration, and is no name itself. -/
def beginsBinding (next : Option Lexeme) : Bool := isPlainWord next && !isWord "of" next

/-- A name that the script chose. -/
def name : Reader String := do
  match ← token? with
  | some (.word w _) =>
    if w ∈ reserved then refuse
    else
      skip
      modify fun c => { c with usesArguments := c.usesArguments || w == "arguments" }
      return w
  | _ => refuse

/-- Ends a statement. -/
def endStatement : Reader Unit := do
  match ← peek with
  | none => return
  | some lexeme =>
    match lexeme.token with
    | .mark ";" => skip
    | .mark "\x7d" => return
    | _ => if lexeme.afterLine then return else refuse

/-- Whether the next token stands on the line of the one before. -/
def onSameLine : Reader Bool := do
  return (← peek).any fun lexeme => !lexeme.afterLine

/-! ## 2. Operators -/

/-- How an operator between two operands is built. -/
inductive Operator where
  | arithmetic (op : Arithmetic)
  | compare (op : Comparison)
  | choice (op : Choice)

/-- The operators between two operands, with how tightly they bind. -/
def operators : List (String × Nat × Operator) :=
  [("??", 1, .choice .otherwise), ("||", 2, .choice .or), ("&&", 3, .choice .and),
    ("===", 4, .compare .same), ("!==", 4, .compare .notSame), ("==", 4, .compare .equal),
    ("!=", 4, .compare .notEqual), ("<", 5, .compare .less), ("<=", 5, .compare .lessEqual),
    (">", 5, .compare .greater), (">=", 5, .compare .greaterEqual), ("+", 6, .arithmetic .add),
    ("-", 6, .arithmetic .subtract), ("*", 7, .arithmetic .multiply), ("/", 7, .arithmetic .divide),
    ("%", 7, .arithmetic .remainder)]

/-- The operator that a token is, if it is one; `in` may be none. -/
def operator? (allowsIn : Bool) : Option Token → Option (Nat × Operator)
  | some (.mark m) => (operators.find? fun e => e.1 == m).map (·.2)
  | some (.word "in" false) => if allowsIn then some (5, .compare .within) else none
  | _ => none

def combinations : List (String × Combination) :=
  [("=", .replace), ("+=", .compute .add), ("-=", .compute .subtract), ("*=", .compute .multiply),
    ("/=", .compute .divide), ("%=", .compute .remainder), ("&&=", .choose .and),
    ("||=", .choose .or), ("??=", .choose .otherwise)]

def combination? : Option Token → Option Combination
  | some (.mark m) => (combinations.find? fun e => e.1 == m).map (·.2)
  | _ => none

/-- Whether a value can be assigned to an expression. -/
def isTarget : Expr → Bool
  | .name _ | .member _ _ | .item _ _ => true
  | _ => false

/-- The outermost choice of an expression that is not in parentheses. -/
abbrev Bare := Option Choice

/-- Whether two choices may stand in one another without parentheses. -/
def mixes : Choice → Bare → Bool
  | _, none => true
  | .otherwise, some c => c == .otherwise
  | _, some c => c != .otherwise

/-! ## 3. Lookahead -/

/-- What follows the parenthesis that closes the one before these tokens. -/
def afterParenthesis : Nat → List Lexeme → Option Lexeme
  | _, [] => none
  | depth, { token := .mark m, .. } :: rest =>
    if m == "(" || m == "[" || m == "\x7b" then afterParenthesis (depth + 1) rest
    else if m == ")" || m == "]" || m == "\x7d" then
      match depth with
      | 0 => rest.head?
      | depth + 1 => afterParenthesis depth rest
    else afterParenthesis depth rest
  | depth, _ :: rest => afterParenthesis depth rest

/-- Whether the next tokens begin an arrow function. -/
def arrowAhead : Reader Bool := fun c =>
  let found := match c.rest with
    | { token := .word w _, .. } :: next :: _ =>
      w ∉ reserved && isMark "=>" (some next) && !next.afterLine
    | { token := .mark "(", .. } :: rest =>
      match afterParenthesis 0 rest with
      | some next => isMark "=>" (some next) && !next.afterLine
      | none => false
    | _ => false
  some (found, c)

/-! ## 4. Scopes -/

/-- Whether the names declared for a block are distinct and differ from some others. -/
def namesAgree (body : List Stmt) (others : List String) : Bool :=
  let names := (blockNames body).map (·.1)
  names.Nodup && names.all fun n => n ∉ others

/-- Where a statement stands. -/
structure Place where
  inLoop : Bool := false
  inFunction : Bool := false

/-- The names of the functions declared at the top of a body. -/
def functionNames (body : List Stmt) : List String := (declaredFunctions body).map (·.name)

/-- Reads parameters and body of a function that begins at `start`, with fresh findings. -/
def asFunction (kind : FunctionKind) (ownName : Option String) (shownName : Units)
    (start : List Char) (read : Reader (List String × List Stmt)) : Reader Function := do
  let outer ← get
  set { outer with declared := [], usesArguments := false }
  let (parameters, body) ← read
  let inner ← get
  set { inner with declared := outer.declared, usesArguments := outer.usesArguments }
  let head : FunctionHead :=
    { kind, ownName, shownName, parameters, declared := inner.declared.reverse.eraseDups
      usesArguments := inner.usesArguments, source := ← textFrom start }
  return .mk head body

/-! ## 5. Expressions, statements, functions -/

mutual

/-- Expressions with commas between them. -/
def expression : Nat → Reader Expr
  | 0 => refuse
  | n + 1 => do sequenceRest n (← assignment n)

def sequenceRest : Nat → Expr → Reader Expr
  | 0, _ => refuse
  | n + 1, e => do
    if ← accept "," then sequenceRest n (.sequence e (← assignment n)) else return e

/-- An expression without a comma outside parentheses. -/
def assignment : Nat → Reader Expr
  | 0 => refuse
  | n + 1 => do
    if ← arrowAhead then arrow n
    else
      let e ← conditional n
      match combination? (← token?) with
      | none => return e
      | some how =>
        if isTarget e then
          skip
          let value ← assignment n
          return .assign e how (if takesName how then namedAfter e value else value)
        else refuse
where
  /-- Whether a function that is assigned shows the name it is assigned to. -/
  takesName : Combination → Bool
    | .compute _ => false
    | _ => true
  namedAfter : Expr → Expr → Expr
    | .name w, value => value.named (Units.ofString w)
    | _, value => value

def conditional : Nat → Reader Expr
  | 0 => refuse
  | n + 1 => do
    let (condition, _) ← operand n 0
    if ← accept "?" then
      let yes ← withIn true (assignment n)
      expect ":"
      return .conditional condition yes (← assignment n)
    else return condition

/-- Operands joined by operators that bind more tightly than `least`. -/
def operand : Nat → Nat → Reader (Expr × Bare)
  | 0, _ => refuse
  | n + 1, least => do operandRest n least ((← unary n), none)

def operandRest : Nat → Nat → Expr × Bare → Reader (Expr × Bare)
  | 0, _, _ => refuse
  | n + 1, least, (left, bare) => do
    match operator? (← get).allowsIn (← token?) with
    | none => return (left, bare)
    | some (strength, op) =>
      if strength ≤ least then return (left, bare)
      else
        skip
        let (right, bareRight) ← operand n strength
        match op with
        | .arithmetic op => operandRest n least (.arithmetic op left right, none)
        | .compare op => operandRest n least (.compare op left right, none)
        | .choice op =>
          if mixes op bare && mixes op bareRight then
            operandRest n least (.choice op left right, some op)
          else refuse

def unary : Nat → Reader Expr
  | 0 => refuse
  | n + 1 => do
    if ← accept "!" then return .unary .not (← unary n)
    else if ← accept "-" then return .unary .negate (← unary n)
    else if ← accept "+" then return .unary .plus (← unary n)
    else if ← acceptWord "typeof" then return .unary .typeOf (← unary n)
    else if ← accept "++" then stepped .add (← unary n)
    else if ← accept "--" then stepped .subtract (← unary n)
    else
      let e ← access n
      if isTarget e && (← onSameLine) then
        if ← accept "++" then return .step e .add false
        else if ← accept "--" then return .step e .subtract false
        else return e
      else return e
where
  stepped (op : Arithmetic) (e : Expr) : Reader Expr :=
    if isTarget e then return .step e op true else refuse

/-- A value with its members, items and calls. -/
def access : Nat → Reader Expr
  | 0 => refuse
  | n + 1 => do
    let e ← if ← acceptWord "new" then creation n else primary n
    accessRest n true false e

/-- A callee after `new`, with its arguments if there are any. -/
def creation : Nat → Reader Expr
  | 0 => refuse
  | n + 1 => do
    let callee ← if ← acceptWord "new" then creation n else primary n
    let callee ← accessRest n false false callee
    if ← accept "(" then return .create callee (← arguments n []) else return .create callee []

/-- The members, items and, where allowed, calls after a value. -/
def accessRest : Nat → Bool → Bool → Expr → Reader Expr
  | 0, _, _, _ => refuse
  | n + 1, calls, chained, e => do
    if ← accept "." then accessRest n calls chained (.member e (← memberName))
    else if ← accept "[" then
      let key ← withIn true (expression n)
      expect "]"
      accessRest n calls chained (.item e key)
    else if calls && isMark "(" (← peek) then
      skip
      accessRest n calls chained (.call e (← arguments n []))
    else if calls && isMark "?." (← peek) then
      skip
      if ← accept "[" then
        let key ← withIn true (expression n)
        expect "]"
        accessRest n calls true (.item (.optional e) key)
      else if ← accept "(" then accessRest n calls true (.call (.optional e) (← arguments n []))
      else accessRest n calls true (.member (.optional e) (← memberName))
    else return if chained then .chain e else e
where
  memberName : Reader Units := do
    match ← token? with
    | some (.word w _) => skip; return Units.ofString w
    | _ => refuse

/-- Expressions between commas up to a closing parenthesis. -/
def arguments : Nat → List Expr → Reader (List Expr)
  | 0, _ => refuse
  | n + 1, acc => do
    if ← accept ")" then return acc.reverse
    else
      let e ← withIn true (assignment n)
      if ← accept ")" then return (e :: acc).reverse
      else
        expect ","
        arguments n (e :: acc)

/-- The items of an array up to the closing bracket, where some may be missing. -/
def items : Nat → List (Option Expr) → Reader (List (Option Expr))
  | 0, _ => refuse
  | n + 1, acc => do
    if ← accept "]" then return acc.reverse
    else if ← accept "," then items n (none :: acc)
    else
      let e ← withIn true (assignment n)
      if ← accept "]" then return (some e :: acc).reverse
      else
        expect ","
        items n (some e :: acc)

def primary : Nat → Reader Expr
  | 0 => refuse
  | n + 1 => do
    let start ← here
    match ← token? with
    | some (.number x) => skip; return .number x
    | some (.text u) => skip; return .text u
    | some (.mark "(") =>
      skip
      let e ← withIn true (expression n)
      expect ")"
      return e
    | some (.mark "[") => skip; return .array (← items n [])
    | some (.mark "\x7b") =>
      skip
      let found ← members n []
      if isPrototypeTwice found then refuse else return .object found
    | some (.word "null" false) => skip; return .null
    | some (.word "true" false) => skip; return .bool true
    | some (.word "false" false) => skip; return .bool false
    | some (.word "function" false) => skip; return .function (← function n start)
    | _ => return .name (← name)
where
  isPrototypeTwice (found : List Member) : Bool :=
    1 < found.countP fun
      | .prototype _ => true
      | _ => false

/-- The members of an object up to the closing brace. -/
def members : Nat → List Member → Reader (List Member)
  | 0, _ => refuse
  | n + 1, acc => do
    if ← accept "\x7d" then return acc.reverse
    else
      let found ← withIn true (member n)
      if ← accept "\x7d" then return (found :: acc).reverse
      else
        expect ","
        members n (found :: acc)

/-- One member of an object: a key with a value, a method, or a name that is key and value. -/
def member : Nat → Reader Member
  | 0 => refuse
  | n + 1 => do
    let start ← here
    if ← accept "[" then
      let key ← assignment n
      expect "]"
      if isMark "(" (← peek) then return .computed key (← method n start #[])
      else
        expect ":"
        return .computed key (← assignment n)
    else
      let key? := keyOf? (← token?)
      let second ← peekSecond
      match key? with
      | none => refuse
      | some key =>
        if isMark ":" second then
          let isName := !isNumber (← token?)
          skip
          skip
          let e ← assignment n
          return if isName && key == Units.ofString "__proto__" then .prototype e
            else .value key (e.named key)
        else if isMark "(" second then
          skip
          return .value key (← method n start key)
        else
          let w ← name
          return .value key (.name w)
where
  keyOf? : Option Token → Option Units
    | some (.word w _) => some (Units.ofString w)
    | some (.text u) => some u
    | some (.number x) => some (Units.ofString (Numeral.text x))
    | _ => none
  isNumber : Option Token → Bool
    | some (.number _) => true
    | _ => false

/-- A function after the word, which begins at `start`: its name if it has one, its parameters and
its body. -/
def function : Nat → List Char → Reader Function
  | 0, _ => refuse
  | n + 1, start => do
    let named := !isMark "(" (← peek)
    let own ← if named then some <$> ownName else pure none
    asFunction .plain own (Units.ofString (own.getD "")) start do
      expect "("
      let parameters ← parameterNames n []
      return (parameters, ← functionBody n parameters)
where
  /-- The name of a function is no use of `arguments`. -/
  ownName : Reader String := do
    let before := (← get).usesArguments
    let w ← name
    modify fun c => { c with usesArguments := before }
    return w

/-- A method from its parameters on. -/
def method : Nat → List Char → Units → Reader Expr
  | 0, _, _ => refuse
  | n + 1, start, key => do
    let f ← asFunction .method none key start do
      expect "("
      let parameters ← parameterNames n []
      if parameters.Nodup then return (parameters, ← functionBody n parameters) else refuse
    return .function f

def arrow : Nat → Reader Expr
  | 0 => refuse
  | n + 1 => do
    let f ← asFunction .arrow none #[] (← here) do
      let parameters ←
        if ← accept "(" then parameterNames n [] else (fun w => [w]) <$> name
      expect "=>"
      if !decide parameters.Nodup then refuse
      else if isMark "\x7b" (← peek) then return (parameters, ← functionBody n parameters)
      else return (parameters, [Stmt.giveBack (some (← assignment n))])
    modify fun c => { c with usesArguments := c.usesArguments || f.head.usesArguments }
    return .function f

/-- The names of parameters up to the closing parenthesis. -/
def parameterNames : Nat → List String → Reader (List String)
  | 0, _ => refuse
  | n + 1, acc => do
    if ← accept ")" then return acc.reverse
    else
      let w ← name
      if ← accept ")" then return (w :: acc).reverse
      else
        expect ","
        parameterNames n (w :: acc)

/-- The statements of a function between braces. -/
def functionBody : Nat → List String → Reader (List Stmt)
  | 0, _ => refuse
  | n + 1, parameters => do
    expect "\x7b"
    let body ← withIn true (statements n { inFunction := true } [])
    if (blockNames body).all fun b => b.1 ∉ parameters then return body else refuse

/-- Statements up to the closing brace. -/
def statements : Nat → Place → List Stmt → Reader (List Stmt)
  | 0, _, _ => refuse
  | n + 1, place, acc => do
    if ← accept "\x7d" then return acc.reverse
    else
      let s ← statement n place
      statements n place (s :: acc)

/-- The statements of a block, whose functions are known in it alone. -/
def blockBody : Nat → Place → Reader (List Stmt)
  | 0, _ => refuse
  | n + 1, place => do
    expect "\x7b"
    let before := (← get).declared.length
    let body ← statements n place []
    let declared := (← get).declared
    let inside := declared.take (declared.length - before)
    let functions := functionNames body
    if namesAgree body (inside ++ functions) && functions.all (· ∉ inside) then return body
    else refuse

/-- A statement that stands alone, after a loop head for instance. -/
def substatement : Nat → Place → Reader Stmt
  | 0, _ => refuse
  | n + 1, place => do
    match ← statement n place with
    | .declare .local _ | .declare .constant _ | .function _ => refuse
    | s => return s

def statement : Nat → Place → Reader Stmt
  | 0, _ => refuse
  | n + 1, place => do
    let start ← here
    match ← token? with
    | some (.mark "\x7b") => return .block (← blockBody n place)
    | some (.mark ";") => skip; return .empty
    | some (.word "var" false) =>
      skip
      let bindings ← bindings n .variable []
      endStatement
      return .declare .variable bindings
    | some (.word "let" false) =>
      if beginsBinding (← peekSecond) then
        skip
        let bindings ← bindings n .local []
        endStatement
        return .declare .local bindings
      else plain n
    | some (.word "const" false) =>
      skip
      let bindings ← bindings n .constant []
      endStatement
      return .declare .constant bindings
    | some (.word "function" false) =>
      skip
      let f ← function n start
      if f.head.ownName.isSome then return .function f else refuse
    | some (.word "if" false) =>
      skip
      let condition ← parenthesized n
      let yes ← substatement n place
      if ← acceptWord "else" then return .branch condition yes (← substatement n place)
      else return .branch condition yes .empty
    | some (.word "while" false) =>
      skip
      let condition ← parenthesized n
      return .whileLoop condition (← substatement n { place with inLoop := true })
    | some (.word "do" false) =>
      skip
      let body ← substatement n { place with inLoop := true }
      expectWord "while"
      let condition ← parenthesized n
      let _ ← accept ";"
      return .doLoop body condition
    | some (.word "for" false) => skip; expect "("; forHead n place
    | some (.word "break" false) =>
      skip
      endStatement
      if place.inLoop then return .leaveLoop else refuse
    | some (.word "continue" false) =>
      skip
      endStatement
      if place.inLoop then return .nextRound else refuse
    | some (.word "return" false) =>
      skip
      if !place.inFunction then refuse
      else if ← valueFollows then
        let e ← expression n
        endStatement
        return .giveBack (some e)
      else
        endStatement
        return .giveBack none
    | some (.word "throw" false) =>
      skip
      if ← onSameLine then
        let e ← expression n
        endStatement
        return .throwValue e
      else refuse
    | some (.word "try" false) =>
      skip
      let body ← blockBody n place
      let handler ←
        if ← acceptWord "catch" then
          let caught ← if ← accept "(" then do
              let w ← name
              expect ")"
              pure (some w)
            else pure none
          let body ← blockBody n place
          if (blockNames body).all (fun b => some b.1 ≠ caught) &&
              (functionNames body).all (fun w => some w ≠ caught) then
            pure (some (caught, body))
          else refuse
        else pure none
      let last ← if ← acceptWord "finally" then some <$> blockBody n place else pure none
      if handler.isNone && last.isNone then refuse else return .guarded body handler last
    | _ =>
      if isPlainWord (← peek) && isMark ":" (← peekSecond) then skip; skip; substatement n place
      else plain n
where
  /-- Whether something to give back follows on the line. -/
  valueFollows : Reader Bool := do
    let next ← peek
    return !isMark ";" next && !isMark "\x7d" next && next.any fun lexeme => !lexeme.afterLine

/-- A statement that is an expression. -/
def plain : Nat → Reader Stmt
  | 0 => refuse
  | n + 1 => do
    let e ← expression n
    endStatement
    return .expression e

def parenthesized : Nat → Reader Expr
  | 0 => refuse
  | n + 1 => do
    expect "("
    let e ← expression n
    expect ")"
    return e

/-- The names that a declaration binds, with their values. -/
def bindings : Nat → Declaration → List (String × Option Expr) →
    Reader (List (String × Option Expr))
  | 0, _, _ => refuse
  | n + 1, kind, acc => do
    let w ← name
    if kind = .variable then modify fun c => { c with declared := w :: c.declared }
    let value ← if ← accept "=" then some <$> assignment n else pure none
    let acc := (w, value.map (Expr.named (Units.ofString w))) :: acc
    let repeated := kind ≠ .variable && (w == "let" || !decide (acc.map (·.1)).Nodup)
    if repeated || (kind = .constant && value.isNone) then refuse
    else if ← accept "," then bindings n kind acc
    else return acc.reverse

/-- A loop after `for (`: over the items of a value, or with a head of three parts. -/
def forHead : Nat → Place → Reader Stmt
  | 0, _ => refuse
  | n + 1, place => do
    let declares := beginsBinding (← peekSecond)
    let kind : Option Declaration := match ← token? with
      | some (.word "var" false) => some .variable
      | some (.word "let" false) => if declares then some .local else none
      | some (.word "const" false) => some .constant
      | _ => none
    match kind with
    | none =>
      if ← accept ";" then forRest n place .empty
      else
        let opensWithLet := isWord "let" (← peek)
        let e ← withIn false (expression n)
        if ← acceptWord "of" then
          if isTarget e && !opensWithLet then forOfRest n place none e else refuse
        else
          expect ";"
          forRest n place (.expression e)
    | some kind =>
      skip
      if isWord "of" (← peekSecond) then
        let w ← name
        if kind = .variable then modify fun c => { c with declared := w :: c.declared }
        skip
        forOfRest n place (some kind) (.name w)
      else
        let found ← withIn false (bindings n kind [])
        expect ";"
        forRest n place (.declare kind found)

/-- A loop over items after `of`. -/
def forOfRest : Nat → Place → Option Declaration → Expr → Reader Stmt
  | 0, _, _, _ => refuse
  | n + 1, place, kind, target => do
    let e ← assignment n
    expect ")"
    let names := match kind, target with
      | some .local, .name w | some .constant, .name w => [w]
      | _, _ => []
    return .forOf kind target e (← loopBody n place names)

/-- A loop after the first part of its head. -/
def forRest : Nat → Place → Stmt → Reader Stmt
  | 0, _, _ => refuse
  | n + 1, place, first => do
    let condition ← if ← accept ";" then pure none else do
      let e ← expression n
      expect ";"
      pure (some e)
    let step ← if ← accept ")" then pure none else do
      let e ← expression n
      expect ")"
      pure (some e)
    return .forLoop first condition step (← loopBody n place ((blockNames [first]).map (·.1)))

/-- The statement that a loop repeats, which declares no variable named in the loop's head. -/
def loopBody : Nat → Place → List String → Reader Stmt
  | 0, _, _ => refuse
  | n + 1, place, names => do
    let before := (← get).declared.length
    let body ← substatement n { place with inLoop := true }
    let declared := (← get).declared
    if (declared.take (declared.length - before)).any (· ∈ names) then refuse else return body

end

/-- The statements of a whole script. -/
def script : Nat → List Stmt → Reader (List Stmt)
  | 0, _ => refuse
  | n + 1, acc => do
    match ← peek with
    | none => return acc.reverse
    | some _ => script n ((← statement n {}) :: acc)

end Reader

/-- A whole script: its statements, with the variables they declare. -/
structure Program where
  body : List Stmt
  declared : List String

/-- The script that a text says, if it is one. -/
def Program.ofText? (s : String) : Option Program := do
  let tokens ← Lexeme.ofText? s
  let (body, cursor) ← Reader.script (16 * tokens.length + 16) [] { rest := tokens }
  if Reader.namesAgree body (cursor.declared ++ Reader.functionNames body) then
    return { body, declared := cursor.declared.reverse.eraseDups }
  else none

end Workgraph.Script
