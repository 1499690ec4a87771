import Workgraph.Script.Units

/-!
# The parts of a script

Expressions, statements and functions as trees. The language is the common core of the one that
browsers run: values, closures, loops, exceptions. It has no classes, patterns, templates, regular
expressions or generators, and a label is not kept, as nothing jumps to one.
-/

namespace Workgraph.Script

/-- How a name is declared: for the whole function, for a block, or for a block and once only. -/
inductive Declaration where
  | variable
  | local
  | constant
  deriving DecidableEq, Inhabited

inductive Arithmetic where
  | add
  | subtract
  | multiply
  | divide
  | remainder
  deriving DecidableEq, Inhabited

inductive Comparison where
  | same
  | notSame
  | equal
  | notEqual
  | less
  | lessEqual
  | greater
  | greaterEqual
  /-- Whether an object has a property. -/
  | within
  deriving DecidableEq, Inhabited

/-- Operators that may skip their second operand. -/
inductive Choice where
  | and
  | or
  /-- The second operand in place of null and undefined. -/
  | otherwise
  deriving DecidableEq, Inhabited

inductive Unary where
  | not
  | negate
  | plus
  | typeOf
  deriving DecidableEq, Inhabited

/-- How an assignment combines the old value with the new one. -/
inductive Combination where
  | replace
  | compute (op : Arithmetic)
  | choose (op : Choice)
  deriving DecidableEq, Inhabited

inductive FunctionKind where
  /-- Can be called after `new`. -/
  | plain
  /-- Shares `arguments` with the function around it. -/
  | arrow
  /-- Stands in an object as `name() …`. -/
  | method
  deriving DecidableEq, Inhabited

/-- What is known of a function besides its body. -/
structure FunctionHead where
  kind : FunctionKind
  /-- The name that stands after the word. -/
  ownName : Option String
  /-- The name that is shown: its own, or that of what it was first assigned to. -/
  shownName : Units
  parameters : List String
  /-- The names declared for the whole body. -/
  declared : List String
  usesArguments : Bool
  /-- The function as it was written. -/
  source : Units
  deriving Inhabited

mutual

inductive Expr where
  | null
  | bool (value : Bool)
  | number (value : Float)
  | text (value : Units)
  | name (name : String)
  /-- An item that is missing leaves a hole. -/
  | array (items : List (Option Expr))
  | object (members : List Member)
  | function (f : Function)
  | member (target : Expr) (key : Units)
  | item (target key : Expr)
  | call (callee : Expr) (arguments : List Expr)
  | create (callee : Expr) (arguments : List Expr)
  /-- `target?.`: when it is null or undefined, the chain around it is undefined. -/
  | optional (target : Expr)
  /-- A chain of members, items and calls that holds an `optional`. -/
  | chain (e : Expr)
  | unary (op : Unary) (e : Expr)
  | arithmetic (op : Arithmetic) (a b : Expr)
  | compare (op : Comparison) (a b : Expr)
  | choice (op : Choice) (a b : Expr)
  | conditional (condition a b : Expr)
  | assign (target : Expr) (how : Combination) (value : Expr)
  /-- `++` and `--`: the new value when `before`, else the old one. -/
  | step (target : Expr) (op : Arithmetic) (before : Bool)
  | sequence (a b : Expr)

inductive Member where
  | value (key : Units) (e : Expr)
  | computed (key e : Expr)
  /-- `__proto__: e`, the object to look into next. -/
  | prototype (e : Expr)

inductive Stmt where
  | empty
  | expression (e : Expr)
  | declare (kind : Declaration) (bindings : List (String × Option Expr))
  /-- A function declaration, bound when the block around it is entered. -/
  | function (f : Function)
  | branch (condition : Expr) (yes no : Stmt)
  | whileLoop (condition : Expr) (body : Stmt)
  | doLoop (body : Stmt) (condition : Expr)
  | forLoop (first : Stmt) (condition step : Option Expr) (body : Stmt)
  /-- A loop over the items of a value, each declared under a name or assigned to a target. -/
  | forOf (kind : Option Declaration) (target items : Expr) (body : Stmt)
  | leaveLoop
  | nextRound
  | giveBack (e : Option Expr)
  | throwValue (e : Expr)
  | guarded (body : List Stmt) (handler : Option (Option String × List Stmt))
      (finally_ : Option (List Stmt))
  | block (body : List Stmt)

inductive Function where
  | mk (head : FunctionHead) (body : List Stmt)

end

instance : Inhabited Expr := ⟨.null⟩

instance : Inhabited Member := ⟨.value #[] .null⟩

instance : Inhabited Stmt := ⟨.empty⟩

namespace Function

def head : Function → FunctionHead
  | mk h _ => h

def body : Function → List Stmt
  | mk _ b => b

/-- The name that stands after the word, empty if there is none. -/
def name (f : Function) : String := f.head.ownName.getD ""

end Function

instance : Inhabited Function := ⟨.mk default []⟩

/-- An expression that is assigned to a name: a function without a name of its own shows this
one. -/
def Expr.named (name : Units) : Expr → Expr
  | .function (.mk head body) =>
    if head.ownName.isNone && head.shownName.isEmpty then
      .function (.mk { head with shownName := name } body)
    else .function (.mk head body)
  | e => e

/-- The function declarations at the top of a list of statements. -/
def declaredFunctions (body : List Stmt) : List Function :=
  body.filterMap fun
    | .function f => some f
    | _ => none

/-- The names that a list of statements declares for its block, with whether they are constant. -/
def blockNames (body : List Stmt) : List (String × Bool) :=
  body.flatMap fun
    | .declare .local bindings => bindings.map fun b => (b.1, false)
    | .declare .constant bindings => bindings.map fun b => (b.1, true)
    | _ => []

end Workgraph.Script
