import CommitPolicy.Text.Pieces

namespace CommitPolicy.CommandLine

structure OptionSpec where
  name : String
  short : Option Char
  /-- The value of an option that is given without one; none if a value has to follow. -/
  fallback : Option String
  accepts : String → Bool

inductive Stop where
  | usage
  | help
  | version
deriving DecidableEq, Repr

inductive Word where
  | escape
  | long (name : String) (value : Option String)
  | short (c : Char) (attached : List Char)
  | plain
deriving DecidableEq, Repr

def Word.ofArgument (arg : String) : Word :=
  match arg.toList with
  | ['-', '-'] => escape
  | '-' :: '-' :: rest =>
    let name := String.ofList (rest.takeWhile (· != '='))
    match rest.dropWhile (· != '=') with
    | [] => long name none
    | _ :: value => long name (some (String.ofList value))
  | '-' :: c :: attached => short c attached
  | _ => plain

structure Level where
  options : List OptionSpec
  hasVersion : Bool
  /-- How many operands there may be; none if the first operand names a command, which reads the
  rest. -/
  operandLimit : Option Nat

structure Reading where
  values : List (String × String)
  operands : List String
deriving Inhabited

namespace Reading

def value? (r : Reading) (name : String) : Option String := r.values.lookup name

def has (r : Reading) (name : String) : Bool := (r.value? name).isSome

end Reading

namespace Level

def optionNamed? (l : Level) (name : String) : Option OptionSpec :=
  l.options.find? (·.name == name)

def optionOf? (l : Level) (c : Char) : Option OptionSpec := l.options.find? (·.short == some c)

def attachedValue? : List Char → Option String
  | [] => none
  | '=' :: value => some (String.ofList value)
  | value => some (String.ofList value)

inductive Request where
  | stop (s : Stop)
  | option (o : OptionSpec) (value : Option String)
  | operand
  | escape

def requestOf (l : Level) (arg : String) : Request :=
  match Word.ofArgument arg with
  | .plain => .operand
  | .escape => .escape
  | .long name value =>
    match l.optionNamed? name with
    | some o => .option o value
    | none =>
      if value.isSome then .stop .usage
      else if name = "help" then .stop .help
      else if name = "version" ∧ l.hasVersion then .stop .version
      else .stop .usage
  | .short c attached =>
    match l.optionOf? c with
    | some o => .option o (attachedValue? attached)
    | none =>
      if c = 'h' then .stop .help
      else if c = 'V' ∧ l.hasVersion then .stop .version
      else .stop .usage

def addValue (o : OptionSpec) (value : String) (r : Reading) : Except Stop Reading :=
  if r.has o.name ∨ ¬ o.accepts value then .error .usage
  else .ok { r with values := (o.name, value) :: r.values }

def isValue (arg : String) : Bool := Word.ofArgument arg == .plain

/-- Adds operands that may not name a command. -/
def addOperands (l : Level) (args : List String) (r : Reading) : Except Stop Reading :=
  let operands := r.operands ++ args
  if operands.length ≤ l.operandLimit.getD 0 then .ok { r with operands := operands }
  else .error .usage

def readAfter (l : Level) (r : Reading) : List String → Except Stop Reading
  | [] => .ok r
  | arg :: rest =>
    match l.requestOf arg with
    | .stop s => .error s
    | .escape => l.addOperands rest r
    | .operand =>
      match l.operandLimit with
      | none => .ok { r with operands := arg :: rest }
      | some _ => do readAfter l (← l.addOperands [arg] r) rest
    | .option o (some value) => do readAfter l (← addValue o value r) rest
    | .option o none =>
      match rest with
      | value :: rest =>
        if isValue value then do readAfter l (← addValue o value r) rest
        else match o.fallback with
          | some value' => do readAfter l (← addValue o value' r) (value :: rest)
          | none => .error .usage
      | [] => match o.fallback with
        | some value => addValue o value r
        | none => .error .usage

def read (l : Level) (args : List String) : Except Stop Reading := l.readAfter ⟨[], []⟩ args

end Level

end CommitPolicy.CommandLine
