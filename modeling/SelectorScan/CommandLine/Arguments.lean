import SelectorScan.Number.Binary64
import SelectorScan.Text.Quoted

/-!
# Command line arguments

The arguments are a domain, an optional rule file directly behind it, and options anywhere. A long
option may be shortened to any beginning that no other one has, and may have its value behind an
equals sign; short options may be joined, the last one taking its value from the rest. Two hyphens
end the options. The first thing that is wrong, in the order of the arguments, is what is reported.
-/

namespace SelectorScan.CommandLine

/-! ## Options -/

inductive Opt where
  | help
  | output
  | concurrency
  | retries
  | nameserver
  | timeout
  | archive
  | list
  | quiet
  | verbose
deriving DecidableEq, Repr

/-- The names of the options, in the order in which they are tried. -/
def optionNames : List (Text × Opt) := [
  ("-h".toList, .help), ("--help".toList, .help),
  ("-o".toList, .output),
  ("-c".toList, .concurrency), ("--concurrency".toList, .concurrency),
  ("-r".toList, .retries), ("--retries".toList, .retries),
  ("-n".toList, .nameserver), ("--nameserver".toList, .nameserver),
  ("--timeout".toList, .timeout),
  ("--archive".toList, .archive),
  ("--list".toList, .list),
  ("-q".toList, .quiet), ("--quiet".toList, .quiet),
  ("-v".toList, .verbose), ("--verbose".toList, .verbose)]

def Opt.takesValue : Opt → Bool
  | .output | .concurrency | .retries | .nameserver | .timeout => true
  | .help | .archive | .list | .quiet | .verbose => false

def Opt.title (o : Opt) : Text :=
  Text.join ['/'] ((optionNames.filter fun entry => entry.2 = o).map Prod.fst)

/-- Where results go. -/
inductive Output where
  | console
  | json
  | csv
  | sheet
deriving DecidableEq, Repr

def outputNames : List (Text × Output) := [
  ("stdout".toList, .console), ("json".toList, .json), ("csv".toList, .csv), ("xls".toList, .sheet)]

/-! ## Errors -/

/-- What is wrong with the arguments. -/
inductive UsageError where
  | ambiguous (given : Text) (names : List Text)
  | valueMissing (option : Opt)
  | valueIgnored (option : Opt) (value : Text)
  | notAnInteger (option : Opt) (value : Text)
  | notANumber (option : Opt) (value : Text)
  | notAChoice (option : Opt) (value : Text) (choices : List Text)
  | domainMissing
  | unrecognized (arguments : List Text)
  /-- No lookup may be in flight. -/
  | noConcurrency
deriving DecidableEq, Repr

def aboutOption (o : Opt) (message : Text) : Text :=
  "argument ".toList ++ o.title ++ ": ".toList ++ message

/-- What is said about wrong arguments. -/
def UsageError.message : UsageError → Text
  | .ambiguous given names =>
    "ambiguous option: ".toList ++ given ++ " could match ".toList ++ Text.join [',', ' '] names
  | .valueMissing o => aboutOption o "expected one argument".toList
  | .valueIgnored o value =>
    aboutOption o ("ignored explicit argument ".toList ++ Text.quoted value)
  | .notAnInteger o value => aboutOption o ("invalid int value: ".toList ++ Text.quoted value)
  | .notANumber o value => aboutOption o ("invalid float value: ".toList ++ Text.quoted value)
  | .notAChoice o value choices =>
    aboutOption o ("invalid choice: ".toList ++ Text.quoted value ++ " (choose from ".toList ++
      Text.join [',', ' '] (choices.map Text.quoted) ++ [')'])
  | .domainMissing => "the following arguments are required: domain".toList
  | .unrecognized arguments => "unrecognized arguments: ".toList ++ Text.join [' '] arguments
  | .noConcurrency => "--concurrency must be at least 1".toList

/-! ## Words -/

/-- What an argument is by itself. -/
inductive Word where
  | operand
  /-- The two hyphens that end the options. -/
  | separator
  /-- An option, whether its name is a long one, and the value within the argument. -/
  | option (option : Opt) (long : Bool) (value : Option Text)
  /-- It looks like an option but is none. -/
  | unknown
deriving DecidableEq, Repr

/-- Whether an argument is two hyphens and perhaps more. -/
def isLong : Text → Bool
  | '-' :: '-' :: _ => true
  | _ => false

/-- Whether an argument is a negative number: digits, or a point with digits behind it and perhaps
before it. A line feed may follow. -/
def isNegativeNumber : Text → Bool
  | '-' :: rest =>
    let rest := if rest.getLast? = some '\n' then rest.dropLast else rest
    match rest.dropWhile Text.isDigit with
    | [] => !rest.isEmpty
    | '.' :: fraction => !fraction.isEmpty && fraction.all Text.isDigit
    | _ => false
  | _ => false

/-- The options that a long argument may be short for, with their full names, and the value behind
an equals sign. -/
def longMatches (t : Text) : List (Text × Opt) × Option Text :=
  let (name, value) :=
    match Text.breakOn ['='] t with
    | some (name, value) => (name, some value)
    | none => (t, none)
  (optionNames.filter fun entry => (Text.after? name entry.1).isSome, value)

/-- The option that an argument which is not the full name of one stands for. -/
def classifyShortened (t : Text) : Except UsageError Word :=
  let otherwise : Word :=
    if isNegativeNumber t || t.contains ' ' then .operand else .unknown
  if isLong t then
    match longMatches t with
    | ([], _) => .ok otherwise
    | ([entry], value) => .ok (.option entry.2 true value)
    | (entries, _) => .error (.ambiguous t (entries.map Prod.fst))
  else
    match optionNames.lookup (t.take 2) with
    | some o => .ok (.option o false (some (t.drop 2)))
    | none => .ok otherwise

/-- What an argument in front of the separator is. -/
def classify (t : Text) : Except UsageError Word :=
  if t = ['-', '-'] then .ok .separator
  else
    match t with
    | [] => .ok .operand
    | [_] => .ok .operand
    | c :: _ =>
      if c ≠ '-' then .ok .operand
      else
        match optionNames.lookup t with
        | some o => .ok (.option o (isLong t) none)
        | none =>
          match Text.breakOn ['='] t with
          | some (name, value) =>
            match optionNames.lookup name with
            | some o => .ok (.option o (isLong name) (some value))
            | none => classifyShortened t
          | none => classifyShortened t

abbrev Argument := Text × Word

/-- All arguments with what they are; behind the separator everything is an operand. -/
def classifyAll : List Text → Except UsageError (List Argument)
  | [] => .ok []
  | t :: rest =>
    match classify t with
    | .error e => .error e
    | .ok .separator => .ok ((t, .separator) :: rest.map fun r => (r, .operand))
    | .ok word => (classifyAll rest).map ((t, word) :: ·)

/-! ## Values -/

/-- The arguments taken together. -/
structure Arguments where
  domain : Option Text
  rules : Option Text
  output : Output
  concurrency : Option Int
  retries : Option Int
  nameservers : Option (List Text)
  timeout : Option Number.Binary64
  archive : Bool
  list : Bool
  quiet : Bool
  verbose : Bool
deriving DecidableEq, Repr

def Arguments.none : Arguments where
  domain := .none
  rules := .none
  output := .console
  concurrency := .none
  retries := .none
  nameservers := .none
  timeout := .none
  archive := false
  list := false
  quiet := false
  verbose := false

/-- Why reading arguments stops early. -/
inductive Stop where
  /-- Help is asked for. -/
  | help
  | error (error : UsageError)
deriving DecidableEq, Repr

def integerValue (o : Opt) (value : Text) : Except Stop Int :=
  match Number.readInt? value with
  | some i => .ok i
  | none => .error (.error (.notAnInteger o value))

/-- Gives a value to an option that takes one. -/
def setValue (a : Arguments) (o : Opt) (value : Text) : Except Stop Arguments :=
  match o with
  | .output =>
    match outputNames.lookup value with
    | some output => .ok { a with output }
    | none => .error (.error (.notAChoice o value (outputNames.map Prod.fst)))
  | .concurrency => (integerValue o value).map fun i => { a with concurrency := some i }
  | .retries => (integerValue o value).map fun i => { a with retries := some i }
  | .nameserver => .ok { a with nameservers := some (a.nameservers.getD [] ++ [value]) }
  | .timeout =>
    match Number.Binary64.read? value with
    | some x => .ok { a with timeout := some x }
    | none => .error (.error (.notANumber o value))
  | _ => .ok a

/-- Sets an option that takes no value. -/
def setFlag (a : Arguments) (o : Opt) : Except Stop Arguments :=
  match o with
  | .help => .error .help
  | .archive => .ok { a with archive := true }
  | .list => .ok { a with list := true }
  | .quiet => .ok { a with quiet := true }
  | .verbose => .ok { a with verbose := true }
  | _ => .ok a

/-- Sets options that take no value, one after the other. -/
def setFlags (a : Arguments) (os : List Opt) : Except Stop Arguments :=
  os.foldlM setFlag a

/-! ## Options in place -/

/-- What an option in its place comes to: options without a value, then perhaps one with its value,
and whether that value is the next argument. -/
structure Effect where
  flags : List Opt
  valued : Option (Opt × Text)
  takesNext : Bool
deriving DecidableEq, Repr

/-- An option without a value within its argument: it may take the next argument. -/
def bareEffect (flags : List Opt) (o : Opt) (next : Option Argument) : Except UsageError Effect :=
  if o.takesValue then
    match next with
    | some (value, .operand) => .ok ⟨flags, some (o, value), true⟩
    | _ => .error (.valueMissing o)
  else .ok ⟨flags ++ [o], none, false⟩

/-- A short option with something behind it in its argument: its value, or more short options. -/
def joinedEffect (next : Option Argument) (flags : List Opt) (o : Opt) :
    Text → Except UsageError Effect
  | [] => if o.takesValue then .ok ⟨flags, some (o, []), false⟩ else .error (.valueIgnored o [])
  | c :: rest =>
    if o.takesValue then .ok ⟨flags, some (o, c :: rest), false⟩
    else
      match optionNames.lookup ['-', c] with
      | none => .error (.valueIgnored o (c :: rest))
      | some other =>
        if rest.isEmpty then bareEffect (flags ++ [o]) other next
        else joinedEffect next (flags ++ [o]) other rest

def effect (o : Opt) (long : Bool) (value : Option Text) (next : Option Argument) :
    Except UsageError Effect :=
  match value with
  | none => bareEffect [] o next
  | some value =>
    if long then
      if o.takesValue then .ok ⟨[], some (o, value), false⟩ else .error (.valueIgnored o value)
    else joinedEffect next [] o value

def Effect.apply (e : Effect) (a : Arguments) : Except Stop Arguments := do
  let a ← setFlags a e.flags
  match e.valued with
  | none => return a
  | some (o, value) => setValue a o value

/-! ## Operands -/

/-- The run of arguments that one operand takes: it, and the separator before or behind it. -/
def takeOperand (args : List Argument) : Option (List Argument × List Argument) :=
  let front := args.takeWhile fun a => a.2 = .separator
  match args.drop front.length with
  | (t, .operand) :: rest =>
    let back := rest.takeWhile fun a => a.2 = .separator
    some (front ++ (t, .operand) :: back, rest.drop back.length)
  | _ => none

/-- The operand among the arguments taken for it: the first one that is not two hyphens, unless
these occur twice. -/
def operandValue (taken : List Argument) : Option Text :=
  ((taken.map Prod.fst).erase ['-', '-']).head?

/-- Takes the domain and, directly behind it, the rule file. -/
def takeOperands (a : Arguments) (args : List Argument) : Option (Arguments × List Argument) :=
  (takeOperand args).map fun (taken, rest) =>
    let a := { a with domain := operandValue taken }
    match takeOperand rest with
    | some (taken, rest) => ({ a with rules := operandValue taken }, rest)
    | none => (a, rest)

/-! ## All arguments -/

/-- How far reading has come: the arguments so far, whether the operands have been taken, and what
was not recognized. -/
structure Progress where
  arguments : Arguments
  operandsTaken : Bool
  extras : List Text

/-- Operands that come when an option still follows, or at the end: the first ones are the domain
and the rule file, any others are not recognized. -/
def readOperands (p : Progress) (run : List Argument) : Progress :=
  match (if p.operandsTaken then none else takeOperands p.arguments run) with
  | some (arguments, rest) => ⟨arguments, true, p.extras ++ rest.map Prod.fst⟩
  | none => { p with extras := p.extras ++ run.map Prod.fst }

/-- Reads arguments, `run` being the operands just passed (the latest first). -/
def readFrom (p : Progress) (run : List Argument) : List Argument → Except Stop Progress
  | [] => .ok (readOperands p run.reverse)
  | (t, .operand) :: rest => readFrom p ((t, .operand) :: run) rest
  | (t, .separator) :: rest => readFrom p ((t, .separator) :: run) rest
  | (t, .unknown) :: rest =>
    let p := readOperands p run.reverse
    readFrom { p with extras := p.extras ++ [t] } [] rest
  | (_, .option o long value) :: rest =>
    let p := readOperands p run.reverse
    match effect o long value rest.head? with
    | .error e => .error (.error e)
    | .ok e =>
      match e.apply p.arguments with
      | .error stop => .error stop
      | .ok arguments =>
        match e.takesNext, rest with
        | true, _ :: rest => readFrom { p with arguments } [] rest
        | _, rest => readFrom { p with arguments } [] rest

def readArguments (given : List Text) : Except Stop Arguments :=
  match classifyAll given with
  | .error e => .error (.error e)
  | .ok args =>
    match readFrom ⟨.none, false, []⟩ [] args with
    | .error stop => .error stop
    | .ok p =>
      if !p.operandsTaken then .error (.error .domainMissing)
      else if !p.extras.isEmpty then .error (.error (.unrecognized p.extras))
      else .ok p.arguments

end SelectorScan.CommandLine
