import BlockFs.Event

namespace BlockFs.Tool

structure Options where
  disk : String
  verbosity : Nat
  quiet : Bool
deriving DecidableEq, Repr

def Options.level (options : Options) : Level :=
  if options.quiet then .error
  else
    match options.verbosity with
    | 0 => .warn
    | 1 => .info
    | 2 => .debug
    | _ => .trace

inductive Request where
  | format (options : Options)
  | help
  | version
  | misuse
deriving DecidableEq, Repr

inductive Flag where
  | verbose
  | quiet
  | help
  | version
deriving DecidableEq, Repr

namespace Flag

def ofName? : String → Option Flag
  | "verbose" => some .verbose
  | "quiet" => some .quiet
  | "help" => some .help
  | "version" => some .version
  | _ => none

def ofLetter? : Char → Option Flag
  | 'v' => some .verbose
  | 'q' => some .quiet
  | 'h' => some .help
  | 'V' => some .version
  | _ => none

end Flag

structure Reading where
  disk : Option String := none
  verbosity : Nat := 0
  quiet : Bool := false
deriving DecidableEq, Repr

namespace Reading

variable (reading : Reading)

/-- A disk must have a name; this is noticed at the next flag, or at the end. -/
def named : Except Request Unit :=
  if reading.disk = some "" then .error .misuse else .ok ()

def flag (found : Option Flag) : Except Request Reading := do
  match found with
  | none => throw .misuse
  | some flag =>
      reading.named
      match flag with
      | .verbose => return { reading with verbosity := reading.verbosity + 1 }
      | .quiet => if reading.quiet then throw .misuse else return { reading with quiet := true }
      | .help => throw .help
      | .version => throw .version

def operand (argument : String) : Except Request Reading :=
  if reading.disk.isSome then .error .misuse else .ok { reading with disk := some argument }

/-- A dash and letters are flags, two dashes and a name are a flag; a dash alone is an operand. -/
def argument (argument : String) : Except Request Reading :=
  match argument.toList with
  | '-' :: '-' :: name => reading.flag (Flag.ofName? (String.ofList name))
  | '-' :: letter :: letters =>
      (letter :: letters).foldlM (fun reading letter => reading.flag (Flag.ofLetter? letter)) reading
  | _ => reading.operand argument

def finish : Except Request Options := do
  reading.named
  if reading.quiet ∧ 0 < reading.verbosity then throw .misuse
  match reading.disk with
  | none => throw .misuse
  | some disk => return ⟨disk, reading.verbosity, reading.quiet⟩

/-- Behind two dashes alone everything is an operand. -/
def arguments : Reading → List String → Except Request Reading
  | reading, [] => .ok reading
  | reading, "--" :: rest => rest.foldlM operand reading
  | reading, first :: rest => do arguments (← reading.argument first) rest

end Reading

def Request.ofArguments (arguments : List String) : Request :=
  match (Reading.arguments {} arguments) >>= Reading.finish with
  | .ok options => .format options
  | .error request => request

end BlockFs.Tool
