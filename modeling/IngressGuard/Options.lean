/-!
# Controller options

The options the controller starts with: its log filter and format, the namespace it watches (all
namespaces when unset), the namespace it runs in (where Dex client secrets are kept, and the only
option without a default), how many ingresses are reconciled at once, how often every ingress is
reconciled again, how often and how long after a failure a reconciliation is retried, and the DNS
domain of the cluster.

An option is given as `--name value` or `--name=value`, and the three with a short form also as
`-x value`; a later occurrence replaces an earlier one. An option missing from the arguments is
taken from its environment variable when it has one, and otherwise from its default. Counts are
unsigned decimals of a fixed width, with an optional `+`, read by the usual rules of unsigned
integer text: empty text, any other character, and values past the width are refused, each with
its own reason.
-/

namespace IngressGuard

/-- The settings the controller runs with. -/
structure Settings where
  logLevel : String := "bilrost=info,warn"
  logFormat : String := "plain"
  namespaceFilter : Option String := none
  namespaceRunning : String
  workers : Nat := 5
  resyncSeconds : Nat := 180
  retries : Nat := 2
  retryBackoffMillis : Nat := 1000
  clusterDomain : String := "cluster.local"
deriving DecidableEq, Repr

/-- An option the command line accepts. -/
structure Flag where
  long : String
  short : Option Char := none
  env : Option String := none
  valueName : String
deriving DecidableEq, Repr

/-- Why a command line is refused. -/
inductive OptionError where
  | unexpected (arg : String)
  | missingValue (flag : Flag)
  | invalidValue (flag : Flag) (value reason : String)
  | missingRequired (flag : Flag)
deriving DecidableEq, Repr

/-- What a command line asks for. -/
inductive Request where
  | help
  | run (settings : Settings)
deriving DecidableEq, Repr

namespace Flag

/-- How an option is shown in messages: `--name <VALUE>`. -/
def display (f : Flag) : String :=
  "--" ++ f.long ++ " <" ++ f.valueName ++ ">"

/-- The log filter. -/
def logLevel : Flag :=
  { long := "log-level", env := some "BILROST_CONTROLLER_LOG", valueName := "LOG_LEVEL" }
/-- The log format. -/
def logFormat : Flag := { long := "log-format", valueName := "LOG_FORMAT" }
/-- The one namespace to watch. -/
def namespaceFilter : Flag :=
  { long := "namespace-filter", short := some 'n', env := some "BILROST_NAMESPACE_FILTER"
    valueName := "NAMESPACE_FILTER" }
/-- The namespace the controller runs in. -/
def namespaceRunning : Flag :=
  { long := "namespace-running", short := some 'r', env := some "BILROST_NAMESPACE_RUNNING"
    valueName := "NAMESPACE_RUNNING" }
/-- How many ingresses are reconciled at once. -/
def workers : Flag := { long := "workers", short := some 'w', valueName := "WORKERS" }
/-- Seconds between two reconciliations of every ingress. -/
def resyncSeconds : Flag := { long := "resync-interval-secs", valueName := "RESYNC_INTERVAL_SECS" }
/-- How often a failed reconciliation is retried. -/
def retries : Flag := { long := "retries", valueName := "RETRIES" }
/-- Milliseconds before a retry. -/
def retryBackoffMillis : Flag := { long := "retry-backoff-ms", valueName := "RETRY_BACKOFF_MS" }
/-- The DNS domain of the cluster. -/
def clusterDomain : Flag := { long := "cluster-domain", valueName := "CLUSTER_DOMAIN" }

/-- Every option, in the order the help lists them. -/
def all : List Flag :=
  [logLevel, logFormat, namespaceFilter, namespaceRunning, workers, resyncSeconds, retries,
   retryBackoffMillis, clusterDomain]

/-- The option an argument names, by `--long` or `-s`. -/
def named? (arg : String) : Option Flag :=
  all.find? fun f => arg == "--" ++ f.long || f.short.any (fun c => arg == "-" ++ c.toString)

end Flag

/-- The text of a refusal. -/
def OptionError.message : OptionError → String
  | .unexpected arg => "unexpected argument '" ++ arg ++ "' found"
  | .missingValue f => "a value is required for '" ++ f.display ++ "' but none was supplied"
  | .invalidValue f v reason => "invalid value '" ++ v ++ "' for '" ++ f.display ++ "': " ++ reason
  | .missingRequired f => "the following required arguments were not provided:\n  " ++ f.display

/-- Reads an unsigned decimal of `bits` bits, with an optional leading `+`. -/
def parseUnsigned (bits : Nat) (text : String) : Except String Nat :=
  let digits := match text.toList with
    | '+' :: rest => rest
    | cs => cs
  if text.isEmpty then .error "cannot parse integer from empty string"
  else if digits.isEmpty || !digits.all Char.isDigit then .error "invalid digit found in string"
  else
    let n := digits.foldl (fun n c => 10 * n + (c.toNat - '0'.toNat)) 0
    if n < Nat.pow 2 bits then .ok n else .error "number too large to fit in target type"

/-- The option-value pairs of a command line, or a request for help. -/
def splitArgs : List String → Except OptionError (Option (List (Flag × String)))
  | [] => .ok (some [])
  | arg :: rest =>
    if arg == "--help" || arg == "-h" then .ok none
    else match Flag.named? arg with
      | some f =>
        match rest with
        | value :: rest => do
          let pairs ← splitArgs rest
          pure (pairs.map ((f, value) :: ·))
        | [] => .error (.missingValue f)
      | none =>
        match arg.splitOn "=" with
        | name :: value :: more =>
          match Flag.named? name with
          | some f =>
            if name.startsWith "--" then do
              let pairs ← splitArgs rest
              pure (pairs.map ((f, "=".intercalate (value :: more)) :: ·))
            else .error (.unexpected arg)
          | none => .error (.unexpected arg)
        | _ => .error (.unexpected arg)

/-- The value given for an option: the last one on the command line, else its variable's. -/
def valueOf (env : String → Option String) (pairs : List (Flag × String)) (f : Flag) :
    Option String :=
  match (pairs.filter (·.1 == f)).getLast? with
  | some (_, v) => some v
  | none => f.env.bind env

/-- Reads a count option of a width, falling back to its default. -/
def countOf (env : String → Option String) (pairs : List (Flag × String)) (f : Flag)
    (bits default : Nat) : Except OptionError Nat :=
  match valueOf env pairs f with
  | none => .ok default
  | some v => (parseUnsigned bits v).mapError (.invalidValue f v)

/-- Reads a command line, with the environment for options not given on it. -/
def parseArgs (env : String → Option String) (args : List String) :
    Except OptionError Request := do
  let some pairs ← splitArgs args | pure .help
  let value := valueOf env pairs
  let some running := value Flag.namespaceRunning | .error (.missingRequired Flag.namespaceRunning)
  let d : Settings := { namespaceRunning := running }
  pure (.run {
    logLevel := (value Flag.logLevel).getD d.logLevel
    logFormat := (value Flag.logFormat).getD d.logFormat
    namespaceFilter := value Flag.namespaceFilter
    namespaceRunning := running
    workers := ← countOf env pairs Flag.workers 16 d.workers
    resyncSeconds := ← countOf env pairs Flag.resyncSeconds 64 d.resyncSeconds
    retries := ← countOf env pairs Flag.retries 32 d.retries
    retryBackoffMillis := ← countOf env pairs Flag.retryBackoffMillis 64 d.retryBackoffMillis
    clusterDomain := (value Flag.clusterDomain).getD d.clusterDomain })

/-- The help text. -/
def helpText : String :=
  "Secures ingresses with an OIDC authenticating proxy\n\nUsage: bilrost-controller [OPTIONS] " ++
  Flag.namespaceRunning.display ++ "\n\nOptions:\n" ++
  String.join (Flag.all.map fun f =>
    "  " ++ (f.short.map (fun c => "-" ++ c.toString ++ ", ")).getD "    " ++ f.display ++
      (f.env.map (fun v => " [env: " ++ v ++ "]")).getD "" ++ "\n") ++
  "  -h, --help    Print help\n"

end IngressGuard
