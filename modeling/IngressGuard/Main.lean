import IngressGuard.Options

/-!
# The controller's command line

Reads the options, from the arguments and the environment, and answers `--help`. Watching a
cluster needs a Kubernetes client, which this library does not have: with valid options the
program says so and stops; the reconciliation itself is the library's `reconcile`.
-/

open IngressGuard

/-- Reads the options and reports what the controller would run with. -/
def main (args : List String) : IO UInt32 := do
  let vars ← Flag.all.filterMapM fun f => do
    match f.env with
    | some v => return (← IO.getEnv v).map (v, ·)
    | none => return none
  match parseArgs (fun v => vars.lookup v) args with
  | .ok .help =>
    IO.print helpText
    return 0
  | .ok (.run settings) =>
    let scope := (settings.namespaceFilter.map ("namespace " ++ ·)).getD "all namespaces"
    IO.eprintln
      ("error: cannot watch ingresses in " ++ scope ++ ": no Kubernetes client is available")
    return 1
  | .error e =>
    IO.eprintln ("error: " ++ e.message ++ "\n\nFor more information, try '--help'.")
    return 2
