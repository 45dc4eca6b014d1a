-- SUMMARY: Which parts of a file system a run of the program can see or change.
import AgentGovernance.Cli.Program

/-!
# Footprints

A run works on a disk in memory, so whoever starts it has to know what to read first. The settings
decide where the other places are; that is why there are two lists: what to read before the settings
can be loaded, and what else once they are known.
-/

namespace AgentGovernance.Cli

/-- The variables of a process, from a block in which each ends with a zero byte. -/
def environmentOfBlock (block : String) : Environment :=
  (block.splitOn (String.singleton (Char.ofNat 0))).filterMap fun entry =>
    match entry.toList.dropWhile (· != '=') with
    | [] => none
    | _ :: value => some (String.ofList (entry.toList.takeWhile (· != '=')), String.ofList value)

namespace Invocation

/-- The configuration files of a run, with the longer names that are tried in their place. -/
def settingsPlaces (i : Invocation) (env : Environment) : List Path :=
  let longer := fun (p : Path) => [p, ⟨p.text ++ ".toml"⟩]
  let user := match globalConfigFile env with
    | .ok p => longer p
    | .error _ => []
  i.workspace :: user ++ (i.config.map longer).getD []

/-- The places of a run whose settings have been loaded. -/
def places (i : Invocation) (host : Host) (settings : Settings) (disk : Disk) : List Path :=
  let state := match StatePaths.resolve settings.descriptors settings.session host.environment
      i.workspace disk with
    | .ok p => [p.descriptors, p.stateDir]
    | .error _ => []
  let log := match Log.resolveFile host.environment host.accountHome none
      (i.logging.apply settings.logging).file none disk with
    | .ok p => [p]
    | .error _ => []
  let scope := match i.command with
    | .audit (some scope) _ _ _ => [i.workspace.join scope.text]
    | _ => []
  state ++ log ++ scope

/-- The places of a run, as far as the settings on a disk tell. -/
def footprint (i : Invocation) (host : Host) (disk : Disk) : List Path :=
  match ((Settings.loadFor host.environment i.workspace i.config).run disk).outcome with
  | .ok settings => i.places host settings disk
  | .error _ => []

end Invocation

end AgentGovernance.Cli
