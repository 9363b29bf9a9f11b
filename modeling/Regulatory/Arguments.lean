/-!
The arguments of the daemon.
-/

namespace Regulatory.Arguments

/-- Whether only the version is asked for. -/
def asksVersion (args : List String) : Bool :=
  args.contains "--version-json"

def missingPath : String := "--config was provided without a path"

/-- The path of the configuration file: what follows the first `--config`, even if that looks like
an argument itself. -/
def configPath? : List String → Except String (Option String)
  | [] => .ok none
  | arg :: rest =>
    if arg = "--config" then
      match rest with
      | path :: _ => .ok (some path)
      | [] => .error missingPath
    else configPath? rest

end Regulatory.Arguments
