import EventGateway.Gateway.Startup
/-!
# The program

Starts a gateway with the variables of its environment and prints what there is to note.  The exit code says whether a
gateway came to be.
-/
namespace EventGateway

def Variables.ofEnvironment : IO Variables :=
  names.filterMapM (fun name => do return (← IO.getEnv name).map (fun value => (name, some value)))

def Startup.perform : IO UInt32 := do
  let vars ← Variables.ofEnvironment
  for line in lines vars do
    IO.println line.text
  return if (run vars).2.isOk then 0 else 1

end EventGateway

def main : IO UInt32 := EventGateway.Startup.perform
