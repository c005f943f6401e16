import RadioRelay.Configuration.Source
import RadioRelay.Simulation.Result

/-!
# Trying out configuration files
-/

namespace RadioRelay.Simulation

def chooseAndLoad (named : Option String) :
    Machine (Except Failure (Option (String × Except Failure Configuration))) := do
  match ← executeFallible (Configuration.resolvePath named) with
  | .error failure => return .error failure
  | .ok none => return .ok none
  | .ok (some path) => return .ok (some (path, ← executeFallible (Configuration.load path)))

def tryLoading (pageSize : Int) (files : List (String × File)) (named : Option String) :
    Except Failure (Option (String × Except Failure Configuration)) :=
  ((chooseAndLoad named).run { pageSize := pageSize, files := Files.ofPaths files }).1

end RadioRelay.Simulation
