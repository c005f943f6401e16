import RadioRelay.CommandLine.Command

/-!
# What a refused command line is answered with
-/

namespace RadioRelay.CommandLine

def usage : String :=
  "Routes mac80211_hwsim frames to virtual machines by MAC address\n\n"
    ++ "Usage: wifirouter serve [--config FILE] [--socket-name NAME]\n"
    ++ "       wifirouter listen --mac MAC [--mac MAC]... [--socket-name NAME] [--count N]\n"

def version : String := "wifirouter 0.1.0\n"

def mistake (reason : String) : String := s!"error: {reason}\n\n" ++ usage

def Refusal.text : Refusal → String
  | .helpWanted | .commandMissing => usage
  | .versionWanted => version
  | .unknownCommand => mistake "unrecognized command"
  | .unknownArgument => mistake "unexpected argument"
  | .optionMissing => mistake "--mac is required"
  | .valueMissing => mistake "a value is missing"
  | .valueUnwanted => mistake "an option takes no value"
  | .valueInvalid => mistake "invalid value"
  | .repeatedOption => mistake "an option cannot be used more than once"

end RadioRelay.CommandLine
