/-!
# What a host reports
-/

namespace Kademlia

/-- What a host tells the one who runs it. -/
inductive Notice
  | noStateFile
  | stateFileRefused
  | noEntryPoint
  | enabled
  | disabled
  | saved
  | entryPointUnknown
  | noEntryPointKnown
deriving DecidableEq

namespace Notice

/-- Whether a notice tells of a failure. -/
def isFailure : Notice → Bool
  | stateFileRefused => true
  | disabled => true
  | entryPointUnknown => true
  | noEntryPointKnown => true
  | _ => false

/-- The message of a notice. -/
def message : Notice → String
  | noStateFile => "No DHT routing table found, starting with a new node id"
  | stateFileRefused => "Exception caught while loading DHT routing table"
  | noEntryPoint => "No DHT entry point specified."
  | enabled => "DHT is enabled"
  | disabled => "Exception caught while initializing DHT functionality. DHT is disabled."
  | saved => "Saved DHT routing table"
  | entryPointUnknown => "Failed to resolve DHT entry point"
  | noEntryPointKnown => "No DHT entry point could be resolved"

/-- A notice as a line of a log: its level and its message. -/
def text (notice : Notice) : String :=
  (if notice.isFailure then "ERROR " else "INFO ") ++ notice.message

end Notice

end Kademlia
