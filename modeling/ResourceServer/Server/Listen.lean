/-
The address that a server listens on.

An address is a host, a colon and a port of 16 bits. `addressFault?` says what is wrong with the text of one; whether
a port is free is known only to the system, which reports `ListenFault.inUse`.
-/
import ResourceServer.Server.Event
import ResourceServer.Config.Settings
import ResourceServer.Text

namespace ResourceServer

/-- why a server cannot listen -/
inductive ListenFault where
  | invalidAddress
  | invalidPort
  | inUse
  deriving DecidableEq, Repr

/-- the fault in words -/
def ListenFault.message : ListenFault → String
  | .invalidAddress => "invalid socket address"
  | .invalidPort => "invalid port value"
  | .inUse => "Address already in use (os error 98)"

/-- the address of some settings -/
def ServerSettings.address (s : ServerSettings) : Text := s.host ++ ':' :: Text.ofNat s.port

/-- the text behind the last colon, all of it where there is none -/
def portText (address : Text) : Text := (address.reverse.takeWhile (· ≠ ':')).reverse

/-- what is wrong with the text of an address -/
def addressFault? (address : Text) : Option ListenFault :=
  if !address.contains ':' then some .invalidAddress
  else if (Text.natBelow? (Nat.pow 2 16) (portText address)).isNone then some .invalidPort
  else none

/-- what is logged about an address that cannot be listened on -/
def ListenFault.entries (address : Text) : ListenFault → List LogEntry
  | .inUse => [
    ⟨.error, "Port ".toList ++ portText address ++ " is already in use".toList⟩,
    ⟨.error, "Stop the other application or change the port in the config file".toList⟩,
    ⟨.error, "Find process: lsof -i :".toList ++ portText address⟩]
  | fault => [⟨.error, "Failed to bind server on ".toList ++ address ++ ": ".toList ++ fault.message.toList⟩]

/-- what the start fails with -/
def ListenFault.failure (fault : ListenFault) : String := "Failed to bind server: " ++ fault.message

end ResourceServer
