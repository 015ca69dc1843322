import Switchboard.Service.HostName
import Switchboard.Text.Quoted

/-!
Where a listener can be bound: at a socket address, or at a host and a port around the last colon.
Hosts are resolved without a name service, and the machine has no network: its one interface is the
loopback interface, which is down. Without a network no IPv4 address is known to be of another
machine and each can be bound; of the IPv6 addresses the wildcard and those that stand for IPv4 can.
-/

namespace Switchboard

inductive BindFault where
  | malformedAddress
  | malformedPort
  | nullInHost
  | unknownHost
  | unresolvedHost
  | missingInterface
  | unsuitableAddress
  | unavailableAddress
  deriving DecidableEq, Repr

namespace BindFault

def message : BindFault → String
  | .malformedAddress => "invalid socket address"
  | .malformedPort => "invalid port value"
  | .nullInHost => "file name contained an unexpected NUL byte"
  | .unknownHost => "failed to lookup address information: Name or service not known"
  | .unresolvedHost =>
    "failed to lookup address information: Temporary failure in name resolution"
  | .missingInterface => "No such device (os error 19)"
  | .unsuitableAddress => "Invalid argument (os error 22)"
  | .unavailableAddress => "Cannot assign requested address (os error 99)"

def inspected (fault : BindFault) : String :=
  match fault with
  | .malformedAddress | .malformedPort | .nullInHost =>
    "Error \x7b kind: InvalidInput, message: " ++ Text.quoted fault.message ++ " \x7d"
  | .unknownHost | .unresolvedHost =>
    "Custom \x7b kind: Uncategorized, error: " ++ Text.quoted fault.message ++ " \x7d"
  | .missingInterface =>
    "Os \x7b code: 19, kind: Uncategorized, message: \"No such device\" \x7d"
  | .unsuitableAddress =>
    "Os \x7b code: 22, kind: InvalidInput, message: \"Invalid argument\" \x7d"
  | .unavailableAddress =>
    "Os \x7b code: 99, kind: AddrNotAvailable, message: \"Cannot assign requested address\" \x7d"

end BindFault

namespace SocketAddress

def isPort (text : List Char) : Bool :=
  let digits := if text.head? = some '+' then text.drop 1 else text
  match bounded? 65535 digits with
  | some (_, []) => true
  | _ => false

def splitPort? (text : List Char) : Option (List Char × List Char) :=
  match text.reverse.dropWhile (· ≠ ':') with
  | [] => none
  | _ :: host => some (host.reverse, (text.reverse.takeWhile (· ≠ ':')).reverse)

def ofHost (host : List Char) : Except BindFault SocketAddress :=
  if host.contains '\x00' then .error .nullInHost
  else
    match HostName.address? host with
    | some address => .ok address
    | none => .error (if HostName.isValid host then .unresolvedHost else .unknownHost)

def bindAddress (text : String) : Except BindFault SocketAddress :=
  match parse? text with
  | some address => .ok address
  | none =>
    match splitPort? text.toList with
    | none => .error .malformedAddress
    | some (host, port) => if isPort port then ofHost host else .error .malformedPort

/-- Why an address cannot be bound. Those of one link need its number; loopback's is 1. -/
def unboundReason? : SocketAddress → Option BindFault
  | .v4 _ _ => none
  | .v6 groups scope _ =>
    if groups = List.replicate 8 0 || groups.take 6 = [0, 0, 0, 0, 0, 0xFFFF] then none
    else if groups.head?.any (0xFF00 ≤ ·) then some .unsuitableAddress
    else if !HostName.isLinkLocal groups then some .unavailableAddress
    else if scope = 0 then some .unsuitableAddress
    else if scope = 1 then some .unavailableAddress
    else some .missingInterface

def bindFault? (text : String) : Option BindFault :=
  match bindAddress text with
  | .error fault => some fault
  | .ok address => address.unboundReason?

end SocketAddress

end Switchboard
