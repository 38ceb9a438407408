import NeuroLink.QueryReplies

/-!
How ready the network is. The port's own report is used where there is one, else the default
interface of the network stack; either way the state is the last of a chain of stages that
was reached.
-/

namespace NeuroLink.NetworkManager

open CText QueryReplies

/-- `struct neuro_network_status`. -/
structure NetworkStatus where
  state : NetworkState
  ifacePresent : Bool
  ifaceUp : Bool
  addressReady : Bool
  transportReady : Bool
  ifindex : Int
  ipv4Addr : Text

/-- `struct neuro_unit_port_network_status`. -/
structure PortNetworkStatus where
  ifaceUp : Bool
  linkReady : Bool
  ifindex : Int
  ifaceName : Text
  ipv4Addr : Text

/-- What the network stack shows of its default interface; the address is there twice
optional, as it may be missing or not be printable. -/
structure Interface where
  index : Int
  up : Bool
  address : Option (Option Text)

/-- The port reports, or fails to, or there is nothing to ask but the network stack. -/
inductive Observation where
  | reported (status : PortNetworkStatus)
  | unreported
  | stack (iface : Option Interface)

/-- `transport_prereq_ready`. -/
def transportPrereqReady (transportEndpoint : Text) : Bool :=
  transportEndpoint.isEmpty || (lit "tcp/").isPrefixOf transportEndpoint

/-- `port_status_has_ipv4`. -/
def portStatusHasIpv4 (status : PortNetworkStatus) : Bool :=
  !status.ipv4Addr.isEmpty && status.ipv4Addr ≠ lit "no-ipv4"

/-- `status_init_empty`. -/
def statusInitEmpty : NetworkStatus :=
  ⟨.down, false, false, false, false, 0, lit "no-ipv4"⟩

/-- The last stages, which both ways share: the address is known, the transport may be. -/
def withAddress (transportEndpoint ipv4 : Text) (status : NetworkStatus) : NetworkStatus :=
  let addressed :=
    { status with addressReady := true, state := .addressReady, ipv4Addr := ipv4.take 15 }
  if !transportPrereqReady transportEndpoint then { addressed with state := .failed }
  else { addressed with transportReady := true, state := .ready }

/-- `collect_status_from_port` with a status. -/
def collectStatusFromPort (transportEndpoint : Text) (port : PortNetworkStatus) :
    NetworkStatus :=
  let present := decide (port.ifindex > 0) || port.ifaceUp || port.linkReady ||
    !port.ifaceName.isEmpty || portStatusHasIpv4 port
  let status := { statusInitEmpty with ifacePresent := present, ifindex := port.ifindex }
  if !present then status
  else if !port.ifaceUp then { status with state := .adapterReady }
  else
    let status := { status with ifaceUp := true, state := .linkReady }
    if !port.linkReady || !portStatusHasIpv4 port then status
    else withAddress transportEndpoint port.ipv4Addr status

/-- `neuro_network_manager_collect_status`. -/
def collectStatus (transportEndpoint : Text) : Observation → NetworkStatus
  | .reported port => collectStatusFromPort transportEndpoint port
  | .unreported => statusInitEmpty
  | .stack none => statusInitEmpty
  | .stack (some iface) =>
      let status := { statusInitEmpty with
        ifacePresent := true, ifindex := iface.index, state := .adapterReady }
      if !iface.up then status
      else
        let status := { status with ifaceUp := true, state := .linkReady }
        match iface.address with
        | none => status
        | some shown =>
            withAddress transportEndpoint (shown.getD (lit "<format-failed>")) status

/-- `neuro_network_manager_is_ready`. -/
def isReady (status : NetworkStatus) : Bool := status.state = .ready

end NeuroLink.NetworkManager
