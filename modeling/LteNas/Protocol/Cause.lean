namespace LteNas

/-!
# Causes

The reasons that a network or a terminal gives for a refusal.
-/

namespace Cause

/-- The name of a cause that has none. -/
def unlisted : String :=
  "Unknown"

def mobilityName (code : UInt8) : String :=
  match code.toNat with
  | 2 => "IMSI unknown in HSS"
  | 3 => "Illegal UE"
  | 5 => "IMEI not accepted"
  | 6 => "Illegal ME"
  | 7 => "EPS services not allowed"
  | 8 => "EPS services and non-EPS services not allowed"
  | 9 => "UE identity cannot be derived by the network"
  | 10 => "Implicitly detached"
  | 11 => "PLMN not allowed"
  | 12 => "Tracking Area not allowed"
  | 13 => "Roaming not allowed in this tracking area"
  | 14 => "EPS services not allowed in this PLMN"
  | 15 => "No Suitable Cells In tracking area"
  | 16 => "MSC temporarily not reachable"
  | 17 => "Network failure"
  | 18 => "CS domain not available"
  | 19 => "ESM failure"
  | 20 => "MAC failure"
  | 21 => "Synch failure"
  | 22 => "Congestion"
  | 23 => "UE security capabilities mismatch"
  | 24 => "Security mode rejected, unspecified"
  | 25 => "Not authorized for this CSG"
  | 26 => "Non-EPS authentication unacceptable"
  | 31 => "Redirection to 5GCN required"
  | 35 => "Requested service option not authorized in this PLMN"
  | 39 => "CS service temporarily not available"
  | 40 => "No EPS bearer context activated"
  | 42 => "Severe network failure"
  | 78 => "PLMN not allowed to operate at the present UE location"
  | 95 => "Semantically incorrect message"
  | 96 => "Invalid mandatory information"
  | 97 => "Message type non-existent or not implemented"
  | 98 => "Message type not compatible with the protocol state"
  | 99 => "Information element non-existent or not implemented"
  | 100 => "Conditional IE error"
  | 101 => "Message not compatible with the protocol state"
  | 111 => "Protocol error, unspecified"
  | _ => unlisted

def sessionName (code : UInt8) : String :=
  match code.toNat with
  | 8 => "Operator Determined Barring"
  | 26 => "Insufficient resources"
  | 27 => "Missing or unknown APN"
  | 28 => "Unknown PDN type"
  | 29 => "User authentication failed"
  | 30 => "Request rejected by Serving GW or PDN GW"
  | 31 => "Request rejected, unspecified"
  | 32 => "Service option not supported"
  | 33 => "Requested service option not subscribed"
  | 34 => "Service option temporarily out of order"
  | 35 => "PTI already in use"
  | 36 => "Regular deactivation"
  | 37 => "EPS QoS not accepted"
  | 38 => "Network failure"
  | 39 => "Reactivation requested"
  | 41 => "Semantic error in the TFT operation"
  | 42 => "Syntactical error in the TFT operation"
  | 43 => "Invalid EPS bearer identity"
  | 44 => "Semantic errors in packet filter(s)"
  | 45 => "Syntactical errors in packet filter(s)"
  | 47 => "PTI mismatch"
  | 49 => "Last PDN disconnection not allowed"
  | 50 => "PDN type IPv4 only allowed"
  | 51 => "PDN type IPv6 only allowed"
  | 52 => "Single address bearers only allowed"
  | 53 => "ESM information not received"
  | 54 => "PDN connection does not exist"
  | 55 => "Multiple PDN connections for a given APN not allowed"
  | 56 => "Collision with network initiated request"
  | 57 => "PDN type IPv4v6 only allowed"
  | 58 => "PDN type non IP only allowed"
  | 59 => "Unsupported QCI value"
  | 60 => "Bearer handling not supported"
  | 61 => "PDN type Ethernet only allowed"
  | 65 => "Maximum number of EPS bearers reached"
  | 66 => "Requested APN not supported in current RAT and PLMN combination"
  | 81 => "Invalid PTI value"
  | 95 => "Semantically incorrect message"
  | 96 => "Invalid mandatory information"
  | 97 => "Message type non-existent or not implemented"
  | 98 => "Message type not compatible with the protocol state"
  | 99 => "Information element non-existent or not implemented"
  | 100 => "Conditional IE error"
  | 101 => "Message not compatible with the protocol state"
  | 111 => "Protocol error, unspecified"
  | 112 => "APN restriction value incompatible with active EPS bearer context"
  | 113 => "Multiple accesses to a PDN connection not allowed"
  | _ => unlisted

end Cause

end LteNas
