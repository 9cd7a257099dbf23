import LteNas.ElementValue.Generic
import LteNas.Protocol.Cause

namespace LteNas

/-!
# Registration values

The kinds and results of attaching, updating, detaching and asking for service,
and what goes with them.
-/

namespace ElementValue

/-- Why mobility management refuses. -/
def mobilityCause : OctetDecoder :=
  Reader.decoder do
    let code ← Reader.soleOctet
    return .coded code.toNat (Cause.mobilityName code)

/-- What a refused terminal may still use. -/
def extendedMobilityCause : NibbleDecoder := fun nibble =>
  .fields
    [ ⟨"NB-IoT allowed", .flag (!bit nibble 3)⟩,
      flagField "EPS optimization info" nibble 2,
      ⟨"E-UTRAN allowed", .flag (!bit nibble 1)⟩ ]

/-! ## Attaching -/

def attachType : NibbleDecoder := fun nibble =>
  codedBy
    [ (1, "EPS attach"),
      (2, "Combined EPS/IMSI attach"),
      (6, "EPS emergency attach"),
      (7, "Reserved") ]
    "EPS attach"
    (nibble &&& 0x07)

def attachResult : NibbleDecoder := fun nibble =>
  codedBy
    [ (1, "EPS only"),
      (2, "Combined EPS/IMSI attach") ]
    "Reserved"
    (nibble &&& 0x07)

/-! ## Updating -/

def updateType : NibbleDecoder := fun nibble =>
  .fields
    [ ⟨"Active flag",
        codedBit nibble 4
          "Bearer establishment requested"
          "No bearer establishment requested"⟩,
      ⟨"EPS update type value",
        codedBy
          [ (0, "TA updating"),
            (1, "Combined TA/LA updating"),
            (2, "Combined TA/LA updating with IMSI attach"),
            (3, "Periodic updating") ]
          "Reserved"
          (nibble &&& 0x07)⟩ ]

def updateResult : NibbleDecoder := fun nibble =>
  codedBy
    [ (0, "TA updated"),
      (1, "Combined TA/LA updated"),
      (4, "TA updated and ISR activated"),
      (5, "Combined TA/LA updated and ISR activated") ]
    "Reserved"
    (nibble &&& 0x07)

/-- What else a terminal asks for in an update. -/
def additionalUpdateType : NibbleDecoder := fun nibble =>
  .fields
    [ flagField "Signalling active flag (SAF)" nibble 4,
      ⟨"Preferred CIoT network behaviour",
        codedBy
          [ (0, "No additional information"),
            (1, "Control plane CIoT EPS optimization"),
            (2, "User plane CIoT EPS optimization") ]
          "Reserved"
          (nibble >>> 1 &&& 0x03)⟩,
      ⟨"Additional update type value (AUTV)",
        codedBit nibble 1 "SMS only" "No additional information"⟩ ]

/-- What else an update brought about. -/
def additionalUpdateResult : NibbleDecoder := fun nibble =>
  codedBy
    [ (0, "No additional information"),
      (1, "CS Fallback not preferred"),
      (2, "SMS only") ]
    "Reserved"
    (nibble &&& 0x03)

/-! ## Detaching -/

/-- A detach type whose kinds are in a table. -/
def detachType (kinds : List (Nat × String)) : NibbleDecoder := fun nibble =>
  .fields
    [ ⟨"Switch off", codedBit nibble 4 "Switch off" "Normal detach"⟩,
      ⟨"Type of detach", codedBy kinds "Combined EPS/IMSI detach" (nibble &&& 0x07)⟩ ]

def uplinkDetachType : NibbleDecoder :=
  detachType
    [ (1, "EPS detach"),
      (2, "IMSI detach"),
      (3, "Combined EPS/IMSI detach") ]

/-- How the network detaches a terminal. -/
def downlinkDetachType : NibbleDecoder :=
  detachType
    [ (1, "Re-attach required"),
      (2, "Re-attach not required"),
      (3, "IMSI detach"),
      (6, "Reserved"),
      (7, "Reserved") ]

/-! ## Asking for service -/

/-- The service that a terminal asks for. -/
def serviceType : NibbleDecoder := fun nibble =>
  codedBy
    [ (0, "Mobile originating CS fallback or 1xCS fallback"),
      (1, "Mobile terminating CS fallback or 1xCS fallback"),
      (2, "Mobile originating CS fallback emergency call or 1xCS fallback emergency call"),
      (3, "Mobile originating CS fallback or 1xCS fallback"),
      (4, "Mobile originating CS fallback or 1xCS fallback"),
      (8, "Packet services via S1"),
      (9, "Packet services via S1"),
      (10, "Packet services via S1"),
      (11, "Packet services via S1") ]
    "Unused"
    nibble

/-- The service that a terminal asks for in the control plane. -/
def controlPlaneServiceType : NibbleDecoder := fun nibble =>
  .fields
    [ flagField "Active flag" nibble 4,
      ⟨"Control plane service type value",
        codedBy
          [ (0, "Mobile originating request"),
            (1, "Mobile terminating request") ]
          "Unused"
          (nibble &&& 0x07)⟩ ]

/-- The answer of a terminal to a fallback. -/
def fallbackResponse : NibbleDecoder := fun nibble =>
  codedBy
    [ (0, "CS fallback rejected by the UE"),
      (1, "CS fallback accepted by the UE") ]
    "Reserved"
    (nibble &&& 0x07)

/-- The state of the short message service. -/
def shortMessageStatus : NibbleDecoder := fun nibble =>
  codedBy
    [ (0, "SMS services not available"),
      (1, "SMS services not available in this PLMN"),
      (2, "Network failure"),
      (3, "Congestion") ]
    "Reserved"
    (nibble &&& 0x07)

/-- Whether a terminal may be redirected without security. -/
def redirectionPolicy : NibbleDecoder := fun nibble =>
  codedBit nibble 1
    "Unsecured redirection to GERAN or UTRAN not allowed"
    "Unsecured redirection to GERAN or UTRAN allowed"

def pagingRestrictions : List (Nat × String) :=
  [ (1, "All paging is restricted"),
    (2, "All paging is restricted except for voice service"),
    (3, "All paging is restricted except for specified PDN connection(s)"),
    (4, "All paging is restricted except for voice service and specified PDN connection(s)") ]

/-- The bearers that a paging restriction leaves out, where its kind names them. -/
def readPagedBearers (kind : UInt8) : Reader (List Field) :=
  if kind = 3 ∨ kind = 4 then do
    return [⟨"EPS bearer context(s) allowed to be paged", ← readBearerFlags⟩]
  else
    return []

/-- What a terminal need not be paged for; octets beyond the known ones are skipped. -/
def pagingRestriction : OctetDecoder :=
  Reader.decoder do
    let kind := lowNibble (← Reader.octet)
    let bearers ← readPagedBearers kind
    return .fields
      (⟨"Paging restriction type", codedBy pagingRestrictions "Reserved" kind⟩ :: bearers)

end ElementValue

end LteNas
