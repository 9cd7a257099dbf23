import LteNas.ElementValue.Area
import LteNas.ElementValue.Capability
import LteNas.ElementValue.Time

namespace LteNas

/-!
# Security values

Keys are named, never sent, apart from the keys of broadcast positioning data.
-/

namespace ElementValue

/-- A key set and where its security context comes from. -/
def keySetIdentifier : NibbleDecoder := fun nibble =>
  .fields
    [ ⟨"Type of security context flag",
        codedBit nibble 4 "Mapped security context" "Native security context"⟩,
      ⟨"NAS key set identifier",
        codedBy [(7, "No key is available")] "Key set identifier" (nibble &&& 0x07)⟩ ]

/-- The number of a ciphering key of packet radio. -/
def cipheringKeyNumber : NibbleDecoder := fun nibble =>
  codedBy [(7, "No key is available")] "Key sequence number" (nibble &&& 0x07)

/-- The network asks for the equipment identity. -/
def equipmentIdentityRequest : NibbleDecoder := fun nibble =>
  codedBy
    [ (0, "IMEISV not requested"),
      (1, "IMEISV requested") ]
    "IMEISV not requested"
    (nibble &&& 0x07)

def selectedAlgorithms : OctetDecoder :=
  Reader.decoder do
    let octet ← Reader.soleOctet
    let ciphering := octet >>> 4 &&& 0x07
    let integrity := octet &&& 0x07
    return .fields
      [ ⟨"Type of ciphering algorithm",
          .coded ciphering.toNat (epsCipheringNames.getD ciphering.toNat "")⟩,
        ⟨"Type of integrity protection algorithm",
          .coded integrity.toNat (epsIntegrityNames.getD integrity.toNat "")⟩ ]

/-- A number that is used once. -/
def nonce : OctetDecoder :=
  Reader.decoder do
    return .number (← Reader.soleNumber 4)

def challengeParameter : OctetDecoder :=
  Reader.decoder do
    Reader.expectExactly 16
    return .octets (← Reader.rest)

/-- The response to a challenge, of four to sixteen octets. -/
def challengeResponse : OctetDecoder :=
  Reader.decoder do
    let length ← Reader.remaining
    if 4 ≤ length ∧ length ≤ 16 then
      return .octets (← Reader.rest)
    else
      Reader.fail (.invalidValue (.responseLength length))

/-! ## Keys of broadcast positioning data -/

/-- A ciphering data set: a key, its counter, what it opens, when and where. -/
def readCipheringDataSet : Reader (Value × List Diagnostic) := do
  let identifier ← Reader.number 2
  let key ← Reader.octets 16
  let counterLength ← Reader.octet
  let counter ← Reader.octets (counterLength &&& 0x1F).toNat
  let blocks ← Reader.number 4
  let time ← Reader.vector 5
  let duration ← Reader.number 2
  let areaLength ← Reader.number 1
  let areaWindow ← Reader.inner areaLength
  let lists := readAreaLists areaWindow.remaining areaWindow
  let date := dateText time[0] time[1] time[2]
  let start := s!"{date} {clockText time[3]}:{clockText time[4]} UTC"
  let parts :=
    [ numberField "Ciphering set ID" identifier,
      octetsField "Ciphering key" key,
      octetsField "c0" counter,
      numberField "E-UTRA posSIB types" blocks,
      textField "Validity start time" start,
      numberField "Validity duration (minutes)" duration,
      ⟨"Tracking area identity list", .list lists.items⟩ ]
  return (.fields parts, lists.diagnostics)

/-- The complaint about a data set that cannot be read. -/
def dataSetComplaint (run : RecordRun (Value × List Diagnostic)) : List Diagnostic :=
  match run.fault with
  | none =>
      []
  | some fault =>
      [⟨.malformedElement "Ciphering data set" fault.message, run.tail.remainingSpan⟩]

/-- Another number of data sets was found than declared. -/
def countComplaint (declared found : Nat) (span : Span) : List Diagnostic :=
  if found = declared then [] else [⟨.wrongNumberOfElements declared found, span⟩]

/-- The data sets that open broadcast positioning data; the first bad one is the last one. -/
def cipheringKeyData : OctetDecoder :=
  Reader.reporting fun start => do
    let (header, window) ← Reader.octet start
    let declared := (header &&& 0x1F).toNat
    let run := window.runAll readCipheringDataSet
    let sets := run.records.map Prod.fst
    let diagnostics :=
      run.records.flatMap Prod.snd ++ dataSetComplaint run ++
        countComplaint declared sets.length start.remainingSpan
    .ok ((.list sets, diagnostics), run.after)

end ElementValue

end LteNas
