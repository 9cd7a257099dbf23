import LteNas.ElementValue.Identity

namespace LteNas

/-!
# Areas and networks

Location and tracking areas, lists of networks, and the list of tracking areas:
a sequence of partial lists, each with its own way to save octets.
-/

namespace ElementValue

/-- A location area: its network and its code. -/
def locationArea : OctetDecoder :=
  Reader.decoder do
    Reader.expectExactly 5
    let plmn ← readPlmn
    let code ← Reader.number 2
    return .fields
      [ ⟨"PLMN", .plmn plmn⟩,
        numberField "LAC" code ]

def networkList : OctetDecoder :=
  Reader.decoder do
    let length ← Reader.remaining
    if length % 3 ≠ 0 then
      Reader.fail (.lengthMismatch (length / 3 * 3) length)
    else
      return .list ((← Reader.every readPlmn).map .plmn)

/-- A tracking area in five octets. -/
def readTrackingArea : Reader TrackingArea := do
  let plmn ← readPlmn
  let code ← Reader.number 2
  return ⟨plmn, UInt16.ofNat code⟩

def trackingArea : OctetDecoder :=
  Reader.decoder do
    Reader.expectExactly 5
    return .trackingArea (← readTrackingArea)

/-! ## Lists of tracking areas -/

/-- How a partial list writes its areas. -/
inductive AreaCoding where
  /-- One network and any codes. -/
  | oneNetwork
  /-- One network, a first code, and the codes that follow it. -/
  | consecutive
  /-- Whole areas. -/
  | severalNetworks
  deriving Repr, DecidableEq

namespace AreaCoding

def ofCode? (code : UInt8) : Option AreaCoding :=
  match code.toNat with
  | 0 => some .oneNetwork
  | 1 => some .consecutive
  | 2 => some .severalNetworks
  | _ => none

def value : AreaCoding → Value
  | .oneNetwork =>
      .coded 0 "list of TACs belonging to one PLMN, with non-consecutive TAC values"
  | .consecutive =>
      .coded 1 "list of TACs belonging to one PLMN, with consecutive TAC values"
  | .severalNetworks =>
      .coded 2 "list of TAIs belonging to different PLMNs"

/-- Read as many of the declared areas as there are octets for. -/
def readAreas (declared : Nat) : AreaCoding → Reader (List TrackingArea)
  | .oneNetwork => do
      let plmn ← readPlmn
      let codes ← Reader.available declared (Reader.number 2)
      return codes.map fun code => ⟨plmn, UInt16.ofNat code⟩
  | .consecutive => do
      let plmn ← readPlmn
      let first ← Reader.number 2
      -- the code after the highest is zero
      return (List.range declared).map fun index =>
        ⟨plmn, UInt16.ofNat (first + index)⟩
  | .severalNetworks =>
      Reader.available declared readTrackingArea

end AreaCoding

/-- The number of the coding in the header of a partial list. -/
def areaCodingNumber (header : UInt8) : UInt8 :=
  header >>> 5 &&& 0x03

/-- The number of areas that the header of a partial list declares. -/
def declaredAreas (header : UInt8) : Nat :=
  (header &&& 0x1F).toNat + 1

def partialListValue
    (coding : AreaCoding)
    (declared : Nat)
    (areas : List TrackingArea) :
    Value :=
  .fields
    [ ⟨"Type of list", coding.value⟩,
      numberField "Number of elements" declared,
      ⟨"TAIs", .list (areas.map .trackingArea)⟩ ]

/-- Partial lists and what is wrong with the last of them. -/
structure AreaLists where
  items : List Value
  diagnostics : List Diagnostic

/-- Read at most `limit` partial lists; the first bad one is the last one. -/
def readAreaLists : (limit : Nat) → Window → AreaLists
  | 0, _ =>
      ⟨[], []⟩
  | limit + 1, window =>
      match window.octet with
      | .error _ =>
          ⟨[], []⟩
      | .ok (header, body) =>
          let code := areaCodingNumber header
          let declared := declaredAreas header
          match AreaCoding.ofCode? code with
          | none =>
              ⟨[.octets body.rest],
                [⟨.unknownTypeOfList code, window.remainingSpan⟩]⟩
          | some coding =>
              match coding.readAreas declared body with
              | .error _ =>
                  ⟨[],
                    [⟨.outOfBounds "Partial tracking area identity list",
                      window.remainingSpan⟩]⟩
              | .ok (areas, after) =>
                  let item := partialListValue coding declared areas
                  if areas.length < declared then
                    ⟨[item],
                      [⟨.wrongNumberOfElements declared areas.length,
                        window.remainingSpan⟩]⟩
                  else
                    let others := readAreaLists limit after
                    { others with items := item :: others.items }

/-- The partial lists that fill a window. -/
def readTrackingAreaList : Reader (Value × List Diagnostic) :=
  fun window =>
    let lists := readAreaLists window.remaining window
    .ok ((.list lists.items, lists.diagnostics), window.exhaust)

def trackingAreaList : OctetDecoder :=
  Reader.reporting readTrackingAreaList

end ElementValue

end LteNas
