import LteNas.ElementValue.Call
import LteNas.Proofs.Element.Fronts
import LteNas.Proofs.Identity.DialledDigits

namespace LteNas

/-!
# Emergency numbers

Both lists of emergency numbers keep every record that is complete, whatever keys it
dials.  Where the octets end inside a record, what is there of it is reported, once
and from its first octet to the end of the element.
-/

open ElementValue

/-- The services that an emergency number reaches. -/
structure EmergencyCategory where
  police : Bool
  ambulance : Bool
  fireBrigade : Bool
  marineGuard : Bool
  mountainRescue : Bool
  /-- The bits in front of the services, which mean nothing. -/
  spare : Fin 8

namespace EmergencyCategory

def octet (category : EmergencyCategory) : UInt8 :=
  UInt8.ofNat
    (category.spare * 32 + category.mountainRescue.toNat * 16 + category.marineGuard.toNat * 8 +
      category.fireBrigade.toNat * 4 + category.ambulance.toNat * 2 + category.police.toNat)

/-- What is shown of the services. -/
def value (category : EmergencyCategory) : Value :=
  .fields
    [ ⟨"Police", .flag category.police⟩,
      ⟨"Ambulance", .flag category.ambulance⟩,
      ⟨"Fire Brigade", .flag category.fireBrigade⟩,
      ⟨"Marine Guard", .flag category.marineGuard⟩,
      ⟨"Mountain Rescue", .flag category.mountainRescue⟩ ]

theorem octet_tells :
    ∀ (police ambulance fireBrigade marineGuard mountainRescue : Bool) (spare : Fin 8),
      let octet := octet ⟨police, ambulance, fireBrigade, marineGuard, mountainRescue, spare⟩
      bit octet 1 = police ∧ bit octet 2 = ambulance ∧ bit octet 3 = fireBrigade ∧
        bit octet 4 = marineGuard ∧ bit octet 5 = mountainRescue := by
  decide +kernel

theorem emergencyCategory_octet
    (category : EmergencyCategory) :
    emergencyCategory category.octet = category.value := by
  obtain ⟨police, ambulance, fireBrigade, marineGuard, mountainRescue, spare⟩ := category
  obtain ⟨first, second, third, fourth, fifth⟩ :=
    octet_tells police ambulance fireBrigade marineGuard mountainRescue spare
  simp only [emergencyCategory, flagField, first, second, third, fourth, fifth, value]

end EmergencyCategory

/-- An emergency number: keys to dial, and the services that they reach. -/
structure EmergencyNumber where
  category : EmergencyCategory
  dialled : List Char
  areKeys : ∀ key ∈ dialled, key ∈ DialledDigits.keys
  dialled_lt : (DialledDigits.pack (dialled.map DialledDigits.nibble)).length < 255

namespace EmergencyNumber

/-- The octets behind the length. -/
def body (number : EmergencyNumber) : List UInt8 :=
  number.category.octet :: DialledDigits.pack (number.dialled.map DialledDigits.nibble)

/-- The octets of a record, part by part. -/
def parts (number : EmergencyNumber) : List (List UInt8) :=
  [bigEndianOctets 1 number.body.length, number.body]

def octets (number : EmergencyNumber) : List UInt8 :=
  number.parts.flatten

/-- What is shown of a record. -/
def value (number : EmergencyNumber) : Value :=
  .fields
    [ ⟨"Emergency Service Category", number.category.value⟩,
      ⟨"Emergency Number", .digits (String.ofList number.dialled)⟩ ]

theorem body_lt
    (number : EmergencyNumber) :
    number.body.length < 256 :=
  Nat.succ_lt_succ number.dialled_lt

theorem octets_ne_nil
    (number : EmergencyNumber) :
    number.octets ≠ [] :=
  List.cons_ne_nil _ _

end EmergencyNumber

/-- The octets of a text of characters of seven bits. -/
def sevenBitOctets (text : String) : List UInt8 :=
  text.toList.map fun character => UInt8.ofNat character.toNat

/-- An emergency number: keys to dial, and the name of a service behind them. -/
structure ExtendedEmergencyNumber where
  dialled : List Char
  service : String
  areKeys : ∀ key ∈ dialled, key ∈ DialledDigits.keys
  dialled_lt : (DialledDigits.pack (dialled.map DialledDigits.nibble)).length < 256
  isSevenBit : ∀ character ∈ service.toList, character.toNat < 128
  service_lt : (sevenBitOctets service).length < 256

namespace ExtendedEmergencyNumber

/-- The octets of the keys. -/
def number (record : ExtendedEmergencyNumber) : List UInt8 :=
  DialledDigits.pack (record.dialled.map DialledDigits.nibble)

/-- The octets of a record, part by part. -/
def parts (record : ExtendedEmergencyNumber) : List (List UInt8) :=
  [ bigEndianOctets 1 record.number.length,
    record.number,
    bigEndianOctets 1 (sevenBitOctets record.service).length,
    sevenBitOctets record.service ]

def octets (record : ExtendedEmergencyNumber) : List UInt8 :=
  record.parts.flatten

/-- What is shown of a record. -/
def value (record : ExtendedEmergencyNumber) : Value :=
  .fields
    [ ⟨"Emergency Number", .digits (String.ofList record.dialled)⟩,
      textField "Sub-services" record.service ]

theorem octets_ne_nil
    (record : ExtendedEmergencyNumber) :
    record.octets ≠ [] :=
  List.cons_ne_nil _ _

end ExtendedEmergencyNumber

/-- The finding about octets at the end that are not all of the record called `label`. -/
def tailFinding (label : String) (base : Nat) (whole tail : List UInt8) : List Diagnostic :=
  if tail = [] then []
  else [⟨.outOfBounds label, ⟨base + whole.length, base + (whole ++ tail).length⟩⟩]

theorem tailFinding_eq
    (label : String)
    (base : Nat)
    (whole tail : List UInt8) :
    tailFinding label base whole tail =
      if tail = [] then [] else [(Window.ofOctets (whole ++ tail) base).cutOff label tail] := by
  rw [tailFinding, Window.ofOctets_cutOff]

namespace ElementValue

open Reader

/-- A text of characters of seven bits is read back. -/
theorem sevenBitText_sevenBitOctets
    {text : String}
    (isSevenBit : ∀ character ∈ text.toList, character.toNat < 128) :
    sevenBitText (sevenBitOctets text) = text := by
  have readBack (character : Char) (member : character ∈ text.toList) :
      Char.ofNat (UInt8.ofNat character.toNat &&& 0x7F).toNat = character := by
    have small : character.toNat < 128 := isSevenBit character member
    have code_eq : (UInt8.ofNat character.toNat &&& 0x7F).toNat = character.toNat :=
      calc (UInt8.ofNat character.toNat &&& 0x7F).toNat
        _ = (UInt8.ofNat character.toNat).toNat % 2 ^ 7 := lowBits_toNat 7 rfl _
        _ = character.toNat := by rw [UInt8.toNat_ofNat']; omega
    rw [code_eq, Char.ofNat_toNat]
  have characters_eq :=
    calc (sevenBitOctets text).map fun octet => Char.ofNat (octet &&& 0x7F).toNat
      _ = text.toList.map fun character =>
          Char.ofNat (UInt8.ofNat character.toNat &&& 0x7F).toNat := List.map_map
      _ = text.toList.map id := List.map_congr_left readBack
      _ = text.toList := List.map_id _
  rw [sevenBitText, characters_eq, String.ofList_toList]

theorem readEmergencyNumber_readsParts
    (number : EmergencyNumber) :
    readEmergencyNumber.ReadsParts number.parts number.value := by
  have notEmpty : number.body.length ≠ 0 :=
    Nat.succ_ne_zero _
  apply (number_readsParts number.body_lt).bind
  rw [if_neg notEmpty]
  apply inner_readsParts rfl
  intro window shape
  simp only [Window.peek?, shape, EmergencyNumber.body, List.head?_cons, Option.getD_some,
    List.drop_succ_cons, List.drop_zero, number.category.emergencyCategory_octet,
    DialledDigits.text_packKeys number.areKeys]
  rfl

theorem readExtendedEmergencyNumber_readsParts
    (record : ExtendedEmergencyNumber) :
    readExtendedEmergencyNumber.ReadsParts record.parts record.value := by
  have value_eq :
      record.value =
        .fields
          [ ⟨"Emergency Number", .digits (DialledDigits.text record.number)⟩,
            textField "Sub-services" (sevenBitText (sevenBitOctets record.service)) ] := by
    rw [ExtendedEmergencyNumber.number, DialledDigits.text_packKeys record.areKeys,
      sevenBitText_sevenBitOctets record.isSevenBit]
    rfl
  rw [value_eq]
  apply (number_readsParts record.dialled_lt).bind
  apply (octets_readsParts rfl).bind
  apply (number_readsParts record.service_lt).bind
  exact (octets_readsParts rfl).returning _

/-- What is shown of numbers behind the octet that tells where they hold. -/
def extendedNumbersValue (validity : UInt8) (records : List ExtendedEmergencyNumber) : Value :=
  .fields
    [ ⟨"Extended Emergency Number List Validity",
        codedBit validity 1
          "Valid only in the PLMN from which this IE is received"
          "Valid in the country of the PLMN from which this IE is received"⟩,
      ⟨"Emergency numbers", .list (records.map ExtendedEmergencyNumber.value)⟩ ]

theorem emergencyNumbers_of_front
    {next : EmergencyNumber}
    {tail : List UInt8}
    (numbers : List EmergencyNumber)
    (front : IsProperFront tail next.octets)
    (scope : Scope)
    (base : Nat) :
    let whole := numbers.flatMap EmergencyNumber.octets
    emergencyNumbers scope (.ofOctets (whole ++ tail) base) =
      ⟨.ok (.list (numbers.map EmergencyNumber.value),
          (Window.ofOctets (whole ++ tail) base).exhaust),
        tailFinding "Emergency number information" base whole tail,
        scope.containerType⟩ := by
  intro whole
  have shape :
      (Window.ofOctets (whole ++ tail) base).rest =
        numbers.flatMap EmergencyNumber.octets ++ tail :=
    rfl
  have kept :=
    completeOnes_keeps (fun number _ => (readEmergencyNumber_readsParts number).parses)
      (fun number (_ : number ∈ numbers) => number.octets_ne_nil)
      ((readEmergencyNumber_readsParts next).fails_of_front front)
      "Emergency number information" shape
  rw [emergencyNumbers, reporting, bind_eq_of_ok kept, tailFinding_eq]
  rfl

theorem extendedEmergencyNumbers_of_front
    {next : ExtendedEmergencyNumber}
    {tail : List UInt8}
    (validity : UInt8)
    (records : List ExtendedEmergencyNumber)
    (front : IsProperFront tail next.octets)
    (scope : Scope)
    (base : Nat) :
    let whole := validity :: records.flatMap ExtendedEmergencyNumber.octets
    extendedEmergencyNumbers scope (.ofOctets (whole ++ tail) base) =
      ⟨.ok (extendedNumbersValue validity records,
          (Window.ofOctets (whole ++ tail) base).exhaust),
        tailFinding "Extended emergency number information" base whole tail,
        scope.containerType⟩ := by
  intro whole
  have first :
      octet (Window.ofOctets (whole ++ tail) base) =
        .ok (validity, (Window.ofOctets (whole ++ tail) base).advance 1) :=
    octet_parses validity _ _ rfl
  have behindFirst : 1 ≤ (Window.ofOctets (whole ++ tail) base).remaining :=
    Nat.succ_pos _
  have shape :
      ((Window.ofOctets (whole ++ tail) base).advance 1).rest =
        records.flatMap ExtendedEmergencyNumber.octets ++ tail :=
    rfl
  have kept :=
    completeOnes_keeps (fun record _ => (readExtendedEmergencyNumber_readsParts record).parses)
      (fun record (_ : record ∈ records) => record.octets_ne_nil)
      ((readExtendedEmergencyNumber_readsParts next).fails_of_front front)
      "Extended emergency number information" shape
  rw [Window.advance_cutOff behindFirst, Window.advance_exhaust behindFirst] at kept
  rw [extendedEmergencyNumbers, reporting, bind_eq_of_ok first, bind_eq_of_ok kept, tailFinding_eq]
  rfl

/--
A list of emergency numbers shows all records that are complete, in order.  Octets
behind them that are a front of a further record are reported over exactly these
octets; where there are none, nothing is.
-/
theorem emergencyLists_keep
    (scope : Scope)
    (base : Nat) :
    (∀ (numbers : List EmergencyNumber) (next : EmergencyNumber) (tail : List UInt8),
        IsProperFront tail next.octets →
          let whole := numbers.flatMap EmergencyNumber.octets
          emergencyNumbers scope (.ofOctets (whole ++ tail) base) =
            ⟨.ok (.list (numbers.map EmergencyNumber.value),
                (Window.ofOctets (whole ++ tail) base).exhaust),
              tailFinding "Emergency number information" base whole tail,
              scope.containerType⟩) ∧
      ∀ (validity : UInt8) (records : List ExtendedEmergencyNumber)
          (next : ExtendedEmergencyNumber) (tail : List UInt8),
        IsProperFront tail next.octets →
          let whole := validity :: records.flatMap ExtendedEmergencyNumber.octets
          extendedEmergencyNumbers scope (.ofOctets (whole ++ tail) base) =
            ⟨.ok (extendedNumbersValue validity records,
                (Window.ofOctets (whole ++ tail) base).exhaust),
              tailFinding "Extended emergency number information" base whole tail,
              scope.containerType⟩ :=
  ⟨fun numbers _ _ front => emergencyNumbers_of_front numbers front scope base,
    fun validity records _ _ front =>
      extendedEmergencyNumbers_of_front validity records front scope base⟩

/-- The police is reached by three keys. -/
def EmergencyNumber.threeKeys : EmergencyNumber where
  category := ⟨true, false, false, false, false, Fin.last 7⟩
  dialled := ['1', '1', '2']
  areKeys := by
    simp [DialledDigits.keys]
  dialled_lt := by
    decide

/-- An ambulance is reached by six keys. -/
def EmergencyNumber.sixKeys : EmergencyNumber where
  category := ⟨false, true, false, false, false, Fin.last 7⟩
  dialled := ['1', '1', '2', '3', '*', '#']
  areKeys := by
    simp [DialledDigits.keys]
  dialled_lt := by
    decide

/-- Three keys reach a service that has a name. -/
def ExtendedEmergencyNumber.named : ExtendedEmergencyNumber where
  dialled := ['9', '1', '1']
  service := "fire"
  areKeys := by
    simp [DialledDigits.keys]
  dialled_lt := by
    decide
  isSevenBit := by
    simp
  service_lt := by
    decide

/-- Neither keys nor a service. -/
def ExtendedEmergencyNumber.blank : ExtendedEmergencyNumber where
  dialled := []
  service := ""
  areKeys := by
    simp
  dialled_lt := by
    decide
  isSevenBit := by
    simp
  service_lt := by
    decide

/-- A whole record with three octets of another, and two whole ones with all of one but its name. -/
theorem emergencyLists_keep_threeKeys :
    IsProperFront [0x04, 0xE2, 0x11] EmergencyNumber.sixKeys.octets ∧
      IsProperFront [0x02, 0x19, 0xF1, 0x04] ExtendedEmergencyNumber.named.octets ∧
      ∀ scope : Scope,
        emergencyNumbers scope (.ofOctets [0x03, 0xE1, 0x11, 0xF2, 0x04, 0xE2, 0x11] 7) =
            ⟨.ok (.list [EmergencyNumber.threeKeys.value], ⟨7, 7, []⟩),
              [⟨.outOfBounds "Emergency number information", ⟨11, 14⟩⟩],
              scope.containerType⟩ ∧
          extendedEmergencyNumbers scope
              (.ofOctets
                [ 0x01,
                  0x02, 0x19, 0xF1, 0x04, 0x66, 0x69, 0x72, 0x65,
                  0x00, 0x00,
                  0x02, 0x19, 0xF1, 0x04 ]
                7) =
            ⟨.ok
                (extendedNumbersValue 0x01
                    [ExtendedEmergencyNumber.named, ExtendedEmergencyNumber.blank],
                  ⟨7, 15, []⟩),
              [⟨.outOfBounds "Extended emergency number information", ⟨18, 22⟩⟩],
              scope.containerType⟩ := by
  have front : IsProperFront [0x04, 0xE2, 0x11] EmergencyNumber.sixKeys.octets :=
    ⟨by decide, by decide⟩
  have extendedFront :
      IsProperFront [0x02, 0x19, 0xF1, 0x04] ExtendedEmergencyNumber.named.octets :=
    ⟨by decide, by decide⟩
  refine ⟨front, extendedFront, fun scope => ?_⟩
  obtain ⟨keeps, extendedKeeps⟩ := emergencyLists_keep scope 7
  exact ⟨keeps [EmergencyNumber.threeKeys] _ _ front,
    extendedKeeps 0x01 [ExtendedEmergencyNumber.named, ExtendedEmergencyNumber.blank] _ _
      extendedFront⟩

end ElementValue

end LteNas
