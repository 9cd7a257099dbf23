import LteNas.Proofs.Element.Entering
import LteNas.Proofs.Element.Fronts
import LteNas.Proofs.ElementValue.Connecting
import LteNas.Proofs.Text.Utf8

namespace LteNas

/-!
# Labels of access points

The name of an access point is accepted exactly if its labels fill the element.  The
labels of a name are found again between its points, empty ones and those of many
octets included, unless one of them has a point of its own.
-/

namespace ElementValue

open Reader Text

/-- The octets are those of labels. -/
def AreLabels (labels : List (List UInt8)) (octets : List UInt8) : Prop :=
  IsTiledBy (fun label => label.length < 256) sizedOctets labels octets

/-- A label in front of which stands the length of more octets than there are is refused. -/
theorem readAccessPointLabel_fails
    {label tail : List UInt8}
    (fits : label.length < 256)
    (started : tail ≠ [])
    (front : IsProperFront tail (sizedOctets label)) :
    readAccessPointLabel.Fails tail (.invalidValue (.labelOverrun label.length)) := by
  obtain ⟨others, rfl, few⟩ := front.exists_of_sized started
  have blamed :
      ((Reader.octets label.length).blaming (.invalidValue (.labelOverrun label.length))).Fails
        others (.invalidValue (.labelOverrun label.length)) := by
    intro window shape
    have tooFew : ¬ label.length ≤ window.remaining := by
      rw [Window.remaining, shape]
      omega
    rw [blaming, Reader.octets, ofRead, Window.take_eq, if_neg tooFew]
    rfl
  exact (number_parses fits).bind_fails blamed.bind

theorem accessPointName_refuses
    {labels : List (List UInt8)}
    {last tail octets : List UInt8}
    (cutOff : EndsInside (fun label => label.length < 256) sizedOctets labels last tail octets) :
    OctetDecoder.Refuses accessPointName octets (.invalidValue (.labelOverrun last.length)) := by
  have fails :=
    every_fails (fun _ => readAccessPointLabel_parses) (fun label _ => sizedOctets_ne_nil label)
      cutOff (readAccessPointLabel_fails cutOff.lastIsGood cutOff.started cutOff.front)
  exact fails.bind.decoder_refuses

/--
A name is accepted exactly if labels fill its octets, and shows them with points
between them.  All other octets are refused without a finding: the last label claims
more of them than there are.  Labels without a point, of which there is at least one,
are what stands between the points of the name.
-/
theorem accessPointName_accepts
    (octets : List UInt8) :
    (∀ (scope : Scope) (base : Nat),
        (∃ found, (accessPointName scope (.ofOctets octets base)).outcome = .ok found) ↔
          ∃ labels, AreLabels labels octets) ∧
      (∀ labels, AreLabels labels octets →
        OctetDecoder.Reads accessPointName octets
          (.text (".".intercalate (labels.map readUtf8)))) ∧
      ((∀ labels, ¬ AreLabels labels octets) →
        ∃ labels last tail,
          EndsInside (fun label => label.length < 256) sizedOctets labels last tail octets ∧
            OctetDecoder.Refuses accessPointName octets
              (.invalidValue (.labelOverrun last.length))) ∧
      ∀ labels : List String,
        labels ≠ [] →
          (∀ label ∈ labels, '.' ∉ label.toList) →
            AreLabels (labels.map Text.utf8Octets) octets →
              let name := ".".intercalate labels
              OctetDecoder.Reads accessPointName octets (.text name) ∧
                (name.split '.').toList.map String.Slice.copy = labels := by
  have framed :=
    sizedOctets_isFramed.isTiledBy_or_endsInside (fun label _ => sizedOctets_ne_nil label) octets
  have reads {labels : List (List UInt8)} (tiled : AreLabels labels octets) :
      OctetDecoder.Reads accessPointName octets
        (.text (".".intercalate (labels.map readUtf8))) := by
    rw [tiled.octets_eq]
    exact accessPointName_reads tiled.areGood
  refine ⟨fun scope base => ⟨?_, ?_⟩, fun _ => reads, ?_, ?_⟩
  · intro accepted
    exact framed.resolve_right fun ⟨_, _, _, cutOff⟩ =>
      (accessPointName_refuses cutOff).not_ok scope base accepted
  · rintro ⟨labels, tiled⟩
    exact (reads tiled).ok scope base
  · intro none
    obtain ⟨labels, last, tail, cutOff⟩ :=
      framed.resolve_left fun ⟨labels, tiled⟩ => none labels tiled
    exact ⟨labels, last, tail, cutOff, accessPointName_refuses cutOff⟩
  · intro labels some noPoint tiled
    have texts : (labels.map Text.utf8Octets).map readUtf8 = labels := by
      rw [List.map_map]
      exact (List.map_congr_left fun label _ => readUtf8_utf8Octets label).trans (List.map_id _)
    have shown := reads tiled
    rw [texts] at shown
    refine ⟨shown, ?_⟩
    have split := String.toList_split_intercalate noPoint
    rwa [if_neg some] at split

/-- An empty label in front of two others, or of one that lacks an octet. -/
theorem accessPointName_accepts_three :
    let labels := ["", "é", "net"]
    let octets : List UInt8 := [0x00, 0x02, 0xC3, 0xA9, 0x03, 0x6E, 0x65, 0x74]
    let cut : List UInt8 := [0x00, 0x03, 0x6E, 0x65]
    labels ≠ [] ∧
      (∀ label ∈ labels, '.' ∉ label.toList) ∧
      AreLabels (labels.map Text.utf8Octets) octets ∧
      OctetDecoder.Reads accessPointName octets (.text ".é.net") ∧
      (".é.net".split '.').toList.map String.Slice.copy = labels ∧
      (∀ labels, ¬ AreLabels labels cut) ∧
      OctetDecoder.Refuses accessPointName cut (.invalidValue (.labelOverrun 3)) := by
  intro labels octets cut
  have some : labels ≠ [] :=
    List.cons_ne_nil _ _
  have noPoint : ∀ label ∈ labels, '.' ∉ label.toList := by
    decide
  have tiled : AreLabels (labels.map Text.utf8Octets) octets :=
    ⟨by decide +kernel, by decide +kernel⟩
  have name_eq : ".".intercalate labels = ".é.net" := by
    decide +kernel
  obtain ⟨-, -, -, splits⟩ := accessPointName_accepts octets
  obtain ⟨accepts, -, refuses, -⟩ := accessPointName_accepts cut
  obtain ⟨shown, split⟩ := splits labels some noPoint tiled
  rw [name_eq] at shown split
  have failed :
      (accessPointName .unlimited (.ofOctets cut 0)).outcome =
        .error (.invalidValue (.labelOverrun 3)) := by
    rfl
  have none : ∀ labels, ¬ AreLabels labels cut := by
    intro labels tiled
    obtain ⟨found, accepted⟩ := (accepts .unlimited 0).mpr ⟨labels, tiled⟩
    rw [failed] at accepted
    cases accepted
  obtain ⟨whole, last, tail, -, refused⟩ := refuses none
  rw [refused.fault_eq failed] at refused
  exact ⟨some, noPoint, tiled, shown, split, none, refused⟩

end ElementValue

end LteNas
