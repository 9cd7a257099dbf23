import LteNas.Decode
import LteNas.Proofs.Catalogue.Grammar
import LteNas.Proofs.Element.Truncation

namespace LteNas

/-!
# Truncated bodies

The body of a message may end early.  What was whole in front of the cut is
decoded as it was, and where a mandatory element is lost the walk says which was
the first.  Only a request to detach without a direction is apart: its length
decides how it is read.
-/

/-- The body belongs to a message of one of the two protocols. -/
def MessageBody.IsShipped (body : MessageBody) : Prop :=
  (∃ message : MobilityMessage, body = message.body) ∨
    ∃ message : SessionMessage, body = message.body

theorem mobilityLabels_nodup
    (message : MobilityMessage) :
    ∀ catalogue ∈ message.body.catalogues, (catalogue.map ElementSpec.label).Nodup := by
  cases message <;> decide

theorem sessionLabels_nodup
    (message : SessionMessage) :
    ∀ catalogue ∈ message.body.catalogues, (catalogue.map ElementSpec.label).Nodup := by
  cases message <;> decide

/-- The labels of a catalogue tell its entries apart. -/
theorem Catalogue.IsShipped.labels_nodup
    {catalogue : Catalogue}
    (shipped : catalogue.IsShipped) :
    (catalogue.map ElementSpec.label).Nodup := by
  rcases shipped with ⟨message, member⟩ | ⟨message, member⟩
  · exact mobilityLabels_nodup message catalogue member
  · exact sessionLabels_nodup message catalogue member

namespace MessageBody

variable {body : MessageBody} {direction : Direction}

/-- A body is walked with the catalogue of a message. -/
theorem IsShipped.entries_isShipped
    (shipped : body.IsShipped)
    (direction : Direction)
    (window : Window) :
    (body.entries direction window).IsShipped := by
  have member := body.entries_mem_catalogues direction window
  rcases shipped with ⟨message, rfl⟩ | ⟨message, rfl⟩
  · exact .inl ⟨message, member⟩
  · exact .inr ⟨message, member⟩

/-- Only a request to detach has two shapes. -/
theorem IsShipped.eq_detachRequest
    {uplink downlink : Catalogue}
    (shipped : (byDirection uplink downlink).IsShipped) :
    byDirection uplink downlink = MobilityMessage.detachRequest.body := by
  rcases shipped with ⟨message, shape⟩ | ⟨message, shape⟩
  · cases message with
    | detachRequest =>
        exact shape
    | _ =>
        cases shape
  · cases message <;> cases shape

/-- Where the direction is known the octets do not decide how a body is read. -/
theorem entries_eq
    (shipped : body.IsShipped)
    (known : body = MobilityMessage.detachRequest.body → direction ≠ .unknown)
    (first second : Window) :
    body.entries direction first = body.entries direction second := by
  cases body with
  | catalogue entries =>
      rfl
  | byDirection uplink downlink =>
      cases direction with
      | uplink =>
          rfl
      | downlink =>
          rfl
      | unknown =>
          exact (known shipped.eq_detachRequest rfl).elim

/--
The first octets of a body are decoded to exactly those elements of the whole
body that end among them.  If one of the mandatory elements is not among these,
the walk stops at the first that is not, which its last diagnostic names.
-/
theorem walk_truncated
    (shipped : body.IsShipped)
    (scope : Scope)
    (known : body = MobilityMessage.detachRequest.body → scope.direction ≠ .unknown)
    (octets : List UInt8)
    (start count : Nat) :
    let whole := body.walk scope (.ofOctets octets start)
    let part := body.walk scope (.ofOctets (octets.take count) start)
    let entries := body.entries scope.direction (.ofOctets octets start)
    part.elements =
        (whole.elements.filter fun element => element.span.stop ≤ start + count) ∧
      ∀ missing,
        entries.firstMissing? part.elements = some missing → part.StopsAt missing := by
  intro whole part entries
  have entriesShipped := shipped.entries_isShipped scope.direction (.ofOctets octets start)
  have part_eq :
      part = Catalogue.walk scope ((Window.ofOctets octets start).cutAt (start + count)) entries := by
    rw [Window.cutAt_ofOctets]
    show Catalogue.walk _ _ _ = _
    rw [entries_eq shipped known _ (.ofOctets octets start)]
  refine ⟨?_, fun missing found => ?_⟩
  · rw [part_eq]
    exact Catalogue.walk_cutAt_elements entriesShipped.unambiguous.takesOctets scope _ _
  · rw [part_eq] at found ⊢
    exact Catalogue.walk_stopsAt entriesShipped.unambiguous entriesShipped.labels_nodup
      scope _ found

/--
A request to attach with a container and a parameter behind it.  A cut in the
parameter leaves the message in the container as it is; a cut in the container
keeps the four elements in front, and the walk stops at the container.
-/
theorem attachRequest_truncated :
    let scope := (Setup.ofConfig .standard .uplink).scope 0
    let octets : List UInt8 :=
      [0x71, 0x08, 0x29, 0x80, 0x39, 0x00, 0x00, 0x00, 0x00, 0x10, 0x02, 0xE0, 0xE0, 0x00, 0x04,
        0x02, 0x01, 0xD0, 0x11, 0x5C, 0x0A, 0x00]
    let body := MobilityMessage.attachRequest.body
    let whole := body.walk scope (.ofOctets octets 2)
    let longer := body.walk scope (.ofOctets (octets.take 20) 2)
    let shorter := body.walk scope (.ofOctets (octets.take 17) 2)
    (body.IsShipped ∧ (body = MobilityMessage.detachRequest.body → scope.direction ≠ .unknown)) ∧
      longer.elements = (whole.elements.filter fun element => element.span.stop ≤ 2 + 20) ∧
      longer.elements.map Element.span = [⟨2, 3⟩, ⟨2, 3⟩, ⟨3, 12⟩, ⟨12, 15⟩, ⟨15, 21⟩] ∧
      shorter.elements = (whole.elements.filter fun element => element.span.stop ≤ 2 + 17) ∧
      shorter.elements.map Element.span = [⟨2, 3⟩, ⟨2, 3⟩, ⟨3, 12⟩, ⟨12, 15⟩] ∧
      shorter.StopsAt (.sizedExtended "ESM message container" ElementValue.sessionMessage) := by
  intro scope octets body whole longer shorter
  have shipped : body.IsShipped :=
    .inl ⟨.attachRequest, rfl⟩
  have known : body = MobilityMessage.detachRequest.body → scope.direction ≠ .unknown :=
    fun _ => by decide
  have inParameter := walk_truncated shipped scope known octets 2 20
  have inContainer := walk_truncated shipped scope known octets 2 17
  refine ⟨⟨shipped, known⟩, inParameter.1, by decide, inContainer.1, by decide, ?_⟩
  exact inContainer.2 _ rfl

end MessageBody

end LteNas
