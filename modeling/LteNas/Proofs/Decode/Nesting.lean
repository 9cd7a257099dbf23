import LteNas.Proofs.Decode.Raising
import LteNas.Proofs.Element.Embedding

namespace LteNas

/-!
# How deep messages nest

A message inside another one is read from the value of a container, behind two
octets of its message at least and two octets of length.  So every level costs
four octets, and neither the limit nor the octets are ever exceeded.
-/

/-! ## Containers -/

theorem mobilityCatalogues_entersContainers
    (message : MobilityMessage) :
    ∀ catalogue ∈ message.body.catalogues, catalogue.EntersContainers := by
  simp only [Catalogue.EntersContainers]
  cases message <;> decide

theorem sessionCatalogues_entersContainers
    (message : SessionMessage) :
    ∀ catalogue ∈ message.body.catalogues, catalogue.EntersContainers := by
  simp only [Catalogue.EntersContainers]
  cases message <;> decide

theorem Catalogue.IsShipped.entersContainers
    {catalogue : Catalogue}
    (shipped : catalogue.IsShipped) :
    catalogue.EntersContainers := by
  rcases shipped with ⟨message, member⟩ | ⟨message, member⟩
  · exact mobilityCatalogues_entersContainers message catalogue member
  · exact sessionCatalogues_entersContainers message catalogue member

/-! ## One level -/

namespace Element.Embeds

variable {element : Element} {least most count : Nat} {window : Window}

/-- What stands behind octets that were read stands that many more behind the first of them. -/
theorem of_advance
    (embeds : element.Embeds least (window.advance count))
    (fits : count ≤ window.remaining)
    (enough : most ≤ count + least) :
    element.Embeds most window where
  isContainer := embeds.isContainer
  start_le := by
    have start_le := embeds.start_le
    rw [Window.advance_position] at start_le
    omega
  ordered := embeds.ordered
  stop_le := Window.advance_stop fits ▸ embeds.stop_le

theorem portion_of_advance
    (embeds : element.Embeds least (window.advance count))
    (fits : count ≤ window.remaining) :
    (window.advance count).portion element.contentSpan = window.portion element.contentSpan :=
  Window.Reaches.portion_eq ⟨count, fits, rfl⟩
    (Nat.le_trans (Nat.le_add_right _ _) embeds.start_le)

/-- The value of a container leaves so many octets of the window to others. -/
theorem portion_remaining_le
    (embeds : element.Embeds least window) :
    least + (window.portion element.contentSpan).remaining ≤ window.remaining := by
  have start_le := embeds.start_le
  have ordered := embeds.ordered
  have stop_le := embeds.stop_le
  rw [Window.portion_remaining (by omega) stop_le]
  rw [Window.stop] at stop_le
  omega

end Element.Embeds

namespace Scope.Nests

variable {scope : Scope} {least most count : Nat} {window : Window}
variable {elements : List Element} {diagnostics : List Diagnostic}

/-- Nothing is nested where nothing is carried and no limit is met. -/
theorem of_isFlat
    {message : Message}
    (flat : message.IsFlat) :
    scope.Nests least window message.elements message.diagnostics where
  entered member carries := ((flat.uncatalogued _ member).not_carries carries).elim
  refused reported := (flat.meetsNoLimit _ reported _ rfl).elim

theorem of_advance
    (nests : scope.Nests least (window.advance count) elements diagnostics)
    (fits : count ≤ window.remaining)
    (enough : most ≤ count + least) :
    scope.Nests most window elements diagnostics where
  entered member carries := by
    obtain ⟨embeds, value_eq, nested_eq⟩ := nests.entered member carries
    rw [embeds.portion_of_advance fits] at nested_eq
    exact ⟨embeds.of_advance fits enough, value_eq, nested_eq⟩
  refused reported := by
    obtain ⟨limit_eq, element, member, ⟨embeds, value_eq, nested_eq⟩, span_eq⟩ :=
      nests.refused reported
    rw [embeds.portion_of_advance fits] at value_eq nested_eq
    exact ⟨limit_eq, element, member,
      ⟨embeds.of_advance fits enough, value_eq, nested_eq⟩, span_eq⟩

end Scope.Nests

/-- An opened message nests what its body does, whose header is two octets at least. -/
theorem Opening.finish_nests
    {opening : Opening}
    {window : Window}
    (fits : opening.Fits 2 window)
    (scope : Scope) :
    scope.Nests 4 window (opening.finish scope).elements (opening.finish scope).diagnostics := by
  cases opening with
  | closed message =>
      exact .of_isFlat fits
  | body layout header behind =>
      obtain ⟨shipped, -, count, enough, inside, rfl⟩ := fits
      have entriesShipped :=
        shipped.entries_isShipped scope.direction (window.advance count)
      exact (Catalogue.walk_nests entriesShipped.regular entriesShipped.entersContainers scope
        (window.advance count)).of_advance inside (by omega)

namespace Setup

variable {setup : Setup} {depth : Nat} {carriage : Carriage} {window : Window}

theorem decodeAt_nests
    (setup : Setup)
    (depth : Nat)
    (carriage : Carriage)
    (window : Window) :
    ∃ isPartial,
      Scope.Nests { setup.scope depth with partiallyCiphered := isPartial } 4
        (setup.readable carriage window)
        (setup.decodeAt depth carriage window).elements
        (setup.decodeAt depth carriage window).diagnostics := by
  obtain ⟨opening, isPartial, fits, decode_eq⟩ := setup.decodeAt_opens carriage window
  have opened :
      setup.decodeAt depth carriage window =
        opening.finish { setup.scope depth with partiallyCiphered := isPartial } :=
    decode_eq setup.config.maxNestingDepth depth
  rw [opened]
  exact ⟨isPartial, opening.finish_nests fits _⟩

/-- What an element of a message carries is the message in its value, one level deeper. -/
theorem decodeAt_entered
    {element : Element}
    {carried : Message}
    (member : element ∈ (setup.decodeAt depth carriage window).elements)
    (carries : element.value.Carries carried) :
    let content := (setup.readable carriage window).portion element.contentSpan
    depth < setup.config.maxNestingDepth ∧
      element.Embeds 4 (setup.readable carriage window) ∧
      element.value = .message carried ∧
      ∃ innerCarriage, carried = setup.decodeAt (depth + 1) innerCarriage content := by
  obtain ⟨isPartial, nests⟩ := setup.decodeAt_nests depth carriage window
  obtain ⟨embeds, value_eq, innerCarriage, after, entered⟩ := nests.entered member carries
  have nested_eq := setup.scope_nested depth innerCarriage
    ((setup.readable carriage window).portion element.contentSpan)
  rw [entered] at nested_eq
  split at nested_eq
  · rename_i below
    refine ⟨below, embeds, value_eq, innerCarriage, ?_⟩
    exact congrArg Prod.fst (Option.some.inj nested_eq)
  · cases nested_eq

/-- A limit that a message meets is the one that is set, and is met by a container. -/
theorem decodeAt_refused
    {limit : Nat}
    {span : Span}
    (reported : ⟨.nestingLimit limit, span⟩ ∈
      (setup.decodeAt depth carriage window).diagnostics) :
    limit = setup.config.maxNestingDepth ∧
      setup.config.maxNestingDepth ≤ depth ∧
      ∃ element ∈ (setup.decodeAt depth carriage window).elements,
        element.Embeds 4 (setup.readable carriage window) ∧
          element.contentSpan = span ∧
          element.value = .octets ((setup.readable carriage window).portion span).rest := by
  obtain ⟨isPartial, nests⟩ := setup.decodeAt_nests depth carriage window
  obtain ⟨limit_eq, element, member, ⟨embeds, value_eq, innerCarriage, refused⟩, rfl⟩ :=
    nests.refused reported
  have nested_eq := setup.scope_nested depth innerCarriage
    ((setup.readable carriage window).portion element.contentSpan)
  rw [refused] at nested_eq
  split at nested_eq
  · cases nested_eq
  · rename_i reached
    exact ⟨limit_eq, Nat.not_lt.mp reached, element, member, embeds, rfl, value_eq⟩

/-! ## From level to level -/

/--
A message is decoded at a depth from octets: the outermost one from all of them,
and any other one from the value of a container of the message around it.
-/
inductive Enters (setup : Setup) (octets : List UInt8) : Nat → Carriage → Window → Prop where
  | outermost :
      setup.Enters octets 0 .complete (.ofOctets octets 0)
  | inside {depth : Nat} {carriage innerCarriage : Carriage} {window : Window}
      {element : Element}
      (enters : setup.Enters octets depth carriage window)
      (member : element ∈ (setup.decodeAt depth carriage window).elements)
      (isContainer : element.IsContainer)
      (value_eq : element.value =
        .message (setup.decodeAt (depth + 1) innerCarriage
          ((setup.readable carriage window).portion element.contentSpan))) :
      setup.Enters octets (depth + 1) innerCarriage
        ((setup.readable carriage window).portion element.contentSpan)

theorem readable_remaining_le
    (setup : Setup)
    (carriage : Carriage)
    (window : Window) :
    (setup.readable carriage window).remaining ≤ window.remaining := by
  obtain ⟨position_le, stop_eq⟩ := setup.readable_range carriage window
  rw [Window.stop, Window.stop] at stop_eq
  omega

/-- Every level takes four octets, and one of the levels that may be entered. -/
theorem Enters.bounded
    {octets : List UInt8}
    (enters : setup.Enters octets depth carriage window) :
    4 * depth + window.remaining ≤ octets.length ∧ depth ≤ setup.config.maxNestingDepth := by
  induction enters with
  | outermost =>
      exact ⟨by simp [Window.remaining], Nat.zero_le _⟩
  | @inside depth carriage innerCarriage window element enters member _ value_eq
      inductionHypothesis =>
      have carries :
          element.value.Carries (setup.decodeAt (depth + 1) innerCarriage
            ((setup.readable carriage window).portion element.contentSpan)) := by
        rw [value_eq]
        exact .message
      obtain ⟨below, embeds, -, -⟩ := decodeAt_entered member carries
      have taken := embeds.portion_remaining_le
      have readable_le := setup.readable_remaining_le carriage window
      exact ⟨by omega, below⟩

/-- A message inside one that is entered is entered. -/
theorem Enters.of_holdsAt
    {octets : List UInt8}
    {message inner : Message}
    {levels : Nat}
    (enters : setup.Enters octets depth carriage window)
    (message_eq : message = setup.decodeAt depth carriage window)
    (holds : message.HoldsAt levels inner) :
    ∃ innerCarriage innerWindow,
      setup.Enters octets (depth + levels) innerCarriage innerWindow ∧
        inner = setup.decodeAt (depth + levels) innerCarriage innerWindow := by
  -- the depth is generalized, since the message inside is entered one level deeper
  induction holds generalizing depth carriage window with
  | self =>
      exact ⟨carriage, window, enters, message_eq⟩
  | @nested message carried inner element levels member carries _ inductionHypothesis =>
      subst message_eq
      obtain ⟨-, embeds, value_eq, innerCarriage, rfl⟩ := decodeAt_entered member carries
      have further := Enters.inside enters member embeds.isContainer value_eq
      obtain ⟨lastCarriage, lastWindow, last⟩ := inductionHypothesis further rfl
      have depth_eq : depth + 1 + levels = depth + (levels + 1) := by
        omega
      rw [depth_eq] at last
      exact ⟨lastCarriage, lastWindow, last⟩

/-- A message that meets a limit stands at that depth, and another level would fit its octets. -/
theorem Enters.refused
    {octets : List UInt8}
    {limit : Nat}
    {span : Span}
    (enters : setup.Enters octets depth carriage window)
    (reported : ⟨.nestingLimit limit, span⟩ ∈
      (setup.decodeAt depth carriage window).diagnostics) :
    limit = setup.config.maxNestingDepth ∧
      depth = setup.config.maxNestingDepth ∧
      4 * (depth + 1) ≤ octets.length ∧
      ∃ element ∈ (setup.decodeAt depth carriage window).elements,
        element.Embeds 4 (setup.readable carriage window) ∧
          element.contentSpan = span ∧
          element.value = .octets ((setup.readable carriage window).portion span).rest := by
  obtain ⟨limit_eq, reached, element, member, embeds, found⟩ := decodeAt_refused reported
  obtain ⟨room, within⟩ := enters.bounded
  have taken := embeds.portion_remaining_le
  have readable_le := setup.readable_remaining_le carriage window
  exact ⟨limit_eq, by omega, by omega, element, member, embeds, found⟩

/-- A limit that the octets have no room for is as good as any larger one. -/
theorem decodeAt_of_noRoom
    {octets : List UInt8}
    {limit : Nat}
    (larger : setup.config.maxNestingDepth ≤ limit)
    (noRoom : octets.length < 4 * (setup.config.maxNestingDepth + 1)) :
    (setup.withLimit limit).decodeAt 0 .complete (.ofOctets octets 0) =
      setup.decodeAt 0 .complete (.ofOctets octets 0) := by
  refine decodeAt_withLimit larger fun diagnostic member met limit_eq => ?_
  obtain ⟨levels, inner, holds, reported⟩ := Message.mem_allDiagnostics_iff.mp member
  obtain ⟨carriage, window, enters, rfl⟩ := Enters.outermost.of_holdsAt rfl holds
  rcases diagnostic with ⟨kind, span⟩
  subst limit_eq
  -- the limit is met by a container, which has room for the level that is refused
  obtain ⟨-, depth_eq, room, -⟩ := enters.refused reported
  omega

end Setup

/--
Messages nest no deeper than the limit allows, and no deeper than one level for
four octets.  A limit is met at its own depth only, by a container that is left
as the octets that it holds.  Beyond one level for four octets a limit is as good
as none.
-/
theorem decode_nestsBoundedly
    (octets : List UInt8)
    (direction : Direction)
    (config : Config) :
    let setup := Setup.ofConfig config direction
    let bound := min config.maxNestingDepth (octets.length / 4)
    (∀ depth inner, (decode octets direction config).HoldsAt depth inner →
      depth ≤ bound ∧
        ∃ carriage window,
          setup.Enters octets depth carriage window ∧
            inner = setup.decodeAt depth carriage window ∧
            ∀ limit span, ⟨.nestingLimit limit, span⟩ ∈ inner.diagnostics →
              limit = config.maxNestingDepth ∧
                depth = config.maxNestingDepth ∧
                ∃ element ∈ inner.elements,
                  element.Embeds 4 (setup.readable carriage window) ∧
                    element.contentSpan = span ∧
                    element.value =
                      .octets ((setup.readable carriage window).portion span).rest) ∧
      decode octets direction config =
        decode octets direction { config with maxNestingDepth := bound } := by
  intro setup bound
  refine ⟨fun depth inner holds => ?_, ?_⟩
  · obtain ⟨carriage, window, enters, rfl⟩ :=
      Setup.Enters.outermost.of_holdsAt (decode_eq_decodeAt octets direction config) holds
    rw [Nat.zero_add] at enters ⊢
    obtain ⟨room, within⟩ := enters.bounded
    refine ⟨Nat.le_min.mpr ⟨within, by omega⟩, carriage, window, enters, rfl, ?_⟩
    intro limit span reported
    obtain ⟨limit_eq, depth_eq, -, found⟩ := enters.refused reported
    exact ⟨limit_eq, depth_eq, found⟩
  · rcases Nat.le_total config.maxNestingDepth (octets.length / 4) with few | many
    · have bound_eq : bound = config.maxNestingDepth := Nat.min_eq_left few
      rw [bound_eq]
    · have bound_eq : bound = octets.length / 4 := Nat.min_eq_right many
      have noRoom : octets.length < 4 * ((setup.withLimit bound).config.maxNestingDepth + 1) := by
        show octets.length < 4 * (bound + 1)
        omega
      have larger : (setup.withLimit bound).config.maxNestingDepth ≤ config.maxNestingDepth :=
        Nat.min_le_left _ _
      exact Setup.decodeAt_of_noRoom larger noRoom

/--
Three attaches that are completed inside each other.  Under a limit of one the
second meets it, and its container keeps the octets of the third; twelve octets
have no room for a fourth level, so a limit of a thousand is as good as three.
-/
theorem decode_nestsBoundedly_attachComplete :
    let octets : List UInt8 :=
      [0x07, 0x43, 0x00, 0x08, 0x07, 0x43, 0x00, 0x04, 0x07, 0x43, 0x00, 0x00]
    let limited (limit : Nat) : Config := { Config.standard with maxNestingDepth := limit }
    let second : Message :=
      { Message.empty with
        discriminator := some 0x07
        messageType := some 0x43
        name := some "Attach complete"
        elements :=
          [⟨none, "ESM message container", ⟨6, 12⟩, .octets [0x07, 0x43, 0x00, 0x00]⟩]
        diagnostics := [⟨.nestingLimit 1, ⟨8, 12⟩⟩] }
    (decode octets .uplink (limited 1)).HoldsAt 1 second ∧
      1 ≤ min (limited 1).maxNestingDepth (octets.length / 4) ∧
      (∃ element ∈ second.elements, element.IsContainer ∧ element.contentSpan = ⟨8, 12⟩) ∧
      decode octets .uplink (limited 1000) = decode octets .uplink (limited 3) := by
  intro octets limited second
  have outer_eq :
      decode octets .uplink (limited 1) =
        { Message.empty with
          envelope := some (.plain 0x07)
          discriminator := some 0x07
          messageType := some 0x43
          name := some "Attach complete"
          elements := [⟨none, "ESM message container", ⟨2, 12⟩, .message second⟩] } := by
    rfl
  have holds : (decode octets .uplink (limited 1)).HoldsAt 1 second := by
    rw [outer_eq]
    exact .nested (List.mem_singleton_self _) .message .self
  obtain ⟨within, carriage, window, -, -, refused⟩ :=
    (decode_nestsBoundedly octets .uplink (limited 1)).1 1 second holds
  obtain ⟨-, -, element, member, embeds, span_eq, -⟩ :=
    refused 1 ⟨8, 12⟩ (List.mem_singleton_self _)
  have room_eq : min (limited 1000).maxNestingDepth (octets.length / 4) = 3 := by
    decide
  have limitless := (decode_nestsBoundedly octets .uplink (limited 1000)).2
  rw [room_eq] at limitless
  exact ⟨holds, within, ⟨element, member, embeds.isContainer, span_eq⟩, limitless⟩

end LteNas
