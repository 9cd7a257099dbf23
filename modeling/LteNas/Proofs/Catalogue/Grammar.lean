import LteNas.Proofs.Catalogue.Shipped
import LteNas.Proofs.Element.Grammar

namespace LteNas

/-!
# The grammars of the messages

Whether a catalogue is unambiguous can be computed from its formats, and every
catalogue of a message is.  So a walk over one of them is clean exactly when the
octets are spelled by it, and its elements are those of the one spelling.
-/

namespace WireFormat

/-- No octet may start elements of both formats, which are optional. -/
def isApart : WireFormat → WireFormat → Bool
  | .taggedHalf tag, .taggedHalf other => tag != other
  | .taggedHalf tag, format => format.tag?.all fun other => highNibble other != tag
  | format, .taggedHalf tag => format.tag?.all fun other => highNibble other != tag
  | first, second => first.tag? != second.tag?

/-- Formats in order form an unambiguous catalogue. -/
def areUnambiguous : List WireFormat → Bool
  | [] => true
  | .lowHalf :: .highHalf :: formats => areUnambiguous formats
  | .lowHalf :: _ => false
  | .highHalf :: _ => false
  | .fixed 0 :: _ => false
  | format :: formats =>
      (format.tag?.isNone ||
        formats.all fun later => later.tag?.isSome && format.isApart later) &&
      areUnambiguous formats

theorem eq_of_isHalf_of_isMandatory
    {format : WireFormat}
    (half : format.IsHalf)
    (mandatory : format.IsMandatory) :
    format = .lowHalf ∨ format = .highHalf := by
  cases format with
  | lowHalf =>
      exact .inl rfl
  | highHalf =>
      exact .inr rfl
  | taggedHalf _ =>
      cases mandatory
  | fixed _ | sized | sizedExtended | tagged _ _ | taggedSized _ | taggedSizedExtended _ =>
      exact half.elim

theorem apart_of_isApart
    {first second : WireFormat}
    (firstOptional : ¬ first.IsMandatory)
    (secondOptional : ¬ second.IsMandatory)
    (apart : first.isApart second = true) :
    first.Apart second := by
  intro octet accepted
  cases first <;> cases second <;>
    simp_all [IsMandatory, tag?, isApart, accepts]
  all_goals
    rintro rfl
    exact apart accepted

end WireFormat

/-- The computed test is sound. -/
theorem Catalogue.unambiguous_of_formats
    {catalogue : Catalogue}
    (computed : WireFormat.areUnambiguous (catalogue.map ElementSpec.format) = true) :
    catalogue.Unambiguous := by
  generalize shape : catalogue.map ElementSpec.format = formats at computed
  fun_induction WireFormat.areUnambiguous formats generalizing catalogue with
  | case1 =>
      rw [List.map_eq_nil_iff.mp shape]
      exact .nil
  | case2 formats inductionHypothesis =>
      obtain ⟨low, behind, rfl, lowFormat, behindShape⟩ := List.map_eq_cons_iff.mp shape
      obtain ⟨high, entries, rfl, highFormat, others⟩ := List.map_eq_cons_iff.mp behindShape
      exact .pair lowFormat highFormat (inductionHypothesis others computed)
  | case3 | case4 | case5 =>
      cases computed
  | case6 format formats notPair notLow notHigh notEmpty inductionHypothesis =>
      obtain ⟨entry, entries, rfl, rfl, rfl⟩ := List.map_eq_cons_iff.mp shape
      rw [Bool.and_eq_true, Bool.or_eq_true] at computed
      obtain ⟨alone, behind⟩ := computed
      have others := inductionHypothesis rfl behind
      by_cases mandatory : entry.format.IsMandatory
      · refine .mandatory mandatory ?_ notEmpty others
        intro half
        rcases WireFormat.eq_of_isHalf_of_isMandatory half mandatory with low | high
        · exact notLow low
        · exact notHigh high
      · rcases alone with none | alone
        · exact (mandatory (Option.isNone_iff_eq_none.mp none)).elim
        · refine .optional mandatory (fun later member => ?_) others
          have checked := List.all_eq_true.mp alone _ (List.mem_map_of_mem member)
          rw [Bool.and_eq_true] at checked
          obtain ⟨some, apart⟩ := checked
          have laterOptional : ¬ later.format.IsMandatory := by
            intro none
            rw [none] at some
            cases some
          exact ⟨laterOptional, WireFormat.apart_of_isApart mandatory laterOptional apart⟩

theorem mobilityFormats_areUnambiguous
    (message : MobilityMessage) :
    ∀ catalogue ∈ message.body.catalogues,
      WireFormat.areUnambiguous (catalogue.map ElementSpec.format) = true := by
  cases message <;> decide

theorem sessionFormats_areUnambiguous
    (message : SessionMessage) :
    ∀ catalogue ∈ message.body.catalogues,
      WireFormat.areUnambiguous (catalogue.map ElementSpec.format) = true := by
  cases message <;> decide

theorem Catalogue.IsShipped.unambiguous
    {catalogue : Catalogue}
    (shipped : catalogue.IsShipped) :
    catalogue.Unambiguous := by
  apply Catalogue.unambiguous_of_formats
  rcases shipped with ⟨message, member⟩ | ⟨message, member⟩
  · exact mobilityFormats_areUnambiguous message catalogue member
  · exact sessionFormats_areUnambiguous message catalogue member

/--
A walk over the catalogue of a message accepts exactly what the catalogue spells.
The members of what is spelled are unique, and the elements are theirs in order.
-/
theorem Catalogue.walk_accepts_spelled
    {catalogue : Catalogue}
    (shipped : catalogue.IsShipped)
    (scope : Scope)
    (window : Window) :
    let walk := Catalogue.walk scope window catalogue
    (walk.IsClean ↔ ∃ members, catalogue.Spells window.rest members) ∧
      ∀ members, catalogue.Spells window.rest members →
        walk.elements = memberElements scope window.position members ∧
          ∀ others, catalogue.Spells window.rest others → others = members := by
  intro walk
  have unambiguous := shipped.unambiguous
  have clean_iff := Catalogue.isClean_iff shipped.regular scope window
  refine ⟨?_, fun members spells => ⟨?_, fun others otherSpells => ?_⟩⟩
  · constructor
    · intro clean
      obtain ⟨pieces, lastScope, cursor, visits, finished⟩ := clean_iff.mp clean
      exact visits.spells unambiguous finished
    · rintro ⟨members, spells⟩
      obtain ⟨pieces, lastScope, cursor, visited⟩ := spells.visited scope unambiguous
      exact clean_iff.mpr ⟨pieces, lastScope, cursor, visited.visits, visited.finished⟩
  · obtain ⟨pieces, lastScope, cursor, visited⟩ := spells.visited scope unambiguous
    have walk_eq := visited.visits.walk_append []
    rw [List.append_nil, Catalogue.walk, Walk.finish, Window.isEmpty, visited.finished] at walk_eq
    show (Catalogue.walk scope window catalogue).elements = _
    rw [walk_eq, ← visited.elements_eq]
    simp [Walk.behind]
  · exact otherSpells.unique unambiguous spells

/-- A scope with the default settings, in which nothing has been established. -/
def Scope.initial : Scope :=
  ⟨⟨.standard, none, .downlink⟩, 0, false, none, fun _ _ => none⟩

/-- The network detaches a terminal, which may come back, and says why. -/
theorem downlinkDetachRequest_walk_accepts :
    let walk := Catalogue.walk .initial (.ofOctets [0x01, 0x53, 0x11] 2) .downlinkDetachRequest
    Catalogue.downlinkDetachRequest.IsShipped ∧ walk.IsClean ∧
      walk.elements.map Element.span = [⟨2, 3⟩, ⟨2, 3⟩, ⟨3, 5⟩] := by
  let cause : ElementSpec := .tagged 0x53 "EMM cause" 1 ElementValue.mobilityCause
  have shipped : Catalogue.downlinkDetachRequest.IsShipped :=
    .inl ⟨.detachRequest, List.mem_cons_of_mem _ List.mem_cons_self⟩
  have accepts :=
    Catalogue.walk_accepts_spelled shipped .initial (.ofOctets [0x01, 0x53, 0x11] 2)
  have encodes : cause.format.Encodes [0x53, 0x11] (.value [0x11]) :=
    ⟨rfl, rfl⟩
  have spells :
      Catalogue.downlinkDetachRequest.Spells (0x01 :: ([0x53, 0x11] ++ []))
        [⟨.lowHalf "Detach type" ElementValue.downlinkDetachType, .half 1⟩,
          ⟨.highHalf "Spare half octet" ElementValue.spareHalf, .half 0⟩,
          ⟨cause, .value [0x11]⟩] :=
    .pair rfl rfl (.present encodes .nil)
  refine ⟨shipped, accepts.1.mpr ⟨_, spells⟩, ?_⟩
  rw [(accepts.2 _ spells).1]
  rfl

end LteNas
