import LteNas.Proofs.Decode.Naming
import LteNas.Proofs.Message.Showing

namespace LteNas

/-!
# Decoded messages in full

A decoded message is shown with one line for each node of its tree.  All that
could break a line are texts that come from outside: the names of networks and
access points, the services behind emergency numbers, and the protocols of the
configuration.
-/

open Text

/-- The texts of a message, and the protocols that octets are handed to, are of one line. -/
def Rules.unbrokenTexts : Rules where
  name := fun _ => True
  word := fun _ => True
  text := IsUnbroken
  envelope := fun _ => True

theorem Rules.decoded_meet_unbrokenTexts :
    Rules.decoded.Meet .unbrokenTexts (.oneLine IsHeading) where
  name := fun heading _ => heading
  word := fun unbroken _ => unbroken
  text := fun _ unbroken => unbroken
  envelope := fun _ _ => trivial

theorem Rules.decoded_meet_decoded :
    Rules.decoded.Meet .decoded .enveloped where
  name := fun _ _ => trivial
  word := fun _ _ => trivial
  text := fun _ _ => trivial
  envelope := fun complete _ => complete

/--
A decoded message is shown with one line for each node, and every line is the
indentation of its level and the text of its node, if no text that comes from
outside has a line feed.
-/
theorem decode_isShown
    (octets : List UInt8)
    (direction : Direction)
    (config : Config)
    (unbroken : (decode octets direction config).Obeys .unbrokenTexts) :
    (decode octets direction config).IsShown := by
  have obeys := decode_obeys octets direction config
  exact Message.isShown_of_obeys (obeys.meet Rules.decoded_meet_unbrokenTexts unbroken)
    (obeys.meet Rules.decoded_meet_decoded obeys)

/-- The name of a network with a space in it is shown on one line. -/
theorem decode_isShown_networkName :
    let message :=
      decode [0x07, 0x61, 0x43, 0x04, 0x83, 0x41, 0x90, 0x10] .downlink .standard
    message.Obeys .unbrokenTexts ∧
      message.lines 0 =
        [ "EMM information (EMM, 0x61)",
          "    Full name for network [2..8]",
          "        Coding Scheme: GSM 7 bit default alphabet (0)",
          "        Add CI: 0",
          "        Text String: A B" ] ∧
        message.nodeCount = 5 ∧
          message.IsShown := by
  intro message
  have name_isUnbroken : IsUnbroken "A B" := .of_characters rfl
  have decoded_eq : message =
      { Message.empty with
        discriminator := some 0x07
        messageType := some 0x61
        name := some "EMM information"
        envelope := some (.plain 0x07)
        elements :=
          [ ⟨some 0x43, "Full name for network", ⟨2, 8⟩,
              .fields
                [ ⟨"Coding Scheme", .coded 0 "GSM 7 bit default alphabet"⟩,
                  ⟨"Add CI", .flag false⟩,
                  ⟨"Text String", .text "A B"⟩ ]⟩ ] } :=
    rfl
  have unbroken : message.Obeys .unbrokenTexts := by
    rw [decoded_eq, Message.obeys_iff]
    simp [Rules.unbrokenTexts, Message.empty, Element.Obeys, name_isUnbroken]
  exact ⟨unbroken, by decide +kernel, by decide +kernel, decode_isShown _ _ _ unbroken⟩

/-- The name of a network with a line feed in it takes a line that no node has. -/
theorem decode_isShown_fails_for_lineFeed :
    let message :=
      decode [0x07, 0x61, 0x43, 0x04, 0x83, 0x41, 0x85, 0x10] .downlink .standard
    let front :=
      [ "EMM information (EMM, 0x61)",
        "    Full name for network [2..8]",
        "        Coding Scheme: GSM 7 bit default alphabet (0)",
        "        Add CI: 0",
        "        Text String: A" ]
    cut message.text = front ++ ["B"] ∧
      message.nodeCount = 5 ∧
        ¬ message.IsShown := by
  intro message front
  have text_eq : message.text = trimmed ("\n".intercalate (front ++ ["B"])) :=
    congrArg trimmed (by decide +kernel : message.tree 0 = "\n".intercalate (front ++ ["B"]))
  have unbroken : Unbroken (front ++ ["B"]) :=
    .cons rfl (.cons rfl (.cons rfl (.cons rfl (.cons rfl (.cons rfl .nil)))))
  have visible : IsVisible "B" :=
    (IsHeading.of_characters rfl).isVisible
  have lines_eq : cut message.text = front ++ ["B"] := by
    rw [text_eq, cut_trimmed unbroken visible]
    rfl
  have nodeCount_eq : message.nodeCount = 5 := by
    decide +kernel
  refine ⟨lines_eq, nodeCount_eq, fun shown => ?_⟩
  have length_eq := shown.length_lines
  rw [lines_eq, nodeCount_eq] at length_eq
  exact absurd length_eq (by decide)

end LteNas
