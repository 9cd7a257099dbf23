import LteNas.Proofs.Config.KeyText
import LteNas.Proofs.Decode.UserData

namespace LteNas

/-!
# Runs under one key

Of the text of the key a run knows nothing but the key that it names.  So runs
under texts that name one key come to the same, at every depth, and so do runs
under texts that name none.
-/

/-- The setup with another text of the key, under the key that it has. -/
def Setup.withKeyText (setup : Setup) (keyText : Option String) : Setup :=
  { setup with config := { setup.config with keyText } }

/-! ## The same opening -/

/-- Everything that is nested in the first scope is nested in the second one. -/
abbrev Scope.SharesAll (near far : Scope) : Prop :=
  near.Shares far (fun _ => True) (fun _ => True)

/-- An opening comes to the same in scopes that are alike and share everything. -/
theorem Opening.finish_alike
    {least : Nat}
    {window : Window}
    {opening : Opening}
    {near far : Scope}
    (fits : opening.Fits least window)
    (alike : near.Alike far)
    (direction_eq : far.direction = near.direction)
    (shares : near.SharesAll far) :
    opening.finish far = opening.finish near := by
  cases opening with
  | closed message =>
      rfl
  | body layout header behind =>
      have regular : (layout.body.entries near.direction behind).Regular :=
        (fits.1.entries_isShipped near.direction behind).regular
      have walk_eq : layout.body.walk far behind = layout.body.walk near behind := by
        rw [MessageBody.walk, MessageBody.walk, direction_eq]
        exact Catalogue.walk_same regular alike shares
          ⟨fun _ _ _ _ => trivial, fun _ _ => trivial⟩
      rw [finish, finish, Scope.decodeBody, Scope.decodeBody, walk_eq]

/-! ## From level to level -/

namespace Setup

variable {setup : Setup} {keyText : Option String} {depth : Nat}

/-- What is nested at a depth is shared if messages one level deeper are the same. -/
theorem sharesAll_of_deeper
    (deeper : depth < setup.config.maxNestingDepth → ∀ carriage window,
      (setup.withKeyText keyText).decodeAt (depth + 1) carriage window =
        setup.decodeAt (depth + 1) carriage window) :
    (setup.scope depth).SharesAll ((setup.withKeyText keyText).scope depth) where
  entered := by
    intro carriage window after message entered _
    rw [scope_nested] at entered ⊢
    split at entered
    · rename_i below
      have farBelow : depth < (setup.withKeyText keyText).config.maxNestingDepth :=
        below
      have message_eq : setup.decodeAt (depth + 1) carriage window = message := by
        rw [decodeAt, Option.some.inj entered]
      have far_eq := (deeper below carriage window).trans message_eq
      rw [if_pos farBelow, ← far_eq]
      exact ⟨_, rfl⟩
    · cases entered
  refused := by
    intro carriage window refused _
    rw [scope_nested] at refused ⊢
    split at refused
    · cases refused
    · rename_i reached
      have farReached : ¬ depth < (setup.withKeyText keyText).config.maxNestingDepth :=
        reached
      rw [if_neg farReached]
      exact ⟨rfl, rfl⟩

/-- A message at a depth is the same under another key text if those one level deeper are. -/
theorem decodeAt_withKeyText_of_deeper
    (deeper : depth < setup.config.maxNestingDepth → ∀ carriage window,
      (setup.withKeyText keyText).decodeAt (depth + 1) carriage window =
        setup.decodeAt (depth + 1) carriage window)
    (carriage : Carriage)
    (window : Window) :
    (setup.withKeyText keyText).decodeAt depth carriage window =
      setup.decodeAt depth carriage window := by
  obtain ⟨opening, isPartial, fits, decode_eq⟩ :=
    setup.decodeAt_opens_alike depth carriage window
  rw [decode_eq setup ⟨rfl, rfl, rfl, rfl⟩,
    decode_eq (setup.withKeyText keyText) ⟨rfl, rfl, rfl, rfl⟩]
  have shares := sharesAll_of_deeper deeper
  exact Opening.finish_alike fits ⟨rfl, rfl, rfl, rfl⟩ rfl ⟨shares.entered, shares.refused⟩

/-- A message at a depth is the same under every key text, the key being the same. -/
theorem decodeAt_withKeyText
    (setup : Setup)
    (keyText : Option String)
    (depth : Nat)
    (carriage : Carriage)
    (window : Window) :
    (setup.withKeyText keyText).decodeAt depth carriage window =
      setup.decodeAt depth carriage window := by
  -- the induction is on the levels that may still be entered
  induction levels_eq : setup.config.maxNestingDepth - depth
    generalizing depth carriage window with
  | zero =>
      refine decodeAt_withKeyText_of_deeper (fun below => ?_) carriage window
      exact absurd levels_eq (Nat.sub_ne_zero_of_lt below)
  | succ levels inductionHypothesis =>
      refine decodeAt_withKeyText_of_deeper (fun _ carriage window => ?_) carriage window
      exact inductionHypothesis (depth + 1) carriage window (by omega)

end Setup

/-- Under key texts that come to one usable key, every message is decoded to the same. -/
theorem decode_eq_of_usableKey?
    {config : Config}
    {keyText otherText : Option String}
    (usable_eq : { config with keyText }.usableKey? =
      { config with keyText := otherText }.usableKey?)
    (octets : List UInt8)
    (direction : Direction) :
    decode octets direction { config with keyText } =
      decode octets direction { config with keyText := otherText } := by
  have setup_eq :
      Setup.ofConfig { config with keyText } direction =
        (Setup.ofConfig { config with keyText := otherText } direction).withKeyText keyText := by
    simp only [Setup.ofConfig, Setup.withKeyText, usable_eq]
  rw [decode_eq_decodeAt, decode_eq_decodeAt, setup_eq]
  exact Setup.decodeAt_withKeyText _ keyText 0 .complete (.ofOctets octets 0)

/--
A text that names a key is read as it, and every message is decoded under it as
under the digits of the key.  Under a text that no key is read from, because it
is faulty or has no digits, every message is decoded as without a text.
-/
theorem decode_isKeyed
    (config : Config) :
    (∀ key text, KeyText.Names key text.toList →
      { config with keyText := some text }.key = .ok (some key) ∧
        ∀ octets direction,
          decode octets direction { config with keyText := some text } =
            decode octets direction
              { config with keyText := some (Hex.encode key.toList) }) ∧
    ∀ text,
      ({ config with keyText := some text }.key = .ok none ∨
        ∃ fault, { config with keyText := some text }.key = .error fault) →
      ∀ octets direction,
        decode octets direction { config with keyText := some text } =
          decode octets direction { config with keyText := none } := by
  refine ⟨fun key text names => ⟨names.read_eq, fun octets direction => ?_⟩,
    fun text keyless octets direction => ?_⟩
  · apply decode_eq_of_usableKey?
    have plain_eq := (KeyText.names_encode key).read_eq
    simp only [Config.usableKey?, Config.key, names.read_eq, plain_eq]
  · apply decode_eq_of_usableKey?
    rcases keyless with none_named | ⟨fault, faulty⟩
    · rw [Config.usableKey?, none_named]
      rfl
    · rw [Config.usableKey?, faulty]
      rfl

/--
A key is named by its digits in both cases behind a marker, with blanks and colons
among them.  An odd digit is a fault, and blanks and colons alone name no key.
-/
theorem decode_isKeyed_separated :
    let key : Block :=
      #v[0x00, 0x11, 0x22, 0x33, 0x44, 0x55, 0x66, 0x77, 0x88, 0x99, 0xAA, 0xBB, 0xCC, 0xDD,
        0xEE, 0xFF]
    let text := "\t0x:00:11:22:33 44556677\u300088 99 aA Bb cC Dd eE fF "
    let keyed (text : String) : Config := { Config.standard with keyText := some text }
    KeyText.Names key text.toList ∧
      (keyed text).key = .ok (some key) ∧
      (∀ octets direction,
        decode octets direction (keyed text) =
          decode octets direction (keyed "00112233445566778899aabbccddeeff")) ∧
      (keyed "0").key = .error (.badHex .oddLength) ∧
      (∀ octets direction,
        decode octets direction (keyed "0") = decode octets direction .standard) ∧
      (keyed " : ").key = .ok none ∧
      ∀ octets direction,
        decode octets direction (keyed " : ") = decode octets direction .standard := by
  intro key text keyed
  let body := ":00:11:22:33 44556677\u300088 99 aA Bb cC Dd eE fF ".toList
  have text_eq : text.toList = ['\t'] ++ ("0x".toList ++ body) := by
    decide +revert
  have spells :
      Hex.Spells (body.filter fun character => !KeyText.isSeparator character) key.toList := by
    unfold Hex.Spells
    clear text_eq
    decide +revert
  have names : KeyText.Names key text.toList := by
    rw [text_eq]
    exact .intro (by simp [Text.isBlank]) (.inr rfl) spells (.of_filter KeyText.isSeparator body)
  have faulty : (keyed "0").key = .error (.badHex .oddLength) := by
    rfl
  have unnamed : (keyed " : ").key = .ok none := by
    rfl
  obtain ⟨named, keyless⟩ := decode_isKeyed .standard
  obtain ⟨key_eq, same⟩ := named key text names
  exact ⟨names, key_eq, same, faulty, keyless "0" (.inr ⟨_, faulty⟩), unnamed,
    keyless " : " (.inl unnamed)⟩

end LteNas
