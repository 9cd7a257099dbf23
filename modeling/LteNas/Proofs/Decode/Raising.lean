import LteNas.Proofs.Decode.Levels
import LteNas.Proofs.Element.Consulting
import LteNas.Proofs.Element.Entering

namespace LteNas

/-!
# Raising the limit

A run that meets no limit has entered every message that it came upon.  Under a
larger limit it enters the same messages, and comes to the same.
-/

/-- No diagnostic of the message, or of a message inside it, is about a limit. -/
def Message.MeetsNoLimit (message : Message) : Prop :=
  ∀ diagnostic ∈ message.allDiagnostics, ∀ limit, diagnostic.kind ≠ .nestingLimit limit

/-- What is carried inside a message that meets no limit meets none. -/
theorem Message.MeetsNoLimit.carried
    {message carried : Message}
    {element : Element}
    (meetsNoLimit : message.MeetsNoLimit)
    (member : element ∈ message.elements)
    (carries : element.value.Carries carried) :
    carried.MeetsNoLimit := by
  intro diagnostic reported
  obtain ⟨depth, inner, holds, innerReported⟩ := Message.mem_allDiagnostics_iff.mp reported
  apply meetsNoLimit
  exact Message.mem_allDiagnostics_iff.mpr
    ⟨depth + 1, inner, .nested member carries holds, innerReported⟩

/-! ## Walks -/

/-- Messages that meet no limit in the scope are nested as they are in it. -/
def Scope.Reveals
    (scope : Scope)
    (nested : Carriage → Window → Option (Message × Window)) :
    Prop :=
  ∀ carriage window message after,
    scope.nested carriage window = some (message, after) → message.MeetsNoLimit →
      ∃ farAfter, nested carriage window = some (message, farAfter)

/-- Neither the walk nor a message that it carries meets a limit. -/
structure Walk.MeetsNoLimit (walk : Walk) : Prop where
  reports : ∀ diagnostic ∈ walk.diagnostics, ∀ limit, diagnostic.kind ≠ .nestingLimit limit
  carries : ∀ element ∈ walk.elements, ∀ carried,
    element.value.Carries carried → carried.MeetsNoLimit

/-- A walk that meets no limit comes to the same when more is nested. -/
theorem Catalogue.walk_nesting
    {catalogue : Catalogue}
    {scope : Scope}
    {window : Window}
    {nested : Carriage → Window → Option (Message × Window)}
    (regular : catalogue.Regular)
    (reveals : scope.Reveals nested)
    (meetsNoLimit : (Catalogue.walk scope window catalogue).MeetsNoLimit)
    (limit : Nat) :
    Catalogue.walk (scope.nesting limit nested) window catalogue =
      Catalogue.walk scope window catalogue := by
  have alike : scope.Alike (scope.nesting limit nested) :=
    ⟨rfl, rfl, rfl, rfl⟩
  -- a message that is refused would be reported, which the walk did not
  have shares :
      scope.Shares (scope.nesting limit nested) Message.MeetsNoLimit fun diagnostic =>
        ∀ limit, diagnostic.kind ≠ .nestingLimit limit := by
    refine ⟨fun entered => reveals _ _ _ _ entered, fun _ reportable => ?_⟩
    exact (reportable _ rfl).elim
  exact Catalogue.walk_same regular alike shares ⟨meetsNoLimit.carries, meetsNoLimit.reports⟩

/-! ## Messages -/

/-- What an opening comes to is the same when more is nested and no limit was met. -/
theorem Opening.finish_nesting
    {least : Nat}
    {window : Window}
    {opening : Opening}
    {scope : Scope}
    {nested : Carriage → Window → Option (Message × Window)}
    (fits : opening.Fits least window)
    (reveals : scope.Reveals nested)
    (meetsNoLimit : (opening.finish scope).MeetsNoLimit)
    (limit : Nat) :
    opening.finish (scope.nesting limit nested) = opening.finish scope := by
  cases opening with
  | closed message =>
      rfl
  | body layout header behind =>
      have regular : (layout.body.entries scope.direction behind).Regular :=
        (fits.1.entries_isShipped scope.direction behind).regular
      have walkMeetsNoLimit : (layout.body.walk scope behind).MeetsNoLimit := by
        refine ⟨fun diagnostic member => ?_, fun element member carried carries => ?_⟩
        · apply meetsNoLimit
          exact Message.mem_allDiagnostics_iff.mpr ⟨0, _, .self, member⟩
        · exact meetsNoLimit.carried member carries
      have walk_eq :
          layout.body.walk (scope.nesting limit nested) behind = layout.body.walk scope behind :=
        Catalogue.walk_nesting regular reveals walkMeetsNoLimit limit
      rw [finish, finish, Scope.decodeBody, Scope.decodeBody, walk_eq]

namespace Setup

variable {setup : Setup} {limit depth : Nat} {carriage : Carriage} {window : Window}

/-- At a depth the messages inside are revealed that are the same one level deeper. -/
theorem reveals_of_deeper
    (larger : setup.config.maxNestingDepth ≤ limit)
    (deeper : depth < setup.config.maxNestingDepth → ∀ carriage window,
      (setup.decodeAt (depth + 1) carriage window).MeetsNoLimit →
        (setup.withLimit limit).decodeAt (depth + 1) carriage window =
          setup.decodeAt (depth + 1) carriage window) :
    (setup.scope depth).Reveals ((setup.withLimit limit).scope depth).nested := by
  intro carriage window message after entered meetsNoLimit
  rw [scope_nested] at entered ⊢
  by_cases below : depth < setup.config.maxNestingDepth
  · rw [if_pos below] at entered
    have message_eq : setup.decodeAt (depth + 1) carriage window = message := by
      rw [decodeAt, Option.some.inj entered]
    have farBelow : depth < (setup.withLimit limit).config.maxNestingDepth :=
      Nat.lt_of_lt_of_le below larger
    rw [← message_eq] at meetsNoLimit
    have far_eq := (deeper below carriage window meetsNoLimit).trans message_eq
    rw [if_pos farBelow, ← far_eq]
    exact ⟨_, rfl⟩
  · rw [if_neg below] at entered
    cases entered

/-- A message at a depth is the same under a larger limit if those one level deeper are. -/
theorem decodeAt_withLimit_of_deeper
    (larger : setup.config.maxNestingDepth ≤ limit)
    (deeper : depth < setup.config.maxNestingDepth → ∀ carriage window,
      (setup.decodeAt (depth + 1) carriage window).MeetsNoLimit →
        (setup.withLimit limit).decodeAt (depth + 1) carriage window =
          setup.decodeAt (depth + 1) carriage window)
    (meetsNoLimit : (setup.decodeAt depth carriage window).MeetsNoLimit) :
    (setup.withLimit limit).decodeAt depth carriage window =
      setup.decodeAt depth carriage window := by
  obtain ⟨opening, isPartial, fits, decode_eq⟩ := setup.decodeAt_opens carriage window
  have near_eq :
      setup.decodeAt depth carriage window =
        opening.finish { setup.scope depth with partiallyCiphered := isPartial } :=
    decode_eq setup.config.maxNestingDepth depth
  have reveals :
      Scope.Reveals { setup.scope depth with partiallyCiphered := isPartial }
        ((setup.withLimit limit).scope depth).nested :=
    reveals_of_deeper larger deeper
  rw [near_eq] at meetsNoLimit ⊢
  rw [decode_eq]
  exact Opening.finish_nesting fits reveals meetsNoLimit limit

/-- A message at a depth that meets no limit is the same under a larger limit. -/
theorem decodeAt_withLimit
    (larger : setup.config.maxNestingDepth ≤ limit)
    (meetsNoLimit : (setup.decodeAt depth carriage window).MeetsNoLimit) :
    (setup.withLimit limit).decodeAt depth carriage window =
      setup.decodeAt depth carriage window := by
  -- the induction is on the levels that may still be entered
  induction levels_eq : setup.config.maxNestingDepth - depth
    generalizing depth carriage window with
  | zero =>
      refine decodeAt_withLimit_of_deeper larger (fun below => ?_) meetsNoLimit
      exact absurd levels_eq (Nat.sub_ne_zero_of_lt below)
  | succ levels inductionHypothesis =>
      refine decodeAt_withLimit_of_deeper larger (fun _ carriage window => ?_) meetsNoLimit
      intro innerMeetsNoLimit
      exact inductionHypothesis innerMeetsNoLimit (by omega)

end Setup

/-- A larger limit reveals nothing more of a message that meets no limit. -/
theorem decode_raised
    (octets : List UInt8)
    (direction : Direction)
    (config : Config)
    {limit : Nat}
    (larger : config.maxNestingDepth ≤ limit)
    (meetsNoLimit : (decode octets direction config).MeetsNoLimit) :
    decode octets direction { config with maxNestingDepth := limit } =
      decode octets direction config := by
  rw [decode_eq_decodeAt] at meetsNoLimit ⊢
  exact Setup.decodeAt_withLimit larger meetsNoLimit

/--
A session message inside two attaches that are completed is nested too deep under
a limit of one.  Under a limit of two it is entered, and seven reveals nothing more.
-/
theorem decode_raised_attachComplete :
    let octets : List UInt8 :=
      [0x07, 0x43, 0x00, 0x07, 0x07, 0x43, 0x00, 0x03, 0x52, 0x01, 0xC2]
    let limited (limit : Nat) : Config := { Config.standard with maxNestingDepth := limit }
    (decode octets .uplink (limited 1)).allDiagnostics = [⟨.nestingLimit 1, ⟨8, 11⟩⟩] ∧
      (limited 2).maxNestingDepth ≤ 7 ∧
      (decode octets .uplink (limited 2)).MeetsNoLimit ∧
      decode octets .uplink (limited 7) = decode octets .uplink (limited 2) := by
  intro octets limited
  have larger : (limited 2).maxNestingDepth ≤ 7 := by
    decide
  have meetsNoLimit : (decode octets .uplink (limited 2)).MeetsNoLimit := by
    have none_reported : (decode octets .uplink (limited 2)).allDiagnostics = [] := by
      rfl
    intro diagnostic member
    rw [none_reported] at member
    cases member
  exact ⟨rfl, larger, meetsNoLimit, decode_raised octets .uplink (limited 2) larger meetsNoLimit⟩

end LteNas
