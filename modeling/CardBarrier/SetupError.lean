import CardBarrier.Text.Numeral

/-!
# Errors of setting a barrier up

Setting up is the one part of the barrier that can fail without stopping
anything: a setting does not hold water, the card store and the settings
disagree about the heap, or a barrier is already installed, or none is yet.
The first two are a matter of what was asked for; the last two are mistakes
of the caller (`SetupError.isMistake`).
-/

namespace CardBarrier

/-- The fewest bytes a card may have. -/
def minCardBytes : UInt64 := wordBytes

/-- The most bytes a card may have, as far as settings go. -/
def maxCardBytes : UInt64 := 4096

/-- **A setting that cannot be used.** -/
inductive SettingsError where
  /-- The card size is not a power of two. -/
  | cardSizeNotPower (size : UInt64)
  /-- A card would be smaller than a heap word. -/
  | cardTooSmall
  /-- A card would be larger than settings accept. -/
  | cardTooLarge
  /-- The card size is refused on other grounds. -/
  | cardSize (reason : String)
  /-- The width of references is refused. -/
  | referenceSize (reason : String)
  deriving DecidableEq

namespace SettingsError

/-- The wording of a refused setting. -/
def message : SettingsError → String
  | cardSizeNotPower size =>
    s!"Invalid card size: card_size must be a power of two, got {size}"
  | cardTooSmall =>
    s!"Invalid card size: card_size must be at least one heap word ({wordBytes} bytes)"
  | cardTooLarge => s!"Invalid card size: card_size must be <= {maxCardBytes} bytes"
  | cardSize reason => s!"Invalid card size: {reason}"
  | referenceSize reason => s!"Invalid reference size: {reason}"

end SettingsError

/-- **How a card store and the heap fail to fit.** -/
inductive Mismatch where
  /-- The card size is no power of two, or less than a heap word. -/
  | cardSize (size : UInt64)
  /-- The covered interval begins in the middle of a card. -/
  | unalignedStart (covered : Interval)
  /-- The store has cards of one size, the settings ask for another. -/
  | otherCardSize (store settings : UInt64)
  /-- They do not fit on other grounds. -/
  | other (reason : String)
  deriving DecidableEq

namespace Mismatch

/-- The wording of a mismatch. -/
def message : Mismatch → String
  | cardSize size => s!"card size {size} must be a power of two >= {minCardBytes}"
  | unalignedStart covered => s!"covered range {covered} does not start on a card boundary"
  | otherCardSize store settings =>
    s!"card store uses {store} byte cards, configuration expects {settings}"
  | other reason => reason

end Mismatch

/-- **Why a barrier could not be set up, or not be found.** -/
inductive SetupError where
  /-- A setting cannot be used. -/
  | settings (error : SettingsError)
  /-- The card store does not fit. -/
  | mismatch (how : Mismatch)
  /-- A barrier of that name is installed already. -/
  | occupied (name : String)
  /-- No barrier is installed yet. -/
  | vacant
  deriving DecidableEq

namespace SetupError

/-- The wording of a setup error. -/
def message : SetupError → String
  | settings error => s!"Configuration error: {error.message}"
  | mismatch how => s!"Layout mismatch: {how.message}"
  | occupied name => s!"Barrier set already installed: {name}"
  | vacant => "No barrier set installed"

/-- The caller did things in the wrong order, as against asking for
something that cannot be had. -/
def isMistake : SetupError → Bool
  | settings _ | mismatch _ => false
  | occupied _ | vacant => true

end SetupError

end CardBarrier
