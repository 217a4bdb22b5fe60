import InlineCompletion.Time

/-!
# Settings

The eight knobs of the controller.  They are read from a file that users edit,
so their numbers are the 64-bit words that such a file can hold; every value of
`Settings` can be written to a file and read back.
-/

namespace InlineCompletion

/-- What a user can choose. -/
structure Settings where
  /-- How long typing must pause before suggestions are asked for. -/
  settleDelayMs : UInt64
  /-- Whether typing asks for suggestions at all. -/
  autoTriggerEnabled : Bool
  /-- Whether suggestions with code references are offered. -/
  includeSuggestionsWithReferences : Bool
  /-- How long an answer of the service is waited for. -/
  requestTimeoutMs : UInt64
  /-- How much text is sent from each side of the cursor, in characters. -/
  maxContextChars : UInt64
  /-- How many suggestions are asked for. -/
  maxResults : UInt64
  /-- Whether connections with keys may be used. -/
  allowKeyBasedConnections : Bool
  /-- How many decisions are remembered. -/
  decisionHistoryLimit : UInt64
  deriving DecidableEq, Repr

namespace Settings

/-- The settings that hold where a user has chosen nothing. -/
def standard : Settings where
  settleDelayMs := 30
  autoTriggerEnabled := true
  includeSuggestionsWithReferences := true
  requestTimeoutMs := 5000
  maxContextChars := 10240
  maxResults := 5
  allowKeyBasedConnections := false
  decisionHistoryLimit := 256

/-- The pause in typing that is waited for. -/
def settleDelay (s : Settings) : Duration := .ofMillis s.settleDelayMs.toNat

/-- The time after which a request is given up. -/
def requestTimeout (s : Settings) : Duration := .ofMillis s.requestTimeoutMs.toNat

end Settings

end InlineCompletion
