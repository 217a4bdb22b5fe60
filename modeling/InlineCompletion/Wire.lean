import InlineCompletion.Event
import InlineCompletion.Json.Printer
import InlineCompletion.Json.Reader
import InlineCompletion.Wire.Record

/-!
# The controller's types on the wire

How suggestions, settings, identifiers and requests are written as JSON and
read back.  Each type has an `encode`, and those that are also received have a
`decode?`, which answers none for a value that does not describe one.

A field that would say nothing — an absent reference field, an empty list of
references — is left out on writing, and means just that on reading.
-/

namespace InlineCompletion

open Wire

/-- The members with a value, in their order. -/
def Wire.present (members : List (String × Option Json)) : Json :=
  .object (members.filterMap fun m => m.2.map fun j => (m.1, j))

namespace DocumentId

/-- A document identifier is written as its text. -/
def encode (id : DocumentId) : Json := .string id.text

/-- Reads a document identifier. -/
def decode? (j : Json) : Option DocumentId := (text? j).map .mk

end DocumentId

namespace ConnectionId

/-- A connection identifier is written as its text. -/
def encode (id : ConnectionId) : Json := .string id.text

/-- Reads a connection identifier. -/
def decode? (j : Json) : Option ConnectionId := (text? j).map .mk

end ConnectionId

namespace Language

/-- A language is written as its name. -/
def encode (l : Language) : Json := .string l.name

/-- Reads a language. -/
def decode? (j : Json) : Option Language := choice? ofName? j

end Language

namespace TriggerKind

/-- What is named like this. -/
def ofName? (s : String) : Option TriggerKind :=
  if s = "auto" then some .auto else if s = "manual" then some .manual else none

/-- What made a request is written as its name. -/
def encode (k : TriggerKind) : Json := .string k.name

/-- Reads what made a request. -/
def decode? (j : Json) : Option TriggerKind := choice? ofName? j

end TriggerKind

namespace Reference

/-- The names of the fields, in their order. -/
def fieldNames : List String := ["license", "repository", "url", "span"]

/-- A reference is written with the fields that it has. -/
def encode (r : Reference) : Json :=
  present
    [("license", r.license.map .string), ("repository", r.repository.map .string),
      ("url", r.url.map .string),
      ("span", r.span.map fun s => .array [ofWord s.1, ofWord s.2])]

/-- Reads a reference. -/
def decode? (j : Json) : Option Reference :=
  match fieldsOf? fieldNames j with
  | some [license, repository, url, span] => do
      let license ← optional text? license
      let repository ← optional text? repository
      let url ← optional text? url
      let span ← optional (pair? word?) span
      return ⟨license, repository, url, span⟩
  | _ => none

end Reference

namespace Suggestion

/-- The names of the fields, in their order. -/
def fieldNames : List String := ["content", "references"]

/-- A suggestion is written with its references only if it has any. -/
def encode (s : Suggestion) : Json :=
  present
    [("content", some (.string s.content)),
      ("references",
        if s.references.isEmpty then none
        else some (.array (s.references.map Reference.encode)))]

/-- Reads a suggestion. -/
def decode? (j : Json) : Option Suggestion :=
  match fieldsOf? fieldNames j with
  | some [content, references] => do
      let content ← required text? content
      let references ← withDefault [] (list? Reference.decode?) references
      return ⟨content, references⟩
  | _ => none

end Suggestion

namespace Settings

/-- The names of the fields, in their order. -/
def fieldNames : List String :=
  ["settle_delay_ms", "auto_trigger_enabled", "include_suggestions_with_references",
    "request_timeout_ms", "max_context_chars", "max_results", "allow_key_based_connections",
    "decision_history_limit"]

/-- Settings are written with every field. -/
def encode (s : Settings) : Json :=
  .object
    [("settle_delay_ms", ofWord s.settleDelayMs),
      ("auto_trigger_enabled", .bool s.autoTriggerEnabled),
      ("include_suggestions_with_references", .bool s.includeSuggestionsWithReferences),
      ("request_timeout_ms", ofWord s.requestTimeoutMs),
      ("max_context_chars", ofWord s.maxContextChars),
      ("max_results", ofWord s.maxResults),
      ("allow_key_based_connections", .bool s.allowKeyBasedConnections),
      ("decision_history_limit", ofWord s.decisionHistoryLimit)]

/-- Reads settings.  A field that is not given has its standard value. -/
def decode? (j : Json) : Option Settings :=
  match fieldsOf? fieldNames j with
  | some [delay, auto, references, timeout, chars, results, keys, limit] => do
      let delay ← withDefault standard.settleDelayMs word? delay
      let auto ← withDefault standard.autoTriggerEnabled bool? auto
      let references ← withDefault standard.includeSuggestionsWithReferences bool? references
      let timeout ← withDefault standard.requestTimeoutMs word? timeout
      let chars ← withDefault standard.maxContextChars word? chars
      let results ← withDefault standard.maxResults word? results
      let keys ← withDefault standard.allowKeyBasedConnections bool? keys
      let limit ← withDefault standard.decisionHistoryLimit word? limit
      return ⟨delay, auto, references, timeout, chars, results, keys, limit⟩
  | _ => none

/-- Reads settings from a text. -/
def ofText? (s : String) : Option Settings := (Json.parse? s).bind decode?

/-- Settings as they are written to a file. -/
def toText (s : Settings) : String := s.encode.indented

end Settings

/-- A duration is written in whole seconds and the nanoseconds beyond them. -/
def Duration.encode (d : Duration) : Json :=
  .object [("secs", .ofNat d.seconds), ("nanos", .ofNat d.subsecondNanos)]

/-- A window on a document is written with every field. -/
def FileWindow.encode (c : FileWindow) : Json :=
  .object
    [("filename", .string c.filename), ("language", c.language.encode),
      ("left_content", .string c.leftContent), ("right_content", .string c.rightContent),
      ("cursor", .ofNat c.cursor)]

/-- A request is written with the time since the last change only if it has one. -/
def Request.encode (r : Request) : Json :=
  present
    [("file_context", some r.window.encode),
      ("max_results", some (.ofNat r.maxResults)),
      ("trigger", some r.trigger.encode),
      ("time_since_last_modification", r.sinceLastModification.map Duration.encode)]

end InlineCompletion
