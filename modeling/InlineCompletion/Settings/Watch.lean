import InlineCompletion.Settings
import InlineCompletion.Time
import InlineCompletion.Wire

/-!
# Watching the settings file

A settings file may change while the controller runs.  It is looked at when the
host passes by, but not more often than every half second, and it is read only
when its modification time is not the one that was found last.

The disk is no part of this: what the file is at the moment is handed in with
each look, as a `FileVersion`.  A version whose text describes no settings is
remembered like any other, so that it is not read over and over, and a file that
is gone changes nothing.
-/

namespace InlineCompletion

/-- A file as it is found: when it was written and what it holds. -/
structure FileVersion where
  /-- The modification time. -/
  modified : Int
  /-- The text of the file, none when its bytes are no text. -/
  text : Option String
  deriving DecidableEq, Repr

/-- What is remembered of a watched settings file. -/
structure SettingsWatch where
  /-- When the file was looked at last. -/
  lastCheck : Option Instant
  /-- The modification time that was found last. -/
  lastModified : Option Int
  deriving DecidableEq, Repr

namespace SettingsWatch

/-- How long a look at the file is enough for. -/
def checkInterval : Duration := .ofMillis 500

/-- Begins to watch a file that is in the given state. -/
def start (file : Option FileVersion) : SettingsWatch := ⟨none, file.map (·.modified)⟩

/-- Whether it is time to look at the file. -/
def isDue (w : SettingsWatch) (now : Instant) : Bool :=
  match w.lastCheck with
  | none => true
  | some last => checkInterval ≤ now.since last

/-- Looks at the file if it is time to: the new settings if there are any, and
what to remember.  A version that cannot be read is remembered all the same. -/
def poll (w : SettingsWatch) (now : Instant) (file : Option FileVersion) :
    Option Settings × SettingsWatch :=
  if !w.isDue now then (none, w)
  else
    let w := { w with lastCheck := some now }
    match file with
    | none => (none, w)
    | some version =>
        if w.lastModified = some version.modified then (none, w)
        else
          (version.text.bind Settings.ofText?, { w with lastModified := some version.modified })

end SettingsWatch

end InlineCompletion
