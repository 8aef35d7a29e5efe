import ContestExchange.Capture.Settings
import ContestExchange.Document.Conversion
import ContestExchange.Station.ConfigPart
import ContestExchange.Station.Store
import ContestExchange.Text.Blank
import ContestExchange.Text.Capital

namespace ContestExchange

/-!
# The station's configuration

A configuration has four parts: the station, the contest, the keyer and the console.  A document
gives any of their settings; what it does not give keeps its standard value, and what is no setting
is passed over.  Settings that the program calculates with are brought into range; all others keep
the document's values, so that saving a configuration writes back what was read.

Faults of a part itself come before all others: a part that is no mapping, and a setting that cannot
be given.
-/

/-- Who operates. -/
structure StationConfig where
  myCall : Text
  mode : Mode
  listing : Listing := .full

/-- Which contest is worked, and the files about it. -/
structure ContestConfig where
  name : Text
  rulesFile : Value
  templatesFile : Value
  multipliersFile : Value
  listing : Listing := .full

/-- How messages are keyed. -/
structure KeyerConfig where
  wpm : Quantity
  pitch : Value
  volume : Double
  sampleRate : Value
  outputDevice : Value
  messages : List Text
  listing : Listing := .full

/-- How the console behaves. -/
structure ConsoleConfig where
  ctCompatible : Value
  callUpdate : Value
  changeReport : Value
  qtc : QtcDirection
  pollInterval : Double
  listing : Listing := .full

/-- The station's configuration. -/
structure Config where
  station : StationConfig
  contest : ContestConfig
  keyer : KeyerConfig
  console : ConsoleConfig

namespace Config

/-! ## Standard values -/

/-- The number of prepared messages. -/
def messageCount : Nat := 24

/-- The messages before any are prepared: twelve, and empty ones behind them. -/
def standardMessages : List Text :=
  ["CQ % TEST", "@ 5NN #", "TU %", "TU 73", "@", "%", "@ SRI QSO B4 GL", "AGN", "?", "QRZ?",
   "PSE K", "CQ % %"].map Text.ofString ++ List.replicate 12 []

/-- The configuration before anything is configured. -/
def standard : Config :=
  { station := { myCall := Text.ofString "N0CALL", mode := .cw }
    contest :=
      { name := Text.ofString "GENERAL"
        rulesFile := .null
        templatesFile := .null
        multipliersFile := .null }
    keyer :=
      { wpm := .whole 30
        pitch := .double (.ofInt 600)
        volume := .ofRatio false 3 10
        sampleRate := .int 48000
        outputDevice := .null
        messages := standardMessages }
    console :=
      { ctCompatible := .bool false
        callUpdate := .bool true
        changeReport := .bool false
        qtc := .off
        pollInterval := .ofRatio false 1 100 } }

/-! ## Settings in range -/

/-- The text of a setting, or a standard text when the setting counts as off. -/
def textOr (depth : Nat) (standard : String) (value : Value) : Except Fault Text :=
  (if value.isSet then value.toText depth else .ok (Text.ofString standard)).map Text.trim

/-- The text of a setting in capitals. -/
def capitalsOr (depth : Nat) (standard : String) (value : Value) : Except Fault Text :=
  (textOr depth standard value).map Text.upper

/-- The mode that a setting names; any other setting gives Morse. -/
def modeOf (depth : Nat) (value : Value) : Except Fault Mode :=
  (capitalsOr depth "CW" value).map fun name => (Mode.named? name).getD .cw

/-- The direction that a setting names; any other setting gives none. -/
def directionOf (depth : Nat) (value : Value) : Except Fault QtcDirection :=
  (textOr depth "off" value).map fun name => (QtcDirection.named? (Text.lower name)).getD .off

/-- A number brought between two others; what is not a number becomes the greater one. -/
def between (low high number : Double) : Double := Double.greatest low (Double.least high number)

/-- The seconds to wait for a key: a thousandth to one. -/
def pollIntervalOf (value : Value) : Except Fault Double :=
  value.toDouble.map (between (.ofRatio false 1 1000) (.ofInt 1))

/-- The volume: zero to one. -/
def volumeOf (value : Value) : Except Fault Double :=
  value.toDouble.map (between .zero (.ofInt 1))

/-- The speed: at least one word per minute. -/
def speedOf (value : Value) : Except Fault Quantity := value.toInt.map fun wpm => .whole (max 1 wpm)

/-- Fills a list of messages up with the standard ones, and cuts off what has no key. -/
def fillMessages (messages : List Text) : List Text :=
  messages.take messageCount ++ standardMessages.drop messages.length

/-- The messages: as many as there are keys for them. -/
def messagesOf (depth : Nat) (value : Value) : Except Fault (List Text) := do
  return fillMessages (← Value.toTexts depth (← value.elementsIfSet))

/-! ## Reading a document -/

/-- The configuration that the four parts of a document give. -/
def ofParts (depth : Nat) (station contest keyer console : ConfigPart) : Except Fault Config := do
  let start := standard
  let myCall ← capitalsOr depth "N0CALL" (station.setting "my_call" .null)
  let mode ← modeOf depth (station.setting "trx_mode" .null)
  let name ← capitalsOr depth "GENERAL" (contest.setting "name" .null)
  let qtc ← directionOf depth (console.setting "qtc_direction" .null)
  let pollInterval ←
    pollIntervalOf (console.setting "poll_interval" (.double start.console.pollInterval))
  let wpm ← speedOf (keyer.setting "wpm" (.ofQuantity start.keyer.wpm))
  let volume ← volumeOf (keyer.setting "volume" (.double start.keyer.volume))
  let messages ←
    messagesOf depth (← keyer.ownSetting "messages" (.list (start.keyer.messages.map .text)))
  return {
    station :=
      { myCall := myCall
        mode := mode
        listing := station.listing }
    contest :=
      { name := name
        rulesFile := contest.setting "rules_file" start.contest.rulesFile
        templatesFile := contest.setting "templates_file" start.contest.templatesFile
        multipliersFile := contest.setting "multipliers_file" start.contest.multipliersFile
        listing := contest.listing }
    keyer :=
      { wpm := wpm
        pitch := keyer.setting "tone_hz" start.keyer.pitch
        volume := volume
        sampleRate := keyer.setting "sample_rate" start.keyer.sampleRate
        outputDevice := keyer.setting "output_device" start.keyer.outputDevice
        messages := messages
        listing := keyer.listing }
    console :=
      { ctCompatible := console.setting "ct_compat" start.console.ctCompatible
        callUpdate := console.setting "call_update" start.console.callUpdate
        changeReport := console.setting "change_rst" start.console.changeReport
        qtc := qtc
        pollInterval := pollInterval
        listing := console.listing } }

/-- The entries of a document, which is a mapping or counts as off. -/
def entriesOf : Value → Except Fault (List (Value × Value))
  | .mapping entries => .ok entries
  | other => if other.isSet then .error .withoutParts else .ok []

/-- The configuration that a document gives. -/
def ofDocument (depth : Nat) (document : Value) : Except Fault Config := do
  let entries ← entriesOf document
  let station ← ConfigPart.ofDocument entries "station"
  let contest ← ConfigPart.ofDocument entries "contest"
  let keyer ← ConfigPart.ofDocument entries "keyer"
  let console ← ConfigPart.ofDocument entries "console"
  ofParts depth station contest keyer console

/-! ## Writing a document -/

/-- What is written of the settings of a part. -/
def listed (listing : Listing) (settings : List (String × Value)) : Except Fault Value :=
  match listing with
  | .full => .ok (Value.fields settings)
  | .empty => .ok (.mapping [])
  | .unusable => .error .withoutParts

/-- The station as it is written. -/
def stationDocument (station : StationConfig) : Except Fault Value :=
  listed station.listing
    [("my_call", .text station.myCall), ("trx_mode", .text station.mode.name)]

/-- The contest as it is written. -/
def contestDocument (contest : ContestConfig) : Except Fault Value :=
  listed contest.listing
    [("name", .text contest.name), ("rules_file", contest.rulesFile),
     ("templates_file", contest.templatesFile), ("multipliers_file", contest.multipliersFile)]

/-- The keyer as it is written. -/
def keyerDocument (keyer : KeyerConfig) : Except Fault Value :=
  listed keyer.listing
    [("wpm", .ofQuantity keyer.wpm), ("tone_hz", keyer.pitch), ("volume", .double keyer.volume),
     ("sample_rate", keyer.sampleRate), ("output_device", keyer.outputDevice),
     ("messages", .list (keyer.messages.map .text))]

/-- The console as it is written. -/
def consoleDocument (console : ConsoleConfig) : Except Fault Value :=
  listed console.listing
    [("ct_compat", console.ctCompatible), ("call_update", console.callUpdate),
     ("change_rst", console.changeReport), ("qtc_direction", .text console.qtc.name),
     ("poll_interval", .double console.pollInterval)]

/-- The document that gives a configuration, as far as its parts are written. -/
def toDocument (config : Config) : Except Fault Value := do
  return Value.fields
    [("station", ← stationDocument config.station), ("contest", ← contestDocument config.contest),
     ("keyer", ← keyerDocument config.keyer), ("console", ← consoleDocument config.console)]

/-! ## Files and settings -/

/-- Writes a configuration into a file. -/
def save (config : Config) (store : Store) (path : Text) : Except Fault Store := do
  store.writeDocument path (← config.toDocument)

/-- The configuration of a file; a file that is missing is written with the standard one. -/
def load (store : Store) (path : Text) : Except Fault (Config × Store) := do
  if ← store.exists? path then
    return (← ofDocument store.form.depth (← store.readDocument path), store)
  else
    return (standard, ← standard.save store path)

/-- The choices of a configuration that bear on the exchange field. -/
def captureSettings (config : Config) : CaptureSettings :=
  { myCall := config.station.myCall
    mode := config.station.mode
    ctCompatible := config.console.ctCompatible.isSet
    callUpdate := config.console.callUpdate.isSet
    changeReport := config.console.changeReport.isSet
    qtc := config.console.qtc }

end Config
end ContestExchange
