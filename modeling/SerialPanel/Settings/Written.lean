import SerialPanel.Record
import SerialPanel.Settings
import SerialPanel.Yaml.Value
namespace SerialPanel

open Document

variable {δ : Type} [Document δ]

namespace LinkSettings

def memberNames : List String :=
  ["handshake_settle_ms", "handshake_poll_interval_ms", "handshake_max_polls",
   "handshake_max_resyncs", "inter_frame_delay_ms", "frame_head"]

def read? (document : δ) : Option LinkSettings := do
  let members ← members? memberNames document
  let stock := standard
  return {
    handshakeSettle := ← member? members "handshake_settle_ms" double? stock.handshakeSettle
    pollInterval := ← member? members "handshake_poll_interval_ms" double? stock.pollInterval
    maxPolls := ← member? members "handshake_max_polls" long? stock.maxPolls
    maxResyncs := ← member? members "handshake_max_resyncs" long? stock.maxResyncs
    frameDelay := ← member? members "inter_frame_delay_ms" double? stock.frameDelay
    head := ← member? members "frame_head" (optional? byte?) (some stock.head) }

def toRecord (settings : LinkSettings) : Record :=
  .table [
    ("handshake_settle_ms", .whole settings.handshakeSettle.toNat),
    ("handshake_poll_interval_ms", .whole settings.pollInterval.toNat),
    ("handshake_max_polls", .whole settings.maxPolls.toNat),
    ("handshake_max_resyncs", .whole settings.maxResyncs.toNat),
    ("inter_frame_delay_ms", .whole settings.frameDelay.toNat),
    ("frame_head", match settings.head with
      | some head => .whole head.toNat
      | none => .null)]

end LinkSettings

namespace Settings

def memberNames : List String :=
  ["screen_width", "screen_height", "rotation", "startup_image", "link"]

def read? (document : δ) : Option Settings := do
  let members ← members? memberNames document
  let stock := standard
  return {
    screen := {
      width := ← member? members "screen_width" word? stock.screen.width
      height := ← member? members "screen_height" word? stock.screen.height }
    rotation := ← member? members "rotation" choice? stock.rotation
    startupImage := ← member? members "startup_image" byte? stock.startupImage
    link := ← member? members "link" LinkSettings.read? stock.link }

def toRecord (settings : Settings) : Record :=
  .table [
    ("screen_width", .whole settings.screen.width.toNat),
    ("screen_height", .whole settings.screen.height.toNat),
    ("rotation", .text settings.rotation.name),
    ("startup_image", .whole settings.startupImage.toNat),
    ("link", settings.link.toRecord)]

end Settings

namespace Yaml

def unreadable : Fault := .settings "YAML" "the document cannot be read"

end Yaml

def Settings.ofYaml (text : String) : Except Fault Settings := do
  let settings ← match Yaml.Node.parse text with
    | none => .error Yaml.unreadable
    | some none => .ok standard
    | some (some node) =>
      match Settings.read? node with
      | some settings => .ok settings
      | none => .error Yaml.unreadable
  settings.check
  return settings

def Yaml.numberOf (text : String) : Except Fault UInt32 :=
  match Node.parse text with
  | some (some node) =>
    match Document.long? node with
    | some number => .ok number
    | none => .error unreadable
  | _ => .error unreadable

end SerialPanel
