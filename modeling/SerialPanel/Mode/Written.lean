import SerialPanel.Color
import SerialPanel.Handshake
import SerialPanel.Mode
import SerialPanel.Record
namespace SerialPanel

open Document

variable {δ : Type} [Document δ]

def Named.toRecord [Named α] (value : α) : Record := .text (Named.name value)

def Color.read? (document : δ) : Option Color := (word? document).map Color.mk

def Color.toRecord (color : Color) : Record := .whole color.toInt

namespace TextMode

def memberNames : List String := ["width_adjust", "show_background", "font_size"]

def read? (document : δ) : Option TextMode := do
  let members ← members? memberNames document
  return {
    widthAdjust := ← member? members "width_adjust" flag? none
    showBackground := ← member? members "show_background" flag? none
    font := ← member? members "font_size" choice? none }

def toRecord (mode : TextMode) : Record :=
  .table [
    ("width_adjust", .flag mode.widthAdjust),
    ("show_background", .flag mode.showBackground),
    ("font_size", Named.toRecord mode.font)]

end TextMode

namespace NumberMode

def memberNames : List String :=
  ["show_background", "signed", "zero_fill", "zero_mode", "font_size"]

def read? (document : δ) : Option NumberMode := do
  let members ← members? memberNames document
  return {
    showBackground := ← member? members "show_background" flag? none
    signed := ← member? members "signed" flag? none
    zeroFill := ← member? members "zero_fill" flag? none
    zeroMode := ← member? members "zero_mode" flag? none
    font := ← member? members "font_size" choice? none }

def toRecord (mode : NumberMode) : Record :=
  .table [
    ("show_background", .flag mode.showBackground),
    ("signed", .flag mode.signed),
    ("zero_fill", .flag mode.zeroFill),
    ("zero_mode", .flag mode.zeroMode),
    ("font_size", Named.toRecord mode.font)]

end NumberMode

namespace MoveMode

def memberNames : List String := ["translate", "direction"]

def read? (document : δ) : Option MoveMode := do
  let members ← members? memberNames document
  return {
    slides := ← member? members "translate" flag? none
    direction := ← member? members "direction" choice? none }

def toRecord (mode : MoveMode) : Record :=
  .table [("translate", .flag mode.slides), ("direction", Named.toRecord mode.direction)]

end MoveMode

end SerialPanel
