import Stencil.Filter.Number
import Stencil.Filter.Text
import Stencil.Moment.Format
import Stencil.Moment.Reader
import Stencil.Table
import Stencil.Text.Bytes

/-!
# The core filters

Every template has these filters and globals at hand.
-/

namespace Stencil

namespace Filter

open Stencil.Decimal
open Stencil.Text

/-- The moment that a value names: a number counts seconds, another text is a date. -/
def moment? (v : Value) : Option Moment :=
  match v.number?, v with
  | some seconds, _ => Moment.ofSeconds? (floorInt64 seconds)
  | none, .string s => Moment.ofText? s.toList
  | none, _ => none

/-- The format of a date when none is given. -/
def dateFormat : String := "Y-m-d H:i:s"

/-- The moment of the value in the format of the first argument. -/
def date : Filter := fun v args =>
  let format := (args.head?.map Value.render).getD dateFormat
  let text := (moment? v).bind fun m => m.format? format.toList
  (text.map fun cs => Value.string (String.ofList cs)).getD .null

/-- The filters for all templates. -/
def core : Table Filter :=
  [("upper", onText upper), ("lower", onText lower), ("capitalize", onText capitalize),
    ("title", onText title), ("trim", onText trim), ("url_encode", onText formEncode),
    ("length", length), ("reverse", reverse), ("replace", replace), ("slice", slice),
    ("first", first), ("last", last), ("join", join), ("sort", sort), ("keys", keys),
    ("values", values), ("default", orDefault), ("json", json), ("base64", onText base64),
    ("nl2br", onText withBreaks), ("strip_tags", onText stripTags), ("abs", abs), ("round", round),
    ("number_format", numberFormat), ("date", date)]

end Filter

/-- The globals for all templates. -/
def coreGlobals : Table Value := [("_version", .string "1.0.0"), ("_charset", .string "UTF-8")]

end Stencil
