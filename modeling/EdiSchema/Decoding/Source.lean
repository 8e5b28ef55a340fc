import EdiSchema.Decoding.Field
import EdiSchema.Json.Reader

/-!
# Decoding a text

A text is read as JSON and then decoded. When both fail it counts as a text that is not JSON, so
a decoding fault is only ever reported for a text that is valid JSON throughout.
-/

namespace EdiSchema.Decoding

/-- Why a text cannot be decoded. -/
inductive TextFault where
  /-- The text is not JSON. -/
  | notJson
  /-- The text is JSON, but not of the expected record. -/
  | record (fault : Fault)
  deriving DecidableEq

/-- The wording of a fault without its position in the text; what exactly is wrong with a text that
is not JSON is left open. -/
def TextFault.message : TextFault → String
  | .notJson => "JSON parse error"
  | .record fault => "JSON parse error: " ++ fault.report.text

/-- Reads a field that may occur only once. -/
def once {α : Type} (key : String) (read : Json → Result α) (earlier : Option α) (value : Json) :
    Result (Option α) :=
  match earlier with
  | some _ => .error (.duplicate key)
  | none => some <$> read value

/-- Decodes a text of which only the places given are read. -/
def ofText {α : Type} (isRead : List Json.Step → Bool) (decode : Json → Result α) (text : String) :
    Except TextFault α :=
  match Json.skim? isRead text with
  | none => .error .notJson
  | some value =>
    match decode value with
    | .ok a => .ok a
    | .error fault =>
      if (Json.parse? text).isSome then .error (.record fault) else .error .notJson

end EdiSchema.Decoding
