import KubeletCollector.Number.Integer
import KubeletCollector.Url.Host

/-!
Why the value of a setting is refused. A default that is too long to be written is refused as well.
-/

namespace KubeletCollector

open Text Number

inductive SettingError where
  | longDefault
  | integer (text : String) (cause : IntegerError)
  | decimal (text : String)
  | host (cause : Url.HostError)
  | logLevel (text : String)
  | logFormat (text : String)
deriving DecidableEq, Repr

/-- A value that is no integer is shown in at most 200 characters. The texts for a level and a format
stop short of the names that are allowed: those follow as a set, whose order no two runs share. -/
def SettingError.message : SettingError → String
  | .longDefault =>
    "Exceeds the limit (" ++ toString digitLimit
      ++ " digits) for integer string conversion; use sys.set_int_max_str_digits() to increase the limit"
  | .integer text .malformed =>
    "invalid literal for int() with base 10: "
      ++ String.ofList ((quotedChars text.toList).take 200)
  | .integer _ (.tooManyDigits count) =>
    "Exceeds the limit (" ++ toString digitLimit
      ++ " digits) for integer string conversion: value has " ++ toString count
      ++ " digits; use sys.set_int_max_str_digits() to increase the limit"
  | .decimal text => "could not convert string to float: " ++ quoted text
  | .host cause => cause.message
  | .logLevel text => "Invalid log level: " ++ text
  | .logFormat text => "Invalid log format: " ++ text

end KubeletCollector
