import Timex.Calendar.Error
import Timex.Text.Quoted
import Timex.Value.Display

/-!
# Why a document has no value
-/

namespace Timex.Yaml

/-- A scalar whose text does not have the form of its tag, or a number beyond a limit. -/
inductive ConversionError where
  /-- An escape for a number that is no character. -/
  | codePoint (n : Nat)
  | integer (base : Nat) (text : WideText)
  /-- A decimal numeral of too many digits. -/
  | longNumeral (digits : Nat)
  /-- An integer that would take too many digits to write. -/
  | longInteger
  | float (text : WideText)
  /-- A place value of base 60 beyond the floating numbers. -/
  | greatPower
  | emptyNumber
  | boolean (text : WideText)
  | timestamp
  /-- A mapping in place of the text of a timestamp. -/
  | mappedTimestamp
  | calendar (e : CalendarError)
  /-- An offset from UTC of a day or more, in minutes. -/
  | offset (minutes : Int)
  /-- Nodes inside nodes beyond the limit, or default entries that go round in a circle. -/
  | tooDeep
  deriving DecidableEq, Repr

namespace ConversionError

def limitText : Text :=
  "Exceeds the limit (".toList ++ Text.decimal Value.digitLimit ++
    " digits) for integer string conversion".toList

def limitAdvice : Text := "; use sys.set_int_max_str_digits() to increase the limit".toList

/-- The wording. Of a text that is no integer it shows 200 characters at most. -/
def message : ConversionError → Text
  | .codePoint n =>
    if n < wordBound then "chr() arg not in range(0x110000)".toList
    else "Python int too large to convert to C int".toList
  | .integer base text =>
    "invalid literal for int() with base ".toList ++ Text.decimal base ++ ": ".toList ++
      text.quoted.take 200
  | .longNumeral digits =>
    limitText ++ ": value has ".toList ++ Text.decimal digits ++ " digits".toList ++ limitAdvice
  | .longInteger => limitText ++ limitAdvice
  | .float text => "could not convert string to float: ".toList ++ text.quoted
  | .greatPower => "int too large to convert to float".toList
  | .emptyNumber => "string index out of range".toList
  | .boolean text => text.quoted
  | .timestamp => "'NoneType' object has no attribute 'groupdict'".toList
  | .mappedTimestamp => "expected string or bytes-like object, got 'list'".toList
  | .calendar e => e.message
  | .offset minutes =>
    "offset must be a timedelta strictly between -timedelta(hours=24) and ".toList ++
      "timedelta(hours=24), not ".toList ++ Moment.spanText minutes ++ ['.']
  | .tooDeep => "maximum recursion depth exceeded".toList

end ConversionError

inductive Error where
  /-- The text is not a single document of the language. -/
  | malformed (why : String)
  /-- The text ends inside of quotes. -/
  | unfinished
  | notUtf8
  | unconvertible (why : ConversionError)
  deriving DecidableEq, Repr

end Timex.Yaml
