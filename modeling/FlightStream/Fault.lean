import FlightStream.Text.Quoted

/-!
What can go wrong while records flow: bad arithmetic, a record or frame that cannot be read, a
failing handler, a broken connection, a refused definition. A fault is its cause; the words
that users see (`kind`, `message`, and `shown` for log lines) are derived from it here and
nowhere else.
-/

namespace FlightStream

/-- How a connection to the metrics store fails. -/
inductive LinkFault
  | refused | reset | system | timedOut | waitExpired | internal
  deriving DecidableEq, Repr

/-- What is wrong with the name of a host: its form, a character, where a character stands, or the
directions of its characters. -/
inductive NameFault
  | form | character | position | direction
  deriving DecidableEq, Repr

/-- The causes of failure. -/
inductive Fault
  | integerTooLarge
  | quotientTooLarge
  | divisionByZero
  | floatDivisionByZero
  | nanToInteger
  | infinityToInteger
  | outsideDomain
  | notANumber (text : String)
  | digitLimit (digits : Nat)
  | writeLimit
  | nestedTooDeep (inside : String)
  | valueExpected (line column place : Nat)
  | notPlain (text : String)
  | emptySelection
  | indexOutOfRange (container : String)
  | typeMismatch (detail : String)
  | windowNotPositive
  | slideExceedsSize
  | negativeLateness
  | noStages
  | missingKey
  | negativeBacklog
  | negativeIncrement
  | metricMisuse (detail : String)
  | duplicateMetric (detail : String)
  | missingAttribute (detail : String)
  | rejectedElement (text : String)
  | handlerFailed (text : String)
  | fileMissing (path : String)
  | pathIsDirectory (path : String)
  | pathTooLong (path : String)
  | frameTooShort
  | frameLength (declared carried : Nat)
  | tooFewValues (expected got : Nat)
  | tooManyValues (expected : Nat)
  | frameEnded
  | frameCorrupt (detail : String)
  | frameVersion (version : Nat)
  | undecodable (detail : String)
  | unknownLevel (level : String)
  | badTemplate (detail : String)
  | numberTooWide (detail : String)
  | unknownKey (name : String)
  | dateOutOfRange (detail : String)
  | timeOutOfRange
  | yearTooLarge
  | link (cause : LinkFault) (text : String)
  | badAddress (detail : String)
  | badName (cause : NameFault) (detail : String)
  | noScheme (address : String)
  | serverUnavailable (text : String)
  | serverExited (code : Nat)
  deriving DecidableEq, Repr

namespace Fault

/-- The family of a connection failure. -/
def linkKind : LinkFault → String
  | .refused => "ConnectionRefusedError"
  | .reset => "ConnectionResetError"
  | .system => "OSError"
  | .timedOut | .waitExpired => "TimeoutError"
  | .internal => "RuntimeError"

/-- The family of what is wrong with a name. -/
def nameKind : NameFault → String
  | .form => "IDNAError"
  | .character => "InvalidCodepoint"
  | .position => "InvalidCodepointContext"
  | .direction => "IDNABidiError"

/-- The family that a fault is reported under. -/
def kind : Fault → String
  | integerTooLarge | quotientTooLarge | infinityToInteger | timeOutOfRange
  | numberTooWide _ => "OverflowError"
  | unknownKey _ => "KeyError"
  | duplicateMetric _ => "DuplicateTimeseries"
  | divisionByZero | floatDivisionByZero => "ZeroDivisionError"
  | nanToInteger | outsideDomain | notANumber _ | digitLimit _ | writeLimit | windowNotPositive
  | slideExceedsSize | negativeLateness | noStages | missingKey | negativeBacklog
  | negativeIncrement | metricMisuse _ | rejectedElement _ | frameTooShort | frameLength _ _
  | tooFewValues _ _ | tooManyValues _ | frameVersion _ | unknownLevel _
  | badTemplate _ | dateOutOfRange _ | noScheme _ => "ValueError"
  | emptySelection | indexOutOfRange _ => "IndexError"
  | typeMismatch _ => "TypeError"
  | missingAttribute _ => "AttributeError"
  | handlerFailed _ => "RuntimeError"
  | nestedTooDeep _ => "RecursionError"
  | valueExpected _ _ _ => "JSONDecodeError"
  | notPlain _ => "UnicodeEncodeError"
  | fileMissing _ => "FileNotFoundError"
  | pathIsDirectory _ => "IsADirectoryError"
  | frameEnded => "EOFError"
  | frameCorrupt _ => "UnpicklingError"
  | undecodable _ => "UnicodeDecodeError"
  | link cause _ => linkKind cause
  | badAddress _ => "InvalidURL"
  | badName cause _ => nameKind cause
  | serverUnavailable _ | yearTooLarge | pathTooLong _ => "OSError"
  | serverExited _ => "SystemExit"

/-- The characters of a text before the first that is not plain, and that one with those of its kind
right after it. -/
def notPlainRun (text : String) : List Char × List Char :=
  let (before, rest) := text.toList.span (·.toNat < 128)
  (before, rest.takeWhile (128 ≤ ·.toNat))

/-- The text about the first characters of a text that are not plain. -/
def notPlainText (text : String) : String :=
  let (before, run) := notPlainRun text
  let place := before.length
  "'ascii' codec can't encode character" ++
    (match run with
      | [c] => s!" '{String.ofList (Text.numberedChar c.toNat)}' in position {place}"
      | _ => s!"s in position {place}-{place + run.length - 1}") ++
    ": ordinal not in range(128)"

/-- The text of a fault. -/
def message : Fault → String
  | integerTooLarge => "int too large to convert to float"
  | quotientTooLarge => "integer division result too large for a float"
  | divisionByZero => "division by zero"
  | floatDivisionByZero => "float division by zero"
  | nanToInteger => "cannot convert float NaN to integer"
  | infinityToInteger => "cannot convert float infinity to integer"
  | outsideDomain => "math domain error"
  | notANumber text => "could not convert string to float: " ++ Text.quoted text
  | digitLimit digits =>
    s!"Exceeds the limit (4300 digits) for integer string conversion: value has {digits} " ++
      "digits; use sys.set_int_max_str_digits() to increase the limit"
  | writeLimit =>
    "Exceeds the limit (4300 digits) for integer string conversion; " ++
      "use sys.set_int_max_str_digits() to increase the limit"
  | nestedTooDeep inside =>
    s!"maximum recursion depth exceeded while decoding a JSON {inside} from a unicode string"
  | valueExpected line column place =>
    s!"Expecting value: line {line} column {column} (char {place})"
  | notPlain text => notPlainText text
  | emptySelection => "list index out of range"
  | indexOutOfRange container => container ++ " index out of range"
  | windowNotPositive => "Window size and slide must be positive"
  | slideExceedsSize => "Slide must not exceed the window size"
  | negativeLateness => "allowed_lateness_ms must be >= 0"
  | noStages => "write_to needs at least one stage."
  | missingKey => "Call grouping_key() before aggregate()."
  | negativeBacklog => "maxlen must be non-negative"
  | negativeIncrement => "Counters can only be incremented by non-negative amounts."
  | fileMissing path => "[Errno 2] No such file or directory: " ++ Text.quoted path
  | pathIsDirectory path => "[Errno 21] Is a directory: " ++ Text.quoted path
  | pathTooLong path => "[Errno 36] File name too long: " ++ Text.quoted path
  | frameTooShort => "Frame shorter than its length header"
  | frameLength declared carried =>
    s!"Frame declares {declared} payload bytes but carries {carried}"
  | tooFewValues expected got =>
    s!"not enough values to unpack (expected {expected}, got {got})"
  | tooManyValues expected => s!"too many values to unpack (expected {expected})"
  | frameEnded => "Ran out of input"
  | frameVersion version => s!"unsupported pickle protocol: {version}"
  | unknownLevel level => "Unknown level: " ++ Text.quoted level
  | unknownKey name => Text.quoted name
  | noScheme address => "unknown url type: " ++ Text.quoted address
  | timeOutOfRange => "timestamp out of range for platform time_t"
  | yearTooLarge => "[Errno 75] Value too large for defined data type"
  | link .waitExpired _ => ""
  | serverExited code => s!"{code}"
  | typeMismatch text | metricMisuse text | duplicateMetric text | missingAttribute text
  | rejectedElement text | handlerFailed text | frameCorrupt text | undecodable text
  | badTemplate text | dateOutOfRange text | numberTooWide text | badAddress text
  | badName _ text | link _ text | serverUnavailable text => text

/-- A fault as log lines show it: its kind and, in brackets, what it says. -/
def shown : Fault → String
  | link .waitExpired _ => "TimeoutError()"
  | serverExited code => s!"SystemExit({code})"
  | fileMissing _ => "FileNotFoundError(2, 'No such file or directory')"
  | pathIsDirectory _ => "IsADirectoryError(21, 'Is a directory')"
  | unknownKey name => "KeyError(" ++ Text.quoted name ++ ")"
  | notPlain text =>
    let (before, run) := notPlainRun text
    "UnicodeEncodeError('ascii', " ++ Text.quoted text ++
      s!", {before.length}, {before.length + run.length}, 'ordinal not in range(128)')"
  | pathTooLong _ => "OSError(36, 'File name too long')"
  | yearTooLarge => "OSError(75, 'Value too large for defined data type')"
  | fault => fault.kind ++ "(" ++ Text.quoted fault.message ++ ")"

end Fault

end FlightStream
