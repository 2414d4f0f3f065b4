import AccessPolicy.Text.Utf8
import AccessPolicy.Value.Display

/-!
# Failures

What can go wrong, by cause. A `Rejection` is an argument or a document that breaks a rule of this
library, each with a message of its own. A `Failure` is a rejection or a fault from elsewhere: a
value of a kind that an operation cannot use, a numeral or a date that cannot be read, a file that
cannot be used, an answer of the service, an interruption.

`Failure.message` gives the wording; `Failure.isExpected` tells the failures that a command reports
and ends on from those that it lets through. A message that shows a value is the one of
`IntegerFault.tooLong` if the value has no text.
-/

namespace AccessPolicy

/-- The wording of a failure to read or to write an integer. -/
def IntegerFault.message : IntegerFault → String
  | malformed radix found =>
    "invalid literal for int() with base " ++ toString radix ++ ": "
      ++ String.ofList ((Text.quoted found).toList.take 200)
  | tooManyDigits count =>
    "Exceeds the limit (" ++ toString Numeral.longest
      ++ " digits) for integer string conversion: value has " ++ toString count
      ++ " digits; use sys.set_int_max_str_digits() to increase the limit"
  | tooLong =>
    "Exceeds the limit (" ++ toString Numeral.longest
      ++ " digits) for integer string conversion; use sys.set_int_max_str_digits() to increase the "
      ++ "limit"

/-- The wording of a message that shows a value, given what it is with the text of the value. -/
def Value.showing (v : Value) (wording : String → String) : String :=
  if v.isWritable then wording v.term else IntegerFault.tooLong.message

/-- An argument or a document that breaks a rule. -/
inductive Rejection where
  /-- A member string is null. -/
  | nullMember
  /-- A member is no text. -/
  | memberNotText (found : Value)
  /-- A member string has no kind and value. -/
  | malformedMember (member : String)
  /-- A member string names an unknown kind. -/
  | unsupportedMemberKind (kind member : String)
  /-- An e-mail address or a domain is null. -/
  | nullMemberValue (what : String)
  /-- A role is null. -/
  | nullRole
  /-- An identity is null. -/
  | nullIdentity
  /-- A map of bindings is null. -/
  | nullBindings
  /-- A set of identities is null. -/
  | nullIdentitySet
  /-- A policy document is null. -/
  | nullDocument
  /-- The bindings of a document are no list. -/
  | bindingsNotList
  /-- A binding of a document is no map. -/
  | bindingNotMap (found : Value)
  /-- A binding of a document carries a condition. -/
  | conditionalBinding (role : Value)
  /-- A binding of a document names no role. -/
  | unnamedRole
  /-- The members of a binding are no list. -/
  | membersNotList (role : Value)
  /-- A policy file holds something else than a map. -/
  | fileNotMap (path : String)
  /-- A policy file cannot be read as YAML. -/
  | fileNotYaml (path : String)

namespace Rejection

/-- The wording of a rejection. -/
def message : Rejection → String
  | nullMember => "The member string cannot be None."
  | memberNotText found => found.showing fun t => "IAM members must be strings, got " ++ t
  | malformedMember member => "Malformed IAM member: '" ++ member ++ "'"
  | unsupportedMemberKind kind member =>
    "Unsupported IAM member type '" ++ kind ++ "' in '" ++ member ++ "'"
  | nullMemberValue what => "The " ++ what ++ " cannot be None."
  | nullRole => "The role cannot be None."
  | nullIdentity => "None identities are not permitted."
  | nullBindings => "The provided map of bindings cannot be None."
  | nullIdentitySet => "A role cannot be assigned to a None set of identities."
  | nullDocument => "The policy resource cannot be None."
  | bindingsNotList => "Policy bindings must be a list."
  | bindingNotMap found =>
    found.showing fun t => "A policy binding must be a mapping, got " ++ t ++ "."
  | conditionalBinding role =>
    role.showing fun t => "Conditional role bindings are not supported (role " ++ t ++ ")."
  | unnamedRole => "A policy binding must name a role."
  | membersNotList role => role.showing fun t => "Members of role " ++ t ++ " must be a list."
  | fileNotMap path => "Policy file " ++ path ++ " does not contain a policy mapping"
  | fileNotYaml path => "Policy file " ++ path ++ " is not valid YAML:"

end Rejection

/-- Why a path cannot be opened or made. -/
inductive FileFault where
  /-- There is nothing at the path. -/
  | missing
  /-- The path is a directory. -/
  | isDirectory
  /-- A part of the path that should be a directory is a file. -/
  | notDirectory
  /-- There is already something else at the path. -/
  | exists
  /-- The path, or a name in it, is too long. -/
  | nameTooLong
deriving DecidableEq, Repr

namespace FileFault

/-- The number of a file fault. -/
def code : FileFault → Nat
  | missing => 2
  | isDirectory => 21
  | notDirectory => 20
  | .exists => 17
  | nameTooLong => 36

/-- The wording of a file fault. -/
def text : FileFault → String
  | missing => "No such file or directory"
  | isDirectory => "Is a directory"
  | notDirectory => "Not a directory"
  | .exists => "File exists"
  | nameTooLong => "File name too long"

end FileFault

/-- What can go wrong. -/
inductive Failure where
  /-- An argument or a document breaks a rule. -/
  | rejected (cause : Rejection)
  /-- A resource name is of no supported form. -/
  | unsupportedResource (name : String)
  /-- No member is given where at least one is needed. -/
  | noMembers
  /-- A member kind is unknown. -/
  | unknownKind (kind : Value)
  /-- A text is not read as an integer, or an integer is not written. -/
  | badInteger (cause : IntegerFault)
  /-- A text is no decimal numeral. -/
  | badFloat (found : String)
  /-- Bytes are no decimal integer numeral. -/
  | badIntegerBytes (found : List UInt8)
  /-- The value that is no number has no integer part. -/
  | notANumber
  /-- An infinity has no integer part. -/
  | infinite
  /-- An integer is too large for what it should become. -/
  | tooLarge
  /-- A date or moment is out of range. -/
  | calendar (cause : CalendarError)
  /-- Bytes of a file are no UTF-8 text. -/
  | encoding (bad : BadBytes)
  /-- A number is the code point of no character. -/
  | noSuchCharacter
  /-- A text to be encoded holds a half of a pair. -/
  | halfCharacter
  /-- A path cannot be used. -/
  | file (cause : FileFault) (path : String)
  /-- A path that no file system can hold. -/
  | badPath
  /-- An operation met a value of a kind that it cannot use. -/
  | wrongKind
  /-- An operation asked a value for a part that values of its kind do not have. -/
  | noSuchPart
  /-- A word is in no table of words. -/
  | unknownWord
  /-- A text is too short. -/
  | tooShort
  /-- A document is nested too deep, or without end. -/
  | tooDeep
  /-- The service answered with an error. -/
  | service (status : Int) (reason : String)
  /-- No default credentials can be found. -/
  | noCredentials
  /-- A closing tag in console text closes nothing. -/
  | markup
  /-- The user interrupted the work. -/
  | interrupted

namespace Failure

/-- The wording of a failed date or moment. -/
def calendarMessage : CalendarError → String
  | .year n => "year " ++ toString n ++ " is out of range"
  | .month => "month must be in 1..12"
  | .day => "day is out of range for month"
  | .hour => "hour must be in 0..23"
  | .minute => "minute must be in 0..59"
  | .second => "second must be in 0..59"
  | .offset minutes =>
    "offset must be a timedelta strictly between -timedelta(hours=24) and timedelta(hours=24), not "
      ++ Moment.spanTerm minutes ++ "."

/-- The wording of an encoding failure. -/
def encodingMessage (bad : BadBytes) : String :=
  "'utf-8' codec can't decode "
    ++ (if bad.first = bad.last then
          "byte 0x" ++ String.ofList (Text.hex 2 bad.byte.toNat) ++ " in position "
            ++ toString bad.first
        else "bytes in position " ++ toString bad.first ++ "-" ++ toString bad.last)
    ++ ": " ++ bad.cause.text

/-- The wording of a failure. Failures that are no one's to word have none. -/
def message : Failure → String
  | rejected cause => cause.message
  | unsupportedResource name => "Unsupported resource_name: " ++ name
  | noMembers => "At least one member is required"
  | unknownKind kind => kind.showing fun t => t ++ " is not a valid IdentityType"
  | badInteger cause => cause.message
  | badFloat found => "could not convert string to float: " ++ Text.quoted found
  | badIntegerBytes found =>
    "invalid literal for int() with base 10: "
      ++ String.ofList ((Text.quotedBytes found).toList.take 200)
  | notANumber => "cannot convert float NaN to integer"
  | infinite => "cannot convert float infinity to integer"
  | calendar cause => calendarMessage cause
  | encoding bad => encodingMessage bad
  | noSuchCharacter => "chr() arg not in range(0x110000)"
  | file cause path =>
    "[Errno " ++ toString cause.code ++ "] " ++ cause.text ++ ": " ++ Text.quoted path
  | badPath => "embedded null byte"
  | service _ reason => reason
  | tooLarge | halfCharacter | wrongKind | noSuchPart | unknownWord | tooShort | tooDeep
  | noCredentials | markup | interrupted => ""

/-- Whether a failure is one that a command reports in a line of its own before it ends. -/
def isExpected : Failure → Bool
  | rejected _ | unsupportedResource _ | noMembers | unknownKind _ | badInteger .. | badFloat _
  | badIntegerBytes _ | notANumber | calendar _ | encoding _ | noSuchCharacter | halfCharacter
  | file .. | badPath => true
  | _ => false

end Failure

end AccessPolicy
