import PsetCompiler.Checked
import PsetCompiler.Files.Tree
import PsetCompiler.Guid
import PsetCompiler.Stage
import PsetCompiler.Text.Digit
import PsetCompiler.Text.Quoted

/-!
# Failures

Why a computation gives no result. A definition file that does not have the shape of one is a
failure that a batch reports and passes over; the others end the run.

## Main definitions

* `FormatError` — what is wrong with the shape of a definition file.
* `Refusal` — what is refused.
* `Failure` — why there is no result.
* `Failure.message?` — the text of a failure, where it has one of its own.
-/

namespace PsetCompiler

/-- What is wrong with the shape of a definition file. -/
inductive FormatError where
  /-- The root element, here by its name, has no name of its own. -/
  | namelessSet (root : String)
  /-- The root element is neither a property set nor a quantity set. -/
  | unexpectedRoot (file root : String)
  /-- A property of the set has no name. -/
  | namelessProperty (set : String)
  /-- A quantity of the set has no name. -/
  | namelessQuantity (set : String)
deriving DecidableEq, Repr

/-- The text of a format error. -/
def FormatError.message : FormatError → String
  | .namelessSet root => "<" ++ root ++ "> without Name"
  | .unexpectedRoot file root => file ++ ": unexpected root element <" ++ root ++ ">"
  | .namelessProperty set => set ++ ": PropertyDef without Name"
  | .namelessQuantity set => set ++ ": QtoDef without Name"

/-- What is refused. -/
inductive Refusal where
  /-- The inputs of a stage. -/
  | stage (stage : Stage)
  /-- A number that has too many digits to be written. -/
  | written
  /-- So many digits, which are too many to be read as a number. -/
  | read (digits : Nat)
deriving DecidableEq, Repr

/-- The text of a refusal. -/
def Refusal.message : Refusal → String
  | .stage s => "[" ++ s.name ++ "] Input validation failed"
  | .written => limit ++ advice
  | .read digits => limit ++ ": value has " ++ toString digits ++ " digits" ++ advice
where
  limit : String :=
    "Exceeds the limit (" ++ toString Text.digitLimit ++ " digits) for integer string conversion"
  advice : String := "; use sys.set_int_max_str_digits() to increase the limit"

/-- Why a computation gives no result. -/
inductive Failure where
  /-- A text that should spell an identifier spells none. -/
  | guid (error : GuidError)
  /-- A parameter is to be written that has no identifier. -/
  | noGuid (parameter : String)
  /-- A stage refuses its inputs, or a number has too many digits. -/
  | refusedInputs (refusal : Refusal)
  /-- A complex property is to be classified. -/
  | complexClassified (place : String)
  /-- A complex property is to become an entry of the initializer. -/
  | complexEntry (place : String)
  /-- A definition file does not have the shape of one. -/
  | format (error : FormatError)
  /-- A document is not well formed. -/
  | malformedMarkup
  /-- A document cannot be read, or holds octets that are not in its encoding. -/
  | unreadableMarkup
  /-- The name of an element keeps a colon, so it is not the name of anything. -/
  | invalidName (name : String)
  /-- A text file holds octets that are not UTF-8. -/
  | undecodable
  /-- A file operation is refused. -/
  | file (error : FileError)
  /-- A record has problems. -/
  | invalid (problems : List Problem)
  /-- Settings of some record are not a map but a value of some other kind. -/
  | settingsShape (record kind : String)
  /-- Settings are not written as they should be. -/
  | settingsSyntax
  /-- A file of settings holds a character that none may hold. -/
  | settingsCharacter
  /-- A path names no stage. -/
  | unknownModule (error : ModuleError)
  /-- The declarations of a schema are not there. -/
  | unknownSchema (name : String)
  /-- An argument is not the JSON text that it should be. -/
  | argumentSyntax
  /-- An argument is a JSON text of a value of the wrong kind. -/
  | argumentShape
  /-- An argument is a JSON text of a list whose items are not all pairs. -/
  | argumentPairs
  /-- A log level is unknown. -/
  | unknownLevel
deriving DecidableEq, Repr

/-- The text of a failure, where it has one of its own. -/
def Failure.message? : Failure → Option String
  | .guid error => some error.message
  | .noGuid parameter => some ("Parameter " ++ parameter ++ " has no GUID assigned")
  | .refusedInputs refusal => some refusal.message
  | .complexClassified place =>
    some (place ++ ": complex properties are flattened before classification")
  | .complexEntry place => some (place ++ ": unexpected property type ComplexProperty")
  | .format error => some error.message
  | .invalidName name => some ("Invalid tag name " ++ Text.quoted name)
  | .settingsShape record kind =>
    some (record ++ "() argument after ** must be a mapping, not " ++ kind)
  | .unknownModule error => some error.message
  | _ => none

end PsetCompiler
