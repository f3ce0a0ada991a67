import DatasetService.Format.Basic
import DatasetService.Number.Literal
import DatasetService.Text.Split

set_option autoImplicit false

/- The header `Accept`: media ranges with weights. Entries whose weight is not positive are
refusals and say nothing else. -/
namespace DatasetService.Accept

/-- A positive weight. -/
inductive Weight
  | finite (value : Binary)
  | infinite
deriving DecidableEq, Repr

def Weight.le : Weight → Weight → Bool
  | _, .infinite => true
  | .infinite, .finite _ => false
  | .finite left, .finite right => left.magnitudeLe right

/-- What the text of a weight denotes: a number that is not positive, or a weight. -/
def weight? (value : Literal.Real) : Option Weight :=
  match value with
  | .notANumber => none
  | .infinite negative => if negative then none else some .infinite
  | .decimal negative digits exponent =>
      match Binary.ofDecimal .single negative digits exponent with
      | none => if negative then none else some .infinite
      | some number => if negative || number.isZero then none else some (.finite number)

/-- The weight of an entry that gives none. -/
def one : Literal.Real := .decimal false 1 0

/-- One entry of the header: a media range and its weight as written. -/
structure Entry where
  range : List Char
  weight : Literal.Real
deriving DecidableEq, Repr

/-- The weight that a parameter gives, if it is one that does. -/
def parameterWeight? (parameter : List Char) : Option Literal.Real :=
  (Text.dropStart? ['q', '='] (Text.trim parameter)).bind fun value =>
    Literal.real? (Text.trim value)

/-- An entry without a media range is none. The first parameter that gives a weight counts. -/
def entry? (text : List Char) : Option Entry :=
  match Text.splitAt ';' text with
  | [] => none
  | range :: parameters =>
      let range := Text.trim range
      if range.isEmpty then none
      else some { range, weight := (parameters.findSome? parameterWeight?).getD one }

def entries (accept : List Char) : List Entry := (Text.splitAt ',' accept).filterMap entry?

/-- The entries that are no refusals, with their weights. -/
def ranges (accept : List Char) : List (List Char × Weight) :=
  (entries accept).filterMap fun entry =>
    (weight? entry.weight).map fun weight => (entry.range, weight)

/-- The formats that the header names, in order, with their weights. -/
def namedFormats (accept : List Char) : List (Format × Weight) :=
  (ranges accept).filterMap fun range =>
    (Format.ofMediaTypeChars? range.1).map fun format => (format, range.2)

/-- Keep the better of two: the first unless the second is heavier. -/
def better (best : Option (Format × Weight)) (next : Format × Weight) :
    Option (Format × Weight) :=
  match best with
  | some kept => if next.2.le kept.2 then some kept else some next
  | none => some next

/-- The format of greatest weight, the first of several. -/
def preferred? (accept : String) : Option Format :=
  ((namedFormats accept.toList).foldl better none).map Prod.fst

/-- Whether a media range admits a format: by name, as `*/*`, or as the type of its content
with any subtype. -/
def rangeAdmits (format : Format) (range : List Char) : Bool :=
  let range := Text.lower range
  match Text.dropEnding? ['/', '*'] range with
  | some ['*'] => true
  | some topLevel => topLevel == format.topLevel
  | none => Format.ofMediaTypeChars? range == some format

/-- Whether some range of the header admits a format. -/
def admits (accept : String) (format : Format) : Bool :=
  (ranges accept.toList).any fun range => rangeAdmits format range.1

end DatasetService.Accept
