import DatasetService.Error
import DatasetService.Format.Accept

set_option autoImplicit false

/- Choosing the format of an answer from an explicit parameter, a suffix of the selector
and the header `Accept`. Sources that contradict one another are refused. -/
namespace DatasetService.Negotiation

/-- The source that decided. -/
inductive Source
  | byDefault
  | explicit
  | suffix
  | header
deriving DecidableEq, Repr

def Source.name : Source → String
  | .byDefault => "default"
  | .explicit => "explicit"
  | .suffix => "suffix"
  | .header => "header"

/-- The selector of a dataset's rows. -/
def bodySelector : String := "body"

/-- Split the name of a format off the end of a selector, where something precedes the
dot. Other endings belong to the selector. -/
def splitSuffix (selector : String) : String × Option String :=
  match Text.splitLast (· == '.') selector.toList with
  | some (base, ending) =>
      if !base.isEmpty && !ending.contains '/' && (Format.ofNameChars? ending).isSome then
        (String.ofList base, some (String.ofList ending))
      else (selector, none)
  | none => (selector, none)

def trimmed (text : String) : String := String.ofList (Text.trim text.toList)

/-- The explicit format and its name as given, if a name is given at all. -/
def explicitFormat (explicit : Option String) :
    Except ApiError (Option (Format × String)) :=
  match (explicit.map trimmed).filter (· != "") with
  | none => .ok none
  | some name =>
      match Format.ofName? name with
      | some format => .ok (some (format, name))
      | none => .error (.badRequest
          ("unknown format \"" ++ name ++ "\", expected json, csv or zip"))

def suffixFormat (suffix : Option String) : Option (Format × String) :=
  suffix.bind fun ending => (Format.ofName? ending).map fun format => (format, ending)

/-- What the parameter and the suffix ask for together. -/
def requested (explicit fromSuffix : Option (Format × String)) :
    Except ApiError (Option (Format × String × Source)) :=
  match explicit, fromSuffix with
  | some (format, name), some (other, ending) =>
      if format = other then .ok (some (format, name, .explicit))
      else .error (.formatConflict name ("suffix \"." ++ ending ++ "\""))
  | some (format, name), none => .ok (some (format, name, .explicit))
  | none, some (format, ending) => .ok (some (format, ending, .suffix))
  | none, none => .ok none

/-- Resolve the format. A header counts only if it names a known format; then what is
requested must be admitted by it. -/
def resolve (explicit suffix accept : Option String) : Except ApiError (Format × Source) := do
  let explicit ← explicitFormat explicit
  let chosen ← requested explicit (suffixFormat suffix)
  let fromHeader := accept.bind fun raw =>
    (Accept.preferred? raw).map fun format => (format, raw)
  match chosen, fromHeader with
  | some (format, name, source), some (_, raw) =>
      if Accept.admits raw format then .ok (format, source)
      else .error (.formatConflict name ("header \"Accept: " ++ trimmed raw ++ "\""))
  | some (format, _, source), none => .ok (format, source)
  | none, some (format, _) => .ok (format, .header)
  | none, none => .ok (.json, .byDefault)

structure Result where
  format : Format
  source : Source
  /-- The selector without the suffix. -/
  selector : Option String
deriving DecidableEq, Repr

/-- Resolve the format of a request that may have a selector. CSV that only the header
asks for is that of the body, unless a selector is given. -/
def negotiate (explicit selector accept : Option String) : Except ApiError Result := do
  let (base, suffix) := match selector with
    | some selector =>
        let parts := splitSuffix selector
        (some parts.1, parts.2)
    | none => (none, none)
  let (format, source) ← resolve explicit suffix accept
  let selector := match base with
    | none => if source = .header && format = .csv then some bodySelector else none
    | some base => some base
  return { format, source, selector }

end DatasetService.Negotiation
