import DatasetService.Json.Printer
import DatasetService.Json.Record

set_option autoImplicit false

/- The JSON form of a type: how its values are written, and what is read as one. -/
namespace DatasetService.Json

structure Form (α : Type) where
  /-- What the text must look like before its values are looked at. -/
  shape : Shape
  encode : α → Value
  decode : Value → Option α

namespace Form

variable {α : Type}

/-- The text of a value. -/
def write (form : Form α) (value : α) : String := (form.encode value).compact

/-- The value that a text denotes, if it denotes one. -/
def read? (form : Form α) (text : String) : Option α :=
  match parseShape form.shape (Text.bytesOf text) with
  | .ok value => form.decode value
  | .error _ => none

/-- What is read from a written form is the value that was written. -/
def Lawful (form : Form α) : Prop := ∀ value, form.decode (form.encode value) = some value

/-- One of several names. -/
def choice (name : α → String) (ofName? : String → Option α) : Form α where
  shape := .choice
  encode := fun value => .string (name value)
  decode := fun value => (asChoice? value).bind ofName?

theorem choice_lawful (name : α → String) (ofName? : String → Option α)
    (h : ∀ value, ofName? (name value) = some value) : (choice name ofName?).Lawful := by
  intro value
  simp [choice, asChoice?, h]

end Form

def ofOptional (value : Option String) : Value :=
  match value with
  | some text => .string text
  | none => .null

end DatasetService.Json
