import GridRules.Error
import GridRules.Grid.Basic
import GridRules.Json.Reader
import GridRules.Text.Lowercase

/-!
# The element around a grid

The element mirrors the properties of a grid as attributes. Attribute names come without regard to
case and are resolved to the spelling of a property; attribute values are JSON. Two properties
belong to the element itself, all others are handed on to the grid once it is initialised.
-/

namespace GridRules

/-- The property that keeps columns as they are on scrolling. -/
def disableResizeProperty : String := "disableResizeOnScroll"

/-- The property that sizes columns after the first data. -/
def sizeToFitProperty : String := "sizeToFitAfterFirstDataRendered"

/-- The properties that belong to the element. -/
def elementProperties : List String := [disableResizeProperty, sizeToFitProperty]

/-- The property of the grid that is never an attribute. -/
def gridOptionsProperty : String := "gridOptions"

/-- What the host has to do after a change of an attribute. -/
inductive ElementChange where
  /-- Nothing yet: the grid is not initialised. -/
  | stored
  /-- Hand the property on to the grid. -/
  | property (name : String) (value : Value)
  /-- Build the configuration of the grid anew, as a property of the element changed. -/
  | reprocess
deriving DecidableEq

/-- An event of the grid as the element sends it out. -/
structure ElementEvent where
  /-- The name of the event. -/
  name : String
  /-- The name of the property that holds its handler. -/
  callback : String
deriving DecidableEq

/-- The element with its attributes. -/
structure Element where
  /-- The properties that may be set by attributes, in order. -/
  observed : List String
  /-- The values of the properties that were set. -/
  attributes : Dictionary Value
  /-- Whether the grid was handed its attributes. -/
  initialised : Bool
deriving DecidableEq

namespace Element

/-- An element for the properties of a grid. -/
def new (properties : List String) : Element :=
  ⟨properties.filter (· ≠ gridOptionsProperty) ++ elementProperties, .empty, false⟩

/-- The names of the attributes to observe, in lower case. -/
def observedAttributes (e : Element) : List String := e.observed.map Text.lowercase

/-- The property of an attribute name in any case; of several the last one. -/
def propertyName? (e : Element) (name : String) : Option String :=
  e.observed.reverse.find? fun p => Text.lowercase p == Text.lowercase name

/-- The value of an attribute text; no text, or an empty one, is null. -/
def attributeValue (text : Option String) : Except ReadError Value :=
  match text with
  | none => .ok .null
  | some text => if text = "" then .ok .null else Json.parse text

/-- The element after a change of an attribute, and what the host has to do. -/
def attributeChanged (e : Element) (name : String) (text : Option String) :
    Except Error (Element × ElementChange) :=
  match e.propertyName? name with
  | none => .error (.configuration (.unknownAttribute name))
  | some property =>
    match attributeValue text with
    | .error reason => .error (.json reason)
    | .ok v =>
      let after := { e with attributes := e.attributes.insert property v }
      if property ∈ elementProperties then .ok (after, .reprocess)
      else if e.initialised then .ok (after, .property property v)
      else .ok (after, .stored)

/-- The element once the grid was handed its attributes; later changes are handed on. -/
def initialise (e : Element) : Element := { e with initialised := true }

/-- The value of a property that was set. -/
def attribute? (e : Element) (property : String) : Option Value := e.attributes.get? property

/-- Whether a property is set to something true. -/
def isSet (e : Element) (property : String) : Bool := (e.attribute? property).any Value.isTruthy

/-- The settings of the element as they are set. -/
def settings (e : Element) : ElementSettings :=
  ⟨e.isSet sizeToFitProperty, e.isSet disableResizeProperty⟩

/-- The element with the settings of a grid, as if they were set by attributes. -/
def applySettings (e : Element) (s : ElementSettings) : Element :=
  let sized := e.attributes.insert sizeToFitProperty (.bool s.sizeToFitAfterFirstDataRendered)
  ⟨e.observed, sized.insert disableResizeProperty (.bool s.disableResizeOnScroll), e.initialised⟩

/-- Whether columns are sized to fit once the first data is rendered. -/
def fitsOnFirstData (e : Element) : Bool := e.settings.sizeToFitAfterFirstDataRendered

/-- Whether columns are sized to fit when the body scrolls. -/
def fitsOnScroll (e : Element) : Bool := !e.settings.disableResizeOnScroll

end Element

/-- The name of the property that holds the handler of an event of the grid. -/
def callbackName (eventType : String) : String := "on" ++ Text.lowercase eventType

/-- An event of the grid as the element sends it out. -/
def ElementEvent.ofGrid (eventType : String) : ElementEvent :=
  ⟨Text.lowercase eventType, callbackName eventType⟩

end GridRules
