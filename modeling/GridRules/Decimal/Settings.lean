import GridRules.Document.Structure

/-!
# Locales and settings of decimal columns

A locale is named by a country code and decides the separators of a number. A column with decimals
is configured by a country code and a number of decimal places.
-/

namespace GridRules

/-- The separators of a locale. -/
structure Separators where
  /-- What stands between groups of three digits. -/
  thousands : Char
  /-- What stands before the fraction. -/
  decimal : Char
deriving DecidableEq

/-- The country code that is used where none is given. -/
def defaultCountryCode : String := "en-US"

/-- The separators of the country codes that are known; a comma and a point belong to
the default. -/
def knownSeparators? (code : String) : Option Separators :=
  if code ∈ ["en", "en-US", "en-GB"] then some ⟨',', '.'⟩
  else if code ∈ ["de", "de-DE", "es-ES", "it-IT", "nl-NL", "pt-BR"] then some ⟨'.', ','⟩
  else if code ∈ ["fr", "fr-FR"] then some ⟨'\u202f', ','⟩
  else if code = "de-CH" then some ⟨'\u2019', '.'⟩
  else none

/-- The language of a country code, the part before its first hyphen. -/
def languageOf (code : String) : String := String.ofList (code.toList.takeWhile (· ≠ '-'))

/-- The separators of a country code: its own, else those of its language, else those of the
default. -/
def separatorsOf (code : String) : Separators :=
  match knownSeparators? code with
  | some s => s
  | none => (knownSeparators? (languageOf code)).getD ⟨',', '.'⟩

/-- The greatest number of decimal places that has an effect. -/
def maxDecimalPlaces : Nat := 20

/-- The settings of a column with decimals. -/
structure DecimalSettings where
  /-- The country code. -/
  countryCode : String
  /-- The number of decimal places as it is configured. -/
  places : UInt64
deriving DecidableEq

namespace DecimalSettings

/-- The settings where nothing is configured. -/
def default : DecimalSettings := ⟨defaultCountryCode, 2⟩

/-- The fields of the settings while they are decoded. -/
structure Draft where
  /-- The country code. -/
  countryCode : Option String
  /-- The number of decimal places. -/
  places : Option UInt64

/-- Takes a field into the draft. -/
def Draft.take (draft : Draft) (name : String) (d : Document) : Except ReadError Draft :=
  match name with
  | "country_code" =>
    (Document.once draft.countryCode Document.asText d).map fun x => { draft with countryCode := x }
  | _ => (Document.once draft.places Document.asCount d).map fun x => { draft with places := x }

/-- The settings that a document writes; a field that is left out has its default. -/
def decode (d : Document) : Except ReadError DecimalSettings :=
  (Document.structureOf ["country_code", "decimal_places"] 0 ⟨none, none⟩ Draft.take d).map
    fun draft => ⟨draft.countryCode.getD default.countryCode, draft.places.getD default.places⟩

/-- The settings as an object. -/
def toValue (s : DecimalSettings) : Value :=
  .object [("country_code", .string s.countryCode),
    ("decimal_places", Value.ofNat s.places.toNat s.places.toNat_lt)]

end DecimalSettings

end GridRules
