import AccessorSynthesis.Keyed

/-!
# TOML values

What a TOML document can hold. Tables remember how they were written, since that decides what may
still be added to them.
-/

namespace AccessorSynthesis
namespace Toml

/-- A day of the calendar. -/
structure Date where
  year : Nat
  month : Nat
  day : Nat
deriving DecidableEq

/-- A time of day. -/
structure Time where
  hour : Nat
  minute : Nat
  second : Nat
  nanosecond : Nat
deriving DecidableEq

/-- A date, a time of day, or both, and then perhaps with an offset from UTC in minutes. -/
structure DateTime where
  date : Option Date
  time : Option Time
  offset : Option Int
deriving DecidableEq

/-- How a table was written. -/
inductive TableForm where
  /-- Between braces. -/
  | inline
  /-- Under a header of its own. -/
  | header
  /-- Only as part of the header of another table. -/
  | implied
  /-- By keys with dots. -/
  | dotted
deriving DecidableEq

/-- A value in a TOML document. -/
inductive Value where
  | string (text : String)
  | integer (value : Int)
  | float (value : Float)
  | boolean (value : Bool)
  | dateTime (value : DateTime)
  | array (items : List Value)
  | table (form : TableForm) (entries : Keyed Value)
  /-- The tables under headers in double brackets, the latest first. -/
  | tables (elements : List (Keyed Value))

end Toml
end AccessorSynthesis
