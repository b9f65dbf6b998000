import Launchpad.Toml.Moment

/-!
Values of the TOML data format. Numbers with a fraction are told apart but not interpreted further;
the fields of a table keep the order in which they were first written.
-/

namespace Launchpad.Toml

inductive Value where
  | string (text : String)
  | integer (number : Int)
  | float (text : String)
  | boolean (value : Bool)
  | moment (moment : Moment)
  | array (items : List Value)
  | table (fields : List (String × Value))
  deriving Inhabited

abbrev Table := List (String × Value)

end Launchpad.Toml
