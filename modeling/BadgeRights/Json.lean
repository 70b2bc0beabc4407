set_option autoImplicit false

namespace BadgeRights

inductive Json where
  | null
  | bool (value : Bool)
  | integer (value : Int)
  /-- A number with a fraction, an exponent or a negative zero. -/
  | fraction (literal : String)
  | text (value : String)
  | array (items : List Json)
  /-- The entries stand as in the text, with names that repeat; codecs go by the names. -/
  | object (entries : List (String × Json))
  /-- Well formed as a text, but with an escape that stands for no character. -/
  | noText
  deriving Inhabited

end BadgeRights
