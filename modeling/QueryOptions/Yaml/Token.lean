import QueryOptions.Yaml.Directive

/-!
Tokens of a YAML text. Block collections have a token where they start and one
where they end, although nothing but the indentation shows them in the text.
-/

namespace QueryOptions.Yaml

/-- How a scalar is written. -/
inductive Style where
  | plain
  | quoted
  | block
  /-- Folded lines that are not indented, which no document may have. -/
  | outdented
  deriving DecidableEq, Repr

inductive Token where
  | directive (kind : Directive)
  | documentStart
  | documentEnd
  | blockSequence
  | blockMapping
  | blockEnd
  | openSequence
  | closeSequence
  | openMapping
  | closeMapping
  | dash
  | comma
  | key
  | value
  | anchor (name : String)
  | tag (name : TagName)
  | reference (name : String)
  | scalar (style : Style) (text : String)
  deriving DecidableEq, Repr

/-- The tokens at the start of a text. -/
structure TokenList where
  tokens : List Token
  /-- Whether the text ends after them; otherwise what follows has no tokens. -/
  complete : Bool
  deriving DecidableEq, Repr

end QueryOptions.Yaml
