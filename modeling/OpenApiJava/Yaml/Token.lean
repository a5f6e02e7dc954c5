import OpenApiJava.Yaml.Mark

/-!
# YAML tokens

What a stream is made of, in order: its marks, the ends of its collections and its scalars.
-/

namespace OpenApiJava.Yaml

inductive Token where
  | directive (directive : Directive)
  | documentStart
  | documentEnd
  | streamEnd
  | blockSequenceStart
  | blockMappingStart
  | blockEnd
  | flowSequenceStart
  | flowSequenceEnd
  | flowMappingStart
  | flowMappingEnd
  | blockEntry
  | flowEntry
  | key
  | value
  | alias (name : String)
  | anchor (name : String)
  | tag (tag : WrittenTag)
  | scalar (text : String) (plain : Bool)

end OpenApiJava.Yaml
