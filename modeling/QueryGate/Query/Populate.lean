import QueryGate.Value.Basic
import QueryGate.Text.Quoted
/-!
Relations to load along with documents. A relation is named alone or with options: the fields to keep
of the related documents and the relations to load along with those. Options that are absent are left
out of the written form, so that they differ from options that are empty.
-/

namespace QueryGate.Query

inductive Populate where
  | options (path : String) (select : Option (List String)) (populate : Option (List Populate))

instance : Inhabited Populate := ⟨.options "" none none⟩

inductive Relation where
  | named (name : String)
  | populated (options : Populate)

def textList (texts : List String) : Value := .list (texts.map Value.text)

def selectEntry : Option (List String) → Entries
  | none => []
  | some fields => [(.text "select", textList fields)]

namespace Populate

mutual

def toValue : Populate → Value
  | .options path select populate =>
    .map ((.text "path", .text path) :: selectEntry select ++ nestedEntry populate)

def nestedEntry : Option (List Populate) → Entries
  | none => []
  | some nested => [(.text "populate", .list (toValues nested))]

def toValues : List Populate → List Value
  | [] => []
  | first :: others => toValue first :: toValues others

end

def bracketed (literals : List String) : String := "[" ++ ", ".intercalate literals ++ "]"

def selectLiteral : Option (List String) → String
  | none => "None"
  | some fields => bracketed (fields.map Text.quote)

mutual

def literal : Populate → String
  | .options path select populate =>
    "PopulateOptions(path=" ++ Text.quote path ++ ", select=" ++ selectLiteral select ++
      ", populate=" ++ nestedLiteral populate ++ ")"

def nestedLiteral : Option (List Populate) → String
  | none => "None"
  | some nested => bracketed (literals nested)

def literals : List Populate → List String
  | [] => []
  | first :: others => literal first :: literals others

end

end Populate

namespace Relation

def toValue : Relation → Value
  | .named name => .text name
  | .populated options => options.toValue

def literal : Relation → String
  | .named name => Text.quote name
  | .populated options => options.literal

end Relation

def populateSpec (relations : List Relation) : List Value := relations.map Relation.toValue

def relationsLiteral : Option (List Relation) → String
  | none => "None"
  | some relations => Populate.bracketed (relations.map Relation.literal)

end QueryGate.Query
