import TableAtlas.Schema.Distinct
import TableAtlas.Schema.Basic
import TableAtlas.Source.Section

/-!
# Descriptions

The description of an object gathers what a schema says about its entity: the
extensions that contribute to it, the relations that start at it and the
relations that lead to it.  An object is looked up by its id or by a name.
-/

namespace TableAtlas

open TableAtlas.Text TableAtlas.Source

/-- An object with everything that its schema says about its entity. -/
structure Description where
  table : TableObject
  extendedBy : List String
  references : List Relation
  referencedBy : List Relation
deriving DecidableEq, Repr

namespace Description

/-- Whether an object other than the described one, as far as ids tell, extends
the same entity. -/
def isContributor (table other : TableObject) : Bool :=
  other.isExtension && sameName other.entityName table.entityName && other.id != table.id

/-- The description of an object of a schema.  Of several relations with the
same ends the first is listed. -/
def ofObject (schema : Schema) (table : TableObject) : Description :=
  let entity := lowercase table.entityName
  { table := table
    extendedBy := (schema.objects.filter (isContributor table)).map (·.name)
    references :=
      distinctBy
        (fun relation => (lowercase relation.sourceField, lowercase relation.targetEntity))
        (schema.relations.filter fun relation => lowercase relation.sourceEntity == entity)
    referencedBy :=
      distinctBy
        (fun relation => (lowercase relation.sourceEntity, lowercase relation.sourceField))
        (schema.relations.filter fun relation => lowercase relation.targetEntity == entity) }

end Description

/-- The id that a query stands for, if it is a number of 64 bits in ASCII digits,
possibly with a plus sign. -/
def queryId? (query : List Char) : Option Nat :=
  match query with
  | '+' :: digits => parseId digits
  | digits => parseId digits

namespace Schema

def objectWithId? (schema : Schema) (id : Nat) : Option TableObject :=
  schema.objects.find? fun object => object.id == id

/-- The first table of a name in any case, or else the first extension that
contributes to an entity of that name. -/
def objectNamed? (schema : Schema) (name : String) : Option TableObject :=
  let sought := lowercase name
  (schema.objects.find? fun object => object.isTable && lowercase object.name == sought).or
    (schema.objects.find? fun object =>
      object.isExtension && lowercase object.entityName == sought)

/-- The object that a query asks for.  A query that is a number asks for an id
only; blanks around it do not matter. -/
def find? (schema : Schema) (query : String) : Option TableObject :=
  let trimmed := trim query.toList
  match queryId? trimmed with
  | some id => schema.objectWithId? id
  | none => schema.objectNamed? (String.ofList trimmed)

end Schema

end TableAtlas
