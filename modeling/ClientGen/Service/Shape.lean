import ClientGen.Checked
import ClientGen.Service

/-!
# The record shape of a service

A service can be given as a record with the service's own field names. Each shape checks
its fields in declared order; entries with other names are ignored. The parts of a
record that hold further records are passed in, so that a reader that has built them
already can use the same shapes.
-/
namespace ClientGen

open Check

namespace Header

/-- Shape of a header. -/
def ofRecord (r : Record) : Checked Header :=
  Header.mk <$> entry r "name" text <*> entry r "value" text

end Header

namespace EnumValue

/-- Shape of an enum value. -/
def ofRecord (r : Record) : Checked EnumValue :=
  EnumValue.mk <$> entry r "name" text <*> entryOr r "description" none optionalText

end EnumValue

namespace EnumType

/-- Shape of an enum around its values. -/
def around (r : Record) (values : Checked (List EnumValue)) : Checked EnumType :=
  EnumType.mk <$> entry r "name" text <*> values <*> entryOr r "description" none optionalText

/-- Shape of an enum. -/
def ofRecord (r : Record) : Checked EnumType :=
  around r (entryOr r "values" [] (list (record EnumValue.ofRecord)))

end EnumType

namespace Field

/-- Shape of a field. -/
def ofRecord (r : Record) : Checked Field :=
  Field.mk <$> entry r "name" text <*> entry r "type" text
    <*> entryOr r "required" true truth <*> entryOr r "default" none optionalText
    <*> entryOr r "description" none optionalText

end Field

namespace ModelType

/-- Shape of a model around its fields. -/
def around (r : Record) (fields : Checked (List Field)) : Checked ModelType :=
  ModelType.mk <$> entry r "name" text <*> fields <*> entryOr r "description" none optionalText

/-- Shape of a model. -/
def ofRecord (r : Record) : Checked ModelType :=
  around r (entryOr r "fields" [] (list (record Field.ofRecord)))

end ModelType

namespace UnionType

/-- Shape of a union. -/
def ofRecord (r : Record) : Checked UnionType :=
  UnionType.mk <$> entry r "name" text <*> entryOr r "types" [] (list text)
    <*> entryOr r "description" none optionalText

end UnionType

namespace Parameter

/-- Shape of a parameter. -/
def ofRecord (r : Record) : Checked Parameter :=
  Parameter.mk <$> entry r "name" text <*> entryOr r "type" "string" text
    <*> entryOr r "location" .query (listed Location.ofText?)
    <*> entryOr r "required" true truth <*> entryOr r "default" none optionalText
    <*> entryOr r "description" none optionalText

end Parameter

namespace Response

/-- Shape of a response. -/
def ofRecord (r : Record) : Checked Response :=
  Response.mk <$> entry r "code" integer <*> entryOr r "type" "unit" text
    <*> entryOr r "optional" false truth

end Response

namespace Operation

/-- Shape of an operation around its parameters and responses. -/
def around (r : Record) (parameters : Checked (List Parameter))
    (responses : Checked (List Response)) : Checked Operation :=
  Operation.mk <$> entry r "method" (listed Verb.ofText?) <*> entry r "path" text
    <*> entryOr r "body" none optionalText <*> parameters <*> responses
    <*> entryOr r "description" none optionalText

/-- Shape of an operation. -/
def ofRecord (r : Record) : Checked Operation :=
  around r (entryOr r "parameters" [] (list (record Parameter.ofRecord)))
    (entryOr r "responses" [] (list (record Response.ofRecord)))

end Operation

namespace Resource

/-- Shape of a resource around its operations. -/
def around (r : Record) (operations : Checked (List Operation)) : Checked Resource :=
  Resource.mk <$> entry r "type" text <*> entry r "plural" text
    <*> entryOr r "path" none optionalText <*> operations
    <*> entryOr r "description" none optionalText

/-- Shape of a resource. -/
def ofRecord (r : Record) : Checked Resource :=
  around r (entryOr r "operations" [] (list (record Operation.ofRecord)))

end Resource

namespace Service

/-- Shape of a service around its sections. -/
def around (r : Record) (headers : Checked (List Header)) (enums : Checked (List EnumType))
    (models : Checked (List ModelType)) (unions : Checked (List UnionType))
    (resources : Checked (List Resource)) : Checked Service :=
  Service.mk <$> entry r "name" text <*> entryOr r "namespace" none optionalText
    <*> entryOr r "base_url" none optionalText <*> entryOr r "description" none optionalText
    <*> headers <*> enums <*> models <*> unions <*> resources

/-- Shape of a service. -/
def ofRecord (r : Record) : Checked Service :=
  around r (entryOr r "headers" [] (list (record Header.ofRecord)))
    (entryOr r "enums" [] (list (record EnumType.ofRecord)))
    (entryOr r "models" [] (list (record ModelType.ofRecord)))
    (entryOr r "unions" [] (list (record UnionType.ofRecord)))
    (entryOr r "resources" [] (list (record Resource.ofRecord)))

end Service

end ClientGen
