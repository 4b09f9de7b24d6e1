/-!
# Helpers of a form

The functions and components that the code of a form defines for itself below the form component:
how the message of an error is found, and how an array is shown.
-/

namespace InterfaceGen

/-- A block of code that a form may define. -/
inductive FormHelper where
  /-- Finds the message for a path. -/
  | errorAt
  /-- Finds the message for an array itself. -/
  | arrayError
  /-- Shows an array of single values. -/
  | valueArray
  /-- Shows an array of objects. -/
  | objectArray
  deriving DecidableEq, Repr

namespace FormHelper

/-- The names that a block defines. -/
def names : FormHelper → List String
  | errorAt => ["errorAt"]
  | arrayError => ["arrayError"]
  | valueArray => ["PrimitiveArrayFieldProps", "PrimitiveArrayField"]
  | objectArray => ["ObjectArrayFieldProps", "ObjectArrayField"]

/-- The lines of a block. -/
def lines : FormHelper → List String
  | errorAt => [
    "function errorAt(errors: FieldErrors<any>, path: string): string | undefined \x7b",
    "  let node: any = errors;",
    "  for (const key of path.split(\".\")) \x7b",
    "    node = node?.[key];",
    "  \x7d",
    "  const message = node?.message;",
    "  return typeof message === \"string\" ? message : undefined;",
    "\x7d"]
  | arrayError => [
    "function arrayError(errors: FieldErrors<any>, path: string): string | undefined \x7b",
    "  return errorAt(errors, path) ?? errorAt(errors, `$\x7bpath\x7d.root`);",
    "\x7d"]
  | valueArray => [
    "type PrimitiveArrayFieldProps = \x7b",
    "  name: string;",
    "  label: string;",
    "  itemType: \"string\" | \"number\" | \"boolean\" | \"unknown\";",
    "  control: Control<any>;",
    "  register: UseFormRegister<any>;",
    "  errors: FieldErrors<any>;",
    "\x7d;",
    "",
    "function PrimitiveArrayField(\x7b name, label, itemType, control, register, errors \x7d: " ++
      "PrimitiveArrayFieldProps) \x7b",
    "  const \x7b fields, append, remove \x7d = useFieldArray(\x7b control, name \x7d);",
    "  const inputType = itemType === \"number\" ? \"number\" : " ++
      "itemType === \"boolean\" ? \"checkbox\" : \"text\";",
    "  const emptyValue = itemType === \"number\" ? 0 : itemType === \"boolean\" ? false : \"\";",
    "",
    "  return (",
    "    <div className=\"field-array\">",
    "      <label>\x7blabel\x7d</label>",
    "      \x7barrayError(errors, name) && " ++
      "<p className=\"error\">\x7barrayError(errors, name)\x7d</p>\x7d",
    "      \x7bfields.map((entry, index) => (",
    "        <div key=\x7bentry.id\x7d className=\"field-array-item\">",
    "          <input",
    "            type=\x7binputType\x7d",
    "            \x7b...register(`$\x7bname\x7d.$\x7bindex\x7d`, " ++
      "itemType === \"number\" ? \x7b valueAsNumber: true \x7d : \x7b\x7d)\x7d",
    "          />",
    "          <button type=\"button\" onClick=\x7b() => remove(index)\x7d>Remove</button>",
    "          \x7berrorAt(errors, `$\x7bname\x7d.$\x7bindex\x7d`) && " ++
      "<p className=\"error\">\x7berrorAt(errors, `$\x7bname\x7d.$\x7bindex\x7d`)\x7d</p>\x7d",
    "        </div>",
    "      ))\x7d",
    "      <button type=\"button\" onClick=\x7b() => append(emptyValue)\x7d>Add</button>",
    "    </div>",
    "  );",
    "\x7d"]
  | objectArray => [
    "type ObjectArrayFieldProps = \x7b",
    "  name: string;",
    "  label: string;",
    "  control: Control<any>;",
    "  emptyItem: Record<string, unknown>;",
    "  renderItem: (prefix: string) => React.ReactNode;",
    "  errors: FieldErrors<any>;",
    "\x7d;",
    "",
    "function ObjectArrayField(\x7b name, label, control, emptyItem, renderItem, errors \x7d: " ++
      "ObjectArrayFieldProps) \x7b",
    "  const \x7b fields, append, remove \x7d = useFieldArray(\x7b control, name \x7d);",
    "",
    "  return (",
    "    <fieldset className=\"field-array\">",
    "      <legend>\x7blabel\x7d</legend>",
    "      \x7barrayError(errors, name) && " ++
      "<p className=\"error\">\x7barrayError(errors, name)\x7d</p>\x7d",
    "      \x7bfields.map((entry, index) => (",
    "        <div key=\x7bentry.id\x7d className=\"field-array-item\">",
    "          \x7brenderItem(`$\x7bname\x7d.$\x7bindex\x7d`)\x7d",
    "          <button type=\"button\" onClick=\x7b() => remove(index)\x7d>Remove</button>",
    "        </div>",
    "      ))\x7d",
    "      <button type=\"button\" onClick=\x7b() => append(emptyItem)\x7d>Add</button>",
    "    </fieldset>",
    "  );",
    "\x7d"]

end FormHelper

end InterfaceGen
