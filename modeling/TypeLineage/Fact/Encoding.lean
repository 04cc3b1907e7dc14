import TypeLineage.Fact.Basic
import TypeLineage.Json.Basic

/-! # Facts as JSON

    `TypeFact.toJson` leaves out what is empty: a missing superclass, empty
    lists and empty maps.  `TypeFact.ofJson` reads such an object, where null
    and a missing member both stand for what was left out. -/

namespace TypeLineage

/-- The texts in an array; nothing for any other value. -/
def Json.texts (v : Json) : List String :=
  match v with
  | .array items => items.filterMap Json.string?
  | _ => []

/-- The member under a key as a list of texts; empty where it is missing. -/
def Json.textsAt (v : Json) (key : String) : List String :=
  ((v.get? key).map Json.texts).getD []

/-- The member under a key as a text; empty where it is missing. -/
def Json.textAt (v : Json) (key : String) : String :=
  ((v.get? key).bind Json.string?).getD ""

/-- The member under a key, for every text member of an object there. -/
def Json.bindingsAt (v : Json) (key : String) : List (String × String) :=
  match v.get? key with
  | some (.object members) => members.filterMap fun m => m.2.string?.map (m.1, ·)
  | _ => []

/-- A map of texts. -/
def Json.ofBindings (bindings : List (String × String)) : Json :=
  .object (bindings.map fun b => (b.1, .string b.2))

namespace Method

/-- A method with all its members. -/
def toJson (m : Method) : Json :=
  .object [
    ("name", .string m.name),
    ("returnType", .string m.returnType),
    ("parameterTypes", .ofStrings m.parameterTypes),
    ("isStatic", .bool m.isStatic)]

/-- A method whose parameters may be missing and that is static only if it
    says so. -/
def ofJson (v : Json) : Method :=
  { name := v.textAt "name"
    returnType := v.textAt "returnType"
    parameterTypes := v.textsAt "parameterTypes"
    isStatic := ((v.get? "isStatic").bind Json.bool?).getD false }

end Method

namespace TypeFact

/-- A member, unless its list is empty. -/
def nonEmptyMember {α : Type} (key : String) (items : List α) (encode : List α → Json) :
    List (String × Json) :=
  if items.isEmpty then [] else [(key, encode items)]

/-- The members of a fact's object. -/
def members (f : TypeFact) : List (String × Json) :=
  [("name", .string f.name), ("library", .string f.library)]
    ++ (f.superclass.map fun s => ("superclass", Json.string s)).toList
    ++ nonEmptyMember "interfaces" f.interfaces .ofStrings
    ++ nonEmptyMember "mixins" f.mixins .ofStrings
    ++ nonEmptyMember "typeParameters" f.typeParameters .ofStrings
    ++ nonEmptyMember "genericArguments" f.genericArguments .ofBindings
    ++ nonEmptyMember "methods" f.methods (fun ms => .array (ms.map Method.toJson))
    ++ nonEmptyMember "properties" f.properties .ofStrings

/-- A fact without what is empty in it. -/
def toJson (f : TypeFact) : Json := .object f.members

/-- A fact in which null, or nothing, stands for what is empty. -/
def ofJson (v : Json) : TypeFact :=
  { name := v.textAt "name"
    library := v.textAt "library"
    superclass := superclassOf ((v.get? "superclass").bind Json.string?)
    interfaces := v.textsAt "interfaces"
    mixins := v.textsAt "mixins"
    typeParameters := v.textsAt "typeParameters"
    genericArguments := v.bindingsAt "genericArguments"
    methods := (((v.get? "methods").bind Json.array?).getD []).map Method.ofJson
    properties := v.textsAt "properties" }

end TypeFact

end TypeLineage
