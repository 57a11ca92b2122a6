import ShapeQuery.Datatype
import ShapeQuery.Json.Fault

/-!
# Values from JSON

A JSON value is decoded at a type.  The members of an object are visited in
increasing order of their names, so the first fault in that order is the one
reported.  A record is read from an object or from a list of its members in
declaration order; a missing member takes its default, or is absent where it is
optional.
-/

namespace ShapeQuery

open Json (DataFault Found)

/-- Decodes one JSON value at any type. -/
abbrev Decoder := Datatype → Except DataFault Datum

/-- The name of an integer, text or other type in messages. -/
def Datatype.wanted : Datatype → String
  | .scalar .text => "a string"
  | .scalar .boolean => "a boolean"
  | .scalar kind => kind.name
  | .character => "a character"
  | .unit => "unit"
  | .json => "any value"
  | .reference target | .boxed target | .shared target | .option target
  | .nullAsDefault target => target.wanted
  | .list _ => "a sequence"
  | .array _ length => "an array of length " ++ Nat.repr length
  | .map _ => "a map"
  | .record name => "struct " ++ name

/-- Whether an integer lies in the range of a kind. -/
def ScalarKind.holds (kind : ScalarKind) (value : Int) : Bool :=
  match kind with
  | .signed width =>
    -(Nat.pow 2 (width.bits - 1) : Int) ≤ value && value < Nat.pow 2 (width.bits - 1)
  | .unsigned width => 0 ≤ value && value < Nat.pow 2 width.bits
  | _ => false

namespace Decoding

/-- A value of the wrong type. -/
def mistyped (found : Found) (type : Datatype) : Except DataFault Datum :=
  .error (.invalidType found type.wanted)

/-- Passes through references, boxes and optional layers. -/
def throughLayers (isNull : Bool) (defaultOf : Datatype → Datum) (core : Decoder) : Decoder
  | .reference target | .boxed target | .shared target =>
    throughLayers isNull defaultOf core target
  | .option target =>
    if isNull then .ok .absent
    else (throughLayers isNull defaultOf core target).map .present
  | .nullAsDefault target =>
    if isNull then .ok (defaultOf target)
    else throughLayers isNull defaultOf core target
  | type => core type

def fromNull : Decoder
  | .unit => .ok .unit
  | .json => .ok (.json .null)
  | type => mistyped .null type

def fromBoolean (value : Bool) : Decoder
  | .scalar .boolean => .ok (.boolean value)
  | .json => .ok (.json (.boolean value))
  | type => mistyped (.boolean value) type

/-- An integer is also read as a float, rounded to its format. -/
def fromInteger (value : Int) : Decoder
  | .scalar .float64 => .ok (.floating (FloatFormat.double.ofInt value))
  | .scalar .float32 =>
    .ok (.ofSingle (FloatFormat.single.ofInt value))
  | .scalar (.signed width) =>
    if (ScalarKind.signed width).holds value then .ok (.integer value)
    else .error (.invalidValue (.integer value) (ScalarKind.signed width).name)
  | .scalar (.unsigned width) =>
    if (ScalarKind.unsigned width).holds value then .ok (.integer value)
    else .error (.invalidValue (.integer value) (ScalarKind.unsigned width).name)
  | .json => .ok (.json (.integer value))
  | type => mistyped (.integer value) type

def fromFloating (value : Floating) : Decoder
  | .scalar .float64 => .ok (.floating value)
  | .scalar .float32 =>
    .ok (.ofSingle (FloatFormat.single.convert value))
  | .json => .ok (.json (.floating value))
  | type => mistyped (.floating value) type

/-- A text of one character is also read as a character. -/
def fromText (value : String) : Decoder
  | .scalar .text => .ok (.text value)
  | .character =>
    match value.toList with
    | [only] => .ok (.character only)
    | _ => .error (.invalidValue (.text value) Datatype.character.wanted)
  | .json => .ok (.json (.text value))
  | type => mistyped (.text value) type

/-- The elements of an array of fixed length. -/
def fixedItems (element : Datatype) (length : Nat) (items : List Decoder) :
    Except DataFault (List Datum) := do
  let values ← (items.take length).mapM fun (item : Decoder) => item element
  if items.length < length then
    .error (.invalidLength items.length ("an array of length " ++ Nat.repr length))
  else if length < items.length then
    .error (.invalidLength items.length "fewer elements in array")
  else .ok values

/-- How many members a record has, for messages. -/
def elementCount (declaration : RecordDeclaration) : String :=
  let count := declaration.readFields.length
  "struct " ++ declaration.name ++ " with " ++ Nat.repr count ++
    (if count = 1 then " element" else " elements")

/-- The members of a record written as a list; `index` items stand before. -/
def positional (family : Family) (declaration : RecordDeclaration) (total : Nat) :
    Nat → List FieldDeclaration → List Decoder → Except DataFault (List (String × Datum))
  | _, [], [] => .ok []
  | _, [], _ :: _ => .error (.invalidLength total "fewer elements in array")
  | index, field :: fields, [] => do
    let value ←
      if declaration.defaulted || field.defaulted then .ok (family.default field.type)
      else .error (.invalidLength index (elementCount declaration))
    let rest ← positional family declaration total (index + 1) fields []
    return (field.wireName, value) :: rest
  | index, field :: fields, item :: items => do
    let value ← item field.type
    let rest ← positional family declaration total (index + 1) fields items
    return (field.wireName, value) :: rest

/-- Reads the members of an object that have fields; gives them by the
serialization names of the fields. -/
def gather (declaration : RecordDeclaration) (gathered : List (String × Datum)) :
    List (String × Decoder) → Except DataFault (List (String × Datum))
  | [] => .ok gathered
  | (name, decoder) :: rest =>
    match declaration.fields.find? (·.accepts name) with
    | none =>
      if declaration.closed then
        .error (.unknownMember name (declaration.readFields.map (·.wireName)))
      else gather declaration gathered rest
    | some field =>
      if (gathered.lookup field.wireName).isSome then
        .error (.duplicateMember field.wireName)
      else do
        let value ← decoder field.type
        gather declaration ((field.wireName, value) :: gathered) rest

/-- What stands for a missing member without default, if its type allows it. -/
def absentValue? : Datatype → Option Datum
  | .option _ => some .absent
  | .reference target | .boxed target | .shared target => absentValue? target
  | _ => none

/-- The value of a field behind the members of an object. -/
def settle (family : Family) (declaration : RecordDeclaration)
    (gathered : List (String × Datum)) (field : FieldDeclaration) :
    Except DataFault (String × Datum) :=
  match gathered.lookup field.wireName with
  | some value => .ok (field.wireName, value)
  | none =>
    if declaration.defaulted || field.defaulted then
      .ok (field.wireName, family.default field.type)
    else
      match absentValue? field.type with
      | some value => .ok (field.wireName, value)
      | none => .error (.missingMember field.wireName)

def fromList (family : Family) (whole : Json) (items : List Decoder) : Decoder
  | .list element => (items.mapM fun (item : Decoder) => item element).map .list
  | .array element length => (fixedItems element length items).map .list
  | .record name =>
    match family.find? name with
    | some declaration =>
      (positional family declaration items.length 0 declaration.readFields items).map .record
    | none => mistyped .list (.record name)
  | .json => .ok (.json whole)
  | type => mistyped .list type

def fromObject (family : Family) (whole : Json) (members : List (String × Decoder)) : Decoder
  | .map value => do
    let entries ← members.mapM fun (name, decoder) => do
      let decoded ← decoder value
      return (Datum.text name, decoded)
    return .map entries
  | .record name =>
    match family.find? name with
    | some declaration => do
      let gathered ← gather declaration [] members
      let settled ← declaration.readFields.mapM (settle family declaration gathered)
      return .record settled
    | none => mistyped .object (.record name)
  | .json => .ok (.json whole)
  | type => mistyped .object type

end Decoding

open Decoding

mutual

def decode (family : Family) : Json → Decoder
  | .null => throughLayers true family.default fromNull
  | .boolean value => throughLayers false family.default (fromBoolean value)
  | .integer value => throughLayers false family.default (fromInteger value)
  | .floating value => throughLayers false family.default (fromFloating value)
  | .text value => throughLayers false family.default (fromText value)
  | .list items =>
    throughLayers false family.default
      (fromList family (.list items) (decodeItems family items))
  | .object members =>
    throughLayers false family.default
      (fromObject family (.object members) (decodeMembers family members))

/-- The decoders of the items of a list. -/
def decodeItems (family : Family) : List Json → List Decoder
  | [] => []
  | item :: rest => decode family item :: decodeItems family rest

/-- The decoders of the members of an object. -/
def decodeMembers (family : Family) : List (String × Json) → List (String × Decoder)
  | [] => []
  | (name, value) :: rest => (name, decode family value) :: decodeMembers family rest

end

end ShapeQuery
