import Typesmith.Synthesis.Dart
import Typesmith.Synthesis.Go
import Typesmith.Synthesis.TypeScript

/-! # Targets

A target is a language and the package of the service, by which one language qualifies names.
-/

namespace Typesmith

structure Target where
  language : Language
  package : String
deriving DecidableEq, Repr

namespace Target

open Synthesis

variable (target : Target)

def fieldName (name : String) : String :=
  match target.language with
  | .go => Go.fieldName name
  | .typescript => TypeScript.fieldName name
  | .dart => Dart.fieldName name

def typeName (tag : Tag) : String :=
  match target.language with
  | .go => Go.typeName tag
  | .typescript => TypeScript.typeName tag
  | .dart => Dart.typeName tag

def comment (description : String) : String :=
  Naming.commentLines target.language.commentMarker description

def declare (field : Field) : String :=
  match target.language with
  | .go => Go.declare field
  | .typescript => TypeScript.declare field
  | .dart => Dart.declare field

def declareFields (fields : List Field) : String :=
  "\n".intercalate (fields.map target.declare)

def renderLiteral (value : Literal) : String :=
  match target.language with
  | .go => Go.render target.package true value
  | .typescript => TypeScript.render value
  | .dart => Dart.render value

def renderAttribute (name : String) (value : Literal) : String :=
  match target.language with
  | .go => Go.renderAttribute target.package name value
  | .typescript => TypeScript.renderAttribute name value
  | .dart => Dart.renderAttribute name value

end Target

end Typesmith
