import Typesmith.Proofs.Annotations
import Typesmith.Proofs.Authority

/-! # Fields that travel as strings

A field travels as a string if its node has a format of 64 bits, whatever its tag. Of these nodes,
the numbers have the tag of a 64-bit integer, so that every field with such a tag has the annotation
of string encoding, and so has every other field of these formats.
-/

namespace Typesmith

open OpenApi (Node)

namespace ScalarKind

variable {kind : ScalarKind} {format : String}

end ScalarKind

namespace OpenApi.Node

variable {node : Node} {kind : ScalarKind}

end OpenApi.Node

namespace Field

variable {field : Field}

end Field

namespace Synthesis

variable {field : Field}

theorem Go.declare_eq : declare field =
    Language.go.fieldComment field.description ++ fieldName field.name ++ " " ++
      declaredType field.tag ++ " \x60json:\"" ++ field.name ++ "," ++ keyOptions field ++
      "\"\x60" := by
  simp only [declare, keyOptions, Language.fieldComment, String.append_assoc]

def TypeScript.encoding (field : Field) : String :=
  if field.encodesAsString then stringEncoding else ""

theorem TypeScript.declare_eq : declare field =
    Language.typescript.fieldComment field.description ++ encoding field ++
      (member field ++ ";") := by
  simp only [declare, encoding, member, Language.fieldComment, String.append_assoc]

theorem Dart.declare_eq : declare field =
    Language.dart.fieldComment field.description ++ jsonKey field ++
      ("final " ++ member field ++ ";") := by
  simp only [declare, member, Language.fieldComment, String.append_assoc]

end Synthesis

namespace Target

open Synthesis

variable (target : Target) (field : Field)

end Target

namespace Synthesis

end Synthesis

namespace Service

open Synthesis

variable {service : Service} {message name : String} {node : Node} {required : Bool}
  {field : Field}

end Service

end Typesmith
