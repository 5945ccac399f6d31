import HandleHeap.Record.Field

/-!
# The fields of objects and shapes

Where each field of an object record and of a shape record is stored. `Field.catalogue` lists
them all, objects first, by offset.
-/

namespace HandleHeap

namespace ObjectField

def classId : Field .object .u16 := ⟨0, "class_id", by decide⟩
/-- Whether properties may be added. -/
def extensible : Field .object .flag := ⟨2, "extensible", by decide⟩
def fastArray : Field .object .flag := ⟨3, "fast_array", by decide⟩
/-- Whether property access goes through operations of the object's own. -/
def isExotic : Field .object .flag := ⟨4, "is_exotic", by decide⟩
def isConstructor : Field .object .flag := ⟨5, "is_constructor", by decide⟩
/-- Whether the prototype may not be replaced. -/
def immutableProto : Field .object .flag := ⟨6, "immutable_proto", by decide⟩
/-- The shape of the object, null if it has none. -/
def shape : Field .object .handle := ⟨8, "shape", by decide⟩
/-- The property array of the object, null if it has none. -/
def props : Field .object .handle := ⟨16, "props", by decide⟩
def weakrefCount : Field .object .u32 := ⟨24, "weakref_count", by decide⟩
def arrayCount : Field .object .u32 := ⟨28, "array_count", by decide⟩
/-- The element array of the object, null until the first push. -/
def arrayValues : Field .object .handle := ⟨32, "array_values", by decide⟩

end ObjectField

namespace ShapeField

def proto : Field .shape .handle := ⟨0, "proto", by decide⟩
def hashNext : Field .shape .handle := ⟨8, "hash_next", by decide⟩
/-- The hash that selects the bucket. -/
def hash : Field .shape .u32 := ⟨16, "hash", by decide⟩
def propCount : Field .shape .u32 := ⟨20, "prop_count", by decide⟩
def deletedPropCount : Field .shape .u32 := ⟨24, "deleted_prop_count", by decide⟩
/-- The number of property slots an object with this shape starts with. -/
def propSize : Field .shape .u32 := ⟨28, "prop_size", by decide⟩
def isHashed : Field .shape .flag := ⟨32, "is_hashed", by decide⟩

end ShapeField

structure SomeField where
  layout : Layout
  scalar : Scalar
  field : Field layout scalar

/-- All fields, objects first, by offset. -/
def Field.catalogue : List SomeField :=
  [⟨_, _, ObjectField.classId⟩, ⟨_, _, ObjectField.extensible⟩, ⟨_, _, ObjectField.fastArray⟩,
    ⟨_, _, ObjectField.isExotic⟩, ⟨_, _, ObjectField.isConstructor⟩,
    ⟨_, _, ObjectField.immutableProto⟩, ⟨_, _, ObjectField.shape⟩, ⟨_, _, ObjectField.props⟩,
    ⟨_, _, ObjectField.weakrefCount⟩, ⟨_, _, ObjectField.arrayCount⟩,
    ⟨_, _, ObjectField.arrayValues⟩, ⟨_, _, ShapeField.proto⟩, ⟨_, _, ShapeField.hashNext⟩,
    ⟨_, _, ShapeField.hash⟩, ⟨_, _, ShapeField.propCount⟩, ⟨_, _, ShapeField.deletedPropCount⟩,
    ⟨_, _, ShapeField.propSize⟩, ⟨_, _, ShapeField.isHashed⟩]

end HandleHeap
