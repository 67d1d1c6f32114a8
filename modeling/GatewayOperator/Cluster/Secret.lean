/-
This file holds Secrets and ConfigMaps. The values of a Secret are bytes; its text data is a
second, write-only way to give values.
-/

import GatewayOperator.Cluster.Metadata

namespace GatewayOperator

/-- A Secret. -/
structure Secret where
  data : Option (Map (List UInt8)) := none
  immutable : Option Bool := none
  metadata : ObjectMeta := {}
  stringData : Option (Map String) := none
  kind : Option String := none
  deriving DecidableEq, Inhabited

/-- The JSON form of `Secret`. -/
def Secret.codec : Codec Secret :=
  Codec.object "Secret"
    (.cons (Member.constant "apiVersion" "v1") <|
     .cons (Member.constant "kind" "Secret") <|
     .cons (Member.optional "data" (Codec.map Codec.bytes)) <|
     .cons (Member.optional "immutable" Codec.boolean) <|
     .cons (Member.filled "metadata" ObjectMeta.codec {}) <|
     .cons (Member.optional "stringData" (Codec.map Codec.text)) <|
     .cons (Member.optional "type" Codec.text) .nil)
    (fun record => ((), (), record.data, record.immutable, record.metadata, record.stringData,
      record.kind, ()))
    (fun (_, _, data, immutable, metadata, stringData, kind, ()) =>
      { data, immutable, metadata, stringData, kind })

theorem Secret.codec_lawful : Secret.codec.Lawful :=
  Codec.object_lawful ⟨Member.constant_lawful _ _, Member.constant_lawful _ _,
    Member.optional_lawful (Codec.map_lawful Codec.bytes_lawful),
    Member.optional_lawful Codec.boolean_lawful, Member.filled_lawful ObjectMeta.codec_lawful,
    Member.optional_lawful (Codec.map_lawful Codec.text_lawful),
    Member.optional_lawful Codec.text_lawful, trivial⟩
    (by decide) (fun _ => rfl)

/-- A ConfigMap. -/
structure ConfigMap where
  binaryData : Option (Map (List UInt8)) := none
  data : Option (Map String) := none
  immutable : Option Bool := none
  metadata : ObjectMeta := {}
  deriving DecidableEq, Inhabited

/-- The JSON form of `ConfigMap`. -/
def ConfigMap.codec : Codec ConfigMap :=
  Codec.object "ConfigMap"
    (.cons (Member.constant "apiVersion" "v1") <|
     .cons (Member.constant "kind" "ConfigMap") <|
     .cons (Member.optional "binaryData" (Codec.map Codec.bytes)) <|
     .cons (Member.optional "data" (Codec.map Codec.text)) <|
     .cons (Member.optional "immutable" Codec.boolean) <|
     .cons (Member.filled "metadata" ObjectMeta.codec {}) .nil)
    (fun record => ((), (), record.binaryData, record.data, record.immutable, record.metadata,
      ()))
    (fun (_, _, binaryData, data, immutable, metadata, ()) =>
      { binaryData, data, immutable, metadata })

theorem ConfigMap.codec_lawful : ConfigMap.codec.Lawful :=
  Codec.object_lawful ⟨Member.constant_lawful _ _, Member.constant_lawful _ _,
    Member.optional_lawful (Codec.map_lawful Codec.bytes_lawful),
    Member.optional_lawful (Codec.map_lawful Codec.text_lawful),
    Member.optional_lawful Codec.boolean_lawful,
    Member.filled_lawful ObjectMeta.codec_lawful, trivial⟩
    (by decide) (fun _ => rfl)

end GatewayOperator
