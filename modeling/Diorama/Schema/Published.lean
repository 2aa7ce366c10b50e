import Diorama.Json.Printer

namespace Diorama.Schema

inductive Outline where
  | leaf (v : Json)
  | arr (items : List Outline)
  | obj (fields : List (String × Outline))

namespace Outline

def newline (depth : Nat) : List Char := '\n' :: List.replicate (2 * depth) ' '

def block (opening closing : Char) (depth : Nat) : List (List Char) → List Char
  | [] => [opening, closing]
  | ts => opening :: Json.separate (ts.map (newline (depth + 1) ++ ·)) ++ newline depth ++ [closing]

mutual

def render (depth : Nat) : Outline → List Char
  | .leaf v => v.render
  | .arr xs => block '[' ']' depth (renderItems (depth + 1) xs)
  | .obj fs => block '\x7b' '\x7d' depth (renderFields (depth + 1) fs)

def renderItems (depth : Nat) : List Outline → List (List Char)
  | [] => []
  | x :: xs => render depth x :: renderItems depth xs

def renderFields (depth : Nat) : List (String × Outline) → List (List Char)
  | [] => []
  | (k, x) :: fs => (Json.quote k ++ ':' :: ' ' :: render depth x) :: renderFields depth fs

end

def text (o : Outline) : String := .ofList (o.render 0)

end Outline

def text (s : String) : Outline := .leaf (.str s)

def texts (ss : List String) : Outline := .arr (ss.map text)

def number (x : Float) : Outline := .leaf (.float (.ofFloat x))

def type (s : String) : String × Outline := ("type", text s)

def types (ss : List String) : String × Outline := ("type", texts ss)

def description (s : String) : String × Outline := ("description", text s)

def absent (v : Json) : String × Outline := ("default", .leaf v)

def whole (n : Integer) : Json := .num (.int n)

def reference (name : String) : Outline := .obj [("$ref", text ("#/definitions/" ++ name))]

def listOf (o : Outline) : List (String × Outline) := [type "array", ("items", o)]

def draft : String × Outline := ("$schema", text "http://json-schema.org/draft-07/schema#")

def config : Outline := .obj [
  draft,
  ("title", text "Scene Session Configuration"),
  description "Configuration for one scene runtime session",
  type "object",
  ("properties", .obj [
    ("scene_id", .obj [
      description "Identifier of the scene, shown as the prefix of system log lines",
      absent (.str "scene"),
      type "string"]),
    ("tick_rate", .obj [
      description "Simulation ticks per second",
      absent (whole ⟨30, by decide, by decide⟩),
      type "integer",
      ("format", text "uint64"),
      ("maximum", number 240),
      ("minimum", number 1)]),
    ("max_message_size", .obj [
      description ("Maximum size of one message to or from the host. Accepts numbers or strings "
        ++ "with K/M/G suffix (default: 4M)"),
      absent (.str "4M"),
      ("allOf", .arr [reference "ByteSize"])]),
    ("query_timeout_ticks", .obj [
      description "Ticks after which an unanswered host query times out. 0 disables the timeout",
      absent (whole ⟨300, by decide, by decide⟩),
      type "integer",
      ("format", text "uint32"),
      ("minimum", number 0)]),
    ("send_empty_batches", .obj [
      description "Send a batch every tick, even when it carries no operations",
      absent (.bool false),
      type "boolean"]),
    ("log_level", .obj [
      description "Log level: trace, debug, info, warn, error",
      absent (.str "info"),
      type "string",
      ("pattern", text "^(trace|debug|info|warn|error)$")])]),
  ("definitions", .obj [
    ("ByteSize", .obj [
      description ("Byte size as number or string with suffix (K=KB, M=MB, G=GB). Examples: 1024, "
        ++ "\"100K\", \"4M\", \"1G\""),
      types ["string", "integer"]])])]

def textOrNull : Outline := .obj [absent .null, types ["string", "null"]]

def someTexts : Outline := .obj (absent (.arr []) :: listOf (.obj [type "string"]))

def time : Outline := .obj [
  description "Epoch milliseconds",
  absent (whole ⟨0, by decide, by decide⟩),
  type "integer",
  ("format", text "uint64"),
  ("minimum", number 0)]

def record : Outline := .obj [
  ("title", text "Catalog Record"),
  description "Static metadata for an item that scenes can reference by id",
  type "object",
  ("required", texts ["category", "id", "representations"]),
  ("properties", .obj [
    ("id", .obj [description "Unique id of the record", type "string"]),
    ("description", .obj [absent (.str ""), type "string"]),
    ("category", .obj [description "Category, e.g. 'hat', 'upper_body', 'eyes'", type "string"]),
    ("rarity", textOrNull),
    ("tags", someTexts),
    ("hides", someTexts),
    ("replaces", someTexts),
    ("representations", .obj (listOf (reference "Representation"))),
    ("i18n", .obj (absent (.arr []) :: listOf (reference "LocalizedText"))),
    ("thumbnail", textOrNull),
    ("image", textOrNull),
    ("createdAt", time),
    ("updatedAt", time)])]

def representation : Outline := .obj [
  description "How an item looks on a given set of body shapes",
  type "object",
  ("required", texts ["bodyShapes", "contents", "mainFile"]),
  ("properties", .obj [
    ("bodyShapes", .obj (description "Body shapes this representation applies to"
      :: listOf (.obj [type "string"]))),
    ("mainFile", .obj [
      description "Model file to load, must be listed in contents",
      type "string"]),
    ("contents", .obj (listOf (reference "ContentEntry"))),
    ("overrideHides", someTexts),
    ("overrideReplaces", someTexts)])]

def contentEntry : Outline := .obj [
  description "A file shipped with a representation, addressed by content hash",
  type "object",
  ("required", texts ["file", "hash"]),
  ("properties", .obj [
    ("file", .obj [description "File name as referenced by \x60mainFile\x60", type "string"]),
    ("hash", .obj [description "Content hash used to fetch the file", type "string"])])]

def localizedText : Outline := .obj [
  description "Display string for one locale",
  type "object",
  ("required", texts ["code", "text"]),
  ("properties", .obj [
    ("code", .obj [description "Language code, e.g. \"en\" or \"es\"", type "string"]),
    ("text", .obj [type "string"])])]

def catalog : Outline := .obj [
  draft,
  ("title", text "Catalog"),
  description ("Top level shape of a catalog file\n\nEither a plain array of records or an object "
    ++ "keyed by record id."),
  ("anyOf", .arr [
    .obj (listOf (reference "CatalogRecord")),
    .obj [type "object", ("additionalProperties", reference "CatalogRecord")]]),
  ("definitions", .obj [
    ("CatalogRecord", record),
    ("Representation", representation),
    ("ContentEntry", contentEntry),
    ("LocalizedText", localizedText)])]

end Diorama.Schema
