import Diorama.Config
import Diorama.Json.Printer

namespace Diorama

structure ContentEntry where
  file : String
  hash : String
  deriving DecidableEq

structure Representation where
  bodyShapes : List String
  mainFile : String
  contents : List ContentEntry
  overrideHides : List String
  overrideReplaces : List String
  deriving DecidableEq

structure LocalizedText where
  code : String
  text : String
  deriving DecidableEq

structure Record where
  id : String
  description : String
  category : String
  rarity : Option String
  tags : List String
  hides : List String
  replaces : List String
  representations : List Representation
  i18n : List LocalizedText
  thumbnail : Option String
  image : Option String
  createdAt : Nat
  updatedAt : Nat
  deriving DecidableEq

inductive CatalogDocument where
  | list (records : List Record)
  | keyed (records : Table String Record)

namespace ContentEntry

def render (c : ContentEntry) : List Char :=
  Json.brace [("file", Json.quote c.file), ("hash", Json.quote c.hash)]

structure Seen where
  file : Option String := none
  hash : Option String := none

def field (p : Seen) (name : String) (d : Draft) : Except Fault Seen :=
  match name with
  | "file" => return { p with file := ← Draft.once p.file Draft.text d }
  | "hash" => return { p with hash := ← Draft.once p.hash Draft.text d }
  | _ => do
    d.skip
    return p

def ofDraft (d : Draft) : Except Fault ContentEntry := do
  let p ← d.record ["file", "hash"] field {}
  return ⟨← Draft.required p.file, ← Draft.required p.hash⟩

end ContentEntry

namespace LocalizedText

def render (t : LocalizedText) : List Char :=
  Json.brace [("code", Json.quote t.code), ("text", Json.quote t.text)]

structure Seen where
  code : Option String := none
  text : Option String := none

def field (p : Seen) (name : String) (d : Draft) : Except Fault Seen :=
  match name with
  | "code" => return { p with code := ← Draft.once p.code Draft.text d }
  | "text" => return { p with text := ← Draft.once p.text Draft.text d }
  | _ => do
    d.skip
    return p

def ofDraft (d : Draft) : Except Fault LocalizedText := do
  let p ← d.record ["code", "text"] field {}
  return ⟨← Draft.required p.code, ← Draft.required p.text⟩

end LocalizedText

namespace Representation

def supports (r : Representation) (shape : String) : Bool := r.bodyShapes.contains shape

def hashOf? (r : Representation) (file : String) : Option String :=
  (r.contents.find? fun c => c.file = file).map (·.hash)

def render (r : Representation) : List Char :=
  Json.brace [
    ("bodyShapes", Json.quoteAll r.bodyShapes),
    ("mainFile", Json.quote r.mainFile),
    ("contents", Json.bracket (r.contents.map ContentEntry.render)),
    ("overrideHides", Json.quoteAll r.overrideHides),
    ("overrideReplaces", Json.quoteAll r.overrideReplaces)]

structure Seen where
  bodyShapes : Option (List String) := none
  mainFile : Option String := none
  contents : Option (List ContentEntry) := none
  overrideHides : Option (List String) := none
  overrideReplaces : Option (List String) := none

def names : List String :=
  ["bodyShapes", "mainFile", "contents", "overrideHides", "overrideReplaces"]

def field (p : Seen) (name : String) (d : Draft) : Except Fault Seen :=
  let texts := Draft.list Draft.text
  match name with
  | "bodyShapes" => return { p with bodyShapes := ← Draft.once p.bodyShapes texts d }
  | "mainFile" => return { p with mainFile := ← Draft.once p.mainFile Draft.text d }
  | "contents" =>
    return { p with contents := ← Draft.once p.contents (Draft.list ContentEntry.ofDraft) d }
  | "overrideHides" => return { p with overrideHides := ← Draft.once p.overrideHides texts d }
  | "overrideReplaces" =>
    return { p with overrideReplaces := ← Draft.once p.overrideReplaces texts d }
  | _ => do
    d.skip
    return p

def ofDraft (d : Draft) : Except Fault Representation := do
  let p ← d.record names field {}
  return {
    bodyShapes := ← Draft.required p.bodyShapes
    mainFile := ← Draft.required p.mainFile
    contents := ← Draft.required p.contents
    overrideHides := p.overrideHides.getD []
    overrideReplaces := p.overrideReplaces.getD [] }

end Representation

namespace Record

def render (r : Record) : List Char :=
  Json.brace [
    ("id", Json.quote r.id),
    ("description", Json.quote r.description),
    ("category", Json.quote r.category),
    ("rarity", Json.quoteOrNull r.rarity),
    ("tags", Json.quoteAll r.tags),
    ("hides", Json.quoteAll r.hides),
    ("replaces", Json.quoteAll r.replaces),
    ("representations", Json.bracket (r.representations.map Representation.render)),
    ("i18n", Json.bracket (r.i18n.map LocalizedText.render)),
    ("thumbnail", Json.quoteOrNull r.thumbnail),
    ("image", Json.quoteOrNull r.image),
    ("createdAt", Nat.toDigits 10 r.createdAt),
    ("updatedAt", Nat.toDigits 10 r.updatedAt)]

structure Seen where
  id : Option String := none
  description : Option String := none
  category : Option String := none
  rarity : Option (Option String) := none
  tags : Option (List String) := none
  hides : Option (List String) := none
  replaces : Option (List String) := none
  representations : Option (List Representation) := none
  i18n : Option (List LocalizedText) := none
  thumbnail : Option (Option String) := none
  image : Option (Option String) := none
  createdAt : Option Nat := none
  updatedAt : Option Nat := none

def names : List String :=
  ["id", "description", "category", "rarity", "tags", "hides", "replaces", "representations",
    "i18n", "thumbnail", "image", "createdAt", "updatedAt"]

def field (p : Seen) (name : String) (d : Draft) : Except Fault Seen :=
  let texts := Draft.list Draft.text
  let textOrNull := Draft.optional Draft.text
  match name with
  | "id" => return { p with id := ← Draft.once p.id Draft.text d }
  | "description" => return { p with description := ← Draft.once p.description Draft.text d }
  | "category" => return { p with category := ← Draft.once p.category Draft.text d }
  | "rarity" => return { p with rarity := ← Draft.once p.rarity textOrNull d }
  | "tags" => return { p with tags := ← Draft.once p.tags texts d }
  | "hides" => return { p with hides := ← Draft.once p.hides texts d }
  | "replaces" => return { p with replaces := ← Draft.once p.replaces texts d }
  | "representations" =>
    return { p with
      representations := ← Draft.once p.representations (Draft.list Representation.ofDraft) d }
  | "i18n" => return { p with i18n := ← Draft.once p.i18n (Draft.list LocalizedText.ofDraft) d }
  | "thumbnail" => return { p with thumbnail := ← Draft.once p.thumbnail textOrNull d }
  | "image" => return { p with image := ← Draft.once p.image textOrNull d }
  | "createdAt" => return { p with createdAt := ← Draft.once p.createdAt Draft.nat d }
  | "updatedAt" => return { p with updatedAt := ← Draft.once p.updatedAt Draft.nat d }
  | _ => do
    d.skip
    return p

def ofDraft (d : Draft) : Except Fault Record := do
  let p ← d.record names field {}
  return {
    id := ← Draft.required p.id
    description := p.description.getD ""
    category := ← Draft.required p.category
    rarity := p.rarity.join
    tags := p.tags.getD []
    hides := p.hides.getD []
    replaces := p.replaces.getD []
    representations := ← Draft.required p.representations
    i18n := p.i18n.getD []
    thumbnail := p.thumbnail.join
    image := p.image.join
    createdAt := p.createdAt.getD 0
    updatedAt := p.updatedAt.getD 0 }

def ofJson? (v : Json) : Option Record := (ofDraft v.draft).toOption

/-- A list of records as it stands in a text, with no schema held against it. -/
def parseList (s : List Char) : Except Fault (List Record) := Draft.decode (Draft.list ofDraft) s

end Record

namespace CatalogDocument

def records : CatalogDocument → List Record
  | .list rs => rs
  | .keyed t => t.values

def size (d : CatalogDocument) : Nat := d.records.length

def isEmpty (d : CatalogDocument) : Bool := d.records.isEmpty

def render : CatalogDocument → List Char
  | .list rs => Json.bracket (rs.map Record.render)
  | .keyed t => Json.brace (t.entries.map fun e => (e.1, e.2.render))

def contentConforms : Json → Bool :=
  Schema.isObject ["file", "hash"] fun name v =>
    match name with
    | "file" | "hash" => Schema.isText v
    | _ => true

def textConforms : Json → Bool :=
  Schema.isObject ["code", "text"] fun name v =>
    match name with
    | "code" | "text" => Schema.isText v
    | _ => true

def representationConforms : Json → Bool :=
  Schema.isObject ["bodyShapes", "contents", "mainFile"] fun name v =>
    match name with
    | "bodyShapes" | "overrideHides" | "overrideReplaces" => Schema.isList Schema.isText v
    | "mainFile" => Schema.isText v
    | "contents" => Schema.isList contentConforms v
    | _ => true

def recordConforms : Json → Bool :=
  Schema.isObject ["category", "id", "representations"] fun name v =>
    match name with
    | "id" | "description" | "category" => Schema.isText v
    | "rarity" | "thumbnail" | "image" => Schema.isTextOrNull v
    | "tags" | "hides" | "replaces" => Schema.isList Schema.isText v
    | "representations" => Schema.isList representationConforms v
    | "i18n" => Schema.isList textConforms v
    | "createdAt" | "updatedAt" => Schema.isWhole (0 ≤ ·) v
    | _ => true

def conforms (v : Json) : Bool :=
  Schema.isList recordConforms v || Schema.isObject [] (fun _ => recordConforms) v

def ofJson? : Json → Option CatalogDocument
  | .arr vs => (vs.mapM Record.ofJson?).map .list
  | .obj fs => do
    let es ← fs.mapM fun f => do return (f.1, ← Record.ofJson? f.2)
    return .keyed (.ofList es)
  | _ => none

def ofJson (v : Json) : Except LoadError CatalogDocument :=
  if conforms v then
    match ofJson? v with
    | some d => .ok d
    | none => .error (.unreadable .mismatch)
  else .error .invalid

def load (s : Source) : Except LoadError CatalogDocument := do ofJson (← s.json)

end CatalogDocument

end Diorama
