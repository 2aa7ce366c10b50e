import Diorama.Catalog.Record
import Diorama.Log.Event

namespace Diorama

structure Catalog where
  records : Table String Record

namespace Catalog

def check (r : Record) : Except CatalogFault Unit :=
  if r.id.toList.all isBlank then .error .emptyId
  else if r.representations.isEmpty then .error (.noRepresentations r.id)
  else
    match r.representations.find? fun p => (p.hashOf? p.mainFile).isNone with
    | some p => .error (.unlistedMainFile r.id p.mainFile)
    | none => .ok ()

def add (c : Catalog) (r : Record) : Except CatalogFault Catalog := do
  check r
  if c.records.contains r.id then .error (.duplicateId r.id)
  else return ⟨c.records.insert r.id r⟩

def ofRecords (rs : List Record) : Except CatalogFault Catalog := rs.foldlM add ⟨∅⟩

def matched (es : List (String × Record)) : Except CatalogFault (List Record) :=
  es.mapM fun (k, r) => if k = r.id then .ok r else .error (.keyMismatch k r.id)

def ofDocument : CatalogDocument → Except CatalogFault Catalog
  | .list rs => ofRecords rs
  | .keyed t => do ofRecords (← matched t.entries)

def get? (c : Catalog) (id : String) : Option Record := c.records.get? id

def contains (c : Catalog) (id : String) : Bool := c.records.contains id

def size (c : Catalog) : Nat := c.records.size

def isEmpty (c : Catalog) : Bool := c.records.isEmpty

def ids (c : Catalog) : List String := c.records.keys

def byCategory (c : Catalog) (category : String) : List Record :=
  c.records.values.filter fun r => r.category = category

/-- The name of a record in a language, or in English, or in the language it lists first. A record
with no name is called by its id. -/
def displayName? (c : Catalog) (id locale : String) : Option String := do
  let r ← c.get? id
  let entry := r.i18n.find? (·.code = locale) <|> r.i18n.find? (·.code = "en") <|> r.i18n.head?
  return (entry.map (·.text)).getD r.id

def representationFor? (c : Catalog) (id shape : String) : Option Representation := do
  (← c.get? id).representations.find? (·.supports shape)

def contentHash? (c : Catalog) (id shape file : String) : Option String := do
  (← c.representationFor? id shape).hashOf? file

def load (s : Source) : Except LoadError Catalog := do
  (ofDocument (← CatalogDocument.load s)).mapError .catalog

def loadedEvent (c : Catalog) : Event :=
  .say .debug Target.catalog s!"Loaded catalog with {c.size} records"

end Catalog

end Diorama
