import Gazette.Database.File
import Gazette.Json.Record

/-!
# Database files

`Tables.dump` writes a database as the octets of a file, and `FileContent.ofOctets` tells what the octets of a file
hold. A file is one JSON value, in which every cell has a mark that tells text from blobs.
-/

namespace Gazette.Database

open Json (Field Fields Format)

namespace Cell

def spelling : Cell → Option String
  | null => none
  | text octets => some (String.ofList ('t' :: octets.flatMap fun octet => fixedHex 2 octet.toNat))
  | blob octets => some (String.ofList ('b' :: octets.flatMap fun octet => fixedHex 2 octet.toNat))

def octets? : List Char → Option Bytes
  | [] => some []
  | high :: low :: rest => do
    let high ← hexValue? high
    let low ← hexValue? low
    let octets ← octets? rest
    return (high * 16 + low).toUInt8 :: octets
  | _ => none

def ofSpelling? : Option String → Option Cell
  | none => some null
  | some spelling =>
    match spelling.toList with
    | 't' :: digits => (octets? digits).map text
    | 'b' :: digits => (octets? digits).map blob
    | _ => none

def format : Format Cell where
  write cell := Format.text.optional.write cell.spelling
  reader := Format.text.optional.reader.refine fun spelling =>
    match ofSpelling? spelling with
    | some cell => .ok cell
    | none => .error .expectedValue

end Cell

def AuthorRow.format : Format AuthorRow :=
  (Format.record "Author"
    (.cons (.required "id" Cell.format) <|
      .cons (.required "firstName" Cell.format) <|
      .cons (.required "lastName" Cell.format) .nil)).via
    (fun (id, firstName, lastName, ()) => ⟨id, firstName, lastName⟩)
    (fun row => (row.id, row.firstName, row.lastName, ()))

def ArticleRow.format : Format ArticleRow :=
  (Format.record "Article"
    (.cons (.required "id" Cell.format) <|
      .cons (.required "authorId" Cell.format) <|
      .cons (.required "title" Cell.format) <|
      .cons (.required "content" Cell.format) <|
      .cons (.required "imageUrl" Cell.format) <|
      .cons (.required "category" Cell.format) <|
      .cons (.required "createdAt" Cell.format) <|
      .cons (.required "updatedAt" Cell.format) .nil)).via
    (fun (id, authorId, title, content, imageUrl, category, createdAt, updatedAt, ()) =>
      ⟨id, authorId, title, content, imageUrl, category, createdAt, updatedAt⟩)
    (fun row => (row.id, row.authorId, row.title, row.content, row.imageUrl, row.category, row.createdAt,
      row.updatedAt, ()))

namespace Tables

def format : Format Tables :=
  (Format.record "Tables"
    (.cons (.required "authors" (Format.list AuthorRow.format).optional) <|
      .cons (.required "articles" (Format.list ArticleRow.format).optional) .nil)).via
    (fun (authors, articles, ()) => ⟨authors, articles⟩)
    (fun tables => (tables.authors, tables.articles, ()))

def dump (tables : Tables) : Bytes := format.encode tables

end Tables

def FileContent.ofOctets (octets : Bytes) : FileContent :=
  match Tables.format.decode octets with
  | .ok tables => .database tables
  | .error _ => .ofLength octets.length

end Gazette.Database
