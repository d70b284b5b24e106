import ForumPost.Dialect
import ForumPost.Json
import ForumPost.Site

/-!
# Settings in JSON

The JSON forms of a dialect and of a site, and the values that are read back
as one.
-/

namespace ForumPost

namespace Dialect

/-- A dialect in JSON is its name. -/
def toJson (dialect : Dialect) : Json :=
  .string dialect.id

/-- The dialect of exactly the given name. -/
def ofExactId? (name : Text) : Option Dialect :=
  all.find? fun dialect => dialect.id == name

/-- Reads a dialect: its name, or an object with the name as its only field
and nothing in it. -/
def ofJson? : Json → Option Dialect
  | .string name => ofExactId? name
  | .object [(name, .null)] => ofExactId? name
  | _ => none

/-- A dialect is read back from its JSON form. -/
theorem ofJson?_toJson (dialect : Dialect) : ofJson? dialect.toJson = some dialect := by
  cases dialect <;> decide

end Dialect

namespace Site

/-- A site in JSON: its two texts as fields. -/
def toJson (site : Site) : Json :=
  .object [
    ("site_name".toList, .string site.name),
    ("open_game_license_url".toList, .string site.licenseUrl)]

/-- Reads a site: an object with both texts, whatever its other fields, or the
list of the two texts. -/
def ofJson? : Json → Option Site
  | .array [.string name, .string licenseUrl] => some { name, licenseUrl }
  | value => do
    let name ← (← value.field? "site_name").text?
    let licenseUrl ← (← value.field? "open_game_license_url").text?
    return { name, licenseUrl }

/-- A site is read back from its JSON form. -/
theorem ofJson?_toJson (site : Site) : ofJson? site.toJson = some site := by
  cases site
  rfl

end Site

end ForumPost
