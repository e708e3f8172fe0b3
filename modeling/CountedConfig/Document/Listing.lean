/-
The listing of a document: one item for each entry, in the order of the keys,
with every space of a value made visible by a marker.
-/
import CountedConfig.Document

namespace CountedConfig
namespace Document

/-- An entry between bars.  The key stands as it is, since it holds no blank. -/
def listEntry (marker : Text) (entry : Text × Text) : Text :=
  '|' :: entry.1 ++ "|\t:\t|".toList ++ Text.replace ' ' marker entry.2 ++ ['|']

/-- The items of the listing.  A newline of a value stays inside its item. -/
def listing (d : Document) (marker : Text) : List Text := d.entries.map (listEntry marker)

end Document
end CountedConfig
