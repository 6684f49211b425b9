import PatternMachine.Text.Difference.Readable
import PatternMachine.Text.Difference.Script

/-!
# The difference between two texts

A difference is shown as one text in which removed and added parts are marked.
-/

namespace PatternMachine
namespace Text

/-- An edit with the marks of what is removed and added. -/
def Edit.marked (edit : Edit UInt8) : List UInt8 :=
  match edit.change with
  | .kept => edit.items
  | .removed => bytesOf "[-" ++ edit.items ++ bytesOf "-]"
  | .added => bytesOf "\x7b+" ++ edit.items ++ bytesOf "+\x7d"

/-- How one text differs from another. -/
def difference (old new : String) : String :=
  ofBytes ((Readable.ofEdits (Script.find old.toList new.toList)).flatMap Edit.marked)

end Text
end PatternMachine
