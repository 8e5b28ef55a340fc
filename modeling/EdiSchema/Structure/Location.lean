import EdiSchema.Storage.Path
import EdiSchema.Structure.Basic

/-!
# Where a structure is saved

A structure lies in the folder of its revision under the name of its document.
-/

namespace EdiSchema.Message

/-- The path of the saved structure below a folder. -/
def path (message : Message) (folder : String) : String :=
  Path.join (Path.join folder message.revision) (message.document ++ ".json")

end EdiSchema.Message
